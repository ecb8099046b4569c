import CatalogAudit.Unicode.CategoryRuns
import CatalogAudit.Unicode.Contributory

/-!
# Classes of characters

The character classes that identifiers, class names, regular expressions and
quoted output are made of, each derived from the general category and the
contributory properties the way the Unicode Standard derives it.

* `isWord` is the class `\w` of regular expressions: alphabetic characters,
  marks, decimal digits, connector punctuation and the two join controls.
* `isPrintable` holds of the characters that quoted output leaves as they are.
-/

namespace CatalogAudit.Unicode

/-- The general category of a code point. -/
def categoryOf (n : Nat) : Category :=
  categoryValues.getD (rank categoryStarts n - 1) .cn

def category (c : Char) : Category :=
  categoryOf c.toNat

def isAlphabetic (c : Char) : Bool :=
  (category c).isLetter || category c == .nl || alphabeticBeyondLetters.contains c.toNat

def isNumeric (c : Char) : Bool :=
  (category c).isNumber

def isDecimalDigit (c : Char) : Bool :=
  category c == .nd

/-- The twenty-five characters with the property White_Space. -/
def isWhiteSpace (c : Char) : Bool :=
  (category c).isSeparator || (9 ≤ c.toNat && c.toNat ≤ 13) || c.toNat == 0x85

/-- The zero width joiner and non-joiner. -/
def isJoinControl (c : Char) : Bool :=
  c.toNat == 0x200C || c.toNat == 0x200D

def isWord (c : Char) : Bool :=
  isAlphabetic c || (category c).isMark || isDecimalDigit c || category c == .pc
    || isJoinControl c

/-- Characters that attach to the one before them. -/
def isGraphemeExtend (c : Char) : Bool :=
  category c == .mn || category c == .me || graphemeExtendBeyondMarks.contains c.toNat

/-- Neither a separator other than the space nor in the family of controls. -/
def isPrintable (c : Char) : Bool :=
  c == ' ' || !((category c).isOther || (category c).isSeparator)

end CatalogAudit.Unicode
