/-!
# General categories

Every code point has exactly one general category. The thirty categories come
in seven families, named by their first letter: letters, marks, numbers,
punctuation, symbols, separators and the rest.
-/

namespace CatalogAudit.Unicode

/-- A general category, named by its two-letter abbreviation. -/
inductive Category
  /-- Letters: uppercase, lowercase, titlecase, modifier and other. -/
  | lu | ll | lt | lm | lo
  /-- Marks: nonspacing, spacing combining and enclosing. -/
  | mn | mc | me
  /-- Numbers: decimal digits, letter numbers and other. -/
  | nd | nl | no
  /-- Punctuation: connector, dash, open, close, initial and final quote, other. -/
  | pc | pd | ps | pe | pi | pf | po
  /-- Symbols: mathematical, currency, modifier and other. -/
  | sm | sc | sk | so
  /-- Separators: space, line and paragraph. -/
  | zs | zl | zp
  /-- The rest: control, format, surrogate, private use and unassigned. -/
  | cc | cf | cs | co | cn
  deriving DecidableEq, Repr

namespace Category

def isLetter : Category → Bool
  | lu | ll | lt | lm | lo => true
  | _ => false

def isMark : Category → Bool
  | mn | mc | me => true
  | _ => false

def isNumber : Category → Bool
  | nd | nl | no => true
  | _ => false

def isSeparator : Category → Bool
  | zs | zl | zp => true
  | _ => false

def isOther : Category → Bool
  | cc | cf | cs | co | cn => true
  | _ => false

end Category

end CatalogAudit.Unicode
