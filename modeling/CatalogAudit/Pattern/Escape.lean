import CatalogAudit.Pattern.Flags

/-!
# Characters and escapes of a pattern

The smallest parts of a pattern: blanks and comments, numbers, and what a
backslash introduces. An escape stands for a character, for a set of characters
or for a condition on the position.

* `readEscape` reads what follows a backslash.
-/

namespace CatalogAudit.Pattern

/-- What is left of a pattern behind blanks and comments, inside a comment or
    not. A comment goes up to the end of its line. -/
def skipBlanks (inComment : Bool) : List Char → List Char
  | [] => []
  | c :: rest =>
    if inComment then skipBlanks (c != '\n') rest
    else if Unicode.isWhiteSpace c then skipBlanks false rest
    else if c = '#' then skipBlanks true rest
    else c :: rest

/-- What is left behind blanks and comments, if they do not count here. -/
def Flags.skip (flags : Flags) (rest : List Char) : List Char :=
  if flags.verbose then skipBlanks false rest else rest

/-- The first characters that satisfy a test, at most `n`, and the rest. Blanks
    behind each of them do not count when the flags say so. -/
def gather (flags : Flags) (test : Char → Bool) : Nat → List Char → List Char × List Char
  | 0, rest => ([], rest)
  | _ + 1, [] => ([], [])
  | n + 1, c :: rest =>
    if test c then
      let (found, rest) := gather flags test n (flags.skip rest)
      (c :: found, rest)
    else ([], c :: rest)

def isDigit (c : Char) : Bool :=
  '0' ≤ c && c ≤ '9'

def isHexDigit (c : Char) : Bool :=
  isDigit c || ('a' ≤ c && c ≤ 'f') || ('A' ≤ c && c ≤ 'F')

/-- The value of a digit, decimal or hexadecimal. -/
def digitValue (c : Char) : Nat :=
  if isDigit c then c.toNat - '0'.toNat
  else if 'a' ≤ c then c.toNat - 'a'.toNat + 10
  else c.toNat - 'A'.toNat + 10

/-- The number that digits write in some base. -/
def numberOf (base : Nat) (digits : List Char) : Nat :=
  digits.foldl (fun n c => n * base + digitValue c) 0

/-- The character with a code point, if there is one. -/
def charOf? (n : Nat) : Option Char :=
  if n.isValidChar then some (Char.ofNat n) else none

/-- A smallest part of a pattern. -/
inductive Atom
  /-- A character; `byte` tells that it is written with two hexadecimal digits,
      which stand for a byte where Unicode is switched off. -/
  | char (c : Char) (byte : Bool)
  | set (s : CharSet)
  | look (l : Look)
  deriving DecidableEq, Repr

/-- The first 128 characters. -/
def asciiSet : CharSet :=
  .property .ascii

/-- The word characters among the first 128. -/
def asciiWord : CharSet :=
  .union (.range 'a' 'z') (.union (.range 'A' 'Z') (.union (.range '0' '9') (.single '_')))

/-- The decimal digits among the first 128. -/
def asciiDigit : CharSet :=
  .range '0' '9'

/-- The blanks among the first 128. -/
def asciiSpace : CharSet :=
  .union (.single ' ') (.range '\t' '\r')

/-- What counts as a word character under the flags. -/
def Flags.word (flags : Flags) : CharSet :=
  if flags.unicode then .word else asciiWord

/-- A set and its case variants, when the flags say so. -/
def Flags.fold (flags : Flags) (s : CharSet) : CharSet :=
  if !flags.caseless then s
  else if flags.unicode then .caseless s
  else .intersection (.caseless s) asciiSet

/-- A set or its complement. Where Unicode is switched off a complement would
    hold bytes that are no characters and is refused. -/
def Flags.negate? (flags : Flags) (negated : Bool) (s : CharSet) : Option CharSet :=
  if !negated then some s
  else if flags.unicode then some (.complement s)
  else none

/-- The class of a letter behind a backslash, which stands for the complement
    when it is a capital. -/
def letterClass? (flags : Flags) (c : Char) : Option CharSet :=
  match c.toLower with
  | 'd' => flags.negate? c.isUpper (if flags.unicode then .digit else asciiDigit)
  | 's' => flags.negate? c.isUpper (if flags.unicode then .space else asciiSpace)
  | _ => flags.negate? c.isUpper flags.word

/-- The property that the text between braces names: a name, or a name and a value with an
    operator between them. The operator `!=` is read like the others; only the capital letter
    negates a property. -/
def propertyQuery? (text : List Char) : Option Unicode.Property :=
  let valued (d e : Cursor) :=
    Unicode.Property.valued? (String.ofList ((Cursor.start text).upTo d)) (String.ofList e.after)
  match (Cursor.start text).find? ['!', '='] with
  | some (d, e) => valued d e
  | none =>
    match (Cursor.start text).find? [':'] with
    | some (d, e) => valued d e
    | none =>
      match (Cursor.start text).find? ['='] with
      | some (d, e) => valued d e
      | none => Unicode.Property.named? (String.ofList text)

/-- The set of a property, or its complement. Properties need Unicode. -/
def propertySet? (flags : Flags) (negated : Bool) (p : Unicode.Property) : Option CharSet :=
  if flags.unicode then flags.negate? negated (flags.fold (.property p)) else none

/-- Reads a property behind its letter: one more letter, or a text in braces. -/
def readProperty (flags : Flags) (negated : Bool) (rest : List Char) :
    Option (CharSet × List Char) :=
  match flags.skip rest with
  | [] => none
  | '\x7b' :: rest =>
    match gather flags (· != '\x7d') rest.length (flags.skip rest) with
    | (text, _ :: rest) =>
      ((propertyQuery? text).bind (propertySet? flags negated)).map (·, rest)
    | (_, []) => none
  | '\\' :: _ => none
  | c :: rest =>
    ((Unicode.Property.named? (String.ofList [c])).bind (propertySet? flags negated)).map (·, rest)

/-- Reads the hexadecimal digits of a character behind its letter: as many as
    `digits`, or any number in braces. -/
def readHex (flags : Flags) (digits : Nat) (rest : List Char) : Option (Atom × List Char) :=
  match flags.skip rest with
  | '\x7b' :: rest =>
    match gather flags isHexDigit rest.length (flags.skip rest) with
    | (found, '\x7d' :: rest) =>
      if found.isEmpty then none
      else (charOf? (numberOf 16 found)).map fun c => (.char c false, flags.skip rest)
    | _ => none
  | rest =>
    let (found, rest) := gather flags isHexDigit digits rest
    if found.length < digits then none
    else (charOf? (numberOf 16 found)).map fun c => (.char c (digits == 2), rest)

/-- The condition that a name in braces behind `\b` stands for. -/
def namedBoundary? (flags : Flags) (name : String) : Option Look :=
  match name with
  | "start" => some (.wordStart flags.word)
  | "end" => some (.wordEnd flags.word)
  | "start-half" => some (.wordStartHalf flags.word)
  | "end-half" => some (.wordEndHalf flags.word)
  | _ => none

def isNameChar (c : Char) : Bool :=
  ('A' ≤ c && c ≤ 'Z') || ('a' ≤ c && c ≤ 'z') || c == '-'

/-- Reads a boundary behind its letter. A brace that no name follows belongs to
    a repetition. -/
def readBoundary (flags : Flags) (rest : List Char) : Option (Look × List Char) :=
  match rest with
  | '\x7b' :: inner =>
    match flags.skip inner with
    | [] => none
    | c :: more =>
      if isNameChar c then
        match gather flags isNameChar (more.length + 1) (c :: more) with
        | (name, '\x7d' :: rest) => (namedBoundary? flags (String.ofList name)).map (·, rest)
        | _ => none
      else some (.wordBoundary flags.word, rest)
  | _ => some (.wordBoundary flags.word, rest)

/-- ASCII characters other than letters, digits and the angle brackets stand
    for themselves behind a backslash. -/
def isEscapable (c : Char) : Bool :=
  c.toNat < 128 && !c.isAlphanum && c != '<' && c != '>'

/-- Reads what follows a backslash. -/
def readEscape (flags : Flags) : List Char → Option (Atom × List Char)
  | [] => none
  | c :: rest =>
    match c with
    | 'x' => readHex flags 2 rest
    | 'u' => readHex flags 4 rest
    | 'U' => readHex flags 8 rest
    | 'p' => (readProperty flags false rest).map fun (s, rest) => (.set s, rest)
    | 'P' => (readProperty flags true rest).map fun (s, rest) => (.set s, rest)
    | 'd' | 's' | 'w' | 'D' | 'S' | 'W' => (letterClass? flags c).map fun s => (.set s, rest)
    | 'a' => some (.char '\x07' false, rest)
    | 'f' => some (.char '\x0c' false, rest)
    | 't' => some (.char '\t' false, rest)
    | 'n' => some (.char '\n' false, rest)
    | 'r' => some (.char '\r' false, rest)
    | 'v' => some (.char '\x0b' false, rest)
    | 'A' => some (.look .textStart, rest)
    | 'z' => some (.look .textEnd, rest)
    | 'b' => (readBoundary flags rest).map fun (l, rest) => (.look l, rest)
    | 'B' => some (.look (.notWordBoundary flags.word), rest)
    | '<' => some (.look (.wordStart flags.word), rest)
    | '>' => some (.look (.wordEnd flags.word), rest)
    | c => if isEscapable c then some (.char c false, rest) else none

end CatalogAudit.Pattern
