import CatalogAudit.Decimal.Shortest
import CatalogAudit.Text.Cursor
import CatalogAudit.Text.Quoted

/-!
# Failures of JSON reading

Reading a JSON text fails for one cause at one position. The message names the
cause, the line and the column; the column counts bytes since the last newline.

* `Failure.message` is the wording.
* `Number.text` writes a number that stood where another type was expected:
  integers in decimal, other numbers by their shortest decimal.
-/

namespace CatalogAudit.Json

/-- A number as it was read. -/
inductive Number
  | integer (n : Int)
  | floating (x : Binary64)
  deriving DecidableEq, Repr

/-- What was found in the place of another type. -/
inductive Found
  | null
  | boolean (b : Bool)
  | number (n : Number)
  | text (s : String)
  | sequence
  | map
  deriving DecidableEq, Repr

/-- The type that a reader expects. -/
inductive Expected
  | text
  | sequence
  | map
  /-- A map with known keys, under a name of its own. -/
  | record (name : String)
  deriving DecidableEq, Repr

/-- Why reading fails. -/
inductive Cause
  | endInValue
  | endInText
  | endInObject
  | endInList
  | expectedValue
  | expectedIdentifier
  | expectedColon
  | expectedCommaOrBrace
  | expectedCommaOrBracket
  | keyIsNoText
  | trailingComma
  | trailingCharacters
  | invalidNumber
  | numberOutOfRange
  | invalidEscape
  | endOfHexEscape
  | loneSurrogate
  | controlCharacter
  | duplicateField (name : String)
  | invalidType (found : Found) (expected : Expected)
  deriving DecidableEq, Repr

/-- A failure, with the number of bytes before the position it refers to. -/
structure Failure where
  cause : Cause
  offset : Nat
  deriving DecidableEq, Repr

/-- How the shortest decimal of a number is laid out: positionally from
    `leastPoint` to `greatestPoint` digits before the point, and otherwise with
    an exponent, which always carries a sign. -/
structure NumberLayout where
  leastPoint : Int
  greatestPoint : Int

namespace NumberLayout

/-- Numbers from `0.00001` up to sixteen digits are written positionally. -/
def standard : NumberLayout where
  leastPoint := -4
  greatestPoint := 16

/-- The digits `ds` with the decimal point behind the first `point` of them. -/
def write (layout : NumberLayout) (ds : List Char) (point : Int) : List Char :=
  let n := (ds.length : Int)
  if layout.leastPoint ≤ point ∧ point ≤ layout.greatestPoint then
    if point ≤ 0 then "0.".toList ++ List.replicate (-point).toNat '0' ++ ds
    else if n ≤ point then ds ++ List.replicate (point - n).toNat '0' ++ ".0".toList
    else ds.take point.toNat ++ ['.'] ++ ds.drop point.toNat
  else
    let exponent := point - 1
    ds.take 1 ++ (if n = 1 then [] else '.' :: ds.drop 1)
      ++ (if exponent < 0 then "e-".toList else "e+".toList) ++ Nat.toDigits 10 exponent.natAbs

end NumberLayout

/-- The text of a binary64 number. -/
def floatText (x : Binary64) : String :=
  let sign := if x.isNegative then ['-'] else []
  let magnitude :=
    if x.mantissa = 0 then "0.0".toList
    else
      let s := x.shortest
      let ds := Nat.toDigits 10 s.digits
      NumberLayout.standard.write ds (ds.length + s.power)
  String.ofList (sign ++ magnitude)

namespace Found

def describe : Found → String
  | null => "null"
  | boolean true => "boolean `true`"
  | boolean false => "boolean `false`"
  | number (.integer n) => "integer `" ++ toString n ++ "`"
  | number (.floating x) => "floating point `" ++ floatText x ++ "`"
  | text s => "string " ++ quoted s
  | sequence => "sequence"
  | map => "map"

end Found

def Expected.describe : Expected → String
  | text => "a string"
  | sequence => "a sequence"
  | map => "a map"
  | record name => "struct " ++ name

def Cause.describe : Cause → String
  | endInValue => "EOF while parsing a value"
  | endInText => "EOF while parsing a string"
  | endInObject => "EOF while parsing an object"
  | endInList => "EOF while parsing a list"
  | expectedValue => "expected value"
  | expectedIdentifier => "expected ident"
  | expectedColon => "expected `:`"
  | expectedCommaOrBrace => "expected `,` or `\x7d`"
  | expectedCommaOrBracket => "expected `,` or `]`"
  | keyIsNoText => "key must be a string"
  | trailingComma => "trailing comma"
  | trailingCharacters => "trailing characters"
  | invalidNumber => "invalid number"
  | numberOutOfRange => "number out of range"
  | invalidEscape => "invalid escape"
  | endOfHexEscape => "unexpected end of hex escape"
  | loneSurrogate => "lone leading surrogate in hex escape"
  | controlCharacter => "control character (\\u0000-\\u001F) found while parsing a string"
  | duplicateField name => "duplicate field `" ++ name ++ "`"
  | invalidType found expected =>
    "invalid type: " ++ found.describe ++ ", expected " ++ expected.describe

/-- The line, counted from one, and the number of bytes in it before the
    position with `bytes` bytes before it, when `line` and `column` belong to
    the start of the text. -/
def bytePlace : List Char → Nat → Nat → Nat → Nat × Nat
  | _, 0, line, column => (line, column)
  | [], _ + 1, line, column => (line, column)
  | x :: rest, bytes, line, column =>
    if x = '\n' then bytePlace rest (bytes - 1) (line + 1) 0
    else bytePlace rest (bytes - x.utf8Size) line (column + min x.utf8Size bytes)

/-- The message of a failure in a text. -/
def Failure.message (f : Failure) (text : String) : String :=
  let (line, column) := bytePlace text.toList f.offset 1 0
  f.cause.describe ++ " at line " ++ toString line ++ " column " ++ toString column

end CatalogAudit.Json
