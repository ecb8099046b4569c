import CatalogAudit.Text.Utf8
import CatalogAudit.Unicode.Character

/-!
# Quoted texts

Messages show names and texts between double quotes. Inside, a character that
would not show as itself is escaped: quotes and backslashes by a backslash,
the usual controls by a letter, and characters that are not printable or attach
to their neighbour by their code point in braces. Bytes that belong to no
character are escaped one by one.

* `quoted` writes a text in this form, `quotedBytes` any bytes.
-/

namespace CatalogAudit

/-- The digits of a number in hexadecimal, in lower case. -/
def hexadecimal (n : Nat) : List Char :=
  Nat.toDigits 16 n

/-- How a character shows between quotes. -/
def escaped (c : Char) : List Char :=
  if c = '\x00' then ['\\', '0']
  else if c = '\t' then ['\\', 't']
  else if c = '\r' then ['\\', 'r']
  else if c = '\n' then ['\\', 'n']
  else if c = '"' ∨ c = '\\' then ['\\', c]
  else if Unicode.isGraphemeExtend c ∨ ¬ Unicode.isPrintable c then
    ['\\', 'u', '\x7b'] ++ hexadecimal c.toNat ++ ['\x7d']
  else [c]

/-- A text between double quotes. -/
def quoted (text : String) : String :=
  String.ofList (['"'] ++ text.toList.flatMap escaped ++ ['"'])

/-- How a byte that belongs to no character shows between quotes: by two
    digits in upper case. -/
def escapedByte (b : UInt8) : List Char :=
  ['\\', 'x'] ++ [b.toNat / 16, b.toNat % 16].flatMap fun digit =>
    (hexadecimal digit).map Char.toUpper

/-- Bytes between double quotes. -/
def quotedBytes (bytes : List UInt8) : String :=
  String.ofList <| ['"'] ++ (Utf8.pieces bytes).flatMap (fun
    | .char c => escaped c
    | .stray bytes => bytes.flatMap escapedByte) ++ ['"']

end CatalogAudit
