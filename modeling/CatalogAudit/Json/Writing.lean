import CatalogAudit.Text.Quoted

/-!
# Writing JSON documents

A document is written over several lines, with two spaces of indentation for
each level. An empty list or object takes no lines of its own. In strings only
quotes, backslashes and control characters are escaped.

* `Value.pretty` is the text of a document.
-/

namespace CatalogAudit.Json

/-- A document to write. -/
inductive Value
  | number (n : Nat)
  | text (s : String)
  | list (items : List Value)
  | object (members : List (String × Value))

namespace Value

/-- How a character shows in a string. -/
def escaped (c : Char) : List Char :=
  if c = '"' ∨ c = '\\' then ['\\', c]
  else if c = '\x08' then ['\\', 'b']
  else if c = '\t' then ['\\', 't']
  else if c = '\n' then ['\\', 'n']
  else if c = '\x0c' then ['\\', 'f']
  else if c = '\r' then ['\\', 'r']
  else if c.toNat < 0x20 then
    ['\\', 'u', '0', '0'] ++ hexadecimal (c.toNat / 16) ++ hexadecimal (c.toNat % 16)
  else [c]

/-- A string with its quotes. -/
def writeText (s : String) : List Char :=
  '"' :: s.toList.flatMap escaped ++ ['"']

/-- A new line at some level. -/
def newLine (level : Nat) : List Char :=
  '\n' :: List.replicate (2 * level) ' '

mutual

/-- The text of a document at some level. -/
def write (level : Nat) : Value → List Char
  | number n => Nat.toDigits 10 n
  | text s => writeText s
  | list [] => ['[', ']']
  | list (v :: vs) =>
    '[' :: newLine (level + 1) ++ write (level + 1) v ++ writeItems (level + 1) vs
      ++ newLine level ++ [']']
  | object [] => ['\x7b', '\x7d']
  | object ((key, v) :: ms) =>
    '\x7b' :: newLine (level + 1) ++ writeText key ++ ": ".toList ++ write (level + 1) v
      ++ writeMembers (level + 1) ms ++ newLine level ++ ['\x7d']

/-- The items of a list behind the first one. -/
def writeItems (level : Nat) : List Value → List Char
  | [] => []
  | v :: vs => ',' :: newLine level ++ write level v ++ writeItems level vs

/-- The members of an object behind the first one. -/
def writeMembers (level : Nat) : List (String × Value) → List Char
  | [] => []
  | (key, v) :: ms =>
    ',' :: newLine level ++ writeText key ++ ": ".toList ++ write level v ++ writeMembers level ms

end

/-- The text of a document. -/
def pretty (v : Value) : String :=
  String.ofList (v.write 0)

end Value

end CatalogAudit.Json
