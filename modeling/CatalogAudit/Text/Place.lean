import CatalogAudit.Text.Cursor

/-!
# Lines and columns

Reports name a place in a text by its line and its column. Both count from
one; only the newline character ends a line, and columns count characters, not
bytes, so that they point at the right place in an editor.

* `LineTable.place?` finds the place of a byte offset from a table of the
  starts of all lines.
-/

namespace CatalogAudit

/-- A line and a column, both counted from one. -/
structure Place where
  line : Nat
  column : Nat
  deriving DecidableEq, Repr

/-- The positions where the lines of a text start, and the length of the text
    in bytes. -/
structure LineTable where
  starts : List Cursor
  size : Nat

/-- The position behind a newline that stands at `c`. -/
def Cursor.nextLine? (c : Cursor) : Option (Cursor × Cursor) :=
  match c.next? with
  | some ('\n', d) => some (d, d)
  | _ => none

/-- The number of characters in the first `bytes` bytes of a text, unless
    these end inside a character. -/
def charactersIn : List Char → Nat → Option Nat
  | _, 0 => some 0
  | [], _ + 1 => none
  | x :: rest, bytes =>
    if x.utf8Size ≤ bytes then (charactersIn rest (bytes - x.utf8Size)).map (· + 1) else none

namespace LineTable

/-- The table of a text: a line starts at the start of the text and behind
    every newline. -/
def ofText (text : List Char) : LineTable where
  starts := Cursor.start text :: (Cursor.start text).scan Cursor.nextLine?
  size := byteLength text

/-- The place of a byte offset. An offset beyond the end stands for the end;
    an offset inside a character has no place. -/
def place? (table : LineTable) (offset : Nat) : Option Place :=
  let offset := min offset table.size
  let passed := table.starts.takeWhile (·.offset ≤ offset)
  match passed.getLast? with
  | some start =>
    (charactersIn start.after (offset - start.offset)).map fun characters =>
      { line := passed.length, column := characters + 1 }
  | none => none

end LineTable

end CatalogAudit
