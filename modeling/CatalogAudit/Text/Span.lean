import CatalogAudit.Text.Cursor

/-!
# Pieces of a text

Comments and inline tags are removed from a text in the same way: the pieces
are found from left to right, and the text outside them is kept.

* `Cursor.spans` finds the pieces.
* `textOutside` is what is left when they are removed.
-/

namespace CatalogAudit

/-- A piece of a text, from `start` up to `stop`. -/
structure Span where
  start : Cursor
  stop : Cursor

/-- The length of the piece in bytes. -/
def Span.size (s : Span) : Nat :=
  s.stop.offset - s.start.offset

/-- The pieces of a text from a position on, where `stop?` gives the end of the
    piece that begins at a position. -/
def Cursor.spans (c : Cursor) (stop? : Cursor → Option Cursor) : List Span :=
  c.scan fun start => (stop? start).map fun stop => ({ start, stop }, stop)

/-- What is left of a text from `c` on when `spans` are removed from it. -/
def textOutside (c : Cursor) : List Span → List Char
  | [] => c.after
  | s :: rest => c.upTo s.start ++ textOutside s.stop rest

end CatalogAudit
