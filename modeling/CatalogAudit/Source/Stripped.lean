import CatalogAudit.Text.Place
import CatalogAudit.Text.Span

/-!
# Sources without their comments

Strings are looked for in a copy of the source that holds no comments, but
they are reported where they stand in the source itself. So a pass that
removes comments also keeps a table of the gaps it leaves: where each gap is
in the stripped text, and how many bytes have been removed up to and including
it.

* A markup file loses `<!-- … -->`. A script file loses `// …` up to the end of
  the line and then, in a second pass over what is left, `/* … */`; therefore
  `//` inside a string literal, in a web address for instance, cuts the rest of
  that line.
* `Stripped.toSource` moves an offset of the stripped text back through all
  passes.
* `Stripped.place?` is the place of such an offset in the source.
-/

namespace CatalogAudit

/-- How the comments of one kind begin and end. -/
inductive CommentStyle
  /-- From `opening` up to the end of the line. -/
  | line (opening : List Char)
  /-- From `opening` up to and including the next `closing`. -/
  | block (opening closing : List Char)
  deriving DecidableEq, Repr

namespace CommentStyle

/-- The end of the comment that begins at `c`. -/
def stop? : CommentStyle → Cursor → Option Cursor
  | line opening, c => (c.skip? opening).map (·.skipWhile (· != '\n'))
  | block opening closing, c =>
    match c.skip? opening with
    | some body => (body.find? closing).map (·.2)
    | none => none

/-- The comments of a text, from left to right. -/
def comments (style : CommentStyle) (text : List Char) : List Span :=
  (Cursor.start text).spans style.stop?

end CommentStyle

/-- A gap in a stripped text. -/
structure Gap where
  /-- Where the gap is, as an offset of the stripped text. -/
  position : Nat
  /-- The number of bytes removed here and before. -/
  removed : Nat
  deriving DecidableEq, Repr

/-- The gaps that the removal of `spans` leaves, when `removed` bytes were
    removed before them. -/
def gapsAfter (removed : Nat) : List Span → List Gap
  | [] => []
  | s :: rest =>
    { position := s.start.offset - removed, removed := removed + s.size }
      :: gapsAfter (removed + s.size) rest

/-- Moves an offset of the stripped text back over the gaps at or before it. -/
def offsetBefore (gaps : List Gap) (offset : Nat) : Nat :=
  match (gaps.takeWhile (·.position ≤ offset)).getLast? with
  | some gap => offset + gap.removed
  | none => offset

/-- A source without its comments. -/
structure Stripped where
  source : List Char
  text : List Char
  /-- The gaps that each pass left, the last pass first. -/
  passes : List (List Gap)

namespace Stripped

/-- A source before any pass. -/
def whole (source : List Char) : Stripped where
  source := source
  text := source
  passes := []

/-- Removes the comments of one style. -/
def remove (s : Stripped) (style : CommentStyle) : Stripped :=
  let spans := style.comments s.text
  { s with
    text := textOutside (Cursor.start s.text) spans
    passes := gapsAfter 0 spans :: s.passes }

/-- A markup file without `<!-- … -->`. -/
def markup (source : List Char) : Stripped :=
  (whole source).remove (.block "<!--".toList "-->".toList)

/-- A script file without `// …` and then without `/* … */`. -/
def script (source : List Char) : Stripped :=
  ((whole source).remove (.line "//".toList)).remove (.block "/*".toList "*/".toList)

/-- The offset in the source that corresponds to an offset of the stripped
    text. -/
def toSource (s : Stripped) (offset : Nat) : Nat :=
  s.passes.foldl (fun offset gaps => offsetBefore gaps offset) offset

/-- The place in the source that corresponds to an offset of the stripped
    text. -/
def place? (s : Stripped) (lines : LineTable) (offset : Nat) : Option Place :=
  lines.place? (s.toSource offset)

end Stripped

end CatalogAudit
