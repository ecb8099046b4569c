/-!
# Positions in a text

A text is a list of characters, but its positions are counted in bytes of its
UTF-8 form, because that is what offsets in reports and tables refer to. A
`Cursor` is a position together with the characters on both sides of it, so
that looking one character back or ahead and taking a step cost nothing.

* `Cursor.next?` takes a step over the next character.
* `Cursor.seek` is the first position, from a cursor on, where a test holds.
* `Cursor.scan` walks over a text from left to right and collects what a
  recogniser finds, going on behind each find.
-/

namespace CatalogAudit

/-- The length of a text in bytes of its UTF-8 form. -/
def byteLength (text : List Char) : Nat :=
  text.foldr (fun x length => x.utf8Size + length) 0

@[simp]
theorem byteLength_nil : byteLength [] = 0 := rfl

@[simp]
theorem byteLength_cons (x : Char) (text : List Char) :
    byteLength (x :: text) = x.utf8Size + byteLength text := rfl

@[simp]
theorem byteLength_append (s t : List Char) :
    byteLength (s ++ t) = byteLength s + byteLength t := by
  induction s with
  | nil => simp
  | cons x s ih => simp [ih, Nat.add_assoc]

/-- A position between two characters of a text. -/
structure Cursor where
  /-- The characters before the position, the nearest first. -/
  before : List Char
  /-- The characters after the position. -/
  after : List Char
  /-- The number of bytes before the position. -/
  offset : Nat
  offset_eq : offset = byteLength before := by simp

namespace Cursor

/-- The start of a text. -/
def start (text : List Char) : Cursor where
  before := []
  after := text
  offset := 0

/-- The position behind `x`, which is the first character of `x :: rest`. -/
def past (c : Cursor) (x : Char) (rest : List Char) : Cursor where
  before := x :: c.before
  after := rest
  offset := x.utf8Size + c.offset
  offset_eq := by simp [c.offset_eq]

/-- The next character and the position behind it. -/
def next? (c : Cursor) : Option (Char × Cursor) :=
  match c.after with
  | [] => none
  | x :: rest => some (x, c.past x rest)

/-- The character just before the position. -/
def previous? (c : Cursor) : Option Char :=
  c.before.head?

/-- The next character, without a step over it. -/
def peek? (c : Cursor) : Option Char :=
  c.after.head?

/-- The characters between two positions of one text. -/
def upTo (c d : Cursor) : List Char :=
  c.after.take (c.after.length - d.after.length)

/-- The position behind `word`, if the text goes on with it. -/
def skip? (c : Cursor) : List Char → Option Cursor
  | [] => some c
  | x :: word =>
    match c.next? with
    | some (y, d) => if x = y then d.skip? word else none
    | none => none

/-- The first position within `steps` characters where `test` holds. -/
def seekWithin (test : Cursor → Bool) : Nat → Cursor → Option Cursor
  | 0, c => if test c then some c else none
  | steps + 1, c =>
    if test c then some c
    else match c.next? with
      | some (_, d) => seekWithin test steps d
      | none => none

/-- The first position from `c` on, the end of the text included, where `test`
    holds. -/
def seek (c : Cursor) (test : Cursor → Bool) : Option Cursor :=
  seekWithin test c.after.length c

/-- The first position from `c` on where `word` is found, and the position
    behind that. -/
def find? (c : Cursor) (word : List Char) : Option (Cursor × Cursor) :=
  match c.seek fun d => (d.skip? word).isSome with
  | some d => (d.skip? word).map fun e => (d, e)
  | none => none

/-- The next position that is the end of the text or where the next character
    does not satisfy `test`. -/
def skipWhile (c : Cursor) (test : Char → Bool) : Cursor :=
  (c.seek fun d => !(d.peek?.any test)).getD c

/-- What `recognise` finds within `steps` attempts, from left to right. A find
    comes with the position where it ends. -/
def scanWithin {α : Type} (recognise : Cursor → Option (α × Cursor)) : Nat → Cursor → List α
  | 0, _ => []
  | steps + 1, c =>
    match recognise c with
    | some (a, stop) => a :: scanWithin recognise steps stop
    | none =>
      match c.next? with
      | some (_, d) => scanWithin recognise steps d
      | none => []

/-- Everything that `recognise` finds from `c` on, from left to right and
    without overlap: the search goes on where a find ends, and one character
    further where there is none. The recogniser never finds an empty text, so
    there are at most as many attempts as positions. -/
def scan {α : Type} (c : Cursor) (recognise : Cursor → Option (α × Cursor)) : List α :=
  scanWithin recognise (c.after.length + 1) c

end Cursor

end CatalogAudit
