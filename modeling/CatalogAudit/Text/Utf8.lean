/-!
# Bytes as text

File contents and file names are bytes, which are UTF-8 as a rule but need not
be. A sequence of bytes splits into characters and into bytes that belong to
none. A stretch of such bytes is as long as a beginning of a character that
breaks off, and otherwise one byte.

* `Utf8.decode?` reads bytes that are UTF-8 throughout.
* `Utf8.lossy` reads any bytes, with U+FFFD for each stretch that is no
  character.
-/

namespace CatalogAudit.Utf8

/-- A part of a sequence of bytes. -/
inductive Piece
  | char (c : Char)
  | stray (bytes : List UInt8)
  deriving DecidableEq, Repr

/-- The bytes of a text. -/
def encode (text : String) : List UInt8 :=
  text.toUTF8.data.toList

/-- The text that bytes are the UTF-8 form of, if there is one. -/
def decode? (bytes : List UInt8) : Option String :=
  String.fromUTF8? ⟨bytes.toArray⟩

/-- The payload of the first byte of a character, and the ranges from which
    its further bytes are taken. The range of the second byte leaves out long
    forms, surrogates and numbers beyond the last character. -/
def lead? (b : UInt8) : Option (Nat × List (UInt8 × UInt8)) :=
  if b < 0x80 then some (b.toNat, [])
  else if b < 0xC2 then none
  else if b < 0xE0 then some (b.toNat - 0xC0, [(0x80, 0xBF)])
  else if b < 0xF0 then
    some (b.toNat - 0xE0,
      [if b = 0xE0 then (0xA0, 0xBF) else if b = 0xED then (0x80, 0x9F) else (0x80, 0xBF),
        (0x80, 0xBF)])
  else if b < 0xF5 then
    some (b.toNat - 0xF0,
      [if b = 0xF0 then (0x90, 0xBF) else if b = 0xF4 then (0x80, 0x8F) else (0x80, 0xBF),
        (0x80, 0xBF), (0x80, 0xBF)])
  else none

/-- The longest beginning of `bytes` that fits the ranges one by one. -/
def fitting : List (UInt8 × UInt8) → List UInt8 → List UInt8
  | (low, high) :: ranges, b :: bytes =>
    if low ≤ b ∧ b ≤ high then b :: fitting ranges bytes else []
  | _, _ => []

/-- The piece that begins with the byte `b`, and how many of the bytes behind
    `b` belong to it. -/
def first (b : UInt8) (bytes : List UInt8) : Piece × Nat :=
  match lead? b with
  | none => (.stray [b], 0)
  | some (payload, ranges) =>
    let rest := fitting ranges bytes
    if rest.length = ranges.length then
      (.char (Char.ofNat (rest.foldl (fun n b => n * 64 + (b.toNat - 0x80)) payload)), rest.length)
    else (.stray (b :: rest), rest.length)

/-- Splits bytes into pieces. -/
def pieces : List UInt8 → List Piece
  | [] => []
  | b :: bytes =>
    let (piece, taken) := first b bytes
    piece :: pieces (bytes.drop taken)
  termination_by bytes => bytes.length
  decreasing_by simp only [List.length_drop, List.length_cons]; omega

/-- The text of any bytes. -/
def lossy (bytes : List UInt8) : String :=
  String.ofList <| (pieces bytes).map fun
    | .char c => c
    | .stray _ => '\uFFFD'

end CatalogAudit.Utf8
