import CatalogAudit.Proofs.Source.ScriptPass
import CatalogAudit.Proofs.Text.Scan
import CatalogAudit.Source.Extraction

/-!
# Sources made of pieces

A source may be given as a list of pieces, of which some hold a string. What is
recorded for such a source can be read off the pieces: the string of each piece,
at the place behind all pieces in front of it. To show this for a strategy, it is
enough to follow its search through the stripped text, because letters tell where
that text comes from.

* `Composition`: how pieces are written, what the passes leave of them, and which
  strings they hold.
* `Composition.recordsFrom`: what is to be recorded.
* `Composition.pass_source`: what the passes leave of a source, from what they
  leave of one piece.
* `Composition.filterMap_scan`: what a search finds in the stripped text, from
  what it does at one piece.
* `Composition.records_findsFrom`, `Composition.records_scan`: what is found is
  recorded where it stands in the source.
-/

namespace CatalogAudit

/-- A letter of a stripped source tells where the text in front of it ends in the
    source. -/
theorem Stripped.toSource_of_letters {s : Stripped} {front back : List (Char × Nat)} {x : Char}
    {offset : Nat} (h : s.letters = front ++ (x, offset) :: back) :
    s.toSource (byteLength (chars front)) = offset := by
  have htext : s.text = chars front ++ x :: chars back := by
    rw [← s.map_fst_letters, h, List.map_append]
    rfl
  rw [letters, htext, located_append, List.map_append] at h
  -- The letters in front of this one are as many in both lists.
  have hlength : ((located 0 (chars front)).map fun l => (l.1, s.toSource l.2)).length
      = front.length := by
    rw [List.length_map, ← List.length_map (f := Prod.fst), map_fst_located]
    exact List.length_map _
  have hletter := (List.cons.inj (List.append_inj h hlength).2).1
  simpa using (Prod.mk.inj hletter).2

/-- How sources are made of pieces. -/
structure Composition (π : Type) where
  /-- How a piece is written. -/
  text : π → List Char
  /-- What a source without comments has of a piece. -/
  kept : π → List Char
  /-- What a source without comments has of a piece that begins at an offset, as
      letters. -/
  keptAt : Nat → π → List (Char × Nat)
  /-- The string that a piece holds. -/
  string? : π → Option (List Char)
  chars_keptAt : ∀ offset p, chars (keptAt offset p) = kept p
  /-- A piece with a string begins with a letter that is kept. -/
  begins : ∀ p t, string? p = some t → ∀ offset, ∃ x l, keptAt offset p = (x, offset) :: l

namespace Composition

variable {π : Type} (K : Composition π)

/-- The source that consists of pieces. -/
def source (pieces : List π) : List Char :=
  pieces.flatMap K.text

/-- The file that consists of pieces. -/
def file (path : String) (pieces : List π) : SourceFile where
  path := path
  content := String.ofList (K.source pieces)

/-- What a source of pieces has without its comments. -/
def keptText (pieces : List π) : List Char :=
  pieces.flatMap K.kept

/-- The letters that a source of pieces has without its comments, where the
    source begins at an offset. -/
def keptFrom (offset : Nat) : List π → List (Char × Nat)
  | [] => []
  | p :: rest => K.keptAt offset p ++ keptFrom (offset + byteLength (K.text p)) rest

/-- The strings of the pieces, where the stripped text begins at an offset. -/
def findsFrom (offset : Nat) : List π → List StringFind
  | [] => []
  | p :: rest =>
    ((K.string? p).map fun text => { offset, text }).toList
      ++ findsFrom (offset + byteLength (K.kept p)) rest

/-- What is to be recorded of pieces in a file: the string of each piece that has
    one, at the place behind what comes before the piece. -/
def recordsFrom (path : String) (before : List Char) : List π → List (String × Occurrence)
  | [] => []
  | p :: rest =>
    ((K.string? p).map fun text =>
        (String.ofList text, { file := path, place := .behind before })).toList
      ++ recordsFrom path (before ++ K.text p) rest

variable {K}

theorem source_cons (p : π) (rest : List π) : K.source (p :: rest) = K.text p ++ K.source rest :=
  List.flatMap_cons

theorem keptText_cons (p : π) (rest : List π) :
    K.keptText (p :: rest) = K.kept p ++ K.keptText rest :=
  List.flatMap_cons

theorem chars_keptFrom (offset : Nat) (pieces : List π) :
    chars (K.keptFrom offset pieces) = K.keptText pieces := by
  induction pieces generalizing offset with
  | nil => rfl
  | cons p rest ih => rw [keptFrom, chars_append, K.chars_keptAt, ih, keptText_cons]

theorem keptFrom_append (offset : Nat) (front rest : List π) :
    K.keptFrom offset (front ++ rest)
      = K.keptFrom offset front ++ K.keptFrom (offset + byteLength (K.source front)) rest := by
  induction front generalizing offset with
  | nil => rfl
  | cons p front ih =>
    rw [List.cons_append, keptFrom, keptFrom, ih, source_cons, byteLength_append, List.append_assoc,
      Nat.add_assoc]

/-- A pass that leaves what is kept of a piece in front of any other letters does
    so with all pieces. -/
theorem pass_source (pass : List (Char × Nat) → List (Char × Nat)) (hnil : pass [] = [])
    (hpiece : ∀ offset p l, pass (located offset (K.text p) ++ l) = K.keptAt offset p ++ pass l)
    (offset : Nat) (pieces : List π) :
    pass (located offset (K.source pieces)) = K.keptFrom offset pieces := by
  induction pieces generalizing offset with
  | nil => exact hnil
  | cons p rest ih => rw [source_cons, located_append, hpiece, ih, keptFrom]

/-! ### Searches -/

section Search

variable {α : Type} {recognise : Cursor → Option (α × Cursor)} {find? : α → Option StringFind}
  {At : Cursor → Prop}

variable (K recognise find? At) in
/-- A search passes over the pieces without a string and finds the others as a
    whole, where a condition holds between any two pieces. -/
structure Searches : Prop where
  pass : ∀ {c d p rest}, At c → K.string? p = none → c.Reaches (K.kept p) d →
    d.after = K.keptText rest → At d ∧ c.scan recognise = d.scan recognise
  find : ∀ {c d p t}, At c → K.string? p = some t → c.Reaches (K.kept p) d →
    At d ∧ ∃ a, recognise c = some (a, d) ∧ find? a = some { offset := c.offset, text := t }

theorem filterMap_scan (hr : Cursor.Progresses recognise) (h : K.Searches recognise find? At)
    {c : Cursor} {pieces : List π} (hat : At c) (hafter : c.after = K.keptText pieces) :
    (c.scan recognise).filterMap find? = K.findsFrom c.offset pieces := by
  induction pieces generalizing c with
  | nil =>
    -- A find takes at least one character, and there is none left.
    have hnone : recognise c = none := by
      refine Option.eq_none_iff_forall_ne_some.2 fun found hfound => ?_
      obtain ⟨w, hw, hreach⟩ := hr c found.1 found.2 hfound
      exact hw (List.append_eq_nil_iff.1 (hreach.after.symm.trans hafter)).1
    rw [Cursor.scan_eq hr, hnone, Cursor.next?_eq_none_iff.2 hafter]
    rfl
  | cons p rest ih =>
    rw [keptText_cons] at hafter
    obtain ⟨d, hd, hrest⟩ := Cursor.Reaches.exists_of_after hafter
    rw [findsFrom, ← hd.offset_eq]
    cases ht : K.string? p with
    | none =>
      obtain ⟨hat, hscan⟩ := h.pass hat ht hd hrest
      rw [hscan, ih hat hrest]
      rfl
    | some t =>
      obtain ⟨hat, a, ha, hfind⟩ := h.find hat ht hd
      rw [Cursor.scan_eq_of_some hr ha, List.filterMap_cons_some hfind, ih hat hrest]
      rfl

end Search

/-! ### Records -/

/-- The string of a piece has the place behind the pieces in front of it. -/
theorem place?_of_letters {s : Stripped} {front rest : List π} {p : π} {t : List Char}
    (hsource : s.source = K.source (front ++ p :: rest))
    (hletters : s.letters = K.keptFrom 0 (front ++ p :: rest)) (ht : K.string? p = some t) :
    s.place? (.ofText s.source) (byteLength (K.keptText front))
      = some (.behind (K.source front)) := by
  obtain ⟨x, l, hl⟩ := K.begins p t ht (0 + byteLength (K.source front))
  rw [keptFrom_append, keptFrom, hl, List.cons_append] at hletters
  have hto := Stripped.toSource_of_letters hletters
  rw [chars_keptFrom, Nat.zero_add] at hto
  rw [Stripped.place?, hto]
  exact place?_ofText (hsource.trans List.flatMap_append)

/-- If the strings of the pieces are found, they are recorded where the pieces
    stand in the source. -/
theorem records_findsFrom {s : Stripped} {path : String} (front rest : List π)
    (hsource : s.source = K.source (front ++ rest))
    (hletters : s.letters = K.keptFrom 0 (front ++ rest)) :
    Extraction.records path s (K.findsFrom (byteLength (K.keptText front)) rest)
      = K.recordsFrom path (K.source front) rest := by
  -- A piece is recorded and joins those in front, whose kept text gives the offset of
  -- the next one and whose source its place.
  induction rest generalizing front with
  | nil => rfl
  | cons p rest ih =>
    have hsplit : front ++ p :: rest = (front ++ [p]) ++ rest := by simp
    have hrest := ih (front ++ [p]) (hsplit ▸ hsource) (hsplit ▸ hletters)
    have hkept : byteLength (K.keptText (front ++ [p]))
        = byteLength (K.keptText front) + byteLength (K.kept p) := by
      rw [keptText, List.flatMap_append, byteLength_append]
      simp [keptText]
    have hfront : K.source (front ++ [p]) = K.source front ++ K.text p := by
      simp [source]
    rw [hkept, hfront] at hrest
    rw [findsFrom, recordsFrom, Extraction.records, List.filterMap_append, ← hrest]
    congr 1
    cases ht : K.string? p with
    | none => rfl
    | some t => simp [place?_of_letters hsource hletters ht]

/-- What is recorded of a source that consists of pieces. -/
theorem records_scan {s : Stripped} {path : String} {pieces : List π} {α : Type}
    {recognise : Cursor → Option (α × Cursor)} {find? : α → Option StringFind} {At : Cursor → Prop}
    (hsource : s.source = K.source pieces) (hletters : s.letters = K.keptFrom 0 pieces)
    (hr : Cursor.Progresses recognise) (h : K.Searches recognise find? At)
    (hat : At (.start s.text)) :
    Extraction.records path s (((Cursor.start s.text).scan recognise).filterMap find?)
      = K.recordsFrom path [] pieces := by
  have htext : s.text = K.keptText pieces := by
    rw [← s.map_fst_letters, hletters]
    exact chars_keptFrom 0 pieces
  rw [filterMap_scan hr h hat htext]
  exact records_findsFrom [] pieces hsource hletters

end Composition

end CatalogAudit
