import CatalogAudit.Proofs.Text.Position
import CatalogAudit.Source.Stripped

/-!
# Where stripped text comes from

A source without its comments is told by its letters: its characters, each with
the offset in the source that it is moved back to. Removing comments only drops
letters. So a stripped source has, in their order, some of the letters of the
source itself, and no offset is moved to a wrong place.

* `SpansFrom`: spans that lie one behind the other. What a search for pieces
  finds is of this form (`spansFrom_spans`).
* `Parts.map_movedBack`, `Parts.map_offsetBefore`: moving offsets back over the gaps of
  one pass.
* `letters_remove_sublist`: a pass drops letters and changes none.
* `letters_markup_sublist`, `letters_script_sublist`: so do all passes.
-/

namespace CatalogAudit

/-- The characters of a text that begins at an offset, each with its own
    offset. -/
def located (offset : Nat) : List Char → List (Char × Nat)
  | [] => []
  | x :: text => (x, offset) :: located (offset + x.utf8Size) text

theorem located_append (offset : Nat) (s t : List Char) :
    located offset (s ++ t) = located offset s ++ located (offset + byteLength s) t := by
  induction s generalizing offset with
  | nil => rfl
  | cons x s ih => simp [located, ih, Nat.add_assoc]

theorem map_fst_located (offset : Nat) (text : List Char) :
    (located offset text).map Prod.fst = text := by
  induction text generalizing offset with
  | nil => rfl
  | cons x text ih => rw [located, List.map_cons, ih]

theorem map_add_located (offset n : Nat) (text : List Char) :
    (located offset text).map (fun l => (l.1, l.2 + n)) = located (offset + n) text := by
  induction text generalizing offset with
  | nil => rfl
  | cons x text ih => simp [located, ih, Nat.add_right_comm]

theorem mem_located_iff {offset o : Nat} {text : List Char} {x : Char} :
    (x, o) ∈ located offset text
      ↔ ∃ before after, text = before ++ x :: after ∧ o = offset + byteLength before := by
  induction text generalizing offset with
  | nil => simp [located]
  | cons y text ih =>
    rw [located, List.mem_cons, ih]
    constructor
    · rintro (h | ⟨before, after, rfl, rfl⟩)
      · obtain ⟨rfl, rfl⟩ := Prod.mk.inj h
        exact ⟨[], text, rfl, rfl⟩
      · exact ⟨y :: before, after, rfl, by rw [byteLength_cons, Nat.add_assoc]⟩
    · rintro ⟨before, after, h, rfl⟩
      cases before with
      | nil =>
        obtain ⟨rfl, rfl⟩ := List.cons.inj h
        exact .inl rfl
      | cons z before =>
        obtain ⟨rfl, rfl⟩ := List.cons.inj h
        exact .inr ⟨before, after, rfl, by rw [byteLength_cons, Nat.add_assoc]⟩

theorem offset_bounds_of_mem_located {offset : Nat} {text : List Char} {l : Char × Nat}
    (h : l ∈ located offset text) : offset ≤ l.2 ∧ l.2 < offset + byteLength text := by
  obtain ⟨before, after, rfl, ho⟩ := mem_located_iff.1 (show (l.1, l.2) ∈ _ from h)
  have := utf8Size_pos l.1
  rw [ho, byteLength_append, byteLength_cons]
  omega

/-! ### Spans one behind the other -/

/-- The spans lie one behind the other from a position on. -/
def SpansFrom : Cursor → List Span → Prop
  | _, [] => True
  | c, s :: rest =>
    (∃ w, c.Reaches w s.start) ∧ (∃ w, s.start.Reaches w s.stop) ∧ SpansFrom s.stop rest

theorem SpansFrom.of_reaches {c d : Cursor} {w : List Char} (h : c.Reaches w d) {spans : List Span}
    (hs : SpansFrom d spans) : SpansFrom c spans := by
  cases spans with
  | nil => trivial
  | cons s rest =>
    obtain ⟨⟨v, hv⟩, hrest⟩ := hs
    exact ⟨⟨w ++ v, h.trans hv⟩, hrest⟩

/-- The pieces that a test finds are not empty. -/
def Consumes (stop? : Cursor → Option Cursor) : Prop :=
  ∀ c d, stop? c = some d → ∃ w, w ≠ [] ∧ c.Reaches w d

theorem Consumes.progresses {stop? : Cursor → Option Cursor} (h : Consumes stop?) :
    Cursor.Progresses fun start =>
      (stop? start).map fun stop => (({ start, stop } : Span), stop) :=
  Cursor.progresses_map h Span.mk

/-- The search for pieces goes on behind a piece, and one character further
    where there is none. -/
theorem spans_eq {stop? : Cursor → Option Cursor} (h : Consumes stop?) (c : Cursor) :
    c.spans stop? =
      match stop? c with
      | some d => { start := c, stop := d } :: d.spans stop?
      | none =>
        match c.next? with
        | some (_, e) => e.spans stop?
        | none => [] := by
  rw [Cursor.spans, Cursor.scan_eq h.progresses]
  cases stop? c <;> rfl

theorem spansFrom_spans {stop? : Cursor → Option Cursor} (h : Consumes stop?) (c : Cursor) :
    SpansFrom c (c.spans stop?) := by
  induction c using Cursor.induction_after with
  | step c ih =>
    rw [spans_eq h]
    cases hs : stop? c with
    | some d =>
      obtain ⟨w, hw, hd⟩ := h c d hs
      have := List.length_pos_iff.2 hw
      exact ⟨⟨[], .refl c⟩, ⟨w, hd⟩, ih d (by rw [hd.length_eq]; omega)⟩
    | none =>
      cases hn : c.next? with
      | some step =>
        obtain ⟨x, e⟩ := step
        have hx := Cursor.next?_eq_some_iff.1 hn
        exact (ih e (by rw [hx.length_eq]; simp)).of_reaches hx
      | none => trivial

/-! ### One pass -/

/-- The letters of a text from `c` on that lie outside the spans. -/
def lettersOutside (c : Cursor) : List Span → List (Char × Nat)
  | [] => located c.offset c.after
  | s :: rest => located c.offset (c.upTo s.start) ++ lettersOutside s.stop rest

theorem lettersOutside_sublist {c : Cursor} {spans : List Span} (h : SpansFrom c spans) :
    (lettersOutside c spans).Sublist (located c.offset c.after) := by
  induction spans generalizing c with
  | nil => exact .refl _
  | cons s rest ih =>
    obtain ⟨⟨w, hw⟩, ⟨v, hv⟩, hrest⟩ := h
    rw [lettersOutside, hw.upTo_eq, hw.after, hv.after, located_append, located_append,
      ← hw.offset_eq, ← hv.offset_eq]
    exact .append_left ((ih hrest).trans (List.sublist_append_right _ _)) _

/-- Moves an offset back over gaps behind which `removed` bytes are missing
    already. -/
def movedBack (removed : Nat) (gaps : List Gap) (offset : Nat) : Nat :=
  match (gaps.takeWhile (·.position ≤ offset)).getLast? with
  | some gap => offset + gap.removed
  | none => offset + removed

theorem movedBack_zero (gaps : List Gap) (offset : Nat) :
    movedBack 0 gaps offset = offsetBefore gaps offset := by
  rw [movedBack, offsetBefore]
  cases (gaps.takeWhile (·.position ≤ offset)).getLast? <;> rfl

theorem movedBack_cons_of_le {removed offset : Nat} {gap : Gap} (gaps : List Gap)
    (h : gap.position ≤ offset) :
    movedBack removed (gap :: gaps) offset = movedBack gap.removed gaps offset := by
  have htake : (gap :: gaps).takeWhile (·.position ≤ offset)
      = gap :: gaps.takeWhile (·.position ≤ offset) :=
    List.takeWhile_cons_of_pos (decide_eq_true h)
  rw [movedBack, htake, movedBack]
  cases gaps.takeWhile (·.position ≤ offset) with
  | nil => rfl
  | cons g rest => rw [List.getLast?_cons_cons, List.getLast?_cons]

theorem movedBack_cons_of_lt {removed offset : Nat} {gap : Gap} (gaps : List Gap)
    (h : offset < gap.position) : movedBack removed (gap :: gaps) offset = offset + removed := by
  rw [movedBack, List.takeWhile_cons_of_neg (by simpa using h)]
  rfl

/-- A way to list what texts consist of, each part with its offset. -/
structure Parts (α : Type) where
  list : Nat → List Char → List (α × Nat)
  list_append : ∀ offset s t,
    list offset (s ++ t) = list offset s ++ list (offset + byteLength s) t
  map_add : ∀ offset n text,
    (list offset text).map (fun l => (l.1, l.2 + n)) = list (offset + n) text
  bounds : ∀ {offset text l}, l ∈ list offset text →
    offset ≤ l.2 ∧ l.2 < offset + byteLength text

namespace Parts

/-- Texts consist of letters. -/
def letters : Parts Char where
  list := located
  list_append := located_append
  map_add := map_add_located
  bounds := offset_bounds_of_mem_located

variable {α : Type} (p : Parts α)

/-- The parts of a text from `c` on that lie outside the spans. -/
def outside (c : Cursor) : List Span → List (α × Nat)
  | [] => p.list c.offset c.after
  | s :: rest => p.list c.offset (c.upTo s.start) ++ outside s.stop rest

/-- The parts of the text outside spans, in which `removed` bytes before `c` are
    missing, are moved back to where they stand in the whole text. -/
theorem map_movedBack {c : Cursor} {spans : List Span} (h : SpansFrom c spans)
    {removed : Nat} (hr : removed ≤ c.offset) :
    (p.list (c.offset - removed) (textOutside c spans)).map
        (fun l => (l.1, movedBack removed (gapsAfter removed spans) l.2))
      = p.outside c spans := by
  induction spans generalizing c removed with
  | nil =>
    rw [textOutside, outside]
    exact (p.map_add _ _ _).trans (by rw [Nat.sub_add_cancel hr])
  | cons s rest ih =>
    obtain ⟨⟨w, hw⟩, ⟨v, hv⟩, hrest⟩ := h
    have hstart := hw.offset_eq
    have hstop := hv.offset_eq
    have hsize : s.size = byteLength v := by rw [Span.size, hstop, Nat.add_sub_cancel_left]
    have hpos : c.offset - removed + byteLength w = s.start.offset - removed := by omega
    rw [textOutside, outside, gapsAfter, hw.upTo_eq, p.list_append, List.map_append]
    congr 1
    · -- In front of the gap nothing but the earlier pieces is missing.
      refine Eq.trans (List.map_congr_left fun l hl => ?_)
        ((p.map_add _ removed w).trans (by rw [Nat.sub_add_cancel hr]))
      have hlt := (p.bounds hl).2
      rw [movedBack_cons_of_lt _ (show l.2 < s.start.offset - removed by omega)]
    · -- Behind the gap the piece itself is missing as well.
      have hle : removed + s.size ≤ s.stop.offset := by omega
      have hoff : c.offset - removed + byteLength w = s.stop.offset - (removed + s.size) := by
        omega
      rw [← ih hrest hle, hoff]
      refine List.map_congr_left fun l hl => ?_
      have hge := (p.bounds hl).1
      rw [movedBack_cons_of_le _ (show s.start.offset - removed ≤ l.2 by omega)]

end Parts

theorem lettersOutside_eq (c : Cursor) (spans : List Span) :
    lettersOutside c spans = Parts.letters.outside c spans := by
  induction spans generalizing c with
  | nil => rfl
  | cons s rest ih =>
    rw [lettersOutside, Parts.outside, ih]
    rfl

/-! ### All passes -/

/-- What a comment begins with. -/
def CommentStyle.opening : CommentStyle → List Char
  | line opening => opening
  | block opening _ => opening

theorem CommentStyle.consumes {style : CommentStyle} (h : style.opening ≠ []) :
    Consumes style.stop? := by
  intro c d hd
  cases style with
  | line opening =>
    obtain ⟨e, he, rfl⟩ := Option.map_eq_some_iff.1 hd
    exact ⟨_, List.append_ne_nil_of_left_ne_nil h _,
      (Cursor.skip?_eq_some_iff.1 he).trans (e.reaches_skipWhile _)⟩
  | block opening closing =>
    rw [stop?] at hd
    split at hd
    · rename_i e he
      obtain ⟨⟨f, g⟩, hf, rfl⟩ := Option.map_eq_some_iff.1 hd
      obtain ⟨⟨w, hw⟩, hc⟩ := Cursor.find?_eq_some hf
      exact ⟨opening ++ (w ++ closing), List.append_ne_nil_of_left_ne_nil h _,
        (Cursor.skip?_eq_some_iff.1 he).trans (hw.trans hc)⟩
    · cases hd

/-- The parts of what a pass leaves are moved back to where they stand in the text. -/
theorem Parts.map_offsetBefore {α : Type} (p : Parts α) {style : CommentStyle}
    (h : style.opening ≠ []) (text : List Char) :
    (p.list 0 (textOutside (.start text) (style.comments text))).map
        (fun l => (l.1, offsetBefore (gapsAfter 0 (style.comments text)) l.2))
      = p.outside (.start text) (style.comments text) := by
  have hspans := spansFrom_spans (CommentStyle.consumes h) (.start text)
  have hmoved := p.map_movedBack hspans (Nat.zero_le _)
  simp only [movedBack_zero] at hmoved
  exact hmoved

namespace Stripped

/-- The characters of a stripped source, each with the offset in the source
    that corresponds to it. -/
def letters (s : Stripped) : List (Char × Nat) :=
  (located 0 s.text).map fun l => (l.1, s.toSource l.2)

theorem letters_whole (source : List Char) : (whole source).letters = located 0 source :=
  map_add_located 0 0 source

theorem map_fst_letters (s : Stripped) : s.letters.map Prod.fst = s.text := by
  rw [letters, List.map_map]
  exact map_fst_located 0 s.text

/-- A pass keeps the letters outside the comments. -/
theorem letters_remove (s : Stripped) {style : CommentStyle} (h : style.opening ≠ []) :
    (s.remove style).letters
      = (lettersOutside (.start s.text) (style.comments s.text)).map
        fun l => (l.1, s.toSource l.2) := by
  rw [lettersOutside_eq, ← Parts.letters.map_offsetBefore h, List.map_map]
  rfl

theorem letters_remove_sublist (s : Stripped) {style : CommentStyle} (h : style.opening ≠ []) :
    (s.remove style).letters.Sublist s.letters := by
  rw [letters_remove s h]
  exact (lettersOutside_sublist (spansFrom_spans (CommentStyle.consumes h) _)).map _

theorem letters_markup_sublist (source : List Char) :
    (markup source).letters.Sublist (located 0 source) :=
  letters_whole source ▸ letters_remove_sublist _ (by decide)

theorem letters_script_sublist (source : List Char) :
    (script source).letters.Sublist (located 0 source) :=
  letters_whole source ▸
    (letters_remove_sublist _ (by decide)).trans (letters_remove_sublist _ (by decide))

/-- A character of a stripped source stands in the source where it is moved back
    to. -/
theorem exists_source_of_sublist {s : Stripped} (h : s.letters.Sublist (located 0 s.source))
    {before after : List Char} {x : Char} (ht : s.text = before ++ x :: after) :
    ∃ before' after', s.source = before' ++ x :: after'
      ∧ s.toSource (byteLength before) = byteLength before' := by
  -- The letter of this character is one of the source, at the offset it is moved back to.
  have hl : (x, byteLength before) ∈ located 0 s.text :=
    mem_located_iff.2 ⟨before, after, ht, (Nat.zero_add _).symm⟩
  obtain ⟨before', after', hs, ho⟩ :=
    mem_located_iff.1 (h.subset (List.mem_map_of_mem (f := fun l => (l.1, s.toSource l.2)) hl))
  exact ⟨before', after', hs, ho.trans (Nat.zero_add _)⟩

end Stripped

end CatalogAudit
