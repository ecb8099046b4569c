import CatalogAudit.Proofs.Source.FindLocation
import CatalogAudit.Proofs.Text.Scan
import CatalogAudit.Proofs.Text.Utf8
import Mathlib.Data.Nat.Count

/-!
# Bytes that are deleted

A stripped source is told by its bytes: which bytes of the source are deleted, and where the
others come from. A pass deletes the bytes in the comments that it finds. What is left moves
to the front, and the next pass looks for comments there.

* `IsDeleted`: the bytes that passes delete, told from the source on.
* `Stripped.traced`: the bytes of a stripped text, each with the offset that it is moved back
  to. All passes together leave those bytes of the source that are not deleted, each where it
  stands (`Stripped.traced_foldl_remove`).
* `Stripped.traces_markup_script`: what this says of `toSource`.
-/

namespace CatalogAudit

/-! ### Bytes of a text -/

/-- The bytes of a text. -/
def bytes (text : List Char) : List UInt8 :=
  Utf8.encode (String.ofList text)

theorem bytes_eq (text : List Char) : bytes text = text.flatMap String.utf8EncodeChar := by
  rw [bytes, Utf8.encode_eq, String.toList_ofList]

theorem bytes_append (s t : List Char) : bytes (s ++ t) = bytes s ++ bytes t := by
  rw [bytes_eq, bytes_eq, bytes_eq, List.flatMap_append]

theorem length_bytes (text : List Char) : (bytes text).length = byteLength text := by
  rw [bytes_eq]
  induction text with
  | nil => rfl
  | cons x text ih =>
    rw [List.flatMap_cons, List.length_append, ih, String.length_utf8EncodeChar, byteLength_cons]

/-- Texts consist of bytes. -/
def Parts.bytes : Parts UInt8 where
  list offset text := (CatalogAudit.bytes text).zipIdx offset
  list_append offset s t := by rw [bytes_append, List.zipIdx_append, length_bytes]
  map_add offset n text := by
    rw [Nat.add_comm offset n]
    exact List.map_snd_add_zipIdx_eq_zipIdx
  bounds h :=
    ⟨List.le_snd_of_mem_zipIdx h, length_bytes _ ▸ List.snd_lt_add_of_mem_zipIdx h⟩

/-! ### One pass -/

/-- The byte at an offset lies in one of the spans. -/
def Covered (spans : List Span) (offset : Nat) : Prop :=
  ∃ s ∈ spans, s.start.offset ≤ offset ∧ offset < s.stop.offset

instance (spans : List Span) : DecidablePred (Covered spans) := fun offset =>
  inferInstanceAs (Decidable (∃ s ∈ spans, s.start.offset ≤ offset ∧ offset < s.stop.offset))

theorem covered_cons {s : Span} {spans : List Span} {offset : Nat} :
    Covered (s :: spans) offset
      ↔ s.start.offset ≤ offset ∧ offset < s.stop.offset ∨ Covered spans offset := by
  simp only [Covered, List.exists_mem_cons_iff]

theorem SpansFrom.offset_le {c : Cursor} {spans : List Span} (h : SpansFrom c spans)
    {offset : Nat} (hcovered : Covered spans offset) : c.offset ≤ offset := by
  induction spans generalizing c with
  | nil => simp [Covered] at hcovered
  | cons s rest ih =>
    obtain ⟨⟨w, hw⟩, ⟨v, hv⟩, hrest⟩ := h
    have hstart := hw.offset_le
    have hstop := hv.offset_le
    rcases covered_cons.1 hcovered with ⟨hle, -⟩ | hcovered
    · omega
    · have := ih hrest hcovered
      omega

namespace Parts

variable {α : Type} (p : Parts α)

/-- The parts outside the spans are those that no span covers. -/
theorem outside_eq_filter {c : Cursor} {spans : List Span} (h : SpansFrom c spans) :
    p.outside c spans
      = (p.list c.offset c.after).filter fun l => decide (¬Covered spans l.2) := by
  induction spans generalizing c with
  | nil =>
    rw [outside, List.filter_eq_self.2 fun l _ => by simp [Covered]]
  | cons s rest ih =>
    obtain ⟨⟨w, hw⟩, ⟨v, hv⟩, hrest⟩ := h
    have hstart := hw.offset_eq
    have hstop := hv.offset_eq
    -- In front of the span nothing is covered, in it everything, and behind it what the
    -- other spans cover.
    have hfront : (p.list c.offset w).filter (fun l => decide (¬Covered (s :: rest) l.2))
        = p.list c.offset w := by
      refine List.filter_eq_self.2 fun l hl => decide_eq_true fun hcovered => ?_
      have hlt := (p.bounds hl).2
      rcases covered_cons.1 hcovered with ⟨hle, -⟩ | hcovered
      · omega
      · have := hrest.offset_le hcovered
        omega
    have hinside : (p.list s.start.offset v).filter (fun l => decide (¬Covered (s :: rest) l.2))
        = [] := by
      refine List.filter_eq_nil_iff.2 fun l hl => ?_
      obtain ⟨hle, hlt⟩ := p.bounds hl
      have hcovered : Covered (s :: rest) l.2 := covered_cons.2 (.inl ⟨hle, hstop ▸ hlt⟩)
      simpa using hcovered
    have hbehind : (p.list s.stop.offset s.stop.after).filter
          (fun l => decide (¬Covered (s :: rest) l.2))
        = (p.list s.stop.offset s.stop.after).filter fun l => decide (¬Covered rest l.2) := by
      refine List.filter_congr fun l hl => decide_eq_decide.2 (not_congr ?_)
      have hle := (p.bounds hl).1
      rw [covered_cons, or_iff_right (by omega)]
    rw [outside, hw.upTo_eq, ih hrest, hw.after, hv.after, p.list_append, p.list_append,
      ← hstart, ← hstop, List.filter_append, List.filter_append, hfront, hinside, hbehind,
      List.nil_append]

end Parts

/-- The end of what is left is moved back to the end of the text. -/
theorem movedBack_stop {c : Cursor} {spans : List Span} (h : SpansFrom c spans) {removed : Nat}
    (hr : removed ≤ c.offset) :
    movedBack removed (gapsAfter removed spans)
        (c.offset - removed + byteLength (textOutside c spans))
      = c.offset + byteLength c.after := by
  induction spans generalizing c removed with
  | nil =>
    have hnone (offset : Nat) : movedBack removed (gapsAfter removed []) offset
      = offset + removed := rfl
    rw [hnone, textOutside]
    omega
  | cons s rest ih =>
    obtain ⟨⟨w, hw⟩, ⟨v, hv⟩, hrest⟩ := h
    have hstart := hw.offset_eq
    have hstop := hv.offset_eq
    have hsize : s.size = byteLength v := by rw [Span.size, hstop, Nat.add_sub_cancel_left]
    have hle : removed + s.size ≤ s.stop.offset := by omega
    have hrest := ih hrest hle
    have hoffset : c.offset - removed + byteLength (textOutside c (s :: rest))
        = s.stop.offset - (removed + s.size) + byteLength (textOutside s.stop rest) := by
      rw [textOutside, hw.upTo_eq, byteLength_append]
      omega
    rw [gapsAfter, hoffset, movedBack_cons_of_le _ (show s.start.offset - removed ≤ _ by omega),
      hrest, hw.after, hv.after, byteLength_append, byteLength_append]
    omega

/-- The byte at an offset of a text lies in a comment. -/
def CommentStyle.Covers (style : CommentStyle) (text : List Char) (offset : Nat) : Prop :=
  Covered (style.comments text) offset

instance (style : CommentStyle) (text : List Char) : DecidablePred (style.Covers text) :=
  inferInstanceAs (DecidablePred (Covered (style.comments text)))

/-- What a pass leaves of a text. -/
def CommentStyle.outsideText (style : CommentStyle) (text : List Char) : List Char :=
  textOutside (.start text) (style.comments text)

/-- Where a byte of a text stands in what a pass leaves: behind the bytes in front of it that
    are left. -/
def CommentStyle.landing (style : CommentStyle) (text : List Char) (offset : Nat) : Nat :=
  Nat.count (¬style.Covers text ·) offset

/-- Where a byte of what a pass leaves is moved back to. -/
def CommentStyle.origin (style : CommentStyle) (text : List Char) (offset : Nat) : Nat :=
  offsetBefore (gapsAfter 0 (style.comments text)) offset

/-- The byte at an offset of a text is deleted when the comments of some styles are removed,
    one style after the other. It lies in a comment of the first style, or it is deleted from
    what is left. -/
def IsDeleted : List CommentStyle → List Char → Nat → Prop
  | [], _, _ => False
  | style :: styles, text, offset =>
    style.Covers text offset
      ∨ IsDeleted styles (style.outsideText text) (style.landing text offset)

instance decidableIsDeleted : (styles : List CommentStyle) → (text : List Char) →
    DecidablePred (IsDeleted styles text)
  | [], _, _ => inferInstanceAs (Decidable False)
  | style :: styles, text, offset =>
    have := decidableIsDeleted styles (style.outsideText text)
    inferInstanceAs (Decidable (style.Covers text offset ∨ IsDeleted styles _ _))

/-- Of the numbers with a property, the one at some place has as many of them in front of it. -/
theorem count_of_getElem?_filter_range {p : Nat → Prop} [DecidablePred p] {n i m : Nat}
    (h : ((List.range n).filter (p ·))[i]? = some m) : Nat.count p m = i := by
  induction n with
  | zero => cases h
  | succ n ih =>
    rw [List.range_succ, List.filter_append, List.getElem?_append] at h
    split at h
    · exact ih h
    · -- Only the last number is behind those below it.
      have hcount : Nat.count p n = ((List.range n).filter (p ·)).length :=
        List.countP_eq_length_filter
      by_cases hn : p n
      · simp only [List.filter_singleton, hn, decide_true, cond_true, List.getElem?_singleton] at h
        split at h
        · obtain rfl := Option.some.inj h
          omega
        · cases h
      · simp [hn] at h

section Pass

variable {style : CommentStyle} (h : style.opening ≠ []) (text : List Char)

include h

/-- What a pass leaves are the bytes outside the comments, and each is moved back to where it
    stands in the text. -/
theorem map_origin_bytes :
    (bytes (style.outsideText text)).zipIdx.map (fun l => (l.1, style.origin text l.2))
      = (bytes text).zipIdx.filter fun l => decide (¬style.Covers text l.2) := by
  have hspans := spansFrom_spans (CommentStyle.consumes h) (.start text)
  exact (Parts.bytes.map_offsetBefore h text).trans (Parts.bytes.outside_eq_filter hspans)

/-- A byte that is left lands where it was moved back from. -/
theorem landing_origin {offset : Nat} (ho : offset < byteLength (style.outsideText text)) :
    style.landing text (style.origin text offset) = offset := by
  have hrange (text : List Char) :
      (bytes text).zipIdx.map Prod.snd = List.range (byteLength text) := by
    rw [List.zipIdx_map_snd, length_bytes, List.range_eq_range']
  have hoffsets : (List.range (byteLength (style.outsideText text))).map (style.origin text)
      = (List.range (byteLength text)).filter fun o => decide (¬style.Covers text o) := by
    have hpass := congrArg (List.map Prod.snd) (map_origin_bytes h text)
    rw [← hrange, ← hrange, List.filter_map, List.map_map]
    rw [List.map_map] at hpass
    exact hpass
  refine count_of_getElem?_filter_range (n := byteLength text) ?_
  rw [← hoffsets, List.getElem?_map, List.getElem?_range ho]
  rfl

/-- Of what a pass leaves, the bytes that satisfy a test come from those outside the comments
    that satisfy it where they land. -/
theorem map_origin_filter (test : Nat → Bool) :
    ((bytes (style.outsideText text)).zipIdx.filter fun l => test l.2).map
        (fun l => (l.1, style.origin text l.2))
      = (bytes text).zipIdx.filter fun l =>
        test (style.landing text l.2) && decide (¬style.Covers text l.2) := by
  have htest : ∀ l ∈ (bytes (style.outsideText text)).zipIdx, test l.2
      = ((fun l : UInt8 × Nat => test (style.landing text l.2)) ∘
        fun l => (l.1, style.origin text l.2)) l := by
    intro l hl
    have hlt := List.snd_lt_of_mem_zipIdx hl
    rw [length_bytes, Nat.add_zero] at hlt
    rw [Function.comp, landing_origin h text hlt]
  rw [List.filter_congr htest, ← List.filter_map, map_origin_bytes h, List.filter_filter]

/-- The end of what a pass leaves is moved back to the end of the text. -/
theorem origin_byteLength :
    style.origin text (byteLength (style.outsideText text)) = byteLength text := by
  have hstop := movedBack_stop (spansFrom_spans (CommentStyle.consumes h) (.start text))
    (Nat.zero_le _)
  have hstart : (Cursor.start text).offset = 0 := rfl
  rw [movedBack_zero, hstart, Nat.zero_sub, Nat.zero_add, Nat.zero_add] at hstop
  exact hstop

end Pass

namespace Stripped

/-- The bytes of a stripped text, each with the offset in the source that corresponds to it. -/
def traced (s : Stripped) : List (UInt8 × Nat) :=
  (bytes s.text).zipIdx.map fun l => (l.1, s.toSource l.2)

variable {styles : List CommentStyle}

theorem source_foldl_remove (styles : List CommentStyle) (s : Stripped) :
    (styles.foldl remove s).source = s.source := by
  induction styles generalizing s with
  | nil => rfl
  | cons style styles ih => exact ih (s.remove style)

theorem toSource_remove (s : Stripped) (style : CommentStyle) (offset : Nat) :
    (s.remove style).toSource offset = s.toSource (style.origin s.text offset) :=
  rfl

/-- All passes leave the bytes that are not deleted. -/
theorem traced_foldl_remove (h : ∀ style ∈ styles, style.opening ≠ []) (s : Stripped) :
    (styles.foldl remove s).traced
      = ((bytes s.text).zipIdx.filter fun l => decide (¬IsDeleted styles s.text l.2)).map
        fun l => (l.1, s.toSource l.2) := by
  induction styles generalizing s with
  | nil =>
    rw [List.filter_eq_self.2 fun l _ => by simp [IsDeleted]]
    rfl
  | cons style styles ih =>
    -- What the later passes leave comes from the bytes that the first one leaves.
    have hlater := map_origin_filter (h style List.mem_cons_self) s.text
      fun offset => decide (¬IsDeleted styles (style.outsideText s.text) offset)
    have hboth : ∀ l ∈ (bytes s.text).zipIdx, decide (¬IsDeleted (style :: styles) s.text l.2)
        = (decide (¬IsDeleted styles (style.outsideText s.text) (style.landing s.text l.2))
          && decide (¬style.Covers s.text l.2)) := fun l _ => by
      simp [IsDeleted, Bool.and_comm]
    rw [List.foldl_cons, ih fun style hs => h style (List.mem_cons_of_mem _ hs),
      List.filter_congr hboth, ← hlater, List.map_map]
    rfl

theorem letters_foldl_remove_sublist (h : ∀ style ∈ styles, style.opening ≠ []) (s : Stripped) :
    (styles.foldl remove s).letters.Sublist s.letters := by
  induction styles generalizing s with
  | nil => exact .refl _
  | cons style styles ih =>
    exact (ih (fun style hs => h style (List.mem_cons_of_mem _ hs)) _).trans
      (letters_remove_sublist s (h style List.mem_cons_self))

/-- The end of the stripped text corresponds to the end of the source. -/
theorem toSource_foldl_remove (h : ∀ style ∈ styles, style.opening ≠ []) (s : Stripped) :
    (styles.foldl remove s).toSource (byteLength (styles.foldl remove s).text)
      = s.toSource (byteLength s.text) := by
  induction styles generalizing s with
  | nil => rfl
  | cons style styles ih =>
    rw [List.foldl_cons, ih fun style hs => h style (List.mem_cons_of_mem _ hs), toSource_remove]
    exact congrArg s.toSource (origin_byteLength (h style List.mem_cons_self) s.text)

/-! ### From the text back to the source -/

theorem mem_traced_iff {s : Stripped} {b : UInt8} {o : Nat} :
    (b, o) ∈ s.traced ↔ ∃ i, (bytes s.text)[i]? = some b ∧ s.toSource i = o := by
  rw [traced, List.mem_map]
  constructor
  · rintro ⟨⟨b, i⟩, hmem, heq⟩
    obtain ⟨rfl, rfl⟩ := Prod.mk.inj heq
    exact ⟨i, List.mk_mem_zipIdx_iff_getElem?.1 hmem, rfl⟩
  · rintro ⟨i, hi, rfl⟩
    exact ⟨(b, i), List.mk_mem_zipIdx_iff_getElem?.2 hi, rfl⟩

/-- How a stripped text is traced back to the source that it was made of. -/
structure Traces (s : Stripped) (source : List Char) (styles : List CommentStyle) : Prop where
  source_eq : s.source = source
  /-- A byte of the text stands in the source where it is moved back to. -/
  exists_byte : ∀ i < byteLength s.text,
    ∃ b, (bytes s.text)[i]? = some b ∧ (bytes source)[s.toSource i]? = some b
  toSource_lt : ∀ i j, i < j → j ≤ byteLength s.text → s.toSource i < s.toSource j
  toSource_byteLength : s.toSource (byteLength s.text) = byteLength source
  /-- Positions between characters are moved back to such positions. -/
  exists_split : ∀ before after, s.text = before ++ after →
    ∃ before' after', source = before' ++ after'
      ∧ s.toSource (byteLength before) = byteLength before'
  /-- The bytes to which none is moved back are those that are deleted. -/
  exists_iff_not_isDeleted : ∀ o < byteLength source,
    (∃ i < byteLength s.text, s.toSource i = o) ↔ ¬IsDeleted styles source o

section Through

variable {source : List Char} {s : Stripped}
  (hs : s.traced = (bytes source).zipIdx.filter fun l => decide (¬IsDeleted styles source l.2))

include hs

theorem exists_byte_of_traced {i : Nat} (hi : i < byteLength s.text) :
    ∃ b, (bytes s.text)[i]? = some b ∧ (bytes source)[s.toSource i]? = some b
      ∧ ¬IsDeleted styles source (s.toSource i) := by
  rw [← length_bytes] at hi
  have hmem := mem_traced_iff.2 ⟨i, List.getElem?_eq_getElem hi, rfl⟩
  rw [hs, List.mem_filter] at hmem
  exact ⟨_, List.getElem?_eq_getElem hi, List.mk_mem_zipIdx_iff_getElem?.1 hmem.1,
    of_decide_eq_true hmem.2⟩

theorem toSource_lt_of_traced {i j : Nat} (hij : i < j) (hj : j < byteLength s.text) :
    s.toSource i < s.toSource j := by
  have hpairwise : (bytes source).zipIdx.Pairwise fun l m => l.2 < m.2 := by
    rw [← List.pairwise_map, List.zipIdx_map_snd]
    exact List.pairwise_lt_range'
  have hkept := hpairwise.filter fun l => decide (¬IsDeleted styles source l.2)
  rw [← hs, traced, List.pairwise_map] at hkept
  rw [← length_bytes] at hj
  have hlt := List.pairwise_iff_getElem.1 hkept i j (by simpa using hij.trans hj)
    (by simpa using hj) hij
  simpa [List.getElem_zipIdx] using hlt

theorem exists_toSource_eq_iff {o : Nat} (ho : o < byteLength source) :
    (∃ i < byteLength s.text, s.toSource i = o) ↔ ¬IsDeleted styles source o := by
  constructor
  · rintro ⟨i, hi, rfl⟩
    obtain ⟨b, -, -, hkept⟩ := exists_byte_of_traced hs hi
    exact hkept
  · intro hkept
    rw [← length_bytes] at ho
    have hmem : ((bytes source)[o], o) ∈ s.traced := by
      rw [hs, List.mem_filter]
      exact ⟨List.mk_mem_zipIdx_iff_getElem?.2 (List.getElem?_eq_getElem ho), decide_eq_true hkept⟩
    obtain ⟨i, hi, heq⟩ := mem_traced_iff.1 hmem
    exact ⟨i, length_bytes s.text ▸ (List.getElem?_eq_some_iff.1 hi).1, heq⟩

end Through

/-- Removing comments of any styles leaves a text that is traced back to its source. -/
theorem traces_foldl_remove (styles : List CommentStyle)
    (h : ∀ style ∈ styles, style.opening ≠ []) (source : List Char) :
    (styles.foldl remove (whole source)).Traces source styles := by
  have hsource := source_foldl_remove styles (whole source)
  have hs : (styles.foldl remove (whole source)).traced
      = (bytes source).zipIdx.filter fun l => decide (¬IsDeleted styles source l.2) :=
    (traced_foldl_remove h (whole source)).trans (List.map_id' _)
  have hstop : (styles.foldl remove (whole source)).toSource
      (byteLength (styles.foldl remove (whole source)).text) = byteLength source :=
    toSource_foldl_remove h (whole source)
  have hletters := letters_foldl_remove_sublist h (whole source)
  rw [letters_whole] at hletters
  generalize styles.foldl remove (whole source) = s at *
  obtain rfl : s.source = source := hsource
  refine ⟨rfl, fun i hi => ?_, fun i j hij hj => ?_, hstop, fun before after ht => ?_,
    fun o ho => exists_toSource_eq_iff hs ho⟩
  · obtain ⟨b, hb, hto, -⟩ := exists_byte_of_traced hs hi
    exact ⟨b, hb, hto⟩
  · rcases Nat.lt_or_eq_of_le hj with hj | rfl
    · exact toSource_lt_of_traced hs hij hj
    · -- The end of the text corresponds to the end of the source, behind all bytes.
      obtain ⟨b, -, hto, -⟩ := exists_byte_of_traced hs hij
      rw [hstop, ← length_bytes]
      exact (List.getElem?_eq_some_iff.1 hto).1
  · cases after with
    | nil =>
      obtain rfl : s.text = before := ht.trans (List.append_nil before)
      exact ⟨s.source, [], (List.append_nil _).symm, hstop⟩
    | cons x after =>
      obtain ⟨before', after', heq, hto⟩ := exists_source_of_sublist hletters ht
      exact ⟨before', x :: after', heq, hto⟩

/-- What is left of markup and of scripts is traced back to the source, and nothing but their
    comments is deleted. -/
theorem traces_markup_script (source : List Char) :
    (markup source).Traces source [.block "<!--".toList "-->".toList]
      ∧ (script source).Traces source
        [.line "//".toList, .block "/*".toList "*/".toList] :=
  ⟨traces_foldl_remove [_] (by decide) source, traces_foldl_remove [_, _] (by decide) source⟩

end Stripped

end CatalogAudit
