import CatalogAudit.Proofs.Source.Pass
import CatalogAudit.Proofs.Text.Scan
import CatalogAudit.Source.Marker
import Mathlib.Data.List.Infix

/-!
# Inline tags in payloads

Whether a payload is a layout fragment is decided on a copy of it without the inline
formatting tags. A tag has only one opening angle bracket, at its beginning. So no two tags
overlap, and with a tag no other bracket is removed than its own: the copy has exactly those
brackets of the payload that begin none of the tags, however the text around the tags is put
together.

* `IsStray`: a text that begins with an opening angle bracket but with none of the tags.
* `mem_lettersLeft_iff`: where the brackets that are left stood in the payload.
* `isComplex_iff_stray`: layout fragments, told without removing anything.
-/

namespace CatalogAudit

theorem map_fst_lettersOutside (c : Cursor) (spans : List Span) :
    (lettersOutside c spans).map Prod.fst = textOutside c spans := by
  induction spans generalizing c with
  | nil => exact map_fst_located c.offset c.after
  | cons s rest ih => rw [lettersOutside, List.map_append, map_fst_located, ih, textOutside]

namespace Marker

variable {tag rest w : List Char} {c d e : Cursor} {offset : Nat}

/-- The inline formatting tags as they are written. -/
def bareTags : List String :=
  ["<b>", "<i>", "<em>", "<strong>", "<span>", "</b>", "</i>", "</em>", "</strong>", "</span>"]

/-- The text begins with an opening angle bracket, and with none of the inline formatting
    tags. -/
def IsStray (text : List Char) : Prop :=
  ['<'] <+: text ∧ ∀ tag ∈ bareTags, ¬tag.toList <+: text

instance (text : List Char) : Decidable (IsStray text) :=
  inferInstanceAs (Decidable (_ ∧ _))

-- A longer name or an attribute makes another tag, and a blank makes none at all.
example : IsStray "<br>".toList ∧ IsStray "<b id>".toList ∧ IsStray "< b>".toList
    ∧ ¬IsStray "<b>x".toList := by
  decide

/-! ### Tags -/

theorem inlineTags_perm : inlineTags.Perm (bareTags.map String.toList) := by
  decide

theorem isStray_iff :
    IsStray rest ↔ ['<'] <+: rest ∧ ∀ tag ∈ inlineTags, ¬tag <+: rest := by
  simp only [IsStray, inlineTags_perm.mem_iff, List.forall_mem_map]

/-- A tag has an opening angle bracket at its beginning and no other one. -/
theorem exists_eq_cons_of_mem_inlineTags (h : tag ∈ inlineTags) :
    ∃ w, tag = '<' :: w ∧ '<' ∉ w := by
  have hform : ∀ tag ∈ inlineTags, tag.head? = some '<' ∧ '<' ∉ tag.tail := by decide
  obtain ⟨hhead, htail⟩ := hform tag h
  exact ⟨tag.tail, (List.cons_head?_tail hhead).symm, htail⟩

theorem exists_of_inlineTagStop? (h : inlineTagStop? c = some d) :
    ∃ tag ∈ inlineTags, c.Reaches tag d := by
  obtain ⟨tag, htag, hskip⟩ := List.exists_of_findSome?_eq_some h
  exact ⟨tag, htag, Cursor.skip?_eq_some_iff.1 hskip⟩

theorem not_prefix_of_inlineTagStop? (h : inlineTagStop? c = none) :
    ∀ tag ∈ inlineTags, ¬tag <+: c.after := by
  rintro tag htag ⟨rest, hrest⟩
  obtain ⟨d, hd, -⟩ := Cursor.Reaches.exists_of_after hrest.symm
  have hnone : c.skip? tag = none := List.findSome?_eq_none_iff.1 h tag htag
  rw [Cursor.skip?_eq_some_iff.2 hd] at hnone
  cases hnone

theorem consumes_inlineTagStop? : Consumes inlineTagStop? := by
  intro c d h
  obtain ⟨tag, htag, hreach⟩ := exists_of_inlineTagStop? h
  obtain ⟨w, rfl, -⟩ := exists_eq_cons_of_mem_inlineTags htag
  exact ⟨_, List.cons_ne_nil _ _, hreach⟩

/-! ### Stray brackets -/

/-- A stray bracket stands at an offset behind a position. -/
def StandsStray (c : Cursor) (offset : Nat) : Prop :=
  ∃ w d, c.Reaches w d ∧ d.offset = offset ∧ IsStray d.after

/-- Within a tag no bracket is stray. -/
theorem not_isStray_of_lt (htag : tag ∈ inlineTags) (hd : c.Reaches tag d) (he : c.Reaches w e)
    (hlt : e.offset < d.offset) : ¬IsStray e.after := by
  obtain ⟨u, rfl, hu⟩ := he.exists_between hd hlt.le
  intro hstray
  obtain ⟨v, htext, hv⟩ := exists_eq_cons_of_mem_inlineTags htag
  cases w with
  | nil =>
    -- The bracket at the beginning of the tag begins the tag.
    exact (isStray_iff.1 hstray).2 _ htag ⟨d.after, hu.after.symm⟩
  | cons x w =>
    cases u with
    | nil =>
      obtain rfl := (Cursor.Reaches.refl e).unique hu
      exact Nat.lt_irrefl _ hlt
    | cons y u =>
      have hafter : e.after = y :: (u ++ d.after) := hu.after
      have hy := hstray.1
      rw [hafter, List.cons_prefix_cons] at hy
      obtain ⟨-, rfl⟩ := List.cons.inj htext
      exact hv (hy.1 ▸ List.mem_append_right w List.mem_cons_self)

/-- Where no tag begins, an opening angle bracket is stray. -/
theorem isStray_iff_of_no_tag {x : Char} (hx : c.Reaches [x] d) (h : inlineTagStop? c = none) :
    IsStray c.after ↔ x = '<' := by
  have hafter : c.after = x :: d.after := hx.after
  rw [isStray_iff, hafter, List.cons_prefix_cons, ← hafter]
  constructor
  · rintro ⟨⟨rfl, -⟩, -⟩
    rfl
  · rintro rfl
    exact ⟨⟨rfl, List.nil_prefix⟩, not_prefix_of_inlineTagStop? h⟩

theorem not_standsStray_of_nil (h : c.after = []) : ¬StandsStray c offset := by
  rintro ⟨w, d, hd, -, hbracket, -⟩
  have hnil := (List.append_eq_nil_iff.1 (hd.after.symm.trans h)).2
  rw [hnil] at hbracket
  exact absurd (List.prefix_nil.1 hbracket) (List.cons_ne_nil _ _)

theorem standsStray_of_tag (h : inlineTagStop? c = some d) :
    StandsStray c offset ↔ StandsStray d offset := by
  obtain ⟨tag, htag, hd⟩ := exists_of_inlineTagStop? h
  constructor
  · rintro ⟨w, e, he, hoffset, hstray⟩
    have hle : d.offset ≤ e.offset := Nat.le_of_not_lt fun hlt =>
      not_isStray_of_lt htag hd he hlt hstray
    obtain ⟨u, -, hu⟩ := hd.exists_between he hle
    exact ⟨u, e, hu, hoffset, hstray⟩
  · rintro ⟨w, e, he, hoffset, hstray⟩
    exact ⟨tag ++ w, e, hd.trans he, hoffset, hstray⟩

theorem standsStray_of_no_tag {x : Char} (hx : c.Reaches [x] d) (h : inlineTagStop? c = none) :
    StandsStray c offset ↔ ('<', offset) = (x, c.offset) ∨ StandsStray d offset := by
  rw [Prod.mk.injEq]
  constructor
  · rintro ⟨w, e, he, rfl, hstray⟩
    cases w with
    | nil =>
      obtain rfl := (Cursor.Reaches.refl c).unique he
      exact .inl ⟨((isStray_iff_of_no_tag hx h).1 hstray).symm, rfl⟩
    | cons y w =>
      obtain ⟨f, hf, hfe⟩ := he.exists_of_cons
      obtain ⟨rfl, -⟩ := List.cons.inj (hx.after.symm.trans hf.after)
      obtain rfl := hf.unique hx
      exact .inr ⟨w, e, hfe, rfl, hstray⟩
  · rintro (⟨hbracket, rfl⟩ | ⟨w, e, he, hoffset, hstray⟩)
    · exact ⟨[], c, .refl c, rfl, (isStray_iff_of_no_tag hx h).2 hbracket.symm⟩
    · exact ⟨[x] ++ w, e, hx.trans he, hoffset, hstray⟩

/-- What is left behind a position when the tags are removed has the stray brackets that stand
    there and no other ones. -/
theorem mem_lettersOutside_iff (c : Cursor) :
    ('<', offset) ∈ lettersOutside c (c.spans inlineTagStop?) ↔ StandsStray c offset := by
  induction c using Cursor.induction_after with
  | step c ih =>
    rw [spans_eq consumes_inlineTagStop?]
    cases hs : inlineTagStop? c with
    | some d =>
      have hlt : d.after.length < c.after.length :=
        consumes_inlineTagStop?.progresses.length_lt (a := { start := c, stop := d })
          (by rw [hs]; rfl)
      rw [standsStray_of_tag hs, ← ih d hlt, lettersOutside, (Cursor.Reaches.refl c).upTo_eq]
      rfl
    | none =>
      cases ha : c.after with
      | nil =>
        rw [Cursor.next?_eq_none_iff.2 ha, lettersOutside, ha]
        exact iff_of_false List.not_mem_nil (not_standsStray_of_nil ha)
      | cons x rest =>
        have hx := c.reaches_past ha
        rw [Cursor.next?_of_after ha, standsStray_of_no_tag hx hs,
          ← ih _ (by rw [hx.length_eq]; simp), ← List.mem_cons]
        exact iff_of_eq (congrArg _
          (Cursor.lettersOutside_of_reaches hx (spansFrom_spans consumes_inlineTagStop? _)))

/-! ### Payloads -/

/-- What is left of a payload when the tags are removed, each character with its offset in the
    payload. -/
def lettersLeft (payload : List Char) : List (Char × Nat) :=
  lettersOutside (.start payload) ((Cursor.start payload).spans inlineTagStop?)

theorem mem_lettersLeft_iff {payload : List Char} :
    ('<', offset) ∈ lettersLeft payload
      ↔ ∃ before rest, payload = before ++ rest ∧ byteLength before = offset ∧ IsStray rest := by
  rw [lettersLeft, mem_lettersOutside_iff]
  constructor
  · rintro ⟨before, d, hd, rfl, hstray⟩
    exact ⟨before, d.after, hd.eq_append, hd.offset_of_start.symm, hstray⟩
  · rintro ⟨before, rest, hpayload, rfl, hstray⟩
    obtain ⟨d, hd, rfl⟩ := Cursor.Reaches.exists_of_after (c := Cursor.start payload) hpayload
    exact ⟨before, d, hd, hd.offset_of_start, hstray⟩

/-- A payload is a layout fragment exactly if it has a closing angle bracket and, at some
    position, an opening one that begins no inline formatting tag. When the tags are removed, no
    such bracket is hidden and no other one comes about: those that are left stand at exactly
    these positions of the payload. -/
theorem isComplex_iff_stray (payload : List Char) :
    (isComplex payload = true ↔ '>' ∈ payload ∧ ∃ rest, rest <:+ payload ∧ IsStray rest)
      ∧ (lettersLeft payload).map Prod.fst
        = textOutside (.start payload) ((Cursor.start payload).spans inlineTagStop?)
      ∧ ∀ offset, ('<', offset) ∈ lettersLeft payload
        ↔ ∃ before rest, payload = before ++ rest ∧ byteLength before = offset
          ∧ IsStray rest := by
  have hletters := map_fst_lettersOutside (.start payload)
    ((Cursor.start payload).spans inlineTagStop?)
  refine ⟨?_, hletters, fun offset => mem_lettersLeft_iff⟩
  have hleft : '<' ∈ textOutside (.start payload)
      ((Cursor.start payload).spans inlineTagStop?) ↔ ∃ rest, rest <:+ payload ∧ IsStray rest := by
    rw [← hletters]
    constructor
    · intro h
      obtain ⟨⟨x, offset⟩, hmem, rfl⟩ := List.mem_map.1 h
      obtain ⟨before, rest, hpayload, -, hstray⟩ := mem_lettersLeft_iff.1 hmem
      exact ⟨rest, ⟨before, hpayload.symm⟩, hstray⟩
    · rintro ⟨rest, ⟨before, hpayload⟩, hstray⟩
      exact List.mem_map.2
        ⟨_, mem_lettersLeft_iff.2 ⟨before, rest, hpayload.symm, rfl, hstray⟩, rfl⟩
  -- The test for any opening bracket in the payload follows from the one for what is left.
  have hopening : (∃ rest, rest <:+ payload ∧ IsStray rest) → '<' ∈ payload := by
    rintro ⟨rest, hsuffix, hstray⟩
    exact hsuffix.subset (hstray.1.subset (List.mem_singleton_self _))
  simp only [isComplex, Bool.and_eq_true, List.contains_iff_mem, hleft]
  constructor
  · rintro ⟨⟨-, hclosing⟩, hstray⟩
    exact ⟨hclosing, hstray⟩
  · rintro ⟨hclosing, hstray⟩
    exact ⟨⟨hopening hstray, hclosing⟩, hstray⟩

-- Deleting the tag puts a bracket in front of a name, but that bracket was there before.
example : isComplex "<<b>i>".toList = true ∧ isComplex "1 < 2 <i>or</i> 3".toList = true
    ∧ isComplex "Press <b>Start</b>".toList = false := by
  decide +kernel

end Marker

end CatalogAudit
