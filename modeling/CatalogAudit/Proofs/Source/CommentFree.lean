import CatalogAudit.Proofs.Source.ScriptPass

/-!
# Scripts without comments

Removing a comment puts characters next to each other that were apart, and so it might make
up a new comment. In scripts it does not. A line that is cut off leaves its newline. Block
comments are removed from a text without two slashes: in such a text no slash stands in
front of a block comment, and so none comes to stand in front of what follows it. What is
left has no comment of either kind, and stripping it again removes nothing.

* `CommentStyle.StandsIn`: a text with a comment in it.
* `not_slashes_lines`: the first pass leaves no two slashes.
* `not_standsIn_blocks`: the second pass brings none about, and it leaves no comment.
* `Stripped.not_standsIn_script`: what is left of a script.
-/

namespace CatalogAudit

variable {τ : Type}

namespace CommentStyle

/-- A comment of the style stands in a text. A comment up to the end of a line is there as
    soon as its opening is. -/
def StandsIn : CommentStyle → List Char → Prop
  | line opening, text => opening <:+: text
  | block opening closing, text => ∃ body, opening ++ (body ++ closing) <:+: text

variable {style : CommentStyle} {text : List Char}

theorem StandsIn.of_suffix {s t : List Char} (h : style.StandsIn s) (hst : s <:+ t) :
    style.StandsIn t := by
  cases style with
  | line opening => exact h.trans hst.isInfix
  | block opening closing =>
    obtain ⟨body, hbody⟩ := h
    exact ⟨body, hbody.trans hst.isInfix⟩

/-- Where a comment is found, one stands in the text behind. -/
theorem standsIn_of_stop? {c d : Cursor} (h : style.stop? c = some d) :
    style.StandsIn c.after := by
  cases style with
  | line opening =>
    obtain ⟨e, he, -⟩ := Option.map_eq_some_iff.1 h
    exact ⟨[], e.after, (Cursor.skip?_eq_some_iff.1 he).after.symm⟩
  | block opening closing =>
    rw [stop?] at h
    split at h
    · rename_i e he
      obtain ⟨⟨f, g⟩, hfound, rfl⟩ := Option.map_eq_some_iff.1 h
      obtain ⟨⟨body, hbody⟩, hclosing⟩ := Cursor.find?_eq_some hfound
      refine ⟨body, [], g.after, ?_⟩
      rw [((Cursor.skip?_eq_some_iff.1 he).trans (hbody.trans hclosing)).after]
      rfl
    · cases h

theorem comments_eq_nil (hopening : style.opening ≠ []) (h : ¬style.StandsIn text) :
    style.comments text = [] := by
  refine List.eq_nil_iff_forall_not_mem.2 fun s hs => ?_
  obtain ⟨before, c, d, hc, hd, -⟩ := Cursor.exists_of_mem_scan_map (consumes hopening) hs
  exact h ((standsIn_of_stop? hd).of_suffix ⟨before, hc.eq_append.symm⟩)

end CommentStyle

/-- A pass over a text without comments leaves no gap. -/
theorem Stripped.remove_eq_of_not_standsIn {s : Stripped} {style : CommentStyle}
    (hopening : style.opening ≠ []) (h : ¬style.StandsIn s.text) :
    s.remove style = { s with passes := [] :: s.passes } := by
  have hcomments := CommentStyle.comments_eq_nil hopening h
  simp only [remove, hcomments]
  rfl

/-! ### The first pass -/

theorem not_slashes_lines (l : List (Char × τ)) : ¬['/', '/'] <:+: chars (lines l) := by
  induction l using lines_induction with
  | nil => simp
  | cut x l hx hl ih =>
    rw [lines_cons, if_pos ⟨hx, hl⟩]
    exact ih
  | letter x l hne ih =>
    rw [lines_cons_of_ne hne, chars_cons, pair_infix_cons_iff]
    rintro (⟨hx, hslash⟩ | hpair)
    · -- The pass begins with what stood there before, or with the newline of a cut.
      rcases head?_lines l with hhead | hhead
      · exact hne.elim (· hx) (· (hhead ▸ hslash))
      · exact absurd (hhead _ hslash) (by decide)
    · exact ih hpair

/-! ### The second pass -/

variable {x : Char × τ} {l w rest : List (Char × τ)}

/-- A block comment begins at the first character of a text, or it stands behind it. -/
theorem standsIn_blockStyle_cons_iff {x : Char} {text : List Char} :
    blockStyle.StandsIn (x :: text)
      ↔ (x = '/' ∧ ∃ rest, text = '*' :: rest ∧ ['*', '/'] <:+: rest)
        ∨ blockStyle.StandsIn text := by
  have hbegins : (∃ body, "/*".toList ++ (body ++ "*/".toList) <+: x :: text)
      ↔ x = '/' ∧ ∃ rest, text = '*' :: rest ∧ ['*', '/'] <:+: rest := by
    constructor
    · rintro ⟨body, behind, h⟩
      obtain ⟨rfl, htext⟩ := List.cons.inj h
      exact ⟨rfl, _, htext.symm, body, behind, by simp⟩
    · rintro ⟨rfl, rest, rfl, body, behind, rfl⟩
      exact ⟨body, behind, by simp⟩
  rw [← hbegins, blockStyle]
  simp only [CommentStyle.StandsIn, List.infix_cons_iff, exists_or]

theorem suffix_of_behindClosing? (h : behindClosing? l = some rest) : rest <:+ l := by
  induction l with
  | nil => cases h
  | cons x l ih =>
    rw [behindClosing?_cons] at h
    split at h
    · obtain rfl := Option.some.inj h
      exact (List.tail_suffix l).trans (List.suffix_cons x l)
    · exact (ih h).trans (List.suffix_cons x l)

theorem behindClosing?_eq_none_iff :
    behindClosing? l = none ↔ ¬['*', '/'] <:+: chars l := by
  refine ⟨fun h => ?_, behindClosing?_eq_none⟩
  induction l with
  | nil => simp
  | cons x l ih =>
    rw [behindClosing?_cons] at h
    split at h
    · cases h
    · rename_i hx
      rw [chars_cons, pair_infix_cons_iff]
      exact not_or.2 ⟨hx, ih h⟩

/-- Without a closing there is no comment. -/
theorem blocks_eq_self (h : ¬['*', '/'] <:+: chars w) : blocks w = w := by
  induction w with
  | nil => exact blocks_nil
  | cons x w ih =>
    have hrest := (not_infix_cons h).2
    have htail : chars w.tail <:+ chars w := (List.tail_suffix w).map Prod.fst
    have hnone : blockStyle.behind? (x :: w) = none := by
      rw [behind?_blockStyle_cons, behindClosing?_eq_none fun hpair =>
        hrest (hpair.trans htail.isInfix), ite_self]
    rw [blocks, CommentStyle.outside_cons hnone]
    exact congrArg (x :: ·) (ih hrest)

theorem suffix_of_behind?_blockStyle (h : blockStyle.behind? l = some rest) : rest <:+ l := by
  cases l with
  | nil => cases h
  | cons x l =>
    rw [behind?_blockStyle_cons] at h
    split at h
    · exact (suffix_of_behindClosing? h).trans
        ((List.tail_suffix l).trans (List.suffix_cons x l))
    · cases h

/-- The second pass begins as its text does, unless that begins with a slash. -/
theorem head?_blocks (h : (chars l).head? ≠ some '/') :
    (chars (blocks l)).head? = (chars l).head? := by
  cases l with
  | nil => rw [blocks_nil]
  | cons x l =>
    have hx : x.1 ≠ '/' := fun hx => h (congrArg some hx)
    rw [blocks_cons_of_ne hx]
    rfl

/-- In a text without two slashes the second pass brings none about, and it leaves no block
    comment. -/
theorem not_standsIn_blocks (h : ¬['/', '/'] <:+: chars l) :
    ¬['/', '/'] <:+: chars (blocks l) ∧ ¬blockStyle.StandsIn (chars (blocks l)) := by
  have hopening : blockStyle.opening ≠ [] := by decide
  induction l using CommentStyle.outside_induction hopening with
  | nil => simp [CommentStyle.StandsIn, blockStyle]
  | comment l rest hrest ih =>
    have hsuffix : chars rest <:+ chars l := (suffix_of_behind?_blockStyle hrest).map Prod.fst
    rw [blocks, CommentStyle.outside_of_behind? hopening hrest]
    exact ih fun hpair => h (hpair.trans hsuffix.isInfix)
  | letter x l hnone ih =>
    obtain ⟨hslash, hslashes⟩ := not_infix_cons h
    obtain ⟨ihslashes, ihblock⟩ := ih hslashes
    rw [blocks, CommentStyle.outside_cons hnone, chars_cons, pair_infix_cons_iff,
      standsIn_blockStyle_cons_iff, not_or, not_or]
    -- Behind a slash no comment begins, so nothing is removed there.
    refine ⟨⟨?_, ihslashes⟩, ?_, ihblock⟩
    · rintro ⟨hx, hhead⟩
      have hne : (chars l).head? ≠ some '/' := fun hl => hslash ⟨hx, hl⟩
      exact hne ((head?_blocks hne).symm.trans hhead)
    · rintro ⟨hx, rest, hrest, hclosing⟩
      cases l with
      | nil =>
        rw [CommentStyle.outside_nil] at hrest
        cases hrest
      | cons y l =>
        have hy : y.1 ≠ '/' := fun hy => hslash ⟨hx, congrArg some hy⟩
        have hrest : chars (y :: blocks l) = '*' :: rest := (blocks_cons_of_ne hy) ▸ hrest
        obtain ⟨hstar, rfl⟩ := List.cons.inj hrest
        -- The opening is kept because no closing follows, and so nothing is removed behind.
        rw [behind?_opening hx hstar, behindClosing?_eq_none_iff] at hnone
        exact hnone (blocks_eq_self hnone ▸ hclosing)

/-! ### Both passes -/

namespace Stripped

theorem text_script (source : List Char) :
    (script source).text = chars (blocks (lines (located 0 source))) := by
  rw [← letters_script]
  exact (map_fst_letters _).symm

/-- A text without comments is left as it is by both passes. -/
theorem script_eq_of_not_standsIn {text : List Char} (hlines : ¬lineStyle.StandsIn text)
    (hblocks : ¬blockStyle.StandsIn text) :
    script text = { source := text, text := text, passes := [[], []] } := by
  have hfirst : (whole text).remove lineStyle
      = { source := text, text := text, passes := [[]] } :=
    remove_eq_of_not_standsIn (by decide) hlines
  have hscript : script text = ((whole text).remove lineStyle).remove blockStyle := rfl
  rw [hscript, hfirst]
  exact remove_eq_of_not_standsIn (by decide) hblocks

/-- What is left of a script has neither two slashes in it nor a block comment, and
    stripping it again changes no character and no offset. -/
theorem not_standsIn_script (source : List Char) :
    ¬"//".toList <:+: (script source).text
      ∧ (¬∃ body, "/*".toList ++ (body ++ "*/".toList) <:+: (script source).text)
      ∧ (script (script source).text).text = (script source).text
      ∧ ∀ offset, (script (script source).text).toSource offset = offset := by
  have hcomments := not_standsIn_blocks (not_slashes_lines (located 0 source))
  rw [← text_script] at hcomments
  obtain ⟨hlines, hblocks⟩ := hcomments
  have hagain := script_eq_of_not_standsIn hlines hblocks
  refine ⟨hlines, hblocks, ?_, fun offset => ?_⟩
  · rw [hagain]
  · rw [hagain]
    rfl

end Stripped

end CatalogAudit
