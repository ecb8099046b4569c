import CatalogAudit.Proofs.Source.Provenance

/-!
# A pass over letters

A pass that removes comments of one style works on the letters of a stripped
source directly, by recursion on their list: where a comment begins it goes on
behind the comment, and it keeps any other letter. The offsets of the letters
play no part in this.

* `CommentStyle.behind?`: what is left behind the comment that begins a list of
  letters.
* `CommentStyle.outside`: the letters outside all comments.
* `Stripped.letters_remove_eq_outside`: this is what a pass leaves.
-/

namespace CatalogAudit

variable {τ σ : Type}

/-- What is left behind a word that begins a list of letters. -/
def skipLetters? : List Char → List (Char × τ) → Option (List (Char × τ))
  | [], l => some l
  | _ :: _, [] => none
  | x :: word, y :: l => if x = y.1 then skipLetters? word l else none

/-- What is left behind the first occurrence of a word. -/
def findLetters? (word : List Char) : List (Char × τ) → Option (List (Char × τ))
  | [] => skipLetters? word []
  | x :: l =>
    match skipLetters? word (x :: l) with
    | some rest => some rest
    | none => findLetters? word l

theorem skipLetters?_eq_some_iff {word : List Char} {l rest : List (Char × τ)} :
    skipLetters? word l = some rest ↔ ∃ w, w.map Prod.fst = word ∧ l = w ++ rest := by
  induction word generalizing l with
  | nil => simp [skipLetters?]
  | cons x word ih =>
    cases l with
    | nil =>
      simp only [skipLetters?, reduceCtorEq, false_iff]
      rintro ⟨w, hw, hl⟩
      obtain ⟨rfl, -⟩ := List.nil_eq_append_iff.1 hl
      cases hw
    | cons y l =>
      rw [skipLetters?]
      split
      · rename_i hx
        rw [ih]
        constructor
        · rintro ⟨w, rfl, rfl⟩
          exact ⟨y :: w, by simp [hx], rfl⟩
        · rintro ⟨w, hw, hl⟩
          cases w with
          | nil => cases hw
          | cons z w =>
            obtain ⟨-, rfl⟩ := List.cons.inj hl
            exact ⟨w, (List.cons.inj hw).2, rfl⟩
      · rename_i hx
        simp only [reduceCtorEq, false_iff]
        rintro ⟨w, hw, hl⟩
        cases w with
        | nil => cases hw
        | cons z w =>
          obtain ⟨rfl, -⟩ := List.cons.inj hl
          exact hx (List.cons.inj hw).1.symm

theorem sublist_of_skipLetters? {word : List Char} {l rest : List (Char × τ)}
    (h : skipLetters? word l = some rest) : rest.Sublist l := by
  obtain ⟨w, -, rfl⟩ := skipLetters?_eq_some_iff.1 h
  exact List.sublist_append_right w rest

theorem sublist_of_findLetters? {word : List Char} {l rest : List (Char × τ)}
    (h : findLetters? word l = some rest) : rest.Sublist l := by
  induction l with
  | nil => exact sublist_of_skipLetters? h
  | cons x l ih =>
    rw [findLetters?] at h
    split at h
    · rename_i found hs
      exact Option.some.inj h ▸ sublist_of_skipLetters? hs
    · exact (ih h).cons x

namespace CommentStyle

/-- What is left behind the comment that begins a list of letters. -/
def behind? : CommentStyle → List (Char × τ) → Option (List (Char × τ))
  | line opening, l => (skipLetters? opening l).map (·.dropWhile (·.1 != '\n'))
  | block opening closing, l => (skipLetters? opening l).bind (findLetters? closing)

theorem length_lt_of_behind? {style : CommentStyle} (h : style.opening ≠ [])
    {l rest : List (Char × τ)} (hr : style.behind? l = some rest) : rest.length < l.length := by
  have length_lt {opening : List Char} {l r : List (Char × τ)} (ho : opening ≠ [])
      (hs : skipLetters? opening l = some r) : r.length < l.length := by
    obtain ⟨w, rfl, rfl⟩ := skipLetters?_eq_some_iff.1 hs
    have := List.length_pos_iff.2 (fun hw => ho (by rw [hw]; rfl) : w ≠ [])
    rw [List.length_append]
    omega
  cases style with
  | line opening =>
    obtain ⟨r, hs, rfl⟩ := Option.map_eq_some_iff.1 hr
    exact Nat.lt_of_le_of_lt (List.dropWhile_sublist _).length_le (length_lt h hs)
  | block opening closing =>
    obtain ⟨r, hs, hf⟩ := Option.bind_eq_some_iff.1 hr
    exact Nat.lt_of_le_of_lt (sublist_of_findLetters? hf).length_le (length_lt h hs)

theorem sublist_of_behind? {style : CommentStyle} {l rest : List (Char × τ)}
    (h : style.behind? l = some rest) : rest.Sublist l := by
  cases style with
  | line opening =>
    obtain ⟨r, hs, rfl⟩ := Option.map_eq_some_iff.1 h
    exact (List.dropWhile_sublist _).trans (sublist_of_skipLetters? hs)
  | block opening closing =>
    obtain ⟨r, hs, hf⟩ := Option.bind_eq_some_iff.1 h
    exact (sublist_of_findLetters? hf).trans (sublist_of_skipLetters? hs)

/-- The letters outside the comments of a style. What is left behind a comment
    is shorter, because a comment is not empty. -/
def outside (style : CommentStyle) : List (Char × τ) → List (Char × τ)
  | [] => []
  | x :: l =>
    match style.behind? (x :: l) with
    | some rest => if rest.length ≤ l.length then outside style rest else []
    | none => x :: outside style l
  termination_by l => l.length

variable {style : CommentStyle}

@[simp]
theorem outside_nil : style.outside ([] : List (Char × τ)) = [] := by
  rw [outside]

/-- Behind a comment the pass goes on. -/
theorem outside_of_behind? (h : style.opening ≠ []) {l rest : List (Char × τ)}
    (hr : style.behind? l = some rest) : style.outside l = style.outside rest := by
  have hlt := length_lt_of_behind? h hr
  cases l with
  | nil => cases hlt
  | cons x l =>
    rw [outside, hr]
    exact if_pos (Nat.le_of_lt_succ hlt)

/-- A letter that begins no comment is kept. -/
theorem outside_cons {x : Char × τ} {l : List (Char × τ)} (h : style.behind? (x :: l) = none) :
    style.outside (x :: l) = x :: style.outside l := by
  rw [outside, h]

/-- Induction along a pass. -/
theorem outside_induction (h : style.opening ≠ []) {motive : List (Char × τ) → Prop}
    (nil : motive [])
    (comment : ∀ l rest, style.behind? l = some rest → motive rest → motive l)
    (letter : ∀ x l, style.behind? (x :: l) = none → motive l → motive (x :: l))
    (l : List (Char × τ)) : motive l := by
  -- What is left behind a comment is shorter, but it need not be a tail.
  induction l using (measure List.length).wf.induction with
  | _ l ih =>
    cases l with
    | nil => exact nil
    | cons x l =>
      cases hr : style.behind? (x :: l) with
      | some rest => exact comment _ rest hr (ih rest (length_lt_of_behind? h hr))
      | none => exact letter x l hr (ih l (Nat.lt_succ_self _))

/-- A pass drops letters and changes none. -/
theorem outside_sublist (h : style.opening ≠ []) (l : List (Char × τ)) :
    (style.outside l).Sublist l := by
  induction l using outside_induction h with
  | nil => simp
  | comment l rest hr ih =>
    rw [outside_of_behind? h hr]
    exact ih.trans (sublist_of_behind? hr)
  | letter x l hn ih =>
    rw [outside_cons hn]
    exact ih.cons_cons x

end CommentStyle

/-! ### Offsets play no part -/

/-- Letters with other offsets. -/
def relocate (f : τ → σ) (l : List (Char × τ)) : List (Char × σ) :=
  l.map fun x => (x.1, f x.2)

variable {f : τ → σ}

theorem skipLetters?_relocate (word : List Char) (l : List (Char × τ)) :
    skipLetters? word (relocate f l) = (skipLetters? word l).map (relocate f) := by
  induction word generalizing l with
  | nil => rfl
  | cons x word ih =>
    cases l with
    | nil => rfl
    | cons y l =>
      have hcons : relocate f (y :: l) = (y.1, f y.2) :: relocate f l := rfl
      rw [hcons, skipLetters?, skipLetters?]
      split
      · exact ih l
      · rfl

theorem findLetters?_relocate (word : List Char) (l : List (Char × τ)) :
    findLetters? word (relocate f l) = (findLetters? word l).map (relocate f) := by
  induction l with
  | nil => exact skipLetters?_relocate word []
  | cons x l ih =>
    have hskip := skipLetters?_relocate (f := f) word (x :: l)
    have hcons : relocate f (x :: l) = (x.1, f x.2) :: relocate f l := rfl
    rw [hcons] at hskip ⊢
    rw [findLetters?, findLetters?, hskip]
    cases skipLetters? word (x :: l) with
    | some rest => rfl
    | none => exact ih

theorem dropWhile_relocate (test : Char → Bool) (l : List (Char × τ)) :
    (relocate f l).dropWhile (fun x => test x.1) = relocate f (l.dropWhile fun x => test x.1) := by
  rw [relocate, List.dropWhile_map]
  rfl

namespace CommentStyle

variable {style : CommentStyle}

theorem behind?_relocate (style : CommentStyle) (l : List (Char × τ)) :
    style.behind? (relocate f l) = (style.behind? l).map (relocate f) := by
  cases style with
  | line opening =>
    rw [behind?, behind?, skipLetters?_relocate, Option.map_map, Option.map_map]
    exact congrArg (Option.map · _) (funext fun r => dropWhile_relocate (· != '\n') r)
  | block opening closing =>
    rw [behind?, behind?, skipLetters?_relocate, Option.bind_map, Option.map_bind]
    exact congrArg (Option.bind _) (funext fun r => findLetters?_relocate closing r)

theorem outside_relocate (h : style.opening ≠ []) (l : List (Char × τ)) :
    style.outside (relocate f l) = relocate f (style.outside l) := by
  induction l using outside_induction h with
  | nil => simp [relocate]
  | comment l rest hr ih =>
    rw [outside_of_behind? h hr, ← ih]
    exact outside_of_behind? h (by rw [behind?_relocate, hr]; rfl)
  | letter x l hn ih =>
    rw [outside_cons hn]
    refine (outside_cons (l := relocate f l) ?_).trans (congrArg _ ih)
    have hrelocate := behind?_relocate (f := f) style (x :: l)
    rw [hn] at hrelocate
    exact hrelocate

end CommentStyle

/-! ### Letters behind a position -/

theorem dropWhile_located (test : Char → Bool) (offset : Nat) (text : List Char) :
    (located offset text).dropWhile (fun x => test x.1)
      = located (offset + byteLength (text.takeWhile test)) (text.dropWhile test) := by
  induction text generalizing offset with
  | nil => rfl
  | cons x text ih =>
    rw [located, List.dropWhile_cons]
    by_cases hx : test x = true
    · rw [if_pos hx, ih, List.takeWhile_cons_of_pos hx, List.dropWhile_cons_of_pos hx,
        byteLength_cons, Nat.add_assoc]
    · rw [if_neg hx, List.takeWhile_cons_of_neg hx, List.dropWhile_cons_of_neg hx]
      rfl

namespace Cursor

/-- The letters of a text behind a position. -/
def letters (c : Cursor) : List (Char × Nat) :=
  located c.offset c.after

theorem letters_of_reaches {c d : Cursor} {w : List Char} (h : c.Reaches w d) :
    c.letters = located c.offset w ++ d.letters := by
  rw [letters, h.after, located_append, ← h.offset_eq, letters]

theorem letters_of_reaches_single {c d : Cursor} {x : Char} (h : c.Reaches [x] d) :
    c.letters = (x, c.offset) :: d.letters :=
  letters_of_reaches h

theorem letters_eq_nil {c : Cursor} (h : c.after = []) : c.letters = [] := by
  rw [letters, h]
  rfl

theorem skipLetters?_letters (c : Cursor) (word : List Char) :
    skipLetters? word c.letters = (c.skip? word).map letters := by
  induction word generalizing c with
  | nil => rfl
  | cons x word ih =>
    cases ha : c.after with
    | nil =>
      rw [letters_eq_nil ha, skip?, next?_eq_none_iff.2 ha]
      rfl
    | cons y rest =>
      rw [letters_of_reaches_single (c.reaches_past ha), skip?, next?_of_after ha, skipLetters?]
      simp only
      split
      · exact ih _
      · rfl

/-- A search for a word looks at one position and goes on at the next one. -/
theorem find?_eq (c : Cursor) (word : List Char) :
    c.find? word =
      match c.skip? word with
      | some e => some (c, e)
      | none =>
        match c.next? with
        | some (_, d) => d.find? word
        | none => none := by
  rw [find?, seek_eq]
  cases hs : c.skip? word with
  | some e => simp [hs]
  | none =>
    cases c.next? with
    | some step => simp [find?]
    | none => simp

theorem findLetters?_letters (c : Cursor) (word : List Char) :
    findLetters? word c.letters = (c.find? word).map fun found => found.2.letters := by
  induction c using induction_after with
  | step c ih =>
    have hskip := skipLetters?_letters c word
    rw [find?_eq]
    cases ha : c.after with
    | nil =>
      rw [letters_eq_nil ha] at hskip ⊢
      rw [findLetters?, hskip, next?_eq_none_iff.2 ha]
      cases c.skip? word <;> rfl
    | cons x rest =>
      have hx := c.reaches_past ha
      rw [letters_of_reaches_single hx] at hskip ⊢
      rw [findLetters?, hskip, next?_of_after ha]
      cases c.skip? word with
      | some e => rfl
      | none => exact ih _ (by rw [hx.length_eq]; simp)

theorem letters_skipWhile (c : Cursor) (test : Char → Bool) :
    (c.skipWhile test).letters = c.letters.dropWhile fun x => test x.1 := by
  have hw := c.reaches_skipWhile test
  have hafter : (c.skipWhile test).after = c.after.dropWhile test := by
    have hsplit := List.takeWhile_append_dropWhile (p := test) (l := c.after)
    exact List.append_cancel_left (hw.after.symm.trans hsplit.symm)
  rw [letters, hw.offset_eq, hafter, letters, dropWhile_located]

/-- A letter in front of all spans lies outside them. -/
theorem lettersOutside_of_reaches {c d : Cursor} {x : Char} (h : c.Reaches [x] d)
    {spans : List Span} (hs : SpansFrom d spans) :
    lettersOutside c spans = (x, c.offset) :: lettersOutside d spans := by
  cases spans with
  | nil => exact letters_of_reaches_single h
  | cons s rest =>
    obtain ⟨⟨w, hw⟩, -⟩ := hs
    rw [lettersOutside, lettersOutside, hw.upTo_eq, (h.trans hw).upTo_eq, located_append,
      ← h.offset_eq]
    rfl

theorem behind?_letters (c : Cursor) (style : CommentStyle) :
    style.behind? c.letters = (style.stop? c).map letters := by
  cases style with
  | line opening =>
    rw [CommentStyle.behind?, CommentStyle.stop?, skipLetters?_letters, Option.map_map,
      Option.map_map]
    exact congrArg (Option.map · _) (funext fun d => (d.letters_skipWhile (· != '\n')).symm)
  | block opening closing =>
    rw [CommentStyle.behind?, CommentStyle.stop?, skipLetters?_letters]
    cases c.skip? opening with
    | none => rfl
    | some body =>
      refine (body.findLetters?_letters closing).trans ?_
      rw [Option.map_map]
      rfl

/-- The letters outside the comments behind a position. -/
theorem lettersOutside_spans {style : CommentStyle} (h : style.opening ≠ []) (c : Cursor) :
    lettersOutside c (c.spans style.stop?) = style.outside c.letters := by
  have hconsumes := CommentStyle.consumes h
  induction c using induction_after with
  | step c ih =>
    have hbehind := behind?_letters c style
    rw [spans_eq hconsumes]
    cases hs : style.stop? c with
    | some d =>
      obtain ⟨w, hw, hd⟩ := hconsumes c d hs
      have := List.length_pos_iff.2 hw
      rw [hs] at hbehind
      rw [CommentStyle.outside_of_behind? h hbehind, ← ih d (by rw [hd.length_eq]; omega),
        lettersOutside, (Reaches.refl c).upTo_eq]
      rfl
    | none =>
      rw [hs] at hbehind
      cases ha : c.after with
      | nil =>
        rw [next?_eq_none_iff.2 ha, letters_eq_nil ha, CommentStyle.outside_nil]
        exact letters_eq_nil ha
      | cons x rest =>
        have hx := c.reaches_past ha
        rw [next?_of_after ha]
        rw [letters_of_reaches_single hx] at hbehind ⊢
        rw [CommentStyle.outside_cons hbehind, ← ih _ (by rw [hx.length_eq]; simp)]
        exact lettersOutside_of_reaches hx (spansFrom_spans hconsumes _)

end Cursor

/-- A pass leaves the letters outside the comments. -/
theorem Stripped.letters_remove_eq_outside (s : Stripped) {style : CommentStyle}
    (h : style.opening ≠ []) : (s.remove style).letters = style.outside s.letters := by
  rw [letters_remove s h, letters]
  have hpass := Cursor.lettersOutside_spans h (.start s.text)
  refine (congrArg (List.map _) hpass).trans ?_
  exact (CommentStyle.outside_relocate h (located 0 s.text)).symm

end CatalogAudit
