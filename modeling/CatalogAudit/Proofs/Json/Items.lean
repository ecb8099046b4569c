import CatalogAudit.Proofs.Json.Skipping

/-!
# Reading lists

A list is read item by item, by a reader that knows what its items are.

* `Json.gives_nextElement_true_iff` and so on: what stands between the items.
* `Json.exists_of_gives_readItemsFrom`, `Json.gives_readItemsFrom`: what is read item by item is
  a list in the grammar, and the other way round.
* `Json.gives_expectTexts_iff`: lists of strings are read, and nothing else is.
* `Json.Writes.eq_text`, `Json.Writes.eq_list`: their texts are those of no other documents.
-/

namespace CatalogAudit.Json

/-! ### Between the items -/

/-- An item comes next behind blanks, and behind a comma unless it is the first one. -/
theorem gives_nextElement_true_iff {first : Bool} {i : Input} {rest : List Char} :
    Gives (nextElement first i) true rest
      ↔ ∃ front c letters, Separates first front ∧ isBlank c = false ∧ c ≠ ']'
        ∧ rest = c :: letters ∧ i.rest = front ++ rest := by
  constructor
  · intro h
    obtain ⟨blanks, hblanks, hleft⟩ := exists_blanks i
    have hblank {c : Char} {letters : List Char} (h : (skipBlanks i).rest = c :: letters) :=
      isBlank_of_skipBlanks h
    rw [nextElement] at h
    generalize skipBlanks i = j at h hleft hblank
    obtain ⟨left, reached⟩ := j
    simp only at h hblank
    cases first with
    | true =>
      simp only [if_true] at h
      split at h
      · exact absurd h (not_gives_failNext _ _ _ _)
      · cases (gives_ok_iff.1 h).1
      · obtain ⟨-, rfl⟩ := gives_ok_iff.1 h
        exact ⟨blanks, ',', _, .first hblanks, by decide, by decide, rfl, hleft⟩
      · rename_i hnil hclose _
        obtain ⟨-, rfl⟩ := gives_ok_iff.1 h
        obtain ⟨c, letters, rfl⟩ := List.exists_cons_of_ne_nil hnil
        refine ⟨blanks, c, letters, .first hblanks, hblank rfl, ?_, rfl, hleft⟩
        rintro rfl
        exact hclose _ rfl
    | false =>
      simp only [Bool.false_eq_true, if_false] at h
      split at h
      · exact absurd h (not_gives_failNext _ _ _ _)
      · cases (gives_ok_iff.1 h).1
      · rename_i behind
        obtain ⟨others, hothers, hbehind⟩ :=
          exists_blanks (Input.advance { rest := ',' :: behind, offset := reached })
        have hnext {c : Char} {letters : List Char}
            (h : (skipBlanks (Input.advance { rest := ',' :: behind, offset := reached })).rest
              = c :: letters) := isBlank_of_skipBlanks h
        generalize skipBlanks (Input.advance { rest := ',' :: behind, offset := reached }) = k
          at h hbehind hnext
        obtain ⟨left, reached⟩ := k
        obtain rfl : behind = others ++ left := hbehind
        simp only at h hnext
        split at h
        · exact absurd h (not_gives_failNext _ _ _ _)
        · exact absurd h (not_gives_failNext _ _ _ _)
        · rename_i hnil hclose
          obtain ⟨-, rfl⟩ := gives_ok_iff.1 h
          obtain ⟨c, letters, rfl⟩ := List.exists_cons_of_ne_nil hnil
          refine ⟨blanks ++ ',' :: others, c, letters, .comma hblanks hothers, hnext rfl, ?_, rfl,
            by simp [hleft]⟩
          rintro rfl
          exact hclose _ rfl
      · exact absurd h (not_gives_failNext _ _ _ _)
  · rintro ⟨front, c, letters, hfront, hblank, hc, rfl, hleft⟩
    obtain ⟨left, offset⟩ := i
    obtain rfl : left = front ++ c :: letters := hleft
    cases hfront with
    | first hblanks =>
      rw [nextElement, skipBlanks_append hblanks hblank]
      by_cases hcomma : c = ','
      · subst hcomma
        exact ⟨_, rfl⟩
      · simp [hc, hcomma]
    | @comma blanks behind hblanks hbehind =>
      have hcomma : isBlank ',' = false := rfl
      rw [List.append_assoc, List.cons_append, nextElement, skipBlanks_append hblanks hcomma]
      simp [Input.advance, List.tail_cons, skipBlanks_append hbehind hblank, hc]

theorem gives_nextElement_false_iff {first : Bool} {i : Input} {rest : List Char} :
    Gives (nextElement first i) false rest
      ↔ ∃ blanks letters, IsBlanks blanks ∧ rest = ']' :: letters ∧ i.rest = blanks ++ rest := by
  constructor
  · intro h
    obtain ⟨blanks, hblanks, hleft⟩ := exists_blanks i
    rw [nextElement] at h
    generalize skipBlanks i = j at h hleft
    obtain ⟨left, reached⟩ := j
    simp only at h
    split at h
    · exact absurd h (not_gives_failNext _ _ _ _)
    · obtain ⟨-, rfl⟩ := gives_ok_iff.1 h
      exact ⟨blanks, _, hblanks, rfl, hleft⟩
    -- Anything but the bracket is an item or a failure.
    all_goals
      repeat' split at h
    all_goals first
      | exact absurd h (not_gives_failNext _ _ _ _)
      | cases (gives_ok_iff.1 h).1
  · rintro ⟨blanks, letters, hblanks, rfl, hleft⟩
    obtain ⟨left, offset⟩ := i
    obtain rfl : left = blanks ++ ']' :: letters := hleft
    rw [nextElement, skipBlanks_append hblanks rfl]
    exact ⟨_, rfl⟩

theorem endList_eq_ok_iff {i : Input} {rest : List Char} :
    (∃ offset, endList i = .ok { rest, offset })
      ↔ ∃ blanks, IsBlanks blanks ∧ i.rest = blanks ++ ']' :: rest := by
  constructor
  · rintro ⟨offset, h⟩
    obtain ⟨blanks, hblanks, hleft⟩ := exists_blanks i
    rw [endList] at h
    generalize skipBlanks i = j at h hleft
    obtain ⟨left, reached⟩ := j
    simp only at h
    split at h
    · cases h
    · obtain ⟨rfl, -⟩ := Input.mk.inj (Except.ok.inj h)
      exact ⟨blanks, hblanks, hleft⟩
    · split at h <;> cases h
    · cases h
  · rintro ⟨blanks, hblanks, hleft⟩
    obtain ⟨left, offset⟩ := i
    obtain rfl : left = blanks ++ ']' :: rest := hleft
    refine ⟨offset + blanks.length + 1, ?_⟩
    rw [endList, skipBlanks_append hblanks rfl]
    rfl

theorem endList_of_bracket (rest : List Char) (offset : Nat) :
    endList { rest := ']' :: rest, offset } = .ok { rest, offset := offset + 1 } :=
  rfl

/-! ### Items -/

/-- Where no item is written, none comes next. -/
theorem WritesItems.gives_nextElement_false {first : Bool} {letters : List Char}
    (h : WritesItems first [] letters) (rest : List Char) (offset : Nat) :
    Gives (nextElement first { rest := letters ++ rest, offset }) false (']' :: rest) := by
  obtain ⟨hblanks⟩ := h
  exact gives_nextElement_false_iff.2 ⟨_, rest, hblanks, rfl, by simp⟩

/-- Where an item is written, it comes next. -/
theorem WritesItems.exists_gives_nextElement_true {first : Bool} {v : Document}
    {items : List Document} {letters : List Char} (h : WritesItems first (v :: items) letters) :
    ∃ value behind, Writes v value ∧ WritesItems false items behind
      ∧ behind.length < letters.length
      ∧ ∀ rest offset, Gives (nextElement first { rest := letters ++ rest, offset }) true
        (value ++ (behind ++ rest)) := by
  obtain _ | @⟨_, _, _, front, value, behind, hfront, hvalue, hbehind⟩ := h
  obtain ⟨c, inner, hletters, hblank, hc, -⟩ := hvalue.isValue.exists_eq_cons
  refine ⟨value, behind, hvalue, hbehind, ?_, fun rest offset => ?_⟩
  · simp only [hletters, List.length_append, List.length_cons]
    omega
  · exact gives_nextElement_true_iff.2
      ⟨front, c, inner ++ (behind ++ rest), hfront, hblank, hc, by simp [hletters], by simp⟩

theorem gives_expectText_iff_writes {i : Input} {s : String} {rest : List Char} :
    Gives (expectText i) s rest
      ↔ ∃ blanks letters, IsBlanks blanks ∧ Writes (.text s) letters
        ∧ i.rest = blanks ++ (letters ++ rest) := by
  have hwrites {letters : List Char} : Writes (.text s) letters ↔ WritesText s letters :=
    ⟨fun | .text h => h, .text⟩
  simp only [gives_expectText_iff, hwrites]

section Items

variable {α : Type} {item : Input → Outcome α} {document : α → Document}

/-- Behind the opening bracket of a list, or behind an item, the items to come are read. -/
theorem exists_of_gives_readItemsFrom
    (hitem : ∀ i a rest, Gives (item i) a rest →
      ∃ blanks letters, IsBlanks blanks ∧ Writes (document a) letters
        ∧ i.rest = blanks ++ (letters ++ rest))
    {fuel : Nat} {found items : List α} {i : Input} {rest : List Char}
    (h : Gives (readItemsFrom item fuel found i) items rest) :
    ∃ others letters, items = found.reverse ++ others
      ∧ WritesItems found.isEmpty (others.map document) letters ∧ i.rest = letters ++ rest := by
  induction fuel generalizing found i with
  | zero => exact absurd h (not_gives_failNext _ _ _ _)
  | succ fuel ih =>
    rw [readItemsFrom] at h
    split at h
    · exact absurd h (not_gives_error _ _ _)
    · rename_i j hnext
      obtain ⟨blanks, letters, hblanks, hj, hleft⟩ :=
        gives_nextElement_false_iff.1 ⟨j.offset, hnext⟩
      split at h
      · exact absurd h (not_gives_error _ _ _)
      rename_i k hend
      obtain ⟨rfl, rfl⟩ := gives_ok_iff.1 h
      obtain ⟨others, hothers, hk⟩ := endList_eq_ok_iff.1 ⟨k.offset, hend⟩
      refine ⟨[], (blanks ++ others) ++ [']'], (List.append_nil _).symm, .close ?_, ?_⟩
      · exact List.forall_mem_append.2 ⟨hblanks, hothers⟩
      · simp [hleft, hk]
    · rename_i j hnext
      obtain ⟨front, c, letters, hfront, hc, -, hj, hleft⟩ :=
        gives_nextElement_true_iff.1 ⟨j.offset, hnext⟩
      split at h
      · exact absurd h (not_gives_error _ _ _)
      rename_i a k hread
      obtain ⟨blanks, value, hblanks, hvalue, hk⟩ := hitem j a k.rest ⟨k.offset, hread⟩
      -- The blanks in front of the item have been skipped.
      obtain rfl : blanks = [] := by
        cases blanks with
        | nil => rfl
        | cons d blanks =>
          obtain rfl := (List.cons.inj (hj.symm.trans hk)).1
          exact absurd (hblanks c List.mem_cons_self) (by simp [hc])
      obtain ⟨others, behind, rfl, hothers, hbehind⟩ := ih h
      refine ⟨a :: others, front ++ (value ++ behind), by simp, ?_, ?_⟩
      · exact .item hfront hvalue hothers
      · simp [hleft, hk, hbehind]

theorem gives_readItemsFrom
    (hitem : ∀ i a rest, (∃ blanks letters, IsBlanks blanks ∧ Writes (document a) letters
      ∧ i.rest = blanks ++ (letters ++ rest)) → Gives (item i) a rest)
    {items : List α} {found : List α} {letters : List Char}
    (h : WritesItems found.isEmpty (items.map document) letters)
    {fuel : Nat} (hfuel : letters.length ≤ fuel) (rest : List Char) (offset : Nat) :
    Gives (readItemsFrom item fuel found { rest := letters ++ rest, offset })
      (found.reverse ++ items) rest := by
  induction items generalizing found letters fuel offset with
  | nil =>
    obtain ⟨reached, hnext⟩ := WritesItems.gives_nextElement_false h rest offset
    obtain ⟨fuel, rfl⟩ : ∃ n, fuel = n + 1 := by
      obtain ⟨hblanks⟩ := h
      exact Nat.exists_eq_add_one.2 (Nat.lt_of_lt_of_le (by simp) hfuel)
    rw [readItemsFrom, hnext, List.append_nil]
    simp only [endList_of_bracket]
    exact ⟨_, rfl⟩
  | cons a items ih =>
    obtain ⟨value, behind, hvalue, hbehind, hlength, hnext⟩ := h.exists_gives_nextElement_true
    obtain ⟨fuel, rfl⟩ := Nat.exists_eq_add_one.2
      (Nat.lt_of_lt_of_le (Nat.zero_lt_of_lt hlength) hfuel)
    obtain ⟨reached, hnext⟩ := hnext rest offset
    obtain ⟨left, hread⟩ := hitem { rest := value ++ (behind ++ rest), offset := reached } a
      (behind ++ rest) ⟨[], value, List.forall_mem_nil _, hvalue, rfl⟩
    rw [readItemsFrom, hnext]
    simp only [hread]
    replace hbehind : WritesItems (a :: found).isEmpty (items.map document) behind := hbehind
    have hall := ih hbehind (Nat.le_of_lt_succ (Nat.lt_of_lt_of_le hlength hfuel)) left
    rwa [List.reverse_cons, List.append_assoc] at hall

end Items

/-- A list of strings is read, and no other value is. -/
theorem gives_expectTexts_iff {i : Input} {texts : List String} {rest : List Char} :
    Gives (expectTexts i) texts rest
      ↔ ∃ blanks letters, IsBlanks blanks ∧ Writes (.list (texts.map .text)) letters
        ∧ i.rest = blanks ++ (letters ++ rest) := by
  constructor
  · intro h
    obtain ⟨blanks, hblanks, hleft⟩ := exists_blanks i
    rw [expectTexts] at h
    generalize skipBlanks i = j at h hleft
    obtain ⟨left, reached⟩ := j
    simp only at h
    split at h
    · exact absurd h (not_gives_failNext _ _ _ _)
    · obtain ⟨others, letters, rfl, hitems, hbehind⟩ :=
        exists_of_gives_readItemsFrom (fun _ _ _ => gives_expectText_iff_writes.1) h
      refine ⟨blanks, '[' :: letters, hblanks, .list hitems, ?_⟩
      simp_all [Input.advance]
    · exact absurd h (not_gives_failType _ _ _ _)
  · rintro ⟨blanks, letters, hblanks, hletters, hleft⟩
    obtain ⟨left, offset⟩ := i
    obtain rfl : left = blanks ++ (letters ++ rest) := hleft
    obtain _ | _ | _ | _ | hitems := hletters
    rw [List.cons_append, expectTexts, skipBlanks_append hblanks rfl]
    refine @gives_readItemsFrom _ _ _ (fun _ _ _ => gives_expectText_iff_writes.2) texts [] _
      hitems _ ?_ rest _
    simp only [List.length_cons, List.length_append]
    omega

/-! ### Texts of one document only -/

theorem Gives.unique {α : Type} {o : Outcome α} {a b : α} {rest left : List Char}
    (h : Gives o a rest) (h' : Gives o b left) : a = b ∧ rest = left := by
  obtain ⟨offset, rfl⟩ := h
  simpa using h'

theorem not_isNumber_of_eq_cons {letters rest behind : List Char} {c : Char}
    (h : letters ++ rest = c :: behind) (hdigit : isDigit c = false) (hsign : c ≠ '-') :
    ¬IsNumber letters := by
  intro hnumber
  obtain ⟨d, front, rfl, hd⟩ := hnumber.exists_eq_cons
  obtain ⟨rfl, -⟩ := List.cons.inj h
  rcases hd with hd | hd
  · exact hsign hd
  · exact Bool.false_ne_true (hdigit.symm.trans hd)

/-- The text of a string is the text of nothing else. -/
theorem Writes.eq_text {v : Document} {s : String} {letters : List Char} (h : Writes v letters)
    (htext : WritesText s letters) : v = .text s := by
  obtain ⟨inner, hinner, rfl⟩ := htext
  generalize hletters : '"' :: (inner ++ ['"']) = letters at h
  cases h with
  | null => cases hletters
  | boolean b => cases b <;> cases hletters
  | number h =>
    have hcons := (List.append_nil letters).trans hletters.symm
    exact absurd h (not_isNumber_of_eq_cons hcons rfl (by decide))
  | @text s' _ h =>
    obtain ⟨others, hothers, rfl⟩ := h
    have hread : Gives (readText { rest := inner ++ ['"'], offset := 0 }) s [] :=
      gives_readText_iff.2 ⟨inner, hinner, rfl⟩
    have hread' : Gives (readText { rest := inner ++ ['"'], offset := 0 }) s' [] :=
      gives_readText_iff.2 ⟨others, hothers, (List.cons.inj hletters).2⟩
    rw [(hread.unique hread').1]
  | list | object => cases hletters

/-- The texts of lists of strings are those of nothing else. -/
theorem WritesItems.eq_map_text {first : Bool} {items : List Document} {texts : List String}
    {letters : List Char} (h : WritesItems first items letters)
    (htexts : WritesItems first (texts.map .text) letters) : items = texts.map .text := by
  -- Both lists go on or end in the same place.
  induction texts generalizing first items letters with
  | nil =>
    have hend := WritesItems.gives_nextElement_false htexts [] 0
    cases items with
    | nil => rfl
    | cons v items =>
      obtain ⟨value, behind, -, -, -, hnext⟩ := h.exists_gives_nextElement_true
      cases ((hnext [] 0).unique hend).1
  | cons s texts ih =>
    obtain ⟨text, rest, htext, hrest, -, hnext⟩ := htexts.exists_gives_nextElement_true
    cases items with
    | nil => cases ((hnext [] 0).unique (h.gives_nextElement_false [] 0)).1
    | cons v items =>
      obtain ⟨value, left, hvalue, hleft, -, hnext'⟩ := h.exists_gives_nextElement_true
      have heq : text ++ rest = value ++ left := by
        simpa using ((hnext [] 0).unique (hnext' [] 0)).2
      have hstring : WritesText s text := by
        cases htext
        assumption
      obtain ⟨inner, hinner⟩ := hstring.isText.exists_eq_cons
      have hquote : text ++ rest = '"' :: (inner ++ rest) := by rw [hinner, List.cons_append]
      have hdigit : isDigit '"' = false := rfl
      have hsign : '"' ≠ '-' := by decide
      obtain ⟨rfl, rfl⟩ := IsValue.eq_of_append_eq (List.forall_mem_nil _) (List.forall_mem_nil _)
        htext.isValue hvalue.isValue
        (fun h => absurd h (not_isNumber_of_eq_cons hquote hdigit hsign))
        (fun h => absurd h (not_isNumber_of_eq_cons (heq.symm.trans hquote) hdigit hsign)) heq
      rw [hvalue.eq_text hstring, ih hleft hrest, List.map_cons]

theorem Writes.eq_list {v : Document} {texts : List String} {letters : List Char}
    (h : Writes v letters) (htexts : Writes (.list (texts.map .text)) letters) :
    v = .list (texts.map .text) := by
  cases htexts with
  | @list _ inner htexts =>
    generalize hletters : '[' :: inner = letters at h
    cases h with
    | null => cases hletters
    | boolean b => cases b <;> cases hletters
    | number h =>
      have hcons := (List.append_nil letters).trans hletters.symm
      exact absurd h (not_isNumber_of_eq_cons hcons rfl (by decide))
    | text h =>
      obtain ⟨others, -, rfl⟩ := h
      cases hletters
    | list h =>
      obtain ⟨-, rfl⟩ := List.cons.inj hletters
      rw [h.eq_map_text htexts]
    | object => cases hletters

end CatalogAudit.Json
