import CatalogAudit.Pattern.Escape

/-!
# A parenthesis behind the smallest parts

What the reader of a pattern does with a text mostly does not depend on what
stands behind it. Here a closing parenthesis is put behind the text. A reader
that succeeds on the text then succeeds in the same way and leaves the
parenthesis to be read, unless the text ends in a comment and the parenthesis is
hidden in it. A reader that fails on the text may succeed with the parenthesis,
but then nothing good can come after that.

* `Extends`: what a reader gives on a text, and with a parenthesis behind it.
* `Extends.bind`: one reader after another.
* `extends_readEscape`: escapes.
-/

namespace CatalogAudit.Pattern

variable {α β : Type}

/-- The text ends in what is a comment where comments do not count: a number sign
    with no newline behind it. -/
def EndsBehindSign (r : List Char) : Prop :=
  ∃ front comment, r = front ++ '#' :: comment ∧ '\n' ∉ comment

theorem EndsBehindSign.of_suffix {q r : List Char} (h : EndsBehindSign q) (hsuffix : q <:+ r) :
    EndsBehindSign r := by
  obtain ⟨front, comment, rfl, hcomment⟩ := h
  obtain ⟨before, rfl⟩ := hsuffix
  exact ⟨before ++ front, comment, (List.append_assoc _ _ _).symm, hcomment⟩

/-- What a reader gives on a text `r`, and what it gives with a closing
    parenthesis behind the text. Where it fails on the text alone it may give what
    is `Doomed`. -/
inductive Extends (Doomed : α → List Char → Prop) (r : List Char) :
    Option (α × List Char) → Option (α × List Char) → Prop
  | seen (v : α) {rest : List Char} :
    rest <:+ r → Extends Doomed r (some (v, rest)) (some (v, rest ++ [')']))
  | hidden (v : α) : EndsBehindSign r → Extends Doomed r (some (v, [])) (some (v, []))
  | failed {b : Option (α × List Char)} :
    (∀ v rest, b = some (v, rest) → Doomed v rest) → Extends Doomed r none b

/-- Nothing is doomed: a reader that fails on a text fails with the parenthesis. -/
def Never : α → List Char → Prop := fun _ _ => False

/-- The parenthesis was taken for something else, and nothing is left. -/
def AtEnd : α → List Char → Prop := fun _ rest => rest = []

namespace Extends

variable {Doomed Doomed' : α → List Char → Prop} {q r rest : List Char}
  {a b : Option (α × List Char)}

theorem none_none : Extends Doomed r none none :=
  .failed fun _ _ h => by cases h

theorem mono (h : Extends Doomed q a b) (hdoomed : ∀ v rest, Doomed v rest → Doomed' v rest)
    (hsuffix : q <:+ r) : Extends Doomed' r a b := by
  cases h with
  | seen v hrest => exact .seen v (hrest.trans hsuffix)
  | hidden v hsign => exact .hidden v (hsign.of_suffix hsuffix)
  | failed h => exact .failed fun v rest hb => hdoomed v rest (h v rest hb)

/-- A value that does not depend on the text. -/
theorem of_option (o : Option β) (f : β → α) (hrest : rest <:+ r) :
    Extends Doomed r (o.map fun x => (f x, rest)) (o.map fun x => (f x, rest ++ [')'])) := by
  cases o with
  | none => exact none_none
  | some x => exact .seen _ hrest

theorem of_option_hidden (o : Option β) (f : β → α) (hsign : EndsBehindSign r) :
    Extends Doomed r (o.map fun x => (f x, [])) (o.map fun x => (f x, [])) := by
  cases o with
  | none => exact none_none
  | some x => exact .hidden _ hsign

/-- One reader after another. What is doomed after the first must be so after the
    second. -/
theorem bind {Behind : β → List Char → Prop} {f : α → List Char → Option (β × List Char)}
    (h : Extends Doomed r a b)
    (hseen : ∀ v rest, rest <:+ r → Extends Behind r (f v rest) (f v (rest ++ [')'])))
    (hhidden : EndsBehindSign r → ∀ v, Extends Behind r (f v []) (f v []))
    (hdoomed : ∀ v rest, Doomed v rest → ∀ w left, f v rest = some (w, left) → Behind w left) :
    Extends Behind r (a.bind fun x => f x.1 x.2) (b.bind fun x => f x.1 x.2) := by
  cases h with
  | seen v hrest => exact hseen v _ hrest
  | hidden v hsign => exact hhidden hsign v
  | failed h =>
    refine .failed fun w left hb => ?_
    obtain ⟨⟨v, rest⟩, hv, hf⟩ := Option.bind_eq_some_iff.1 hb
    exact hdoomed v rest (h v rest hv) w left hf

/-- A reader whose values are only renamed. -/
theorem map (f : α → β) {Behind : β → List Char → Prop} (h : Extends Doomed r a b)
    (hdoomed : ∀ v rest, Doomed v rest → Behind (f v) rest) :
    Extends Behind r (a.map fun x => (f x.1, x.2)) (b.map fun x => (f x.1, x.2)) := by
  rw [Option.map_eq_bind, Option.map_eq_bind]
  refine h.bind (f := fun v rest => some (f v, rest)) (fun v rest hrest => .seen _ hrest)
    (fun hsign v => .hidden _ hsign) ?_
  intro v rest hv w left he
  obtain ⟨rfl, rfl⟩ := Prod.ext_iff.1 (Option.some.inj he)
  exact hdoomed v rest hv

end Extends

theorem rest_of_map {o : Option β} {f : β → α} {rest rest' : List Char} {v : α}
    (h : o.map (fun x => (f x, rest)) = some (v, rest')) : rest' = rest := by
  cases o with
  | none => cases h
  | some x => exact (Prod.ext_iff.1 (Option.some.inj h)).2.symm

/-! ### Blanks and digits -/

variable {flags : Flags} {r : List Char}

theorem isWhiteSpace_parenthesis : Unicode.isWhiteSpace ')' = false := by decide +kernel

theorem EndsBehindSign.cons {r : List Char} (c : Char) (h : EndsBehindSign r) :
    EndsBehindSign (c :: r) :=
  h.of_suffix (List.suffix_cons c r)

theorem skipBlanks_append (inComment : Bool) (r : List Char) :
    skipBlanks inComment (r ++ [')']) = skipBlanks inComment r ++ [')']
      ∨ skipBlanks inComment r = [] ∧ skipBlanks inComment (r ++ [')']) = []
        ∧ (inComment = true ∧ '\n' ∉ r ∨ EndsBehindSign r) := by
  fun_induction skipBlanks inComment r with
  | case1 inComment => cases inComment <;> simp [skipBlanks, isWhiteSpace_parenthesis]
  | case2 c rest ih =>
    simp only [List.cons_append, skipBlanks, if_true]
    refine ih.imp id fun ⟨hnil, hnil', hsign⟩ => ⟨hnil, hnil', ?_⟩
    rcases hsign with ⟨hc, hrest⟩ | hsign
    · exact .inl ⟨trivial, by simpa [eq_comm] using And.intro (bne_iff_ne.1 hc) hrest⟩
    · exact .inr (hsign.cons c)
  | case3 inComment c rest hcomment hblank ih =>
    simp only [List.cons_append, skipBlanks, hcomment, hblank, if_true]
    refine ih.imp id fun ⟨hnil, hnil', hsign⟩ => ⟨hnil, hnil', .inr ?_⟩
    exact (hsign.resolve_left fun h => Bool.false_ne_true h.1).cons c
  | case4 inComment rest hcomment hblank ih =>
    simp only [List.cons_append, skipBlanks, hcomment, hblank, if_true]
    refine ih.imp id fun ⟨hnil, hnil', hsign⟩ => ⟨hnil, hnil', .inr ?_⟩
    rcases hsign with ⟨-, hrest⟩ | hsign
    · exact ⟨[], rest, rfl, hrest⟩
    · exact hsign.cons '#'
  | case5 inComment c rest hcomment hblank hc => simp [skipBlanks, hblank, hc, hcomment]

/-- A parenthesis stays behind the blanks, unless it is hidden in a comment. -/
theorem skip_append (flags : Flags) (r : List Char) :
    flags.skip (r ++ [')']) = flags.skip r ++ [')']
      ∨ flags.skip r = [] ∧ flags.skip (r ++ [')']) = [] ∧ EndsBehindSign r := by
  unfold Flags.skip
  cases flags.verbose with
  | true => simpa using skipBlanks_append false r
  | false => exact .inl rfl

theorem skip_append_of_cons {c : Char} {rest : List Char} (h : flags.skip r = c :: rest) :
    flags.skip (r ++ [')']) = c :: (rest ++ [')']) := by
  rcases skip_append flags r with happend | ⟨hnil, -⟩
  · rw [happend, h, List.cons_append]
  · cases hnil.symm.trans h

theorem skipBlanks_suffix (inComment : Bool) (r : List Char) : skipBlanks inComment r <:+ r := by
  fun_induction skipBlanks inComment r with
  | case1 => exact List.suffix_rfl
  | case2 c rest ih => exact ih.trans (List.suffix_cons _ _)
  | case3 inComment c rest hcomment hblank ih => exact ih.trans (List.suffix_cons _ _)
  | case4 inComment rest hcomment hblank ih => exact ih.trans (List.suffix_cons _ _)
  | case5 => exact List.suffix_rfl

theorem skip_suffix (flags : Flags) (r : List Char) : flags.skip r <:+ r := by
  unfold Flags.skip
  split
  · exact skipBlanks_suffix false r
  · exact List.suffix_rfl

theorem length_skip_le (flags : Flags) (r : List Char) : (flags.skip r).length ≤ r.length :=
  (skip_suffix flags r).length_le

theorem skip_nil (flags : Flags) : flags.skip [] = [] := by
  unfold Flags.skip
  split <;> rfl

theorem skip_cons_of_not_blank (flags : Flags) {c : Char} (hblank : Unicode.isWhiteSpace c = false)
    (hc : c ≠ '#') (rest : List Char) : flags.skip (c :: rest) = c :: rest := by
  unfold Flags.skip
  split
  · simp [skipBlanks, hblank, hc]
  · rfl

variable {test : Char → Bool}

theorem gather_nil (flags : Flags) (test : Char → Bool) (n : Nat) :
    gather flags test n [] = ([], []) := by
  cases n <;> rfl

theorem gather_suffix (flags : Flags) (test : Char → Bool) (n : Nat) (r : List Char) :
    (gather flags test n r).2 <:+ r := by
  fun_induction gather flags test n r with
  | case1 r => exact List.suffix_rfl
  | case2 n => exact List.suffix_rfl
  | case3 n c r hc found rest hg ih =>
    rw [hg] at ih
    exact (ih.trans (skip_suffix flags r)).trans (List.suffix_cons c r)
  | case4 n c r hc => exact List.suffix_rfl

/-- As many characters as there are at most are as good as any number. -/
theorem gather_eq_of_length_le {n m : Nat} (hn : r.length ≤ n) (hm : r.length ≤ m) :
    gather flags test n r = gather flags test m r := by
  induction n generalizing r m with
  | zero =>
    obtain rfl : r = [] := List.length_eq_zero_iff.1 (Nat.le_zero.1 hn)
    rw [gather_nil, gather_nil]
  | succ n ih =>
    cases r with
    | nil => rw [gather_nil, gather_nil]
    | cons c r =>
      obtain ⟨m, rfl⟩ : ∃ k, m = k + 1 := ⟨m - 1, by simp at hm; omega⟩
      have hskip := length_skip_le flags r
      simp only [List.length_cons] at hn hm
      rw [gather, gather, ih (r := flags.skip r) (m := m) (by omega) (by omega)]

/-- A run of characters ends in front of a parenthesis that is none of them. -/
theorem gather_append (flags : Flags) (test : Char → Bool) (htest : test ')' = false)
    (n : Nat) (r : List Char) :
    gather flags test n (r ++ [')'])
        = ((gather flags test n r).1, (gather flags test n r).2 ++ [')'])
      ∨ (gather flags test n r).2 = []
        ∧ gather flags test n (r ++ [')']) = ((gather flags test n r).1, [])
        ∧ EndsBehindSign r := by
  induction n generalizing r with
  | zero => exact .inl rfl
  | succ n ih =>
    cases r with
    | nil => simp [gather, htest]
    | cons c r =>
      rw [List.cons_append, gather, gather]
      split
      · rcases skip_append flags r with h | ⟨h, h', hsign⟩
        · rw [h]
          rcases ih (flags.skip r) with h | ⟨h, h', hsign⟩
          · exact .inl (by simp [h])
          · exact .inr ⟨h, by simp [h'], (hsign.of_suffix (skip_suffix flags r)).cons c⟩
        · rw [h, h', gather_nil]
          exact .inr ⟨rfl, rfl, hsign.cons c⟩
      · exact .inl rfl

/-- A run of characters that takes in the parenthesis either ended before or goes
    on to the end. -/
theorem gather_append_of_test (flags : Flags) (test : Char → Bool) (htest : test ')' = true)
    {n : Nat} (hn : r.length < n) :
    (gather flags test n r).2 ≠ []
        ∧ gather flags test n (r ++ [')'])
          = ((gather flags test n r).1, (gather flags test n r).2 ++ [')'])
      ∨ (gather flags test n r).2 = [] ∧ (gather flags test n (r ++ [')'])).2 = [] := by
  induction n generalizing r with
  | zero => simp at hn
  | succ n ih =>
    cases r with
    | nil => simp [gather, htest, skip_nil, gather_nil]
    | cons c r =>
      rw [List.cons_append, gather, gather]
      have hskip := length_skip_le flags r
      rw [List.length_cons] at hn
      split
      · rcases skip_append flags r with h | ⟨h, h', -⟩
        · rw [h]
          rcases ih (r := flags.skip r) (by omega) with ⟨h, h'⟩ | ⟨h, h'⟩
          · exact .inl ⟨h, by simp [h']⟩
          · exact .inr ⟨h, h'⟩
        · rw [h, h', gather_nil]
          exact .inr ⟨rfl, rfl⟩
      · exact .inl ⟨List.cons_ne_nil _ _, rfl⟩

/-- Blanks may be skipped behind what was read. -/
theorem Extends.skip (flags : Flags) {a b : Option (α × List Char)} (h : Extends Never r a b) :
    Extends Never r (a.map fun x => (x.1, flags.skip x.2)) (b.map fun x => (x.1, flags.skip x.2)) := by
  rw [Option.map_eq_bind, Option.map_eq_bind]
  refine h.bind (f := fun v rest => some (v, flags.skip rest)) (fun v rest hrest => ?_)
    (fun hsign v => ?_) fun _ _ => False.elim
  · rcases skip_append flags rest with h | ⟨h, h', hsign⟩
    · rw [h]
      exact .seen v ((skip_suffix flags rest).trans hrest)
    · rw [h, h']
      exact .hidden v (hsign.of_suffix hrest)
  · rw [skip_nil]
    exact .hidden v hsign

/-! ### Escapes -/

theorem isHexDigit_parenthesis : isHexDigit ')' = false := by decide

/-- The end of what is written in braces. -/
def closeBrace (value? : List Char → Option α) : List Char × List Char → Option (α × List Char)
  | (found, '\x7d' :: rest) => (value? found).map (·, rest)
  | _ => none

section Braces

variable {value? : List Char → Option α}

theorem closeBrace_of_ne (found rest : List Char) {c : Char} (hc : c ≠ '\x7d') :
    closeBrace value? (found, c :: rest) = none := by
  rw [closeBrace]
  rintro found more he
  exact absurd (List.cons.inj (Prod.ext_iff.1 he).2).1 hc

theorem extends_closeBrace (value? : List Char → Option α) (found rest : List Char) :
    Extends Never rest (closeBrace value? (found, rest))
      (closeBrace value? (found, rest ++ [')'])) := by
  cases rest with
  | nil => exact .none_none
  | cons c rest =>
    rw [List.cons_append]
    by_cases hc : c = '\x7d'
    · subst hc
      exact .of_option _ _ (List.suffix_cons _ _)
    · rw [closeBrace_of_ne found _ hc, closeBrace_of_ne found _ hc]
      exact .none_none

/-- What is written in braces ends with the closing brace, whatever is behind
    it. -/
theorem extends_gather_closeBrace (flags : Flags) {test : Char → Bool} (htest : test ')' = false)
    (value? : List Char → Option α) (n : Nat) (r : List Char) :
    Extends Never r (closeBrace value? (gather flags test n r))
      (closeBrace value? (gather flags test n (r ++ [')']))) := by
  have hsuffix := gather_suffix flags test n r
  have hgather := gather_append flags test htest n r
  generalize gather flags test n r = x at hgather hsuffix ⊢
  obtain ⟨found, left⟩ := x
  rcases hgather with hg | ⟨hg, hg', -⟩
  · rw [hg]
    exact (extends_closeBrace value? found left).mono (fun _ _ => id) hsuffix
  · obtain rfl : left = [] := hg
    rw [hg']
    exact .none_none

end Braces

/-- The character that hexadecimal digits in braces write. -/
def hexAtom? (found : List Char) : Option Atom :=
  if found.isEmpty then none else (charOf? (numberOf 16 found)).map (.char · false)

theorem readHex_of_brace {digits n : Nat} {rest : List Char} (h : flags.skip r = '\x7b' :: rest)
    (hn : rest.length ≤ n) :
    readHex flags digits r
      = (closeBrace hexAtom? (gather flags isHexDigit n (flags.skip rest))).map
        fun x => (x.1, flags.skip x.2) := by
  have hskip := length_skip_le flags rest
  rw [gather_eq_of_length_le (m := rest.length) (by omega) hskip, readHex, h]
  simp only
  split
  · rename_i found left hgather
    rw [hgather, closeBrace, hexAtom?]
    cases found.isEmpty with
    | true => rfl
    | false => cases charOf? (numberOf 16 found) <;> rfl
  · rename_i hnone
    rw [closeBrace]
    · rfl
    · exact hnone

/-- The character that a fixed number of hexadecimal digits writes. -/
def fixedHex (digits : Nat) (x : List Char × List Char) : Option (Atom × List Char) :=
  if x.1.length < digits then none
  else (charOf? (numberOf 16 x.1)).map fun c => (.char c (digits == 2), x.2)

theorem readHex_of_ne {digits : Nat} (h : ∀ rest, flags.skip r ≠ '\x7b' :: rest) :
    readHex flags digits r = fixedHex digits (gather flags isHexDigit digits (flags.skip r)) := by
  rw [readHex]
  split
  · rename_i rest hrest
    exact absurd hrest (h rest)
  · rfl

theorem cons_ne_append {c : Char} (hc : c ≠ ')') (h : ∀ rest, r ≠ c :: rest) (rest : List Char) :
    r ++ [')'] ≠ c :: rest := by
  cases r with
  | nil => simp [Ne.symm hc]
  | cons d r =>
    intro he
    exact h r (congrArg (· :: r) (List.cons.inj he).1)

/-- No digits behind a parenthesis make it a digit. -/
theorem extends_gather_fixedHex (flags : Flags) (digits : Nat) (r : List Char) :
    Extends Never r (fixedHex digits (gather flags isHexDigit digits r))
      (fixedHex digits (gather flags isHexDigit digits (r ++ [')']))) := by
  have hsuffix := gather_suffix flags isHexDigit digits r
  have hgather := gather_append flags isHexDigit isHexDigit_parenthesis digits r
  generalize gather flags isHexDigit digits r = x at hgather hsuffix ⊢
  obtain ⟨found, left⟩ := x
  unfold fixedHex
  rcases hgather with hg | ⟨hg, hg', hsign⟩
  · rw [hg]
    split
    · exact .none_none
    · exact .of_option _ _ hsuffix
  · obtain rfl : left = [] := hg
    rw [hg']
    split
    · exact .none_none
    · exact .of_option_hidden _ _ hsign

theorem extends_readHex (flags : Flags) (digits : Nat) (r : List Char) :
    Extends Never r (readHex flags digits r) (readHex flags digits (r ++ [')'])) := by
  have hskip := skip_suffix flags r
  by_cases hbrace : ∃ rest, flags.skip r = '\x7b' :: rest
  · obtain ⟨rest, hrest⟩ := hbrace
    have hrest' := skip_append_of_cons hrest
    rw [hrest] at hskip
    rw [readHex_of_brace (n := rest.length + 1) hrest (by omega),
      readHex_of_brace (n := rest.length + 1) hrest' (by simp)]
    refine (Extends.skip flags ?_).mono (fun _ _ => id) ((List.suffix_cons _ rest).trans hskip)
    rcases skip_append flags rest with h | ⟨h, h', -⟩
    · rw [h]
      exact (extends_gather_closeBrace flags isHexDigit_parenthesis hexAtom? _ _).mono
        (fun _ _ => id) (skip_suffix flags rest)
    · rw [h, h', gather_nil]
      exact .none_none
  · have hne := not_exists.1 hbrace
    rcases skip_append flags r with h | ⟨h, h', hsign⟩
    · rw [readHex_of_ne hne, readHex_of_ne (r := r ++ [')']) (h ▸ cons_ne_append (by decide) hne), h]
      exact (extends_gather_fixedHex flags digits _).mono (fun _ _ => id) hskip
    · have hne' : ∀ rest, flags.skip (r ++ [')']) ≠ '\x7b' :: rest := by simp [h']
      rw [readHex_of_ne hne, readHex_of_ne hne', h, h', gather_nil, fixedHex]
      split
      · exact .none_none
      · exact .of_option_hidden _ _ hsign

/-- The set of the property that a text between braces names. -/
def queried? (flags : Flags) (negated : Bool) (text : List Char) : Option CharSet :=
  (propertyQuery? text).bind (propertySet? flags negated)

/-- The set of the property that a letter names. -/
def lettered? (flags : Flags) (negated : Bool) (c : Char) : Option CharSet :=
  (Unicode.Property.named? (String.ofList [c])).bind (propertySet? flags negated)

theorem ne_brace_parenthesis : (')' != '\x7d') = true := by decide

/-- The end of a property in braces. -/
def closeProperty (flags : Flags) (negated : Bool) :
    List Char × List Char → Option (CharSet × List Char)
  | (text, _ :: rest) => (queried? flags negated text).map (·, rest)
  | (_, []) => none

theorem readProperty_of_brace {negated : Bool} {n : Nat} {rest : List Char}
    (h : flags.skip r = '\x7b' :: rest) (hn : rest.length ≤ n) :
    readProperty flags negated r
      = closeProperty flags negated (gather flags (· != '\x7d') n (flags.skip rest)) := by
  have hskip := length_skip_le flags rest
  rw [gather_eq_of_length_le (m := rest.length) (by omega) hskip, readProperty, h]
  simp only
  generalize gather flags (· != '\x7d') rest.length (flags.skip rest) = x
  rcases x with ⟨text, _ | ⟨c, rest⟩⟩ <;> rfl

theorem readProperty_of_ne {negated : Bool} {c : Char} {rest : List Char}
    (h : flags.skip r = c :: rest) (hbrace : c ≠ '\x7b') (hescape : c ≠ '\\') :
    readProperty flags negated r = (lettered? flags negated c).map (·, rest) := by
  rw [readProperty, h]
  split
  · rename_i he; cases he
  · rename_i he; exact absurd (List.cons.inj he).1 hbrace
  · rename_i he; exact absurd (List.cons.inj he).1 hescape
  · rename_i he
    obtain ⟨rfl, rfl⟩ := List.cons.inj he
    rfl

/-- Braces that are not closed stay so. -/
theorem extends_gather_closeProperty (flags : Flags) (negated : Bool) {n : Nat} {r : List Char}
    (hn : r.length < n) :
    Extends Never r (closeProperty flags negated (gather flags (· != '\x7d') n r))
      (closeProperty flags negated (gather flags (· != '\x7d') n (r ++ [')']))) := by
  have hsuffix := gather_suffix flags (· != '\x7d') n r
  have hgather := gather_append_of_test flags (· != '\x7d') ne_brace_parenthesis hn
  generalize gather flags (· != '\x7d') n r = x, gather flags (· != '\x7d') n (r ++ [')']) = y
    at hgather hsuffix ⊢
  obtain ⟨text, left⟩ := x
  rcases hgather with ⟨hne, hg⟩ | ⟨hnil, hnil'⟩
  · obtain ⟨d, rest, rfl⟩ := List.exists_cons_of_ne_nil hne
    rw [hg]
    exact .of_option _ _ ((List.suffix_cons d rest).trans hsuffix)
  · obtain ⟨text', left'⟩ := y
    obtain rfl : left = [] := hnil
    obtain rfl : left' = [] := hnil'
    exact .none_none

theorem extends_readProperty (flags : Flags) (negated : Bool) (r : List Char) :
    Extends AtEnd r (readProperty flags negated r) (readProperty flags negated (r ++ [')'])) := by
  have hskip := skip_suffix flags r
  cases hr : flags.skip r with
  | nil =>
    have hnone : readProperty flags negated r = none := by rw [readProperty, hr]
    rw [hnone]
    refine .failed fun v rest h => ?_
    rcases skip_append flags r with happend | ⟨-, happend, -⟩
    · rw [hr] at happend
      rw [readProperty_of_ne happend (by decide) (by decide)] at h
      exact rest_of_map h
    · rw [readProperty, happend] at h
      cases h
  | cons c rest =>
    have happend := skip_append_of_cons hr
    rw [hr] at hskip
    have hrest := (List.suffix_cons c rest).trans hskip
    by_cases hbrace : c = '\x7b'
    · subst hbrace
      have hinner := skip_suffix flags rest
      rw [readProperty_of_brace (n := rest.length + 1) hr (by omega),
        readProperty_of_brace (n := rest.length + 1) happend (by simp)]
      rcases skip_append flags rest with h | ⟨h, h', -⟩
      · rw [h]
        exact (extends_gather_closeProperty flags negated (Nat.lt_succ_of_le hinner.length_le)).mono
          (fun _ _ => False.elim) (hinner.trans hrest)
      · rw [h, h', gather_nil]
        exact .none_none
    by_cases hescape : c = '\\'
    · subst hescape
      rw [readProperty, hr, readProperty, happend]
      exact .none_none
    · rw [readProperty_of_ne hr hbrace hescape, readProperty_of_ne happend hbrace hescape]
      exact .of_option _ _ hrest

theorem isNameChar_parenthesis : isNameChar ')' = false := by decide

/-- A boundary was read in front of a brace that only the parenthesis follows. -/
def Stuck (flags : Flags) : α → List Char → Prop := fun _ rest =>
  ∃ inner, rest = '\x7b' :: inner ∧ flags.skip inner = [')']

theorem readBoundary_of_name {inner more : List Char} {c : Char} {n : Nat}
    (h : flags.skip inner = c :: more) (hc : isNameChar c = true) (hn : more.length + 1 ≤ n) :
    readBoundary flags ('\x7b' :: inner)
      = closeBrace (fun name => namedBoundary? flags (String.ofList name))
        (gather flags isNameChar n (c :: more)) := by
  rw [gather_eq_of_length_le (m := more.length + 1) hn (Nat.le_refl _)]
  simp only [readBoundary, h, hc, if_true]
  split
  · rename_i name rest hgather
    rw [hgather]
    rfl
  · rename_i hnone
    rw [closeBrace]
    exact hnone

/-- Only a brace makes a boundary look further. -/
theorem extends_readBoundary (flags : Flags) (r : List Char) :
    Extends (Stuck flags) r (readBoundary flags r) (readBoundary flags (r ++ [')'])) := by
  by_cases hbrace : ∃ inner, r = '\x7b' :: inner
  · obtain ⟨inner, rfl⟩ := hbrace
    cases hinner : flags.skip inner with
    | nil =>
      have hnone : readBoundary flags ('\x7b' :: inner) = none := by
        simp only [readBoundary, hinner]
      rw [hnone]
      refine .failed fun l rest h => ?_
      rcases skip_append flags inner with happend | ⟨-, happend, -⟩
      · rw [hinner, List.nil_append] at happend
        simp only [List.cons_append, readBoundary, happend, isNameChar_parenthesis,
          Bool.false_eq_true, if_false, Option.some.injEq, Prod.mk.injEq] at h
        exact ⟨inner ++ [')'], h.2.symm, happend⟩
      · simp only [List.cons_append, readBoundary, happend] at h
        cases h
    | cons c more =>
      have happend := skip_append_of_cons hinner
      have hskip := skip_suffix flags inner
      rw [hinner] at hskip
      by_cases hc : isNameChar c = true
      · rw [List.cons_append, readBoundary_of_name (n := more.length + 2) hinner hc (by omega),
          readBoundary_of_name (n := more.length + 2) happend hc (by simp), ← List.cons_append]
        exact (extends_gather_closeBrace flags isNameChar_parenthesis _ _ (c :: more)).mono
          (fun _ _ => False.elim) (hskip.trans (List.suffix_cons _ inner))
      · simp only [List.cons_append, readBoundary, hinner, happend, hc]
        exact .seen _ List.suffix_rfl
  · have hne := not_exists.1 hbrace
    have hplain (r : List Char) (h : ∀ inner, r ≠ '\x7b' :: inner) :
        readBoundary flags r = some (.wordBoundary flags.word, r) := by
      rw [readBoundary]
      exact h
    rw [hplain r hne, hplain _ (cons_ne_append (by decide) hne)]
    exact .seen _ List.suffix_rfl

/-- Nothing is left behind an escape that took in the parenthesis, or a boundary
    stands in front of a brace that only the parenthesis follows. -/
def EscapeDoomed (flags : Flags) : Atom → List Char → Prop := fun a rest =>
  rest = [] ∨ (∃ l, a = .look l) ∧ Stuck flags a rest

/-- The letters whose escapes go on behind them. -/
def isLongEscape (c : Char) : Bool :=
  ['x', 'u', 'U', 'p', 'P', 'b'].contains c

/-- All other escapes end with their letter. -/
theorem readEscape_of_short {c : Char} (hc : isLongEscape c = false) (r : List Char) :
    readEscape flags (c :: r) = ((readEscape flags [c]).map (·.1)).map (·, r) := by
  unfold readEscape
  simp only
  split
  all_goals first
    | exact absurd hc (by decide)
    | split <;> rfl
    | simp only [Option.map_map, Option.map_some, Function.comp_def]

theorem extends_readEscape (flags : Flags) (r : List Char) :
    Extends (EscapeDoomed flags) r (readEscape flags r) (readEscape flags (r ++ [')'])) := by
  cases r with
  | nil =>
    refine .failed fun a rest h => .inl ?_
    have hescape : readEscape flags [')'] = some (.char ')' false, []) := rfl
    rw [List.nil_append, hescape] at h
    exact (Prod.ext_iff.1 (Option.some.inj h)).2.symm
  | cons c r =>
    have hsuffix := List.suffix_cons c r
    rw [List.cons_append]
    by_cases hc : isLongEscape c = true
    · have hlong : c = 'x' ∨ c = 'u' ∨ c = 'U' ∨ c = 'p' ∨ c = 'P' ∨ c = 'b' := by
        simpa [isLongEscape] using hc
      have extends_map {γ : Type} {Doomed : γ → List Char → Prop} {a b : Option (γ × List Char)}
          (f : γ → Atom) (h : Extends Doomed r a b)
          (hdoomed : ∀ v rest, Doomed v rest → EscapeDoomed flags (f v) rest) :
          Extends (EscapeDoomed flags) (c :: r) (a.map fun x => (f x.1, x.2))
            (b.map fun x => (f x.1, x.2)) := (h.map f hdoomed).mono (fun _ _ => id) hsuffix
      have hhex (digits : Nat) : Extends (EscapeDoomed flags) (c :: r)
          (readHex flags digits r) (readHex flags digits (r ++ [')'])) :=
        (extends_readHex flags digits r).mono (fun _ _ => False.elim) hsuffix
      rcases hlong with rfl | rfl | rfl | rfl | rfl | rfl
      · exact hhex 2
      · exact hhex 4
      · exact hhex 8
      · exact extends_map .set (extends_readProperty flags false r) fun _ _ => .inl
      · exact extends_map .set (extends_readProperty flags true r) fun _ _ => .inl
      · exact extends_map .look (extends_readBoundary flags r) fun l _ h => .inr ⟨⟨l, rfl⟩, h⟩
    · rw [readEscape_of_short (Bool.eq_false_iff.2 hc) r,
        readEscape_of_short (Bool.eq_false_iff.2 hc) (r ++ [')'])]
      exact .of_option _ _ hsuffix

end CatalogAudit.Pattern
