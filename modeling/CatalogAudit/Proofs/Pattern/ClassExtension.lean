import CatalogAudit.Pattern.BracketedClass
import CatalogAudit.Proofs.Pattern.Extension

/-!
# A parenthesis behind a bracketed class

A class ends with its closing bracket, so a parenthesis behind the text changes
nothing: a class that is closed stays what it is, and one that is not closed is
not closed by a parenthesis.

* `readClassPart` reads one part of a class.
* `extends_readClass`: a class with a parenthesis behind it.
-/

namespace CatalogAudit.Pattern

variable {flags : Flags} {r : List Char}

/-- Too little is left to close a class. -/
def Short {α : Type} : α → List Char → Prop := fun _ rest => rest = [] ∨ rest = [')']

/-! ### Named classes -/

/-- A run that something ends is the same with more text behind it. -/
theorem takeWhile_append_of_dropWhile {test : Char → Bool} {c : Char} {more : List Char}
    (h : r.dropWhile test = c :: more) (behind : List Char) :
    (r ++ behind).takeWhile test = r.takeWhile test
      ∧ (r ++ behind).dropWhile test = c :: (more ++ behind) := by
  induction r with
  | nil => cases h
  | cons d r ih =>
    by_cases hd : test d = true
    · rw [List.dropWhile_cons_of_pos hd] at h
      obtain ⟨htake, hdrop⟩ := ih h
      simp only [List.cons_append, List.takeWhile_cons_of_pos hd, List.dropWhile_cons_of_pos hd,
        htake, hdrop, and_self]
    · rw [List.dropWhile_cons_of_neg hd] at h
      obtain ⟨rfl, rfl⟩ := List.cons.inj h
      simp [List.takeWhile_cons_of_neg hd, List.dropWhile_cons_of_neg hd]

/-- A run to the end of the text takes in the parenthesis that continues it. -/
theorem dropWhile_append_of_eq_nil {test : Char → Bool} (htest : test ')' = true)
    (h : r.dropWhile test = []) : (r ++ [')']).dropWhile test = [] := by
  rw [List.dropWhile_append, h]
  simp [htest]

/-- The class with a name up to the colon, and the rest. -/
def closeNamed (flags : Flags) (negated : Bool) (rest : List Char) :
    Option (Option CharSet × List Char) :=
  match rest.dropWhile (· != ':') with
  | ':' :: ']' :: behind =>
    (namedClass? (String.ofList (rest.takeWhile (· != ':')))).map fun s =>
      (flags.negate? negated (flags.fold s), behind)
  | _ => none

/-- A class name ends with a colon and a bracket, and the parenthesis is neither. -/
theorem extends_closeNamed (flags : Flags) (negated : Bool) (r : List Char) :
    Extends Never r (closeNamed flags negated r) (closeNamed flags negated (r ++ [')'])) := by
  have hsuffix : r.dropWhile (· != ':') <:+ r := List.dropWhile_suffix _
  cases hr : r.dropWhile (· != ':') with
  | nil =>
    have hr' := dropWhile_append_of_eq_nil (by decide) hr
    simp only [closeNamed, hr, hr']
    exact .none_none
  | cons c more =>
    obtain ⟨htake, hdrop⟩ := takeWhile_append_of_dropWhile hr [')']
    rw [hr] at hsuffix
    simp only [closeNamed, hr, htake, hdrop]
    split
    · rename_i behind he
      obtain ⟨rfl, rfl⟩ := List.cons.inj he
      exact .of_option _ _
        (((List.suffix_cons _ behind).trans (List.suffix_cons _ _)).trans hsuffix)
    · rename_i hnone
      split
      · rename_i behind he
        obtain ⟨rfl, hbehind⟩ := List.cons.inj he
        have hmore : ∀ rest, more ≠ ']' :: rest := fun rest h => hnone rest (by rw [h])
        exact absurd hbehind (cons_ne_append (by decide) hmore behind)
      · exact .none_none

/-- A caret in front of the name negates the class. -/
theorem readNamedClass_caret (flags : Flags) (r : List Char) :
    readNamedClass flags (':' :: '^' :: r) = closeNamed flags true r := rfl

theorem readNamedClass_colon (flags : Flags) (h : ∀ rest, r ≠ '^' :: rest) :
    readNamedClass flags (':' :: r) = closeNamed flags false r := by
  rw [readNamedClass]
  · rfl
  · exact h

theorem readNamedClass_of_ne (flags : Flags) (h : ∀ rest, r ≠ ':' :: rest) :
    readNamedClass flags r = none := by
  rw [readNamedClass]
  exact h

/-- A named class is read up to its own bracket. -/
theorem extends_readNamedClass (flags : Flags) (r : List Char) :
    Extends Never r (readNamedClass flags r) (readNamedClass flags (r ++ [')'])) := by
  by_cases hcolon : ∃ rest, r = ':' :: rest
  · obtain ⟨rest, rfl⟩ := hcolon
    by_cases hcaret : ∃ rest', rest = '^' :: rest'
    · obtain ⟨rest', rfl⟩ := hcaret
      rw [List.cons_append, List.cons_append, readNamedClass_caret, readNamedClass_caret]
      exact (extends_closeNamed flags true rest').mono (fun _ _ => id)
        ((List.suffix_cons _ rest').trans (List.suffix_cons _ _))
    · have hne := not_exists.1 hcaret
      rw [List.cons_append, readNamedClass_colon flags hne,
        readNamedClass_colon flags (cons_ne_append (by decide) hne)]
      exact (extends_closeNamed flags false rest).mono (fun _ _ => id) (List.suffix_cons _ rest)
  · have hne := not_exists.1 hcolon
    rw [readNamedClass_of_ne flags hne, readNamedClass_of_ne flags (cons_ne_append (by decide) hne)]
    exact .none_none

/-! ### The start of a class -/

/-- An open class behind its hyphens. -/
def openBehind (flags : Flags) (negated : Bool) :
    List Char × List Char → Option (OpenClass × List Char)
  | (hyphens, rest) =>
    let o : OpenClass :=
      { negated
        pending := none
        parts := hyphens.map fun c => { set := .single c, depth := 0 } }
    match rest with
    | [] => none
    | ']' :: more =>
      if hyphens.isEmpty then
        match flags.skip more with
        | [] => none
        | rest => some (o.pushChar (.single ']'), rest)
      else some (o, rest)
    | rest => some (o, rest)

theorem openBehind_of_ne {negated : Bool} {hyphens rest : List Char} {c : Char} (hc : c ≠ ']') :
    openBehind flags negated (hyphens, c :: rest)
      = some ({ negated
                pending := none
                parts := hyphens.map fun c => { set := .single c, depth := 0 } }, c :: rest) := by
  rw [openBehind]
  · exact List.cons_ne_nil c rest
  · intro more he
    exact hc (List.cons.inj he).1

/-- With only the parenthesis left, the class is open and has nothing to close it. -/
theorem extends_openBehind (flags : Flags) (negated : Bool) (hyphens rest : List Char) :
    Extends Short rest (openBehind flags negated (hyphens, rest))
      (openBehind flags negated (hyphens, rest ++ [')'])) := by
  cases rest with
  | nil =>
    refine .failed fun o rest h => .inr ?_
    rw [List.nil_append, openBehind_of_ne (by decide)] at h
    exact (Prod.ext_iff.1 (Option.some.inj h)).2.symm
  | cons c rest =>
    by_cases hc : c = ']'
    · subst hc
      have hskip := skip_suffix flags rest
      simp only [List.cons_append, openBehind]
      split
      · rcases skip_append flags rest with h | ⟨h, h', -⟩
        · rw [h]
          cases hrest : flags.skip rest with
          | nil =>
            refine .failed fun o rest h => .inr ?_
            exact (Prod.ext_iff.1 (Option.some.inj h)).2.symm
          | cons d more =>
            rw [hrest] at hskip
            exact .seen _ (hskip.trans (List.suffix_cons _ rest))
        · rw [h, h']
          exact .none_none
      · exact .seen _ List.suffix_rfl
    · rw [List.cons_append, openBehind_of_ne hc, openBehind_of_ne hc]
      exact .seen _ List.suffix_rfl

/-- A class with a caret is negated, and hyphens may follow the caret. -/
theorem openClass?_of_caret {n : Nat} {rest : List Char} (h : flags.skip r = '^' :: rest)
    (hn : rest.length ≤ n) :
    openClass? flags r = openBehind flags true (gather flags (· == '-') n (flags.skip rest)) := by
  have hskip := length_skip_le flags rest
  rw [gather_eq_of_length_le (m := (flags.skip rest).length) (by omega) (Nat.le_refl _), openClass?, h]
  rfl

/-- Without a caret the class may begin with hyphens at once. -/
theorem openClass?_of_ne {n : Nat} (h : ∀ rest, flags.skip r ≠ '^' :: rest) (hn : r.length ≤ n) :
    openClass? flags r = openBehind flags false (gather flags (· == '-') n (flags.skip r)) := by
  have hskip := length_skip_le flags r
  rw [gather_eq_of_length_le (m := (flags.skip r).length) (by omega) (Nat.le_refl _), openClass?]
  split
  · rename_i he
    split at he
    · rename_i rest hrest
      exact absurd hrest (h rest)
    · obtain ⟨rfl, rfl⟩ := Prod.ext_iff.1 he
      rfl

/-- The parenthesis ends the hyphens at the start of a class. -/
theorem extends_gather_openBehind (flags : Flags) (negated : Bool) (n : Nat) (r : List Char) :
    Extends Short r (openBehind flags negated (gather flags (· == '-') n r))
      (openBehind flags negated (gather flags (· == '-') n (r ++ [')']))) := by
  have hsuffix := gather_suffix flags (· == '-') n r
  have hgather := gather_append flags (· == '-') (by decide) n r
  generalize gather flags (· == '-') n r = x at hgather hsuffix ⊢
  obtain ⟨hyphens, left⟩ := x
  rcases hgather with hg | ⟨hg, hg', -⟩
  · rw [hg]
    exact (extends_openBehind flags negated hyphens left).mono (fun _ _ => id) hsuffix
  · obtain rfl : left = [] := hg
    rw [hg']
    exact .none_none

/-- A class is opened in the same way, or too little is left to close it. -/
theorem extends_openClass? (flags : Flags) (r : List Char) :
    Extends Short r (openClass? flags r) (openClass? flags (r ++ [')'])) := by
  have hskip := skip_suffix flags r
  by_cases hcaret : ∃ rest, flags.skip r = '^' :: rest
  · obtain ⟨rest, hrest⟩ := hcaret
    have hinner := skip_suffix flags rest
    rw [hrest] at hskip
    rw [openClass?_of_caret (n := rest.length + 1) hrest (by omega),
      openClass?_of_caret (n := rest.length + 1) (skip_append_of_cons hrest) (by simp)]
    rcases skip_append flags rest with h | ⟨h, h', -⟩
    · rw [h]
      exact (extends_gather_openBehind flags true _ _).mono (fun _ _ => id)
        ((hinner.trans (List.suffix_cons _ rest)).trans hskip)
    · rw [h, h', gather_nil]
      exact .none_none
  · have hne := not_exists.1 hcaret
    rw [openClass?_of_ne (n := r.length + 1) hne (by omega)]
    rcases skip_append flags r with h | ⟨h, h', -⟩
    · rw [openClass?_of_ne (n := r.length + 1) (h ▸ cons_ne_append (by decide) hne) (by simp), h]
      exact (extends_gather_openBehind flags false _ _).mono (fun _ _ => id) hskip
    · rw [openClass?_of_ne (n := r.length + 1) (by simp [h']) (by simp), h, h', gather_nil]
      exact .none_none

/-! ### Ranges -/

theorem readClassAtom_of_ne {c : Char} (hc : c ≠ '\\') (rest : List Char) :
    readClassAtom flags (c :: rest) = some (.char c false, rest) := by
  rw [readClassAtom]
  exact hc

/-- Only an escape may take in the parenthesis. -/
theorem extends_readClassAtom (flags : Flags) (c : Char) (rest : List Char) :
    Extends (EscapeDoomed flags) rest (readClassAtom flags (c :: rest))
      (readClassAtom flags (c :: (rest ++ [')']))) := by
  by_cases hc : c = '\\'
  · subst hc
    exact extends_readEscape flags rest
  · rw [readClassAtom_of_ne hc, readClassAtom_of_ne hc]
    exact .seen _ List.suffix_rfl

/-- A text whose blanks end with it or in front of a comment does not begin with
    another character. -/
theorem head?_ne_of_dropWhile {c : Char} (hblank : Unicode.isWhiteSpace c = false) (hc : c ≠ '#')
    (h : ∀ d more, r.dropWhile Unicode.isWhiteSpace = d :: more → d = '#') :
    r.head? ≠ some c := by
  cases r with
  | nil => simp
  | cons d r =>
    intro he
    obtain rfl : d = c := Option.some.inj he
    rw [List.dropWhile_cons_of_neg (by simp [hblank])] at h
    exact hc (h d r rfl)

/-- The parenthesis is none of the characters that matter behind a hyphen. -/
theorem peekBeyond_append {c : Char} (hblank : Unicode.isWhiteSpace c = false) (hc : c ≠ '#')
    (hparenthesis : c ≠ ')') (r : List Char) :
    peekBeyond flags (r ++ [')']) = some c ↔ peekBeyond flags r = some c := by
  unfold peekBeyond
  cases flags.verbose with
  | false =>
    simp only [Bool.not_false, if_true]
    cases r with
    | nil => exact iff_of_false (fun he => hparenthesis (Option.some.inj he).symm) (by nofun)
    | cons d r => rfl
  | true =>
    simp only [Bool.not_true, Bool.false_eq_true, if_false]
    cases hr : r.dropWhile Unicode.isWhiteSpace with
    | nil =>
      have hhead := head?_ne_of_dropWhile hblank hc (r := r) (by simp [hr])
      have hdrop : (r ++ [')']).dropWhile Unicode.isWhiteSpace = [')'] := by
        rw [List.dropWhile_append, hr, List.isEmpty_nil, if_pos rfl, List.dropWhile_cons,
          isWhiteSpace_parenthesis, if_neg Bool.false_ne_true]
      rw [hdrop]
      exact iff_of_false (fun he => hparenthesis (Option.some.inj he).symm) hhead
    | cons d more =>
      rw [(takeWhile_append_of_dropWhile hr [')']).2]
      by_cases hd : d = '#'
      · subst hd
        have hhead := head?_ne_of_dropWhile hblank hc (r := r) (by simp [hr])
        have hfind : [')'].find? (fun c => !Unicode.isWhiteSpace c) = some ')' := by
          rw [List.find?_cons_of_pos]
          rw [isWhiteSpace_parenthesis]
          rfl
        simp only [List.find?_append, hfind]
        cases more.find? (fun c => !Unicode.isWhiteSpace c) with
        | some e => rfl
        | none => exact iff_of_false (fun he => hparenthesis (Option.some.inj he).symm) hhead
      · split
        · rename_i he
          exact absurd (List.cons.inj he).1 hd
        · rename_i he
          obtain ⟨rfl, rfl⟩ := List.cons.inj he
          rfl
        · rename_i he
          cases he

/-- A range between two atoms. -/
def rangeOf? (flags : Flags) (low high : Atom) : Option CharSet :=
  match low.classChar? flags, high.classChar? flags with
  | some l, some h => if l.toNat ≤ h.toNat then some (.range l h) else none
  | _, _ => none

theorem rangeOf?_look (low : Atom) (l : Look) : rangeOf? flags low (.look l) = none := by
  rw [rangeOf?]
  cases low.classChar? flags <;> rfl

theorem classSet?_look (l : Look) : (Atom.look l).classSet? flags = none := rfl

/-- What is behind the first atom of a range, or an atom that is none. -/
def rangeBehind (flags : Flags) (low : Atom) (rest : List Char) : Option (CharSet × List Char) :=
  match flags.skip rest with
  | [] => none
  | '-' :: more =>
    if peekBeyond flags more = some ']' ∨ peekBeyond flags more = some '-' then
      (low.classSet? flags).map (·, '-' :: more)
    else
      (readClassAtom flags (flags.skip more)).bind fun x => (rangeOf? flags low x.1).map (·, x.2)
  | rest => (low.classSet? flags).map (·, rest)

theorem rangeBehind_nil (low : Atom) : rangeBehind flags low [] = none := by
  rw [rangeBehind, skip_nil]

theorem rangeBehind_of_ne {low : Atom} {rest more : List Char} {c : Char}
    (h : flags.skip rest = c :: more) (hc : c ≠ '-') :
    rangeBehind flags low rest = (low.classSet? flags).map (·, c :: more) := by
  rw [rangeBehind, h]
  split
  · rename_i he; cases he
  · rename_i he; exact absurd (List.cons.inj he).1 hc
  · rfl

/-- A range is an atom and what is behind it. -/
theorem readRange_eq (flags : Flags) (r : List Char) :
    readRange flags r = (readClassAtom flags r).bind fun x => rangeBehind flags x.1 x.2 := by
  rw [readRange]
  cases readClassAtom flags r with
  | none => rfl
  | some x =>
    obtain ⟨low, rest⟩ := x
    simp only [Option.bind_some]
    split
    · rename_i hrest
      rw [rangeBehind, hrest]
    · rename_i more hrest
      rw [rangeBehind, hrest]
      simp only
      split
      · rfl
      · cases readClassAtom flags (flags.skip more) with
        | none => rfl
        | some y =>
          simp only [Option.bind_some, rangeOf?]
          cases low.classChar? flags with
          | none => rfl
          | some l =>
            cases y.1.classChar? flags with
            | none => rfl
            | some h =>
              simp only
              split <;> rfl
    · rename_i hnil hhyphen
      cases hrest : flags.skip rest with
      | nil => exact absurd hrest hnil
      | cons c more =>
        rw [rangeBehind_of_ne hrest]
        rintro rfl
        exact hhyphen more hrest

theorem isWhiteSpace_bracket : Unicode.isWhiteSpace ']' = false := by decide +kernel

theorem isWhiteSpace_brace : Unicode.isWhiteSpace '\x7b' = false := by decide +kernel

theorem isWhiteSpace_hyphen : Unicode.isWhiteSpace '-' = false := by decide +kernel

/-- A parenthesis may end a range, but then nothing is left to close the
    class. -/
theorem extends_highAtom (low : Atom) (r : List Char) :
    Extends Short r
      ((readClassAtom flags r).bind fun x => (rangeOf? flags low x.1).map (·, x.2))
      ((readClassAtom flags (r ++ [')'])).bind fun x => (rangeOf? flags low x.1).map (·, x.2)) := by
  cases r with
  | nil =>
    refine .failed fun s rest h => .inl ?_
    rw [List.nil_append, readClassAtom_of_ne (by decide), Option.bind_some] at h
    exact rest_of_map h
  | cons c rest =>
    have hatom := (extends_readClassAtom flags c rest).mono (fun _ _ => id) (List.suffix_cons c rest)
    refine hatom.bind (f := fun high rest => (rangeOf? flags low high).map (·, rest))
      (fun high _ hrest => .of_option _ _ hrest) (fun hsign high => .of_option_hidden _ _ hsign) ?_
    rintro high left (rfl | ⟨⟨l, rfl⟩, -⟩) s rest' h
    · exact .inl (rest_of_map h)
    · rw [rangeOf?_look] at h
      cases h

/-- A hyphen makes a range unless a bracket or another hyphen follows. -/
theorem rangeBehind_of_hyphen {low : Atom} {rest more : List Char}
    (h : flags.skip rest = '-' :: more) :
    rangeBehind flags low rest =
      if peekBeyond flags more = some ']' ∨ peekBeyond flags more = some '-' then
        (low.classSet? flags).map (·, '-' :: more)
      else
        (readClassAtom flags (flags.skip more)).bind
          fun x => (rangeOf? flags low x.1).map (·, x.2) := by
  rw [rangeBehind, h]
  rfl

/-- A hyphen at the end of the text waits for an atom, which the parenthesis may be, but then the
    class stays open. -/
theorem extends_rangeBehind (flags : Flags) (low : Atom) (r : List Char) :
    Extends Short r (rangeBehind flags low r) (rangeBehind flags low (r ++ [')'])) := by
  have hskip := skip_suffix flags r
  cases hr : flags.skip r with
  | nil =>
    have hnone : rangeBehind flags low r = none := by rw [rangeBehind, hr]
    rw [hnone]
    refine .failed fun s rest h => ?_
    rcases skip_append flags r with happend | ⟨-, happend, -⟩
    · rw [hr, List.nil_append] at happend
      rw [rangeBehind_of_ne happend (by decide)] at h
      exact .inr (rest_of_map h)
    · rw [rangeBehind, happend] at h
      cases h
  | cons c more =>
    have happend := skip_append_of_cons hr
    rw [hr] at hskip
    by_cases hc : c = '-'
    · subst hc
      have hinner := skip_suffix flags more
      rw [rangeBehind_of_hyphen hr, rangeBehind_of_hyphen happend]
      simp only [peekBeyond_append isWhiteSpace_bracket (by decide) (by decide),
        peekBeyond_append isWhiteSpace_hyphen (by decide) (by decide)]
      split
      · exact .of_option _ _ hskip
      · rcases skip_append flags more with h | ⟨h, h', -⟩
        · rw [h]
          exact (extends_highAtom low (flags.skip more)).mono (fun _ _ => id)
            ((hinner.trans (List.suffix_cons _ more)).trans hskip)
        · rw [h, h']
          exact .none_none
    · rw [rangeBehind_of_ne hr hc, rangeBehind_of_ne happend hc]
      exact .of_option _ _ hskip

/-- No range begins with a condition. -/
theorem rangeBehind_look {l : Look} {inner : List Char} :
    rangeBehind flags (.look l) ('\x7b' :: inner) = none := by
  rw [rangeBehind_of_ne (skip_cons_of_not_blank flags isWhiteSpace_brace (by decide) inner) (by decide),
    classSet?_look]
  rfl

/-- A range is read in the same way, or too little is left to close the class. -/
theorem extends_readRange (flags : Flags) (c : Char) (rest : List Char) :
    Extends Short rest (readRange flags (c :: rest))
      (readRange flags (c :: (rest ++ [')']))) := by
  rw [readRange_eq, readRange_eq]
  refine (extends_readClassAtom flags c rest).bind
    (fun low _ hsuffix => (extends_rangeBehind flags low _).mono (fun _ _ => id) hsuffix)
    (fun _ low => ?_) ?_
  · rw [rangeBehind_nil]
    exact .none_none
  · rintro low left (rfl | ⟨⟨l, rfl⟩, inner, rfl, -⟩) s rest' h
    · rw [rangeBehind_nil] at h
      cases h
    · rw [rangeBehind_look] at h
      cases h

/-! ### Parts of a class -/

/-- What comes after a part of a class: the class goes on with the innermost open
    class and those around it, or it is finished. -/
inductive ClassProgress
  | goesOn (o : OpenClass) (outer : List OpenClass)
  | finished (part : ClassPart)

/-- Reads the part of a class that begins with `c`. -/
def readClassPart (flags : Flags) (o : OpenClass) (outer : List OpenClass) (c : Char)
    (rest : List Char) : Option (ClassProgress × List Char) :=
  let operated (operator : ClassOperator) : ClassProgress := .goesOn (o.operate flags operator) outer
  match c, rest with
  | '[', rest =>
    match readNamedClass flags rest with
    | some (some s, rest) => some (.goesOn (o.pushChar s) outer, rest)
    | some (none, _) => none
    | none => (openClass? flags rest).map fun x => (.goesOn x.1 (o :: outer), x.2)
  | ']', rest =>
    match outer with
    | [] => (o.close? flags).map fun part => (.finished part, rest)
    | o' :: outer => (o.close? flags).map fun part => (.goesOn (o'.push part) outer, rest)
  | '&', '&' :: rest => some (operated .intersection, rest)
  | '-', '-' :: rest => some (operated .difference, rest)
  | '~', '~' :: rest => some (operated .symmetricDifference, rest)
  | c, rest => (readRange flags (c :: rest)).map fun x => (.goesOn (o.pushChar x.1) outer, x.2)

/-- A character that is neither a bracket nor the first of an operator. -/
def IsPlain (c : Char) (rest : List Char) : Prop :=
  c ≠ '[' ∧ c ≠ ']' ∧ ∀ d more, rest = d :: more → c = d → c ≠ '&' ∧ c ≠ '-' ∧ c ≠ '~'

/-- The parenthesis does not complete an operator. -/
theorem IsPlain.append {c : Char} {rest : List Char} (h : IsPlain c rest) :
    IsPlain c (rest ++ [')']) := by
  refine ⟨h.1, h.2.1, fun d more he hd => ?_⟩
  cases rest with
  | nil =>
    obtain rfl : ')' = d := (List.cons.inj he).1
    subst hd
    decide
  | cons e rest => exact h.2.2 e rest rfl (hd.trans (List.cons.inj he).1.symm)

/-- A plain character begins a range. -/
theorem readClassPart_of_plain (o : OpenClass) (outer : List OpenClass) {c : Char}
    {rest : List Char} (h : IsPlain c rest) :
    readClassPart flags o outer c rest
      = (readRange flags (c :: rest)).map fun x => (.goesOn (o.pushChar x.1) outer, x.2) := by
  obtain ⟨hopen, hclose, hoperator⟩ := h
  unfold readClassPart
  simp only
  split
  · exact absurd rfl hopen
  · exact absurd rfl hclose
  · exact absurd rfl (hoperator _ _ rfl rfl).1
  · exact absurd rfl (hoperator _ _ rfl rfl).2.1
  · exact absurd rfl (hoperator _ _ rfl rfl).2.2
  · rfl

/-- A class that goes on with too little left. -/
def ClassDoomed : ClassProgress → List Char → Prop
  | .goesOn _ _, rest => Short () rest
  | .finished _, _ => False

/-- A class is read part by part, with blanks and comments between them. -/
theorem readClassFrom_succ (fuel : Nat) (o : OpenClass) (outer : List OpenClass) (r : List Char) :
    readClassFrom flags (fuel + 1) o outer r =
      match flags.skip r with
      | [] => none
      | c :: rest =>
        match readClassPart flags o outer c rest with
        | none => none
        | some (.goesOn o outer, rest) => readClassFrom flags fuel o outer rest
        | some (.finished part, rest) => some (part, rest) := by
  rw [readClassFrom]
  cases flags.skip r with
  | nil => rfl
  | cons c rest =>
    unfold readClassPart
    simp only
    split
    · rename_i h; cases h
    · rename_i h
      obtain ⟨rfl, rfl⟩ := List.cons.inj h
      simp only
      rcases readNamedClass flags rest with _ | ⟨_ | s, behind⟩
      · cases openClass? flags rest <;> rfl
      · rfl
      · rfl
    · rename_i h
      obtain ⟨rfl, rfl⟩ := List.cons.inj h
      simp only
      cases o.close? flags <;> cases outer <;> rfl
    · rename_i h
      obtain ⟨rfl, rfl⟩ := List.cons.inj h
      rfl
    · rename_i h
      obtain ⟨rfl, rfl⟩ := List.cons.inj h
      rfl
    · rename_i h
      obtain ⟨rfl, rfl⟩ := List.cons.inj h
      rfl
    · rename_i hopen hclose hand hhyphen htilde
      have hplain : IsPlain c rest := by
        refine ⟨fun h => hopen rest (by rw [h]), fun h => hclose rest (by rw [h]), ?_⟩
        rintro d more rfl rfl
        exact ⟨fun h => hand more (by rw [h]), fun h => hhyphen more (by rw [h]),
          fun h => htilde more (by rw [h])⟩
      have hpart := @readClassPart_of_plain flags o outer c rest hplain
      unfold readClassPart at hpart
      simp only at hpart
      rw [hpart]
      cases readRange flags (c :: rest) <;> rfl

theorem cases_of_not_isPlain {c : Char} {rest : List Char} (h : ¬IsPlain c rest) :
    c = '[' ∨ c = ']' ∨ ∃ more, rest = c :: more ∧ (c = '&' ∨ c = '-' ∨ c = '~') := by
  by_cases hopen : c = '['
  · exact .inl hopen
  by_cases hclose : c = ']'
  · exact .inr (.inl hclose)
  refine .inr (.inr (Classical.not_not.1 fun hnone => h ⟨hopen, hclose, ?_⟩))
  rintro d more rfl rfl
  refine ⟨fun hand => ?_, fun hhyphen => ?_, fun htilde => ?_⟩
  · exact hnone ⟨more, rfl, .inl hand⟩
  · exact hnone ⟨more, rfl, .inr (.inl hhyphen)⟩
  · exact hnone ⟨more, rfl, .inr (.inr htilde)⟩

/-- A bracket opens a named class or another class inside. -/
theorem extends_readClassPart_open (flags : Flags) (o : OpenClass) (outer : List OpenClass)
    (rest : List Char) :
    Extends ClassDoomed rest (readClassPart flags o outer '[' rest)
      (readClassPart flags o outer '[' (rest ++ [')'])) := by
  have hnamed := extends_readNamedClass flags rest
  simp only [readClassPart]
  generalize readNamedClass flags rest = a, readNamedClass flags (rest ++ [')']) = b at hnamed ⊢
  cases hnamed with
  | seen s hrest =>
    cases s with
    | none => exact .none_none
    | some s => exact .seen _ hrest
  | hidden s hsign =>
    cases s with
    | none => exact .none_none
    | some s => exact .hidden _ hsign
  | failed hnever =>
    cases b with
    | some x => exact (hnever x.1 x.2 rfl).elim
    | none => exact (extends_openClass? flags rest)
        |>.map (ClassProgress.goesOn · (o :: outer)) fun _ _ h => h

/-- Each part of a class is read in the same way, or too little is left to close it. -/
theorem extends_readClassPart (flags : Flags) (o : OpenClass) (outer : List OpenClass) (c : Char)
    (rest : List Char) :
    Extends ClassDoomed rest (readClassPart flags o outer c rest)
      (readClassPart flags o outer c (rest ++ [')'])) := by
  by_cases hplain : IsPlain c rest
  · rw [readClassPart_of_plain o outer hplain, readClassPart_of_plain o outer hplain.append]
    exact (extends_readRange flags c rest).map (fun s => ClassProgress.goesOn (o.pushChar s) outer)
      fun _ _ h => h
  · rcases cases_of_not_isPlain hplain with rfl | rfl | ⟨more, rfl, hoperator⟩
    · exact extends_readClassPart_open flags o outer rest
    · cases outer with
      | nil => exact .of_option (o.close? flags) ClassProgress.finished List.suffix_rfl
      | cons o' outer =>
        exact .of_option (o.close? flags) (fun part => ClassProgress.goesOn (o'.push part) outer)
          List.suffix_rfl
    · rcases hoperator with rfl | rfl | rfl <;> exact .seen _ (List.suffix_cons _ more)

/-- A parenthesis alone is no part of a class, since its range has no end. -/
theorem readClassPart_parenthesis (o : OpenClass) (outer : List OpenClass) :
    readClassPart flags o outer ')' [] = none := by
  have hrange : readRange flags [')'] = none := by
    rw [readRange_eq, readClassAtom_of_ne (by decide)]
    exact rangeBehind_nil _
  rw [readClassPart_of_plain o outer ⟨by decide, by decide, fun _ _ h => by cases h⟩, hrange]
  rfl

/-- Where too little is left, the class is not closed. -/
theorem readClassFrom_short (fuel : Nat) (o : OpenClass) (outer : List OpenClass)
    (h : Short () r) : readClassFrom flags fuel o outer r = none := by
  cases fuel with
  | zero => rfl
  | succ fuel =>
    rw [readClassFrom_succ]
    rcases h with rfl | rfl
    · rw [skip_nil]
    · rw [skip_cons_of_not_blank flags isWhiteSpace_parenthesis (by decide)]
      simp only [readClassPart_parenthesis]

/-- A class is closed inside the text or not at all. -/
theorem extends_readClassFrom (flags : Flags) {fuel fuel' : Nat} (o : OpenClass)
    (outer : List OpenClass) (r : List Char) (hfuel : r.length < fuel)
    (hfuel' : r.length + 1 < fuel') :
    Extends Never r (readClassFrom flags fuel o outer r)
      (readClassFrom flags fuel' o outer (r ++ [')'])) := by
  induction fuel generalizing fuel' o outer r with
  | zero => omega
  | succ fuel ih =>
    obtain ⟨fuel', rfl⟩ : ∃ k, fuel' = k + 1 := ⟨fuel' - 1, by omega⟩
    have hskip := skip_suffix flags r
    rw [readClassFrom_succ, readClassFrom_succ]
    cases hr : flags.skip r with
    | nil =>
      rcases skip_append flags r with happend | ⟨-, happend, -⟩
      · rw [happend, hr, List.nil_append]
        simp only [readClassPart_parenthesis]
        exact .none_none
      · rw [happend]
        exact .none_none
    | cons c rest =>
      rw [skip_append_of_cons hr]
      rw [hr] at hskip
      have hsuffix := (List.suffix_cons c rest).trans hskip
      have hlength := hskip.length_le
      rw [List.length_cons] at hlength
      have hpart := extends_readClassPart flags o outer c rest
      simp only
      generalize readClassPart flags o outer c rest = a,
        readClassPart flags o outer c (rest ++ [')']) = b at hpart ⊢
      cases hpart with
      | @seen v left hleft =>
        have hlength' := hleft.length_le
        cases v with
        | goesOn o outer =>
          exact (ih o outer left (by omega) (by omega)).mono (fun _ _ => id) (hleft.trans hsuffix)
        | finished part => exact .seen part (hleft.trans hsuffix)
      | hidden v hsign =>
        cases v with
        | goesOn o outer =>
          simp only [readClassFrom_short _ o outer (.inl rfl)]
          exact .none_none
        | finished part => exact .hidden part (hsign.of_suffix hsuffix)
      | failed hdoomed =>
        rcases b with _ | ⟨v, rest'⟩
        · exact .none_none
        · have hrest := hdoomed v rest' rfl
          cases v with
          | goesOn o outer =>
            simp only [readClassFrom_short _ o outer hrest]
            exact .none_none
          | finished part => exact hrest.elim

/-- A class is read from where it is opened. -/
theorem readClass_eq (flags : Flags) (r : List Char) :
    readClass flags r =
      (openClass? flags r).bind fun x => readClassFrom flags (x.2.length + 1) x.1 [] x.2 := by
  rw [readClass]
  cases openClass? flags r <;> rfl

/-- A class is what it is without the parenthesis, or it is not closed by it either. -/
theorem extends_readClass (flags : Flags) (r : List Char) :
    Extends Never r (readClass flags r) (readClass flags (r ++ [')'])) := by
  rw [readClass_eq, readClass_eq]
  refine (extends_openClass? flags r).bind
    (f := fun o rest => readClassFrom flags (rest.length + 1) o [] rest)
    (fun o rest hrest => ?_) (fun _ o => ?_) ?_
  · exact (extends_readClassFrom flags o [] rest (by omega) (by simp)).mono (fun _ _ => id) hrest
  · rw [readClassFrom_short _ o [] (.inl rfl)]
    exact .none_none
  · intro o rest hshort part left h
    rw [readClassFrom_short _ o [] hshort] at h
    cases h

end CatalogAudit.Pattern
