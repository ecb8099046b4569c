import CatalogAudit.Pattern.Reading
import CatalogAudit.Proofs.Pattern.ClassExtension

/-!
# A parenthesis behind a part of a pattern

Outside of classes as well, a part of a pattern is read in the same way when a
closing parenthesis stands behind the text. Where a part is only completed by
the parenthesis, as `\` and `(?i` are, the parenthesis is used up and closes no
group.

* `extends_readGroup`: what follows an opening parenthesis.
* `extends_readPart`: every part.
-/

namespace CatalogAudit.Pattern

variable {s : State} {r : List Char}

/-! ### Groups -/

/-- Only the parenthesis is left. -/
def AtParenthesis {α : Type} : α → List Char → Prop := fun _ rest => rest = [')']

/-- A colon or a parenthesis ends the list of flags and is left for the reader of the group. -/
theorem readFlags_of_end {negated : Bool} {changes : List (Flag × Bool)} {c : Char}
    (hc : c = ':' ∨ c = ')') (r : List Char) :
    readFlags negated changes (c :: r) = some (changes.reverse, c :: r) := by
  unfold readFlags
  exact if_pos hc

/-- A hyphen negates the flags behind it, of which there must be one. -/
theorem readFlags_hyphen (changes : List (Flag × Bool)) (c : Char) (r : List Char) :
    readFlags false changes ('-' :: c :: r) =
      if c = ':' ∨ c = ')' then none else readFlags true changes (c :: r) := rfl

/-- A letter stands for a flag, which the list may name only once. -/
theorem readFlags_letter {negated : Bool} {changes : List (Flag × Bool)} {c : Char}
    (hend : ¬(c = ':' ∨ c = ')')) (hhyphen : c ≠ '-') (r : List Char) :
    readFlags negated changes (c :: r) = (Flag.ofLetter? c).bind fun flag =>
      if changes.any (·.1 = flag) then none
      else readFlags negated ((flag, !negated) :: changes) r := by
  conv => lhs; unfold readFlags
  simp only [if_neg hend, if_neg hhyphen]
  cases Flag.ofLetter? c <;> rfl

/-- The parenthesis may end a list of flags that the text leaves open. -/
theorem extends_readFlags (negated : Bool) (changes : List (Flag × Bool)) (r : List Char) :
    Extends AtParenthesis r (readFlags negated changes r)
      (readFlags negated changes (r ++ [')'])) := by
  induction r generalizing negated changes with
  | nil =>
    refine .failed fun v rest h => ?_
    rw [List.nil_append, readFlags_of_end (.inr rfl)] at h
    exact (Prod.ext_iff.1 (Option.some.inj h)).2.symm
  | cons c r ih =>
    have hbehind (negated : Bool) (changes : List (Flag × Bool)) :
        Extends AtParenthesis (c :: r) (readFlags negated changes r)
          (readFlags negated changes (r ++ [')'])) :=
      (ih negated changes).mono (fun _ _ => id) (List.suffix_cons c r)
    rw [List.cons_append]
    by_cases hend : c = ':' ∨ c = ')'
    · rw [readFlags_of_end hend, readFlags_of_end hend]
      exact .seen _ List.suffix_rfl
    by_cases hhyphen : c = '-'
    · subst hhyphen
      cases negated with
      | true => exact .none_none
      | false =>
        cases r with
        | nil => exact .none_none
        | cons d r =>
          rw [List.cons_append, readFlags_hyphen, readFlags_hyphen]
          split
          · exact .none_none
          · exact hbehind true changes
    · rw [readFlags_letter hend hhyphen, readFlags_letter hend hhyphen]
      cases Flag.ofLetter? c with
      | none => exact .none_none
      | some flag =>
        simp only [Option.bind_some]
        split
        · exact .none_none
        · exact hbehind negated _

/-- A name ends with its bracket, which the parenthesis is not. -/
theorem extends_readGroupName (r : List Char) :
    Extends Never r (readGroupName r) (readGroupName (r ++ [')'])) := by
  have hsuffix : r.dropWhile (· != '>') <:+ r := List.dropWhile_suffix _
  unfold readGroupName
  cases hr : r.dropWhile (· != '>') with
  | nil =>
    rw [dropWhile_append_of_eq_nil (by decide) hr]
    exact .none_none
  | cons c more =>
    obtain ⟨htake, hdrop⟩ := takeWhile_append_of_dropWhile hr [')']
    rw [hr] at hsuffix
    obtain rfl : c = '>' := by
      have hc := List.head?_dropWhile_not (· != '>') r
      rw [hr] at hc
      simpa using hc
    rw [htake, hdrop]
    cases r.takeWhile (· != '>') with
    | nil => exact .none_none
    | cons d name =>
      simp only
      split
      · exact .seen _ ((List.suffix_cons _ more).trans hsuffix)
      · exact .none_none

/-- A group with a name that is not taken. -/
def namedGroup (s : State) (name : String) (rest : List Char) : Option (State × List Char) :=
  if s.names.contains name then none
  else some ({ s.openGroup s.flags with names := name :: s.names }, rest)

/-- A named group is opened once its name is read. -/
theorem openNamed?_eq (s : State) (r : List Char) :
    openNamed? s r = (readGroupName r).bind fun x => namedGroup s x.1 x.2 := by
  rw [openNamed?]
  cases readGroupName r <;> rfl

/-- A parenthesis behind a named group changes neither its name nor whether it is taken. -/
theorem extends_openNamed? (s : State) (r : List Char) :
    Extends Never r (openNamed? s r) (openNamed? s (r ++ [')'])) := by
  rw [openNamed?_eq, openNamed?_eq]
  refine (extends_readGroupName r).bind (fun name rest hrest => ?_) (fun hsign name => ?_)
    fun _ _ => False.elim
  all_goals
    unfold namedGroup
    split
  · exact .none_none
  · exact .seen _ hrest
  · exact .none_none
  · exact .hidden _ hsign

/-- What the end of a list of flags makes of them: a group, or flags for the rest
    of the present one. -/
def flagged (s : State) (changes : List (Flag × Bool)) : List Char → Option (State × List Char)
  | ':' :: rest => some (s.openGroup (s.flags.change changes), rest)
  | ')' :: rest =>
    if changes.isEmpty then none
    else
      some ({ s with
        flags := s.flags.change changes
        level := s.level.push { regex := .empty, depth := 0, directive := true } }, rest)
  | _ => none

/-- What follows the question mark of a group. -/
def readQuestion (s : State) : List Char → Option (State × List Char)
  | 'P' :: '<' :: rest => openNamed? s rest
  | '<' :: '=' :: _ => none
  | '<' :: '!' :: _ => none
  | '<' :: rest => openNamed? s rest
  | rest => (readFlags false [] rest).bind fun x => flagged s x.1 x.2

/-- Behind a question mark the group is of a kind of its own. -/
theorem readGroup_of_question {rest : List Char} (h : s.flags.skip r = '?' :: rest) :
    readGroup s r = readQuestion s rest := by
  rw [readGroup, h]
  split
  case h_1 he | h_2 he | h_3 he =>
    obtain ⟨-, rfl⟩ := List.cons.inj he
    rfl
  case h_4 hlook hnot he =>
    obtain ⟨-, rfl⟩ := List.cons.inj he
    rw [readQuestion]
    · exact hlook
    · exact hnot
  case h_5 hpython hlook hnot hname he =>
    obtain ⟨-, rfl⟩ := List.cons.inj he
    rw [readQuestion]
    · rcases readFlags false [] _ with _ | ⟨changes, left⟩
      · rfl
      · simp only [Option.bind_some]
        unfold flagged
        split <;> simp_all
    · exact hpython
    · exact hlook
    · exact hnot
    · exact hname
  case h_6 he =>
    exact absurd rfl (he rest)

/-- Without a question mark it captures, under the present flags. -/
theorem readGroup_of_ne (h : ∀ rest, s.flags.skip r ≠ '?' :: rest) :
    readGroup s r = some (s.openGroup s.flags, s.flags.skip r) := by
  rw [readGroup]
  split
  case h_1 he | h_2 he | h_3 he | h_4 he | h_5 he => exact absurd he (h _)
  case h_6 => rfl

theorem readQuestion_flags {rest : List Char} (hpython : ∀ more, rest ≠ 'P' :: '<' :: more)
    (hname : ∀ more, rest ≠ '<' :: more) :
    readQuestion s rest = (readFlags false [] rest).bind fun x => flagged s x.1 x.2 := by
  rw [readQuestion]
  · exact hpython
  · exact fun more => hname _
  · exact fun more => hname _
  · exact hname

theorem readQuestion_name {rest : List Char} (hlook : ∀ more, rest ≠ '=' :: more)
    (hnot : ∀ more, rest ≠ '!' :: more) :
    readQuestion s ('<' :: rest) = openNamed? s rest := by
  rw [readQuestion]
  · exact hlook
  · exact hnot

/-- Where a list of flags is all there is, the parenthesis ends it and sets the flags. -/
theorem extends_flagged (s : State) (changes : List (Flag × Bool)) (r : List Char) :
    Extends AtEnd r (flagged s changes r) (flagged s changes (r ++ [')'])) := by
  cases r with
  | nil =>
    refine .failed fun v rest h => ?_
    simp only [List.nil_append, flagged] at h
    split at h
    · cases h
    · exact (Prod.ext_iff.1 (Option.some.inj h)).2.symm
  | cons c r =>
    rw [List.cons_append]
    by_cases hcolon : c = ':'
    · subst hcolon
      exact .seen _ (List.suffix_cons _ r)
    by_cases hclose : c = ')'
    · subst hclose
      simp only [flagged]
      split
      · exact .none_none
      · exact .seen _ (List.suffix_cons _ r)
    · have hnone (r : List Char) : flagged s changes (c :: r) = none := by
        rw [flagged]
        · exact fun rest he => hcolon (List.cons.inj he).1
        · exact fun rest he => hclose (List.cons.inj he).1
      rw [hnone, hnone]
      exact .none_none

/-- Only a list of flags is completed by the parenthesis. -/
theorem extends_readQuestion (s : State) (r : List Char) :
    Extends AtEnd r (readQuestion s r) (readQuestion s (r ++ [')'])) := by
  by_cases hpython : ∃ more, r = 'P' :: '<' :: more
  · obtain ⟨more, rfl⟩ := hpython
    exact (extends_openNamed? s more).mono (fun _ _ => False.elim)
      ((List.suffix_cons _ more).trans (List.suffix_cons _ _))
  by_cases hname : ∃ more, r = '<' :: more
  · obtain ⟨more, rfl⟩ := hname
    rw [List.cons_append]
    by_cases hlook : ∃ rest, more = '=' :: rest
    · obtain ⟨rest, rfl⟩ := hlook
      exact .none_none
    by_cases hnot : ∃ rest, more = '!' :: rest
    · obtain ⟨rest, rfl⟩ := hnot
      exact .none_none
    have hlook := not_exists.1 hlook
    have hnot := not_exists.1 hnot
    rw [readQuestion_name hlook hnot,
      readQuestion_name (cons_ne_append (by decide) hlook) (cons_ne_append (by decide) hnot)]
    exact (extends_openNamed? s more).mono (fun _ _ => False.elim) (List.suffix_cons _ more)
  have hpython := not_exists.1 hpython
  have hname := not_exists.1 hname
  have hpython' (more : List Char) : r ++ [')'] ≠ 'P' :: '<' :: more := by
    rcases r with _ | ⟨c, r⟩
    · simp
    intro he
    obtain ⟨hc, hr⟩ := List.cons.inj he
    have hmore : ∀ rest, r ≠ '<' :: rest := fun rest h => hpython rest (by rw [hc, h])
    exact cons_ne_append (by decide) hmore more hr
  rw [readQuestion_flags hpython hname,
    readQuestion_flags hpython' (cons_ne_append (by decide) hname)]
  refine (extends_readFlags false [] r).bind
    (fun changes rest hrest => (extends_flagged s changes rest).mono (fun _ _ => id) hrest)
    (fun _ changes => .none_none) ?_
  rintro changes left rfl v rest h
  cases extends_flagged s changes [] with
  | failed hend => exact hend v rest h

/-- The parenthesis that ends a list of flags is the last character. -/
theorem extends_readGroup (s : State) (r : List Char) :
    Extends AtEnd r (readGroup s r) (readGroup s (r ++ [')'])) := by
  have hskip := skip_suffix s.flags r
  by_cases hquestion : ∃ rest, s.flags.skip r = '?' :: rest
  · obtain ⟨rest, hrest⟩ := hquestion
    rw [readGroup_of_question hrest, readGroup_of_question (skip_append_of_cons hrest)]
    rw [hrest] at hskip
    exact (extends_readQuestion s rest).mono (fun _ _ => id)
      ((List.suffix_cons _ rest).trans hskip)
  · have hne := not_exists.1 hquestion
    rcases skip_append s.flags r with h | ⟨h, h', hsign⟩
    · rw [readGroup_of_ne hne, readGroup_of_ne (r := r ++ [')']) (h ▸ cons_ne_append (by decide) hne), h]
      exact .seen _ hskip
    · rw [readGroup_of_ne hne, readGroup_of_ne (r := r ++ [')']) (by simp [h']), h, h']
      exact .hidden _ hsign

/-! ### Repetitions -/

theorem readGreed_of_ne (flags : Flags) (h : ∀ rest, r ≠ '?' :: rest) :
    readGreed flags r = (!flags.swapGreed, r) := by
  rw [readGreed]
  exact h

/-- A parenthesis does not make a repetition lazy. -/
theorem readGreed_append (flags : Flags) (r : List Char) :
    readGreed flags (r ++ [')']) = ((readGreed flags r).1, (readGreed flags r).2 ++ [')']) := by
  by_cases hquestion : ∃ rest, r = '?' :: rest
  · obtain ⟨rest, rfl⟩ := hquestion
    rfl
  · have hne := not_exists.1 hquestion
    rw [readGreed_of_ne flags hne, readGreed_of_ne flags (cons_ne_append (by decide) hne)]

theorem readGreed_suffix (flags : Flags) (r : List Char) : (readGreed flags r).2 <:+ r := by
  unfold readGreed
  split
  · exact List.suffix_cons _ _
  · exact List.suffix_rfl

theorem dropBlanks_append (r : List Char) :
    (r ++ [')']).dropWhile Unicode.isWhiteSpace = r.dropWhile Unicode.isWhiteSpace ++ [')'] := by
  have hparenthesis : [')'].dropWhile Unicode.isWhiteSpace = [')'] :=
    List.dropWhile_cons_of_neg (by rw [isWhiteSpace_parenthesis]; exact Bool.false_ne_true)
  rw [List.dropWhile_append, hparenthesis]
  split
  · rename_i h
    rw [List.isEmpty_iff.1 h]
    rfl
  · rfl

/-- The number that digits write, if a repetition may count with it. -/
def count? (digits : List Char) : Option Nat :=
  if digits.isEmpty then none
  else if numberOf 10 digits ≤ maxCount then some (numberOf 10 digits) else none

/-- A number is its digits, with blanks around them. -/
theorem readCount_eq (flags : Flags) {n : Nat} (r : List Char) (hn : r.length ≤ n) :
    readCount flags r =
      (count? (gather flags isDigit n (r.dropWhile Unicode.isWhiteSpace)).1).map
        (·, (gather flags isDigit n (r.dropWhile Unicode.isWhiteSpace)).2.dropWhile
          Unicode.isWhiteSpace) := by
  have hlength := (List.dropWhile_suffix Unicode.isWhiteSpace (l := r)).length_le
  rw [gather_eq_of_length_le (m := (r.dropWhile Unicode.isWhiteSpace).length)
    (Nat.le_trans hlength hn) (Nat.le_refl _), readCount]
  generalize gather flags isDigit _ (r.dropWhile Unicode.isWhiteSpace) = x
  rcases x with ⟨_ | ⟨d, digits⟩, left⟩
  · rfl
  · simp only [count?, List.isEmpty_cons, Bool.false_eq_true, if_false]
    split <;> rfl

theorem isDigit_parenthesis : isDigit ')' = false := by decide

/-- The parenthesis is no digit, so it ends a number but is no part of it. -/
theorem extends_readCount (flags : Flags) (r : List Char) :
    Extends Never r (readCount flags r) (readCount flags (r ++ [')'])) := by
  have hblanks : r.dropWhile Unicode.isWhiteSpace <:+ r := List.dropWhile_suffix _
  rw [readCount_eq flags r (Nat.le_succ r.length),
    readCount_eq flags (r ++ [')']) (n := r.length + 1) (by simp), dropBlanks_append]
  have hsuffix := gather_suffix flags isDigit (r.length + 1) (r.dropWhile Unicode.isWhiteSpace)
  have hgather := gather_append flags isDigit isDigit_parenthesis (r.length + 1)
    (r.dropWhile Unicode.isWhiteSpace)
  generalize gather flags isDigit (r.length + 1) (r.dropWhile Unicode.isWhiteSpace) = x
    at hgather hsuffix ⊢
  obtain ⟨digits, left⟩ := x
  rcases hgather with hg | ⟨hg, hg', hsign⟩
  · rw [hg, dropBlanks_append]
    exact .of_option _ _ (((List.dropWhile_suffix _).trans hsuffix).trans hblanks)
  · obtain rfl : left = [] := hg
    rw [hg']
    exact .of_option_hidden _ _ (hsign.of_suffix hblanks)

theorem readCount_nil (flags : Flags) : readCount flags [] = none := rfl

/-- A parenthesis alone is no number. -/
theorem readCount_parenthesis (flags : Flags) : readCount flags [')'] = none := by
  cases hcount : readCount flags [')'] with
  | none => rfl
  | some x =>
    have hnever := extends_readCount flags []
    rw [readCount_nil, List.nil_append, hcount] at hnever
    cases hnever with
    | failed hnever => exact (hnever x.1 x.2 rfl).elim

/-- The end of a counted repetition whose greatest number was read. -/
def closeCounts (least : Nat) (most : Nat) : List Char → Option ((Nat × Option Nat) × List Char)
  | '\x7d' :: rest => if least ≤ most then some ((least, some most), rest) else none
  | _ => none

/-- What stands behind the comma of a counted repetition. -/
def readMost (flags : Flags) (least : Nat) : List Char → Option ((Nat × Option Nat) × List Char)
  | '\x7d' :: rest => some ((least, none), rest)
  | rest => (readCount flags rest).bind fun x => closeCounts least x.1 x.2

/-- What stands behind the least number of matches. -/
def readBound (flags : Flags) (least : Nat) : List Char → Option ((Nat × Option Nat) × List Char)
  | ',' :: rest => readMost flags least (flags.skip rest)
  | '\x7d' :: rest => some ((least, some least), rest)
  | _ => none

theorem closeCounts_of_ne {least most : Nat} (h : ∀ rest, r ≠ '\x7d' :: rest) :
    closeCounts least most r = none := by
  rw [closeCounts]
  exact h

theorem readMost_of_ne {flags : Flags} {least : Nat} (h : ∀ rest, r ≠ '\x7d' :: rest) :
    readMost flags least r = (readCount flags r).bind fun x => closeCounts least x.1 x.2 := by
  rw [readMost]
  exact h

theorem readBound_of_ne {flags : Flags} {least : Nat} (hcomma : ∀ rest, r ≠ ',' :: rest)
    (hbrace : ∀ rest, r ≠ '\x7d' :: rest) : readBound flags least r = none := by
  rw [readBound]
  · exact hcomma
  · exact hbrace

/-- The two numbers of a counted repetition, as one value. -/
def countsOf (x : Nat × Option Nat × List Char) : (Nat × Option Nat) × List Char :=
  ((x.1, x.2.1), x.2.2)

/-- The bounds of a counted repetition are read one behind the other. -/
theorem readCounts_eq (flags : Flags) (r : List Char) :
    (readCounts flags r).map countsOf
      = (readCount flags (flags.skip r)).bind fun x => readBound flags x.1 x.2 := by
  rw [readCounts]
  split
  case h_1 least rest h =>
    rw [h, Option.bind_some, readBound]
    split
    case h_1 hrest =>
      rw [hrest]
      rfl
    case h_2 hbrace =>
      rw [readMost_of_ne hbrace]
      rcases readCount flags (flags.skip rest) with _ | ⟨most, left⟩
      · rfl
      · by_cases hleft : ∃ behind, left = '\x7d' :: behind
        · obtain ⟨behind, rfl⟩ := hleft
          simp only [Option.bind_some, closeCounts]
          split <;> rfl
        · have hne := not_exists.1 hleft
          rw [Option.bind_some, closeCounts_of_ne hne]
          split
          · rename_i he
            exact absurd (Prod.ext_iff.1 (Option.some.inj he)).2 (hne _)
          · rfl
  case h_2 n rest h =>
    rw [h]
    rfl
  case h_3 hcomma hbrace =>
    rcases hcount : readCount flags (flags.skip r) with _ | ⟨n, left⟩
    · rfl
    · rw [Option.bind_some, readBound_of_ne]
      · rfl
      · rintro rest rfl
        exact hcomma n rest hcount
      · rintro rest rfl
        exact hbrace n rest hcount

/-- The closing brace comes before the parenthesis or not at all. -/
theorem extends_closeCounts (least most : Nat) (r : List Char) :
    Extends Never r (closeCounts least most r) (closeCounts least most (r ++ [')'])) := by
  by_cases hbrace : ∃ rest, r = '\x7d' :: rest
  · obtain ⟨rest, rfl⟩ := hbrace
    simp only [List.cons_append, closeCounts]
    split
    · exact .seen _ (List.suffix_cons _ rest)
    · exact .none_none
  · have hne := not_exists.1 hbrace
    rw [closeCounts_of_ne hne, closeCounts_of_ne (cons_ne_append (by decide) hne)]
    exact .none_none

/-- A number is read, and then something that fails on nothing. -/
theorem Extends.bind_readCount {flags : Flags} {γ : Type}
    {behind : Nat → List Char → Option (γ × List Char)}
    (hbehind : ∀ n r, Extends Never r (behind n r) (behind n (r ++ [')'])))
    (hnil : ∀ n, behind n [] = none) (r : List Char) :
    Extends Never r ((readCount flags r).bind fun x => behind x.1 x.2)
      ((readCount flags (r ++ [')'])).bind fun x => behind x.1 x.2) := by
  refine (extends_readCount flags r).bind
    (fun n rest hrest => (hbehind n rest).mono (fun _ _ => id) hrest) (fun _ n => ?_)
    fun _ _ => False.elim
  rw [hnil]
  exact .none_none

theorem readMost_nil (flags : Flags) (least : Nat) : readMost flags least [] = none := rfl

/-- The greatest number of matches, if there is one, is read in front of the brace. -/
theorem extends_readMost (flags : Flags) (least : Nat) (r : List Char) :
    Extends Never r (readMost flags least r) (readMost flags least (r ++ [')'])) := by
  by_cases hbrace : ∃ rest, r = '\x7d' :: rest
  · obtain ⟨rest, rfl⟩ := hbrace
    exact .seen _ (List.suffix_cons _ rest)
  · have hne := not_exists.1 hbrace
    rw [readMost_of_ne hne, readMost_of_ne (cons_ne_append (by decide) hne)]
    exact .bind_readCount (extends_closeCounts least) (fun _ => rfl) r

/-- The parenthesis is neither the comma nor the brace behind the least number. -/
theorem extends_readBound (flags : Flags) (least : Nat) (r : List Char) :
    Extends Never r (readBound flags least r) (readBound flags least (r ++ [')'])) := by
  by_cases hcomma : ∃ rest, r = ',' :: rest
  · obtain ⟨rest, rfl⟩ := hcomma
    have hskip := skip_suffix flags rest
    simp only [List.cons_append, readBound]
    rcases skip_append flags rest with h | ⟨h, h', -⟩
    · rw [h]
      exact (extends_readMost flags least _).mono (fun _ _ => id)
        (hskip.trans (List.suffix_cons _ rest))
    · rw [h, h', readMost_nil]
      exact .none_none
  by_cases hbrace : ∃ rest, r = '\x7d' :: rest
  · obtain ⟨rest, rfl⟩ := hbrace
    exact .seen _ (List.suffix_cons _ rest)
  · have hcomma := not_exists.1 hcomma
    have hbrace := not_exists.1 hbrace
    rw [readBound_of_ne hcomma hbrace, readBound_of_ne (cons_ne_append (by decide) hcomma)
      (cons_ne_append (by decide) hbrace)]
    exact .none_none

/-- A counted repetition ends with its closing brace. -/
theorem extends_readCounts (flags : Flags) (r : List Char) :
    Extends Never r ((readCounts flags r).map countsOf)
      ((readCounts flags (r ++ [')'])).map countsOf) := by
  have hskip := skip_suffix flags r
  rw [readCounts_eq, readCounts_eq]
  rcases skip_append flags r with h | ⟨h, h', -⟩
  · rw [h]
    exact (Extends.bind_readCount (extends_readBound flags) (fun _ => rfl) _).mono
      (fun _ _ => id) hskip
  · rw [h, h', readCount_nil]
    exact .none_none

/-- Nothing can be counted where only the parenthesis is left. -/
theorem readCounts_of_skip {flags : Flags} (h : flags.skip r = [')']) :
    readCounts flags r = none := by
  rw [readCounts, h, readCount_parenthesis]

/-- A repetition of the latest piece, and what stands behind it. -/
def repeatPiece (s : State) (repetition : Bool → Regex → Regex) (rest : List Char) :
    Option (State × List Char) :=
  (s.level.repeat? (repetition (readGreed s.flags rest).1)).map
    fun level => ({ s with level }, (readGreed s.flags rest).2)

/-- A piece that stands in front of the text is repeated whatever follows. -/
theorem extends_repeatPiece (s : State) (repetition : Bool → Regex → Regex) (r : List Char) :
    Extends Never r (repeatPiece s repetition r) (repeatPiece s repetition (r ++ [')'])) := by
  rw [repeatPiece, repeatPiece, readGreed_append]
  exact .of_option _ _ (readGreed_suffix s.flags r)

theorem repeatPiece_nil (s : State) (repetition : Bool → Regex → Regex) :
    repeatPiece s repetition []
      = (s.level.repeat? (repetition !s.flags.swapGreed)).map fun level => ({ s with level }, []) :=
  rfl

/-- The repetition that two numbers count. -/
def counted : Nat × Option Nat → Bool → Regex → Regex
  | (least, some most) => between least most
  | (least, none) => atLeast least

/-! ### Parts -/

/-- A brace repeats the latest piece as often as its numbers say. -/
theorem readPart_brace (s : State) (r : List Char) :
    readPart s '\x7b' r = ((readCounts s.flags r).map countsOf).bind
      fun x => repeatPiece s (counted x.1) (s.flags.skip x.2) := by
  unfold readPart
  rcases readCounts s.flags r with _ | ⟨least, _ | most, rest⟩ <;> rfl

/-- A backslash begins an escape, which stands for a part on its own. -/
theorem readPart_escape (s : State) (r : List Char) :
    readPart s '\\' r = (readEscape s.flags r).bind
      fun x => (x.1.regex? s.flags).map fun g => (s.pushRegex g, x.2) := by
  unfold readPart
  cases readEscape s.flags r <;> rfl

/-- The characters that have a meaning of their own outside of classes. -/
def isMeta (c : Char) : Bool :=
  ['(', ')', '|', '[', '?', '*', '+', '\x7b', '\\', '.', '^', '$'].contains c

theorem eq_of_isMeta {c : Char} (hc : isMeta c = true) :
    c = '(' ∨ c = ')' ∨ c = '|' ∨ c = '[' ∨ c = '?' ∨ c = '*' ∨ c = '+' ∨ c = '\x7b'
      ∨ c = '\\' ∨ c = '.' ∨ c = '^' ∨ c = '$' := by
  simpa [isMeta] using hc

/-- A character without a meaning of its own stands for itself. -/
theorem readPart_of_plain {c : Char} (hc : isMeta c = false) (s : State) (r : List Char) :
    readPart s c r = (charRegex? s.flags c false).map fun g => (s.pushRegex g, r) := by
  unfold readPart
  simp only
  split
  all_goals first
    | exact absurd hc (by decide)
    | rfl

/-- Nothing is left behind a part that took in the parenthesis, or a boundary
    stands in front of a brace that only the parenthesis follows. -/
def PartDoomed (flags : Flags) : State → List Char → Prop := fun s rest =>
  rest = [] ∨ s.flags = flags ∧ Stuck flags s rest

/-- The numbers are read in front of the parenthesis, and comments behind them may hide it. -/
theorem extends_readPart_brace (s : State) (r : List Char) :
    Extends Never r (readPart s '\x7b' r) (readPart s '\x7b' (r ++ [')'])) := by
  rw [readPart_brace, readPart_brace]
  refine (extends_readCounts s.flags r).bind
    (f := fun counts rest => repeatPiece s (counted counts) (s.flags.skip rest))
    (fun counts rest hrest => ?_) (fun hsign counts => ?_) fun _ _ => False.elim
  · have hskip := skip_suffix s.flags rest
    rcases skip_append s.flags rest with h | ⟨h, h', hsign⟩
    · rw [h]
      exact (extends_repeatPiece s _ _).mono (fun _ _ => id) (hskip.trans hrest)
    · rw [h, h', repeatPiece_nil]
      exact .of_option_hidden _ _ (hsign.of_suffix hrest)
  · rw [skip_nil, repeatPiece_nil]
    exact .of_option_hidden _ _ hsign

/-- The parenthesis may be the character that is escaped. -/
theorem extends_readPart_escape (s : State) (r : List Char) :
    Extends (PartDoomed s.flags) r (readPart s '\\' r) (readPart s '\\' (r ++ [')'])) := by
  rw [readPart_escape, readPart_escape]
  refine (extends_readEscape s.flags r).bind
    (f := fun v rest => (v.regex? s.flags).map fun g => (s.pushRegex g, rest))
    (fun v rest hrest => .of_option _ _ hrest) (fun hsign v => .of_option_hidden _ _ hsign) ?_
  intro v rest hdoomed s' left h
  obtain ⟨g, -, he⟩ := Option.map_eq_some_iff.1 h
  obtain ⟨rfl, rfl⟩ := Prod.ext_iff.1 he
  exact hdoomed.imp id fun hstuck => ⟨rfl, hstuck.2⟩

/-- A part of a pattern with a parenthesis behind the text. -/
theorem extends_readPart (s : State) (c : Char) (r : List Char) :
    Extends (PartDoomed s.flags) r (readPart s c r) (readPart s c (r ++ [')'])) := by
  by_cases hc : isMeta c = true
  · have hnever {a b : Option (State × List Char)} (h : Extends Never r a b) :
        Extends (PartDoomed s.flags) r a b :=
      h.mono (fun _ _ => False.elim) List.suffix_rfl
    rcases eq_of_isMeta hc with rfl | rfl | rfl | rfl | rfl | rfl | rfl | rfl | rfl | rfl | rfl | rfl
    · exact (extends_readGroup s r).mono (fun _ _ => .inl) List.suffix_rfl
    · exact .of_option s.closeGroup? id List.suffix_rfl
    · exact .seen _ List.suffix_rfl
    · exact hnever ((extends_readClass s.flags r).map
        (fun part => s.push { regex := .set part.set, depth := part.depth }) fun _ _ => id)
    · exact hnever (extends_repeatPiece s (fun greedy g => .upTo g 1 greedy) r)
    · exact hnever (extends_repeatPiece s (fun greedy g => .star g greedy) r)
    · exact hnever (extends_repeatPiece s (atLeast 1) r)
    · exact hnever (extends_readPart_brace s r)
    · exact extends_readPart_escape s r
    · exact .of_option (dot? s.flags) s.pushRegex List.suffix_rfl
    · exact .seen _ List.suffix_rfl
    · exact .seen _ List.suffix_rfl
  · have hplain := Bool.eq_false_iff.2 hc
    rw [readPart_of_plain hplain, readPart_of_plain hplain]
    exact .of_option (charRegex? s.flags c false) s.pushRegex List.suffix_rfl

end CatalogAudit.Pattern
