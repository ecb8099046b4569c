import CatalogAudit.Proofs.Pattern.PartExtension

/-!
# Reading a pattern part by part

`readFrom` reads a pattern with fuel. Here the same is said without: a pattern
is read to its end, or the reading comes to a closing parenthesis that no group
is open for. Both depend on the open groups only through the parenthesis that
closes them, so a text can be read inside further groups.

* `Reads`: the reader gets to the end of a text.
* `Strays`: it comes to a parenthesis without a group.
* `readFrom_eq_some_iff`: enough fuel is as good as no bound.
* `readPart_under`: a part is read in the same way inside further groups.
* `Reads.behind`, `exists_reads_of_behind`: a text inside a group, with the
  parenthesis that closes the group behind it.
-/

namespace CatalogAudit.Pattern

variable {s s' : State} {r : List Char}

/-- The reader gets from a state to the end of a text, and to a state there. -/
inductive Reads : State → List Char → State → Prop
  | done {s : State} {r : List Char} : s.flags.skip r = [] → Reads s r s
  | part {s s₁ s' : State} {r rest r₁ : List Char} {c : Char} :
    s.flags.skip r = c :: rest → readPart s c rest = some (s₁, r₁) → Reads s₁ r₁ s' →
      Reads s r s'

/-- The reader comes to a closing parenthesis where no group is open. -/
inductive Strays : State → List Char → Prop
  | here {s : State} {r rest : List Char} :
    s.flags.skip r = ')' :: rest → s.groups = [] → Strays s r
  | part {s s₁ : State} {r rest r₁ : List Char} {c : Char} :
    s.flags.skip r = c :: rest → readPart s c rest = some (s₁, r₁) → Strays s₁ r₁ → Strays s r

/-! ### One step -/

theorem reads_iff_of_nil (h : s.flags.skip r = []) : Reads s r s' ↔ s' = s := by
  constructor
  · intro hreads
    cases hreads with
    | done => rfl
    | part hskip => cases h.symm.trans hskip
  · rintro rfl
    exact .done h

theorem reads_iff_of_part {s₁ : State} {rest r₁ : List Char} {c : Char}
    (h : s.flags.skip r = c :: rest) (hpart : readPart s c rest = some (s₁, r₁)) :
    Reads s r s' ↔ Reads s₁ r₁ s' := by
  constructor
  · intro hreads
    cases hreads with
    | done hskip => cases h.symm.trans hskip
    | part hskip hpart' hbehind =>
      obtain ⟨rfl, rfl⟩ := List.cons.inj (h.symm.trans hskip)
      obtain ⟨rfl, rfl⟩ := Prod.ext_iff.1 (Option.some.inj (hpart.symm.trans hpart'))
      exact hbehind
  · exact .part h hpart

theorem not_reads_of_none {rest : List Char} {c : Char} (h : s.flags.skip r = c :: rest)
    (hpart : readPart s c rest = none) : ¬Reads s r s' := by
  intro hreads
  cases hreads with
  | done hskip => cases h.symm.trans hskip
  | part hskip hpart' =>
    obtain ⟨rfl, rfl⟩ := List.cons.inj (h.symm.trans hskip)
    cases hpart.symm.trans hpart'

/-- A text is read to its end in one way at most. -/
theorem Reads.unique {s₁ s₂ : State} (h₁ : Reads s r s₁) (h₂ : Reads s r s₂) : s₁ = s₂ := by
  induction h₁ with
  | done hskip => exact ((reads_iff_of_nil hskip).1 h₂).symm
  | part hskip hpart _ ih => exact ih ((reads_iff_of_part hskip hpart).1 h₂)

theorem closeGroup?_of_groups (h : s.groups = []) : s.closeGroup? = none := by
  rw [State.closeGroup?, h]

theorem readPart_close (s : State) (r : List Char) :
    readPart s ')' r = s.closeGroup?.map (·, r) := rfl

/-- What is read to its end has a group for every closing parenthesis. -/
theorem Reads.not_strays (h : Reads s r s') : ¬Strays s r := by
  induction h with
  | done hskip =>
    intro hstrays
    cases hstrays with
    | here hskip' => cases hskip.symm.trans hskip'
    | part hskip' => cases hskip.symm.trans hskip'
  | part hskip hpart _ ih =>
    intro hstrays
    cases hstrays with
    | here hskip' hgroups =>
      obtain ⟨rfl, rfl⟩ := List.cons.inj (hskip.symm.trans hskip')
      rw [readPart_close, closeGroup?_of_groups hgroups] at hpart
      cases hpart
    | part hskip' hpart' hbehind =>
      obtain ⟨rfl, rfl⟩ := List.cons.inj (hskip.symm.trans hskip')
      obtain ⟨rfl, rfl⟩ := Prod.ext_iff.1 (Option.some.inj (hpart.symm.trans hpart'))
      exact ih hbehind

/-! ### Fuel -/

theorem length_le_of_readPart {s₁ : State} {rest r₁ : List Char} {c : Char}
    (h : readPart s c rest = some (s₁, r₁)) : r₁.length ≤ rest.length := by
  have hextends := extends_readPart s c rest
  rw [h] at hextends
  generalize readPart s c (rest ++ [')']) = b at hextends
  cases hextends with
  | seen _ hrest => exact hrest.length_le
  | hidden => exact Nat.zero_le _

theorem readFrom_of_nil (fuel : Nat) (h : s.flags.skip r = []) : readFrom fuel s r = some s := by
  rw [readFrom, h]

theorem readFrom_succ {fuel : Nat} {rest : List Char} {c : Char} (h : s.flags.skip r = c :: rest) :
    readFrom (fuel + 1) s r = (readPart s c rest).bind fun x => readFrom fuel x.1 x.2 := by
  rw [readFrom, h]
  simp only
  cases readPart s c rest <;> rfl

/-- Every part takes at least one character. -/
theorem readFrom_eq_some_iff {fuel : Nat} (hfuel : r.length ≤ fuel) :
    readFrom fuel s r = some s' ↔ Reads s r s' := by
  induction fuel generalizing s r with
  | zero =>
    obtain rfl : r = [] := List.length_eq_zero_iff.1 (Nat.le_zero.1 hfuel)
    rw [readFrom_of_nil 0 (skip_nil s.flags), reads_iff_of_nil (skip_nil s.flags), Option.some.injEq,
      eq_comm]
  | succ fuel ih =>
    have hskip := length_skip_le s.flags r
    cases hr : s.flags.skip r with
    | nil => rw [readFrom_of_nil _ hr, reads_iff_of_nil hr, Option.some.injEq, eq_comm]
    | cons c rest =>
      rw [hr, List.length_cons] at hskip
      rw [readFrom_succ hr]
      cases hpart : readPart s c rest with
      | none => exact iff_of_false (by simp) (not_reads_of_none hr hpart)
      | some x =>
        have hrest := length_le_of_readPart hpart
        rw [Option.bind_some, ih (by omega), reads_iff_of_part hr hpart]

/-! ### Open groups -/

/-- The state inside further groups, the innermost first. -/
def State.under (s : State) (outer : List OpenGroup) : State :=
  { s with groups := s.groups ++ outer }

variable {outer : List OpenGroup}

@[simp] theorem State.under_flags : (s.under outer).flags = s.flags := rfl

@[simp] theorem State.under_level : (s.under outer).level = s.level := rfl

@[simp] theorem State.under_names : (s.under outer).names = s.names := rfl

theorem State.under_groups_ne_nil {g : OpenGroup} : (s.under [g]).groups ≠ [] := by
  simp [State.under]

theorem closeGroup?_under (h : s.groups ≠ []) :
    (s.under outer).closeGroup? = s.closeGroup?.map (·.under outer) := by
  obtain ⟨g, groups, hgroups⟩ := List.exists_cons_of_ne_nil h
  simp [State.closeGroup?, State.under, hgroups]

/-- What a reader gives, inside further groups. -/
def within (outer : List OpenGroup) (x : State × List Char) : State × List Char :=
  (x.1.under outer, x.2)

theorem map_within {α : Type} (o : Option α) (f : α → State) (r : List Char) :
    o.map (fun x => ((f x).under outer, r)) = (o.map fun x => (f x, r)).map (within outer) := by
  cases o <;> rfl

theorem openNamed?_under (s : State) (outer : List OpenGroup) (r : List Char) :
    openNamed? (s.under outer) r = (openNamed? s r).map (within outer) := by
  unfold openNamed?
  rw [State.under_names]
  cases readGroupName r with
  | none => rfl
  | some x =>
    simp only
    split <;> rfl

theorem flagged_under (s : State) (outer : List OpenGroup) (changes : List (Flag × Bool))
    (r : List Char) : flagged (s.under outer) changes r = (flagged s changes r).map (within outer) := by
  unfold flagged
  split
  · rfl
  · split <;> rfl
  · rfl

theorem readQuestion_under (s : State) (outer : List OpenGroup) (r : List Char) :
    readQuestion (s.under outer) r = (readQuestion s r).map (within outer) := by
  unfold readQuestion
  split
  · exact openNamed?_under s outer _
  · rfl
  · rfl
  · exact openNamed?_under s outer _
  · cases readFlags false [] r with
    | none => rfl
    | some x => exact flagged_under s outer x.1 x.2

theorem readGroup_under (s : State) (outer : List OpenGroup) (r : List Char) :
    readGroup (s.under outer) r = (readGroup s r).map (within outer) := by
  by_cases hquestion : ∃ rest, s.flags.skip r = '?' :: rest
  · obtain ⟨rest, hrest⟩ := hquestion
    rw [readGroup_of_question hrest, readGroup_of_question (s := s.under outer) hrest]
    exact readQuestion_under s outer rest
  · have hne := not_exists.1 hquestion
    rw [readGroup_of_ne hne, readGroup_of_ne (s := s.under outer) hne]
    rfl

theorem repeatPiece_under (s : State) (outer : List OpenGroup)
    (repetition : Bool → Regex → Regex) (r : List Char) :
    repeatPiece (s.under outer) repetition r = (repeatPiece s repetition r).map (within outer) := by
  unfold repeatPiece
  rw [State.under_flags, State.under_level]
  exact map_within _ (fun level => { s with level }) _

/-- A part is read in the same way inside further groups, unless it closes one of
    them. -/
theorem readPart_under {c : Char} (h : c = ')' → s.groups ≠ []) (outer : List OpenGroup)
    (r : List Char) :
    readPart (s.under outer) c r = (readPart s c r).map (within outer) := by
  by_cases hc : isMeta c = true
  · rcases eq_of_isMeta hc with rfl | rfl | rfl | rfl | rfl | rfl | rfl | rfl | rfl | rfl | rfl | rfl
    · exact readGroup_under s outer r
    · rw [readPart_close, readPart_close, closeGroup?_under (h rfl), Option.map_map, Option.map_map]
      rfl
    · rfl
    · change (readClass s.flags r).map _ = ((readClass s.flags r).map _).map _
      rw [Option.map_map]
      rfl
    · exact repeatPiece_under s outer (fun greedy g => .upTo g 1 greedy) r
    · exact repeatPiece_under s outer (fun greedy g => .star g greedy) r
    · exact repeatPiece_under s outer (atLeast 1) r
    · rw [readPart_brace, readPart_brace, State.under_flags, Option.map_bind]
      refine congrArg _ (funext fun x => ?_)
      exact repeatPiece_under s outer _ _
    · rw [readPart_escape, readPart_escape, State.under_flags, Option.map_bind]
      refine congrArg _ (funext fun x => ?_)
      exact map_within _ s.pushRegex _
    · exact map_within (dot? s.flags) s.pushRegex r
    · rfl
    · rfl
  · have hplain := Bool.eq_false_iff.2 hc
    rw [readPart_of_plain hplain, readPart_of_plain hplain]
    exact map_within _ s.pushRegex r

/-! ### A parenthesis behind the text -/

/-- Where a part can be read, it closes no group from outside. -/
theorem groups_ne_nil_of_readPart {c : Char} {x : State × List Char}
    (h : readPart s c r = some x) : c = ')' → s.groups ≠ [] := by
  rintro rfl hgroups
  rw [readPart_close, closeGroup?_of_groups hgroups] at h
  cases h

/-- A text that is read to its end is read in the same way inside further groups
    with a parenthesis behind it. Then the parenthesis is hidden in a comment, or
    it closes the innermost group that is open. -/
theorem Reads.behind (h : Reads s r s') :
    (EndsBehindSign r ∧ ∀ outer, Reads (s.under outer) (r ++ [')']) (s'.under outer))
      ∨ ∀ outer s'', Reads (s.under outer) (r ++ [')']) s''
          ↔ (s'.under outer).closeGroup? = some s'' := by
  induction h with
  | @done s r hskip =>
    rcases skip_append s.flags r with happend | ⟨-, happend, hsign⟩
    · refine .inr fun outer s'' => ?_
      rw [hskip, List.nil_append] at happend
      cases hclose : (s.under outer).closeGroup? with
      | none =>
        refine iff_of_false (not_reads_of_none (s := s.under outer) happend ?_) (by nofun)
        rw [readPart_close, hclose]
        rfl
      | some s₁ =>
        have hpart : readPart (s.under outer) ')' [] = some (s₁, []) := by
          rw [readPart_close, hclose]
          rfl
        rw [reads_iff_of_part (s := s.under outer) happend hpart, reads_iff_of_nil (skip_nil _),
          Option.some.injEq, eq_comm]
    · exact .inl ⟨hsign, fun outer => .done happend⟩
  | @part s s₁ s' r rest r₁ c hskip hpart hbehind ih =>
    have happend := skip_append_of_cons hskip
    have hrest : rest <:+ r := (List.suffix_cons c rest).trans (hskip ▸ skip_suffix s.flags r)
    have hunder (outer : List OpenGroup) := readPart_under (groups_ne_nil_of_readPart hpart) outer
      (rest ++ [')'])
    have hextends := extends_readPart s c rest
    rw [hpart] at hextends
    generalize readPart s c (rest ++ [')']) = b at hextends hunder
    cases hextends with
    | seen _ hsuffix =>
      have hreads (outer : List OpenGroup) (s'' : State) :
          Reads (s.under outer) (r ++ [')']) s'' ↔ Reads (s₁.under outer) (r₁ ++ [')']) s'' :=
        reads_iff_of_part (s := s.under outer) happend (hunder outer)
      rcases ih with ⟨hsign, ih⟩ | ih
      · exact .inl ⟨hsign.of_suffix (hsuffix.trans hrest),
          fun outer => (hreads outer _).2 (ih outer)⟩
      · exact .inr fun outer s'' => (hreads outer s'').trans (ih outer s'')
    | hidden _ hsign =>
      obtain rfl := (reads_iff_of_nil (skip_nil _)).1 hbehind
      exact .inl ⟨hsign.of_suffix hrest, fun outer =>
        (reads_iff_of_part (s := s.under outer) happend (hunder outer)).2 (.done (skip_nil _))⟩

/-- A boundary in front of a brace that only the parenthesis follows is a
    repetition that cannot be read. -/
theorem not_reads_of_stuck (h : Stuck s.flags s r) : ¬Reads s r s' := by
  obtain ⟨inner, rfl, hinner⟩ := h
  refine not_reads_of_none
    (skip_cons_of_not_blank s.flags isWhiteSpace_brace (by decide) inner) ?_
  rw [readPart_brace, readCounts_of_skip hinner]
  rfl

/-- A text that is read to its end inside a group, with the parenthesis that
    closes the group behind it, is read to its end alone, unless it closes the
    group itself before. -/
theorem exists_reads_of_behind {g : OpenGroup} {s'' : State}
    (h : Reads (s.under [g]) (r ++ [')']) s'') (hgroups : s''.groups = [])
    (hstrays : ¬Strays s r) : ∃ s', Reads s r s' := by
  generalize hs : s.under [g] = t, hr : r ++ [')'] = q at h
  induction h generalizing s r with
  | done =>
    subst hs
    exact absurd hgroups State.under_groups_ne_nil
  | @part t t₁ s'' q rest' q₁ c hskip hpart hbehind ih =>
    subst hs hr
    rw [State.under_flags] at hskip
    cases hr : s.flags.skip r with
    | nil => exact ⟨s, .done hr⟩
    | cons d rest =>
      obtain ⟨rfl, rfl⟩ := List.cons.inj ((skip_append_of_cons hr).symm.trans hskip)
      have hopen : d = ')' → s.groups ≠ [] := by
        rintro rfl hnil
        exact hstrays (.here hr hnil)
      rw [readPart_under hopen] at hpart
      obtain ⟨⟨s₁, r₁⟩, hpart', he⟩ := Option.map_eq_some_iff.1 hpart
      obtain ⟨rfl, rfl⟩ := Prod.ext_iff.1 he
      have hextends := extends_readPart s d rest
      rw [hpart'] at hextends
      generalize hplain : readPart s d rest = a at hextends
      cases hextends with
      | seen =>
        obtain ⟨s', hs'⟩ := ih hgroups (fun h => hstrays (.part hr hplain h)) rfl rfl
        exact ⟨s', .part hr hplain hs'⟩
      | hidden => exact ⟨s₁, .part hr hplain (.done (skip_nil _))⟩
      | failed hdoomed =>
        exfalso
        rcases hdoomed s₁ r₁ rfl with rfl | ⟨hflags, hstuck⟩
        · obtain rfl := (reads_iff_of_nil (skip_nil _)).1 hbehind
          exact State.under_groups_ne_nil hgroups
        · rw [← hflags] at hstuck
          exact not_reads_of_stuck (s := s₁.under [g]) hstuck hbehind

end CatalogAudit.Pattern
