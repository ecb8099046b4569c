import CatalogAudit.Proofs.Pattern.Reads
import CatalogAudit.Source.Exclusion

/-!
# A pattern tied to the start of a string

An exclusion pattern is not used as it is but between `^(?:` and `)`. A
well-formed pattern nearly always stays well-formed there. It does not where it
ends in a comment, which then hides the parenthesis, nor where it nests so
deeply that there is no room for the group and the sequence around it. The
other way round, a malformed pattern becomes well-formed only if it closes the
group itself.

* `EndsInComment.endsBehindSign`, `not_endsInComment_of_newline`: which patterns
  can end in a comment.
* `ofPattern?_anchored_ne_none_iff`: when a well-formed pattern stays
  well-formed.
* `ofPattern?_ne_none_of_anchored`: when it has been well-formed before.
* `ofPattern?_anchored_eq`: what it stands for there.
-/

namespace CatalogAudit

namespace Pattern

variable {s : State} {pattern : String}

/-! ### Well-formed patterns -/

theorem finish?_ne_none_iff :
    s.finish? ≠ none ↔ s.groups = [] ∧ s.level.close.depth ≤ maxDepth := by
  unfold State.finish?
  cases s.groups with
  | nil =>
    simp only [true_and]
    split <;> simp_all
  | cons g groups => simp

/-- A pattern is well-formed when it can be read to its end with all groups
    closed and without too deep a nesting. -/
theorem ofPattern?_ne_none_iff :
    Regex.ofPattern? pattern ≠ none
      ↔ ∃ s, Reads .initial pattern.toList s ∧ s.groups = [] ∧ s.level.close.depth ≤ maxDepth := by
  rw [Regex.ofPattern?]
  cases hread : readFrom pattern.toList.length .initial pattern.toList with
  | none =>
    refine iff_of_false (by simp) ?_
    rintro ⟨s, hs, -⟩
    cases hread.symm.trans ((readFrom_eq_some_iff (Nat.le_refl _)).2 hs)
  | some s =>
    have hs := (readFrom_eq_some_iff (Nat.le_refl _)).1 hread
    refine finish?_ne_none_iff.trans ⟨fun h => ⟨s, hs, h⟩, ?_⟩
    rintro ⟨s', hs', h⟩
    exact hs.unique hs' ▸ h

theorem finish?_eq_some_iff {r : Regex} :
    s.finish? = some r
      ↔ s.groups = [] ∧ s.level.close.depth ≤ maxDepth ∧ s.level.close.regex = r := by
  unfold State.finish?
  cases s.groups with
  | nil => by_cases hdepth : s.level.close.depth ≤ maxDepth <;> simp [hdepth]
  | cons g groups => simp

/-- A pattern stands for what has been read of it at its end. -/
theorem ofPattern?_eq_some_iff {r : Regex} :
    Regex.ofPattern? pattern = some r
      ↔ ∃ s, Reads .initial pattern.toList s ∧ s.finish? = some r := by
  simp only [← readFrom_eq_some_iff (Nat.le_refl _), Regex.ofPattern?]
  cases readFrom pattern.toList.length .initial pattern.toList <;> simp

/-- The depth to which a pattern nests, if it can be read to its end. -/
def depth? (pattern : String) : Option Nat :=
  (readFrom pattern.toList.length .initial pattern.toList).map (·.level.close.depth)

/-- There is no room for two more levels around the pattern. -/
def TooDeep (pattern : String) : Prop :=
  ∃ depth, depth? pattern = some depth ∧ maxDepth < depth + 2

instance (pattern : String) : Decidable (TooDeep pattern) :=
  match h : depth? pattern with
  | some depth =>
    decidable_of_iff (maxDepth < depth + 2) (by simp [TooDeep, h])
  | none => .isFalse (by simp [TooDeep, h])

/-- The pattern is well-formed, and it stays so with one more closing
    parenthesis: a comment at its end hides the parenthesis. -/
def EndsInComment (pattern : String) : Prop :=
  Regex.ofPattern? pattern ≠ none ∧ Regex.ofPattern? (pattern ++ ")") ≠ none

instance (pattern : String) : Decidable (EndsInComment pattern) :=
  inferInstanceAs (Decidable (_ ∧ _))

/-- Some closing parenthesis of the pattern has no group to close. -/
def HasStray (pattern : String) : Prop :=
  Strays .initial pattern.toList

theorem tooDeep_iff (h : Reads .initial pattern.toList s) :
    TooDeep pattern ↔ maxDepth < s.level.close.depth + 2 := by
  rw [TooDeep, depth?, (readFrom_eq_some_iff (Nat.le_refl _)).2 h]
  simp

/-! ### The group around a pattern -/

/-- What is open around a pattern: the group, with the caret before it. -/
def anchor : OpenGroup where
  outside := Level.empty.push { regex := .look .textStart, depth := 0 }
  flags := .initial

theorem reads_anchored_iff :
    Reads .initial (Exclusion.anchored pattern).toList s
      ↔ Reads (State.initial.under [anchor]) (pattern.toList ++ [')']) s := by
  have htext : (Exclusion.anchored pattern).toList
      = '^' :: '(' :: '?' :: ':' :: (pattern.toList ++ [')']) := by
    simp [Exclusion.anchored]
  rw [htext, reads_iff_of_part (s := .initial) rfl rfl, reads_iff_of_part rfl rfl]
  rfl

theorem ofPattern?_anchored_iff :
    Regex.ofPattern? (Exclusion.anchored pattern) ≠ none
      ↔ ∃ s, Reads (State.initial.under [anchor]) (pattern.toList ++ [')']) s
          ∧ s.groups = [] ∧ s.level.close.depth ≤ maxDepth := by
  rw [ofPattern?_ne_none_iff]
  simp only [reads_anchored_iff]

/-- The parenthesis behind a pattern closes the group around it. -/
theorem closeGroup?_anchor (h : s.groups = []) :
    (s.under [anchor]).closeGroup? = some
      { s with
        level := anchor.outside.push
          { regex := s.level.close.regex, depth := s.level.close.depth + 1 }
        flags := .initial } := by
  simp [State.closeGroup?, State.under, h, anchor]

/-- The group and the sequence of the caret and the group are two levels. -/
theorem exists_closeGroup?_anchor (h : s.groups = []) :
    ∃ s', (s.under [anchor]).closeGroup? = some s' ∧ s'.groups = []
      ∧ s'.level.close.depth = s.level.close.depth + 2 := by
  refine ⟨_, closeGroup?_anchor h, h, ?_⟩
  simp [anchor, Level.close, Level.branch, Level.push, Level.empty, choiceOf, sequenceOf, depthOf]

/-- A group that is open in the pattern keeps the one around it open. -/
theorem groups_of_closeGroup?_anchor {s' : State} (h : (s.under [anchor]).closeGroup? = some s')
    (hgroups : s'.groups = []) : s.groups = [] := by
  refine Classical.byContradiction fun hne => ?_
  rw [closeGroup?_under hne] at h
  obtain ⟨s₁, -, rfl⟩ := Option.map_eq_some_iff.1 h
  exact State.under_groups_ne_nil hgroups

/-- Where the parenthesis behind a pattern is not hidden, it closes the group
    around it. -/
theorem exists_reads_anchored_iff
    (h : ∀ outer s'', Reads (State.initial.under outer) (pattern.toList ++ [')']) s''
      ↔ (s.under outer).closeGroup? = some s'') :
    (∃ s', Reads (State.initial.under [anchor]) (pattern.toList ++ [')']) s'
        ∧ s'.groups = [] ∧ s'.level.close.depth ≤ maxDepth)
      ↔ s.groups = [] ∧ s.level.close.depth + 2 ≤ maxDepth := by
  simp only [h]
  constructor
  · rintro ⟨s', hclose, hgroups', hdepth⟩
    have hgroups := groups_of_closeGroup?_anchor hclose hgroups'
    obtain ⟨s₁, hclose₁, -, hdepth₁⟩ := exists_closeGroup?_anchor hgroups
    obtain rfl := Option.some.inj (hclose₁.symm.trans hclose)
    exact ⟨hgroups, hdepth₁ ▸ hdepth⟩
  · rintro ⟨hgroups, hdepth⟩
    obtain ⟨s', hclose, hgroups', hdepth'⟩ := exists_closeGroup?_anchor hgroups
    exact ⟨s', hclose, hgroups', hdepth' ▸ hdepth⟩

theorem toList_append_parenthesis : (pattern ++ ")").toList = pattern.toList ++ [')'] := by
  simp

/-- A parenthesis behind a well-formed pattern is hidden in a comment, or it closes
    the innermost group around the pattern. -/
theorem endsInComment_or_closes (h : Regex.ofPattern? pattern ≠ none)
    (hreads : Reads .initial pattern.toList s) :
    (EndsInComment pattern ∧ EndsBehindSign pattern.toList
        ∧ ∀ outer, Reads (State.initial.under outer) (pattern.toList ++ [')']) (s.under outer))
      ∨ ¬EndsInComment pattern
        ∧ ∀ outer s'', Reads (State.initial.under outer) (pattern.toList ++ [')']) s''
            ↔ (s.under outer).closeGroup? = some s'' := by
  have hs : s.groups = [] ∧ s.level.close.depth ≤ maxDepth := by
    obtain ⟨s', hs', hfine⟩ := ofPattern?_ne_none_iff.1 h
    exact hs'.unique hreads ▸ hfine
  have hunder (s : State) : s.under [] = s := by simp [State.under]
  have hbehind : EndsInComment pattern ↔ ∃ s', Reads .initial (pattern.toList ++ [')']) s'
      ∧ s'.groups = [] ∧ s'.level.close.depth ≤ maxDepth := by
    rw [EndsInComment, and_iff_right h, ofPattern?_ne_none_iff, toList_append_parenthesis]
  rcases hreads.behind with ⟨hsign, hhidden⟩ | hseen
  · refine .inl ⟨hbehind.2 ⟨s, ?_, hs⟩, hsign, hhidden⟩
    simpa only [hunder] using hhidden []
  · refine .inr ⟨fun hcomment => ?_, hseen⟩
    obtain ⟨s', hs', -⟩ := hbehind.1 hcomment
    have hclose := (hseen [] s').1 (by simpa only [hunder] using hs')
    rw [hunder, closeGroup?_of_groups hs.1] at hclose
    cases hclose

/-- Only a pattern with a number sign in its last line ends in a comment. -/
theorem EndsInComment.endsBehindSign (h : EndsInComment pattern) :
    EndsBehindSign pattern.toList := by
  obtain ⟨s, hreads, -⟩ := ofPattern?_ne_none_iff.1 h.1
  rcases endsInComment_or_closes h.1 hreads with ⟨-, hsign, -⟩ | ⟨hnot, -⟩
  · exact hsign
  · exact absurd h hnot

/-- A pattern with a newline behind everything does not end in a comment. -/
theorem not_endsInComment_of_newline (h : pattern.toList.getLast? = some '\n') :
    ¬EndsInComment pattern := by
  intro hcomment
  obtain ⟨front, comment, hsign, hcomment⟩ := hcomment.endsBehindSign
  rw [hsign, List.getLast?_append, List.getLast?_cons, Option.some_or, Option.some_inj] at h
  cases hlast : comment.getLast? with
  | none => simp [hlast] at h
  | some c =>
    rw [hlast, Option.getD_some] at h
    exact hcomment (h ▸ List.mem_of_getLast? hlast)

-- The sign need not begin a comment.
example : EndsInComment "(?x)a#" ∧ ¬EndsInComment "(?x)[#]" ∧ ¬EndsInComment "a#" := by
  decide +kernel

/-- A well-formed pattern stays well-formed unless it ends in a comment or nests
    too deeply. -/
theorem ofPattern?_anchored_ne_none_iff (h : Regex.ofPattern? pattern ≠ none) :
    Regex.ofPattern? (Exclusion.anchored pattern) ≠ none
      ↔ ¬EndsInComment pattern ∧ ¬TooDeep pattern := by
  obtain ⟨s, hreads, hgroups, -⟩ := ofPattern?_ne_none_iff.1 h
  rw [ofPattern?_anchored_iff, tooDeep_iff hreads]
  rcases endsInComment_or_closes h hreads with ⟨hcomment, -, hhidden⟩ | ⟨hcomment, hseen⟩
  · refine iff_of_false ?_ fun hnone => hnone.1 hcomment
    rintro ⟨s', hs', hgroups', -⟩
    obtain rfl := (hhidden [anchor]).unique hs'
    exact State.under_groups_ne_nil hgroups'
  · rw [exists_reads_anchored_iff hseen]
    simp [hgroups, hcomment]

/-- What becomes well-formed in the group has been so before, unless it closes
    the group itself. -/
theorem ofPattern?_ne_none_of_anchored
    (h : Regex.ofPattern? (Exclusion.anchored pattern) ≠ none) (hstray : ¬HasStray pattern) :
    Regex.ofPattern? pattern ≠ none := by
  rw [ofPattern?_anchored_iff] at h
  obtain ⟨s', hs', hgroups', hdepth'⟩ := h
  obtain ⟨s, hreads⟩ := exists_reads_of_behind hs' hgroups' hstray
  refine ofPattern?_ne_none_iff.2 ⟨s, hreads, ?_⟩
  rcases hreads.behind with ⟨-, hhidden⟩ | hseen
  · obtain rfl := (hhidden [anchor]).unique hs'
    exact absurd hgroups' State.under_groups_ne_nil
  · obtain ⟨hgroups, hdepth⟩ :=
      (exists_reads_anchored_iff hseen).1 ⟨s', hs', hgroups', hdepth'⟩
    exact ⟨hgroups, by omega⟩

/-- In the group a well-formed pattern stands for what it stands for on its own, behind the
    start of the text. -/
theorem ofPattern?_anchored_eq {r a : Regex} (hr : Regex.ofPattern? pattern = some r)
    (ha : Regex.ofPattern? (Exclusion.anchored pattern) = some a) :
    a = .seq (.seq .empty (.look .textStart)) r := by
  obtain ⟨s, hreads, hfinish⟩ := ofPattern?_eq_some_iff.1 hr
  obtain ⟨s', hreads', hfinish'⟩ := ofPattern?_eq_some_iff.1 ha
  obtain ⟨hgroups, -, rfl⟩ := finish?_eq_some_iff.1 hfinish
  obtain ⟨hgroups', -, rfl⟩ := finish?_eq_some_iff.1 hfinish'
  rw [reads_anchored_iff] at hreads'
  rcases endsInComment_or_closes (by simp [hr]) hreads with ⟨-, -, hhidden⟩ | ⟨-, hseen⟩
  · -- A parenthesis in a comment would leave the group open.
    obtain rfl := (hhidden [anchor]).unique hreads'
    exact absurd hgroups' State.under_groups_ne_nil
  · have hclose := (hseen [anchor] s').1 hreads'
    obtain rfl : _ = s' := Option.some.inj ((closeGroup?_anchor hgroups).symm.trans hclose)
    rfl

/-- A well-formed pattern has a group for every closing parenthesis. -/
theorem not_hasStray (h : Regex.ofPattern? pattern ≠ none) : ¬HasStray pattern := by
  obtain ⟨s, hreads, -⟩ := ofPattern?_ne_none_iff.1 h
  exact hreads.not_strays

end Pattern

end CatalogAudit
