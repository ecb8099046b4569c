import CatalogAudit.Proofs.Source.Usage
import CatalogAudit.Source.Exclusion

/-!
# What is excluded

Patterns make an exclusion unless one of them is malformed or too large, and the
exclusion excludes what some pattern matches, whatever the limit. It separates
the used strings into two disjoint parts.

* `ofPatterns_eq_error_iff`: when there is no exclusion.
* `ofPatterns_unlimited`: what the limit has to do with an exclusion.
* `isExcluded_iff`: what is excluded, in terms of the patterns.
* `contains_partition_iff`, `mem_excluded_iff`: the two parts.
-/

namespace CatalogAudit.Exclusion

variable {limit : SizeLimit} {patterns : List String} {e : Exclusion} {u : Usage} {t : String}

/-! ### Patterns -/

/-- The pattern is well-formed once it is tied to the start of a string, and a
    string matches it there. -/
def Excludes (pattern text : String) : Prop :=
  ∃ r, Regex.ofPattern? (anchored pattern) = some r ∧ r.isMatch text.toList = true

theorem ofPatterns_cons (limit : SizeLimit) (pattern : String) (patterns : List String) :
    ofPatterns (pattern :: patterns) limit =
      match Regex.compile? limit (anchored pattern) with
      | some r => (ofPatterns patterns limit).map fun e => { expressions := r :: e.expressions }
      | none => .error pattern := rfl

theorem exists_of_ofPatterns_cons {pattern : String}
    (h : ofPatterns (pattern :: patterns) limit = .ok e) :
    ∃ r rest, Regex.compile? limit (anchored pattern) = some r
      ∧ ofPatterns patterns limit = .ok rest ∧ e = { expressions := r :: rest.expressions } := by
  rw [ofPatterns_cons] at h
  split at h
  · rename_i r hr
    cases hrest : ofPatterns patterns limit with
    | error fault => rw [hrest] at h; cases h
    | ok rest =>
      rw [hrest] at h
      exact ⟨r, rest, hr, rfl, (Except.ok.inj h).symm⟩
  · cases h

/-- There is no exclusion exactly when some pattern is malformed or too large. -/
theorem ofPatterns_eq_error_iff :
    (∃ pattern, ofPatterns patterns limit = .error pattern)
      ↔ ∃ pattern ∈ patterns, Regex.compile? limit (anchored pattern) = none := by
  induction patterns with
  | nil => simp [ofPatterns]
  | cons pattern patterns ih =>
    rw [ofPatterns_cons]
    cases hr : Regex.compile? limit (anchored pattern) with
    | none => simp [hr]
    | some r =>
      have hmap : (∃ fault, (ofPatterns patterns limit).map
            (fun e => ({ expressions := r :: e.expressions } : Exclusion)) = .error fault)
          ↔ ∃ fault, ofPatterns patterns limit = .error fault := by
        cases ofPatterns patterns limit <;> simp [Except.map]
      simp only [hmap, ih, List.mem_cons, exists_eq_or_imp, hr]
      simp

/-- The exclusion of patterns that are not too large is that of the patterns. -/
theorem ofPatterns_unlimited (h : ofPatterns patterns limit = .ok e) :
    ofPatterns patterns = .ok e := by
  induction patterns generalizing e with
  | nil => exact h
  | cons pattern patterns ih =>
    obtain ⟨r, rest, hr, hrest, rfl⟩ := exists_of_ofPatterns_cons h
    rw [ofPatterns_cons, Regex.compile?_unlimited, Regex.ofPattern?_of_compile? hr, ih hrest]
    rfl

/-- What some pattern matches is excluded, and nothing else is. -/
theorem isExcluded_iff (h : ofPatterns patterns = .ok e) :
    e.isExcluded t = true ↔ ∃ pattern ∈ patterns, Excludes pattern t := by
  induction patterns generalizing e with
  | nil =>
    obtain rfl := Except.ok.inj h
    simp [isExcluded]
  | cons pattern patterns ih =>
    obtain ⟨r, rest, hr, hrest, rfl⟩ := exists_of_ofPatterns_cons h
    have hcons : Excludes pattern t ↔ r.isMatch t.toList = true := by
      simp [Excludes, Regex.ofPattern?_of_compile? hr]
    rw [isExcluded, List.any_cons, Bool.or_eq_true, ← isExcluded, ih hrest]
    simp only [List.mem_cons, exists_eq_or_imp, hcons]

/-! ### The two parts -/

theorem contains_partition_iff :
    (e.partition u).1.contains t = true ↔ u.contains t = true ∧ e.isExcluded t = false := by
  have h : (e.partition u).1 = u.filter fun text => !e.isExcluded text := rfl
  rw [h, Usage.contains_filter, Bool.not_eq_true']

theorem mem_excluded_iff :
    t ∈ (e.partition u).2.toList ↔ u.contains t = true ∧ e.isExcluded t = true := by
  have h : (e.partition u).2 = .ofList (u.filter e.isExcluded).texts := rfl
  rw [h, TextSet.mem_toList_ofList, Usage.mem_texts_iff, Usage.contains_filter]

/-- What is excluded is not kept. -/
theorem contains_partition_eq_false (h : t ∈ (e.partition u).2.toList) :
    (e.partition u).1.contains t = false := by
  rw [← Bool.not_eq_true]
  intro hkept
  have hclear := (contains_partition_iff.1 hkept).2
  exact Bool.false_ne_true (hclear.symm.trans (mem_excluded_iff.1 h).2)

end CatalogAudit.Exclusion
