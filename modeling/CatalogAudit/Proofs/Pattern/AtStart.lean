import CatalogAudit.Proofs.Pattern.Anchored
import CatalogAudit.Proofs.Regex.Words
import CatalogAudit.Proofs.Source.Exclusion
import Mathlib

/-!
# Exclusion at the start of a text

An exclusion pattern is used in a group behind a caret. What the pattern says of
alternatives, flags and lines stays in the group, and the caret in front of it has no
flags. So the whole matches somewhere in a text exactly if the pattern matches at the start
of it.

* `Regex.isMatch_iff`: a text with a match somewhere.
* `Regex.isMatch_behind_textStart`: of an expression behind the start of the text.
* `Exclusion.isExcluded_iff_matchesAtStart`: what is excluded.
-/

namespace CatalogAudit

namespace Regex

variable {r : Regex} {c d : Cursor} {text : List Char}

theorem matchesAt_iff : r.matchesAt c = true ↔ ∃ d, d ∈ r.ends c := by
  rw [matchesAt, Bool.not_eq_true', List.isEmpty_eq_false_iff_exists_mem]

theorem isMatch_iff : r.isMatch text = true
    ↔ ∃ before c, (Cursor.start text).Reaches before c ∧ r.matchesAt c = true := by
  rw [isMatch, Option.isSome_iff_exists]
  constructor
  · rintro ⟨c, hc⟩
    obtain ⟨hmatch, before, hbefore⟩ := Cursor.seek_eq_some hc
    exact ⟨before, c, hbefore, hmatch⟩
  · rintro ⟨before, c, hbefore, hmatch⟩
    exact Cursor.exists_seek r.matchesAt hbefore hmatch

/-- Behind the start of the text an expression matches only there. -/
theorem mem_ends_behind_textStart :
    d ∈ (seq (seq empty (look .textStart)) r).ends c ↔ c.before = [] ∧ d ∈ r.ends c := by
  constructor
  · intro h
    obtain ⟨e, he, hd⟩ := exists_of_mem_ends_seq h
    obtain ⟨f, hf, he⟩ := exists_of_mem_ends_seq he
    obtain rfl := List.mem_singleton.1 hf
    obtain ⟨rfl, hholds⟩ := mem_ends_look he
    exact ⟨List.isEmpty_iff.1 hholds, hd⟩
  · rintro ⟨hbefore, hd⟩
    have hholds : Look.textStart.holds c = true := List.isEmpty_iff.2 hbefore
    have hstart : c ∈ (seq empty (look .textStart)).ends c :=
      mem_ends_seq (List.mem_singleton_self c) (mem_ends_look_of_holds hholds)
    exact mem_ends_seq hstart hd

theorem isMatch_behind_textStart :
    (seq (seq empty (look .textStart)) r).isMatch text = true
      ↔ r.matchesAt (.start text) = true := by
  simp only [isMatch_iff, matchesAt_iff, mem_ends_behind_textStart]
  constructor
  · rintro ⟨before, c, hc, d, hbefore, hd⟩
    -- Nothing stands in front of `c`, so it is the start.
    obtain rfl : before = [] := by simpa [hbefore, Cursor.start] using hc.before
    obtain rfl := (Cursor.Reaches.refl _).unique hc
    exact ⟨d, hd⟩
  · rintro ⟨d, hd⟩
    exact ⟨[], _, .refl _, d, rfl, hd⟩

end Regex

/-- The pattern is well-formed on its own, and it has a match that begins where the text
    begins. -/
def Pattern.MatchesAtStart (pattern text : String) : Prop :=
  ∃ r, Regex.ofPattern? pattern = some r ∧ r.matchesAt (.start text.toList) = true

instance (pattern text : String) : Decidable (Pattern.MatchesAtStart pattern text) :=
  decidable_of_iff
    ((Regex.ofPattern? pattern).any (·.matchesAt (.start text.toList)) = true)
    (by simp [Pattern.MatchesAtStart, Option.any_eq_true])

namespace Exclusion

variable {pattern text : String}

/-- A pattern that is well-formed on its own and in the group excludes what it matches at
    the start. -/
theorem excludes_iff (h : Regex.ofPattern? pattern ≠ none)
    (hanchored : Regex.ofPattern? (anchored pattern) ≠ none) :
    Excludes pattern text ↔ Pattern.MatchesAtStart pattern text := by
  obtain ⟨r, hr⟩ := Option.ne_none_iff_exists'.1 h
  obtain ⟨a, ha⟩ := Option.ne_none_iff_exists'.1 hanchored
  obtain rfl := Pattern.ofPattern?_anchored_eq hr ha
  simp only [Excludes, Pattern.MatchesAtStart, hr, ha, Option.some.injEq, exists_eq_left',
    Regex.isMatch_behind_textStart]

/-- Of patterns that are well-formed on their own, those that make an exclusion within some
    limit exclude what some of them matches at the start. -/
theorem isExcluded_iff_matchesAtStart {limit : SizeLimit} {patterns : List String} {e : Exclusion}
    (h : ∀ pattern ∈ patterns, Regex.ofPattern? pattern ≠ none)
    (he : ofPatterns patterns limit = .ok e) (text : String) :
    e.isExcluded text = true ↔ ∃ pattern ∈ patterns, Pattern.MatchesAtStart pattern text := by
  have he := ofPatterns_unlimited he
  rw [isExcluded_iff he]
  refine exists_congr fun pattern => and_congr_right fun hmem => ?_
  refine excludes_iff (h pattern hmem) fun hnone => ?_
  -- A pattern that is malformed in the group would be an error.
  have herror := @ofPatterns_eq_error_iff .unlimited patterns
  obtain ⟨fault, hfault⟩ := herror.2 ⟨pattern, hmem, hnone⟩
  cases he.symm.trans hfault

/-- Patterns with an alternative and with flags, which might reach beyond a group. -/
def flaggedPatterns : List String :=
  ["bar|foo", "(?im)^x"]

/-- The second alternative counts at the start of a text, but not behind it, and neither
    does a caret at the start of a later line. -/
theorem isExcluded_iff_matchesAtStart_lines :
    (∀ pattern ∈ flaggedPatterns, Regex.ofPattern? pattern ≠ none)
      ∧ ∃ e, ofPatterns flaggedPatterns = .ok e
        ∧ e.isExcluded "foot" = true ∧ e.isExcluded "a foot\nX" = false := by
  have hvalid : ∀ pattern ∈ flaggedPatterns, Regex.ofPattern? pattern ≠ none := by
    decide +kernel
  obtain ⟨e, he⟩ : ∃ e, ofPatterns flaggedPatterns = .ok e := by
    cases hread : ofPatterns flaggedPatterns with
    | ok e => exact ⟨e, rfl⟩
    | error fault =>
      have hmalformed := ofPatterns_eq_error_iff.1 ⟨fault, hread⟩
      exact absurd hmalformed (by decide +kernel)
  refine ⟨hvalid, e, he, ?_, Bool.eq_false_iff.2 fun hexcluded => ?_⟩
  · exact (isExcluded_iff_matchesAtStart hvalid he _).2 (by decide +kernel)
  · have hstart := (isExcluded_iff_matchesAtStart hvalid he _).1 hexcluded
    exact absurd hstart (by decide +kernel)

end Exclusion

end CatalogAudit
