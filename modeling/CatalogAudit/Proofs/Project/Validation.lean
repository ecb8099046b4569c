import CatalogAudit.Files.Tree
import CatalogAudit.Proofs.Pattern.Anchored
import CatalogAudit.Proofs.Project.Run
import Mathlib

/-!
# Validated settings in a check

The validation of settings reads the exclusion patterns as they are. A check
reads them tied to the start of a string. The two agree on nearly all patterns,
and where settings are valid it depends on their patterns alone, and on no file,
whether a check succeeds.

* `Project.check_agrees_with_validate`: when validation and use agree.
-/

namespace CatalogAudit

open Pattern

variable {patterns : List String}

theorem Settings.malformed?_eq_none_iff :
    Settings.malformed? patterns = none ↔ ∀ pattern ∈ patterns, Regex.ofPattern? pattern ≠ none := by
  simp [Settings.malformed?, List.find?_eq_none]

theorem Settings.malformed?_of_validate {s : Settings} (h : s.validate = .ok ()) :
    Settings.malformed? s.excludePatterns = none := by
  unfold Settings.validate at h
  split at h
  · cases h
  split at h
  · cases h
  split at h
  · cases h
  · assumption

theorem Exclusion.exists_ofPatterns_iff :
    (∃ e, Exclusion.ofPatterns patterns = .ok e)
      ↔ ∀ pattern ∈ patterns, Regex.ofPattern? (Exclusion.anchored pattern) ≠ none := by
  have herror := @Exclusion.ofPatterns_eq_error_iff .unlimited patterns
  cases hpatterns : Exclusion.ofPatterns patterns with
  | error pattern =>
    obtain ⟨pattern, hmem, hnone⟩ := herror.1 ⟨pattern, hpatterns⟩
    exact iff_of_false (by simp) fun h => h pattern hmem hnone
  | ok e =>
    refine iff_of_true ⟨e, rfl⟩ fun pattern hmem hnone => ?_
    obtain ⟨fault, hfault⟩ := herror.2 ⟨pattern, hmem, hnone⟩
    cases hpatterns.symm.trans hfault

/-- Patterns without a stray parenthesis make an exclusion exactly when they are
    valid and none of them ends in a comment or nests too deeply. -/
theorem Exclusion.exists_ofPatterns_iff_of_not_hasStray
    (h : ∀ pattern ∈ patterns, ¬HasStray pattern) :
    (∃ e, Exclusion.ofPatterns patterns = .ok e)
      ↔ Settings.malformed? patterns = none
        ∧ ∀ pattern ∈ patterns, ¬EndsInComment pattern ∧ ¬TooDeep pattern := by
  rw [exists_ofPatterns_iff, Settings.malformed?_eq_none_iff]
  constructor
  · intro hanchored
    have hplain (pattern : String) (hmem : pattern ∈ patterns) :=
      ofPattern?_ne_none_of_anchored (hanchored pattern hmem) (h pattern hmem)
    exact ⟨hplain, fun pattern hmem =>
      (ofPattern?_anchored_ne_none_iff (hplain pattern hmem)).1 (hanchored pattern hmem)⟩
  · rintro ⟨hplain, hfits⟩ pattern hmem
    exact (ofPattern?_anchored_ne_none_iff (hplain pattern hmem)).2 (hfits pattern hmem)

namespace Project

/-- A check succeeds exactly when the patterns make an exclusion. -/
theorem exists_check_iff (p : Project) (fs : FileSystem Id) :
    (∃ o, (p.check fs).run = .ok o)
      ↔ ∃ e, Exclusion.ofPatterns p.settings.excludePatterns = .ok e := by
  rw [check_eq]
  cases Exclusion.ofPatterns p.settings.excludePatterns <;> simp

/-- A check accepts the patterns that validation accepts and no others, as long
    as none of them ends in a comment, nests too deeply or has a stray
    parenthesis. With valid settings it succeeds, whatever the files, exactly
    when no pattern ends in a comment or nests too deeply. -/
theorem check_agrees_with_validate (p : Project) (fs : FileSystem Id) :
    ((∀ pattern ∈ p.settings.excludePatterns, ¬HasStray pattern) →
      ((∃ e, Exclusion.ofPatterns p.settings.excludePatterns = .ok e)
        ↔ Settings.malformed? p.settings.excludePatterns = none
          ∧ ∀ pattern ∈ p.settings.excludePatterns, ¬EndsInComment pattern ∧ ¬TooDeep pattern))
    ∧ (p.settings.validate = .ok () →
      ((∃ o, (p.check fs).run = .ok o)
        ↔ ∀ pattern ∈ p.settings.excludePatterns, ¬EndsInComment pattern ∧ ¬TooDeep pattern)) := by
  refine ⟨Exclusion.exists_ofPatterns_iff_of_not_hasStray, fun hvalid => ?_⟩
  have hmalformed := Settings.malformed?_of_validate hvalid
  have hstray (pattern : String) (hmem : pattern ∈ p.settings.excludePatterns) :=
    not_hasStray (Settings.malformed?_eq_none_iff.1 hmalformed pattern hmem)
  rw [exists_check_iff, Exclusion.exists_ofPatterns_iff_of_not_hasStray hstray]
  exact and_iff_right hmalformed

/-- A project with one exclusion pattern and no files of its own. -/
def excluding (pattern : String) : Project where
  root := .ofText "/"
  base := .ofText "/"
  settings := { Settings.default with excludePatterns := [pattern] }

/-- A pattern with a comment that its line ends. -/
def closedComment : String := "(?x)foo # comment\n"

/-- The comment does no harm. -/
theorem check_agrees_with_validate_closedComment :
    (excluding closedComment).settings.validate = .ok ()
      ∧ (∀ pattern ∈ (excluding closedComment).settings.excludePatterns, ¬HasStray pattern)
      ∧ (∃ e, Exclusion.ofPatterns (excluding closedComment).settings.excludePatterns = .ok e)
      ∧ ∃ o, ((excluding closedComment).check (Tree.empty.fileSystem [])).run = .ok o := by
  have hvalid : (excluding closedComment).settings.validate = .ok () := by decide +kernel
  have hmalformed := Settings.malformed?_of_validate hvalid
  have hstray (pattern : String)
      (hmem : pattern ∈ (excluding closedComment).settings.excludePatterns) :=
    not_hasStray (Settings.malformed?_eq_none_iff.1 hmalformed pattern hmem)
  have hcomment : ¬EndsInComment closedComment := not_endsInComment_of_newline (by decide)
  have hdepth : ¬TooDeep closedComment := by decide +kernel
  have hfits : ∀ pattern ∈ (excluding closedComment).settings.excludePatterns,
      ¬EndsInComment pattern ∧ ¬TooDeep pattern :=
    List.forall_mem_singleton.2 ⟨hcomment, hdepth⟩
  obtain ⟨hpatterns, hcheck⟩ :=
    check_agrees_with_validate (excluding closedComment) (Tree.empty.fileSystem [])
  exact ⟨hvalid, hstray, (hpatterns hstray).2 ⟨hmalformed, hfits⟩, (hcheck hvalid).2 hfits⟩

/-- A comment at the end of a valid pattern hides the parenthesis behind it, and a
    check fails. A pattern that closes the group itself is refused by the
    validation alone. -/
theorem check_disagrees_with_validate :
    (excluding "(?x)foo # comment").settings.validate = .ok ()
      ∧ ((excluding "(?x)foo # comment").check (Tree.empty.fileSystem [])).run
        = .error (.exclusion "(?x)foo # comment")
      ∧ Settings.malformed? ["a)|(?:b"] = some "a)|(?:b"
      ∧ ∃ e, Exclusion.ofPatterns ["a)|(?:b"] = .ok e := by
  have hpatterns : Exclusion.ofPatterns (excluding "(?x)foo # comment").settings.excludePatterns
      = .error "(?x)foo # comment" := by decide +kernel
  refine ⟨by decide +kernel, ?_, by decide +kernel, ?_⟩
  · rw [check_eq, hpatterns]
  · exact Exclusion.exists_ofPatterns_iff.2 (by decide +kernel)

end Project

end CatalogAudit
