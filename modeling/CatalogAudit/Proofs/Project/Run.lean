import CatalogAudit.Proofs.Findings
import CatalogAudit.Proofs.Source.Exclusion
import CatalogAudit.CommandLine.Run

/-!
# Runs on a given state of the files

On files that do not change during a run, every step of a check is a function
of them: what is read of the sources and of the catalogs, and the outcome of
the check. The theorems about checks start from these functions.

* `Project.markupSources`, `Project.scriptSources` and `Project.catalogFiles`
  are what a check reads.
* `Project.check_eq`: a check fails for a malformed pattern only.
* `Project.check_within_eq`: within a size limit it also fails for a pattern that is too large.
* `Project.check_unlimited`: a limit changes no outcome.
-/

namespace CatalogAudit

/-- A document is read, or the file or its text is at fault. -/
theorem FileSystem.run_readDocument {α : Type} (fs : FileSystem Id)
    (reader : String → Except Json.Failure α) (file : Path) :
    (fs.readDocument reader file).run =
      match (fs.readText file).run with
      | .error fault => .error (.unreadable fault)
      | .ok text =>
        match reader text with
        | .error failure => .error (.malformed text failure)
        | .ok value => .ok value := by
  unfold readDocument
  cases ht : (fs.readText file).run with
  | error fault => simp [ht]
  | ok text => cases hr : reader text <;> simp [ht, hr]

theorem FileSystem.run_readDocument_eq_ok_iff {α : Type} {fs : FileSystem Id}
    {reader : String → Except Json.Failure α} {file : Path} {value : α} :
    (fs.readDocument reader file).run = .ok value
      ↔ ∃ text, (fs.readText file).run = .ok text ∧ reader text = .ok value := by
  rw [run_readDocument]
  cases (fs.readText file).run with
  | error fault => simp
  | ok text => cases hr : reader text <;> simp [hr]

variable (fs : FileSystem Id) (p : Project)

namespace Project

/-- The markup files of a project, each read or left out with a warning. -/
def markupSources : List (Except Warning SourceFile) :=
  (Sources.read fs p.root
    (Sources.markupFiles fs p.root (p.directory p.settings.templatesDir)).run).run

/-- The script files of a project, each read or left out with a warning. -/
def scriptSources : List (Except Warning SourceFile) :=
  (Sources.read fs p.root (Sources.scriptFiles fs (p.directory p.settings.scriptsDir)).run).run

/-- The catalogs of a project, each read or left out with a warning. -/
def catalogFiles : List (Except Warning Catalog) :=
  ((Catalogs.files fs (p.directory p.settings.catalogsDir)).run.mapM (Catalogs.loadOne fs)).run

/-- The outcome of a check with an exclusion. -/
def outcomeOn (exclusion : Exclusion) : Outcome :=
  p.outcome exclusion (p.markupSources fs) (p.scriptSources fs)
    { catalogs := .ofList (accepted (p.catalogFiles fs)), warnings := warned (p.catalogFiles fs) }

/-- Within a size limit a check has an outcome unless a pattern is malformed or
    too large. -/
theorem check_within_eq (limit : SizeLimit) :
    (p.check fs limit).run =
      match p.markers.patterns.find? (limit.isExceeded ·.2) with
      | some (noun, pattern) => .error (.settings (.refused (.madePattern noun pattern)))
      | none =>
        match Exclusion.ofPatterns p.settings.excludePatterns limit with
        | .error pattern => .error (.exclusion pattern)
        | .ok exclusion => .ok (p.outcomeOn fs exclusion) := by
  unfold check
  cases p.markers.patterns.find? (limit.isExceeded ·.2) with
  | some made => rfl
  | none => cases Exclusion.ofPatterns p.settings.excludePatterns limit <;> rfl

/-- A check has an outcome unless a pattern is malformed. -/
theorem check_eq :
    (p.check fs).run =
      match Exclusion.ofPatterns p.settings.excludePatterns with
      | .error pattern => .error (.exclusion pattern)
      | .ok exclusion => .ok (p.outcomeOn fs exclusion) := by
  unfold check
  cases Exclusion.ofPatterns p.settings.excludePatterns <;> rfl

variable {limit : SizeLimit} {o : Outcome}

/-- What a check finds out does not depend on the limit. -/
theorem check_unlimited (h : (p.check fs limit).run = .ok o) : (p.check fs).run = .ok o := by
  rw [check_within_eq] at h
  split at h
  · cases h
  · split at h
    · cases h
    · rename_i exclusion he
      rw [check_eq, Exclusion.ofPatterns_unlimited he]
      exact h

/-- The outcome of a check that succeeds. -/
theorem check_eq_ok (h : (p.check fs limit).run = .ok o) :
    ∃ exclusion, Exclusion.ofPatterns p.settings.excludePatterns = .ok exclusion
      ∧ o = p.outcomeOn fs exclusion := by
  have h := check_unlimited fs p h
  rw [check_eq] at h
  split at h
  · cases h
  · rename_i exclusion he
    exact ⟨exclusion, he, (Except.ok.inj h).symm⟩

end Project

end CatalogAudit
