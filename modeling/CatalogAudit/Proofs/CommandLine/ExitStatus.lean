import CatalogAudit.Proofs.Project.AtRoot
import CatalogAudit.Proofs.Project.Excluded
import CatalogAudit.Proofs.Project.InSync

/-!
# The exit status of a run

A run on a tree of files ends in one of three ways. It cannot be run at all, and
then it prints nothing but a diagnostic; or the sources and the catalogs of the
project at the root agree; or they do not. Files that are left out with a
warning take no part in this. Which patterns are too large to be compiled is up
to the engine, and all of this holds of every limit.

* `CannotRun` and `Runs`: which of the first and the other cases it is.
* `run_cases`: what a run does in each case.
* `code_run_iff`: the exit status in terms of the tree.
-/

namespace CatalogAudit

namespace CommandLine

variable {fs : FileSystem Id} {limit : SizeLimit} {root : Path} {p : Project}

variable (fs limit) in
/-- A run ends before anything is checked. -/
inductive CannotRun (root : Path) : Prop
  /-- There is no project at the root. -/
  | noProject : Project.NoneAt fs root limit → CannotRun root
  /-- A pattern that is made for the markers is too large. -/
  | marker {p : Project} {noun pattern : String} :
    p.IsAt fs root limit → (noun, pattern) ∈ p.markers.patterns →
      limit.isExceeded pattern = true → CannotRun root
  /-- An exclusion pattern is malformed or too large once it is tied to the start of a
      string. -/
  | pattern {p : Project} {pattern : String} :
    p.IsAt fs root limit → pattern ∈ p.settings.excludePatterns →
      Regex.compile? limit (Exclusion.anchored pattern) = none → CannotRun root

variable (fs limit) in
/-- The project is at the root, and all its patterns can be compiled. -/
structure Runs (root : Path) (p : Project) : Prop where
  isAt : p.IsAt fs root limit
  fits : ∀ made ∈ p.markers.patterns, limit.isExceeded made.2 = false
  wellFormed : ∀ pattern ∈ p.settings.excludePatterns,
    Regex.compile? limit (Exclusion.anchored pattern) ≠ none

theorem Runs.not_cannotRun (h : Runs fs limit root p) : ¬CannotRun fs limit root := by
  rintro (hnone | ⟨hp, hmem, hlarge⟩ | ⟨hp, hmem, hpattern⟩)
  · exact h.isAt.not_noneAt hnone
  · obtain rfl := h.isAt.unique hp
    exact Bool.false_ne_true ((h.fits _ hmem).symm.trans hlarge)
  · obtain rfl := h.isAt.unique hp
    exact h.wellFormed _ hmem hpattern

theorem run_checkRoot :
    (Project.checkRoot fs root limit).run =
      match (Project.ofRoot fs root limit).run with
      | .error failure => .error failure
      | .ok project => (project.check fs limit).run := by
  unfold Project.checkRoot
  cases h : (Project.ofRoot fs root limit).run <;> simp [h]

/-- The check of the project at a root has an outcome, or it cannot be run. -/
theorem check_cases (hat : p.IsAt fs root limit) :
    (∃ e, Runs fs limit root p ∧ Exclusion.ofPatterns p.settings.excludePatterns = .ok e
        ∧ (p.check fs limit).run = .ok (p.outcomeOn fs e))
      ∨ CannotRun fs limit root ∧ ∃ failure, (p.check fs limit).run = .error failure := by
  rw [Project.check_within_eq]
  cases hmade : p.markers.patterns.find? (limit.isExceeded ·.2) with
  | some made =>
    have hlarge := List.find?_some hmade
    exact .inr ⟨.marker hat (List.mem_of_find?_eq_some hmade) hlarge, _, rfl⟩
  | none =>
    cases he : Exclusion.ofPatterns p.settings.excludePatterns limit with
    | ok e =>
      refine .inl ⟨e, ⟨hat, fun made hmem => ?_, fun pattern hmem hpattern => ?_⟩,
        Exclusion.ofPatterns_unlimited he, rfl⟩
      · exact Bool.eq_false_of_not_eq_true (List.find?_eq_none.1 hmade made hmem)
      · obtain ⟨fault, hfault⟩ := Exclusion.ofPatterns_eq_error_iff.2 ⟨pattern, hmem, hpattern⟩
        cases hfault.symm.trans he
    | error fault =>
      obtain ⟨pattern, hmem, hpattern⟩ := Exclusion.ofPatterns_eq_error_iff.1 ⟨fault, he⟩
      exact .inr ⟨.pattern hat hmem hpattern, _, rfl⟩

/-- A check of the project at a root has the outcome of this project, unless it
    cannot be run. -/
theorem checkRoot_cases (fs : FileSystem Id) (limit : SizeLimit) (root : Path) :
    (∃ p e, Runs fs limit root p ∧ Exclusion.ofPatterns p.settings.excludePatterns = .ok e
        ∧ (Project.checkRoot fs root limit).run = .ok (p.outcomeOn fs e))
      ∨ CannotRun fs limit root
        ∧ ∃ failure, (Project.checkRoot fs root limit).run = .error failure := by
  rw [run_checkRoot]
  rcases Project.ofRoot_cases fs limit root with ⟨p, hp, hat⟩ | ⟨⟨failure, hfailure⟩, hnone⟩
  · rw [hp]
    rcases check_cases hat with ⟨e, hruns, he, hcheck⟩ | hcannot
    · exact .inl ⟨p, e, hruns, he, hcheck⟩
    · exact .inr hcannot
  · rw [hfailure]
    exact .inr ⟨.noProject hnone, failure, rfl⟩

/-- A run whose arguments are understood reports what the check gives. -/
theorem run_run {shown : Bool} {arguments : List String} {a : Arguments}
    (ha : Arguments.ofList arguments = .ok a) :
    (run fs shown arguments limit).run =
      match (Project.checkRoot fs (.ofText a.root) limit).run with
      | .error failure => failed failure
      | .ok o => reported shown a o := by
  unfold run
  rw [ha]
  cases h : (Project.checkRoot fs (.ofText a.root) limit).run <;> simp [h]

/-- A run reports the outcome of the project at its root, unless it cannot be
    run. -/
theorem run_cases (fs : FileSystem Id) (limit : SizeLimit) (shown : Bool)
    {arguments : List String} {a : Arguments} (ha : Arguments.ofList arguments = .ok a) :
    (∃ p e, Runs fs limit (.ofText a.root) p
        ∧ Exclusion.ofPatterns p.settings.excludePatterns = .ok e
        ∧ (run fs shown arguments limit).run = reported shown a (p.outcomeOn fs e))
      ∨ CannotRun fs limit (.ofText a.root)
        ∧ ∃ failure, (run fs shown arguments limit).run = failed failure := by
  rw [run_run ha]
  rcases checkRoot_cases fs limit (.ofText a.root) with
    ⟨p, e, hp, he, hcheck⟩ | ⟨hcannot, failure, hcheck⟩
  · exact .inl ⟨p, e, hp, he, by rw [hcheck]⟩
  · exact .inr ⟨hcannot, failure, by rw [hcheck]⟩

/-- The number of the status of a check says whether anything is reported. -/
theorem code_ofOutcome (o : Outcome) :
    (ExitStatus.ofOutcome o).code = if o.findings.isClean then 0 else 1 := by
  rw [ExitStatus.ofOutcome, Outcome.hasIssues]
  cases o.findings.isClean <;> rfl

/-- A run whose arguments are understood ends with 2 exactly when it cannot be
    run, and prints nothing then; with 0 exactly when the sources and the
    catalogs agree; and with 1 exactly when they do not. Warnings never change
    the status. Patterns may be limited in size in any way. -/
theorem code_run_iff (t : Tree) (here : Location) (limit : SizeLimit) (shown : Bool)
    {arguments : List String} {a : Arguments} (ha : Arguments.ofList arguments = .ok a) :
    let fs := t.fileSystem here
    let root := Path.ofText a.root
    let printed := (run fs shown arguments limit).run
    (∀ (o : Outcome) (warnings : List Warning),
        (reported shown a { o with warnings }).status = (reported shown a o).status)
      ∧ (printed.status.code = 2 ↔ CannotRun fs limit root)
      ∧ (printed.status.code = 2 → printed.output = "")
      ∧ (printed.status.code = 0 ↔ ∃ p, Runs fs limit root p ∧ p.InSync fs)
      ∧ (printed.status.code = 1 ↔ ∃ p, Runs fs limit root p ∧ ¬p.InSync fs) := by
  intro fs root printed
  refine ⟨fun _ _ => rfl, ?_⟩
  rcases run_cases fs limit shown ha with ⟨p, e, hp, he, hprinted⟩ | ⟨hcannot, failure, hprinted⟩
  · have hcode : printed.status.code
        = if (p.outcomeOn fs e).findings.isClean then 0 else 1 := by
      rw [show printed = _ from hprinted]
      exact code_ofOutcome _
    have hsync : (p.outcomeOn fs e).findings.isClean = true ↔ p.InSync fs :=
      Project.isClean_outcomeOn_iff he
    -- The project at the root is unique, so what holds of some project holds of this one.
    have hproject : ∀ P : Project → Prop, (∃ q, Runs fs limit root q ∧ P q) ↔ P p := by
      intro P
      constructor
      · rintro ⟨q, hq, h⟩
        exact hq.isAt.unique hp.isAt ▸ h
      · exact fun h => ⟨p, hp, h⟩
    have hruns : ¬CannotRun fs limit root := hp.not_cannotRun
    rw [hcode, hproject, hproject, ← hsync]
    cases (p.outcomeOn fs e).findings.isClean <;> simp [hruns]
  · have hcode : printed.status.code = 2 := by rw [show printed = _ from hprinted]; rfl
    have houtput : printed.output = "" := by rw [show printed = _ from hprinted]; rfl
    have hnone : ∀ P : Project → Prop, ¬∃ q, Runs fs limit root q ∧ P q :=
      fun P ⟨q, hq, _⟩ => hq.not_cannotRun hcannot
    have hcannot : CannotRun fs limit root := hcannot
    simp [hcode, houtput, hcannot, hnone]

/-- A short pattern with a large program. -/
def hugePattern : String := "(?:a\x7b1000\x7d)\x7b1000\x7d"

/-- A limit that this pattern exceeds. -/
def hugeLimit : SizeLimit where
  isExceeded pattern := pattern == hugePattern

/-- The tree of the selector with settings that have this pattern. -/
def hugeTree : Tree :=
  Project.selectorTree.insert [Project.settingsName]
    (.file (Utf8.encode ("\x7b\"excludePatterns\": [\"" ++ hugePattern ++ "\"]\x7d")))

/-- The settings are refused. -/
theorem cannotRun_huge : CannotRun (hugeTree.fileSystem []) hugeLimit (.ofText "/") := by
  have hfind : (Settings.find? (hugeTree.fileSystem []) (.ofText "/")).run
      = some (.ofText "/.catalintrc.json") := by cbv
  have htext : ((hugeTree.fileSystem []).readText (.ofText "/.catalintrc.json")).run
      = .ok ("\x7b\"excludePatterns\": [\"" ++ hugePattern ++ "\"]\x7d") := by cbv
  have hjson : Settings.ofJson ("\x7b\"excludePatterns\": [\"" ++ hugePattern ++ "\"]\x7d")
      = .ok { Settings.default with excludePatterns := [hugePattern] } := by cbv
  have hrefused : ({ Settings.default with excludePatterns := [hugePattern] } : Settings).validate
      hugeLimit = .error (.excludePattern hugePattern) := by decide +kernel
  exact .noProject (.settings (by cbv) (.refused hfind htext hjson hrefused))

/-- The key that is excluded and not wanted makes the run end with 1, and the pattern that is
    too large makes it end with 2. -/
theorem code_run_selector :
    Arguments.ofList ["--root", "/"]
        = .ok { root := "/", verbose := false, json := false, compact := false }
      ∧ (run (Project.selectorTree.fileSystem []) false ["--root", "/"] hugeLimit).run.status.code
        = 1
      ∧ (run (hugeTree.fileSystem []) false ["--root", "/"] hugeLimit).run.status.code = 2 := by
  have ha : Arguments.ofList ["--root", "/"]
      = .ok { root := "/", verbose := false, json := false, compact := false } := by decide
  have hruns : Runs (Project.selectorTree.fileSystem []) hugeLimit (.ofText "/")
      Project.selectorProject :=
    ⟨⟨by cbv, .default (by cbv)⟩, by decide +kernel, by decide +kernel⟩
  have hselector := code_run_iff Project.selectorTree [] hugeLimit false ha
  have hhuge := code_run_iff hugeTree [] hugeLimit false ha
  refine ⟨ha, hselector.2.2.2.2.2 ⟨_, hruns, ?_⟩, hhuge.2.1.2 cannotRun_huge⟩
  intro hsync
  obtain ⟨e, he, hexcluded⟩ := Project.exists_exclusion_selector
  obtain ⟨pattern, hmem, hpattern⟩ := (Exclusion.isExcluded_iff he).1 hexcluded
  have hcatalog : { language := "de", entries := .ofPairs [(".hide", ".hide")] }
      ∈ Project.selectorProject.catalogs (Project.selectorTree.fileSystem []) := by
    rw [Project.catalogs, Project.catalogFiles_selector]
    exact List.mem_singleton_self _
  rcases hsync.wanted _ hcatalog ".hide" (by decide) (by decide) with htranslates | hwhite
  · exact htranslates.kept pattern hmem hpattern
  · cases hwhite

end CommandLine

end CatalogAudit
