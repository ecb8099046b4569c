import CatalogAudit.Findings
import CatalogAudit.Project.LoadedCatalogs
import CatalogAudit.Project.LoadedSettings
import CatalogAudit.Source.Exclusion

/-!
# The check of a project

A check finds the sources of a project, extracts the strings that they use,
leaves out the technical ones, loads the catalogs and compares.

* `Project.ofRoot` is the project at a root, with the settings found there.
* `Project.check` runs the check.
-/

namespace CatalogAudit

variable {m : Type → Type} [Monad m]

/-- A project with its settings. -/
structure Project where
  /-- The directory of the topmost markup files, from which reports see all
      paths. -/
  root : Path
  /-- The directory from which the directories of the settings are seen. -/
  base : Path
  settings : Settings
  deriving DecidableEq, Repr

/-- Why a project cannot be checked. -/
inductive CheckFailure
  | root (path : Path) (fault : FileFault)
  | settings (failure : SettingsFailure)
  | exclusion (pattern : String)
  deriving DecidableEq, Repr

namespace CheckFailure

/-- What failed. -/
def message : CheckFailure → String
  | root path _ => "Failed to resolve project root: " ++ path.quoted
  | settings (.document file fault) => fault.message "config" file
  | settings (.refused fault) => fault.message
  | exclusion pattern => "Invalid exclusion pattern: \"" ++ pattern ++ "\""

/-- Why it failed, where that is not said by what failed. Of a pattern that cannot be compiled
    it only says which of the two reasons there is, and leaves out the engine's words. -/
def cause? : CheckFailure → Option String
  | root _ fault => some fault.message
  | settings (.document _ fault) => some fault.cause
  | settings (.refused (.madePattern _ _)) => some "the compiled pattern is too large"
  | settings (.refused (.excludePattern _)) | exclusion _ =>
    some "regex parse error: the pattern is malformed"
  | settings (.refused _) => none

end CheckFailure

/-- What a check found out. -/
structure Outcome where
  /-- The number of markup files that were read. -/
  markupFiles : Nat
  /-- The number of script files that were read. -/
  scriptFiles : Nat
  /-- What each strategy found, before exclusion. -/
  counts : StrategyCounts
  /-- The used strings without the excluded ones. -/
  used : Usage
  excluded : TextSet
  catalogs : Catalogs
  /-- The number of different keys that are not special. -/
  keyCount : Nat
  whitelist : TextSet
  findings : Findings
  warnings : List Warning
  /-- The directory of the catalogs, as reports show it. -/
  catalogsDir : String
  deriving DecidableEq

namespace Outcome

def languageCount (o : Outcome) : Nat :=
  o.catalogs.size

/-- Something is missing or unused. -/
def hasIssues (o : Outcome) : Bool :=
  !o.findings.isClean

end Outcome

namespace Project

/-- A directory of the settings. -/
def directory (p : Project) (name : String) : Path :=
  p.base.join (.ofText name)

/-- What the strings of a project are marked with. -/
def markers (p : Project) : Markers where
  markerClass := p.settings.markerClass
  function := p.settings.translateFunction

/-- The project at a root. -/
def ofRoot (fs : FileSystem m) (root : Path) (limit : SizeLimit := .unlimited) :
    m (Except CheckFailure Project) := do
  match ← fs.resolve root with
  | .error fault => return .error (.root root fault)
  | .ok resolved =>
    match ← Settings.load fs resolved limit with
    | .error failure => return .error (.settings failure)
    | .ok loaded =>
      return .ok { root := resolved, base := loaded.base, settings := loaded.settings }

/-- The outcome of a check, from what was read of the sources and the
    catalogs. -/
def outcome (p : Project) (exclusion : Exclusion) (markup script : List (Except Warning SourceFile))
    (loaded : LoadedCatalogs) : Outcome :=
  let extraction := Extraction.ofSources p.markers (accepted markup) (accepted script)
  let (used, excluded) := exclusion.partition extraction.used
  let special := TextSet.ofList p.settings.specialKeys
  let whitelist := TextSet.ofList p.settings.whitelist
  { markupFiles := (accepted markup).length
    scriptFiles := (accepted script).length
    counts := extraction.counts
    used
    excluded
    catalogs := loaded.catalogs
    keyCount := (loaded.catalogs.unionKeys.toList.filter (!special.contains ·)).length
    whitelist
    findings := .compare used loaded.catalogs special whitelist
    warnings := warned markup ++ warned script ++ loaded.warnings.map fun w =>
      { w with file := (Path.ofText w.file).display p.root }
    catalogsDir := (p.directory p.settings.catalogsDir).display p.root }

/-- Checks a project. -/
def check (fs : FileSystem m) (p : Project) (limit : SizeLimit := .unlimited) :
    m (Except CheckFailure Outcome) := do
  match p.markers.patterns.find? (limit.isExceeded ·.2) with
  | some (noun, pattern) => return .error (.settings (.refused (.madePattern noun pattern)))
  | none =>
    match Exclusion.ofPatterns p.settings.excludePatterns limit with
    | .error pattern => return .error (.exclusion pattern)
    | .ok exclusion =>
      let markupFiles ← Sources.markupFiles fs p.root (p.directory p.settings.templatesDir)
      let scriptFiles ← Sources.scriptFiles fs (p.directory p.settings.scriptsDir)
      let markup ← Sources.read fs p.root markupFiles
      let script ← Sources.read fs p.root scriptFiles
      let loaded ← Catalogs.load fs (p.directory p.settings.catalogsDir)
      return .ok (p.outcome exclusion markup script loaded)

/-- Checks the project at a root. -/
def checkRoot (fs : FileSystem m) (root : Path) (limit : SizeLimit := .unlimited) :
    m (Except CheckFailure Outcome) := do
  match ← ofRoot fs root limit with
  | .error failure => return .error failure
  | .ok project => project.check fs limit

end Project

end CatalogAudit
