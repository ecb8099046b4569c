import CatalogAudit.Pattern.Compilation

/-!
# Settings

Where a project keeps its files, how it marks its strings, and which strings
and keys are left out of the comparison.

* `Settings.default` are the settings of a project that has none of its own.
* `Settings.validate` refuses settings that no run can use.
-/

namespace CatalogAudit

/-- The settings of a project. -/
structure Settings where
  /-- The directory of further markup files. -/
  templatesDir : String
  /-- The directory of script files. -/
  scriptsDir : String
  /-- The directory of catalogs. -/
  catalogsDir : String
  /-- The class of marked elements. -/
  markerClass : String
  /-- The name of the function whose argument is translated. -/
  translateFunction : String
  /-- Keys that are never compared. -/
  specialKeys : List String
  /-- Keys that may stay unused. -/
  whitelist : List String
  /-- Patterns of strings that are no text to read. -/
  excludePatterns : List String
  deriving DecidableEq, Repr

/-- Why settings are refused. -/
inductive SettingsFault
  | markerClass (value : String)
  | translateFunction (value : String)
  | excludePattern (pattern : String)
  /-- A pattern that is made from the settings is too large. -/
  | madePattern (noun pattern : String)
  deriving DecidableEq, Repr

/-- The wording of a fault. -/
def SettingsFault.message : SettingsFault → String
  | markerClass value => "Invalid 'markerClass': \"" ++ value ++ "\" (expected a CSS class name)"
  | translateFunction value =>
    "Invalid 'translateFunction': \"" ++ value
      ++ "\" (expected an identifier such as \"l\" or \"t\")"
  | excludePattern pattern =>
    "Invalid regular expression in 'excludePatterns': \"" ++ pattern ++ "\""
  | madePattern noun pattern => "Failed to build " ++ noun ++ " pattern: " ++ pattern

/-- A letter or an underscore, and then letters, numbers and underscores. -/
def isIdentifier (name : String) : Bool :=
  match name.toList with
  | [] => false
  | c :: rest =>
    (Unicode.isAlphabetic c || c == '_')
      && rest.all fun c => Unicode.isAlphabetic c || Unicode.isNumeric c || c == '_'

namespace Settings

/-- Patterns of selectors of style sheets, of lists of tags and of escapes. -/
def defaultExcludePatterns : List String :=
  ["^\\.[\\w-]+$", "^#[\\w-]+$", "^[\\w-]+\\.[\\w-]+$", "^path,rect,circle",
    "^\\\\x[0-9a-fA-F]+$"]

/-- The settings where none are given. -/
def default : Settings where
  templatesDir := "templates"
  scriptsDir := "js"
  catalogsDir := "lang"
  markerClass := "ds-i18n"
  translateFunction := "l"
  specialKeys := [".authorMsg", ".title"]
  whitelist := []
  excludePatterns := defaultExcludePatterns

/-- The first of the patterns that is malformed or too large, if there is one. -/
def malformed? (patterns : List String) (limit : SizeLimit := .unlimited) : Option String :=
  patterns.find? fun p => (Regex.compile? limit p).isNone

/-- The class of marked elements is not blank and has no quote in it, the
    function is an identifier, and the patterns are well-formed and not too
    large. -/
def validate (s : Settings) (limit : SizeLimit := .unlimited) : Except SettingsFault Unit :=
  if s.markerClass.toList.all Unicode.isWhiteSpace || s.markerClass.toList.contains '"' then
    .error (.markerClass s.markerClass)
  else if !isIdentifier s.translateFunction then
    .error (.translateFunction s.translateFunction)
  else
    match malformed? s.excludePatterns limit with
    | some p => .error (.excludePattern p)
    | none => .ok ()

end Settings

end CatalogAudit
