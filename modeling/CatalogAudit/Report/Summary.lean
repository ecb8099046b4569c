import CatalogAudit.Project.Check
import CatalogAudit.Report.Style

/-!
# The report in words

The report counts what was scanned and found, lists what is missing and unused,
and closes with a verdict. Warnings are separate from it.

* `Report.text` is the report, `Report.warnings` are the warnings.
-/

namespace CatalogAudit

/-- What the report goes into. -/
structure ReportOptions where
  /-- Excluded strings are listed. -/
  verbose : Bool
  /-- Locations and languages are left out. -/
  compact : Bool
  deriving DecidableEq, Repr

namespace Report

/-- The word for one thing or for another number of them. -/
def plural (count : Nat) (one many : String) : String :=
  if count = 1 then one else many

/-- A number with the word for what is counted. -/
def counted (count : Nat) (one many : String) : String :=
  toString count ++ " " ++ plural count one many

/-- The width of rules. -/
def ruleWidth : Nat := 80

/-- The number of languages that are listed of one string. -/
def greatestLanguageCount : Nat := 5

def rule (c : Char) : String :=
  String.ofList (List.replicate ruleWidth c)

def bold : Style where
  weight := .bold
  color := none

def boldIn (color : Color) : Style where
  weight := .bold
  color := some color

def plainIn (color : Color) : Style where
  weight := .normal
  color := some color

def dimmed : Style where
  weight := .dimmed
  color := none

/-- The mark of what is in order. -/
def successMark : String := "\u2713"

/-- The mark of what is not in order. -/
def failureMark : String := "\u2718"

/-- The heading of a part. -/
def banner (shown : Bool) (title : String) : List String :=
  [rule '=', bold.paint shown title, rule '=']

/-- The line that names a string or a key. -/
def item (text : String) : String :=
  "  - \"" ++ text ++ "\""

/-- The number of sources, and of the strings that were found in them. -/
def scanLines (o : Outcome) : List String :=
  ["Scanning source files...",
    "Found " ++ toString o.markupFiles ++ " HTML " ++ plural o.markupFiles "file" "files",
    "Found " ++ toString o.scriptFiles ++ " JavaScript " ++ plural o.scriptFiles "file" "files",
    "",
    "Extracting translation strings from source files...",
    "Found " ++ toString o.counts.markupElements ++ " marked "
      ++ plural o.counts.markupElements "string" "strings" ++ " in HTML files",
    "Found " ++ counted o.counts.calls "string" "strings" ++ " in translation calls",
    "Found " ++ toString o.counts.embeddedElements ++ " marked "
      ++ plural o.counts.embeddedElements "string" "strings" ++ " in JavaScript files",
    ""]

/-- The excluded strings, if there are any. -/
def excludedLines (shown : Bool) (options : ReportOptions) (o : Outcome) : List String :=
  if o.excluded.isEmpty then []
  else
    ["Excluded " ++ toString o.excluded.size ++ " non-translatable "
      ++ plural o.excluded.size "string" "strings" ++ " (CSS selectors, etc.)"]
      ++ (if options.verbose then o.excluded.toList.map fun t => item (dimmed.paint shown t)
        else [])
      ++ [""]

/-- The number of keys and of languages. -/
def catalogLines (o : Outcome) : List String :=
  ["Loading translation keys from catalogs...",
    "Found " ++ counted o.keyCount "key" "keys" ++ " in translation files",
    "Found " ++ toString o.languageCount ++ " language " ++ plural o.languageCount "file" "files",
    ""]

/-- The first location of a missing string, and the number of further ones. -/
def locationLines (shown : Bool) (missing : Missing) : List String :=
  match missing.occurrences with
  | [] => []
  | first :: more =>
    ("    " ++ (plainIn .blue).paint shown "-->" ++ " " ++ first.file ++ ":"
        ++ toString first.place.line ++ ":" ++ toString first.place.column)
      :: if more.isEmpty then []
        else ["    (and " ++ toString more.length ++ " more "
          ++ plural more.length "location" "locations" ++ ")"]

/-- The languages that lack a missing string. -/
def languagesText (languageCount : Nat) (missing : Missing) : String :=
  let languages := missing.languages
  if missing.isEverywhere languageCount then
    "ALL languages (" ++ toString languageCount ++ ")"
  else if languages.length ≤ greatestLanguageCount then ", ".intercalate languages
  else
    ", ".intercalate (languages.take greatestLanguageCount) ++ " (and "
      ++ toString (languages.length - greatestLanguageCount) ++ " more)"

/-- What the report says about one missing string. -/
def missingEntry (shown : Bool) (options : ReportOptions) (languageCount : Nat)
    (missing : Missing) : List String :=
  item missing.text :: if options.compact then []
    else locationLines shown missing
      ++ ["    " ++ dimmed.paint shown "Missing from:" ++ " "
        ++ languagesText languageCount missing]

/-- The missing strings. -/
def missingLines (shown : Bool) (options : ReportOptions) (o : Outcome) : List String :=
  let missing := o.findings.missing
  if missing.isEmpty then
    [(plainIn .green).paint shown successMark ++ " "
      ++ (plainIn .green).paint shown "No missing translations found", ""]
  else
    [(plainIn .red).paint shown failureMark ++ " " ++ (boldIn .red).paint shown
        ("MISSING TRANSLATIONS (" ++ counted missing.length "string" "strings" ++ ")"),
      "These strings are used in code but not found in translation files:", rule '-']
      ++ missing.flatMap (missingEntry shown options o.languageCount) ++ [""]

/-- The unused keys. -/
def unusedLines (shown : Bool) (o : Outcome) : List String :=
  let unused := o.findings.unused
  if unused.isEmpty then
    [(plainIn .green).paint shown successMark ++ " "
      ++ (plainIn .green).paint shown "No unused translations found", ""]
  else
    [(boldIn .cyan).paint shown "info:" ++ " " ++ bold.paint shown
        ("UNUSED TRANSLATIONS (" ++ counted unused.length "string" "strings" ++ ")"),
      "These strings are in translation files but not used in code:", rule '-']
      ++ unused.map item ++ [""]

/-- The final line. -/
def verdict (shown : Bool) (o : Outcome) : String :=
  if o.hasIssues then
    (plainIn .red).paint shown failureMark ++ " "
      ++ (boldIn .red).paint shown "Translation files need updates"
  else
    (plainIn .green).paint shown successMark ++ " "
      ++ (boldIn .green).paint shown "All translations are in sync"

/-- The totals and the verdict. -/
def summaryLines (shown : Bool) (o : Outcome) : List String :=
  banner shown "SUMMARY"
    ++ ["Total strings used in code: " ++ toString o.used.size,
      "Total keys in translation files: " ++ toString o.keyCount,
      "Missing translations: " ++ toString o.findings.missing.length,
      "Unused translations: " ++ toString o.findings.unused.length,
      "Whitelisted strings: " ++ toString o.whitelist.size,
      "",
      verdict shown o]

/-- The lines of the report. -/
def lines (shown : Bool) (options : ReportOptions) (o : Outcome) : List String :=
  banner shown "Translation String Checker" ++ [""] ++ scanLines o
    ++ excludedLines shown options o ++ catalogLines o ++ banner shown "RESULTS" ++ [""]
    ++ missingLines shown options o ++ unusedLines shown o ++ summaryLines shown o

/-- Lines as text, each with its end. -/
def unlines (lines : List String) : String :=
  String.join (lines.map (· ++ "\n"))

/-- The report, with or without styles. -/
def text (shown : Bool) (options : ReportOptions) (o : Outcome) : String :=
  unlines (lines shown options o)

/-- The line of a warning. -/
def warningLine (shown : Bool) (rest : String) : String :=
  (boldIn .yellow).paint shown "warning:" ++ " " ++ rest

/-- The warnings, the last of which is that there is no catalog. -/
def warnings (shown : Bool) (o : Outcome) : String :=
  unlines <| o.warnings.map (fun w => warningLine shown (w.file ++ ": " ++ w.message))
    ++ if o.catalogs.isEmpty then
        [warningLine shown ("No translation catalogs found in " ++ o.catalogsDir)]
      else []

end Report

end CatalogAudit
