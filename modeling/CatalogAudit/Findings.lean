import CatalogAudit.Catalog.Basic
import CatalogAudit.Source.Usage

/-!
# Comparison of used strings with catalogs

A used string is missing when some catalog lacks it, or when there is no
catalog at all. A key of a catalog is unused when no used string equals it.
Special keys take part in neither comparison, and keys on the whitelist may
stay unused.

* `Findings.compare` gives the missing strings and the unused keys.
-/

namespace CatalogAudit

/-- A used string that some catalog lacks. -/
structure Missing where
  text : String
  occurrences : List Occurrence
  /-- The languages whose catalog lacks the string. -/
  languages : List String
  deriving DecidableEq, Repr

/-- No catalog out of `languageCount` has the string. -/
def Missing.isEverywhere (m : Missing) (languageCount : Nat) : Bool :=
  m.languages.length == languageCount

/-- What the comparison found. -/
structure Findings where
  missing : List Missing
  unused : List String
  deriving DecidableEq, Repr

namespace Findings

/-- Nothing was found. -/
def isClean (f : Findings) : Bool :=
  f.missing.isEmpty && f.unused.isEmpty

/-- The languages whose catalog lacks a text. -/
def lacking (catalogs : Catalogs) (text : String) : List String :=
  (catalogs.toList.filter fun c => !c.containsKey text).map (·.language)

/-- The used strings that are missing, ascending. -/
def missingStrings (used : Usage) (catalogs : Catalogs) (special : TextSet) : List Missing :=
  (used.toList.filter fun e => !special.contains e.1).filterMap fun (text, occurrences) =>
    let languages := lacking catalogs text
    if languages.isEmpty && !catalogs.isEmpty then none
    else some { text, occurrences, languages }

/-- The keys of catalogs that are unused, ascending. -/
def unusedKeys (used : Usage) (catalogs : Catalogs) (special whitelist : TextSet) :
    List String :=
  catalogs.unionKeys.toList.filter fun key =>
    !special.contains key && !used.contains key && !whitelist.contains key

/-- Compares used strings with catalogs. -/
def compare (used : Usage) (catalogs : Catalogs) (special whitelist : TextSet) : Findings where
  missing := missingStrings used catalogs special
  unused := unusedKeys used catalogs special whitelist

end Findings

end CatalogAudit
