import CatalogAudit.Json.Writing
import CatalogAudit.Project.Check

/-!
# The report as a document

The document holds the totals, the missing strings with all their locations and
languages, the unused keys, the excluded strings and the whitelist. It leaves
nothing out, whatever the options of the report in words are.

* `Report.document` is the document, `Report.documentText` its text.
-/

namespace CatalogAudit.Report

open Json (Value)

/-- The totals. -/
def documentTotals (o : Outcome) : Value :=
  .object
    [("total_strings_used", .number o.used.size),
      ("total_translation_keys", .number o.keyCount),
      ("total_languages", .number o.languageCount),
      ("missing_count", .number o.findings.missing.length),
      ("unused_count", .number o.findings.unused.length),
      ("excluded_count", .number o.excluded.size),
      ("whitelisted_count", .number o.whitelist.size)]

/-- A location. -/
def documentLocation (o : Occurrence) : Value :=
  .object
    [("file", .text o.file), ("line", .number o.place.line), ("col", .number o.place.column)]

def documentTexts (texts : List String) : Value :=
  .list (texts.map .text)

/-- A missing string. -/
def documentMissing (m : Missing) : Value :=
  .object
    [("string", .text m.text),
      ("missing_from_languages", documentTexts m.languages),
      ("locations", .list (m.occurrences.map documentLocation))]

/-- The document about an outcome. -/
def document (o : Outcome) : Value :=
  .object
    [("summary", documentTotals o),
      ("missing_translations", .list (o.findings.missing.map documentMissing)),
      ("unused_translations", documentTexts o.findings.unused),
      ("excluded_strings", documentTexts o.excluded.toList),
      ("whitelisted_strings", documentTexts o.whitelist.toList)]

def documentText (o : Outcome) : String :=
  (document o).pretty

end CatalogAudit.Report
