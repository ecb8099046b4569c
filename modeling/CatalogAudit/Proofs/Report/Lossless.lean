import CatalogAudit.CommandLine.Run
import CatalogAudit.Proofs.Json.Documents

/-!
# Nothing is lost in a document

A reader of the document about an outcome looks up the totals and the lists by their keys.
It finds all that the outcome says: each missing string with every language and every
location, in their order, and the unused, the excluded and the whitelisted strings. The
totals are the lengths of these lists.

* `Report.Content`: what a document says, and `Report.Content.ofJson?` to look it up.
* `Report.ofJson?_documentText`: what the document about an outcome says.
-/

namespace CatalogAudit

/-! ### Looking up in documents -/

namespace Json.Value

/-- The value of the first member with a key. -/
def member? (v : Value) (key : String) : Option Value :=
  match v with
  | object ms => ms.lookup key
  | _ => none

def number? : Value → Option Nat
  | number n => some n
  | _ => none

def text? : Value → Option String
  | text s => some s
  | _ => none

/-- The items of a list, each looked at by `item?`. -/
def items? {α : Type} (item? : Value → Option α) : Value → Option (List α)
  | list vs => vs.mapM item?
  | _ => none

/-- Items that are written one by one are found one by one. -/
theorem items?_list_map {α : Type} {item? : Value → Option α} {written : α → Value}
    (h : ∀ a, item? (written a) = some a) (l : List α) :
    items? item? (list (l.map written)) = some l := by
  rw [items?]
  induction l with
  | nil => rfl
  | cons a l ih =>
    rw [List.map_cons, List.mapM_cons, h, ih]
    rfl

end Json.Value

namespace Report

open Json (Value)

/-- The totals that a document gives. -/
structure Totals where
  strings : Nat
  keys : Nat
  languages : Nat
  missing : Nat
  unused : Nat
  excluded : Nat
  whitelisted : Nat
  deriving DecidableEq

/-- What a document says. -/
structure Content where
  totals : Totals
  missing : List Missing
  unused : List String
  excluded : List String
  whitelist : List String
  deriving DecidableEq

/-- The totals in a part of a document. -/
def Totals.ofValue? (v : Value) : Option Totals := do
  return {
    strings := ← (← v.member? "total_strings_used").number?
    keys := ← (← v.member? "total_translation_keys").number?
    languages := ← (← v.member? "total_languages").number?
    missing := ← (← v.member? "missing_count").number?
    unused := ← (← v.member? "unused_count").number?
    excluded := ← (← v.member? "excluded_count").number?
    whitelisted := ← (← v.member? "whitelisted_count").number? }

/-- A location in a document. -/
def location? (v : Value) : Option Occurrence := do
  let line ← (← v.member? "line").number?
  let column ← (← v.member? "col").number?
  return { file := ← (← v.member? "file").text?, place := { line, column } }

/-- A missing string in a document. -/
def missing? (v : Value) : Option Missing := do
  return {
    text := ← (← v.member? "string").text?
    occurrences := ← (← v.member? "locations").items? location?
    languages := ← (← v.member? "missing_from_languages").items? Value.text? }

namespace Content

/-- What a document says. -/
def ofValue? (v : Value) : Option Content := do
  return {
    totals := ← Totals.ofValue? (← v.member? "summary")
    missing := ← (← v.member? "missing_translations").items? missing?
    unused := ← (← v.member? "unused_translations").items? Value.text?
    excluded := ← (← v.member? "excluded_strings").items? Value.text?
    whitelist := ← (← v.member? "whitelisted_strings").items? Value.text? }

/-- What the document says that a text writes, if it writes one. -/
def ofJson? (text : String) : Option Content :=
  (Value.ofJson text).toOption.bind ofValue?

/-- What there is to say about an outcome. -/
def ofOutcome (o : Outcome) : Content where
  totals :=
    { strings := o.used.size
      keys := o.keyCount
      languages := o.languageCount
      missing := o.findings.missing.length
      unused := o.findings.unused.length
      excluded := o.excluded.size
      whitelisted := o.whitelist.size }
  missing := o.findings.missing
  unused := o.findings.unused
  excluded := o.excluded.toList
  whitelist := o.whitelist.toList

end Content

/-! ### What the document about an outcome says -/

theorem items?_documentTexts (texts : List String) :
    (documentTexts texts).items? Value.text? = some texts := by
  have h (t : String) : (Value.text t).text? = some t := rfl
  exact Value.items?_list_map h texts

theorem location?_documentLocation (o : Occurrence) : location? (documentLocation o) = some o :=
  rfl

theorem missing?_documentMissing (m : Missing) : missing? (documentMissing m) = some m := by
  have htext : (documentMissing m).member? "string" = some (.text m.text) := rfl
  have hlocations : (documentMissing m).member? "locations"
      = some (.list (m.occurrences.map documentLocation)) := rfl
  have hlanguages : (documentMissing m).member? "missing_from_languages"
      = some (documentTexts m.languages) := rfl
  simp only [missing?, htext, hlocations, hlanguages, Option.bind_eq_bind, Option.bind_some,
    Value.items?_list_map location?_documentLocation, items?_documentTexts]
  rfl

theorem ofValue?_documentTotals (o : Outcome) :
    Totals.ofValue? (documentTotals o) = some (Content.ofOutcome o).totals :=
  rfl

theorem ofJson?_eq_ofOutcome (o : Outcome) :
    Content.ofJson? (documentText o) = some (.ofOutcome o) := by
  have hsummary : (document o).member? "summary" = some (documentTotals o) := rfl
  have hmissing : (document o).member? "missing_translations"
      = some (.list (o.findings.missing.map documentMissing)) := rfl
  have hunused : (document o).member? "unused_translations"
      = some (documentTexts o.findings.unused) := rfl
  have hexcluded : (document o).member? "excluded_strings"
      = some (documentTexts o.excluded.toList) := rfl
  have hwhitelist : (document o).member? "whitelisted_strings"
      = some (documentTexts o.whitelist.toList) := rfl
  rw [Content.ofJson?, documentText, Value.ofJson_pretty]
  simp only [Except.toOption, Content.ofValue?, hsummary, hmissing, hunused, hexcluded,
    hwhitelist, ofValue?_documentTotals, Value.items?_list_map missing?_documentMissing,
    items?_documentTexts, Option.bind_eq_bind, Option.bind_some]
  rfl

/-- The document is read as what the outcome says, and the totals are the lengths of the
    lists. The sets are listed in the order of their texts. Printed is nothing but the
    document, whatever the options of the report in words. -/
theorem ofJson?_documentText (o : Outcome) :
    Content.ofJson? (documentText o) = some
        { totals :=
            { strings := o.used.size
              keys := o.keyCount
              languages := o.languageCount
              missing := o.findings.missing.length
              unused := o.findings.unused.length
              excluded := o.excluded.toList.length
              whitelisted := o.whitelist.toList.length }
          missing := o.findings.missing
          unused := o.findings.unused
          excluded := o.excluded.toList
          whitelist := o.whitelist.toList }
      ∧ o.excluded.toList.Pairwise (· < ·)
      ∧ o.whitelist.toList.Pairwise (· < ·)
      ∧ ∀ (shown : Bool) (root : String) (verbose compact : Bool),
        (CommandLine.reported shown { root, verbose, json := true, compact } o).output
          = documentText o ++ "\n" := by
  refine ⟨?_, o.excluded.keys_ascending, o.whitelist.keys_ascending, fun _ _ _ _ => rfl⟩
  have hsize (s : TextSet) : s.toList.length = s.size := List.length_map _
  rw [ofJson?_eq_ofOutcome, hsize, hsize]
  rfl

end Report

end CatalogAudit
