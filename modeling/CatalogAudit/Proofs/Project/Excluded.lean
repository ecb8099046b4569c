import CatalogAudit.Files.Tree
import CatalogAudit.Proofs.Project.Run
import Mathlib

/-!
# Excluded strings in the findings

Excluded strings are taken away from the used strings before the comparison, so
none of them is missing. Nothing is taken away from the catalogs: a catalog key
that is excluded counts as unused like any other key that nothing uses.

* `excluded_absent_iff`: when an excluded string stays out of the findings.
-/

namespace CatalogAudit

namespace Project

/-- An excluded string is never missing. It is not unused exactly when no catalog
    has it as a key, or when it is special or on the whitelist. -/
theorem excluded_absent_iff {fs : FileSystem Id} {p : Project} {o : Outcome}
    (h : (p.check fs).run = .ok o) {t : String} (ht : t ∈ o.excluded.toList) :
    t ∉ o.findings.missing.map (·.text)
      ∧ (t ∉ o.findings.unused ↔ (∀ c ∈ o.catalogs.toList, c.containsKey t = false)
        ∨ t ∈ p.settings.specialKeys ∨ t ∈ p.settings.whitelist) := by
  obtain ⟨exclusion, -, rfl⟩ := check_eq_ok fs p h
  have hkept : (p.outcomeOn fs exclusion).used.contains t = false :=
    Exclusion.contains_partition_eq_false ht
  refine ⟨fun hmissing => ?_, ?_⟩
  · exact Bool.false_ne_true (hkept.symm.trans (Findings.mem_missing_iff.1 hmissing).1)
  have hunused : t ∈ (p.outcomeOn fs exclusion).findings.unused
      ↔ (∃ c ∈ (p.outcomeOn fs exclusion).catalogs.toList, c.containsKey t = true)
        ∧ t ∉ p.settings.specialKeys ∧ t ∉ p.settings.whitelist := by
    refine Findings.mem_unused_iff.trans ?_
    rw [TextSet.contains_ofList_eq_false, TextSet.contains_ofList_eq_false]
    exact and_congr_right fun _ => and_congr_right fun _ => and_iff_right hkept
  -- The condition that nothing uses the string is gone, because the string is not kept.
  rw [hunused]
  grind

/-- A test of what was computed. -/
theorem exists_eq_ok_of_any {ε α : Type} {x : Except ε α} {test : α → Bool}
    (h : x.toOption.any test = true) : ∃ a, x = .ok a ∧ test a = true := by
  cases x with
  | error fault => cases h
  | ok a => exact ⟨a, rfl, h⟩

/-! ### A project with an excluded key -/

def scriptsName : FileName where
  bytes := Utf8.encode "js"
  proper := by decide

def scriptName : FileName where
  bytes := Utf8.encode "app.js"
  proper := by decide

def catalogsName : FileName where
  bytes := Utf8.encode "lang"
  proper := by decide

def catalogName : FileName where
  bytes := Utf8.encode "de.json"
  proper := by decide

def settingsName : FileName where
  bytes := Utf8.encode ".catalintrc.json"
  proper := by decide

/-- A script that translates a selector, and a catalog with this selector as its
    only key. -/
def selectorTree : Tree :=
  (((Tree.empty.insert [scriptsName] .directory).insert [scriptsName, scriptName]
    (.file (Utf8.encode "l('.hide')"))).insert [catalogsName] .directory).insert
      [catalogsName, catalogName] (.file (Utf8.encode "\x7b\".hide\": \".hide\"\x7d"))

/-- The project at the root of the tree, which has no settings of its own. -/
def selectorProject : Project where
  root := .ofText "/"
  base := .ofText "/"
  settings := .default

theorem markupSources_selector :
    selectorProject.markupSources (selectorTree.fileSystem []) = [] := by cbv

theorem scriptSources_selector :
    selectorProject.scriptSources (selectorTree.fileSystem [])
      = [.ok { path := "js/app.js", content := "l('.hide')" }] := by cbv

theorem catalogFiles_selector :
    selectorProject.catalogFiles (selectorTree.fileSystem [])
      = [.ok { language := "de", entries := .ofPairs [(".hide", ".hide")] }] := by cbv

/-- The default patterns exclude the selector. -/
theorem exists_exclusion_selector :
    ∃ exclusion, Exclusion.ofPatterns selectorProject.settings.excludePatterns = .ok exclusion
      ∧ exclusion.isExcluded ".hide" = true := by
  have h : (Exclusion.ofPatterns Settings.defaultExcludePatterns).toOption.any
      (·.isExcluded ".hide") = true := by decide +kernel
  exact exists_eq_ok_of_any h

/-- The check of the project succeeds, and the selector is excluded. -/
theorem exists_outcome_selector :
    ∃ o exclusion, (selectorProject.check (selectorTree.fileSystem [])).run = .ok o
      ∧ o = selectorProject.outcomeOn (selectorTree.fileSystem []) exclusion
      ∧ ".hide" ∈ o.excluded.toList := by
  obtain ⟨exclusion, he, hx⟩ := exists_exclusion_selector
  refine ⟨_, exclusion, (check_eq _ _).trans (by rw [he]), rfl, ?_⟩
  refine Exclusion.mem_excluded_iff.2 ⟨?_, hx⟩
  rw [markupSources_selector, scriptSources_selector]
  decide +kernel

theorem excluded_absent_iff_selector :
    ∃ o, (selectorProject.check (selectorTree.fileSystem [])).run = .ok o
      ∧ ".hide" ∈ o.excluded.toList ∧ ".hide" ∉ o.findings.missing.map (·.text)
      ∧ (".hide" ∉ o.findings.unused ↔ (∀ c ∈ o.catalogs.toList, c.containsKey ".hide" = false)
        ∨ ".hide" ∈ Settings.default.specialKeys ∨ ".hide" ∈ Settings.default.whitelist) := by
  obtain ⟨o, exclusion, hcheck, -, hexcluded⟩ := exists_outcome_selector
  exact ⟨o, hcheck, hexcluded, excluded_absent_iff hcheck hexcluded⟩

/-- The selector is excluded and is reported as unused. -/
theorem excluded_unused_selector :
    ∃ o, (selectorProject.check (selectorTree.fileSystem [])).run = .ok o
      ∧ ".hide" ∈ o.excluded.toList ∧ ".hide" ∈ o.findings.unused := by
  obtain ⟨o, exclusion, hcheck, rfl, hexcluded⟩ := exists_outcome_selector
  refine ⟨_, hcheck, hexcluded, Findings.mem_unused_iff.2 ⟨?_, by decide, ?_, by decide⟩⟩
  · rw [catalogFiles_selector]
    decide
  · exact Exclusion.contains_partition_eq_false hexcluded

end Project

end CatalogAudit
