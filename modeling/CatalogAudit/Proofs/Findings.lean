import CatalogAudit.Findings
import CatalogAudit.Proofs.Source.Usage

/-!
# What a comparison reports

The lists that a comparison gives are told by their members: which texts are
missing and which keys are unused.

* `mem_missing_iff`: the texts that are missing.
* `mem_unused_iff`: the keys that are unused.
* `isClean_iff`: when nothing is reported.
-/

namespace CatalogAudit

theorem TextSet.contains_ofList_eq_false {texts : List String} {t : String} :
    (TextSet.ofList texts).contains t = false ↔ t ∉ texts := by
  rw [← Bool.not_eq_true, TextSet.contains_ofList]

namespace Catalogs

variable {cs : Catalogs} {t : String}

theorem isEmpty_eq_true_iff : cs.isEmpty = true ↔ cs.toList = [] :=
  TextMap.isEmpty_eq_true_iff

theorem mem_unionKeys_iff :
    t ∈ cs.unionKeys.toList ↔ ∃ c ∈ cs.toList, c.containsKey t = true := by
  rw [unionKeys, TextSet.mem_toList_ofList, List.mem_flatMap]
  simp only [Catalog.keys, TextMap.mem_keys_iff, Catalog.containsKey]

end Catalogs

namespace Findings

variable {used : Usage} {catalogs : Catalogs} {special whitelist : TextSet} {t : String}

theorem lacking_isEmpty_iff :
    (lacking catalogs t).isEmpty = true ↔ ∀ c ∈ catalogs.toList, c.containsKey t = true := by
  rw [List.isEmpty_iff, lacking, List.map_eq_nil_iff, List.filter_eq_nil_iff]
  simp

/-- Missing is what is used and not special, unless there are catalogs and all
    of them have it. -/
theorem mem_missing_iff :
    t ∈ (missingStrings used catalogs special).map (·.text)
      ↔ used.contains t = true ∧ special.contains t = false
        ∧ (catalogs.toList = [] ∨ ∃ c ∈ catalogs.toList, c.containsKey t = false) := by
  have hcond : ((lacking catalogs t).isEmpty && !catalogs.isEmpty) = false
      ↔ catalogs.toList = [] ∨ ∃ c ∈ catalogs.toList, c.containsKey t = false := by
    rw [← Bool.not_eq_true, Bool.and_eq_true, Bool.not_eq_true', lacking_isEmpty_iff,
      ← Bool.not_eq_true, Catalogs.isEmpty_eq_true_iff]
    grind
  rw [← hcond, Usage.contains_iff_exists]
  simp only [missingStrings, List.mem_map, List.mem_filterMap, List.mem_filter]
  constructor
  · rintro ⟨m, ⟨⟨text, occurrences⟩, ⟨hmem, hspecial⟩, hm⟩, rfl⟩
    split at hm
    · cases hm
    · rename_i hne
      obtain rfl := Option.some.inj hm
      exact ⟨⟨_, hmem, rfl⟩, by simpa using hspecial, by simpa using hne⟩
  · rintro ⟨⟨⟨text, occurrences⟩, hmem, rfl⟩, hspecial, hne⟩
    refine ⟨⟨text, occurrences, lacking catalogs text⟩,
      ⟨(text, occurrences), ⟨hmem, by simpa using hspecial⟩, ?_⟩, rfl⟩
    rw [if_neg (by simpa using hne)]

/-- Unused is what some catalog has and is neither special nor used nor on the
    whitelist. -/
theorem mem_unused_iff :
    t ∈ unusedKeys used catalogs special whitelist
      ↔ (∃ c ∈ catalogs.toList, c.containsKey t = true) ∧ special.contains t = false
        ∧ used.contains t = false ∧ whitelist.contains t = false := by
  rw [unusedKeys, List.mem_filter, Catalogs.mem_unionKeys_iff]
  simp [and_assoc]

theorem isClean_iff {f : Findings} :
    f.isClean = true ↔ (∀ t, t ∉ f.missing.map (·.text)) ∧ ∀ t, t ∉ f.unused := by
  rw [isClean, Bool.and_eq_true, List.isEmpty_iff, List.isEmpty_iff,
    ← List.eq_nil_iff_forall_not_mem, ← List.eq_nil_iff_forall_not_mem, List.map_eq_nil_iff]

end Findings

end CatalogAudit
