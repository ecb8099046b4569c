import CatalogAudit.Proofs.Project.Catalogs
import Mathlib.Tactic.ByContra

/-!
# When sources and catalogs agree

The sources and the catalogs of a project are in sync when every string to
translate is a key of every catalog, and every key of a catalog is wanted. This
is said here without usages, sets and the lists of what is missing or unused,
and it is what a check of the project decides.

* `Project.Translates`: the strings to translate.
* `Project.InSync`: the sources and the catalogs agree.
* `Project.isClean_outcomeOn_iff`: a check reports nothing exactly then.
-/

namespace CatalogAudit.Project

variable {fs : FileSystem Id} {p : Project} {e : Exclusion} {s : String}

variable (fs) (p) in
/-- The catalogs of the project that can be read. -/
def catalogs : List Catalog :=
  accepted (p.catalogFiles fs)

variable (fs) (p) in
/-- Some strategy finds the string in a source that can be read, and no pattern
    excludes it. -/
structure Translates (s : String) : Prop where
  recorded : Extraction.Recorded
    { markerClass := p.settings.markerClass, function := p.settings.translateFunction }
    (accepted (p.markupSources fs)) (accepted (p.scriptSources fs)) s
  kept : ∀ pattern ∈ p.settings.excludePatterns, ¬Exclusion.Excludes pattern s

variable (fs) (p) in
/-- The sources and the catalogs agree. Files that cannot be read count neither
    for nor against this. -/
structure InSync : Prop where
  /-- Every catalog has all strings to translate. -/
  translated : ∀ s, p.Translates fs s → s ∉ p.settings.specialKeys →
    ∀ c ∈ p.catalogs fs, c.containsKey s = true
  /-- Without catalogs there is nothing to translate. -/
  nothing_of_nil : p.catalogs fs = [] → ∀ s, p.Translates fs s → s ∈ p.settings.specialKeys
  /-- All keys are wanted. -/
  wanted : ∀ c ∈ p.catalogs fs, ∀ key, c.containsKey key = true → key ∉ p.settings.specialKeys →
    p.Translates fs key ∨ key ∈ p.settings.whitelist

/-- A check uses the strings to translate. -/
theorem contains_used_outcomeOn_iff
    (he : Exclusion.ofPatterns p.settings.excludePatterns = .ok e) :
    (p.outcomeOn fs e).used.contains s = true ↔ p.Translates fs s := by
  have hexcluded : e.isExcluded s = false
      ↔ ∀ pattern ∈ p.settings.excludePatterns, ¬Exclusion.Excludes pattern s := by
    rw [← Bool.not_eq_true, Exclusion.isExcluded_iff he]
    simp
  refine Exclusion.contains_partition_iff.trans ?_
  rw [Extraction.contains_used_iff, hexcluded]
  exact ⟨fun h => ⟨h.1, h.2⟩, fun h => ⟨h.1, h.2⟩⟩

variable {t : Tree} {here : Location}

/-- A string is missing when it is to be translated, not special, and some
    catalog lacks it or there is no catalog. -/
theorem mem_missing_outcomeOn_iff
    (he : Exclusion.ofPatterns p.settings.excludePatterns = .ok e) :
    s ∈ (p.outcomeOn (t.fileSystem here) e).findings.missing.map (·.text)
      ↔ p.Translates (t.fileSystem here) s ∧ s ∉ p.settings.specialKeys
        ∧ (p.catalogs (t.fileSystem here) = []
          ∨ ∃ c ∈ p.catalogs (t.fileSystem here), c.containsKey s = false) := by
  have hmem : ∀ c, c ∈ (p.outcomeOn (t.fileSystem here) e).catalogs.toList
      ↔ c ∈ p.catalogs (t.fileSystem here) := fun c => p.mem_loaded_iff t here
  have hnil : (p.outcomeOn (t.fileSystem here) e).catalogs.toList = []
      ↔ p.catalogs (t.fileSystem here) = [] := by
    rw [List.eq_nil_iff_forall_not_mem, List.eq_nil_iff_forall_not_mem]
    exact forall_congr' fun c => not_congr (hmem c)
  refine Findings.mem_missing_iff.trans ?_
  rw [TextSet.contains_ofList_eq_false, ← contains_used_outcomeOn_iff he]
  refine and_congr_right fun _ => and_congr_right fun _ => or_congr hnil ?_
  exact exists_congr fun c => and_congr_left fun _ => hmem c

/-- A key is unused when some catalog has it and it is neither special nor to be
    translated nor on the whitelist. -/
theorem mem_unused_outcomeOn_iff
    (he : Exclusion.ofPatterns p.settings.excludePatterns = .ok e) :
    s ∈ (p.outcomeOn (t.fileSystem here) e).findings.unused
      ↔ (∃ c ∈ p.catalogs (t.fileSystem here), c.containsKey s = true)
        ∧ s ∉ p.settings.specialKeys ∧ ¬p.Translates (t.fileSystem here) s
        ∧ s ∉ p.settings.whitelist := by
  refine Findings.mem_unused_iff.trans ?_
  rw [TextSet.contains_ofList_eq_false, TextSet.contains_ofList_eq_false,
    ← contains_used_outcomeOn_iff he, Bool.not_eq_true]
  refine and_congr_left fun _ => exists_congr fun c => and_congr_left fun _ => ?_
  exact p.mem_loaded_iff t here

/-- A check reports nothing exactly when the sources and the catalogs agree. -/
theorem isClean_outcomeOn_iff (he : Exclusion.ofPatterns p.settings.excludePatterns = .ok e) :
    (p.outcomeOn (t.fileSystem here) e).findings.isClean = true
      ↔ p.InSync (t.fileSystem here) := by
  rw [Findings.isClean_iff]
  simp only [mem_missing_outcomeOn_iff he, mem_unused_outcomeOn_iff he]
  constructor
  · rintro ⟨hmissing, hunused⟩
    refine ⟨fun s hs hspecial c hc => ?_, fun hnil s hs => ?_, fun c hc key hkey hspecial => ?_⟩
    · by_contra hlacks
      exact hmissing s ⟨hs, hspecial, .inr ⟨c, hc, Bool.not_eq_true _ ▸ hlacks⟩⟩
    · by_contra hspecial
      exact hmissing s ⟨hs, hspecial, .inl hnil⟩
    · by_contra hneither
      obtain ⟨hs, hwhite⟩ := not_or.1 hneither
      exact hunused key ⟨⟨c, hc, hkey⟩, hspecial, hs, hwhite⟩
  · rintro ⟨htranslated, hnothing, hwanted⟩
    refine ⟨fun s hmissing => ?_, fun key hunused => ?_⟩
    · obtain ⟨hs, hspecial, hnil | ⟨c, hc, hlacks⟩⟩ := hmissing
      · exact hspecial (hnothing hnil s hs)
      · exact Bool.false_ne_true (hlacks.symm.trans (htranslated s hs hspecial c hc))
    · obtain ⟨⟨c, hc, hkey⟩, hspecial, hs, hwhite⟩ := hunused
      exact (hwanted c hc key hkey hspecial).elim hs hwhite

end CatalogAudit.Project
