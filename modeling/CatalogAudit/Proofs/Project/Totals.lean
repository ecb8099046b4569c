import CatalogAudit.Proofs.Project.Excluded
import CatalogAudit.Proofs.Source.Contributions
import Mathlib

/-!
# Totals that add up

The parts of an outcome come from separate steps: the extraction, the exclusion, the
comparison and a count of the keys. They fit together because all steps leave out the
same texts. Exclusion divides what is found in the sources and changes no occurrence. Of
the used texts, those that are not missing are special or in every catalog, and of the
keys that are not special, those that are not unused are used or on the whitelist.

* `Outcome.Fits`: how the parts of an outcome fit together.
* `Findings.size_eq`, `Findings.length_keys_eq`: the totals of a comparison.
* `Project.fits_of_check`: the parts of every outcome fit together.
-/

namespace CatalogAudit

/-- The members of a list without repetitions are as many as its length. -/
theorem ncard_eq_length {l : List String} (hl : l.Nodup) {s : Set String}
    (h : ∀ t, t ∈ s ↔ t ∈ l) : s.ncard = l.length := by
  obtain rfl : s = ↑l.toFinset := by
    ext t
    rw [h, Finset.mem_coe, List.mem_toFinset]
  rw [Set.ncard_coe_finset, List.toFinset_card_of_nodup hl]

namespace Usage

variable {u : Usage} {t : String}

/-- An entry has the occurrences of its text, and there are some. -/
theorem occurrences_of_mem {e : String × List Occurrence} (h : e ∈ u.toList) :
    u.occurrences e.1 = e.2 ∧ e.2 ≠ [] := by
  rw [occurrences, TextMap.mem_entries_iff.1 h]
  exact ⟨rfl, (u.proper e h).2⟩

theorem ne_empty_of_contains (h : u.contains t = true) : t ≠ "" := by
  obtain ⟨e, he, rfl⟩ := contains_iff_exists.1 h
  exact (u.proper e he).1

/-- The texts that are kept keep their occurrences. -/
theorem occurrences_filter_of_contains {test : String → Bool}
    (h : (u.filter test).contains t = true) :
    (u.filter test).occurrences t = u.occurrences t := by
  rw [occurrences_filter, if_pos (contains_filter.1 h).2]

end Usage

namespace Findings

variable {used : Usage} {catalogs : Catalogs} {special whitelist : TextSet}

/-- A text that is used is missing. -/
def isMissing (catalogs : Catalogs) (special : TextSet) (text : String) : Bool :=
  !special.contains text && !((lacking catalogs text).isEmpty && !catalogs.isEmpty)

theorem isMissing_eq_false_iff {t : String} :
    isMissing catalogs special t = false
      ↔ special.contains t = true
        ∨ catalogs.toList ≠ [] ∧ ∀ c ∈ catalogs.toList, c.containsKey t = true := by
  rw [← lacking_isEmpty_iff, Ne, ← Catalogs.isEmpty_eq_true_iff, isMissing]
  cases special.contains t <;> cases (lacking catalogs t).isEmpty <;> cases catalogs.isEmpty <;>
    decide

/-- There is one missing string for each used text that is missing. -/
theorem missingStrings_eq :
    missingStrings used catalogs special
      = (used.toList.filter fun e => isMissing catalogs special e.1).map fun e =>
        { text := e.1, occurrences := e.2, languages := lacking catalogs e.1 } := by
  rw [missingStrings, List.filterMap_filter, ← List.filterMap_eq_map', List.filterMap_filter]
  refine List.filterMap_congr fun e _ => ?_
  simp only [isMissing]
  by_cases hlacked : ((lacking catalogs e.1).isEmpty && !catalogs.isEmpty) = true
  · simp [hlacked]
  · simp [hlacked]

/-- The missing strings are the used texts that are missing, in their order. -/
theorem map_text_missingStrings :
    (missingStrings used catalogs special).map (·.text)
      = used.texts.filter (isMissing catalogs special) := by
  rw [missingStrings_eq, List.map_map, Usage.texts, TextMap.keys, List.filter_map]
  rfl

/-- A missing string is a used text with all its occurrences. -/
theorem of_mem_missingStrings {m : Missing} (h : m ∈ missingStrings used catalogs special) :
    used.contains m.text = true ∧ m.occurrences = used.occurrences m.text
      ∧ m.occurrences ≠ [] := by
  rw [missingStrings_eq] at h
  obtain ⟨e, he, rfl⟩ := List.mem_map.1 h
  have he := (List.mem_filter.1 he).1
  obtain ⟨heq, hne⟩ := Usage.occurrences_of_mem he
  exact ⟨Usage.contains_iff_exists.2 ⟨e, he, rfl⟩, heq.symm, hne⟩

/-- The used texts that are not missing are special or in every catalog. -/
theorem size_eq (used : Usage) (catalogs : Catalogs) (special : TextSet) :
    used.size = (missingStrings used catalogs special).length
      + {text | used.contains text = true ∧ (special.contains text = true
          ∨ catalogs.toList ≠ [] ∧ ∀ c ∈ catalogs.toList, c.containsKey text = true)}.ncard := by
  have hmissing : (missingStrings used catalogs special).length
      = (used.texts.filter (isMissing catalogs special)).length := by
    rw [← map_text_missingStrings, List.length_map]
  have hrest := ncard_eq_length
    (used.occurrencesOf.nodup_keys.filter (!isMissing catalogs special ·))
    (s := {text | used.contains text = true ∧ (special.contains text = true
      ∨ catalogs.toList ≠ [] ∧ ∀ c ∈ catalogs.toList, c.containsKey text = true)}) fun t => by
    rw [Set.mem_ofPred_eq, List.mem_filter, Bool.not_eq_true', isMissing_eq_false_iff,
      TextMap.mem_keys_iff]
    rfl
  have hlength : used.texts.length = used.size := List.length_map _
  rw [hmissing, hrest, ← hlength]
  exact List.length_eq_length_filter_add _

/-- The keys that are neither special nor unused are used or on the whitelist. -/
theorem length_keys_eq (used : Usage) (catalogs : Catalogs) (special whitelist : TextSet) :
    (catalogs.unionKeys.toList.filter (!special.contains ·)).length
      = (unusedKeys used catalogs special whitelist).length
        + {key | (∃ c ∈ catalogs.toList, c.containsKey key = true) ∧ special.contains key = false
            ∧ (used.contains key = true ∨ whitelist.contains key = true)}.ncard := by
  have hunused : unusedKeys used catalogs special whitelist
      = (catalogs.unionKeys.toList.filter (!special.contains ·)).filter fun key =>
        !used.contains key && !whitelist.contains key := by
    rw [unusedKeys, List.filter_filter]
    refine List.filter_congr fun key _ => ?_
    rw [Bool.and_assoc, Bool.and_comm]
  have hrest := ncard_eq_length ((catalogs.unionKeys.nodup_keys.filter (!special.contains ·)).filter
      fun key => !(!used.contains key && !whitelist.contains key))
    (s := {key | (∃ c ∈ catalogs.toList, c.containsKey key = true) ∧ special.contains key = false
      ∧ (used.contains key = true ∨ whitelist.contains key = true)}) fun key => by
    rw [Set.mem_ofPred_eq, List.mem_filter, List.mem_filter, ← Catalogs.mem_unionKeys_iff]
    simp [and_assoc, TextSet.toList]
  rw [hunused, hrest]
  exact List.length_eq_length_filter_add _

end Findings

/-- How the parts of an outcome fit together when the sources use `extracted`. -/
structure Outcome.Fits (o : Outcome) (settings : Settings) (extracted : Usage) : Prop where
  /-- What is excluded is not used. -/
  disjoint : ∀ t, t ∈ o.excluded.toList → o.used.contains t = false
  /-- What is used and what is excluded is all that is found in the sources. -/
  contains_iff : ∀ t,
    extracted.contains t = true ↔ o.used.contains t = true ∨ t ∈ o.excluded.toList
  /-- Exclusion changes no occurrence of a text that is kept. -/
  occurrences_eq : ∀ t, o.used.contains t = true →
    o.used.occurrences t = extracted.occurrences t
  ne_empty : ∀ t, o.used.contains t = true ∨ t ∈ o.excluded.toList → t ≠ ""
  occurrences_ne_nil : ∀ t, o.used.contains t = true → o.used.occurrences t ≠ []
  /-- What is missing is used, where the findings say. -/
  missing : ∀ m ∈ o.findings.missing, o.used.contains m.text = true
    ∧ m.occurrences = o.used.occurrences m.text ∧ m.occurrences ≠ []
  /-- The keys that are not special are unused, or they are used or on the whitelist. -/
  keyCount_eq : o.keyCount = o.findings.unused.length
    + {key | (∃ c ∈ o.catalogs.toList, c.containsKey key = true) ∧ key ∉ settings.specialKeys
        ∧ (o.used.contains key = true ∨ key ∈ settings.whitelist)}.ncard
  /-- The used texts are missing, or they are special or in every catalog. -/
  size_used_eq : o.used.size = o.findings.missing.length
    + {text | o.used.contains text = true ∧ (text ∈ settings.specialKeys
        ∨ o.catalogs.toList ≠ [] ∧ ∀ c ∈ o.catalogs.toList, c.containsKey text = true)}.ncard

namespace Project

variable {fs : FileSystem Id} {p : Project} {o : Outcome}

variable (fs) (p) in
/-- What the strategies find in the sources that can be read. -/
def extraction : Extraction :=
  .ofSources { markerClass := p.settings.markerClass, function := p.settings.translateFunction }
    (accepted (p.markupSources fs)) (accepted (p.scriptSources fs))

/-- Whatever the exclusion, the parts of an outcome fit together. -/
theorem fits_outcomeOn (exclusion : Exclusion) :
    (p.outcomeOn fs exclusion).Fits p.settings (p.extraction fs).used := by
  have hcontains (t : String) : (p.extraction fs).used.contains t = true
      ↔ (p.outcomeOn fs exclusion).used.contains t = true
        ∨ t ∈ (p.outcomeOn fs exclusion).excluded.toList := by
    refine Iff.trans ?_
      (or_congr Exclusion.contains_partition_iff Exclusion.mem_excluded_iff).symm
    cases exclusion.isExcluded t <;> simp [extraction, markers]
  refine {
    disjoint := fun t ht => Exclusion.contains_partition_eq_false ht
    contains_iff := hcontains
    occurrences_eq := fun t ht => Usage.occurrences_filter_of_contains ht
    ne_empty := fun t ht => Usage.ne_empty_of_contains ((hcontains t).2 ht)
    occurrences_ne_nil := fun t ht => Usage.contains_iff_occurrences_ne_nil.1 ht
    missing := fun m hm => Findings.of_mem_missingStrings hm
    keyCount_eq := ?_
    size_used_eq := ?_ }
  · simp only [← TextSet.contains_ofList, Bool.not_eq_true]
    exact Findings.length_keys_eq _ _ _ _
  · simp only [← TextSet.contains_ofList]
    exact Findings.size_eq _ _ _

/-- The parts of every outcome fit together: the used and the excluded texts are what is
    found in the sources, and the totals add up. -/
theorem fits_of_check (h : (p.check fs).run = .ok o) :
    o.Fits p.settings (p.extraction fs).used := by
  obtain ⟨exclusion, -, rfl⟩ := check_eq_ok fs p h
  exact fits_outcomeOn exclusion

/-! ### A project with strings and keys of all kinds -/

/-- A script with a selector, a translated string, one without translation and a special one,
    and a catalog with two more keys. -/
def mixedTree : Tree :=
  (((Tree.empty.insert [scriptsName] .directory).insert [scriptsName, scriptName]
    (.file (Utf8.encode "l('.hide') l('Kept') l('Gone') l('Title')"))).insert [catalogsName]
      .directory).insert [catalogsName, catalogName] (.file (Utf8.encode
        "\x7b\"Kept\": \"1\", \"Old\": \"2\", \"Rest\": \"3\", \"Title\": \"4\"\x7d"))

/-- The project at the root of the tree, with one of these keys on the whitelist. -/
def mixedProject : Project where
  root := .ofText "/"
  base := .ofText "/"
  settings := { Settings.default with specialKeys := ["Title"], whitelist := ["Old"] }

/-- Every kind of string and of key occurs in the outcome. -/
def IsMixed (o : Outcome) : Prop :=
  o.excluded.toList = [".hide"] ∧ o.used.texts = ["Gone", "Kept", "Title"]
    ∧ o.findings.missing.map (·.text) = ["Gone"] ∧ o.findings.unused = ["Rest"] ∧ o.keyCount = 3

instance (o : Outcome) : Decidable (IsMixed o) :=
  inferInstanceAs (Decidable (_ ∧ _))

def mixedScript : SourceFile where
  path := "js/app.js"
  content := "l('.hide') l('Kept') l('Gone') l('Title')"

def mixedCatalog : Catalog where
  language := "de"
  entries := .ofPairs [("Kept", "1"), ("Old", "2"), ("Rest", "3"), ("Title", "4")]

/-- The outcome, from what is read. -/
def mixedOutcome (exclusion : Exclusion) : Outcome :=
  mixedProject.outcome exclusion [] [.ok mixedScript]
    { catalogs := .ofList [mixedCatalog], warnings := [] }

theorem outcomeOn_mixed (exclusion : Exclusion) :
    mixedProject.outcomeOn (mixedTree.fileSystem []) exclusion = mixedOutcome exclusion := by
  have hmarkup : mixedProject.markupSources (mixedTree.fileSystem []) = [] := by cbv
  have hscript : mixedProject.scriptSources (mixedTree.fileSystem []) = [.ok mixedScript] := by cbv
  have hcatalogs : mixedProject.catalogFiles (mixedTree.fileSystem []) = [.ok mixedCatalog] := by
    cbv
  rw [outcomeOn, hmarkup, hscript, hcatalogs]
  rfl

theorem exists_outcome_mixed :
    ∃ o, (mixedProject.check (mixedTree.fileSystem [])).run = .ok o ∧ IsMixed o := by
  have hany : (Exclusion.ofPatterns mixedProject.settings.excludePatterns).toOption.any
      (fun exclusion => decide (IsMixed (mixedOutcome exclusion))) = true := by decide +kernel
  obtain ⟨exclusion, he, hmixed⟩ := exists_eq_ok_of_any hany
  refine ⟨mixedOutcome exclusion, ?_, of_decide_eq_true hmixed⟩
  rw [check_eq, he, ← outcomeOn_mixed]

theorem fits_of_check_mixed :
    ∃ o, (mixedProject.check (mixedTree.fileSystem [])).run = .ok o ∧ IsMixed o
      ∧ o.Fits mixedProject.settings (mixedProject.extraction (mixedTree.fileSystem [])).used := by
  obtain ⟨o, hcheck, hmixed⟩ := exists_outcome_mixed
  exact ⟨o, hcheck, hmixed, fits_of_check hcheck⟩

end Project

end CatalogAudit
