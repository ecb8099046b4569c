import CatalogAudit.Proofs.Project.Totals
import CatalogAudit.Proofs.Text.ByteOrder

/-!
# The comparison in terms of sets

What is missing and what is unused are differences of sets: the used texts, the keys of
each catalog and of all of them together, the special keys and the whitelist. A comparison
skips special keys where they come up and treats the lack of any catalog as a case of its
own. It finds what the differences are, in the order of the bytes.

* `Findings.IsDifference`: the findings told as differences of sets.
* `Findings.isDifference_compare`: what a comparison finds.
-/

namespace CatalogAudit

/-- The bytes of one text come before those of another one. -/
def Utf8.Precedes (s t : String) : Prop :=
  encode s < encode t

theorem Utf8.pairwise_precedes {l : List String} (h : l.Pairwise (· < ·)) :
    l.Pairwise Precedes :=
  h.imp encode_lt_encode_iff.2

/-- The keys of a map. -/
def TextMap.keySet {β : Type} (m : TextMap β) : Set String :=
  {key | m.contains key = true}

/-- The keys of all catalogs. -/
def Catalogs.keySet (cs : Catalogs) : Set String :=
  {key | ∃ c ∈ cs.toList, key ∈ c.entries.keySet}

/-- Catalogs are listed in the order of their languages. -/
theorem Catalogs.map_language_toList (cs : Catalogs) :
    cs.toList.map (·.language) = cs.byLanguage.keys := by
  rw [toList, TextMap.values, TextMap.keys, List.map_map]
  exact List.map_congr_left cs.keyed

namespace Findings

/-- The findings of a comparison as differences of sets. -/
structure IsDifference (f : Findings) (used : Usage) (catalogs : Catalogs)
    (special whitelist : TextSet) : Prop where
  missing_ascending : (f.missing.map (·.text)).Pairwise Utf8.Precedes
  /-- Missing is what no catalog supplies or some catalog lacks. -/
  missing_eq : {text | text ∈ f.missing.map (·.text)} =
    {text | text ∈ used.occurrencesOf.keySet ∧ text ∉ special.keySet
      ∧ (text ∉ catalogs.keySet \ special.keySet
        ∨ ∃ c ∈ catalogs.toList, text ∉ c.entries.keySet \ special.keySet)}
  occurrences_eq : ∀ m ∈ f.missing, m.occurrences = used.occurrences m.text
  languages_ascending : ∀ m ∈ f.missing, m.languages.Pairwise Utf8.Precedes
  languages_eq : ∀ m ∈ f.missing, {language | language ∈ m.languages} =
    {language | ∃ c ∈ catalogs.toList, c.language = language
      ∧ m.text ∉ c.entries.keySet \ special.keySet}
  /-- No language is listed exactly if there is none. -/
  languages_eq_nil_iff : ∀ m ∈ f.missing, m.languages = [] ↔ catalogs.toList = []
  unused_ascending : f.unused.Pairwise Utf8.Precedes
  unused_eq : {key | key ∈ f.unused} =
    ((catalogs.keySet \ special.keySet) \ used.occurrencesOf.keySet) \ whitelist.keySet
  disjoint : Disjoint {text | text ∈ f.missing.map (·.text)} {key | key ∈ f.unused}

variable {used : Usage} {catalogs : Catalogs} {special whitelist : TextSet} {t : String}

theorem lacking_sublist (catalogs : Catalogs) (t : String) :
    (lacking catalogs t).Sublist catalogs.byLanguage.keys := by
  rw [← Catalogs.map_language_toList]
  exact List.filter_sublist.map _

/-- The languages of a missing string are those whose catalog lacks it, and it is not special. -/
theorem languages_of_mem_missingStrings {m : Missing}
    (h : m ∈ missingStrings used catalogs special) :
    m.languages = lacking catalogs m.text ∧ special.contains m.text = false
      ∧ (m.languages = [] ↔ catalogs.toList = []) := by
  have htext := mem_missing_iff.1 (List.mem_map.2 ⟨m, h, rfl⟩)
  rw [missingStrings_eq] at h
  obtain ⟨e, -, rfl⟩ := List.mem_map.1 h
  refine ⟨rfl, htext.2.1, ?_⟩
  obtain ⟨-, -, hlacked⟩ := htext
  rw [← List.isEmpty_iff, lacking_isEmpty_iff]
  constructor
  · intro hall
    refine hlacked.resolve_right fun ⟨c, hc, hlack⟩ => ?_
    exact Bool.false_ne_true (hlack.symm.trans (hall c hc))
  · intro hnil
    simp [hnil]

theorem notMem_keySet_diff {c : Catalog} (ht : special.contains t = false) :
    t ∉ c.entries.keySet \ special.keySet ↔ c.containsKey t = false := by
  simp [TextMap.keySet, Catalog.containsKey, ht]

/-- A text that is not special is missing from some catalog, or there is no catalog, exactly
    if no catalog supplies it or some catalog lacks it. -/
theorem isLacked_iff (ht : special.contains t = false) :
    (catalogs.toList = [] ∨ ∃ c ∈ catalogs.toList, c.containsKey t = false)
      ↔ t ∉ catalogs.keySet \ special.keySet
        ∨ ∃ c ∈ catalogs.toList, t ∉ c.entries.keySet \ special.keySet := by
  simp only [notMem_keySet_diff ht]
  have hnone : t ∉ catalogs.keySet \ special.keySet
      ↔ ∀ c ∈ catalogs.toList, c.containsKey t = false := by
    simp [Catalogs.keySet, TextMap.keySet, Catalog.containsKey, ht]
  rw [hnone]
  -- What no catalog supplies is lacked by the first one, if there is any.
  cases catalogs.toList with
  | nil => simp
  | cons c cs =>
    refine ⟨fun h => .inr (h.resolve_left (List.cons_ne_nil c cs)), fun h => .inr ?_⟩
    exact h.elim (fun hall => ⟨c, List.mem_cons_self, hall c List.mem_cons_self⟩) id

/-- A comparison finds the differences of the sets, each in the order of the bytes. -/
theorem isDifference_compare (used : Usage) (catalogs : Catalogs) (special whitelist : TextSet) :
    (compare used catalogs special whitelist).IsDifference used catalogs special whitelist where
  missing_ascending := by
    refine Utf8.pairwise_precedes ?_
    rw [compare, map_text_missingStrings]
    exact used.occurrencesOf.keys_ascending.filter _
  missing_eq := by
    ext t
    refine mem_missing_iff.trans (and_congr_right fun _ => ?_)
    rw [TextMap.keySet, Set.mem_ofPred_eq, Bool.not_eq_true]
    exact and_congr_right isLacked_iff
  occurrences_eq m hm := (of_mem_missingStrings hm).2.1
  languages_ascending m hm := by
    refine Utf8.pairwise_precedes ?_
    rw [(languages_of_mem_missingStrings hm).1]
    exact catalogs.byLanguage.keys_ascending.sublist (lacking_sublist catalogs m.text)
  languages_eq m hm := by
    obtain ⟨hlanguages, hspecial, -⟩ := languages_of_mem_missingStrings hm
    ext language
    rw [Set.mem_ofPred_eq, hlanguages, lacking, List.mem_map, Set.mem_ofPred_eq]
    simp only [notMem_keySet_diff hspecial, List.mem_filter, Bool.not_eq_true', and_assoc, and_comm]
  languages_eq_nil_iff m hm := (languages_of_mem_missingStrings hm).2.2
  unused_ascending := Utf8.pairwise_precedes (catalogs.unionKeys.keys_ascending.filter _)
  unused_eq := by
    ext key
    refine mem_unused_iff.trans ?_
    simp [Catalogs.keySet, TextMap.keySet, Catalog.containsKey, Usage.contains, and_assoc]
  disjoint := by
    refine Set.disjoint_left.2 fun t hmissing hunused => ?_
    have hused := (mem_missing_iff.1 hmissing).1
    exact Bool.false_ne_true ((mem_unused_iff.1 hunused).2.2.1.symm.trans hused)

end Findings

end CatalogAudit
