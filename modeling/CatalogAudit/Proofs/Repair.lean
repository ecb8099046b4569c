import CatalogAudit.Proofs.Findings

/-!
# Acting on the findings

Whoever gets the findings of a comparison can act on them: give each missing
string a text in every language that lacks it, and remove the unused keys from
all catalogs. Both halves of the findings act on the same catalogs, and neither
undoes the other: what is removed is not used, and what is added is.

* `Findings.repaired`: the catalogs after that.
* `Findings.containsKey_repair`: the keys of a catalog after that.
* `Findings.isClean_compare_repaired`: another comparison finds nothing, unless
  there is no catalog that could have been repaired.
-/

namespace CatalogAudit

namespace Catalog

/-- Gives strings a text, in place of the one that they may have. -/
def add (c : Catalog) (strings : List String) (textOf : String → String) : Catalog where
  language := c.language
  entries := strings.foldl (fun entries s => entries.insert s (textOf s)) c.entries

/-- Removes keys. -/
def without (c : Catalog) (keys : List String) : Catalog where
  language := c.language
  entries := c.entries.filterKeys fun key => !keys.contains key

variable {c : Catalog} {key : String}

theorem containsKey_add {strings : List String} {textOf : String → String} :
    (c.add strings textOf).containsKey key = true ↔ key ∈ strings ∨ c.containsKey key = true := by
  have hpairs : (c.add strings textOf).entries
      = (strings.map fun s => (s, textOf s)).foldl (fun m e => m.insert e.1 e.2) c.entries := by
    rw [List.foldl_map]
    rfl
  rw [containsKey, hpairs, TextMap.contains_foldl_insert, List.map_map, List.mem_map]
  simp [containsKey]

theorem containsKey_without {keys : List String} :
    (c.without keys).containsKey key = true ↔ c.containsKey key = true ∧ key ∉ keys := by
  rw [containsKey, without, TextMap.contains_filterKeys]
  simp [containsKey]

end Catalog

namespace Catalogs

/-- Changes every catalog, which keeps its language. -/
def map (cs : Catalogs) (f : Catalog → Catalog) (hf : ∀ c, (f c).language = c.language) :
    Catalogs where
  byLanguage :=
    { entries := cs.byLanguage.entries.map fun e => (e.1, f e.2)
      ascending := List.pairwise_map.2 cs.byLanguage.ascending }
  keyed e he := by
    obtain ⟨x, hx, rfl⟩ := List.mem_map.1 he
    exact (hf x.2).trans (cs.keyed x hx)

theorem toList_map (cs : Catalogs) (f : Catalog → Catalog)
    (hf : ∀ c, (f c).language = c.language) : (cs.map f hf).toList = cs.toList.map f := by
  simp [toList, TextMap.values, map]

end Catalogs

namespace Findings

variable {used : Usage} {catalogs : Catalogs} {special whitelist : TextSet} {c : Catalog}
  {s language : String}

/-- The strings that a language lacks, according to the findings. -/
def lackedBy (f : Findings) (language : String) : List String :=
  (f.missing.filter fun m => m.languages.contains language).map (·.text)

/-- Acts on the findings in one catalog. The new texts are those of the
    language. -/
def repair (f : Findings) (textOf : String → String → String) (c : Catalog) : Catalog :=
  (c.add (f.lackedBy c.language) (textOf c.language)).without f.unused

/-- Acts on the findings in all catalogs. -/
def repaired (f : Findings) (textOf : String → String → String) (cs : Catalogs) : Catalogs :=
  cs.map (f.repair textOf) fun _ => rfl

theorem mem_lacking_iff :
    language ∈ lacking catalogs s
      ↔ ∃ c ∈ catalogs.toList, c.containsKey s = false ∧ c.language = language := by
  simp [lacking, and_assoc]

/-- A language lacks what is used and not special and not a key of its catalog. -/
theorem mem_lackedBy_iff :
    s ∈ (compare used catalogs special whitelist).lackedBy language
      ↔ used.contains s = true ∧ special.contains s = false ∧ language ∈ lacking catalogs s := by
  rw [Usage.contains_iff_exists]
  simp only [lackedBy, compare, missingStrings, List.mem_map, List.mem_filter, List.mem_filterMap,
    List.contains_iff_mem]
  constructor
  · rintro ⟨m, ⟨⟨e, ⟨he, hspecial⟩, hm⟩, hlanguage⟩, rfl⟩
    split at hm
    · cases hm
    · obtain rfl := Option.some.inj hm
      exact ⟨⟨e, he, rfl⟩, by simpa using hspecial, hlanguage⟩
  · rintro ⟨⟨e, he, rfl⟩, hspecial, hlanguage⟩
    -- Some language lacks the string, so the entry is not dropped.
    have hsome : (lacking catalogs e.1).isEmpty = false :=
      List.isEmpty_eq_false_iff_exists_mem.2 ⟨_, hlanguage⟩
    refine ⟨⟨e.1, e.2, lacking catalogs e.1⟩, ⟨⟨e, ⟨he, by simpa using hspecial⟩, ?_⟩, hlanguage⟩,
      rfl⟩
    simp [hsome]

/-- A repaired catalog has its keys and what its language lacked, without what
    is unused. -/
theorem containsKey_repair {f : Findings} {textOf : String → String → String} :
    (f.repair textOf c).containsKey s = true
      ↔ (s ∈ f.lackedBy c.language ∨ c.containsKey s = true) ∧ s ∉ f.unused := by
  rw [repair, Catalog.containsKey_without, Catalog.containsKey_add]

/-- Once the findings have been acted on, nothing more is found. -/
theorem isClean_compare_repaired (used : Usage) (catalogs : Catalogs) (special whitelist : TextSet)
    (textOf : String → String → String) (h : catalogs.isEmpty = false) :
    (compare used ((compare used catalogs special whitelist).repaired textOf catalogs) special
      whitelist).isClean = true := by
  have hlist := catalogs.toList_map
    ((compare used catalogs special whitelist).repair textOf) fun _ => rfl
  have hne : catalogs.toList ≠ [] := by
    rw [Ne, ← Catalogs.isEmpty_eq_true_iff, h]
    exact Bool.false_ne_true
  refine isClean_iff.2 ⟨fun s hs => ?_, fun s hs => ?_⟩
  · -- Nothing is missing: a used string that is not special was in the catalog, or it was added;
    -- and being used it was not removed.
    obtain ⟨hused, hspecial, hlacks⟩ := mem_missing_iff.1 hs
    have hkept : s ∉ (compare used catalogs special whitelist).unused := fun hunused =>
      Bool.false_ne_true ((mem_unused_iff.1 hunused).2.2.1.symm.trans hused)
    rw [repaired, hlist, List.map_eq_nil_iff] at hlacks
    obtain ⟨c', hc', hlacks⟩ := hlacks.resolve_left hne
    obtain ⟨c, hc, rfl⟩ := List.mem_map.1 hc'
    rw [← Bool.not_eq_true, containsKey_repair, mem_lackedBy_iff, mem_lacking_iff] at hlacks
    refine hlacks ⟨?_, hkept⟩
    cases hcontains : c.containsKey s with
    | true => exact .inr rfl
    | false => exact .inl ⟨hused, hspecial, c, hc, hcontains, rfl⟩
  · -- Nothing is unused: what was added is used, and what was there before and is still there was
    -- not unused.
    obtain ⟨⟨c', hc', hcontains⟩, hspecial, hused, hwhite⟩ := mem_unused_iff.1 hs
    rw [repaired, hlist] at hc'
    obtain ⟨c, hc, rfl⟩ := List.mem_map.1 hc'
    obtain ⟨hlacked | hbefore, hkept⟩ := containsKey_repair.1 hcontains
    · exact Bool.false_ne_true (hused.symm.trans (mem_lackedBy_iff.1 hlacked).1)
    · exact hkept (mem_unused_iff.2 ⟨⟨c, hc, hbefore⟩, hspecial, hused, hwhite⟩)

/-- Two languages, of which each lacks a used string and has a key that nothing
    uses; one such key is special and one is on the whitelist. -/
theorem isClean_compare_repaired_two_languages :
    let used := Usage.ofList [("Save", ⟨"js/a.js", ⟨1, 1⟩⟩), ("Open", ⟨"js/a.js", ⟨2, 1⟩⟩),
      (".title", ⟨"js/a.js", ⟨3, 1⟩⟩)]
    let catalogs := Catalogs.ofList [⟨"de", .ofPairs [("Save", "Sichern"), ("Old", "Alt")]⟩,
      ⟨"fr", .ofPairs [("Open", "Ouvrir"), (".authorMsg", "x"), ("Red", "Rouge")]⟩]
    let special := TextSet.ofList [".authorMsg", ".title"]
    let whitelist := TextSet.ofList ["Red"]
    catalogs.isEmpty = false
      ∧ (compare used catalogs special whitelist).isClean = false
      ∧ (compare used ((compare used catalogs special whitelist).repaired (fun _ s => s) catalogs)
        special whitelist).isClean = true :=
  ⟨by decide, by decide, isClean_compare_repaired _ _ _ _ _ (by decide)⟩

end Findings

end CatalogAudit
