import CatalogAudit.Proofs.Source.Form
import CatalogAudit.Proofs.TextMap

/-!
# Which strings are used

A usage is told by its texts. Recording and merging add texts and drop none, so
the sources use exactly the texts that some strategy records in some file. None
of these texts is empty: the condition under which a record is ignored never
holds for what the strategies find.

* `Usage.contains_merge`, `Usage.contains_ofList`, `Usage.contains_filter`: the
  texts of a usage that is built from others.
* `Usage.occurrences_ofList`: the occurrences of a text.
* `Extraction.Recorded` and `contains_used_iff`: the texts that the sources use.
-/

namespace CatalogAudit

namespace Usage

variable {u v : Usage} {t : String}

theorem contains_iff_exists : u.contains t = true ↔ ∃ e ∈ u.toList, e.1 = t := by
  rw [contains, ← TextMap.mem_keys_iff, TextMap.keys, List.mem_map]
  rfl

theorem mem_texts_iff : t ∈ u.texts ↔ u.contains t = true :=
  TextMap.mem_keys_iff

theorem contains_filter {test : String → Bool} :
    (u.filter test).contains t = true ↔ u.contains t = true ∧ test t = true :=
  TextMap.contains_filterKeys

/-- A filter leaves the occurrences of the texts that pass as they are. -/
theorem occurrences_filter {test : String → Bool} :
    (u.filter test).occurrences t = if test t = true then u.occurrences t else [] := by
  rw [occurrences, filter, TextMap.get?_filterKeys]
  split <;> rfl

/-- Occurrences that are added make their text a used one. -/
theorem contains_append {text : String} {occurrences : List Occurrence} {ht : text ≠ ""}
    {ho : occurrences ≠ []} :
    (u.append text occurrences ht ho).contains t = true ↔ t = text ∨ u.contains t = true := by
  rw [contains, TextMap.contains, append, TextMap.get?_alter]
  by_cases h : t = text
  · simp [h]
  · simp [h, contains, TextMap.contains]

/-- A record makes its text a used one, unless the text is empty. -/
theorem contains_record {text : String} {occurrence : Occurrence} :
    (u.record text occurrence).contains t = true
      ↔ t ≠ "" ∧ t = text ∨ u.contains t = true := by
  rw [record]
  split
  · rename_i h
    grind
  · rw [contains_append]
    grind

theorem contains_foldl_record (records : List (String × Occurrence)) :
    (records.foldl (fun u r => u.record r.1 r.2) u).contains t = true
      ↔ t ≠ "" ∧ (∃ r ∈ records, r.1 = t) ∨ u.contains t = true := by
  induction records generalizing u with
  | nil => simp
  | cons r records ih =>
    rw [List.foldl_cons, ih, contains_record]
    grind

/-- A usage of records has their texts, the empty one apart. -/
theorem contains_ofList {records : List (String × Occurrence)} :
    (ofList records).contains t = true ↔ t ≠ "" ∧ ∃ r ∈ records, r.1 = t := by
  rw [ofList, contains_foldl_record]
  simp [contains, TextMap.contains, empty]

/-- A merged usage has the texts of both. -/
theorem contains_merge :
    (u.merge v).contains t = true ↔ u.contains t = true ∨ v.contains t = true := by
  rw [contains_iff_exists (u := v), merge, toList]
  -- The entries of `v` come with the proof that they are proper, so the induction runs over any
  -- list of such entries.
  suffices h : ∀ l : List { e // e ∈ v.occurrencesOf.entries },
      (l.foldl (fun u e => u.append e.1.1 e.1.2 (v.proper _ e.2).1 (v.proper _ e.2).2) u).contains t
          = true
        ↔ u.contains t = true ∨ ∃ e ∈ l, e.1.1 = t by
    rw [h]
    simp
  intro l
  induction l generalizing u with
  | nil => simp
  | cons e l ih =>
    rw [List.foldl_cons, ih, contains_append]
    grind

/-! ### Occurrences of a text -/

/-- A record adds its occurrence behind those of its text. -/
theorem occurrences_record {text : String} (ht : text ≠ "") (occurrence : Occurrence) :
    (u.record text occurrence).occurrences t
      = u.occurrences t ++ if t = text then [occurrence] else [] := by
  rw [record, dif_neg ht, occurrences, append, TextMap.get?_alter, occurrences]
  by_cases h : t = text
  · rw [if_pos h, if_pos h, h]
    rfl
  · rw [if_neg h, if_neg h, List.append_nil]

/-- Records add their occurrences in their order, each to its own text. -/
theorem occurrences_foldl_record {records : List (String × Occurrence)}
    (h : ∀ r ∈ records, r.1 ≠ "") :
    (records.foldl (fun u r => u.record r.1 r.2) u).occurrences t
      = u.occurrences t ++ (records.filter (·.1 = t)).map (·.2) := by
  induction records generalizing u with
  | nil => simp
  | cons r records ih =>
    rw [List.foldl_cons, ih fun x hx => h x (List.mem_cons_of_mem r hx),
      occurrences_record (h r List.mem_cons_self), List.append_assoc]
    by_cases hr : r.1 = t
    · simp [hr]
    · simp [hr, Ne.symm hr]

/-- The occurrences of a text are those of its records, in their order. -/
theorem occurrences_ofList {records : List (String × Occurrence)} (h : ∀ r ∈ records, r.1 ≠ "") :
    (ofList records).occurrences t = (records.filter (·.1 = t)).map (·.2) := by
  rw [ofList, occurrences_foldl_record h]
  rfl

end Usage

namespace Extraction

variable {markers : Markers} {text : List Char} {f : StringFind}

/-! ### What is found is not empty -/

theorem ne_nil_of_isString {payload : List Char} (h : isString payload = true) : payload ≠ [] := by
  rintro rfl
  cases h

/-- No element of a page is found with an empty text. -/
theorem ne_nil_of_mem_markupFinds (h : f ∈ markupFinds markers text) : f.text ≠ [] := by
  obtain ⟨e, he, rfl⟩ := List.mem_map.1 h
  exact ne_nil_of_isString (List.mem_filter.1 he).2

/-- No call is found with an empty argument. -/
theorem ne_nil_of_mem_callFinds (h : f ∈ callFinds markers text) : f.text ≠ [] := by
  obtain ⟨g, hg, rfl⟩ := List.mem_map.1 h
  obtain ⟨receiver, -, a, ha, -⟩ := Call.exists_of_mem_calls hg
  exact ha ▸ a.literal_ne_nil

/-- Markup inside a script gives no empty text either, be it an echo or the payload itself. -/
theorem ne_nil_of_mem_embeddedFinds (h : f ∈ embeddedFinds markers text) : f.text ≠ [] := by
  obtain ⟨e, he, hf⟩ := List.mem_flatMap.1 h
  rcases mem_elementFinds markers e hf with ⟨g, hg, rfl⟩ | rfl
  · obtain ⟨a, ha, -⟩ := Call.exists_of_mem_interpolations hg
    exact ha ▸ a.literal_ne_nil
  · exact ne_nil_of_isString (List.mem_filter.1 he).2

/-- A record has the text of a find and its place in the source. -/
theorem exists_find_of_mem_records {path : String} {s : Stripped} {finds : List StringFind}
    {r : String × Occurrence} (h : r ∈ records path s finds) :
    ∃ f ∈ finds, r.1 = String.ofList f.text ∧ r.2.file = path
      ∧ s.place? (.ofText s.source) f.offset = some r.2.place := by
  obtain ⟨f, hf, hr⟩ := List.mem_filterMap.1 h
  obtain ⟨place, hplace, rfl⟩ := Option.map_eq_some_iff.1 hr
  exact ⟨f, hf, rfl, rfl, hplace⟩

/-- The records of finds that are not empty have texts that are not. -/
theorem ne_empty_of_mem_records {path : String} {s : Stripped} {finds : List StringFind}
    (hfinds : ∀ f ∈ finds, f.text ≠ []) {r : String × Occurrence}
    (h : r ∈ records path s finds) : r.1 ≠ "" := by
  obtain ⟨f, hf, hr, -, -⟩ := exists_find_of_mem_records h
  rw [hr]
  exact fun he => hfinds f hf (String.ofList_eq_empty_iff.1 he)

/-! ### What is used -/

/-- The files of a strategy are merged into what is used already. -/
theorem contains_foldl_merge (files : List SourceFile)
    {strategy : SourceFile → List (String × Occurrence)} {u : Usage} {t : String} :
    (files.foldl (fun u file => u.merge (Usage.ofList (strategy file))) u).contains t = true
      ↔ (t ≠ "" ∧ ∃ file ∈ files, ∃ r ∈ strategy file, r.1 = t) ∨ u.contains t = true := by
  induction files generalizing u with
  | nil => simp
  | cons file files ih =>
    rw [List.foldl_cons, ih, Usage.contains_merge, Usage.contains_ofList]
    grind

/-- A strategy collects the texts that it records in some file, the empty one apart. -/
theorem contains_collect {files : List SourceFile}
    {strategy : SourceFile → List (String × Occurrence)} {t : String} :
    (collect files strategy).contains t = true
      ↔ t ≠ "" ∧ ∃ file ∈ files, ∃ r ∈ strategy file, r.1 = t := by
  rw [collect, contains_foldl_merge]
  simp [Usage.contains, TextMap.contains, Usage.empty]

/-- A text that some strategy records in one of the files. -/
inductive Recorded (markers : Markers) (markup script : List SourceFile) (t : String) : Prop
  | element {file : SourceFile} {o : Occurrence} :
    file ∈ markup → (t, o) ∈ markupRecords markers file → Recorded markers markup script t
  | call {file : SourceFile} {o : Occurrence} :
    file ∈ script → (t, o) ∈ callRecords markers file → Recorded markers markup script t
  | embedded {file : SourceFile} {o : Occurrence} :
    file ∈ script → (t, o) ∈ embeddedRecords markers file → Recorded markers markup script t

/-- The sources use what the strategies record, all of it and nothing else. -/
theorem contains_used_iff {markup script : List SourceFile} {t : String} :
    (ofSources markers markup script).used.contains t = true
      ↔ Recorded markers markup script t := by
  have hused : (ofSources markers markup script).used
      = ((collect markup (markupRecords markers)).merge (collect script (callRecords markers))).merge
        (collect script (embeddedRecords markers)) := rfl
  rw [hused, Usage.contains_merge, Usage.contains_merge, contains_collect, contains_collect,
    contains_collect]
  constructor
  · rintro ((⟨-, file, hfile, ⟨_, o⟩, hr, rfl⟩ | ⟨-, file, hfile, ⟨_, o⟩, hr, rfl⟩)
      | ⟨-, file, hfile, ⟨_, o⟩, hr, rfl⟩)
    · exact .element hfile hr
    · exact .call hfile hr
    · exact .embedded hfile hr
  · rintro (⟨hfile, hr⟩ | ⟨hfile, hr⟩ | ⟨hfile, hr⟩)
    · exact .inl (.inl ⟨ne_empty_of_mem_records (fun _ => ne_nil_of_mem_markupFinds) hr,
        _, hfile, _, hr, rfl⟩)
    · exact .inl (.inr ⟨ne_empty_of_mem_records (fun _ => ne_nil_of_mem_callFinds) hr,
        _, hfile, _, hr, rfl⟩)
    · exact .inr ⟨ne_empty_of_mem_records (fun _ => ne_nil_of_mem_embeddedFinds) hr,
        _, hfile, _, hr, rfl⟩

end Extraction

end CatalogAudit
