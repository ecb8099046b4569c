import CatalogAudit.Proofs.Source.Contributions
import CatalogAudit.Proofs.Text.ByteOrder

/-!
# Usages keep what is recorded

A usage may come about in many ways: occurrences are recorded, usages are merged, and
partitions take them apart. Whatever the history is, the usage holds what has been recorded on
the way and has not gone into another half, text by text and in the order of the records, so
it is the usage of a plain list.

* `History` are the ways in which usages come about, with the records that are left.
* `Usage.ext_occurrences`: a usage is told by the occurrences of its texts.
* `History.usage_eq_ofList`: any history comes to recording a list.
* `Usage.multimap_laws`: what holds of every usage, of merges and of partitions.
-/

namespace CatalogAudit

namespace Usage

variable {u v w : Usage} {t : String} {test : String → Bool}
  {records : List (String × Occurrence)}

/-! ### Usages by their occurrences -/

theorem occurrences_empty_text (u : Usage) : u.occurrences "" = [] := by
  rw [occurrences]
  cases hget : u.occurrencesOf.get? "" with
  | none => rfl
  | some o => exact absurd rfl (u.proper _ (TextMap.mem_entries_iff.2 hget)).1

/-- What is stored at a text are its occurrences, if it has any. -/
theorem get?_eq_some_iff {o : List Occurrence} :
    u.occurrencesOf.get? t = some o ↔ o ≠ [] ∧ u.occurrences t = o := by
  rw [occurrences]
  cases hget : u.occurrencesOf.get? t with
  | none => simp [eq_comm]
  | some p =>
    have hp : p ≠ [] := (u.proper _ (TextMap.mem_entries_iff.2 hget)).2
    rw [Option.some.injEq, Option.getD_some]
    exact ⟨fun h => ⟨h ▸ hp, h⟩, And.right⟩

/-- Usages with the same occurrences of each text are the same. -/
theorem ext_occurrences (h : ∀ t, u.occurrences t = v.occurrences t) : u = v := by
  have hmaps : u.occurrencesOf = v.occurrencesOf := by
    refine TextMap.ext_get? fun t => Option.ext fun o => ?_
    rw [get?_eq_some_iff, get?_eq_some_iff, h]
  cases u
  cases v
  cases hmaps
  rfl

/-! ### Records -/

theorem record_empty_text (u : Usage) (o : Occurrence) : u.record "" o = u := rfl

/-- Records of the empty text leave no trace. -/
theorem ofList_filter_ne_empty :
    ofList (records.filter (·.1 ≠ "")) = ofList records := by
  have hfold (u : Usage) : (records.filter (·.1 ≠ "")).foldl (fun u r => u.record r.1 r.2) u
      = records.foldl (fun u r => u.record r.1 r.2) u := by
    induction records generalizing u with
    | nil => rfl
    | cons r records ih =>
      rw [List.filter_cons, List.foldl_cons]
      by_cases hr : r.1 = ""
      · rw [hr, record_empty_text, ← ih]
        simp
      · rw [if_pos (by simpa using hr), List.foldl_cons, ih]
  exact hfold .empty

/-- The occurrences of a text are those of its records, whatever else is recorded. -/
theorem occurrences_ofList_of_ne (ht : t ≠ "") :
    (ofList records).occurrences t = (records.filter (·.1 = t)).map (·.2) := by
  have hproper : ∀ r ∈ records.filter (·.1 ≠ ""), r.1 ≠ "" := fun r hr => by
    simpa using (List.mem_filter.1 hr).2
  rw [← ofList_filter_ne_empty, occurrences_ofList hproper, List.filter_filter]
  congr 2
  funext r
  by_cases hr : r.1 = t <;> simp [hr, ht]

/-- Usages of records are compared at the texts that can be recorded. -/
theorem eq_ofList_iff :
    u = ofList records
      ↔ ∀ t, t ≠ "" → u.occurrences t = (records.filter (·.1 = t)).map (·.2) := by
  constructor
  · rintro rfl t ht
    exact occurrences_ofList_of_ne ht
  · intro h
    refine ext_occurrences fun t => ?_
    by_cases ht : t = ""
    · rw [ht, occurrences_empty_text, occurrences_empty_text]
    · rw [h t ht, occurrences_ofList_of_ne ht]

theorem ofList_append (xs ys : List (String × Occurrence)) :
    ofList (xs ++ ys) = (ofList xs).merge (ofList ys) := by
  refine (eq_ofList_iff.2 fun t ht => ?_).symm
  rw [occurrences_merge, occurrences_ofList_of_ne ht, occurrences_ofList_of_ne ht,
    List.filter_append, List.map_append]

/-- Records may be made piece by piece, each piece on its own. -/
theorem ofList_flatten (pieces : List (List (String × Occurrence))) :
    ofList pieces.flatten = (pieces.map ofList).foldl merge empty := by
  induction pieces using List.reverseRecOn with
  | nil => rfl
  | append_singleton pieces records ih =>
    simp only [List.flatten_append, List.flatten_singleton, List.map_append, List.map_singleton,
      List.foldl_append, List.foldl_cons, List.foldl_nil, ofList_append, ih]

theorem filter_ofList (records : List (String × Occurrence)) (test : String → Bool) :
    (ofList records).filter test = ofList (records.filter fun r => test r.1) := by
  refine eq_ofList_iff.2 fun t ht => ?_
  rw [occurrences_filter, occurrences_ofList_of_ne ht, List.filter_filter]
  by_cases htest : test t = true
  · rw [if_pos htest]
    congr 2
    funext r
    by_cases hr : r.1 = t <;> simp [hr, htest]
  · rw [if_neg htest, List.filter_eq_nil_iff.2, List.map_nil]
    intro r _
    by_cases hr : r.1 = t <;> simp [hr, htest]

/-! ### Merges and partitions -/

theorem merge_assoc (u v w : Usage) : (u.merge v).merge w = u.merge (v.merge w) := by
  refine ext_occurrences fun t => ?_
  simp only [occurrences_merge, List.append_assoc]

theorem merge_empty (u : Usage) : u.merge empty = u :=
  ext_occurrences fun _ => occurrences_merge.trans (List.append_nil _)

theorem empty_merge (u : Usage) : empty.merge u = u :=
  ext_occurrences fun _ => occurrences_merge.trans (List.nil_append _)

/-- Two parts of a usage make up the whole when each text is in exactly one of them. -/
theorem merge_filter {test' : String → Bool} (h : ∀ t, test' t = !test t) :
    (u.filter test).merge (u.filter test') = u := by
  refine ext_occurrences fun t => ?_
  rw [occurrences_merge, occurrences_filter, occurrences_filter, h]
  cases test t <;> simp

/-- The two usages are the halves of `u` by a test: no text is in both, each half has the texts
    for which it is meant, and together they are `u` again, whichever comes first. -/
structure Splits (u : Usage) (test : String → Bool) (matching rest : Usage) : Prop where
  disjoint : ∀ t ∈ matching.texts, t ∉ rest.texts
  satisfies : ∀ t ∈ matching.texts, test t = true
  fails : ∀ t ∈ rest.texts, test t = false
  matching_merge_rest : matching.merge rest = u
  rest_merge_matching : rest.merge matching = u

theorem splits_partition (u : Usage) (test : String → Bool) :
    u.Splits test (u.partition test).1 (u.partition test).2 := by
  have hmatching {t : String} (h : t ∈ (u.partition test).1.texts) : test t = true :=
    (contains_filter.1 (mem_texts_iff.1 h)).2
  have hrest {t : String} (h : t ∈ (u.partition test).2.texts) : test t = false := by
    simpa using (contains_filter.1 (mem_texts_iff.1 h)).2
  exact
    { disjoint := fun t ht ht' => Bool.false_ne_true ((hrest ht').symm.trans (hmatching ht))
      satisfies := fun _ => hmatching
      fails := fun _ => hrest
      matching_merge_rest := merge_filter fun _ => rfl
      rest_merge_matching := merge_filter fun t => (Bool.not_not (test t)).symm }

end Usage

/-! ### Histories -/

/-- How a usage comes about, from nothing and from usages that came about before. -/
inductive History
  | empty
  | record (h : History) (text : String) (occurrence : Occurrence)
  | merge (h k : History)
  /-- The half of a partition with the texts that satisfy the test. -/
  | matching (h : History) (test : String → Bool)
  /-- The other half. -/
  | rest (h : History) (test : String → Bool)

namespace History

/-- The usage that comes about. -/
def usage : History → Usage
  | empty => .empty
  | record h text occurrence => h.usage.record text occurrence
  | merge h k => h.usage.merge k.usage
  | matching h test => (h.usage.partition test).1
  | rest h test => (h.usage.partition test).2

/-- What has been recorded and not been left behind in another half, in order. -/
def records : History → List (String × Occurrence)
  | empty => []
  | record h text occurrence => h.records ++ [(text, occurrence)]
  | merge h k => h.records ++ k.records
  | matching h test => h.records.filter fun r => test r.1
  | rest h test => h.records.filter fun r => !test r.1

/-- Any history comes to recording the records that are left. -/
theorem usage_eq_ofList (h : History) : h.usage = Usage.ofList h.records := by
  induction h with
  | empty => rfl
  | record h text occurrence ih =>
    rw [usage, records, ih, Usage.ofList, Usage.ofList, List.foldl_append]
    rfl
  | merge h k ihh ihk => rw [usage, records, ihh, ihk, Usage.ofList_append]
  | matching h test ih =>
    rw [usage, records, Usage.partition, ih]
    exact Usage.filter_ofList h.records test
  | rest h test ih =>
    rw [usage, records, Usage.partition, ih]
    exact Usage.filter_ofList h.records fun t => !test t

end History

namespace Usage

/-- The usage holds the records and nothing else: its texts are not empty and have occurrences,
    they come in the order of their bytes, and each has the occurrences that are recorded of
    it. -/
structure Keeps (u : Usage) (records : List (String × Occurrence)) : Prop where
  proper : ∀ e ∈ u.toList, e.1 ≠ "" ∧ e.2 ≠ []
  ascending : (u.texts.map Utf8.encode).Pairwise (· < ·)
  occurrences : ∀ t, t ≠ "" → u.occurrences t = (records.filter (·.1 = t)).map (·.2)

theorem keeps_ofList (records : List (String × Occurrence)) :
    (ofList records).Keeps records where
  proper := (ofList records).proper
  ascending := List.pairwise_map.2
    ((ofList records).occurrencesOf.keys_ascending.imp Utf8.encode_lt_encode_iff.2)
  occurrences _ := occurrences_ofList_of_ne

/-- Usages are multimaps that lose nothing. Whatever their history is, they keep what has been
    recorded. Merges append the occurrences of each text, so they are associative with the
    empty usage as their identity, and records may be made in one go or in two that are merged.
    Partitions take a usage apart without loss. -/
theorem multimap_laws :
    (∀ h : History, h.usage.Keeps h.records)
      ∧ (∀ u v t, (merge u v).occurrences t = u.occurrences t ++ v.occurrences t)
      ∧ (∀ u v w, (merge u v).merge w = u.merge (v.merge w))
      ∧ (∀ u, merge u empty = u ∧ merge empty u = u)
      ∧ (∀ xs ys, ofList (xs ++ ys) = (ofList xs).merge (ofList ys))
      ∧ ∀ u test, Splits u test (u.partition test).1 (u.partition test).2 := by
  refine ⟨fun h => ?_, fun u v t => occurrences_merge, merge_assoc,
    fun u => ⟨merge_empty u, empty_merge u⟩, ofList_append, splits_partition⟩
  rw [h.usage_eq_ofList]
  exact keeps_ofList h.records

end Usage

end CatalogAudit
