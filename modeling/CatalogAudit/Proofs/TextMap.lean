import CatalogAudit.TextMap
import Mathlib.Data.Finset.Card
import Mathlib.Data.List.Induction
import Mathlib.Data.List.Nodup

/-!
# Maps from texts, by their keys and values

The entries of a map are what its look-up gives, so a map is told by its keys
and by the values at them.

* `TextMap.mem_entries_iff`: the entries.
* `TextMap.keys_eq_of_contains_iff`, `TextMap.size_eq_card`: the keys, and how
  many there are.
-/

namespace CatalogAudit.TextMap

variable {β : Type} {m n : TextMap β} {k : String} {v : β}

theorem lookup_eq_some_iff {l : List (String × β)} (h : l.Pairwise fun a b => a.1 < b.1) :
    l.lookup k = some v ↔ (k, v) ∈ l := by
  induction l with
  | nil => simp
  | cons e l ih =>
    obtain ⟨x, w⟩ := e
    obtain ⟨hlt, hl⟩ := List.pairwise_cons.1 h
    rw [lookup_cons_ite, List.mem_cons, ← ih hl]
    by_cases hx : k = x
    · subst hx
      rw [if_pos rfl, lookup_eq_none_of_lt hlt]
      simp [eq_comm]
    · simp [hx]

theorem mem_entries_iff : (k, v) ∈ m.entries ↔ m.get? k = some v :=
  (lookup_eq_some_iff m.ascending).symm

theorem contains_filterKeys {test : String → Bool} :
    (m.filterKeys test).contains k = true ↔ m.contains k = true ∧ test k = true := by
  rw [contains, get?_filterKeys]
  split <;> simp_all [contains]

theorem isEmpty_eq_true_iff : m.isEmpty = true ↔ m.values = [] := by
  rw [isEmpty, List.isEmpty_iff, values, List.map_eq_nil_iff]

theorem nodup_keys (m : TextMap β) : m.keys.Nodup := by
  refine m.keys_ascending.imp ?_
  rintro a b hlt rfl
  exact String.lt_irrefl a hlt

/-- Maps with the same keys list them in the same order. -/
theorem keys_eq_of_contains_iff (h : ∀ k, m.contains k = true ↔ n.contains k = true) :
    m.keys = n.keys := by
  refine List.Perm.eq_of_pairwise (fun a b _ _ hab hba => absurd hba (String.lt_asymm hab))
    m.keys_ascending n.keys_ascending ?_
  refine (List.perm_ext_iff_of_nodup m.nodup_keys n.nodup_keys).2 fun k => ?_
  rw [mem_keys_iff, mem_keys_iff, h]

/-- Maps with the same values at the same keys are the same. -/
theorem ext_get? (h : ∀ k, m.get? k = n.get? k) : m = n := by
  have hnodup (m : TextMap β) : m.entries.Nodup := m.nodup_keys.of_map
  have hentries : m.entries = n.entries := by
    refine List.Perm.eq_of_pairwise
      (fun a b _ _ hab hba => absurd hba (String.lt_asymm hab)) m.ascending n.ascending ?_
    refine (List.perm_ext_iff_of_nodup (hnodup m) (hnodup n)).2 fun e => ?_
    rw [mem_entries_iff, mem_entries_iff, h]
  cases m
  cases n
  cases hentries
  rfl

/-- The size of a map is the number of its keys. -/
theorem size_eq_card {s : Finset String} (h : ∀ k, m.contains k = true ↔ k ∈ s) :
    m.size = s.card := by
  have hkeys : m.keys.toFinset = s := by
    ext k
    rw [List.mem_toFinset, mem_keys_iff, h]
  have hlength : m.keys.length = m.size := List.length_map _
  rw [← hkeys, List.toFinset_card_of_nodup m.nodup_keys, hlength]

/-- At most one entry has a given key. -/
theorem flatMap_filter_eq {γ : Type} (m : TextMap (List γ)) (k : String) :
    (m.entries.filter (·.1 = k)).flatMap (·.2) = (m.get? k).getD [] := by
  obtain ⟨l, h⟩ := m
  rw [get?]
  induction l with
  | nil => rfl
  | cons e l ih =>
    obtain ⟨x, w⟩ := e
    obtain ⟨hlt, hl⟩ := List.pairwise_cons.1 h
    rw [lookup_cons_ite, List.filter_cons]
    by_cases hx : k = x
    · subst hx
      have hnone : l.filter (·.1 = k) = [] := by
        refine List.filter_eq_nil_iff.2 fun e he => ?_
        have hne : e.1 ≠ k := fun heq => String.lt_irrefl _ (heq ▸ hlt e he)
        simpa using hne
      simp [hnone]
    · simpa [hx, Ne.symm hx] using ih hl

/-- Of the pairs with one key the last one counts. -/
theorem get?_ofPairs_eq_some_iff {pairs : List (String × β)} :
    (ofPairs pairs).get? k = some v
      ↔ ∃ before behind, pairs = before ++ (k, v) :: behind ∧ k ∉ behind.map (·.1) := by
  induction pairs using List.reverseRecOn with
  | nil => simp [ofPairs]
  | append_singleton pairs e ih =>
    have hinsert : ofPairs (pairs ++ [e]) = (ofPairs pairs).insert e.1 e.2 := by
      rw [ofPairs, List.foldl_append]
      rfl
    rw [hinsert, get?_insert]
    constructor
    · intro h
      split at h
      · rename_i hk
        exact ⟨pairs, [], by rw [hk, ← Option.some.inj h], by simp⟩
      · rename_i hk
        obtain ⟨before, behind, rfl, hbehind⟩ := ih.1 h
        exact ⟨before, behind ++ [e], by simp, by simpa [hk] using hbehind⟩
    · rintro ⟨before, behind, hpairs, hbehind⟩
      rcases List.eq_nil_or_concat behind with rfl | ⟨behind, last, rfl⟩
      · obtain ⟨-, hlast⟩ := List.append_inj' hpairs rfl
        obtain rfl := List.singleton_inj.1 hlast
        rw [if_pos rfl]
      · rw [List.concat_eq_append, ← List.cons_append, ← List.append_assoc] at hpairs
        obtain ⟨rfl, hlast⟩ := List.append_inj' hpairs rfl
        obtain rfl := List.singleton_inj.1 hlast
        rw [List.concat_eq_append, List.map_append, List.mem_append, not_or] at hbehind
        rw [if_neg (by simpa using hbehind.2)]
        exact ih.2 ⟨before, behind, rfl, hbehind.1⟩

end CatalogAudit.TextMap
