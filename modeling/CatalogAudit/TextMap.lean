/-!
# Maps from texts

Used strings, catalogs and sets of catalogs are all maps whose keys are texts
and which are shown in the order of their keys. A `TextMap` is the list of its
entries with strictly ascending keys, so there is one representation of each
map and two maps are equal when they have the same entries. Texts are ordered
character by character, which is also the order of the bytes of their UTF-8
forms.

* `TextMap.alter` changes what is stored at one key and keeps the order
  (`get?_alter`).
* `TextMap.ofPairs` builds a map from pairs, of which a later one replaces an
  earlier one with the same key.
* `TextMap.keys` are the keys, ascending (`keys_ascending`), and `contains` is
  membership among them (`mem_keys_iff`).
-/

namespace CatalogAudit

/-- A map from texts, as its entries in ascending order of their keys. -/
structure TextMap (β : Type) where
  entries : List (String × β)
  ascending : entries.Pairwise fun a b => a.1 < b.1
  deriving DecidableEq, Repr

namespace TextMap

variable {β γ : Type}

/-- What a list of entries becomes when the value at `key` changes by `f`. -/
def alterEntries (key : String) (f : Option β → β) : List (String × β) → List (String × β)
  | [] => [(key, f none)]
  | (k, v) :: rest =>
    if key < k then (key, f none) :: (k, v) :: rest
    else if key = k then (k, f (some v)) :: rest
    else (k, v) :: alterEntries key f rest

theorem mem_of_mem_alterEntries {key : String} {f : Option β → β} {l : List (String × β)}
    {e : String × β} (h : e ∈ alterEntries key f l) :
    e ∈ l ∨ e.1 = key ∧ ∃ old, e.2 = f old := by
  induction l with
  | nil => exact .inr ⟨by simp_all [alterEntries], none, by simp_all [alterEntries]⟩
  | cons hd tl ih =>
    obtain ⟨k, v⟩ := hd
    rw [alterEntries] at h
    split at h
    · grind
    · split at h <;> grind

theorem alterEntries_ascending (key : String) (f : Option β → β) {l : List (String × β)}
    (h : l.Pairwise fun a b => a.1 < b.1) :
    (alterEntries key f l).Pairwise fun a b => a.1 < b.1 := by
  induction l with
  | nil => simp [alterEntries]
  | cons hd tl ih =>
    obtain ⟨k, v⟩ := hd
    rw [List.pairwise_cons] at h
    rw [alterEntries]
    split
    · rename_i hlt
      refine List.pairwise_cons.2 ⟨fun e he => ?_, List.pairwise_cons.2 h⟩
      rcases List.mem_cons.1 he with rfl | he
      · exact hlt
      · exact String.lt_trans hlt (h.1 e he)
    · rename_i hnot
      split
      · exact List.pairwise_cons.2 h
      · rename_i hne
        refine List.pairwise_cons.2 ⟨fun e he => ?_, ih h.2⟩
        rcases mem_of_mem_alterEntries he with he | ⟨heq, _⟩
        · exact h.1 e he
        · have := String.not_lt.1 hnot
          grind

theorem lookup_cons_ite (k x : String) (v : β) (l : List (String × β)) :
    ((x, v) :: l).lookup k = if k = x then some v else l.lookup k := by
  rw [List.lookup_cons]
  by_cases h : k = x
  · simp [h]
  · simp [h, beq_eq_false_iff_ne.2 h]

/-- A key below all others has no value. -/
theorem lookup_eq_none_of_lt {key : String} {l : List (String × β)}
    (h : ∀ e ∈ l, key < e.1) : l.lookup key = none := by
  refine List.lookup_eq_none_iff.2 fun e he => ?_
  have hlt := h e he
  have hne : key ≠ e.1 := fun heq => String.lt_irrefl _ (heq ▸ hlt)
  simpa using hne

theorem lookup_alterEntries {key : String} (f : Option β → β) {l : List (String × β)}
    (h : l.Pairwise fun a b => a.1 < b.1) (k : String) :
    (alterEntries key f l).lookup k = if k = key then some (f (l.lookup key)) else l.lookup k := by
  induction l with
  | nil => simp [alterEntries, lookup_cons_ite]
  | cons hd tl ih =>
    obtain ⟨x, v⟩ := hd
    rw [List.pairwise_cons] at h
    rw [alterEntries]
    split
    · rename_i hlt
      have hnone : ((x, v) :: tl).lookup key = none := by
        refine lookup_eq_none_of_lt fun e he => ?_
        rcases List.mem_cons.1 he with rfl | he
        · exact hlt
        · exact String.lt_trans hlt (h.1 e he)
      rw [hnone, lookup_cons_ite]
    · split
      · rename_i hx
        subst hx
        simp only [lookup_cons_ite, if_true]
        split <;> rfl
      · rename_i hx
        simp only [lookup_cons_ite, ih h.2]
        grind

/-- The map without entries. -/
def empty : TextMap β where
  entries := []
  ascending := .nil

/-- Changes what is stored at one key: `f` gets the value found there. -/
def alter (m : TextMap β) (key : String) (f : Option β → β) : TextMap β where
  entries := alterEntries key f m.entries
  ascending := alterEntries_ascending key f m.ascending

/-- Stores a value, in place of the one found at its key. -/
def insert (m : TextMap β) (key : String) (value : β) : TextMap β :=
  m.alter key fun _ => value

/-- The value stored at a key. -/
def get? (m : TextMap β) (key : String) : Option β :=
  m.entries.lookup key

def contains (m : TextMap β) (key : String) : Bool :=
  (m.get? key).isSome

/-- The keys, ascending. -/
def keys (m : TextMap β) : List String :=
  m.entries.map (·.1)

/-- The values in the order of their keys. -/
def values (m : TextMap β) : List β :=
  m.entries.map (·.2)

def size (m : TextMap β) : Nat :=
  m.entries.length

def isEmpty (m : TextMap β) : Bool :=
  m.entries.isEmpty

/-- The entries whose key satisfies a test. -/
def filterKeys (m : TextMap β) (test : String → Bool) : TextMap β where
  entries := m.entries.filter fun e => test e.1
  ascending := m.ascending.filter _

/-- The map of pairs, of which a later one replaces an earlier one. -/
def ofPairs (pairs : List (String × β)) : TextMap β :=
  pairs.foldl (fun m e => m.insert e.1 e.2) empty

/-! ### What the operations do to the values and the keys -/

@[simp]
theorem get?_empty (k : String) : (empty : TextMap β).get? k = none := rfl

/-- Altering changes what is stored at the key and nothing else. -/
theorem get?_alter (m : TextMap β) (key : String) (f : Option β → β) (k : String) :
    (m.alter key f).get? k = if k = key then some (f (m.get? key)) else m.get? k :=
  lookup_alterEntries f m.ascending k

theorem get?_insert (m : TextMap β) (key : String) (value : β) (k : String) :
    (m.insert key value).get? k = if k = key then some value else m.get? k :=
  get?_alter m key _ k

theorem get?_filterKeys (m : TextMap β) (test : String → Bool) (k : String) :
    (m.filterKeys test).get? k = if test k then m.get? k else none := by
  obtain ⟨l, _⟩ := m
  simp only [filterKeys, get?]
  induction l with
  | nil => simp
  | cons hd tl ih =>
    obtain ⟨x, v⟩ := hd
    grind [lookup_cons_ite]

theorem keys_ascending (m : TextMap β) : m.keys.Pairwise (· < ·) :=
  List.pairwise_map.2 m.ascending

theorem mem_keys_iff {m : TextMap β} {k : String} : k ∈ m.keys ↔ m.contains k = true := by
  obtain ⟨l, _⟩ := m
  simp only [keys, contains, get?]
  induction l with
  | nil => simp
  | cons hd tl ih =>
    obtain ⟨x, v⟩ := hd
    grind [lookup_cons_ite]

theorem contains_foldl_insert (pairs : List (String × β)) (m : TextMap β) (k : String) :
    (pairs.foldl (fun m e => m.insert e.1 e.2) m).contains k = true
      ↔ k ∈ pairs.map (·.1) ∨ m.contains k = true := by
  induction pairs generalizing m with
  | nil => simp
  | cons e pairs ih =>
    rw [List.foldl_cons, ih]
    grind [contains, get?_insert]

/-- The keys of a map of pairs are their first components. -/
theorem contains_ofPairs (pairs : List (String × β)) (k : String) :
    (ofPairs pairs).contains k = true ↔ k ∈ pairs.map (·.1) := by
  rw [ofPairs, contains_foldl_insert]
  simp [contains]

end TextMap

/-- A set of texts. -/
abbrev TextSet := TextMap Unit

namespace TextSet

/-- The set of the texts in a list. -/
def ofList (texts : List String) : TextSet :=
  TextMap.ofPairs (texts.map fun t => (t, ()))

/-- The texts, ascending. -/
def toList (s : TextSet) : List String :=
  s.keys

theorem contains_ofList (texts : List String) (t : String) :
    TextMap.contains (ofList texts) t = true ↔ t ∈ texts := by
  simp [ofList, TextMap.contains_ofPairs]

theorem mem_toList_ofList (texts : List String) (t : String) :
    t ∈ toList (ofList texts) ↔ t ∈ texts := by
  rw [toList, TextMap.mem_keys_iff, contains_ofList]

end TextSet

end CatalogAudit
