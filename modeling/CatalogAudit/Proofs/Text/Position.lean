import CatalogAudit.Text.Cursor

/-!
# Positions of one text

A cursor is reached from another one over a word when the word lies between
them. All operations on cursors stay within one text: what they lead to is
reached from where they start.

* `Reaches`: the word between two cursors. It determines their difference in
  bytes (`Reaches.offset_eq`) and is what `upTo` gives (`Reaches.upTo_eq`).
* `skip?_eq_some_iff`, `seek_eq_some`, `find?_eq_some`: where the searches for
  a word lead.
* `scan_eq`: one step of a scan whose recogniser makes progress. The number of
  attempts that bounds a scan never shows.
-/

namespace CatalogAudit

theorem byteLength_reverse (text : List Char) : byteLength text.reverse = byteLength text := by
  induction text with
  | nil => rfl
  | cons x text ih => simp [ih, Nat.add_comm]

theorem utf8Size_pos (x : Char) : 0 < x.utf8Size :=
  Char.utf8Size_pos x

namespace Cursor

/-- The characters on both sides determine a cursor. -/
theorem ext_sides {c d : Cursor} (hb : c.before = d.before) (ha : c.after = d.after) : c = d := by
  obtain ⟨before, after, offset, ho⟩ := c
  obtain ⟨before', after', offset', ho'⟩ := d
  obtain rfl : before = before' := hb
  obtain rfl : after = after' := ha
  obtain rfl : offset = offset' := ho.trans ho'.symm
  rfl

/-- `d` is the position behind `word`, which begins at `c`. -/
structure Reaches (c : Cursor) (word : List Char) (d : Cursor) : Prop where
  after : c.after = word ++ d.after
  before : d.before = word.reverse ++ c.before

namespace Reaches

variable {c d e : Cursor} {v w : List Char}

theorem refl (c : Cursor) : c.Reaches [] c :=
  ⟨rfl, rfl⟩

theorem trans (h : c.Reaches v d) (h' : d.Reaches w e) : c.Reaches (v ++ w) e where
  after := by rw [h.after, h'.after, List.append_assoc]
  before := by rw [h'.before, h.before, List.reverse_append, List.append_assoc]

theorem offset_eq (h : c.Reaches w d) : d.offset = c.offset + byteLength w := by
  rw [d.offset_eq, c.offset_eq, h.before, byteLength_append, byteLength_reverse, Nat.add_comm]

theorem length_eq (h : c.Reaches w d) : c.after.length = w.length + d.after.length := by
  rw [h.after, List.length_append]

theorem upTo_eq (h : c.Reaches w d) : c.upTo d = w := by
  have hl : c.after.length - d.after.length = w.length := by
    rw [h.length_eq, Nat.add_sub_cancel]
  rw [upTo, hl, h.after, List.take_left]

/-- A word leads to one position only. -/
theorem unique (h : c.Reaches w d) (h' : c.Reaches w e) : d = e :=
  ext_sides (h.before.trans h'.before.symm)
    (List.append_cancel_left (h.after.symm.trans h'.after))

/-- Whatever a text goes on with is a word that leads somewhere. -/
theorem exists_of_after {rest : List Char} (h : c.after = w ++ rest) :
    ∃ d, c.Reaches w d ∧ d.after = rest := by
  refine ⟨⟨w.reverse ++ c.before, rest, byteLength (w.reverse ++ c.before), rfl⟩, ⟨h, rfl⟩, rfl⟩

/-- The text before and behind a position that is reached from the start. -/
theorem eq_append {text : List Char} (h : (start text).Reaches w d) : text = w ++ d.after :=
  h.after

theorem offset_of_start {text : List Char} (h : (start text).Reaches w d) :
    d.offset = byteLength w := by
  rw [h.offset_eq]
  exact Nat.zero_add _

end Reaches

/-! ### Single steps -/

theorem reaches_past (c : Cursor) {x : Char} {rest : List Char} (h : c.after = x :: rest) :
    c.Reaches [x] (c.past x rest) :=
  ⟨h, rfl⟩

theorem next?_of_after {c : Cursor} {x : Char} {rest : List Char} (h : c.after = x :: rest) :
    c.next? = some (x, c.past x rest) := by
  rw [next?, h]

theorem next?_eq_none_iff {c : Cursor} : c.next? = none ↔ c.after = [] := by
  rw [next?]
  split <;> simp_all

theorem next?_eq_some_iff {c d : Cursor} {x : Char} :
    c.next? = some (x, d) ↔ c.Reaches [x] d := by
  constructor
  · intro h
    rw [next?] at h
    split at h
    · cases h
    · rename_i y rest ha
      obtain ⟨rfl, rfl⟩ := Prod.mk.inj (Option.some.inj h)
      exact c.reaches_past ha
  · intro h
    have ha : c.after = x :: d.after := h.after
    rw [next?_of_after ha, (c.reaches_past ha).unique h]

theorem skip?_eq_some_iff {c d : Cursor} {word : List Char} :
    c.skip? word = some d ↔ c.Reaches word d := by
  induction word generalizing c with
  | nil =>
    constructor
    · intro h
      obtain rfl : c = d := Option.some.inj h
      exact .refl c
    · intro h
      exact congrArg some ((Reaches.refl c).unique h)
  | cons x word ih =>
    rw [skip?]
    constructor
    · intro h
      split at h
      · rename_i y e hn
        split at h
        · rename_i hxy
          subst hxy
          exact (next?_eq_some_iff.1 hn).trans (ih.1 h)
        · cases h
      · cases h
    · intro h
      have ha : c.after = x :: (word ++ d.after) := h.after
      rw [next?_of_after ha]
      simp only [if_true]
      refine ih.2 ⟨rfl, ?_⟩
      rw [h.before]
      simp [past]

/-! ### Searches -/

/-- A search looks at one position and goes on at the next one. -/
theorem seek_eq (c : Cursor) (test : Cursor → Bool) :
    c.seek test = if test c then some c else
      match c.next? with
      | some (_, d) => d.seek test
      | none => none := by
  unfold seek
  cases ha : c.after with
  | nil => rw [List.length_nil, seekWithin, next?_eq_none_iff.2 ha]
  | cons x rest => rw [List.length_cons, seekWithin, next?_of_after ha]; rfl

/-- Induction over the positions of a text from back to front. -/
theorem induction_after {motive : Cursor → Prop}
    (step : ∀ c, (∀ d, d.after.length < c.after.length → motive d) → motive c) (c : Cursor) :
    motive c :=
  (measure fun c : Cursor => c.after.length).wf.induction c step

/-- A search stops at a position behind the start, where the test holds. -/
theorem seek_eq_some {c d : Cursor} {test : Cursor → Bool} (h : c.seek test = some d) :
    test d = true ∧ ∃ w, c.Reaches w d := by
  induction c using induction_after with
  | step c ih =>
    rw [seek_eq] at h
    split at h
    · rename_i ht
      obtain rfl : c = d := Option.some.inj h
      exact ⟨ht, [], .refl c⟩
    · split at h
      · rename_i x e hn
        have hx := next?_eq_some_iff.1 hn
        obtain ⟨ht, w, hw⟩ := ih e (by rw [hx.length_eq]; simp) h
        exact ⟨ht, [x] ++ w, hx.trans hw⟩
      · cases h

/-- What is found lies behind the start, and the word stands there. -/
theorem find?_eq_some {c d e : Cursor} {word : List Char} (h : c.find? word = some (d, e)) :
    (∃ w, c.Reaches w d) ∧ d.Reaches word e := by
  rw [find?] at h
  split at h
  · rename_i f hf
    obtain ⟨g, hg, he⟩ := Option.map_eq_some_iff.1 h
    obtain ⟨rfl, rfl⟩ := Prod.mk.inj he
    exact ⟨(seek_eq_some hf).2, skip?_eq_some_iff.1 hg⟩
  · cases h

/-- The characters that satisfy a test end somewhere, at the latest at the end
    of the text. -/
theorem seek_not_any (c : Cursor) (test : Char → Bool) :
    ∃ d, (c.seek fun d => !(d.peek?.any test)) = some d
      ∧ c.Reaches (c.after.takeWhile test) d := by
  induction c using induction_after with
  | step c ih =>
    rw [seek_eq]
    cases ha : c.after with
    | nil => exact ⟨c, by simp [peek?, ha], .refl c⟩
    | cons x rest =>
      have hx := c.reaches_past ha
      -- The search is for the negated test: where `test` holds it goes on.
      by_cases ht : test x = true
      · obtain ⟨d, hd, hw⟩ := ih (c.past x rest) (by rw [hx.length_eq]; simp)
        refine ⟨d, by simpa [peek?, ha, ht, next?_of_after ha] using hd, ?_⟩
        rw [List.takeWhile_cons_of_pos ht]
        exact hx.trans hw
      · refine ⟨c, by simp [peek?, ha, ht], ?_⟩
        rw [List.takeWhile_cons_of_neg ht]
        exact .refl c

theorem reaches_skipWhile (c : Cursor) (test : Char → Bool) :
    c.Reaches (c.after.takeWhile test) (c.skipWhile test) := by
  obtain ⟨d, hd, hw⟩ := c.seek_not_any test
  rwa [skipWhile, hd]

/-! ### Scans -/

section Scan

variable {α : Type} {recognise : Cursor → Option (α × Cursor)}

/-- What a recogniser finds is not empty. -/
def Progresses (recognise : Cursor → Option (α × Cursor)) : Prop :=
  ∀ c a stop, recognise c = some (a, stop) → ∃ w, w ≠ [] ∧ c.Reaches w stop

theorem Progresses.length_lt (hr : Progresses recognise) {c stop : Cursor} {a : α}
    (h : recognise c = some (a, stop)) : stop.after.length < c.after.length := by
  obtain ⟨w, hw, hc⟩ := hr c a stop h
  have := List.length_pos_iff.2 hw
  rw [hc.length_eq]
  omega

/-- More attempts than there are positions change nothing. -/
theorem scanWithin_eq (hr : Progresses recognise) {c : Cursor} {m n : Nat}
    (hm : c.after.length < m) (hn : c.after.length < n) :
    scanWithin recognise m c = scanWithin recognise n c := by
  induction m generalizing c n with
  | zero => omega
  | succ m ih =>
    cases n with
    | zero => omega
    | succ n =>
      rw [scanWithin, scanWithin]
      split
      · -- A find uses up one attempt and at least one position.
        rename_i a stop hf
        have := hr.length_lt hf
        rw [ih (n := n) (by omega) (by omega)]
      · split
        · rename_i x d hx
          have := (next?_eq_some_iff.1 hx).length_eq
          simp only [List.length_singleton] at this
          exact ih (by omega) (by omega)
        · rfl

/-- A scan goes on where a find ends, and one character further where there is
    none. -/
theorem scan_eq (hr : Progresses recognise) (c : Cursor) :
    c.scan recognise =
      match recognise c with
      | some (a, stop) => a :: stop.scan recognise
      | none =>
        match c.next? with
        | some (_, d) => d.scan recognise
        | none => [] := by
  unfold scan
  rw [scanWithin]
  cases hf : recognise c with
  | some found =>
    obtain ⟨a, stop⟩ := found
    exact congrArg (a :: ·) (scanWithin_eq hr (hr.length_lt hf) (Nat.lt_succ_self _))
  | none =>
    cases hx : c.next? with
    | some step =>
      obtain ⟨x, d⟩ := step
      have := (next?_eq_some_iff.1 hx).length_eq
      simp only [List.length_singleton] at this
      exact scanWithin_eq hr (by omega) (Nat.lt_succ_self _)
    | none => rfl

/-- Every find of a scan is what the recogniser finds at some position behind
    the start. -/
theorem mem_scan (hr : Progresses recognise) {c : Cursor} {a : α} (h : a ∈ c.scan recognise) :
    ∃ w d stop, c.Reaches w d ∧ recognise d = some (a, stop) := by
  induction c using induction_after with
  | step c ih =>
    rw [scan_eq hr] at h
    split at h
    · rename_i b stop hf
      rcases List.mem_cons.1 h with rfl | h
      · exact ⟨[], c, stop, .refl c, hf⟩
      · obtain ⟨v, -, hv⟩ := hr c b stop hf
        obtain ⟨w, d, stop', hw, hd⟩ := ih stop (hr.length_lt hf) h
        exact ⟨v ++ w, d, stop', hv.trans hw, hd⟩
    · split at h
      · rename_i x e hx
        have hx := next?_eq_some_iff.1 hx
        obtain ⟨w, d, stop, hw, hd⟩ := ih e (by rw [hx.length_eq]; simp) h
        exact ⟨[x] ++ w, d, stop, hx.trans hw, hd⟩
      · cases h

variable {β : Type} {find? : Cursor → Option β} {stop : β → Cursor}

/-- What is found where, and the position behind it, make a recogniser. -/
theorem progresses_map (h : ∀ c b, find? c = some b → ∃ w, w ≠ [] ∧ c.Reaches w (stop b))
    (make : Cursor → β → α) :
    Progresses fun c => (find? c).map fun b => (make c b, stop b) := by
  intro c a d hfound
  obtain ⟨b, hb, heq⟩ := Option.map_eq_some_iff.1 hfound
  obtain ⟨-, rfl⟩ := Prod.mk.inj heq
  exact h c b hb

theorem exists_of_mem_scan_map
    (h : ∀ c b, find? c = some b → ∃ w, w ≠ [] ∧ c.Reaches w (stop b)) {make : Cursor → β → α}
    {c : Cursor} {a : α} (ha : a ∈ c.scan fun c => (find? c).map fun b => (make c b, stop b)) :
    ∃ w d b, c.Reaches w d ∧ find? d = some b ∧ make d b = a := by
  obtain ⟨w, d, e, hw, hfound⟩ := mem_scan (progresses_map h make) ha
  obtain ⟨b, hb, heq⟩ := Option.map_eq_some_iff.1 hfound
  exact ⟨w, d, b, hw, hb, (Prod.mk.inj heq).1⟩

end Scan

end Cursor

end CatalogAudit
