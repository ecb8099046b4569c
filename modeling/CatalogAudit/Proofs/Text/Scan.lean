import CatalogAudit.Proofs.Text.Position

/-!
# What a search passes

A search from left to right stops at the first position that it looks for, and
a scan takes every find unless the find begins inside an earlier one. Both facts
are told by offsets: positions of one text are ordered by them.

* `exists_reaches`: what stands in a text goes from one position of it to another.
* `offset_le_of_seek`, `offset_le_of_find?`: nothing that is looked for begins
  before the position where the search stops.
* `exists_find?_start`: a word is found in the text behind a position as from the position on.
* `scan_eq_of_none`, `scan_eq_seek`: a scan passes over positions without a find.
* `pairwise_scan`: the finds of a scan lie one behind the other.
* `exists_mem_scan`: what begins at some position is found there, or the
  position lies inside another find.
-/

namespace CatalogAudit

theorem byteLength_pos {text : List Char} (h : text ≠ []) : 0 < byteLength text := by
  obtain ⟨x, rest, rfl⟩ := List.exists_cons_of_ne_nil h
  have := utf8Size_pos x
  rw [byteLength_cons]
  omega

theorem eq_nil_of_byteLength_eq_zero {text : List Char} (h : byteLength text = 0) : text = [] :=
  Decidable.byContradiction fun hne => Nat.ne_of_gt (byteLength_pos hne) h

namespace Cursor

variable {c d e f : Cursor} {v w word : List Char} {test : Cursor → Bool}

/-! ### Positions in their order -/

/-- Of two positions behind `c`, the later one is reached from the other. -/
theorem Reaches.exists_between (hv : c.Reaches v d) (hw : c.Reaches w e)
    (h : d.offset ≤ e.offset) : ∃ u, w = v ++ u ∧ d.Reaches u e := by
  have hsame : v ++ d.after = w ++ e.after := hv.after.symm.trans hw.after
  rw [hv.offset_eq, hw.offset_eq] at h
  rcases List.append_eq_append_iff.1 hsame with ⟨u, rfl, ha⟩ | ⟨u, rfl, ha⟩
  · refine ⟨u, rfl, ha, ?_⟩
    rw [hw.before, hv.before, List.reverse_append, List.append_assoc]
  · -- The word to `d` would go on behind `e`, and so nothing lies between them.
    obtain rfl : u = [] := by
      rw [byteLength_append] at h
      exact eq_nil_of_byteLength_eq_zero (by omega)
    rw [List.nil_append] at ha
    exact ⟨[], by simp, ha.symm, by rw [hw.before, hv.before]; simp⟩

/-- Positions behind `c` are told apart by their offsets. -/
theorem Reaches.eq_of_offset_eq (hv : c.Reaches v d) (hw : c.Reaches w e)
    (h : d.offset = e.offset) : d = e := by
  obtain ⟨u, -, hu⟩ := hv.exists_between hw (Nat.le_of_eq h)
  have hoffset := hu.offset_eq
  obtain rfl : u = [] := eq_nil_of_byteLength_eq_zero (by omega)
  exact (Reaches.refl d).unique hu

theorem Reaches.offset_lt (h : c.Reaches w d) (hw : w ≠ []) : c.offset < d.offset := by
  have := byteLength_pos hw
  rw [h.offset_eq]
  omega

theorem Reaches.offset_le (h : c.Reaches w d) : c.offset ≤ d.offset := by
  rw [h.offset_eq]
  exact Nat.le_add_right _ _

/-- A word in two parts leads past the position between them. -/
theorem Reaches.exists_of_append (h : c.Reaches (v ++ w) d) :
    ∃ e, c.Reaches v e ∧ e.Reaches w d := by
  obtain ⟨e, he, ha⟩ := exists_of_after (h.after.trans (List.append_assoc v w d.after))
  exact ⟨e, he, ha, by rw [h.before, he.before]; simp⟩

theorem Reaches.exists_of_cons {x : Char} (h : c.Reaches (x :: w) d) :
    ∃ e, c.Reaches [x] e ∧ e.Reaches w d :=
  Reaches.exists_of_append (v := [x]) h

/-- What stands in a text goes from one position of it to another one. -/
theorem exists_reaches {text : List Char} (h : v ++ w <+: text) :
    ∃ c d, (start text).Reaches v c ∧ c.Reaches w d := by
  obtain ⟨rest, rfl⟩ := h
  obtain ⟨d, hd, -⟩ := Reaches.exists_of_after (c := start _) rfl
  obtain ⟨c, hc, hd⟩ := hd.exists_of_append
  exact ⟨c, d, hc, hd⟩

/-! ### The first position -/

/-- A search stops at the first position where the test holds. -/
theorem offset_le_of_seek (h : c.seek test = some d) (hv : c.Reaches v e) (ht : test e = true) :
    d.offset ≤ e.offset := by
  induction v generalizing c with
  | nil =>
    obtain rfl := (Reaches.refl c).unique hv
    rw [seek_eq, if_pos ht] at h
    exact Nat.le_of_eq (congrArg offset (Option.some.inj h)).symm
  | cons x v ih =>
    obtain ⟨f, hf, hv⟩ := hv.exists_of_cons
    rw [seek_eq, next?_eq_some_iff.2 hf] at h
    split at h
    · obtain rfl := Option.some.inj h
      have := hf.offset_le
      have := hv.offset_le
      omega
    · exact ih h hv

theorem exists_seek (test : Cursor → Bool) (hv : c.Reaches v e) (ht : test e = true) :
    ∃ d, c.seek test = some d := by
  induction v generalizing c with
  | nil =>
    obtain rfl := (Reaches.refl c).unique hv
    exact ⟨c, by rw [seek_eq, if_pos ht]⟩
  | cons x v ih =>
    obtain ⟨f, hf, hv⟩ := hv.exists_of_cons
    rw [seek_eq, next?_eq_some_iff.2 hf]
    split
    · exact ⟨c, rfl⟩
    · exact ih hv

/-- Nothing stands before the place where a word is found first. -/
theorem offset_le_of_find? (h : c.find? word = some (d, e)) (hv : c.Reaches v f)
    (hword : word <+: f.after) : d.offset ≤ f.offset := by
  obtain ⟨rest, hrest⟩ := hword
  obtain ⟨g, hg, -⟩ := Reaches.exists_of_after hrest.symm
  rw [find?] at h
  split at h
  · rename_i a hseek
    obtain ⟨e', -, heq⟩ := Option.map_eq_some_iff.1 h
    obtain ⟨rfl, -⟩ := Prod.mk.inj heq
    exact offset_le_of_seek hseek hv (by rw [skip?_eq_some_iff.2 hg]; rfl)
  · cases h

theorem exists_find? (h : word <:+: c.after) : ∃ d e, c.find? word = some (d, e) := by
  obtain ⟨v, rest, hv⟩ := h
  have hafter : c.after = v ++ (word ++ rest) := by rw [← hv, List.append_assoc]
  obtain ⟨f, hf, ha⟩ := Reaches.exists_of_after hafter
  obtain ⟨g, hg, -⟩ := Reaches.exists_of_after ha
  obtain ⟨d, hd⟩ := exists_seek (fun d => (d.skip? word).isSome) hf
    (by simp [skip?_eq_some_iff.2 hg])
  obtain ⟨e, he⟩ := Option.isSome_iff_exists.1 (seek_eq_some hd).1
  exact ⟨d, e, by simp [find?, hd, he]⟩

theorem find?_eq_none_iff : c.find? word = none ↔ ¬word <:+: c.after := by
  constructor
  · intro h hword
    obtain ⟨d, e, hfound⟩ := exists_find? hword
    rw [h] at hfound
    cases hfound
  · intro h
    refine Option.eq_none_iff_forall_ne_some.2 fun ⟨d, e⟩ hfound => h ?_
    obtain ⟨⟨v, hv⟩, hword⟩ := find?_eq_some hfound
    exact ⟨v, e.after, by rw [hv.after, hword.after, List.append_assoc]⟩

/-- A word is found in the text behind a position where it is found from that position on. -/
theorem exists_find?_start (h : c.find? word = some (d, e)) :
    ∃ d' e', (start c.after).find? word = some (d', e') ∧ d.offset = c.offset + d'.offset := by
  obtain ⟨⟨w, hw⟩, hword⟩ := find?_eq_some h
  have hafter : (start c.after).after = w ++ (word ++ e.after) := by
    rw [← hword.after]
    exact hw.after
  have hstands : word <:+: (start c.after).after :=
    ⟨w, e.after, by rw [hafter, List.append_assoc]⟩
  obtain ⟨d', e', hfound⟩ := exists_find? hstands
  obtain ⟨⟨w', hw'⟩, hword'⟩ := find?_eq_some hfound
  refine ⟨d', e', hfound, ?_⟩
  -- Both finds are the first ones, so neither word to them is the shorter one.
  obtain ⟨f, hf, hfafter⟩ := Reaches.exists_of_after (hw'.eq_append : c.after = w' ++ d'.after)
  obtain ⟨f', hf', hfafter'⟩ := Reaches.exists_of_after hafter
  have hle := offset_le_of_find? h hf ⟨e'.after, by rw [hfafter, hword'.after]⟩
  have hle' := offset_le_of_find? hfound hf' ⟨e.after, hfafter'.symm⟩
  rw [hf.offset_eq, hw.offset_eq] at hle
  rw [hf'.offset_of_start, hw'.offset_of_start] at hle'
  rw [hw.offset_eq, hw'.offset_of_start]
  omega

/-- A word is found behind a stretch that lacks its first character. -/
theorem find?_eq_of_notMem {x : Char} (hw : c.Reaches w d) (hword : d.Reaches (x :: word) e)
    (hx : x ∉ w) : c.find? (x :: word) = some (d, e) := by
  have hstands : x :: word <:+: c.after :=
    ⟨w, e.after, by rw [hw.after, hword.after, List.append_assoc]⟩
  obtain ⟨d', e', hfound⟩ := exists_find? hstands
  obtain ⟨⟨v, hv⟩, hword'⟩ := find?_eq_some hfound
  -- What is found first does not begin behind `d`. If it began in front of `d`, its
  -- first character would be in `w`.
  obtain ⟨u, rfl, hu⟩ := hv.exists_between hw
    (offset_le_of_find? hfound hw ⟨e.after, hword.after.symm⟩)
  obtain rfl : u = [] := by
    cases u with
    | nil => rfl
    | cons y u =>
      have hafter := hu.after.symm.trans hword'.after
      obtain ⟨rfl, -⟩ := List.cons.inj hafter
      exact absurd (List.mem_append_right v List.mem_cons_self) hx
  obtain rfl := (Reaches.refl d').unique hu
  rw [hfound, hword'.unique hword]

/-! ### Scans -/

section Scan

variable {α : Type} {recognise : Cursor → Option (α × Cursor)}

/-- A scan passes over a word when nothing is found at its positions. -/
theorem scan_eq_of_none (hr : Progresses recognise) (hw : c.Reaches w d)
    (hnone : ∀ v x u e, w = v ++ x :: u → c.Reaches v e → e.Reaches (x :: u) d →
      recognise e = none) : c.scan recognise = d.scan recognise := by
  induction w generalizing c with
  | nil => rw [(Reaches.refl c).unique hw]
  | cons x w ih =>
    obtain ⟨f, hf, hd⟩ := hw.exists_of_cons
    rw [scan_eq hr, hnone [] x w c rfl (.refl c) hw, next?_eq_some_iff.2 hf]
    refine ih hd fun v y u e hsplit hv hu => ?_
    exact hnone (x :: v) y u e (by rw [hsplit, List.cons_append]) (hf.trans hv) hu

/-- A scan goes on behind what it finds. -/
theorem scan_eq_of_some (hr : Progresses recognise) {a : α} (h : recognise c = some (a, d)) :
    c.scan recognise = a :: d.scan recognise := by
  rw [scan_eq hr, h]

/-- A scan goes straight to the first position where a test holds, if nothing is found where it
    does not hold. -/
theorem scan_eq_seek (hr : Progresses recognise)
    (hnone : ∀ d, test d = false → recognise d = none) (c : Cursor) :
    c.scan recognise =
      match c.seek test with
      | some d => d.scan recognise
      | none => [] := by
  induction c using induction_after with
  | step c ih =>
    rw [seek_eq]
    cases ht : test c with
    | true => rfl
    | false =>
      rw [scan_eq hr, hnone c ht]
      cases hx : c.next? with
      | some step =>
        obtain ⟨x, d⟩ := step
        exact ih d (by rw [(next?_eq_some_iff.1 hx).length_eq]; simp)
      | none => rfl

variable {start stop : α → Cursor}

/-- Each find tells where it begins and ends. -/
def Tells (recognise : Cursor → Option (α × Cursor)) (start stop : α → Cursor) : Prop :=
  ∀ c a d, recognise c = some (a, d) → start a = c ∧ stop a = d

/-- The finds of a scan lie one behind the other. -/
theorem pairwise_scan (hr : Progresses recognise) (hs : Tells recognise start stop) (c : Cursor) :
    (c.scan recognise).Pairwise fun a b => (stop a).offset ≤ (start b).offset := by
  induction c using induction_after with
  | step c ih =>
    rw [scan_eq hr]
    split
    · rename_i a d hf
      -- All other finds begin behind the end `d` of this one.
      refine List.pairwise_cons.2 ⟨fun b hb => ?_, ih d (hr.length_lt hf)⟩
      obtain ⟨w, e, stop', hw, hfound⟩ := mem_scan hr hb
      rw [(hs c a d hf).2, (hs e b stop' hfound).1]
      exact hw.offset_le
    · split
      · rename_i x d hx
        have hx := next?_eq_some_iff.1 hx
        exact ih d (by rw [hx.length_eq]; simp)
      · exact .nil

/-- What the recogniser finds at some position is found by the scan, unless the
    position lies inside another find. -/
theorem exists_mem_scan (hr : Progresses recognise) (hs : Tells recognise start stop) {a : α}
    (hw : c.Reaches w d) (hd : recognise d = some (a, e)) :
    ∃ b ∈ c.scan recognise,
      start b = d ∨ (start b).offset < d.offset ∧ d.offset < (stop b).offset := by
  induction c using induction_after generalizing w with
  | step c ih =>
    rw [scan_eq hr]
    split
    · rename_i b f hf
      obtain ⟨hstart, hstop⟩ := hs c b f hf
      obtain ⟨v, -, hv⟩ := hr c b f hf
      by_cases hle : f.offset ≤ d.offset
      · -- The position lies behind the first find, where the scan goes on.
        obtain ⟨u, -, hu⟩ := hv.exists_between hw hle
        obtain ⟨b', hb', h⟩ := ih f (hr.length_lt hf) hu
        exact ⟨b', List.mem_cons_of_mem b hb', h⟩
      · -- The position is the beginning of the first find or lies inside of it.
        refine ⟨b, List.mem_cons_self, ?_⟩
        rw [hstart, hstop]
        by_cases hnil : w = []
        · subst hnil
          exact .inl ((Reaches.refl c).unique hw)
        · exact .inr ⟨hw.offset_lt hnil, Nat.lt_of_not_le hle⟩
    · rename_i hnone
      cases w with
      | nil =>
        obtain rfl := (Reaches.refl c).unique hw
        rw [hnone] at hd
        cases hd
      | cons x w =>
        obtain ⟨f, hf, hfd⟩ := hw.exists_of_cons
        rw [next?_eq_some_iff.2 hf]
        exact ih f (by rw [hf.length_eq]; simp) hfd

end Scan

end Cursor

end CatalogAudit
