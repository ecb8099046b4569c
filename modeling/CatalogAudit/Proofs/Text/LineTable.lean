import CatalogAudit.Proofs.Text.Slices

/-!
# Exact places

A line table finds the place of an offset by the starts of the lines. For this it does not
matter how the search ends, at the start of a line or between two of them: either way it tells
the same line. What the table gives is the place that one counts from the text, every boundary
of a text has one, and later boundaries have later places.

* `LineTable.place?_eq_some_iff`: which offsets have a place, and which place that is.
* `LineTable.Lands`: where a search among the starts may end (`line_of_lands`).
* `Place.before_behind_iff`: the order of places is that of the offsets.
* `LineTable.place?_exact_and_ascending`: all of this for the table of a text.
-/

namespace CatalogAudit

/-! ### The order of places -/

theorem Place.Before.asymm {p q : Place} (h : p.Before q) : ¬q.Before p := by
  simp only [Before] at h ⊢
  omega

/-- Of two beginnings of a text, the shorter one has the earlier place behind it. -/
theorem Place.before_behind_of_lt {text before other : List Char} (hb : before <+: text)
    (ho : other <+: text) (h : byteLength before < byteLength other) :
    (Place.behind before).Before (.behind other) := by
  rcases List.prefix_or_prefix_of_prefix hb ho with ⟨more, rfl⟩ | hother
  · refine behind_advance before ?_
    rintro rfl
    rw [List.append_nil] at h
    exact Nat.lt_irrefl _ h
  · have := byteLength_le_of_prefix hother
    omega

theorem Place.behind_eq_iff {text before other : List Char} (hb : before <+: text)
    (ho : other <+: text) :
    Place.behind before = .behind other ↔ byteLength before = byteLength other := by
  constructor
  · intro h
    rw [behind_injective hb ho h]
  · intro h
    rcases List.prefix_or_prefix_of_prefix hb ho with ⟨more, rfl⟩ | ⟨more, rfl⟩
    all_goals
      rw [byteLength_append] at h
      obtain rfl : more = [] := eq_nil_of_byteLength_eq_zero (by omega)
      rw [List.append_nil]

theorem Place.before_behind_iff {text before other : List Char} (hb : before <+: text)
    (ho : other <+: text) :
    (Place.behind before).Before (.behind other) ↔ byteLength before < byteLength other := by
  refine ⟨fun h => ?_, before_behind_of_lt hb ho⟩
  rcases Nat.lt_trichotomy (byteLength before) (byteLength other) with hlt | heq | hgt
  · exact hlt
  · rw [(behind_eq_iff hb ho).2 heq] at h
    exact absurd h h.asymm
  · exact absurd h (before_behind_of_lt ho hb hgt).asymm

/-! ### Searches in the table -/

/-- The lines of a text start one behind the other. -/
theorem Cursor.pairwise_laterLines (c : Cursor) :
    c.laterLines.Pairwise fun d e => d.offset < e.offset := by
  induction c using induction_after with
  | step c ih =>
    cases ha : c.after with
    | nil =>
      have hnone : c.nextLine? = none := by rw [nextLine?, next?_eq_none_iff.2 ha]
      rw [laterLines, scan_eq progresses_nextLine?, hnone, next?_eq_none_iff.2 ha]
      exact .nil
    | cons x rest =>
      have hx := c.reaches_past ha
      have hrest := ih (c.past x rest) (by rw [hx.length_eq]; simp)
      by_cases hnewline : x = '\n'
      · subst hnewline
        rw [laterLines_newline hx]
        exact List.pairwise_cons.2 ⟨fun e he => offset_lt_of_mem_laterLines he, hrest⟩
      · rwa [laterLines_other hx hnewline]

theorem takeWhile_append_of_forall {α : Type} {test : α → Bool} {front back : List α}
    (hfront : ∀ a ∈ front, test a = true) (hback : ∀ a ∈ back, test a = false) :
    (front ++ back).takeWhile test = front := by
  rw [List.takeWhile_append_of_pos hfront]
  cases back with
  | nil => simp
  | cons b back =>
    rw [List.takeWhile_cons_of_neg (by rw [hback b List.mem_cons_self]; exact Bool.false_ne_true),
      List.append_nil]

namespace LineTable

variable {text : List Char} {offset line : Nat} {p : Place}

theorem starts_ascending (text : List Char) :
    (ofText text).starts.Pairwise fun d e => d.offset < e.offset :=
  List.pairwise_cons.2
    ⟨fun _ he => offset_lt_of_mem_laterLines he, (Cursor.start text).pairwise_laterLines⟩

/-- Where a search for an offset among the starts of the lines may end, and which line it then
    tells. -/
inductive Lands (table : LineTable) (offset : Nat) : Nat → Prop
  /-- It ends at the start of a line, and that is the line. -/
  | atStart {front back : List Cursor} {start : Cursor} :
    table.starts = front ++ start :: back → start.offset = offset →
      Lands table offset (front.length + 1)
  /-- It ends between two starts, and the line is the one in front of it. -/
  | between {front back : List Cursor} :
    table.starts = front ++ back → (∀ s ∈ front, s.offset < offset) →
      (∀ s ∈ back, offset < s.offset) → Lands table offset front.length

/-- However a search ends, it has passed the starts up to the offset. -/
theorem length_takeWhile_of_lands (h : (ofText text).Lands offset line) :
    ((ofText text).starts.takeWhile (·.offset ≤ offset)).length = line := by
  have hascending := starts_ascending text
  cases h with
  | @atStart front back start hstarts hstart =>
    rw [hstarts, List.pairwise_append, List.pairwise_cons] at hascending
    obtain ⟨-, ⟨hback, -⟩, hfront⟩ := hascending
    have hpassed : (front ++ [start] ++ back).takeWhile (·.offset ≤ offset)
        = front ++ [start] := by
      refine takeWhile_append_of_forall (fun s hs => ?_) fun s hs => ?_
      · rcases List.mem_append.1 hs with hs | hs
        · have := hfront s hs start List.mem_cons_self
          exact decide_eq_true (by omega)
        · rw [List.mem_singleton.1 hs]
          exact decide_eq_true (by omega)
      · have := hback s hs
        exact decide_eq_false (by omega)
    rw [hstarts, ← List.singleton_append, ← List.append_assoc, hpassed, List.length_append]
    rfl
  | @between front back hstarts hfront hback =>
    rw [hstarts, takeWhile_append_of_forall (fun s hs => decide_eq_true (hfront s hs).le)
      fun s hs => decide_eq_false (Nat.not_le.2 (hback s hs))]

/-- The line of a place is the one that a search for the offset tells. -/
theorem line_of_lands (hp : (ofText text).place? offset = some p)
    (h : (ofText text).Lands (min offset (byteLength text)) line) : p.line = line := by
  rw [place?] at hp
  split at hp
  · obtain ⟨characters, -, rfl⟩ := Option.map_eq_some_iff.1 hp
    exact length_takeWhile_of_lands h
  · cases hp

/-- A search for an offset ends somewhere. -/
theorem exists_lands (text : List Char) (offset : Nat) :
    ∃ line, (ofText text).Lands offset line := by
  have hsplit := List.takeWhile_append_dropWhile (p := fun s : Cursor => s.offset < offset)
    (l := (ofText text).starts)
  have hfront : ∀ s ∈ (ofText text).starts.takeWhile (·.offset < offset), s.offset < offset := by
    intro s hs
    have htest := List.mem_takeWhile_imp hs
    exact of_decide_eq_true htest
  have hascending := starts_ascending text
  rw [← hsplit, List.pairwise_append] at hascending
  cases hback : (ofText text).starts.dropWhile (·.offset < offset) with
  | nil =>
    rw [hback] at hsplit
    exact ⟨_, .between hsplit.symm hfront fun s hs => absurd hs List.not_mem_nil⟩
  | cons start back =>
    have hle : ¬start.offset < offset := by
      have hhead := List.head?_dropWhile_not (fun s : Cursor => decide (s.offset < offset))
        (ofText text).starts
      rw [hback] at hhead
      exact of_decide_eq_false hhead
    rw [hback] at hsplit hascending
    by_cases heq : start.offset = offset
    · exact ⟨_, .atStart hsplit.symm heq⟩
    · refine ⟨_, .between hsplit.symm hfront fun s hs => ?_⟩
      rcases List.mem_cons.1 hs with rfl | hs
      · omega
      · have := (List.pairwise_cons.1 hascending.2.1).1 s hs
        omega

/-! ### Offsets with a place -/

/-- Only boundaries have a place, and what is beyond the end. -/
theorem exists_of_place? (h : (ofText text).place? offset = some p) :
    ∃ before, before <+: text ∧ byteLength before = min offset (byteLength text) := by
  rw [place?] at h
  split at h
  · rename_i start hstart
    obtain ⟨n, hn, -⟩ := Option.map_eq_some_iff.1 h
    obtain ⟨more, hmore, hbytes, -⟩ := charactersIn_eq_some_iff.1 hn
    have hpassed := List.mem_of_getLast? hstart
    have hle : start.offset ≤ min offset (byteLength text) := by
      have htest := List.mem_takeWhile_imp hpassed
      exact of_decide_eq_true htest
    obtain ⟨w, hw⟩ : ∃ w, (Cursor.start text).Reaches w start := by
      rcases List.mem_cons.1 ((List.takeWhile_prefix _).subset hpassed) with rfl | hlater
      · exact ⟨[], .refl _⟩
      · obtain ⟨v, hv⟩ := exists_reaches_of_mem_laterLines hlater
        exact ⟨v ++ ['\n'], hv⟩
    refine ⟨w ++ more, ?_, ?_⟩
    · rw [hw.eq_append]
      exact (List.prefix_append_right_inj w).2 hmore
    · rw [byteLength_append, hbytes, ← hw.offset_of_start]
      exact Nat.add_sub_cancel' hle
  · cases h

/-- An offset beyond the end stands for the end. -/
theorem place?_min (table : LineTable) (offset : Nat) :
    table.place? (min offset table.size) = table.place? offset := by
  rw [place?, place?, Nat.min_assoc, Nat.min_self]

theorem place?_of_prefix {before : List Char} (h : before <+: text) :
    (ofText text).place? (byteLength before) = some (.behind before) := by
  obtain ⟨after, hafter⟩ := h
  exact place?_ofText hafter.symm

/-- An offset has the place that is counted from the text in front of it. -/
theorem place?_eq_some_iff :
    (ofText text).place? offset = some p
      ↔ ∃ before, before <+: text ∧ byteLength before = min offset (byteLength text)
        ∧ p = .behind before := by
  have hplace {before : List Char} (hbefore : before <+: text)
      (hbytes : byteLength before = min offset (byteLength text)) :
      (ofText text).place? offset = some (.behind before) := by
    rw [← place?_min]
    exact hbytes ▸ place?_of_prefix hbefore
  constructor
  · intro h
    obtain ⟨before, hbefore, hbytes⟩ := exists_of_place? h
    exact ⟨before, hbefore, hbytes, Option.some.inj (h.symm.trans (hplace hbefore hbytes))⟩
  · rintro ⟨before, hbefore, hbytes, rfl⟩
    exact hplace hbefore hbytes

/-- An offset has a place if it is a boundary, where an offset beyond the end stands for the
    end: its line is one more than the newlines in front of it, and its column is one more than
    the characters since the last of them. However a search in the table ends, it tells this
    line. Of boundaries, different ones have different places, and later ones later places. -/
theorem place?_exact_and_ascending (text : List Char) :
    (∀ offset p, (ofText text).place? offset = some p
        ↔ ∃ before, before <+: text ∧ byteLength before = min offset (byteLength text)
          ∧ p = .behind before)
      ∧ (∀ offset p line, (ofText text).place? offset = some p →
        ((ofText text).Lands (min offset (byteLength text)) line ↔ line = p.line))
      ∧ ∀ o o', IsBoundary text o → IsBoundary text o' →
        ∃ p q, (ofText text).place? o = some p ∧ (ofText text).place? o' = some q
          ∧ (p = q ↔ o = o') ∧ (p.Before q ↔ o < o') := by
  refine ⟨fun offset p => place?_eq_some_iff, fun offset p line hp => ?_, fun o o' ho ho' => ?_⟩
  · constructor
    · intro h
      exact (line_of_lands hp h).symm
    · rintro rfl
      obtain ⟨line, hline⟩ := exists_lands text (min offset (byteLength text))
      rwa [line_of_lands hp hline]
  · obtain ⟨before, hbefore, rfl⟩ := ho
    obtain ⟨before', hbefore', rfl⟩ := ho'
    exact ⟨_, _, place?_of_prefix hbefore, place?_of_prefix hbefore',
      Place.behind_eq_iff hbefore hbefore', Place.before_behind_iff hbefore hbefore'⟩

/-- The second line of this text starts behind a character of two bytes and a newline. -/
def accentedText : List Char :=
  "é\nb".toList

theorem place?_exact_and_ascending_accented :
    (LineTable.ofText accentedText).place? 3 = some ⟨2, 1⟩
      ∧ (LineTable.ofText accentedText).Lands (min 3 (byteLength accentedText)) 2
      ∧ IsBoundary accentedText 2 ∧ IsBoundary accentedText 3
      ∧ ∃ p q, (LineTable.ofText accentedText).place? 2 = some p
        ∧ (LineTable.ofText accentedText).place? 3 = some q ∧ p ≠ q ∧ p.Before q := by
  obtain ⟨-, hlands, hascending⟩ := place?_exact_and_ascending accentedText
  have hplace : (LineTable.ofText accentedText).place? 3 = some ⟨2, 1⟩ := by decide +kernel
  have hnewline : IsBoundary accentedText 2 := ⟨['é'], by decide +kernel, by decide +kernel⟩
  have hsecond : IsBoundary accentedText 3 := ⟨['é', '\n'], by decide +kernel, by decide +kernel⟩
  obtain ⟨p, q, hp, hq, hsame, hbefore⟩ := hascending 2 3 hnewline hsecond
  exact ⟨hplace, (hlands 3 ⟨2, 1⟩ 2 hplace).2 rfl, hnewline, hsecond, p, q, hp, hq,
    fun h => absurd (hsame.1 h) (by decide), hbefore.2 (by decide)⟩

-- Inside a character there is no place, and beyond the end there is the place of the end.
example : (ofText accentedText).place? 1 = none ∧ (ofText accentedText).place? 9 = some ⟨2, 2⟩ := by
  decide +kernel

end LineTable

end CatalogAudit
