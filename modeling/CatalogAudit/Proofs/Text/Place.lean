import CatalogAudit.Proofs.Text.Position
import CatalogAudit.Text.Place
import Mathlib.Data.List.Induction
import Mathlib.Data.List.TakeWhile
import Mathlib.Tactic.ByContra

/-!
# Places and the characters before them

The place behind some text is counted from that text alone: its newlines, and
its characters since the last one. The line table of a text finds exactly this
place for every position, by offsets and without counting from the start.

* `place?_ofText`: the table gives the place behind what comes before.
* `behind_advance`: a longer beginning of a text has a later place, so the
  place determines the position (`behind_injective`).
-/

namespace CatalogAudit

/-- The characters since the last newline. -/
def lastLine (text : List Char) : List Char :=
  (text.reverse.takeWhile (· != '\n')).reverse

theorem lastLine_of_notMem {text : List Char} (h : '\n' ∉ text) : lastLine text = text := by
  have : text.reverse.takeWhile (· != '\n') = text.reverse := by
    refine List.takeWhile_eq_self_iff.2 fun x hx => ?_
    have hne : x ≠ '\n' := fun he => h (he ▸ List.mem_reverse.1 hx)
    simpa using hne
  rw [lastLine, this, List.reverse_reverse]

theorem notMem_lastLine (text : List Char) : '\n' ∉ lastLine text := by
  intro h
  have hne := List.mem_takeWhile_imp (List.mem_reverse.1 h)
  simp at hne

/-- What stands before a line does not matter to it. -/
theorem lastLine_append (s : List Char) {t : List Char} (h : '\n' ∉ t) :
    lastLine (s ++ t) = lastLine s ++ t := by
  have ht : ∀ x ∈ t.reverse, (x != '\n') = true := by
    intro x hx
    have hne : x ≠ '\n' := fun he => h (he ▸ List.mem_reverse.1 hx)
    simpa using hne
  rw [lastLine, List.reverse_append, List.takeWhile_append_of_pos ht, List.reverse_append,
    List.reverse_reverse, lastLine]

theorem lastLine_newline (s t : List Char) : lastLine (s ++ '\n' :: t) = lastLine t := by
  induction t using List.reverseRec with
  | nil => simp [lastLine]
  | append_singleton t x ih =>
    by_cases hx : x = '\n'
    · subst hx
      simp [lastLine]
    · have hn : '\n' ∉ [x] := by simpa using Ne.symm hx
      rw [show s ++ '\n' :: (t ++ [x]) = (s ++ '\n' :: t) ++ [x] by simp,
        lastLine_append _ hn, lastLine_append _ hn, ih]

/-- A line ends at a newline or goes back to the start of the text. -/
theorem newline_or_lastLine_eq (text : List Char) :
    '\n' ∉ text ∧ lastLine text = text ∨ ∃ s, text = s ++ '\n' :: lastLine text := by
  by_cases h : '\n' ∈ text
  · refine .inr ?_
    induction text using List.reverseRec with
    | nil => cases h
    | append_singleton t x ih =>
      by_cases hx : x = '\n'
      · subst hx
        exact ⟨t, by simp [lastLine]⟩
      · have hn : '\n' ∉ [x] := by simpa using Ne.symm hx
        obtain ⟨s, hs⟩ := ih (by simpa [Ne.symm hx] using h)
        refine ⟨s, ?_⟩
        rw [lastLine_append t hn, ← List.cons_append, ← List.append_assoc, ← hs]
  · exact .inl ⟨h, lastLine_of_notMem h⟩

/-- The place behind some text. -/
def Place.behind (before : List Char) : Place where
  line := before.count '\n' + 1
  column := (lastLine before).length + 1

/-! ### The line table -/

theorem progresses_nextLine? : Cursor.Progresses Cursor.nextLine? := by
  intro c a stop h
  rw [Cursor.nextLine?] at h
  split at h
  · rename_i d hd
    obtain ⟨rfl, rfl⟩ := Prod.mk.inj (Option.some.inj h)
    exact ⟨['\n'], by simp, Cursor.next?_eq_some_iff.1 hd⟩
  · cases h

/-- The starts of lines behind a position. -/
def Cursor.laterLines (c : Cursor) : List Cursor :=
  c.scan Cursor.nextLine?

theorem laterLines_newline {c d : Cursor} (h : c.Reaches ['\n'] d) :
    c.laterLines = d :: d.laterLines := by
  rw [Cursor.laterLines, Cursor.scan_eq progresses_nextLine?, Cursor.nextLine?,
    Cursor.next?_eq_some_iff.2 h]
  rfl

theorem laterLines_other {c d : Cursor} {x : Char} (h : c.Reaches [x] d) (hx : x ≠ '\n') :
    c.laterLines = d.laterLines := by
  have hn : c.nextLine? = none := by
    rw [Cursor.nextLine?, Cursor.next?_eq_some_iff.2 h]
    split
    · rename_i heq
      exact absurd (Prod.mk.inj (Option.some.inj heq)).1 hx
    · rfl
  rw [Cursor.laterLines, Cursor.scan_eq progresses_nextLine?, hn, Cursor.next?_eq_some_iff.2 h]
  rfl

/-- A later line starts behind a newline. -/
theorem exists_reaches_of_mem_laterLines {c e : Cursor} (h : e ∈ c.laterLines) :
    ∃ w, c.Reaches (w ++ ['\n']) e := by
  obtain ⟨w, d, stop, hw, hd⟩ := Cursor.mem_scan progresses_nextLine? h
  rw [Cursor.nextLine?] at hd
  split at hd
  · rename_i f hf
    obtain ⟨rfl, rfl⟩ := Prod.mk.inj (Option.some.inj hd)
    exact ⟨w, hw.trans (Cursor.next?_eq_some_iff.1 hf)⟩
  · cases hd

/-- Later lines start at later offsets. -/
theorem offset_lt_of_mem_laterLines {c e : Cursor} (h : e ∈ c.laterLines) :
    c.offset < e.offset := by
  obtain ⟨w, hw⟩ := exists_reaches_of_mem_laterLines h
  rw [hw.offset_eq, byteLength_append, byteLength_cons]
  have := utf8Size_pos '\n'
  omega

/-- The lines that start between two positions: one for each newline between
    them, and the last of them is the line of the second position. -/
theorem takeWhile_laterLines {c d : Cursor} {w : List Char} (h : c.Reaches w d) :
    (c.laterLines.takeWhile (·.offset ≤ d.offset)).length = w.count '\n'
      ∧ ∃ e, (c :: c.laterLines.takeWhile (·.offset ≤ d.offset)).getLast? = some e
        ∧ e.Reaches (lastLine w) d := by
  induction w generalizing c with
  | nil =>
    obtain rfl := (Cursor.Reaches.refl c).unique h
    have hnil : c.laterLines.takeWhile (·.offset ≤ c.offset) = [] := by
      rw [List.takeWhile_eq_nil_iff]
      intro hpos hle
      have hlt := offset_lt_of_mem_laterLines (List.get_mem _ ⟨0, hpos⟩)
      exact absurd (of_decide_eq_true hle) (Nat.not_le.2 hlt)
    rw [hnil]
    exact ⟨rfl, c, rfl, .refl c⟩
  | cons x w ih =>
    obtain ⟨f, hf, ha⟩ := Cursor.Reaches.exists_of_after (w := [x]) (h.after)
    have hfd : f.Reaches w d := ⟨ha, by rw [h.before, hf.before]; simp⟩
    obtain ⟨hcount, e, he, hed⟩ := ih hfd
    -- Only a newline adds a line to those behind `f`.
    by_cases hx : x = '\n'
    · subst hx
      have hle : f.offset ≤ d.offset := by rw [hfd.offset_eq]; exact Nat.le_add_right _ _
      rw [laterLines_newline hf, List.takeWhile_cons_of_pos (by simpa using hle)]
      refine ⟨by rw [List.length_cons, hcount, List.count_cons_self], e, ?_, ?_⟩
      · rw [List.getLast?_cons_cons]
        exact he
      · rwa [show '\n' :: w = [] ++ '\n' :: w from rfl, lastLine_newline]
    · rw [laterLines_other hf hx]
      refine ⟨by rw [hcount, List.count_cons_of_ne hx], ?_⟩
      -- The position after `x` is on the line of `c` or on a later one.
      rcases newline_or_lastLine_eq w with ⟨hno, hline⟩ | ⟨s, hs⟩
      · have hnil : f.laterLines.takeWhile (·.offset ≤ d.offset) = [] := by
          rw [← List.length_eq_zero_iff, hcount]
          exact List.count_eq_zero.2 hno
        refine ⟨c, by rw [hnil]; rfl, ?_⟩
        rwa [lastLine_of_notMem (by simpa [Ne.symm hx] using hno)]
      · have hne : f.laterLines.takeWhile (·.offset ≤ d.offset) ≠ [] := by
          rw [← List.length_pos_iff, hcount, List.count_pos_iff, hs]
          simp
        obtain ⟨g, tail, ht⟩ := List.exists_cons_of_ne_nil hne
        rw [ht] at he ⊢
        rw [List.getLast?_cons_cons] at he ⊢
        refine ⟨e, he, ?_⟩
        have hl : lastLine (x :: w) = lastLine w := by
          rw [hs, ← List.cons_append, lastLine_newline, lastLine_newline]
        rwa [hl]

theorem charactersIn_append (v rest : List Char) :
    charactersIn (v ++ rest) (byteLength v) = some v.length := by
  induction v with
  | nil =>
    simp [charactersIn]
  | cons x v ih =>
    have hx := utf8Size_pos x
    obtain ⟨n, hn⟩ : ∃ n, byteLength (x :: v) = n + 1 :=
      ⟨byteLength (x :: v) - 1, by rw [byteLength_cons]; omega⟩
    have hle : x.utf8Size ≤ n + 1 := by rw [← hn, byteLength_cons]; omega
    have hsub : n + 1 - x.utf8Size = byteLength v := by rw [← hn, byteLength_cons]; omega
    rw [hn, List.cons_append, charactersIn, if_pos hle, hsub, ih]
    · rfl
    · omega

/-- The table of a text gives the place behind any beginning of the text. -/
theorem place?_ofText {text before after : List Char} (h : text = before ++ after) :
    (LineTable.ofText text).place? (byteLength before) = some (.behind before) := by
  obtain ⟨d, hd, -⟩ := Cursor.Reaches.exists_of_after (c := Cursor.start text) h
  obtain ⟨hcount, e, he, hed⟩ := takeWhile_laterLines hd
  have hoff : d.offset = byteLength before := hd.offset_of_start
  have hmin : min (byteLength before) (byteLength text) = d.offset := by
    rw [h, byteLength_append, hoff]
    omega
  have hpassed : (Cursor.start text :: (Cursor.start text).scan Cursor.nextLine?).takeWhile
      (·.offset ≤ d.offset)
        = Cursor.start text :: (Cursor.start text).laterLines.takeWhile (·.offset ≤ d.offset) :=
    List.takeWhile_cons_of_pos (decide_eq_true (Nat.zero_le _))
  have hchars : charactersIn e.after (d.offset - e.offset) = some (lastLine before).length := by
    rw [hed.after, hed.offset_eq, Nat.add_sub_cancel_left]
    exact charactersIn_append _ _
  simp only [LineTable.place?, LineTable.ofText, hmin, hpassed, he, hchars, Option.map_some,
    List.length_cons, hcount]
  rfl

/-! ### Places grow -/

/-- One place comes before another one. -/
def Place.Before (p q : Place) : Prop :=
  p.line < q.line ∨ p.line = q.line ∧ p.column < q.column

/-- More text has a later place behind it. -/
theorem behind_advance (before : List Char) {more : List Char} (h : more ≠ []) :
    (Place.behind before).Before (.behind (before ++ more)) := by
  by_cases hn : '\n' ∈ more
  · refine .inl ?_
    have := List.count_pos_iff.2 hn
    simp only [Place.behind, List.count_append]
    omega
  · refine .inr ⟨?_, ?_⟩
    · simp [Place.behind, List.count_append, List.count_eq_zero.2 hn]
    · have := List.length_pos_iff.2 h
      simp only [Place.behind, lastLine_append before hn, List.length_append]
      omega

/-- The place determines the beginning of a text that it is behind. -/
theorem behind_injective {text before other : List Char} (hb : before <+: text)
    (ho : other <+: text) (h : Place.behind before = .behind other) : before = other := by
  -- Of two beginnings of one text, one goes on where the other ends.
  rcases List.prefix_or_prefix_of_prefix hb ho with ⟨more, rfl⟩ | ⟨more, rfl⟩
  · by_contra hne
    have hmore : more ≠ [] := fun he => hne (by simp [he])
    have := behind_advance before hmore
    rw [← h] at this
    simp [Place.Before] at this
  · by_contra hne
    have hmore : more ≠ [] := fun he => hne (by simp [he])
    have := behind_advance other hmore
    rw [h] at this
    simp [Place.Before] at this

end CatalogAudit
