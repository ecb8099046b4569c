import CatalogAudit.Proofs.Regex.Ends
import CatalogAudit.Proofs.Text.Scan

/-!
# Which matches are found

An end that can be reached in several ways is listed once, and offsets decide
whether it has been reached before. This loses no match: all ends lie behind the
start of the match, and there an offset stands for one position. So every word
of an expression is matched, and of a run the longest word comes first.

* `leads_ends`: the ends of any expression lie behind the start of the match.
* `mem_ends_seq`, `mem_ends_zeroOrMore` and so on: the words of the building
  blocks are matched.
* `head?_ends_oneOrMore`: a run is matched as a whole first.
* `Template.exists_match?`, `Template.exists_match?_of_head`: a template has a
  match where its parts have matches one behind the other.
* `Template.pairwise_all`: the matches of a text in their order.
* `Template.isMatch_iff`: a text with a match somewhere.
-/

namespace CatalogAudit

open Cursor

namespace Regex

variable {b c d e : Cursor} {r s : Regex} {t : CharSet} {v w : List Char}

/-! ### All ends lie behind the start -/

/-- A step gives positions behind the one that it is taken at. -/
def Leads (step : Cursor → List Cursor) : Prop :=
  ∀ c, ∀ d ∈ step c, ∃ w, c.Reaches w d

/-- What is found by going through a list has been found before or is found at
    one of its members. -/
theorem mem_found_foldl {α : Type} {P : Prop} (found : α → List Cursor) {f : α → Cursor → α}
    {cs : List Cursor} (hf : ∀ e ∈ cs, ∀ a, d ∈ found (f a e) → d ∈ found a ∨ P) {a : α}
    (h : d ∈ found (cs.foldl f a)) : d ∈ found a ∨ P := by
  induction cs generalizing a with
  | nil => exact .inl h
  | cons e cs ih =>
    rcases ih (fun x hx => hf x (List.mem_cons_of_mem e hx)) h with h | h
    · exact hf e List.mem_cons_self a h
    · exact .inr h

/-- What is found behind a position that lies behind `c` is found behind `c`. -/
theorem reaches_or_of_reaches {found : List Cursor} (hc : ∃ v, c.Reaches v e)
    (h : d ∈ found ∨ ∃ w, e.Reaches w d) : d ∈ found ∨ ∃ w, c.Reaches w d := by
  obtain ⟨v, hv⟩ := hc
  exact h.imp_right fun ⟨w, hw⟩ => ⟨v ++ w, hv.trans hw⟩

theorem mem_or_reaches_of_mem_cons {found : List Cursor} (h : d ∈ c :: found) :
    d ∈ found ∨ ∃ w, c.Reaches w d := by
  rcases List.mem_cons.1 h with rfl | h
  · exact .inr ⟨[], .refl d⟩
  · exact .inl h

section Steps

variable {step : Cursor → List Cursor} (hstep : Leads step)

include hstep

theorem leads_iterate {n : Nat} {cs : List Cursor} (hcs : ∀ e ∈ cs, ∃ w, c.Reaches w e)
    (h : d ∈ iterate step n cs) : ∃ w, c.Reaches w d := by
  induction n generalizing cs with
  | zero => exact hcs d h
  | succ n ih =>
    cases cs with
    | nil => cases h
    | cons b bs =>
      -- One more round starts behind `c` and so it ends behind `c`.
      refine ih (fun e he => ?_) h
      obtain ⟨f, hf, he⟩ := exists_of_mem_chain he
      obtain ⟨v, hv⟩ := hcs f hf
      obtain ⟨w, hw⟩ := hstep f e he
      exact ⟨v ++ w, hv.trans hw⟩

theorem leads_closureFrom {greedy : Bool} {fuel : Nat} {found : List Cursor}
    (h : d ∈ closureFrom step greedy fuel found c) : d ∈ found ∨ ∃ w, c.Reaches w d := by
  -- What has been found grows along the fold over the ends of one word, and each end
  -- is a position to go on from.
  induction fuel generalizing c found with
  | zero =>
    rw [closureFrom] at h
    split at h
    · exact .inl h
    · exact mem_or_reaches_of_mem_cons h
  | succ fuel ih =>
    have hfold {found : List Cursor}
        (h : d ∈ ((step c).filter (c.offset < ·.offset)).foldl (closureFrom step greedy fuel) found) :
        d ∈ found ∨ ∃ w, c.Reaches w d :=
      mem_found_foldl id (fun e he a ha =>
        reaches_or_of_reaches (hstep c e (List.mem_filter.1 he).1) (ih ha)) h
    rw [closureFrom] at h
    split at h
    · exact .inl h
    · split at h
      · rcases mem_or_reaches_of_mem_cons h with h | h
        · exact hfold h
        · exact .inr h
      · rcases hfold h with h | h
        · exact mem_or_reaches_of_mem_cons h
        · exact .inr h

omit hstep in
theorem leads_reach {a : Attempts} (h : d ∈ (a.reach c).found) :
    d ∈ a.found ∨ ∃ w, c.Reaches w d := by
  rw [Attempts.reach] at h
  split at h
  · exact .inl h
  · exact mem_or_reaches_of_mem_cons h

theorem leads_extend {greedy : Bool} {n : Nat} {a : Attempts}
    (h : d ∈ (Attempts.extend step greedy n a c).found) : d ∈ a.found ∨ ∃ w, c.Reaches w d := by
  induction n generalizing c a with
  | zero => exact leads_reach h
  | succ n ih =>
    have hfold {a : Attempts}
        (h : d ∈ ((step c).foldl (Attempts.extend step greedy n) a).found) :
        d ∈ a.found ∨ ∃ w, c.Reaches w d :=
      mem_found_foldl Attempts.found (fun e he a ha =>
        reaches_or_of_reaches (hstep c e he) (ih ha)) h
    -- What is noted as tried does not matter to what is found.
    let noted : Attempts := { a with tried := (n, c.offset) :: a.tried }
    rw [Attempts.extend] at h
    split at h
    · exact .inl h
    · split at h
      · rcases leads_reach h with h | h
        · exact hfold (a := noted) h
        · exact .inr h
      · rcases hfold h with h | h
        · exact leads_reach (a := noted) h
        · exact .inr h

end Steps

theorem leads_ends (r : Regex) : Leads r.ends := by
  induction r with
  | empty =>
    intro c d h
    obtain rfl := List.mem_singleton.1 h
    exact ⟨[], .refl d⟩
  | set t =>
    intro c d h
    obtain ⟨x, -, hx⟩ := reaches_of_mem_ends_set h
    exact ⟨[x], hx⟩
  | look l =>
    intro c d h
    obtain ⟨rfl, -⟩ := mem_ends_look h
    exact ⟨[], .refl d⟩
  | seq r s ihr ihs =>
    intro c d h
    obtain ⟨e, he, hd⟩ := exists_of_mem_ends_seq h
    obtain ⟨v, hv⟩ := ihr c e he
    obtain ⟨w, hw⟩ := ihs e d hd
    exact ⟨v ++ w, hv.trans hw⟩
  | alt r s ihr ihs =>
    intro c d h
    rcases List.mem_append.1 (mem_of_mem_distinct h) with h | h
    · exact ihr c d h
    · exact ihs c d h
  | times r n ih =>
    intro c d h
    have h : d ∈ iterate r.ends n [c] := h
    refine leads_iterate ih (fun e he => ?_) h
    obtain rfl := List.mem_singleton.1 he
    exact ⟨[], .refl e⟩
  | upTo r n greedy ih =>
    intro c d h
    rcases leads_extend ih (List.mem_reverse.1 h) with h | h
    · cases h
    · exact h
  | star r greedy ih =>
    intro c d h
    rcases leads_closureFrom ih (List.mem_reverse.1 h) with h | h
    · cases h
    · exact h
  | run t greedy =>
    intro c d h
    have hrun : d ∈ runFrom t c.after.length c [] := by
      cases greedy
      · exact List.mem_reverse.1 h
      · exact h
    rcases reaches_of_mem_runFrom hrun with h | ⟨w, -, hw⟩
    · cases h
    · exact ⟨w, hw⟩

/-! ### Words that are matched -/

/-- A cursor is listed, unless another one of the list is at its offset. -/
theorem mem_distinct {cs : List Cursor} (h : d ∈ cs) (hd : ∀ e ∈ cs, e.offset = d.offset → e = d) :
    d ∈ distinct cs := by
  induction cs with
  | nil => exact h
  | cons c cs ih =>
    rw [distinct]
    by_cases hc : c = d
    · exact hc ▸ List.mem_cons_self
    · have hmem : d ∈ cs := (List.mem_cons.1 h).resolve_left (Ne.symm hc)
      refine List.mem_cons_of_mem c (List.mem_filter.2 ⟨?_, ?_⟩)
      · exact ih hmem fun e he => hd e (List.mem_cons_of_mem c he)
      · have hne : d.offset ≠ c.offset := fun ho => hc (hd c List.mem_cons_self ho.symm)
        simpa using hne

theorem mem_chain {step : Cursor → List Cursor} (hstep : Leads step) {cs : List Cursor}
    (hcs : ∀ f ∈ cs, ∃ w, c.Reaches w f) (he : e ∈ cs) (hd : d ∈ step e) : d ∈ chain step cs := by
  have hleads : ∀ f ∈ cs.flatMap step, ∃ w, c.Reaches w f := by
    intro f hf
    obtain ⟨g, hg, hf⟩ := List.mem_flatMap.1 hf
    obtain ⟨v, hv⟩ := hcs g hg
    obtain ⟨w, hw⟩ := hstep g f hf
    exact ⟨v ++ w, hv.trans hw⟩
  have hmem : d ∈ cs.flatMap step := List.mem_flatMap.2 ⟨e, he, hd⟩
  obtain ⟨w, hw⟩ := hleads d hmem
  have hdistinct : d ∈ distinct (cs.flatMap step) := mem_distinct hmem fun f hf ho => by
    obtain ⟨v, hv⟩ := hleads f hf
    exact hv.eq_of_offset_eq hw ho
  -- One position alone is followed without looking at offsets.
  rw [chain.eq_def]
  split
  · rename_i b
    obtain rfl := List.mem_singleton.1 he
    exact hd
  · exact hdistinct

theorem mem_ends_seq (hr : e ∈ r.ends c) (hs : d ∈ s.ends e) : d ∈ (seq r s).ends c :=
  mem_chain (leads_ends s) (leads_ends r c) hr hs

theorem mem_ends_sequence {rs : List Regex} (hr : e ∈ r.ends c) (hs : d ∈ (sequence rs).ends e) :
    d ∈ (sequence (r :: rs)).ends c := by
  cases rs with
  | nil =>
    obtain rfl := List.mem_singleton.1 hs
    exact hr
  | cons q qs => exact mem_ends_seq hr hs

theorem mem_ends_sequence_append {rs qs : List Regex} (hrs : e ∈ (sequence rs).ends c)
    (hqs : d ∈ (sequence qs).ends e) : d ∈ (sequence (rs ++ qs)).ends c := by
  induction rs generalizing c with
  | nil =>
    obtain rfl := List.mem_singleton.1 hrs
    exact hqs
  | cons r rs ih =>
    obtain ⟨f, hf, hrs⟩ := exists_of_mem_ends_sequence hrs
    exact mem_ends_sequence hf (ih hrs)

theorem mem_ends_optional_of_eq (r : Regex) (c : Cursor) : c ∈ (optional r).ends c := by
  refine mem_distinct (List.mem_append_right _ (List.mem_singleton_self c)) fun e he ho => ?_
  rcases List.mem_append.1 he with he | he
  · obtain ⟨w, hw⟩ := leads_ends r c e he
    exact hw.eq_of_offset_eq (.refl c) ho
  · exact List.mem_singleton.1 he

theorem mem_ends_optional_of_mem (h : d ∈ r.ends c) : d ∈ (optional r).ends c := by
  obtain ⟨v, hv⟩ := leads_ends r c d h
  refine mem_distinct (List.mem_append_left _ h) fun e he ho => ?_
  rcases List.mem_append.1 he with he | he
  · obtain ⟨w, hw⟩ := leads_ends r c e he
    exact hw.eq_of_offset_eq hv ho
  · obtain rfl := List.mem_singleton.1 he
    exact (Reaches.refl e).eq_of_offset_eq hv ho

theorem ends_set {x : Char} (hx : t.contains x = true) (h : c.Reaches [x] d) :
    (set t).ends c = [d] := by
  rw [ends, next?_eq_some_iff.2 h]
  exact if_pos hx

theorem mem_ends_look_of_holds {l : Look} (h : l.holds c = true) : c ∈ (look l).ends c := by
  rw [ends, if_pos h]
  exact List.mem_singleton_self c

theorem ends_literal (h : c.Reaches w d) : (literal w).ends c = [d] := by
  induction w generalizing c with
  | nil => exact congrArg (fun e => [e]) ((Reaches.refl c).unique h)
  | cons x w ih =>
    obtain ⟨e, he, hd⟩ := h.exists_of_cons
    have hset : (set (.single x)).ends c = [e] := ends_set (CharSet.contains_single.2 rfl) he
    cases w with
    | nil =>
      obtain rfl := (Reaches.refl e).unique hd
      exact hset
    | cons y w =>
      have hseq : (literal (x :: y :: w)).ends c
          = chain (literal (y :: w)).ends ((set (.single x)).ends c) := rfl
      rw [hseq, hset]
      exact ih hd

theorem mem_ends_set {x : Char} (hx : t.contains x = true) (h : c.Reaches [x] d) :
    d ∈ (set t).ends c :=
  ends_set hx h ▸ List.mem_singleton_self d

theorem mem_ends_literal (h : c.Reaches w d) : d ∈ (literal w).ends c :=
  ends_literal h ▸ List.mem_singleton_self d

theorem mem_runFrom_of_mem {fuel : Nat} {found : List Cursor} (h : d ∈ found) :
    d ∈ runFrom t fuel c found := by
  induction fuel generalizing c found with
  | zero => exact List.mem_cons_of_mem c h
  | succ fuel ih =>
    have hc : d ∈ c :: found := List.mem_cons_of_mem c h
    rw [runFrom]
    split
    · split
      · exact ih hc
      · exact hc
    · exact hc

theorem mem_runFrom {fuel : Nat} {found : List Cursor} (hw : ∀ x ∈ w, t.contains x = true)
    (h : c.Reaches w d) (hfuel : w.length ≤ fuel) : d ∈ runFrom t fuel c found := by
  induction fuel generalizing c w found with
  | zero =>
    obtain rfl : w = [] := List.length_eq_zero_iff.1 (Nat.le_zero.1 hfuel)
    obtain rfl := (Reaches.refl c).unique h
    exact List.mem_cons_self
  | succ fuel ih =>
    cases w with
    | nil =>
      obtain rfl := (Reaches.refl c).unique h
      rw [runFrom]
      split
      · split
        · exact mem_runFrom_of_mem List.mem_cons_self
        · exact List.mem_cons_self
      · exact List.mem_cons_self
    | cons x w =>
      obtain ⟨e, he, hd⟩ := h.exists_of_cons
      rw [runFrom, next?_eq_some_iff.2 he]
      simp only [if_pos (hw x List.mem_cons_self)]
      exact ih (fun y hy => hw y (List.mem_cons_of_mem x hy)) hd (Nat.le_of_succ_le_succ hfuel)

theorem mem_ends_zeroOrMore (hw : ∀ x ∈ w, t.contains x = true) (h : c.Reaches w d) :
    d ∈ (zeroOrMore t).ends c :=
  mem_runFrom hw h (by rw [h.length_eq]; exact Nat.le_add_right _ _)

/-! ### The longest run comes first -/

theorem head?_runFrom {fuel : Nat} {found : List Cursor} (hw : ∀ x ∈ w, t.contains x = true)
    (h : c.Reaches w d) (hd : ∀ x ∈ d.after.head?, t.contains x = false)
    (hfuel : w.length ≤ fuel) : (runFrom t fuel c found).head? = some d := by
  induction fuel generalizing c w found with
  | zero =>
    obtain rfl : w = [] := List.length_eq_zero_iff.1 (Nat.le_zero.1 hfuel)
    obtain rfl := (Reaches.refl c).unique h
    rfl
  | succ fuel ih =>
    cases w with
    | nil =>
      obtain rfl := (Reaches.refl c).unique h
      -- The run cannot go on at `d`, because the next character is of another class.
      rw [runFrom]
      split
      · rename_i x e hx
        have hx : c.after = x :: e.after := (next?_eq_some_iff.1 hx).after
        rw [if_neg (by rw [hd x (by rw [hx]; rfl)]; exact Bool.false_ne_true)]
        rfl
      · rfl
    | cons x w =>
      obtain ⟨e, he, hed⟩ := h.exists_of_cons
      rw [runFrom, next?_eq_some_iff.2 he]
      simp only [if_pos (hw x List.mem_cons_self)]
      exact ih (fun y hy => hw y (List.mem_cons_of_mem x hy)) hed (Nat.le_of_succ_le_succ hfuel)

/-- The first end of a run lies behind all its characters. -/
theorem head?_ends_oneOrMore (hne : w ≠ []) (hw : ∀ x ∈ w, t.contains x = true)
    (h : c.Reaches w d) (hd : ∀ x ∈ d.after.head?, t.contains x = false) :
    ((oneOrMore t).ends c).head? = some d := by
  obtain ⟨x, w, rfl⟩ := List.exists_cons_of_ne_nil hne
  obtain ⟨e, he, hed⟩ := h.exists_of_cons
  have hseq : (oneOrMore t).ends c = chain (run t true).ends ((set t).ends c) := rfl
  rw [hseq, ends_set (hw x List.mem_cons_self) he]
  exact head?_runFrom (fun y hy => hw y (List.mem_cons_of_mem x hy)) hed hd
    (by rw [hed.length_eq]; exact Nat.le_add_right _ _)

theorem mem_ends_oneOrMore (hne : w ≠ []) (hw : ∀ x ∈ w, t.contains x = true)
    (h : c.Reaches w d) : d ∈ (oneOrMore t).ends c := by
  obtain ⟨x, w, rfl⟩ := List.exists_cons_of_ne_nil hne
  obtain ⟨e, he, hed⟩ := h.exists_of_cons
  exact mem_ends_seq (mem_ends_set (hw x List.mem_cons_self) he)
    (mem_ends_zeroOrMore (fun y hy => hw y (List.mem_cons_of_mem x hy)) hed)

end Regex

namespace Template

variable {t : Template} {b c d e : Cursor}

/-- Matches of the parts one behind the other make a match. -/
theorem exists_match? (hlead : b ∈ t.lead.ends c) (hbody : d ∈ t.body.ends b)
    (htrail : e ∈ t.trail.ends d) : ∃ m, t.match? c = some m := by
  obtain ⟨stop, hstop⟩ : ∃ stop, (t.trail.ends d).head? = some stop := by
    obtain ⟨stop, rest, hends⟩ := List.exists_cons_of_ne_nil (List.ne_nil_of_mem htrail)
    exact ⟨stop, by rw [hends, List.head?_cons]⟩
  refine Option.isSome_iff_exists.1 (List.findSome?_isSome_iff.2 ⟨b, hlead, ?_⟩)
  exact List.findSome?_isSome_iff.2 ⟨d, hbody, by rw [hstop]; rfl⟩

/-- The first end of the body is kept if the trail has a match behind it. -/
theorem exists_match?_of_head (hlead : t.lead.ends c = [b])
    (hbody : (t.body.ends b).head? = some d) (htrail : e ∈ t.trail.ends d) :
    ∃ stop, t.match? c = some { start := c, bodyStart := b, bodyStop := d, stop } := by
  obtain ⟨stop, rest, hends⟩ := List.exists_cons_of_ne_nil (List.ne_nil_of_mem htrail)
  obtain ⟨bodies, hbodies⟩ : ∃ bodies, t.body.ends b = d :: bodies := by
    cases hb : t.body.ends b with
    | nil => rw [hb] at hbody; cases hbody
    | cons f fs =>
      rw [hb] at hbody
      exact ⟨fs, by rw [Option.some.inj hbody]⟩
  exact ⟨stop, by simp [match?, hlead, hbodies, hends]⟩

/-! ### All matches -/

theorem progresses_match? (ht : t.Consumes) :
    Progresses fun c => (t.match? c).map fun m => (m, m.stop) :=
  progresses_map ht fun _ m => m

theorem tells_match? (t : Template) :
    Tells (fun c => (t.match? c).map fun m => (m, m.stop)) Capture.start Capture.stop := by
  intro c m d h
  obtain ⟨m, hm, heq⟩ := Option.map_eq_some_iff.1 h
  obtain ⟨rfl, rfl⟩ := Prod.mk.inj heq
  exact ⟨(exists_of_match? hm).1, rfl⟩

/-- The matches of a text lie one behind the other. -/
theorem pairwise_stop_all (ht : t.Consumes) (text : List Char) :
    (t.all text).Pairwise fun m n => m.stop.offset ≤ n.start.offset :=
  pairwise_scan (progresses_match? ht) (tells_match? t) (.start text)

/-- None of the matches of a text is empty. -/
theorem pairwise_all (ht : t.Consumes) (text : List Char) :
    (t.all text).Pairwise fun m n => m.start.offset < n.start.offset := by
  refine List.Pairwise.imp_of_mem (fun {m n} hm _ hle => ?_) (pairwise_stop_all ht text)
  obtain ⟨before, -, hmatch⟩ := match?_of_mem_all ht hm
  obtain ⟨w, hw, hreach⟩ := ht _ _ hmatch
  exact Nat.lt_of_lt_of_le (hreach.offset_lt hw) hle

/-- A match at some position is one of the matches of the text, unless it begins inside
    another one. -/
theorem exists_mem_all (ht : t.Consumes) {text before : List Char} {m : Capture}
    (hc : (start text).Reaches before c) (h : t.match? c = some m) :
    ∃ n ∈ t.all text,
      n.start = c ∨ n.start.offset < c.offset ∧ c.offset < n.stop.offset :=
  exists_mem_scan (progresses_match? ht) (tells_match? t) (e := m.stop) hc (by rw [h]; rfl)

theorem isMatch_iff {text : List Char} :
    t.isMatch text = true ↔ ∃ before c, (Cursor.start text).Reaches before c
      ∧ ∃ m, t.match? c = some m := by
  rw [isMatch, Option.isSome_iff_exists]
  constructor
  · rintro ⟨c, hc⟩
    obtain ⟨hmatch, before, hbefore⟩ := seek_eq_some hc
    exact ⟨before, c, hbefore, Option.isSome_iff_exists.1 hmatch⟩
  · rintro ⟨before, c, hbefore, hmatch⟩
    exact exists_seek (fun c => (t.match? c).isSome) hbefore (Option.isSome_iff_exists.2 hmatch)

/-- Where there are matches, the text has a match. -/
theorem isMatch_of_mem_all (ht : t.Consumes) {text : List Char} {m : Capture}
    (h : m ∈ t.all text) : t.isMatch text = true :=
  let ⟨before, hbefore, hmatch⟩ := match?_of_mem_all ht h
  isMatch_iff.2 ⟨before, m.start, hbefore, m, hmatch⟩

/-- The test for a match and the search for all matches agree. -/
theorem all_ne_nil_iff (ht : t.Consumes) {text : List Char} :
    t.all text ≠ [] ↔ t.isMatch text = true := by
  constructor
  · intro h
    obtain ⟨m, hm⟩ := List.exists_mem_of_ne_nil _ h
    exact isMatch_of_mem_all ht hm
  · intro h
    obtain ⟨before, c, hbefore, m, hm⟩ := isMatch_iff.1 h
    -- The match itself may lie inside an earlier one, which is found then.
    obtain ⟨n, hn, -⟩ := exists_mem_all ht hbefore hm
    exact List.ne_nil_of_mem hn

/-- A match at the start of a text is the first one that the search takes. -/
theorem mem_all_of_match?_start (ht : t.Consumes) {text : List Char} {m : Capture}
    (h : t.match? (.start text) = some m) : m ∈ t.all text := by
  have hscan : t.all text = m :: m.stop.scan fun c => (t.match? c).map fun m => (m, m.stop) :=
    scan_eq_of_some (progresses_match? ht) (by rw [h]; rfl)
  exact hscan ▸ List.mem_cons_self

end Template

end CatalogAudit
