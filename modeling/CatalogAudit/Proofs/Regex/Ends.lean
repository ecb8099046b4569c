import CatalogAudit.Proofs.Text.Position
import CatalogAudit.Regex.Capture

/-!
# What a match consumes

Each end of a match is reached from its start over a word, and the shape of
the expression says which words these are. The expressions here are those that
the fixed patterns are built from.

* `reaches_of_mem_ends_literal`, `reaches_of_mem_ends_zeroOrMore` and so on:
  the words of the building blocks.
* `exists_of_mem_ends_seq`: a match of a sequence passes a position between its
  parts.
* `exists_of_match?`: the parts of a match of a template.
* `match?_of_mem_all`: the matches that a search through a text gives.
-/

namespace CatalogAudit

namespace CharSet

/-- A set of one character has it and no other. -/
@[simp]
theorem contains_single {c x : Char} : (single c).contains x = true ↔ x = c := by
  constructor
  · intro h
    rw [single, contains, Bool.and_eq_true] at h
    have h₁ : c.toNat ≤ x.toNat := of_decide_eq_true h.1
    have h₂ : x.toNat ≤ c.toNat := of_decide_eq_true h.2
    exact Char.toNat_inj.1 (Nat.le_antisymm h₂ h₁)
  · rintro rfl
    simp [single, contains]

@[simp]
theorem contains_ofList {cs : List Char} {x : Char} : (ofList cs).contains x = true ↔ x ∈ cs := by
  induction cs with
  | nil => simp [ofList, contains]
  | cons c cs ih =>
    have hc : (ofList (c :: cs)).contains x = ((single c).contains x || (ofList cs).contains x) :=
      rfl
    rw [hc, Bool.or_eq_true, contains_single, ih, List.mem_cons]

/-- The complement of a list has all other characters. -/
@[simp]
theorem contains_except {cs : List Char} {x : Char} :
    (except cs).contains x = true ↔ x ∉ cs := by
  have hc : (except cs).contains x = !(ofList cs).contains x := rfl
  rw [hc, Bool.not_eq_true', ← Bool.not_eq_true, contains_ofList]

end CharSet

namespace Regex

variable {c d : Cursor} {r s : Regex} {t : CharSet}

theorem mem_of_mem_distinct {cs : List Cursor} (h : d ∈ distinct cs) : d ∈ cs := by
  induction cs with
  | nil => exact h
  | cons e cs ih =>
    rcases List.mem_cons.1 h with rfl | h
    · exact List.mem_cons_self
    · exact List.mem_cons_of_mem _ (ih (List.mem_filter.1 h).1)

/-- Each end of a chain is an end of its second part, from an end of the first. -/
theorem exists_of_mem_chain {step : Cursor → List Cursor} {cs : List Cursor}
    (h : d ∈ chain step cs) : ∃ e ∈ cs, d ∈ step e := by
  rw [chain.eq_def] at h
  split at h
  · exact ⟨_, List.mem_singleton_self _, h⟩
  · exact List.mem_flatMap.1 (mem_of_mem_distinct h)

theorem exists_of_mem_ends_seq (h : d ∈ (seq r s).ends c) : ∃ e ∈ r.ends c, d ∈ s.ends e :=
  exists_of_mem_chain h

/-- A match of a sequence passes a position behind the first part. -/
theorem exists_of_mem_ends_sequence {rs : List Regex} (h : d ∈ (sequence (r :: rs)).ends c) :
    ∃ e ∈ r.ends c, d ∈ (sequence rs).ends e := by
  cases rs with
  | nil => exact ⟨d, h, List.mem_singleton_self d⟩
  | cons q qs => exact exists_of_mem_ends_seq h

/-- A set consumes one of its characters. -/
theorem reaches_of_mem_ends_set (h : d ∈ (set t).ends c) :
    ∃ x, t.contains x = true ∧ c.Reaches [x] d := by
  rw [ends] at h
  split at h
  · rename_i x e hx
    split at h
    · rename_i ht
      obtain rfl := List.mem_singleton.1 h
      exact ⟨x, ht, Cursor.next?_eq_some_iff.1 hx⟩
    · cases h
  · cases h

/-- A condition consumes nothing, and it holds. -/
theorem mem_ends_look {l : Look} (h : d ∈ (look l).ends c) : d = c ∧ l.holds c = true := by
  rw [ends] at h
  split at h
  · rename_i hl
    exact ⟨List.mem_singleton.1 h, hl⟩
  · cases h

/-- A literal consumes its word. -/
theorem reaches_of_mem_ends_literal {word : List Char} (h : d ∈ (literal word).ends c) :
    c.Reaches word d := by
  induction word generalizing c with
  | nil =>
    obtain rfl := List.mem_singleton.1 h
    exact .refl d
  | cons x word ih =>
    cases word with
    | nil =>
      obtain ⟨y, hy, hc⟩ := reaches_of_mem_ends_set h
      rwa [CharSet.contains_single.1 hy] at hc
    | cons y word =>
      obtain ⟨e, he, hd⟩ := exists_of_mem_ends_seq h
      obtain ⟨z, hz, hc⟩ := reaches_of_mem_ends_set he
      rw [CharSet.contains_single.1 hz] at hc
      exact hc.trans (ih hd)

/-- A run may end where it begins. -/
theorem reaches_of_mem_cons {found : List Cursor} (h : d ∈ c :: found) :
    d ∈ found ∨ ∃ w, (∀ x ∈ w, t.contains x = true) ∧ c.Reaches w d := by
  rcases List.mem_cons.1 h with rfl | h
  · exact .inr ⟨[], by simp, .refl d⟩
  · exact .inl h

/-- A run from a position adds only positions that characters of the set lead to. -/
theorem reaches_of_mem_runFrom {fuel : Nat} {found : List Cursor}
    (h : d ∈ runFrom t fuel c found) :
    d ∈ found ∨ ∃ w, (∀ x ∈ w, t.contains x = true) ∧ c.Reaches w d := by
  induction fuel generalizing c found with
  | zero => exact reaches_of_mem_cons h
  | succ fuel ih =>
    rw [runFrom] at h
    split at h
    · rename_i x e hx
      split at h
      · rename_i ht
        rcases ih h with h | ⟨w, hw, he⟩
        · exact reaches_of_mem_cons h
        · exact .inr ⟨x :: w, by simpa [ht] using hw, (Cursor.next?_eq_some_iff.1 hx).trans he⟩
      · exact reaches_of_mem_cons h
    · exact reaches_of_mem_cons h

/-- A repetition consumes characters of its set. -/
theorem reaches_of_mem_ends_zeroOrMore (h : d ∈ (zeroOrMore t).ends c) :
    ∃ w, (∀ x ∈ w, t.contains x = true) ∧ c.Reaches w d := by
  rcases reaches_of_mem_runFrom (show d ∈ runFrom t c.after.length c [] from h) with h | h
  · cases h
  · exact h

/-- A repetition that must match consumes at least one of them. -/
theorem reaches_of_mem_ends_oneOrMore (h : d ∈ (oneOrMore t).ends c) :
    ∃ w, w ≠ [] ∧ (∀ x ∈ w, t.contains x = true) ∧ c.Reaches w d := by
  obtain ⟨e, he, hd⟩ := exists_of_mem_ends_seq h
  obtain ⟨x, hx, hc⟩ := reaches_of_mem_ends_set he
  obtain ⟨w, hw, he⟩ := reaches_of_mem_ends_zeroOrMore hd
  exact ⟨x :: w, List.cons_ne_nil x w, by simpa [hx] using hw, hc.trans he⟩

/-- An optional part is matched or passed over. -/
theorem mem_ends_optional (h : d ∈ (optional r).ends c) : d ∈ r.ends c ∨ d = c := by
  have h := mem_of_mem_distinct (show d ∈ distinct (r.ends c ++ empty.ends c) from h)
  rcases List.mem_append.1 h with h | h
  · exact .inl h
  · exact .inr (List.mem_singleton.1 h)

end Regex

namespace Template

/-- A match begins where it is looked for, and each of its parts is a match of
    its own. -/
theorem exists_of_match? {t : Template} {c : Cursor} {m : Capture} (h : t.match? c = some m) :
    m.start = c ∧ m.bodyStart ∈ t.lead.ends c ∧ m.bodyStop ∈ t.body.ends m.bodyStart
      ∧ m.stop ∈ t.trail.ends m.bodyStop := by
  obtain ⟨bodyStart, hl, h⟩ := List.exists_of_findSome?_eq_some h
  obtain ⟨bodyStop, hb, h⟩ := List.exists_of_findSome?_eq_some h
  obtain ⟨stop, hs, rfl⟩ := Option.map_eq_some_iff.1 h
  exact ⟨rfl, hl, hb, List.mem_of_mem_head? hs⟩

/-- No match of the template is empty. -/
def Consumes (t : Template) : Prop :=
  ∀ c m, t.match? c = some m → ∃ w, w ≠ [] ∧ c.Reaches w m.stop

/-- Every match of a text is a match at the position where it begins. -/
theorem match?_of_mem_all {t : Template} (ht : t.Consumes) {text : List Char} {m : Capture}
    (h : m ∈ t.all text) :
    ∃ before, (Cursor.start text).Reaches before m.start ∧ t.match? m.start = some m := by
  obtain ⟨before, c, m, hc, hm, rfl⟩ := Cursor.exists_of_mem_scan_map ht h
  obtain ⟨rfl, -⟩ := exists_of_match? hm
  exact ⟨before, hc, hm⟩

end Template

end CatalogAudit
