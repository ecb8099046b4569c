import Mathlib.Data.List.Basic

/-!
# Where texts split

A text that is written as several parts in a row may be read as other parts of
the same kind. The parts are the same when each of them ends at the first
character that it cannot contain.

* `split_cases`: two ways to split a text at a character.
* `split_unique`, `split_at_unique`: parts that end at the first character
  without a property, or at the first of one character.
* `split_last_unique`: parts that begin behind the last character without a
  property.
* `split_at_only`: parts that end at the only one of a character in a stretch.
-/

namespace CatalogAudit

variable {α : Type} {P : α → Prop} {a b z : α} {s t u v w : List α}

/-- A text splits in the same way twice, or one of the characters at which it
    splits stands in front of the other one. -/
theorem split_cases (h : s ++ a :: u = t ++ b :: v) :
    (s = t ∧ a = b ∧ u = v) ∨ (∃ r, t = s ++ a :: r ∧ u = r ++ b :: v)
      ∨ ∃ r, s = t ++ b :: r ∧ v = r ++ a :: u := by
  rcases List.append_eq_append_iff.1 h with ⟨r, rfl, hr⟩ | ⟨r, rfl, hr⟩
  · cases r with
    | nil => exact .inl (by simpa using hr)
    | cons x r =>
      obtain ⟨rfl, hu⟩ := List.cons.inj hr
      exact .inr (.inl ⟨r, rfl, hu⟩)
  · cases r with
    | nil => exact .inl (by simpa [eq_comm] using hr)
    | cons x r =>
      obtain ⟨rfl, hv⟩ := List.cons.inj hr
      exact .inr (.inr ⟨r, rfl, hv⟩)

/-- A stretch with a property ends where the property does. -/
theorem split_unique (hs : ∀ x ∈ s, P x) (ht : ∀ x ∈ t, P x) (ha : ¬P a) (hb : ¬P b)
    (h : s ++ a :: u = t ++ b :: v) : s = t ∧ a = b ∧ u = v := by
  rcases split_cases h with hsame | ⟨r, rfl, -⟩ | ⟨r, rfl, -⟩
  · exact hsame
  · exact absurd (ht a (List.mem_append_right s List.mem_cons_self)) ha
  · exact absurd (hs b (List.mem_append_right t List.mem_cons_self)) hb

theorem split_at_unique (hs : a ∉ s) (ht : a ∉ t) (h : s ++ a :: u = t ++ a :: v) :
    s = t ∧ u = v := by
  obtain ⟨hst, -, huv⟩ := split_unique (P := (· ≠ a)) (fun x hx he => hs (he ▸ hx))
    (fun x hx he => ht (he ▸ hx)) (by simp) (by simp) h
  exact ⟨hst, huv⟩

/-- A stretch with a property at the end begins where the property does. -/
theorem split_last_unique (hu : ∀ x ∈ u, P x) (hv : ∀ x ∈ v, P x) (ha : ¬P a) (hb : ¬P b)
    (h : s ++ a :: u = t ++ b :: v) : s = t ∧ a = b ∧ u = v := by
  have hreverse : u.reverse ++ a :: s.reverse = v.reverse ++ b :: t.reverse := by
    simpa using congrArg List.reverse h
  obtain ⟨huv, hab, hst⟩ := split_unique (fun x hx => hu x (List.mem_reverse.1 hx))
    (fun x hx => hv x (List.mem_reverse.1 hx)) ha hb hreverse
  exact ⟨List.reverse_inj.1 hst, hab, List.reverse_inj.1 huv⟩

/-- A stretch without `a` in front of a `b` and one without `b` in front of an
    `a` begin differently, unless the two are the same. -/
theorem eq_of_split (hs : a ∉ s) (ht : b ∉ t) (h : s ++ b :: u = t ++ a :: v) : a = b := by
  rcases split_cases h with ⟨-, hba, -⟩ | ⟨r, rfl, -⟩ | ⟨r, rfl, -⟩
  · exact hba.symm
  · exact absurd (List.mem_append_right s List.mem_cons_self) ht
  · exact absurd (List.mem_append_right t List.mem_cons_self) hs

/-- Where `a` stands only once in front of the first `z`, a part without `z` that
    ends at an `a` ends there. -/
theorem split_at_only (hs : z ∉ s) (ht : a ∉ t) (hw : a ∉ w) (hne : a ≠ z)
    (h : s ++ a :: u = t ++ a :: (w ++ z :: v)) : s = t ∧ u = w ++ z :: v := by
  rcases split_cases h with ⟨hst, -, hu⟩ | ⟨r, rfl, -⟩ | ⟨r, rfl, hrest⟩
  · exact ⟨hst, hu⟩
  · exact absurd (List.mem_append_right s List.mem_cons_self) ht
  · -- The rest of `s` would go on behind the only `a`, and so it would have to reach `z`.
    have hz : z ∉ r := fun hz => hs (List.mem_append_right t (List.mem_cons_of_mem _ hz))
    exact absurd (eq_of_split hw hz hrest) hne

end CatalogAudit
