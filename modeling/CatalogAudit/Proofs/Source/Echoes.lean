import CatalogAudit.Proofs.Source.Calls

/-!
# Interpolations and the calls in them

An interpolation that is found holds a call, which begins two bytes further on. The brace in
front of the call is no word character, so the pattern for calls matches there as well, with
the same literal. The search for calls takes that match unless it has passed the place
within another call. So the interpolations that the third strategy records repeat strings
of the second one.

* `exists_match?_of_standsAt`: the pattern for calls matches within an interpolation.
* `Call.Echoes`: the call at an offset is found, or another call covers its beginning.
* `Call.echoes_of_standsAt`: the call of any interpolation that stands in a text.
* `Extraction.echoes_interpolations`: those that are found.
-/

namespace CatalogAudit

namespace Call

variable {function : String} {text : List Char} {a : Argument} {n : Nat}

/-- A call that is found begins in front of an offset of the text and ends behind it. -/
def Covers (function : String) (text : List Char) (offset : Nat) : Prop :=
  ∃ m ∈ (calls function).all text, m.start.offset < offset ∧ offset < m.stop.offset

/-- The call in an interpolation at an offset is found, two bytes further on and with the
    literal of the interpolation, or another call covers the place where it begins. -/
def Echoes (function : String) (text : List Char) (interpolation : Find) : Prop :=
  { interpolation with offset := interpolation.offset + 2 } ∈ finds (calls function) text
    ∨ Covers function text (interpolation.offset + 2)

/-- The pattern for calls matches behind the brace of an interpolation. -/
theorem exists_match?_of_standsAt (hf : isIdentifier function = true)
    (h : StandsAt text (interpolationText function.toList a) n) :
    ∃ before c m, (Cursor.start text).Reaches before c ∧ c.offset = n + 2
      ∧ (calls function).match? c = some m ∧ m.body = a.literal := by
  obtain ⟨before, hstands, rfl⟩ := h
  obtain ⟨b, d, hb, hd⟩ := Cursor.exists_reaches hstands
  rw [interpolationText, ← List.append_assoc function.toList] at hd
  obtain ⟨c, hc, hd⟩ := hd.exists_of_append
  obtain ⟨e, he, -⟩ := hd.exists_of_append
  have hbrace : c.previous? = some '\x7b' := by
    rw [Cursor.previous?, hc.before]
    rfl
  have hprevious : ∀ x ∈ c.previous?, Unicode.isWord x = false := by
    intro x hx
    obtain rfl := Option.some.inj (hbrace.symm.trans hx)
    decide +kernel
  have hreceiver : [] ∈ receivers := by simp [receivers]
  obtain ⟨m, hm, -, -, hbody⟩ := exists_match? hf hreceiver (fun _ => hprevious) he
  refine ⟨_, c, m, hb.trans hc, ?_, hm, hbody⟩
  rw [hc.offset_eq, hb.offset_of_start]
  rfl

/-- The call of an interpolation in a text is found, or another call covers it. -/
theorem echoes_of_standsAt (hf : isIdentifier function = true)
    (h : StandsAt text (interpolationText function.toList a) n) :
    Echoes function text { offset := n, literal := a.literal } := by
  obtain ⟨before, c, m, hc, hoffset, hm, hbody⟩ := exists_match?_of_standsAt hf h
  obtain ⟨k, hk, hstart | hcovers⟩ := Template.exists_mem_all consumes_calls hc hm
  · -- The search takes the match that there is at this position.
    obtain ⟨-, -, hmatch⟩ := Template.match?_of_mem_all consumes_calls hk
    rw [hstart, hm] at hmatch
    obtain rfl := Option.some.inj hmatch
    refine .inl (List.mem_map.2 ⟨m, hk, ?_⟩)
    rw [hstart, hoffset, hbody]
  · exact .inr ⟨k, hk, hoffset ▸ hcovers⟩

end Call

namespace Extraction

/-- The call in every interpolation that is found in a text is found as well, or another call
    covers its beginning. So what the third strategy finds in an element of a script is the
    payload, or the second strategy finds the same string two bytes further on, or a call
    of the second strategy covers the place. -/
theorem echoes_interpolations {function : String} (hf : isIdentifier function = true) :
    (∀ text, ∀ f ∈ Call.finds (Call.interpolations function) text, Call.Echoes function text f)
      ∧ ∀ marker text, ∀ e ∈ Marker.elements .script marker text,
        ∀ f ∈ elementFinds ⟨marker, function⟩ e,
          f = { offset := e.start.offset, text := e.payload }
            ∨ { f with offset := f.offset + 2 } ∈ callFinds ⟨marker, function⟩ text
            ∨ Call.Covers function text (f.offset + 2) := by
  refine ⟨fun text f h => ?_, fun marker text e he f h => ?_⟩
  · obtain ⟨a, ha, hstands⟩ := Call.exists_of_mem_interpolations h
    have hechoes := Call.echoes_of_standsAt hf hstands
    rwa [ha] at hechoes
  · rcases mem_elementFinds _ e h with ⟨g, hg, rfl⟩ | rfl
    · -- An interpolation of the payload stands in the text, behind the opening tag.
      obtain ⟨a, ha, hstands⟩ := Call.exists_of_mem_interpolations hg
      obtain ⟨before, tag, hstart, htag, hpayload, -⟩ := Marker.exists_of_mem_elements he
      rcases Call.echoes_of_standsAt hf (hstands.of_reaches (hstart.trans htag) hpayload) with
        hfound | hcovers
      · exact .inr (.inl (List.mem_map.2 ⟨_, hfound, by rw [ha]⟩))
      · exact .inr (.inr hcovers)
    · exact .inl rfl

/-- A paragraph with an interpolation in a template literal. -/
def interpolationScript : List Char :=
  "`<p class=\"m\">$\x7bl('Hi')\x7d</p>`".toList

/-- The string is found at the interpolation and two bytes further on. -/
theorem echoes_interpolations_paragraph :
    isIdentifier "l" = true
      ∧ Call.finds (Call.interpolations "l") interpolationScript = [⟨14, "Hi".toList⟩]
      ∧ Call.finds (Call.calls "l") interpolationScript = [⟨16, "Hi".toList⟩]
      ∧ Call.Echoes "l" interpolationScript ⟨14, "Hi".toList⟩ := by
  have hf : isIdentifier "l" = true := by decide +kernel
  have hfinds : Call.finds (Call.interpolations "l") interpolationScript
      = [⟨14, "Hi".toList⟩] := by decide +kernel
  exact ⟨hf, hfinds, by decide +kernel,
    (echoes_interpolations hf).1 _ _ (hfinds ▸ List.mem_singleton_self _)⟩

-- A call may cover an interpolation: here the quote that closes the one opens the other.
example :
    Call.finds (Call.interpolations "l") "l('$\x7bl(')x')\x7d".toList = [⟨3, ")x".toList⟩]
      ∧ Call.finds (Call.calls "l") "l('$\x7bl(')x')\x7d".toList = [⟨0, "$\x7bl(".toList⟩] := by
  decide +kernel

end Extraction

end CatalogAudit
