import CatalogAudit.Proofs.Source.Form
import CatalogAudit.Proofs.Text.Scan
import Mathlib.Data.List.Infix

/-!
# All marked elements of a text

An opening tag may lack a closing tag, and a marked element may stand inside
another one or overlap it. The search takes what comes first: it finds elements
that lie one behind the other, and every opening tag with a closing tag begins
an element that is found or stands inside of one.

* `Marks`: what holds of an element that is found, told without the search.
* `marks_of_element?`, `exists_element?`: the search at one position.
* `pairwise_elements`, `elements_sound_and_complete`: the elements of a text.
-/

namespace CatalogAudit.Marker

variable {medium : Medium} {marker : String}

/-- An element with the match `m` of its opening tag. The match is the preferred
    one of those that begin where the element begins, and the payload runs up to
    the first closing tag of the name that is matched. -/
structure Marks (medium : Medium) (marker : String) (e : Element) (m : Capture) : Prop where
  match?_eq : (openingTag medium marker).match? e.start = some m
  payloadStart_eq : e.payloadStart = m.stop
  payload_reaches : e.payloadStart.Reaches e.payload e.payloadStop
  closing_reaches : e.payloadStop.Reaches (closingTag m.body) e.stop
  /-- No closing tag of this name begins before the payload ends. -/
  first : ∀ v c, e.payloadStart.Reaches v c → closingTag m.body <+: c.after →
    e.payloadStop.offset ≤ c.offset

/-- The name of the tag that is matched is not empty. -/
theorem name_ne_nil {c : Cursor} {m : Capture}
    (h : (openingTag medium marker).match? c = some m) : m.body ≠ [] := by
  obtain ⟨tag, -, hname⟩ := exists_openingTag h
  exact hname ▸ tag.name_ne_nil

/-- The closing tag does not stand within the payload. -/
theorem Marks.not_infix {e : Element} {m : Capture} (h : Marks medium marker e m) :
    ¬closingTag m.body <:+: e.payload := by
  rintro ⟨v, u, hpayload⟩
  have hafter : e.payloadStart.after = v ++ (closingTag m.body ++ (u ++ e.payloadStop.after)) := by
    rw [h.payload_reaches.after, ← hpayload]
    simp
  obtain ⟨c, hc, ha⟩ := Cursor.Reaches.exists_of_after hafter
  -- It would begin before the payload ends.
  have hle := h.first v c hc ⟨_, ha.symm⟩
  have hclosing : 0 < byteLength (closingTag m.body) := byteLength_pos (by simp [closingTag])
  rw [h.payload_reaches.offset_eq, hc.offset_eq, ← hpayload, byteLength_append,
    byteLength_append] at hle
  omega

theorem marks_of_element? {c : Cursor} {e : Element}
    (h : element? (openingTag medium marker) c = some e) :
    e.start = c ∧ ∃ m, Marks medium marker e m := by
  rw [element?] at h
  split at h
  · rename_i m hm
    obtain ⟨⟨payloadStop, stop⟩, hfound, rfl⟩ := Option.map_eq_some_iff.1 h
    obtain ⟨⟨w, hw⟩, hclosing⟩ := Cursor.find?_eq_some hfound
    refine ⟨rfl, m, hm, rfl, ?_, hclosing, fun v d hd => Cursor.offset_le_of_find? hfound hd⟩
    rw [Element.payload, hw.upTo_eq]
    exact hw
  · cases h

/-- An opening tag with a closing tag somewhere behind it begins an element. -/
theorem exists_element? {c : Cursor} {m : Capture}
    (hm : (openingTag medium marker).match? c = some m)
    (hclosing : closingTag m.body <:+: m.stop.after) :
    ∃ e, element? (openingTag medium marker) c = some e := by
  obtain ⟨payloadStop, stop, hfound⟩ := Cursor.exists_find? hclosing
  exact ⟨{ start := c, payloadStart := m.stop, payloadStop, stop }, by simp [element?, hm, hfound]⟩

/-- What the scan for elements recognises at a position, with the position
    behind it. -/
theorem progresses_element? : Cursor.Progresses fun c =>
    (element? (openingTag medium marker) c).map fun e => (e, e.stop) :=
  Cursor.progresses_map consumes_element? fun _ e => e

theorem tells_element? : Cursor.Tells
    (fun c => (element? (openingTag medium marker) c).map fun e => (e, e.stop))
    Element.start Element.stop := by
  intro c e d h
  obtain ⟨e', he, heq⟩ := Option.map_eq_some_iff.1 h
  obtain ⟨rfl, rfl⟩ := Prod.mk.inj heq
  exact ⟨(marks_of_element? he).1, rfl⟩

/-- Elements lie one behind the other. -/
theorem pairwise_elements (medium : Medium) (marker : String) (text : List Char) :
    (elements medium marker text).Pairwise fun e f => e.stop.offset ≤ f.start.offset :=
  Cursor.pairwise_scan progresses_element? tells_element? _

/-- The elements that are found are marked, they lie one behind the other, and
    every opening tag with a closing tag behind it begins one of them or stands
    inside of one. -/
theorem elements_sound_and_complete (medium : Medium) (marker : String) (text : List Char) :
    (∀ e ∈ elements medium marker text, (∃ before, (Cursor.start text).Reaches before e.start)
        ∧ ∃ m, Marks medium marker e m ∧ m.body ≠ [] ∧ ¬closingTag m.body <:+: e.payload)
      ∧ (elements medium marker text).Pairwise (fun e f => e.stop.offset ≤ f.start.offset)
      ∧ ∀ before c m, (Cursor.start text).Reaches before c →
        (openingTag medium marker).match? c = some m → closingTag m.body <:+: m.stop.after →
          ∃ e ∈ elements medium marker text,
            e.start = c ∨ e.start.offset < c.offset ∧ c.offset < e.stop.offset := by
  refine ⟨fun e he => ?_, pairwise_elements medium marker text,
    fun before c m hc hm hclosing => ?_⟩
  · obtain ⟨before, c, e, hc, hfound, rfl⟩ := Cursor.exists_of_mem_scan_map consumes_element? he
    obtain ⟨rfl, m, hmarks⟩ := marks_of_element? hfound
    exact ⟨⟨before, hc⟩, m, hmarks, name_ne_nil hmarks.match?_eq, hmarks.not_infix⟩
  · obtain ⟨e, he⟩ := exists_element? hm hclosing
    exact Cursor.exists_mem_scan progresses_element? tells_element? (e := e.stop) hc
      (Option.map_eq_some_iff.2 ⟨e, he, rfl⟩)

/-- A paragraph that is not closed, with a marked element in it. -/
def unclosedText : List Char :=
  "<p class=\"m\">a <b class=\"m\">x</b>".toList

/-- The position of the element in the paragraph. -/
def innerPosition : Cursor where
  before := "<p class=\"m\">a ".toList.reverse
  after := "<b class=\"m\">x</b>".toList
  offset := 15
  offset_eq := by decide +kernel

/-- The inner element is found although an opening tag without a closing tag
    comes first. -/
theorem elements_sound_and_complete_unclosed :
    ∃ before m, (Cursor.start unclosedText).Reaches before innerPosition
      ∧ (openingTag .markup "m").match? innerPosition = some m
      ∧ closingTag m.body <:+: m.stop.after
      ∧ ∃ e ∈ elements .markup "m" unclosedText, e.start = innerPosition
        ∨ e.start.offset < innerPosition.offset ∧ innerPosition.offset < e.stop.offset := by
  have hany : ((openingTag .markup "m").match? innerPosition).any
      (fun m => decide (closingTag m.body <:+: m.stop.after)) = true := by decide +kernel
  obtain ⟨m, hmatch, hclosing⟩ := (Option.any_eq_true _ _).1 hany
  have hclosing := of_decide_eq_true hclosing
  have hbefore : (Cursor.start unclosedText).Reaches "<p class=\"m\">a ".toList innerPosition :=
    ⟨by decide +kernel, by decide +kernel⟩
  exact ⟨_, m, hbefore, hmatch, hclosing,
    (elements_sound_and_complete .markup "m" unclosedText).2.2 _ _ _ hbefore hmatch hclosing⟩

end CatalogAudit.Marker
