import CatalogAudit.Proofs.Source.DistinctPlaces
import Mathlib.Data.List.DropRight

/-!
# Wrappers and what they wrap

A template literal may wrap a call in an interpolation, and then the string of
the call is the one to translate, not the payload with the interpolation in it. The
payload is left out when an interpolation holds a bare call: without white space
around it and without the receiver. Of any other interpolation of a call the payload
is recorded, and the call strategy records the call in it.

* `Call.Wraps`: a payload with a call as the whole of an interpolation.
* `Call.isCall_iff`, `Call.isMatch_interpolations_iff`: what the two patterns match.
* `Extraction.recordsWhole_iff`: when a payload is recorded.
* `Extraction.recordsWhole_iff_not_bare`: then it wraps no bare call.
-/

namespace CatalogAudit

namespace Call

/-- A text without the white space around it. -/
def trimmed (text : List Char) : List Char :=
  (text.dropWhile Unicode.isWhiteSpace).rdropWhile Unicode.isWhiteSpace

/-- The whole text is a call that the pattern for calls finds. -/
def IsCall (function : String) (text : List Char) : Prop :=
  ∃ m ∈ (calls function).all text, m.start.before = [] ∧ m.stop.after = []

/-- An interpolation of an expression. -/
def wrapped (expression : List Char) : List Char :=
  "$\x7b".toList ++ (expression ++ "\x7d".toList)

/-- A payload with an interpolation that holds a call and nothing else but white
    space. -/
structure Wraps (function : String) (payload expression : List Char) : Prop where
  isInfix : wrapped expression <:+: payload
  isCall : IsCall function (trimmed expression)

/-- An expression without white space around it and without the receiver. -/
structure IsBare (expression : List Char) : Prop where
  trimmed_eq : trimmed expression = expression
  not_this : ¬"this.".toList <+: expression

variable {function : String} {text : List Char} {a : Argument}

/-! ### What the patterns match -/

/-- The pattern for calls finds a whole text exactly if it is written as a call. -/
theorem isCall_iff (hf : isIdentifier function = true) :
    IsCall function text
      ↔ ∃ receiver ∈ receivers, ∃ a : Argument, text = callText receiver function.toList a := by
  constructor
  · rintro ⟨m, hm, hstart, hstop⟩
    obtain ⟨before, hbefore, hmatch⟩ := Template.match?_of_mem_all consumes_calls hm
    obtain ⟨receiver, hreceiver, a, ha, -⟩ := exists_call hmatch
    obtain rfl : before = [] := by simpa [hstart, Cursor.start] using hbefore.before
    refine ⟨receiver, hreceiver, a, ?_⟩
    rw [hbefore.eq_append, ha.after, hstop, List.nil_append, List.append_nil]
  · rintro ⟨receiver, hreceiver, a, rfl⟩
    obtain ⟨d, hd, hafter⟩ := Cursor.Reaches.exists_of_after
      (c := .start (callText receiver function.toList a)) (List.append_nil _).symm
    obtain ⟨m, hm, hstart, hstop, -⟩ := exists_match? hf hreceiver (by simp [Cursor.start,
      Cursor.previous?]) hd
    exact ⟨m, Template.mem_all_of_match?_start consumes_calls hm, by rw [hstart]; rfl,
      by rw [hstop, hafter]⟩

/-- The pattern for interpolations matches somewhere exactly if an interpolation
    of a call stands in the text. -/
theorem isMatch_interpolations_iff :
    (interpolations function).isMatch text = true
      ↔ ∃ a : Argument, interpolationText function.toList a <:+: text := by
  rw [Template.isMatch_iff]
  constructor
  · rintro ⟨before, c, hbefore, m, hm⟩
    obtain ⟨a, ha, -⟩ := exists_interpolation hm
    refine ⟨a, before, m.stop.after, ?_⟩
    rw [hbefore.eq_append, ha.after, List.append_assoc]
  · rintro ⟨a, before, rest, htext⟩
    obtain ⟨c, d, hc, hd⟩ := Cursor.exists_reaches ⟨rest, htext⟩
    exact ⟨before, c, hc, exists_match?_of_interpolation hd⟩

theorem interpolationText_eq (function : List Char) (a : Argument) :
    interpolationText function a = wrapped (callText [] function a) := by
  rw [interpolationText, wrapped, callText, List.nil_append, List.append_assoc]

/-! ### Bare calls -/

/-- Nothing is trimmed off a text that neither begins nor ends with white space. -/
theorem trimmed_eq_self (hfirst : ∀ x ∈ text.head?, Unicode.isWhiteSpace x = false)
    (hlast : ∀ x ∈ text.getLast?, Unicode.isWhiteSpace x = false) : trimmed text = text := by
  have hfront : text.dropWhile Unicode.isWhiteSpace = text := by
    cases text with
    | nil => rfl
    | cons x rest =>
      exact List.dropWhile_cons_of_neg (Bool.eq_false_iff.1 (hfirst x rfl))
  rw [trimmed, hfront, List.rdropWhile_eq_self_iff]
  intro hne
  exact Bool.eq_false_iff.1 (hlast _ (List.getLast?_eq_getLast_of_ne_nil hne))

/-- A call without the receiver is bare. -/
theorem isBare_callText (hf : isIdentifier function = true) (a : Argument) :
    IsBare (callText [] function.toList a) := by
  have hdot : '.' ∉ function.toList := notMem_of_isIdentifier hf (by decide)
  refine ⟨trimmed_eq_self (fun x hx => ?_) fun x hx => ?_, ?_⟩
  · -- The call begins with the first character of the name.
    obtain ⟨y, rest, hname, -⟩ := exists_cons_of_isIdentifier hf
    obtain rfl : y = x := by simpa [callText, hname] using hx
    exact isWhiteSpace_eq_false_of_mem hf (by simp [hname])
  · -- It ends with the parenthesis.
    have hclosed : callText [] function.toList a = (function.toList ++ (a.blanksBefore ++ (['(']
        ++ (a.blanksInFront ++ ([a.openingQuote] ++ (a.literal ++ ([a.closingQuote]
          ++ a.blanksBehind))))))) ++ [')'] := by
      simp [callText, Argument.text]
    rw [hclosed, List.getLast?_concat] at hx
    obtain rfl := Option.some.inj hx
    exact Bool.eq_false_iff.2 (not_isWhiteSpace (by decide))
  · have hprefix := not_this_isPrefix (a := a) (u := []) hdot
    rwa [List.append_nil] at hprefix

/-- Every bare call is written without the receiver. -/
theorem exists_of_isBare (hf : isIdentifier function = true) {expression : List Char}
    (hcall : IsCall function (trimmed expression)) (hbare : IsBare expression) :
    ∃ a : Argument, expression = callText [] function.toList a := by
  rw [hbare.trimmed_eq] at hcall
  obtain ⟨receiver, hreceiver, a, rfl⟩ := (isCall_iff hf).1 hcall
  simp only [receivers, List.mem_cons, List.not_mem_nil, or_false] at hreceiver
  rcases hreceiver with rfl | rfl
  · exact ⟨a, rfl⟩
  · exact absurd (List.prefix_append _ _) hbare.not_this

/-- The pattern for interpolations finds exactly the bare calls that are wrapped. -/
theorem isMatch_interpolations_iff_wraps (hf : isIdentifier function = true) {payload : List Char} :
    (interpolations function).isMatch payload = true
      ↔ ∃ expression, Wraps function payload expression ∧ IsBare expression := by
  rw [isMatch_interpolations_iff]
  constructor
  · rintro ⟨a, ha⟩
    have hbare := isBare_callText hf a
    refine ⟨callText [] function.toList a, ⟨interpolationText_eq function.toList a ▸ ha, ?_⟩, hbare⟩
    rw [hbare.trimmed_eq]
    exact (isCall_iff hf).2 ⟨[], by simp [receivers], a, rfl⟩
  · rintro ⟨expression, ⟨hwithin, hcall⟩, hbare⟩
    obtain ⟨a, rfl⟩ := exists_of_isBare hf hcall hbare
    exact ⟨a, interpolationText_eq function.toList a ▸ hwithin⟩

end Call

namespace Extraction

variable {markers : Markers} {file : SourceFile} {e : Element}

/-- The third strategy records the payload of an element, at the place of its opening
    tag. -/
def RecordsWhole (markers : Markers) (file : SourceFile) (e : Element) : Prop :=
  ∃ place, (Stripped.script file.content.toList).place? (.ofText file.content.toList)
      e.start.offset = some place
    ∧ (String.ofList e.payload, { file := file.path, place }) ∈ embeddedRecords markers file

variable {text : List Char}

/-- Of two elements of a text one lies behind the other. -/
theorem stop_le_or_of_ne {medium : Medium} {marker : String} {f : Element}
    (he : e ∈ Marker.elements medium marker text) (hf : f ∈ Marker.elements medium marker text)
    (hne : e ≠ f) : e.stop.offset ≤ f.start.offset ∨ f.stop.offset ≤ e.start.offset := by
  have hpairwise := List.pairwise_iff_getElem.1 (Marker.pairwise_elements medium marker text)
  obtain ⟨i, hi, rfl⟩ := List.getElem_of_mem he
  obtain ⟨j, hj, rfl⟩ := List.getElem_of_mem hf
  rcases Nat.lt_trichotomy i j with hlt | rfl | hlt
  · exact .inl (hpairwise i j hi hj hlt)
  · exact absurd rfl hne
  · exact .inr (hpairwise j i hj hi hlt)

/-- What is found where an element begins is its payload, and there is no
    interpolation in it. -/
theorem isString_and_isMatch_of_offset_eq (he : e ∈ Marker.elements .script markers.markerClass text)
    {f : StringFind} (hf : f ∈ embeddedFinds markers text) (hoffset : f.offset = e.start.offset) :
    isString e.payload = true ∧ ¬(Call.interpolations markers.function).isMatch e.payload = true := by
  obtain ⟨e', he', hmem⟩ := List.mem_flatMap.1 hf
  obtain ⟨he', hstring⟩ := List.mem_filter.1 he'
  obtain ⟨hle, hlt⟩ := offset_bounds_of_mem_elementFinds he' hmem
  obtain rfl : e = e' := by
    by_contra hne
    have hown := start_lt_stop he
    rcases stop_le_or_of_ne he he' hne with h | h
    · omega
    · omega
  refine ⟨hstring, fun hmatch => ?_⟩
  -- The strings of interpolations are found behind the opening tag.
  rw [elementFinds, if_pos hmatch] at hmem
  obtain ⟨g, -, rfl⟩ := List.mem_map.1 hmem
  obtain ⟨before, tag, -, htag, -, -⟩ := Marker.exists_of_mem_elements he
  have := htag.offset_lt (by simp [OpeningTag.text])
  simp only at hoffset
  omega

theorem payload_mem_embeddedFinds (he : e ∈ Marker.elements .script markers.markerClass text)
    (hstring : isString e.payload = true)
    (hmatch : ¬(Call.interpolations markers.function).isMatch e.payload = true) :
    { offset := e.start.offset, text := e.payload } ∈ embeddedFinds markers text := by
  refine List.mem_flatMap.2 ⟨e, List.mem_filter.2 ⟨he, hstring⟩, ?_⟩
  rw [elementFinds, if_neg hmatch]
  exact List.mem_append_right _ (List.mem_singleton_self _)

section Element

variable (he : e ∈ Marker.elements .script markers.markerClass
  (Stripped.script file.content.toList).text)

include he

/-- A payload is recorded exactly if it is a string to translate and the pattern for
    interpolations does not match in it. -/
theorem recordsWhole_iff :
    RecordsWhole markers file e ↔ isString e.payload = true
      ∧ ¬(Call.interpolations markers.function).isMatch e.payload = true := by
  have hs := Stripped.letters_script_sublist file.content.toList
  obtain ⟨tag, htag⟩ := exists_element_standsAt he
  have hne := element_ne_nil tag e.payload
  constructor
  · rintro ⟨place, hplace, hrecord⟩
    -- The record comes from a find at the same place, and so at the same offset.
    obtain ⟨f, hf, -, -, hplace'⟩ := exists_find_of_mem_records hrecord
    obtain ⟨form, -, hform, hstands⟩ := embeddedForm_of_mem hf
    exact isString_and_isMatch_of_offset_eq he hf
      (offset_eq_of_place?_eq hs hform hne hstands htag hplace' hplace)
  · rintro ⟨hstring, hmatch⟩
    obtain ⟨place, hplace, -⟩ := shows_of_standsAt hs hne htag
    exact ⟨place, hplace, List.mem_filterMap.2
      ⟨_, payload_mem_embeddedFinds he hstring hmatch, by rw [hplace]; rfl⟩⟩

/-- A payload is recorded exactly if it is a string to translate and wraps no bare
    call. So no call that the call strategy finds stands bare in an interpolation of a
    recorded payload. -/
theorem recordsWhole_iff_not_bare (hf : isIdentifier markers.function = true) :
    (RecordsWhole markers file e ↔ isString e.payload = true
        ∧ ∀ expression, Call.Wraps markers.function e.payload expression →
          ¬Call.IsBare expression)
      ∧ (RecordsWhole markers file e →
        ∀ m ∈ (Call.calls markers.function).all (Stripped.script file.content.toList).text,
          ∀ expression, Call.wrapped expression <:+: e.payload →
            Call.trimmed expression = m.start.upTo m.stop → ¬Call.IsBare expression) := by
  have hwhole : RecordsWhole markers file e ↔ isString e.payload = true
      ∧ ∀ expression, Call.Wraps markers.function e.payload expression →
        ¬Call.IsBare expression := by
    rw [recordsWhole_iff he, Call.isMatch_interpolations_iff_wraps hf]
    push Not
    rfl
  refine ⟨hwhole, fun hrecords m hm expression hwithin htext => ?_⟩
  -- What the call strategy finds is a call on its own, too.
  obtain ⟨before, -, hmatch⟩ := Template.match?_of_mem_all Call.consumes_calls hm
  obtain ⟨receiver, hreceiver, a, ha, -⟩ := Call.exists_call hmatch
  refine (hwhole.1 hrecords).2 expression ⟨hwithin, (Call.isCall_iff hf).2 ?_⟩
  exact ⟨receiver, hreceiver, a, htext.trans ha.upTo_eq⟩

end Element

def wrapperMarkers : Markers where
  markerClass := "m"
  function := "l"

/-- A template literal with a paragraph around an expression. -/
def wrapperScript (expression : String) : SourceFile where
  path := "app.js"
  content := "x = `<p class=\"m\">$\x7b" ++ expression ++ "\x7d</p>`"

/-- The payload around a bare call is left out. -/
theorem recordsWhole_iff_not_bare_saved :
    isIdentifier wrapperMarkers.function = true
      ∧ ∃ e ∈ Marker.elements .script wrapperMarkers.markerClass
          (Stripped.script (wrapperScript "l('Saved')").content.toList).text,
        e.payload = "$\x7bl('Saved')\x7d".toList
          ∧ ¬RecordsWhole wrapperMarkers (wrapperScript "l('Saved')") e := by
  have hf : isIdentifier wrapperMarkers.function = true := by decide +kernel
  have hany : (Marker.elements .script wrapperMarkers.markerClass
      (Stripped.script (wrapperScript "l('Saved')").content.toList).text).any
        (fun e => decide (e.payload = "$\x7bl('Saved')\x7d".toList)) = true := by decide +kernel
  obtain ⟨e, he, hpayload⟩ := List.any_eq_true.1 hany
  have hpayload := of_decide_eq_true hpayload
  have hwraps : Call.Wraps "l" "$\x7bl('Saved')\x7d".toList "l('Saved')".toList :=
    ⟨by decide +kernel, by unfold Call.IsCall; decide +kernel⟩
  have hbare : Call.IsBare "l('Saved')".toList := ⟨by decide +kernel, by decide +kernel⟩
  refine ⟨hf, e, he, hpayload, fun hrecords => ?_⟩
  obtain ⟨-, hnone⟩ := (recordsWhole_iff_not_bare he hf).1.1 hrecords
  exact hnone _ (hpayload ▸ hwraps) hbare

/-- With the receiver in front of the call, the payload is recorded next to the string
    that it wraps. -/
theorem wrapper_recorded_beside_wrapped :
    isIdentifier wrapperMarkers.function = true
      ∧ Call.Wraps "l" "$\x7bthis.l('Saved')\x7d".toList "this.l('Saved')".toList
      ∧ embeddedRecords wrapperMarkers (wrapperScript "this.l('Saved')")
        = [("$\x7bthis.l('Saved')\x7d", { file := "app.js", place := ⟨1, 6⟩ })]
      ∧ callRecords wrapperMarkers (wrapperScript "this.l('Saved')")
        = [("Saved", { file := "app.js", place := ⟨1, 21⟩ })] :=
  ⟨by decide +kernel, ⟨by decide +kernel, by unfold Call.IsCall; decide +kernel⟩,
    by decide +kernel, by decide +kernel⟩

end Extraction

end CatalogAudit
