import CatalogAudit.Proofs.Regex.Ends
import CatalogAudit.Source.Extraction

/-!
# How strings are written

What the searches for strings find is written in one of three forms: between
the tags of a marked element, as the argument of a call, or as the argument of
an interpolation. The forms are described here without the searches, and
whatever a search finds has its form at the offset that it gives.

* `OpeningTag` and `Call.Argument` describe the parts, with their conditions.
* `exists_of_mem_elements`: the marked elements of a text.
* `exists_of_mem_calls` and `exists_of_mem_interpolations`: the calls and the
  interpolations of a text.
-/

namespace CatalogAudit

/-- `text` goes on with `form` at an offset. -/
def StandsAt (text form : List Char) (offset : Nat) : Prop :=
  ∃ before, before ++ form <+: text ∧ byteLength before = offset

/-- What stands in a part of a text stands in the text. -/
theorem StandsAt.of_reaches {text part form : List Char} {c d : Cursor} {v : List Char} {n : Nat}
    (hc : (Cursor.start text).Reaches v c) (hd : c.Reaches part d) (h : StandsAt part form n) :
    StandsAt text form (c.offset + n) := by
  obtain ⟨before, ⟨rest, hrest⟩, rfl⟩ := h
  refine ⟨v ++ before, ⟨rest ++ d.after, ?_⟩, ?_⟩
  · rw [hc.eq_append, hd.after, ← hrest]
    simp
  · rw [byteLength_append, hc.offset_of_start]

theorem Cursor.Reaches.standsAt {text v w : List Char} {c d : Cursor}
    (hc : (Cursor.start text).Reaches v c) (hd : c.Reaches w d) : StandsAt text w c.offset :=
  ⟨v, ⟨d.after, (hc.trans hd).after.symm⟩, hc.offset_of_start.symm⟩

/-! ### Marked elements -/

/-- An opening tag whose class attribute contains the marker. -/
structure OpeningTag (medium : Medium) (marker : List Char) where
  name : List Char
  /-- From the name up to the class attribute. -/
  attributes : List Char
  openingQuote : Char
  /-- The value of the class attribute up to the marker. -/
  valueBefore : List Char
  valueAfter : List Char
  closingQuote : Char
  /-- From the class attribute up to the end of the tag. -/
  rest : List Char
  name_ne_nil : name ≠ []
  isWord_of_mem_name : ∀ x ∈ name, Unicode.isWord x = true
  notMem_attributes : '>' ∉ attributes
  openingQuote_mem : openingQuote ∈ medium.quotes
  notMem_quotes_valueBefore : ∀ x ∈ valueBefore, x ∉ medium.quotes
  notMem_quotes_valueAfter : ∀ x ∈ valueAfter, x ∉ medium.quotes
  closingQuote_mem : closingQuote ∈ medium.quotes
  notMem_rest : '>' ∉ rest

namespace OpeningTag

variable {medium : Medium} {marker : List Char}

def text (tag : OpeningTag medium marker) : List Char :=
  ['<'] ++ (tag.name ++ (tag.attributes ++ ("class=".toList ++ ([tag.openingQuote]
    ++ (tag.valueBefore ++ (marker ++ (tag.valueAfter ++ ([tag.closingQuote]
      ++ (tag.rest ++ ['>'])))))))))

/-- An element with this opening tag and a payload. -/
def element (tag : OpeningTag medium marker) (payload : List Char) : List Char :=
  tag.text ++ (payload ++ Marker.closingTag tag.name)

end OpeningTag

/-- Characters that are not `>` are all that the inside of a tag may hold. -/
theorem notMem_of_except {w : List Char} {c : Char}
    (h : ∀ x ∈ w, (CharSet.except [c]).contains x = true) : c ∉ w := fun hc =>
  CharSet.contains_except.1 (h c hc) (List.mem_singleton_self c)

namespace Marker

open Regex

/-- A match of the pattern for opening tags is an opening tag, and its part of
    interest is the name. -/
theorem exists_openingTag {medium : Medium} {marker : String} {c : Cursor} {m : Capture}
    (h : (openingTag medium marker).match? c = some m) :
    ∃ tag : OpeningTag medium marker.toList, c.Reaches tag.text m.stop ∧ m.body = tag.name := by
  obtain ⟨-, hlead, hbody, htrail⟩ := Template.exists_of_match? h
  -- The match passes a position after each part of the tag, from left to right.
  have hlead := reaches_of_mem_ends_literal hlead
  obtain ⟨name, hname, hword, hbody⟩ := reaches_of_mem_ends_oneOrMore hbody
  obtain ⟨e₁, h₁, htrail⟩ := exists_of_mem_ends_sequence htrail
  obtain ⟨attributes, hattributes, h₁⟩ := reaches_of_mem_ends_zeroOrMore h₁
  obtain ⟨e₂, h₂, htrail⟩ := exists_of_mem_ends_sequence htrail
  have h₂ := reaches_of_mem_ends_literal h₂
  obtain ⟨e₃, h₃, htrail⟩ := exists_of_mem_ends_sequence htrail
  obtain ⟨openingQuote, hopening, h₃⟩ := reaches_of_mem_ends_set h₃
  obtain ⟨e₄, h₄, htrail⟩ := exists_of_mem_ends_sequence htrail
  obtain ⟨valueBefore, hvalueBefore, h₄⟩ := reaches_of_mem_ends_zeroOrMore h₄
  obtain ⟨e₅, h₅, htrail⟩ := exists_of_mem_ends_sequence htrail
  have h₅ := reaches_of_mem_ends_literal h₅
  obtain ⟨e₆, h₆, htrail⟩ := exists_of_mem_ends_sequence htrail
  obtain ⟨valueAfter, hvalueAfter, h₆⟩ := reaches_of_mem_ends_zeroOrMore h₆
  obtain ⟨e₇, h₇, htrail⟩ := exists_of_mem_ends_sequence htrail
  obtain ⟨closingQuote, hclosing, h₇⟩ := reaches_of_mem_ends_set h₇
  obtain ⟨e₈, h₈, htrail⟩ := exists_of_mem_ends_sequence htrail
  obtain ⟨rest, hrest, h₈⟩ := reaches_of_mem_ends_zeroOrMore h₈
  have h₉ := reaches_of_mem_ends_literal (show m.stop ∈ (literal ['>']).ends e₈ from htrail)
  refine ⟨{
    name, attributes, openingQuote, valueBefore, valueAfter, closingQuote, rest
    name_ne_nil := hname
    isWord_of_mem_name := hword
    notMem_attributes := notMem_of_except hattributes
    openingQuote_mem := CharSet.contains_ofList.1 hopening
    notMem_quotes_valueBefore := fun x hx => CharSet.contains_except.1 (hvalueBefore x hx)
    notMem_quotes_valueAfter := fun x hx => CharSet.contains_except.1 (hvalueAfter x hx)
    closingQuote_mem := CharSet.contains_ofList.1 hclosing
    notMem_rest := notMem_of_except hrest }, ?_, hbody.upTo_eq⟩
  exact hlead.trans (hbody.trans (h₁.trans (h₂.trans (h₃.trans (h₄.trans (h₅.trans
    (h₆.trans (h₇.trans (h₈.trans h₉)))))))))

variable {medium : Medium} {marker : String}

/-- A marked element begins where it is looked for and is written as such. -/
theorem exists_of_element? {c : Cursor} {e : Element}
    (h : element? (openingTag medium marker) c = some e) :
    e.start = c ∧ ∃ tag : OpeningTag medium marker.toList,
      c.Reaches tag.text e.payloadStart ∧ e.payloadStart.Reaches e.payload e.payloadStop
        ∧ e.payloadStop.Reaches (closingTag tag.name) e.stop := by
  rw [element?] at h
  split at h
  · rename_i m hm
    obtain ⟨⟨payloadStop, stop⟩, hf, rfl⟩ := Option.map_eq_some_iff.1 h
    obtain ⟨tag, htag, hname⟩ := exists_openingTag hm
    obtain ⟨⟨w, hw⟩, hclosing⟩ := Cursor.find?_eq_some hf
    refine ⟨rfl, tag, htag, ?_, hname ▸ hclosing⟩
    rw [Element.payload, hw.upTo_eq]
    exact hw
  · cases h

theorem consumes_element? (c : Cursor) (e : Element)
    (h : element? (openingTag medium marker) c = some e) :
    ∃ w, w ≠ [] ∧ c.Reaches w e.stop := by
  obtain ⟨-, tag, htag, hpayload, hclosing⟩ := exists_of_element? h
  exact ⟨_, by simp [OpeningTag.text], htag.trans (hpayload.trans hclosing)⟩

/-- The marked elements of a text are written as such where they are found. -/
theorem exists_of_mem_elements {text : List Char} {e : Element}
    (h : e ∈ elements medium marker text) :
    ∃ before, ∃ tag : OpeningTag medium marker.toList,
      (Cursor.start text).Reaches before e.start ∧ e.start.Reaches tag.text e.payloadStart
        ∧ e.payloadStart.Reaches e.payload e.payloadStop
        ∧ e.payloadStop.Reaches (closingTag tag.name) e.stop := by
  obtain ⟨before, c, e, hc, he, rfl⟩ := Cursor.exists_of_mem_scan_map consumes_element? h
  obtain ⟨hstart, tag, htag, hrest⟩ := exists_of_element? he
  exact ⟨before, tag, hstart ▸ hc, hstart ▸ htag, hrest⟩

end Marker

/-! ### Calls -/

namespace Call

open Regex

/-- A literal between parentheses and quotes. -/
structure Argument where
  /-- From the name of the function up to the parenthesis. -/
  blanksBefore : List Char
  /-- Between the parenthesis and the quote. -/
  blanksInFront : List Char
  openingQuote : Char
  literal : List Char
  closingQuote : Char
  /-- Between the quote and the parenthesis. -/
  blanksBehind : List Char
  isWhiteSpace_of_mem_before : ∀ x ∈ blanksBefore, Unicode.isWhiteSpace x = true
  isWhiteSpace_of_mem_inFront : ∀ x ∈ blanksInFront, Unicode.isWhiteSpace x = true
  openingQuote_mem : openingQuote ∈ quotes
  literal_ne_nil : literal ≠ []
  notMem_quotes_literal : ∀ x ∈ literal, x ∉ quotes
  closingQuote_mem : closingQuote ∈ quotes
  isWhiteSpace_of_mem_behind : ∀ x ∈ blanksBehind, Unicode.isWhiteSpace x = true

/-- What stands behind the name of the function. -/
def Argument.text (a : Argument) : List Char :=
  a.blanksBefore ++ (['('] ++ (a.blanksInFront ++ ([a.openingQuote] ++ (a.literal
    ++ ([a.closingQuote] ++ (a.blanksBehind ++ [')']))))))

/-- What may stand in front of the name of the function. -/
def receivers : List (List Char) :=
  [[], "this.".toList]

/-- A call with a receiver or without. -/
def callText (receiver function : List Char) (a : Argument) : List Char :=
  receiver ++ (function ++ a.text)

/-- A call as the whole of an interpolation. -/
def interpolationText (function : List Char) (a : Argument) : List Char :=
  "$\x7b".toList ++ (function ++ (a.text ++ "\x7d".toList))

variable {function : String} {c : Cursor} {m : Capture}

/-- A match from the name of the function to the closing parenthesis passes an
    argument. Other expressions may follow. -/
theorem exists_argument {bodyStart bodyStop stop : Cursor} {rs : List Regex}
    (hopening : bodyStart ∈ (opening function).ends c) (hbody : bodyStop ∈ literal.ends bodyStart)
    (hclosing : stop ∈ (sequence (closing ++ rs)).ends bodyStop) :
    ∃ a : Argument, bodyStart.upTo bodyStop = a.literal
      ∧ ∃ d, c.Reaches (function.toList ++ a.text) d ∧ stop ∈ (sequence rs).ends d := by
  obtain ⟨e₁, h₁, hopening⟩ := exists_of_mem_ends_sequence hopening
  have h₁ := reaches_of_mem_ends_literal h₁
  obtain ⟨e₂, h₂, hopening⟩ := exists_of_mem_ends_sequence hopening
  obtain ⟨blanksBefore, hbefore, h₂⟩ := reaches_of_mem_ends_zeroOrMore h₂
  obtain ⟨e₃, h₃, hopening⟩ := exists_of_mem_ends_sequence hopening
  have h₃ := reaches_of_mem_ends_literal h₃
  obtain ⟨e₄, h₄, hopening⟩ := exists_of_mem_ends_sequence hopening
  obtain ⟨blanksInFront, hinFront, h₄⟩ := reaches_of_mem_ends_zeroOrMore h₄
  obtain ⟨openingQuote, hquote, h₅⟩ :=
    reaches_of_mem_ends_set (show bodyStart ∈ (set (.ofList quotes)).ends e₄ from hopening)
  obtain ⟨literal, hliteral, hfree, hbody⟩ := reaches_of_mem_ends_oneOrMore hbody
  obtain ⟨e₆, h₆, hclosing⟩ := exists_of_mem_ends_sequence hclosing
  obtain ⟨closingQuote, hquote', h₆⟩ := reaches_of_mem_ends_set h₆
  obtain ⟨e₇, h₇, hclosing⟩ := exists_of_mem_ends_sequence hclosing
  obtain ⟨blanksBehind, hbehind, h₇⟩ := reaches_of_mem_ends_zeroOrMore h₇
  obtain ⟨e₈, h₈, hclosing⟩ := exists_of_mem_ends_sequence hclosing
  have h₈ := reaches_of_mem_ends_literal h₈
  refine ⟨{
    blanksBefore, blanksInFront, openingQuote, literal, closingQuote, blanksBehind
    isWhiteSpace_of_mem_before := hbefore
    isWhiteSpace_of_mem_inFront := hinFront
    openingQuote_mem := CharSet.contains_ofList.1 hquote
    literal_ne_nil := hliteral
    notMem_quotes_literal := fun x hx => CharSet.contains_except.1 (hfree x hx)
    closingQuote_mem := CharSet.contains_ofList.1 hquote'
    isWhiteSpace_of_mem_behind := hbehind }, hbody.upTo_eq, e₈, ?_, hclosing⟩
  exact h₁.trans (h₂.trans (h₃.trans (h₄.trans (h₅.trans (hbody.trans
    (h₆.trans (h₇.trans h₈)))))))

/-- A match of the pattern for calls passes a boundary in front of the name. -/
theorem exists_boundary (h : (calls function).match? c = some m) :
    ∃ receiver ∈ receivers, ∃ e, c.Reaches receiver e
      ∧ (Look.wordBoundary .word).holds e = true
      ∧ ∃ a : Argument, e.Reaches (function.toList ++ a.text) m.stop ∧ m.body = a.literal := by
  obtain ⟨-, hlead, hbody, htrail⟩ := Template.exists_of_match? h
  obtain ⟨e₁, hreceiver, hname⟩ := exists_of_mem_ends_seq hlead
  obtain ⟨e₂, hboundary, hopening⟩ := exists_of_mem_ends_seq hname
  -- The boundary takes up nothing.
  obtain ⟨rfl, hholds⟩ := mem_ends_look hboundary
  have hclosing : m.stop ∈ (sequence (closing ++ [])).ends m.bodyStop := htrail
  obtain ⟨a, hliteral, d, ha, hend⟩ := exists_argument hopening hbody hclosing
  obtain rfl := List.mem_singleton.1 hend
  rcases mem_ends_optional hreceiver with hthis | rfl
  · exact ⟨"this.".toList, by simp [receivers], e₂, reaches_of_mem_ends_literal hthis, hholds, a,
      ha, hliteral⟩
  · exact ⟨[], by simp [receivers], e₂, .refl e₂, hholds, a, ha, hliteral⟩

/-- A match of the pattern for calls is a call, and its part of interest is the
    literal. -/
theorem exists_call (h : (calls function).match? c = some m) :
    ∃ receiver ∈ receivers, ∃ a : Argument,
      c.Reaches (callText receiver function.toList a) m.stop ∧ m.body = a.literal :=
  let ⟨receiver, hreceiver, _, he, _, a, ha, hliteral⟩ := exists_boundary h
  ⟨receiver, hreceiver, a, he.trans ha, hliteral⟩

/-- A match of the pattern for interpolations is an interpolation, and its part
    of interest is the literal. -/
theorem exists_interpolation (h : (interpolations function).match? c = some m) :
    ∃ a : Argument,
      c.Reaches (interpolationText function.toList a) m.stop ∧ m.body = a.literal := by
  obtain ⟨-, hlead, hbody, htrail⟩ := Template.exists_of_match? h
  obtain ⟨e₁, hdollar, hopening⟩ := exists_of_mem_ends_seq hlead
  obtain ⟨a, hliteral, d, ha, hend⟩ := exists_argument hopening hbody htrail
  refine ⟨a, ?_, hliteral⟩
  rw [interpolationText, ← List.append_assoc function.toList]
  exact (reaches_of_mem_ends_literal hdollar).trans (ha.trans (reaches_of_mem_ends_literal hend))

theorem consumes_calls : (calls function).Consumes := fun _ _ h =>
  let ⟨_, _, a, ha, _⟩ := exists_call h
  ⟨_, by simp [callText, Argument.text], ha⟩

theorem consumes_interpolations : (interpolations function).Consumes := fun _ _ h =>
  let ⟨a, ha, _⟩ := exists_interpolation h
  ⟨_, by simp [interpolationText], ha⟩

variable {text : List Char} {f : Find}

/-- The calls of a text are written as such where they are found. -/
theorem exists_of_mem_calls (h : f ∈ finds (calls function) text) :
    ∃ receiver ∈ receivers, ∃ a : Argument,
      a.literal = f.literal ∧ StandsAt text (callText receiver function.toList a) f.offset := by
  obtain ⟨m, hm, rfl⟩ := List.mem_map.1 h
  obtain ⟨before, hstart, hmatch⟩ := Template.match?_of_mem_all consumes_calls hm
  obtain ⟨receiver, hreceiver, a, ha, hbody⟩ := exists_call hmatch
  exact ⟨receiver, hreceiver, a, hbody.symm, hstart.standsAt ha⟩

/-- The interpolations of a text are written as such where they are found. -/
theorem exists_of_mem_interpolations (h : f ∈ finds (interpolations function) text) :
    ∃ a : Argument,
      a.literal = f.literal ∧ StandsAt text (interpolationText function.toList a) f.offset := by
  obtain ⟨m, hm, rfl⟩ := List.mem_map.1 h
  obtain ⟨before, hstart, hmatch⟩ := Template.match?_of_mem_all consumes_interpolations hm
  obtain ⟨a, ha, hbody⟩ := exists_interpolation hmatch
  exact ⟨a, hbody.symm, hstart.standsAt ha⟩

end Call

namespace Extraction

/-- What is found in a marked element are its interpolations or its payload. -/
theorem mem_elementFinds (markers : Markers) (e : Element) {f : StringFind}
    (h : f ∈ elementFinds markers e) :
    (∃ g ∈ Call.finds (Call.interpolations markers.function) e.payload,
        f = { offset := e.payloadStart.offset + g.offset, text := g.literal })
      ∨ f = { offset := e.start.offset, text := e.payload } := by
  have interpolated
      (h : f ∈ (Call.finds (Call.interpolations markers.function) e.payload).map fun g =>
        { offset := e.payloadStart.offset + g.offset, text := g.literal }) :
      ∃ g ∈ Call.finds (Call.interpolations markers.function) e.payload,
        f = { offset := e.payloadStart.offset + g.offset, text := g.literal } := by
    obtain ⟨g, hg, rfl⟩ := List.mem_map.1 h
    exact ⟨g, hg, rfl⟩
  rw [elementFinds] at h
  split at h
  · exact .inl (interpolated h)
  · rcases List.mem_append.1 h with h | h
    · exact .inl (interpolated h)
    · exact .inr (List.mem_singleton.1 h)

end Extraction

end CatalogAudit
