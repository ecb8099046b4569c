import CatalogAudit.Proofs.Source.MarkupPieces
import CatalogAudit.Proofs.Source.Wrappers
import Mathlib

/-!
# The marker among the class names

In markup, the search for marked elements looks for the marker between `class="`
and the next quote. It does not look at what stands in front of `class` or
beside the marker. So the class attribute of an element that is found need not
name the marker: the marker may be a part of a longer name, and the attribute
may be another one whose name ends in `class`.

* `NamesMarker`: the class attribute of an opening tag names the marker.
* `exists_mem_classNames`: the marker lies within one of the names at least.
* `areMarked_elements`: when all elements that are found name the marker.
* `not_namesMarker_otherNames`: two elements that do not.
-/

namespace CatalogAudit

/-- The opening tag of an element. -/
def Element.opening (e : Element) : List Char :=
  e.start.upTo e.payloadStart

namespace Marker

/-! ### Class attributes -/

/-- A text begins with `class` and a value in double quotes. -/
def BeginsWithClass (value text : List Char) : Prop :=
  '"' ∉ value ∧ "class=\"".toList ++ (value ++ ['"']) <+: text

/-- A tag has the attribute `class`, behind white space, with a value. -/
def HasClass (value tag : List Char) : Prop :=
  ∃ x rest, x :: rest <:+ tag ∧ Unicode.isWhiteSpace x = true ∧ BeginsWithClass value rest

/-- The names in the value of a class attribute. -/
def classNames (value : List Char) : List (List Char) :=
  (value.splitOnP Unicode.isWhiteSpace).filter fun name => !name.isEmpty

/-- A tag has a class attribute, and the marker is one of its names. -/
def NamesMarker (marker tag : List Char) : Prop :=
  ∃ value, HasClass value tag ∧ marker ∈ classNames value

/-- The value that a text begins with, behind `class=`. -/
def leadingValue? (text : List Char) : Option (List Char) :=
  ("class=\"".toList.isPrefixOf? text).bind fun rest =>
    if '"' ∈ rest then some (rest.takeWhile (· != '"')) else none

/-- The values of the class attributes of a tag. -/
def classValues (tag : List Char) : List (List Char) :=
  tag.tails.filterMap fun
    | x :: rest => if Unicode.isWhiteSpace x = true then leadingValue? rest else none
    | [] => none

theorem takeWhile_quote {value : List Char} (h : '"' ∉ value) (behind : List Char) :
    (value ++ '"' :: behind).takeWhile (· != '"') = value := by
  have hall : ∀ x ∈ value, (x != '"') = true := fun x hx => bne_iff_ne.2 fun he => h (he ▸ hx)
  simp [List.takeWhile_append_of_pos hall]

theorem leadingValue?_eq_some_iff {value text : List Char} :
    leadingValue? text = some value ↔ BeginsWithClass value text := by
  rw [leadingValue?, Option.bind_eq_some_iff]
  constructor
  · rintro ⟨rest, hrest, hvalue⟩
    split at hvalue
    · rename_i hquote
      obtain ⟨front, behind, rfl, hfront⟩ := List.eq_append_cons_of_mem hquote
      obtain rfl : front = value :=
        (takeWhile_quote hfront behind).symm.trans (Option.some.inj hvalue)
      exact ⟨hfront, behind, by simp [← List.isPrefixOf?_eq_some_iff_append_eq.1 hrest]⟩
    · cases hvalue
  · rintro ⟨hvalue, behind, rfl⟩
    refine ⟨value ++ '"' :: behind, List.isPrefixOf?_eq_some_iff_append_eq.2 (by simp), ?_⟩
    rw [if_pos (by simp), takeWhile_quote hvalue]

theorem mem_classValues_iff {value tag : List Char} :
    value ∈ classValues tag ↔ HasClass value tag := by
  rw [classValues, List.mem_filterMap]
  constructor
  · rintro ⟨_ | ⟨x, rest⟩, hsuffix, h⟩
    · cases h
    · obtain ⟨hblank, h⟩ := Option.ite_none_right_eq_some.1 h
      exact ⟨x, rest, (List.mem_tails _ _).1 hsuffix, hblank, leadingValue?_eq_some_iff.1 h⟩
  · rintro ⟨x, rest, hsuffix, hblank, h⟩
    exact ⟨x :: rest, (List.mem_tails _ _).2 hsuffix,
      Option.ite_none_right_eq_some.2 ⟨hblank, leadingValue?_eq_some_iff.2 h⟩⟩

instance (marker tag : List Char) : Decidable (NamesMarker marker tag) :=
  decidable_of_iff (∃ value ∈ classValues tag, marker ∈ classNames value)
    (exists_congr fun _ => and_congr_left' mem_classValues_iff)

/-! ### The name around a word -/

section Names

variable {word text : List Char}

/-- A word that a text begins with is the beginning of its first name. -/
theorem exists_splitOnP_eq_cons (hword : ∀ x ∈ word, Unicode.isWhiteSpace x = false)
    (h : word <+: text) :
    ∃ name names, text.splitOnP Unicode.isWhiteSpace = name :: names ∧ word <+: name := by
  obtain ⟨rest, rfl⟩ := h
  induction word with
  | nil =>
    obtain ⟨name, names, hsplit⟩ := List.exists_cons_of_ne_nil
      (List.splitOnP_ne_nil Unicode.isWhiteSpace rest)
    exact ⟨name, names, hsplit, List.nil_prefix⟩
  | cons x word ih =>
    obtain ⟨hx, hword⟩ := List.forall_mem_cons.1 hword
    obtain ⟨name, names, hsplit, hname⟩ := ih hword
    refine ⟨x :: name, names, ?_, List.cons_prefix_cons.2 ⟨rfl, hname⟩⟩
    rw [List.cons_append, List.splitOnP_cons_eq_if_modifyHead, if_neg (by simp [hx]), hsplit,
      List.modifyHead_cons]

theorem exists_mem_splitOnP (hword : ∀ x ∈ word, Unicode.isWhiteSpace x = false)
    (h : word <:+: text) :
    ∃ name ∈ text.splitOnP Unicode.isWhiteSpace, word <:+: name := by
  induction text with
  | nil => exact ⟨[], by simp, h⟩
  | cons x text ih =>
    rcases List.infix_cons_iff.1 h with h | h
    · obtain ⟨name, names, hsplit, hname⟩ := exists_splitOnP_eq_cons hword h
      exact ⟨name, hsplit ▸ List.mem_cons_self, hname.isInfix⟩
    · obtain ⟨name, hmem, hname⟩ := ih h
      rw [List.splitOnP_cons_eq_if_modifyHead]
      split
      · exact ⟨name, List.mem_cons_of_mem _ hmem, hname⟩
      · -- The character goes to the first name, which may be the one with the word.
        obtain ⟨first, names, hsplit⟩ := List.exists_cons_of_ne_nil (List.ne_nil_of_mem hmem)
        rw [hsplit, List.modifyHead_cons]
        rw [hsplit] at hmem
        rcases List.mem_cons.1 hmem with rfl | hmem
        · exact ⟨x :: name, List.mem_cons_self, List.infix_cons hname⟩
        · exact ⟨name, List.mem_cons_of_mem _ hmem, hname⟩

/-- A word without white space lies within one of the names. -/
theorem exists_mem_classNames (hne : word ≠ [])
    (hword : ∀ x ∈ word, Unicode.isWhiteSpace x = false) (h : word <:+: text) :
    ∃ name ∈ classNames text, word <:+: name := by
  obtain ⟨name, hmem, hname⟩ := exists_mem_splitOnP hword h
  refine ⟨name, List.mem_filter.2 ⟨hmem, ?_⟩, hname⟩
  have hname : name ≠ [] := fun he => hne (List.infix_nil.1 (he ▸ hname))
  simp [hname]

end Names

/-! ### Elements that are found -/

section Search

variable {medium : Medium} {marker : String} {text : List Char}

theorem exists_marks_of_mem {e : Element} (h : e ∈ elements medium marker text) :
    (∃ before, (Cursor.start text).Reaches before e.start) ∧ ∃ m, Marks medium marker e m := by
  obtain ⟨before, c, e, hc, hfound, rfl⟩ := Cursor.exists_of_mem_scan_map consumes_element? h
  obtain ⟨rfl, m, hm⟩ := marks_of_element? hfound
  exact ⟨⟨before, hc⟩, m, hm⟩

theorem start_le_stop {e : Element} (h : e ∈ elements medium marker text) :
    e.start.offset ≤ e.stop.offset :=
  let ⟨_, _, _, htag, hpayload, hclosing⟩ := exists_of_mem_elements h
  (htag.trans (hpayload.trans hclosing)).offset_le

/-- An opening tag with a closing tag behind it begins at a position of a text. -/
structure BeginsAt (medium : Medium) (marker : String) (text : List Char) (c : Cursor)
    (m : Capture) : Prop where
  reaches : ∃ before, (Cursor.start text).Reaches before c
  match?_eq : (openingTag medium marker).match? c = some m
  closing : closingTag m.body <:+: m.stop.after

theorem Marks.beginsAt {e : Element} {m : Capture} (hm : Marks medium marker e m)
    (h : ∃ before, (Cursor.start text).Reaches before e.start) :
    BeginsAt medium marker text e.start m where
  reaches := h
  match?_eq := hm.match?_eq
  closing := by
    rw [← hm.payloadStart_eq, hm.payload_reaches.after, hm.closing_reaches.after]
    exact ⟨e.payload, e.stop.after, List.append_assoc _ _ _⟩

/-- An opening tag with a closing tag begins an element that is found, or it stands within
    one. -/
theorem BeginsAt.exists_mem_elements {c : Cursor} {m : Capture}
    (h : BeginsAt medium marker text c m) :
    ∃ e ∈ elements medium marker text, e.start = c ∧ e.payloadStart = m.stop
      ∨ e.start.offset < c.offset ∧ c.offset < e.stop.offset := by
  obtain ⟨before, hc⟩ := h.reaches
  obtain ⟨e, he⟩ := exists_element? h.match?_eq h.closing
  obtain ⟨f, hf, hplace⟩ := Cursor.exists_mem_scan progresses_element? tells_element?
    (e := e.stop) hc (Option.map_eq_some_iff.2 ⟨e, he, rfl⟩)
  refine ⟨f, hf, hplace.imp_left fun hstart => ⟨hstart, ?_⟩⟩
  obtain ⟨-, n, hn⟩ := exists_marks_of_mem hf
  rw [hn.payloadStart_eq, Option.some.inj (hn.match?_eq.symm.trans (hstart ▸ h.match?_eq))]

end Search

/-! ### Elements that name the marker -/

/-- Wherever `class` has a value in a text with the marker in it, white space stands in front
    and the marker is one of the names. -/
def OnlyNames (marker text : List Char) : Prop :=
  ∀ front rest value, front ++ rest = text → BeginsWithClass value rest → marker <:+: value →
    (∃ x ∈ front.getLast?, Unicode.isWhiteSpace x = true) ∧ marker ∈ classNames value

/-- What is found in a text are elements with the marker within a name of a class. -/
structure AreMarked (marker : String) (text : List Char) (found : List Element) : Prop where
  exists_class : ∀ e ∈ found, ∃ front rest value, front ++ rest = e.opening
    ∧ front ≠ [] ∧ '>' ∉ front ∧ BeginsWithClass value rest
    ∧ ∃ name ∈ classNames value, marker.toList <:+: name
  /-- All of them name the marker exactly if every opening tag in the text that does not
      begins within another element that is found. -/
  namesMarker_iff : (∀ e ∈ found, NamesMarker marker.toList e.opening)
    ↔ ∀ c m, BeginsAt .markup marker text c m → ¬NamesMarker marker.toList (c.upTo m.stop) →
      ∃ e ∈ found, e.start.offset < c.offset ∧ c.offset < e.stop.offset
  namesMarker_of_onlyNames : OnlyNames marker.toList text →
    ∀ e ∈ found, NamesMarker marker.toList e.opening

variable {marker : String} {text : List Char} {e : Element}

/-- The opening tag of an element has `class` with the marker in its value. -/
theorem exists_beginsWithClass (hquote : '"' ∉ marker.toList)
    (h : e ∈ elements .markup marker text) :
    ∃ front rest value, front ++ rest = e.opening ∧ front ≠ [] ∧ '>' ∉ front
      ∧ BeginsWithClass value rest ∧ marker.toList <:+: value := by
  obtain ⟨before, tag, -, htag, -, -⟩ := exists_of_mem_elements h
  have hopening : tag.openingQuote = '"' := List.mem_singleton.1 tag.openingQuote_mem
  have hclosing : tag.closingQuote = '"' := List.mem_singleton.1 tag.closingQuote_mem
  refine ⟨'<' :: (tag.name ++ tag.attributes), _, tag.valueBefore ++ (marker.toList
    ++ tag.valueAfter), ?_, by simp, ?_, ⟨tag.notMem_value hquote, tag.rest ++ ['>'], rfl⟩,
    tag.valueBefore, tag.valueAfter, List.append_assoc _ _ _⟩
  · rw [Element.opening, htag.upTo_eq, OpeningTag.text, hopening, hclosing]
    simp
  · have hname : '>' ∉ tag.name := Unicode.notMem_of_isWord tag.isWord_of_mem_name (by decide)
    simp [hname, tag.notMem_attributes]

/-- All elements name the marker where the text has it in class attributes as a name only. -/
theorem namesMarker_of_onlyNames (hquote : '"' ∉ marker.toList)
    (hnames : OnlyNames marker.toList text) (h : e ∈ elements .markup marker text) :
    NamesMarker marker.toList e.opening := by
  obtain ⟨front, rest, value, hopening, hfront, -, ⟨hvalue, hrest⟩, hmarker⟩ :=
    exists_beginsWithClass hquote h
  obtain ⟨before, tag, hbefore, htag, -, -⟩ := exists_of_mem_elements h
  -- What stands in front of the attribute in the tag stands there in the text.
  have htext : (before ++ front) ++ (rest ++ e.payloadStart.after) = text := by
    rw [(hbefore.trans htag).eq_append, ← htag.upTo_eq, ← Element.opening, ← hopening]
    simp
  obtain ⟨⟨x, hx, hblank⟩, hmem⟩ := hnames _ _ value htext
    ⟨hvalue, hrest.trans (List.prefix_append _ _)⟩ hmarker
  rw [List.getLast?_append_of_ne_nil _ hfront] at hx
  obtain ⟨first, rfl⟩ := List.getLast?_eq_some_iff.1 hx
  refine ⟨value, ⟨x, rest, ⟨first, ?_⟩, hblank, hvalue, hrest⟩, hmem⟩
  rw [← hopening, List.append_assoc, List.singleton_append]

theorem ne_nil_of_validate {s : Settings} (h : s.validate = .ok ()) :
    s.markerClass.toList ≠ [] := by
  intro hnil
  have hrefused : (s.markerClass.toList.all Unicode.isWhiteSpace
      || s.markerClass.toList.contains '"') = true := by simp [hnil]
  rw [Settings.validate, if_pos hrefused] at h
  cases h

/-- What is found in a text has the marker within a name of a class, but it need not name the
    marker. -/
theorem areMarked_elements {s : Settings} (hs : s.validate = .ok ())
    (hblank : ∀ x ∈ s.markerClass.toList, Unicode.isWhiteSpace x = false) (text : List Char) :
    AreMarked s.markerClass text (elements .markup s.markerClass text) where
  exists_class e he := by
    obtain ⟨front, rest, value, hopening, hfront, hangle, hclass, hmarker⟩ :=
      exists_beginsWithClass (MarkupPiece.notMem_of_validate hs) he
    exact ⟨front, rest, value, hopening, hfront, hangle, hclass,
      exists_mem_classNames (ne_nil_of_validate hs) hblank hmarker⟩
  namesMarker_iff := by
    constructor
    · intro hall c m hm hnot
      obtain ⟨e, he, ⟨rfl, hstop⟩ | hwithin⟩ := hm.exists_mem_elements
      · -- The tag itself begins an element that is found, and so it names the marker.
        exact absurd (hstop ▸ hall e he) hnot
      · exact ⟨e, he, hwithin⟩
    · intro hothers e he
      by_contra hnot
      obtain ⟨hreaches, m, hm⟩ := exists_marks_of_mem he
      rw [Element.opening, hm.payloadStart_eq] at hnot
      obtain ⟨f, hf, hlt, hwithin⟩ := hothers e.start m (hm.beginsAt hreaches) hnot
      -- No element begins within another one.
      have hne : f ≠ e := fun heq => Nat.ne_of_lt hlt (congrArg (·.start.offset) heq)
      have hle := start_le_stop he
      rcases Extraction.stop_le_or_of_ne hf he hne with h | h
      · omega
      · omega
  namesMarker_of_onlyNames hnames _ he :=
    namesMarker_of_onlyNames (MarkupPiece.notMem_of_validate hs) hnames he

/-- A paragraph with the marker among other names. -/
def namedText : List Char :=
  "<p class=\"big m\">Hi</p>".toList

/-- The class of one letter is valid, and it has no white space in it. -/
theorem letterSettings_valid :
    MarkupPiece.letterSettings.validate = .ok ()
      ∧ ∀ x ∈ MarkupPiece.letterSettings.markerClass.toList, Unicode.isWhiteSpace x = false :=
  ⟨by decide +kernel, List.all_iff_forall_prop.1 (by decide +kernel)⟩

theorem areMarked_elements_named :
    MarkupPiece.letterSettings.validate = .ok ()
      ∧ (∀ x ∈ MarkupPiece.letterSettings.markerClass.toList, Unicode.isWhiteSpace x = false)
      ∧ (elements .markup MarkupPiece.letterSettings.markerClass namedText).map Element.payload
        = ["Hi".toList]
      ∧ AreMarked MarkupPiece.letterSettings.markerClass namedText
        (elements .markup MarkupPiece.letterSettings.markerClass namedText) := by
  obtain ⟨hvalid, hblank⟩ := letterSettings_valid
  exact ⟨hvalid, hblank, by decide +kernel, areMarked_elements hvalid hblank namedText⟩

/-- A class with the marker as a part of its name, and another attribute with the marker. -/
def otherNames : List Char :=
  "<p class=\"mx\">a</p><p data-class=\"m\">b</p>".toList

/-- Both elements are found, and neither of them names the marker. -/
theorem not_namesMarker_otherNames :
    MarkupPiece.letterSettings.validate = .ok ()
      ∧ (∀ x ∈ MarkupPiece.letterSettings.markerClass.toList, Unicode.isWhiteSpace x = false)
      ∧ (elements .markup MarkupPiece.letterSettings.markerClass otherNames).map Element.payload
        = [['a'], ['b']]
      ∧ ∀ e ∈ elements .markup MarkupPiece.letterSettings.markerClass otherNames,
        ¬NamesMarker MarkupPiece.letterSettings.markerClass.toList e.opening := by
  obtain ⟨hvalid, hblank⟩ := letterSettings_valid
  refine ⟨hvalid, hblank, by decide +kernel, ?_⟩
  decide +kernel

end Marker

end CatalogAudit
