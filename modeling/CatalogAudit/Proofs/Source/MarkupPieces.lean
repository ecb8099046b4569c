import CatalogAudit.Proofs.Regex.Words
import CatalogAudit.Proofs.Source.Elements
import CatalogAudit.Proofs.Source.Pieces
import CatalogAudit.Proofs.Source.Usage
import CatalogAudit.Proofs.Text.Split
import CatalogAudit.Proofs.Unicode.Classes
import CatalogAudit.Settings.Basic

/-!
# Elements between text and comments

A markup file may be given as pieces: text without tags, comments, and marked
elements whose opening tag has the class attribute only. The search finds the
elements again: the pattern for opening tags leaves much open, but it cannot go
on behind the first `>`, and in front of that there is one class attribute and
one marker to match.

* `PlainElement.exists_element?`: a marked element is found as it is written.
* `MarkupPiece.letters_markup_source`: what the comments leave.
* `MarkupPiece.markupRecords_file`: the payloads of the elements are recorded,
  each where its element stands in the file.
-/

namespace CatalogAudit

namespace OpeningTag

open Regex

variable {medium : Medium} {marker : String}

/-- The value of the class attribute has no quote in it. -/
theorem notMem_value {marker : List Char} (hmarker : '"' ∉ marker)
    (tag : OpeningTag .markup marker) :
    '"' ∉ tag.valueBefore ++ (marker ++ tag.valueAfter) := by
  have hbefore : '"' ∉ tag.valueBefore := fun hx =>
    tag.notMem_quotes_valueBefore _ hx (List.mem_singleton_self _)
  have hafter : '"' ∉ tag.valueAfter := fun hx =>
    tag.notMem_quotes_valueAfter _ hx (List.mem_singleton_self _)
  simp [hbefore, hmarker, hafter]

/-- What stands behind the name of an opening tag. -/
def behindName (tag : OpeningTag medium marker.toList) : List Char :=
  tag.attributes ++ ("class=".toList ++ ([tag.openingQuote] ++ (tag.valueBefore
    ++ (marker.toList ++ (tag.valueAfter ++ ([tag.closingQuote] ++ (tag.rest ++ ['>'])))))))

theorem mem_ends_trail {tag : OpeningTag medium marker.toList} {c d : Cursor}
    (h : c.Reaches tag.behindName d) : d ∈ (Marker.openingTag medium marker).trail.ends c := by
  have except {w : List Char} {x : Char} (hw : x ∉ w) :
      ∀ y ∈ w, (CharSet.except [x]).contains y = true := fun y hy =>
    CharSet.contains_except.2 fun he => hw (List.mem_singleton.1 he ▸ hy)
  obtain ⟨e₁, h₁, h⟩ := h.exists_of_append
  obtain ⟨e₂, h₂, h⟩ := h.exists_of_append
  obtain ⟨e₃, h₃, h⟩ := h.exists_of_append
  obtain ⟨e₄, h₄, h⟩ := h.exists_of_append
  obtain ⟨e₅, h₅, h⟩ := h.exists_of_append
  obtain ⟨e₆, h₆, h⟩ := h.exists_of_append
  obtain ⟨e₇, h₇, h⟩ := h.exists_of_append
  obtain ⟨e₈, h₈, h₉⟩ := h.exists_of_append
  refine mem_ends_sequence (mem_ends_zeroOrMore (except tag.notMem_attributes) h₁) ?_
  refine mem_ends_sequence (mem_ends_literal h₂) ?_
  refine mem_ends_sequence (mem_ends_set (CharSet.contains_ofList.2 tag.openingQuote_mem) h₃) ?_
  refine mem_ends_sequence (mem_ends_zeroOrMore (fun x hx =>
    CharSet.contains_except.2 (tag.notMem_quotes_valueBefore x hx)) h₄) ?_
  refine mem_ends_sequence (mem_ends_literal h₅) ?_
  refine mem_ends_sequence (mem_ends_zeroOrMore (fun x hx =>
    CharSet.contains_except.2 (tag.notMem_quotes_valueAfter x hx)) h₆) ?_
  refine mem_ends_sequence (mem_ends_set (CharSet.contains_ofList.2 tag.closingQuote_mem) h₇) ?_
  exact mem_ends_sequence (mem_ends_zeroOrMore (except tag.notMem_rest) h₈) (mem_ends_literal h₉)

/-- An opening tag is matched with its whole name, if no word character follows
    the name. The match need not end where this tag does. -/
theorem exists_match? {tag : OpeningTag medium marker.toList} {c d : Cursor}
    (h : c.Reaches tag.text d)
    (hnext : ∀ x ∈ tag.behindName.head?, Unicode.isWord x = false) :
    ∃ m, (Marker.openingTag medium marker).match? c = some m ∧ m.body = tag.name := by
  -- The longest name is tried first, and the rest of the tag is behind it.
  obtain ⟨b, hlead, hname⟩ := h.exists_of_append
  obtain ⟨b', hname, htrail⟩ := hname.exists_of_append
  have htrail : b'.Reaches tag.behindName d := htrail
  have hbehind : tag.behindName ≠ [] := by simp [behindName]
  have hafter : ∀ x ∈ b'.after.head?, CharSet.word.contains x = false := by
    rw [htrail.after, List.head?_append_of_ne_nil _ hbehind]
    exact hnext
  obtain ⟨stop, hmatch⟩ := Template.exists_match?_of_head (t := Marker.openingTag medium marker)
    (ends_literal hlead) (head?_ends_oneOrMore tag.name_ne_nil tag.isWord_of_mem_name hname hafter)
    (mem_ends_trail htrail)
  exact ⟨_, hmatch, hname.upTo_eq⟩

end OpeningTag

/-- A marked element whose opening tag has the class attribute only. -/
structure PlainElement where
  name : List Char
  /-- The value of the class attribute up to the marker. -/
  valueBefore : List Char
  valueAfter : List Char
  payload : List Char
  name_ne_nil : name ≠ []
  isWord_of_mem_name : ∀ x ∈ name, Unicode.isWord x = true
  plain_before : ∀ x ∈ valueBefore, x ∉ "<>\"=".toList
  plain_after : ∀ x ∈ valueAfter, x ∉ "<>\"=".toList
  payload_ne_nil : payload ≠ []
  notMem_payload : '<' ∉ payload

namespace PlainElement

/-- The value of the class attribute. -/
def value (marker : List Char) (e : PlainElement) : List Char :=
  e.valueBefore ++ (marker ++ e.valueAfter)

/-- How its opening tag is written. -/
def openingTag (marker : List Char) (e : PlainElement) : List Char :=
  "<".toList ++ (e.name ++ (" class=\"".toList ++ (e.value marker ++ "\">".toList)))

/-- How an element is written. -/
def text (marker : List Char) (e : PlainElement) : List Char :=
  e.openingTag marker ++ (e.payload ++ Marker.closingTag e.name)

variable {marker : List Char} {e : PlainElement}

theorem notMem_name {x : Char} (hx : x ∈ Unicode.delimiters) : x ∉ e.name :=
  Unicode.notMem_of_isWord e.isWord_of_mem_name hx

theorem notMem_value (hmarker : ∀ x ∈ marker, x ∉ "<>\"=".toList) {x : Char}
    (hx : x ∈ "<>\"=".toList) : x ∉ e.value marker := by
  intro hmem
  rcases List.mem_append.1 hmem with hmem | hmem
  · exact e.plain_before x hmem hx
  · rcases List.mem_append.1 hmem with hmem | hmem
    · exact hmarker x hmem hx
    · exact e.plain_after x hmem hx

theorem getLast?_text (marker : List Char) (e : PlainElement) :
    (e.text marker).getLast? = some '>' := by
  simp [text, openingTag, Marker.closingTag, List.getLast?_append, List.getLast?_cons]

/-- No comment begins within an element. -/
theorem not_infix_text (hmarker : ∀ x ∈ marker, x ∉ "<>\"=".toList) :
    ¬['<', '!'].IsInfix (e.text marker) := by
  have hname : '<' ∉ e.name := notMem_name (by decide)
  have hvalue : '<' ∉ e.value marker := notMem_value hmarker (by decide)
  have hbang : '!' ∉ e.name := notMem_name (by decide)
  -- There are two angle brackets of this kind, each in front of something else.
  have htext : e.text marker = '<' :: ((e.name ++ (" class=\"".toList ++ (e.value marker
      ++ ("\">".toList ++ e.payload)))) ++ '<' :: '/' :: (e.name ++ ['>'])) := by
    simp [text, openingTag, Marker.closingTag]
  have hinside : '<' ∉ e.name ++ (" class=\"".toList ++ (e.value marker
      ++ ("\">".toList ++ e.payload))) := by
    simp [hname, hvalue, e.notMem_payload]
  have hbehind : '<' ∉ e.name ++ ['>'] := by simp [hname]
  rw [htext, pair_infix_cons_iff, pair_infix_append_iff, pair_infix_cons_iff, pair_infix_cons_iff]
  rintro (⟨-, hhead⟩ | hpair | (⟨-, hhead⟩ | ⟨hslash, -⟩ | hpair) | ⟨-, hhead⟩)
  · obtain ⟨x, name, hx⟩ := List.exists_cons_of_ne_nil e.name_ne_nil
    rw [hx] at hhead hbang
    obtain rfl : x = '!' := by simpa using hhead
    exact hbang List.mem_cons_self
  · exact not_pair_infix_of_notMem hinside hpair
  · simp at hhead
  · simp at hslash
  · exact not_pair_infix_of_notMem hbehind hpair
  · simp at hhead

/-- Whatever opening tag is matched where an element is written, its class
    attribute is that of the element. -/
theorem value_eq_of_openingTag (hmarker : ∀ x ∈ marker, x ∉ "<>\"=".toList)
    (tag : OpeningTag .markup marker) {u v : List Char}
    (h : tag.text ++ u = e.openingTag marker ++ v) :
    (tag.valueBefore ++ (marker ++ tag.valueAfter)) ++ '"' :: (tag.rest ++ '>' :: u)
      = e.value marker ++ '"' :: '>' :: v := by
  have hquote : ∀ {q : Char}, q ∈ Medium.markup.quotes → q = '"' := List.mem_singleton.1
  -- The class attribute is the only place for an equals sign in front of the first `>`.
  have hclass : ('<' :: (tag.name ++ (tag.attributes ++ "class".toList))) ++ '=' :: ('"' ::
        (tag.valueBefore ++ (marker ++ tag.valueAfter)) ++ '"' :: (tag.rest ++ '>' :: u))
      = ('<' :: (e.name ++ " class".toList)) ++ '=' :: (('"' :: e.value marker ++ ['"'])
        ++ '>' :: v) := by
    have htag : tag.text ++ u = _ := h
    simp only [OpeningTag.text, openingTag, hquote tag.openingQuote_mem,
      hquote tag.closingQuote_mem] at htag
    simpa using htag
  have hs : '>' ∉ '<' :: (tag.name ++ (tag.attributes ++ "class".toList)) := by
    have hname : '>' ∉ tag.name := Unicode.notMem_of_isWord tag.isWord_of_mem_name (by decide)
    simp [hname, tag.notMem_attributes]
  have ht : '=' ∉ '<' :: (e.name ++ " class".toList) := by
    have hname : '=' ∉ e.name := notMem_name (by decide)
    simp [hname]
  have hw : '=' ∉ '"' :: e.value marker ++ ['"'] := by
    have hvalue := notMem_value (e := e) hmarker (x := '=') (by decide)
    simp [hvalue]
  obtain ⟨-, hvalue⟩ := split_at_only hs ht hw (by decide) hclass
  simpa using hvalue

/-- Whatever opening tag is matched where an element is written ends where the
    opening tag of the element ends. -/
theorem rest_eq_of_openingTag (hmarker : ∀ x ∈ marker, x ∉ "<>\"=".toList)
    (tag : OpeningTag .markup marker) {u v : List Char}
    (h : tag.text ++ u = e.openingTag marker ++ v) : u = v := by
  have hbefore : '"' ∉ tag.valueBefore ++ (marker ++ tag.valueAfter) :=
    tag.notMem_value fun hx => hmarker _ hx (by decide)
  -- The value ends at the next quote, and nothing stands between it and the end of the tag.
  obtain ⟨-, hrest⟩ := split_at_unique hbefore (notMem_value hmarker (by decide))
    (value_eq_of_openingTag hmarker tag h)
  exact (split_at_unique tag.notMem_rest (List.not_mem_nil) hrest).2

/-- The opening tag with its parts. -/
def tag (marker : List Char) (e : PlainElement) : OpeningTag .markup marker where
  name := e.name
  attributes := [' ']
  openingQuote := '"'
  valueBefore := e.valueBefore
  valueAfter := e.valueAfter
  closingQuote := '"'
  rest := []
  name_ne_nil := e.name_ne_nil
  isWord_of_mem_name := e.isWord_of_mem_name
  notMem_attributes := by decide
  openingQuote_mem := by decide
  notMem_quotes_valueBefore x hx hq :=
    e.plain_before x hx (List.mem_singleton.1 hq ▸ by decide)
  notMem_quotes_valueAfter x hx hq :=
    e.plain_after x hx (List.mem_singleton.1 hq ▸ by decide)
  closingQuote_mem := by decide
  notMem_rest := List.not_mem_nil

theorem text_tag (marker : List Char) (e : PlainElement) :
    (e.tag marker).text = e.openingTag marker := by
  simp [tag, OpeningTag.text, openingTag, value]

variable {marker : String} {c d : Cursor}

/-- A marked element is found where it is written, from its opening tag to its
    closing tag. -/
theorem exists_element? (hmarker : ∀ x ∈ marker.toList, x ∉ "<>\"=".toList)
    (h : c.Reaches (e.text marker.toList) d) :
    ∃ el, Marker.element? (Marker.openingTag .markup marker) c = some el
      ∧ el.start = c ∧ el.payload = e.payload ∧ el.stop = d := by
  obtain ⟨b, hb, hrest⟩ := h.exists_of_append
  obtain ⟨b', hpayload, hclosing⟩ := hrest.exists_of_append
  have htag : c.Reaches (e.tag marker.toList).text b := (text_tag _ e).symm ▸ hb
  obtain ⟨m, hm, hname⟩ := OpeningTag.exists_match? htag fun x hx => by
    obtain rfl := Option.some.inj hx
    decide +kernel
  -- The match ends where the opening tag does.
  obtain ⟨other, hother, -⟩ := Marker.exists_openingTag hm
  have hafter := rest_eq_of_openingTag hmarker other (hother.after.symm.trans hb.after)
  obtain rfl : m.stop = b := by
    have htext : other.text = e.openingTag marker.toList := by
      have hboth := hother.after.symm.trans hb.after
      rw [hafter] at hboth
      exact List.append_cancel_right hboth
    exact (htext ▸ hother).unique hb
  have hfound : m.stop.find? (Marker.closingTag m.body) = some (b', d) := by
    have hname : m.body = e.name := hname
    rw [hname]
    exact Cursor.find?_eq_of_notMem hpayload hclosing e.notMem_payload
  refine ⟨{ start := c, payloadStart := m.stop, payloadStop := b', stop := d },
    by simp [Marker.element?, hm, hfound], rfl, hpayload.upTo_eq, rfl⟩

/-- The payload of such an element is a string to translate. -/
theorem isString_payload (e : PlainElement) : Extraction.isString e.payload = true := by
  simp [Extraction.isString, Marker.isComplex, e.notMem_payload, e.payload_ne_nil]

end PlainElement

/-! ### Comments -/

/-- The comments of markup files. -/
def markupStyle : CommentStyle :=
  .block "<!--".toList "-->".toList

theorem letters_markup (source : List Char) :
    (Stripped.markup source).letters = markupStyle.outside (located 0 source) := by
  have hmarkup : Stripped.markup source = (Stripped.whole source).remove markupStyle := rfl
  rw [hmarkup, Stripped.letters_remove_eq_outside _ (by decide), Stripped.letters_whole]

section Comment

variable {τ : Type} {l v w : List (Char × τ)}

/-- A body without a closing ends at the first closing. -/
theorem findLetters?_closing (hw : ¬"-->".toList <:+: chars w) (hv : chars v = "-->".toList) :
    findLetters? "-->".toList (w ++ (v ++ l)) = some l := by
  induction w with
  | nil =>
    obtain ⟨x, v, rfl⟩ := List.exists_cons_of_ne_nil (l := v) (by rintro rfl; cases hv)
    have hskip : skipLetters? "-->".toList (x :: v ++ l) = some l :=
      skipLetters?_eq_some_iff.2 ⟨x :: v, hv, rfl⟩
    rw [List.cons_append] at hskip
    rw [List.nil_append, List.cons_append, findLetters?, hskip]
  | cons x w ih =>
    have hskip : skipLetters? "-->".toList (x :: (w ++ (v ++ l))) = none := by
      refine Option.eq_none_iff_forall_ne_some.2 fun rest hrest => hw ?_
      obtain ⟨u, hu, hl⟩ := skipLetters?_eq_some_iff.1 hrest
      have hchars : x.1 :: (chars w ++ ("-->".toList ++ chars l)) = "-->".toList ++ chars rest := by
        rw [← hv, ← chars_append, ← chars_append, ← chars_cons, hl, chars_append, hv, ← hu]
        rfl
      -- A closing that begins in the body does not reach the `>` behind it.
      cases w with
      | nil => simp at hchars
      | cons y w =>
        cases w with
        | nil => simp at hchars
        | cons z w =>
          obtain ⟨hx, hy, hz⟩ : x.1 = '-' ∧ y.1 = '-' ∧ z.1 = '>' := by
            simp at hchars
            exact ⟨hchars.1, hchars.2.1, hchars.2.2.1⟩
          exact ⟨[], chars w, by simp [hx, hy, hz]⟩
    have hrest : ¬"-->".toList <:+: chars w := fun h =>
      hw (h.trans (List.suffix_cons x.1 (chars w)).isInfix)
    rw [List.cons_append, findLetters?, hskip]
    exact ih hrest

/-- A comment is dropped as a whole. -/
theorem outside_comment {o : List (Char × τ)} (ho : chars o = "<!--".toList)
    (hw : ¬"-->".toList <:+: chars w) (hv : chars v = "-->".toList) :
    markupStyle.outside (o ++ (w ++ (v ++ l))) = markupStyle.outside l := by
  refine CommentStyle.outside_of_behind? (by decide) ?_
  rw [markupStyle, CommentStyle.behind?, skipLetters?_eq_some_iff.2 ⟨o, ho, rfl⟩]
  exact findLetters?_closing hw hv

end Comment

/-! ### Pieces of a markup file -/

/-- A piece of a markup file. -/
inductive MarkupPiece
  | text (content : List Char) (plain : '<' ∉ content)
  /-- From `<!--` up to and including the next `-->`. -/
  | comment (body : List Char) (unclosed : ¬"-->".toList <:+: body)
  | element (e : PlainElement)

namespace MarkupPiece

/-- How markup files are made of pieces. -/
def composition (marker : List Char) : Composition MarkupPiece where
  text
    | text content _ => content
    | comment body _ => "<!--".toList ++ (body ++ "-->".toList)
    | element e => e.text marker
  kept
    | text content _ => content
    | comment _ _ => []
    | element e => e.text marker
  keptAt
    | offset, text content _ => located offset content
    | _, comment _ _ => []
    | offset, element e => located offset (e.text marker)
  string?
    | text _ _ | comment _ _ => none
    | element e => some e.payload
  chars_keptAt offset p := by cases p <;> simp
  begins p t ht offset := by
    cases p with
    | text content _ => cases ht
    | comment body _ => cases ht
    | element e => exact ⟨'<', _, rfl⟩

variable {marker : List Char}

/-- The letters that a markup file without comments has of its pieces. -/
theorem letters_markup_source (hmarker : ∀ x ∈ marker, x ∉ "<>\"=".toList)
    (pieces : List MarkupPiece) :
    (Stripped.markup ((composition marker).source pieces)).letters
      = (composition marker).keptFrom 0 pieces := by
  rw [letters_markup]
  refine Composition.pass_source markupStyle.outside CommentStyle.outside_nil (fun offset p l => ?_) 0 pieces
  cases p with
  | text content plain =>
    have hplain : '<' ∉ chars (located offset content) := by rwa [chars_located]
    exact CommentStyle.outside_append_of_notMem (b := '!') rfl hplain
  | comment body unclosed =>
    have htext : (composition marker).text (comment body unclosed)
        = "<!--".toList ++ (body ++ "-->".toList) := rfl
    rw [htext, located_append, located_append, List.append_assoc, List.append_assoc]
    exact outside_comment (chars_located _ _) (by rwa [chars_located]) (chars_located _ _)
  | element e =>
    have hchars : chars (located offset ((composition marker).text (element e))) = e.text marker :=
      chars_located offset _
    refine CommentStyle.outside_append (a := '<') (b := '!') rfl ?_ fun hlast => ?_
    · exact hchars ▸ PlainElement.not_infix_text hmarker
    · rw [hchars, PlainElement.getLast?_text] at hlast
      cases hlast

/-! ### The search -/

section Search

variable {marker : String} {c d : Cursor}

/-- What the search recognises at a position, with the position behind it. -/
def recognise (marker : String) (c : Cursor) : Option (Element × Cursor) :=
  (Marker.element? (Marker.openingTag .markup marker) c).map fun e => (e, e.stop)

/-- What is found with an element, if its payload is a string to translate. -/
def stringFind? (e : Element) : Option StringFind :=
  if Extraction.isString e.payload then some { offset := e.start.offset, text := e.payload }
  else none

theorem markupFinds_eq (markers : Markers) (text : List Char) :
    Extraction.markupFinds markers text
      = ((Cursor.start text).scan (recognise markers.markerClass)).filterMap stringFind? := by
  rw [Extraction.markupFinds, ← List.filterMap_eq_map, List.filterMap_filter]
  rfl

theorem recognise_eq_none (h : c.after.head? ≠ some '<') : recognise marker c = none := by
  refine Option.map_eq_none_iff.2 (Option.eq_none_iff_forall_ne_some.2 fun e he => h ?_)
  obtain ⟨-, tag, htag, -⟩ := Marker.exists_of_element? he
  rw [htag.after]
  rfl

/-- The search passes over text and finds the elements as they are written. -/
theorem searches (hmarker : ∀ x ∈ marker.toList, x ∉ "<>\"=".toList) :
    (composition marker.toList).Searches (recognise marker) stringFind? fun _ => True where
  pass {c d p rest} _ hp hd _ := by
    refine ⟨trivial, ?_⟩
    cases p with
    | text content plain =>
      -- An element would begin with an angle bracket in the text.
      refine Cursor.scan_eq_of_none Marker.progresses_element? hd fun v x u e hsplit _ hu => ?_
      have hcontent : content = v ++ x :: u := hsplit
      refine recognise_eq_none fun hhead => plain ?_
      rw [hu.after] at hhead
      obtain rfl : x = '<' := Option.some.inj hhead
      rw [hcontent]
      exact List.mem_append_right v List.mem_cons_self
    | comment body unclosed => rw [(Cursor.Reaches.refl c).unique hd]
    | element e => cases hp
  find {c d p t} _ hp hd := by
    refine ⟨trivial, ?_⟩
    cases p with
    | text content plain => cases hp
    | comment body unclosed => cases hp
    | element e =>
      obtain rfl := Option.some.inj hp
      obtain ⟨el, hel, rfl, hpayload, rfl⟩ := PlainElement.exists_element? hmarker hd
      refine ⟨el, by rw [recognise, hel]; rfl, ?_⟩
      rw [stringFind?, hpayload, if_pos e.isString_payload]

end Search

/-! ### The records -/

theorem notMem_of_validate {s : Settings} (h : s.validate = .ok ()) :
    '"' ∉ s.markerClass.toList := by
  intro hquote
  have hrefused : (s.markerClass.toList.all Unicode.isWhiteSpace
      || s.markerClass.toList.contains '"') = true := by simp [hquote]
  rw [Settings.validate, if_pos hrefused] at h
  cases h

/-- Of a markup file that consists of text, comments and marked elements, the
    payloads of the elements are recorded and nothing else, in their order and
    each where its element stands in the file. -/
theorem markupRecords_file {s : Settings} (hs : s.validate = .ok ())
    (hplain : ∀ x ∈ s.markerClass.toList, x ∉ "<>=".toList) (function path : String)
    (pieces : List MarkupPiece) :
    let K := composition s.markerClass.toList
    let records := Extraction.markupRecords { markerClass := s.markerClass, function }
      (K.file path pieces)
    records = K.recordsFrom path [] pieces
      ∧ ∀ t, (Usage.ofList records).occurrences t
        = ((K.recordsFrom path [] pieces).filter (·.1 = t)).map (·.2) := by
  intro K records
  have hmarker : ∀ x ∈ s.markerClass.toList, x ∉ "<>\"=".toList := by
    intro x hx hmem
    have hquote : x ≠ '"' := fun he => notMem_of_validate hs (he ▸ hx)
    have hother := hplain x hx
    simp_all
  have hrecords : records = K.recordsFrom path [] pieces := by
    have hcontent : (K.file path pieces).content.toList = K.source pieces := String.toList_ofList
    have hletters := letters_markup_source hmarker pieces
    rw [← hcontent] at hletters
    have hfinds := markupFinds_eq { markerClass := s.markerClass, function }
      (Stripped.markup (K.file path pieces).content.toList).text
    exact (congrArg (Extraction.records path _) hfinds).trans (Composition.records_scan hcontent
      hletters Marker.progresses_element? (searches hmarker) trivial)
  refine ⟨hrecords, fun t => ?_⟩
  rw [← hrecords]
  exact Usage.occurrences_ofList fun r =>
    Extraction.ne_empty_of_mem_records fun _ => Extraction.ne_nil_of_mem_markupFinds

/-- Settings with a class of one letter. -/
def letterSettings : Settings :=
  { Settings.default with markerClass := "m", excludePatterns := [] }

/-- A commented element in front of one that is not commented. -/
def commentedPieces : List MarkupPiece :=
  [comment "<b class=\"m\">old</b>".toList (by decide +kernel),
    text "\nNow: ".toList (by decide +kernel),
    element {
      name := ['b']
      valueBefore := "big ".toList
      valueAfter := []
      payload := "new".toList
      name_ne_nil := by simp
      isWord_of_mem_name := List.all_iff_forall_prop.1 (by decide +kernel)
      plain_before := List.all_iff_forall_prop.1 (by decide +kernel)
      plain_after := by simp
      payload_ne_nil := by decide +kernel
      notMem_payload := by decide +kernel }]

/-- Only the second element is recorded, with its place behind the comment. -/
theorem markupRecords_file_commented :
    letterSettings.validate = .ok ()
      ∧ (∀ x ∈ letterSettings.markerClass.toList, x ∉ "<>=".toList)
      ∧ Extraction.markupRecords { markerClass := "m", function := "l" }
          ((composition ['m']).file "index.html" commentedPieces)
        = [("new", { file := "index.html", place := { line := 2, column := 6 } })] := by
  have hvalid : letterSettings.validate = .ok () := by decide +kernel
  have hplain : ∀ x ∈ letterSettings.markerClass.toList, x ∉ "<>=".toList :=
    List.all_iff_forall_prop.1 (by decide +kernel)
  have hrecords := (markupRecords_file hvalid hplain "l" "index.html" commentedPieces).1
  exact ⟨hvalid, hplain, hrecords.trans (by decide +kernel)⟩

end MarkupPiece

end CatalogAudit
