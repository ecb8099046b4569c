import CatalogAudit.Proofs.Source.Elements
import CatalogAudit.Proofs.Text.Slices

/-!
# The search for elements, round by round

The search for marked elements can be told by offsets alone. A round looks for the first opening
tag from an offset on and then for its closing tag in the text behind it. The next round begins
behind the closing tag or, if there is none, one byte behind the beginning of the opening tag.
Every round could fail: offsets count bytes, and where one of them is inside a character or
beyond the end, nothing can be looked for and no text can be cut out.

* `Round` and `round?`: one round, which has no result where it fails.
* `rounds?`: the rounds of a search, where their number is limited.
* `Round.IsSafe`: a round that stays in the text and leads forward (`exists_round`).
* `Marker.exists_safe_rounds`: no round fails, the rounds come to an end, and what they find are
  the marked elements.
-/

namespace CatalogAudit

/-- The first preferred match that begins at a position or behind it. -/
def Template.first? (t : Template) (c : Cursor) : Option Capture :=
  (c.seek fun d => (t.match? d).isSome).bind t.match?

namespace Marker

/-! ### Rounds -/

/-- A marked element told by its offsets and its payload. -/
structure Extent where
  start : Nat
  payloadStart : Nat
  payloadStop : Nat
  stop : Nat
  payload : List Char
  deriving DecidableEq

/-- The offsets of an element. -/
def extent (e : Element) : Extent where
  start := e.start.offset
  payloadStart := e.payloadStart.offset
  payloadStop := e.payloadStop.offset
  stop := e.stop.offset
  payload := e.payload

/-- What is found in a round. -/
inductive Discovery
  /-- There is no opening tag any more. -/
  | nothing
  /-- The opening tag that begins at `start` and ends at `stop` has no closing tag. -/
  | unclosed (start stop : Nat)
  | element (e : Extent)
  deriving DecidableEq

namespace Discovery

/-- The element, if there is one. -/
def element? : Discovery → Option Extent
  | nothing | unclosed _ _ => none
  | element e => some e

/-- Where the search goes on. -/
def next? : Discovery → Option Nat
  | nothing => none
  | unclosed start _ => some (start + 1)
  | element e => some e.stop

/-- The pieces that are cut out of a text of some length, each from one offset to another:
    the text behind an opening tag, and the payload. -/
def pieces (length : Nat) : Discovery → List (Nat × Nat)
  | nothing => []
  | unclosed _ stop => [(stop, length)]
  | element e => [(e.payloadStart, length), (e.payloadStart, e.payloadStop)]

end Discovery

/-- A round that begins at an offset. -/
structure Round where
  position : Nat
  discovery : Discovery
  deriving DecidableEq

/-- The round that begins at an offset of a text. There is none if the offset is not a boundary
    or if the text cannot be cut where the round needs it. -/
def round? (opening : Template) (text : List Char) (position : Nat) : Option Round := do
  let c ← Cursor.atOffset? text position
  match opening.first? c with
  | none => some { position, discovery := .nothing }
  | some m =>
    let rest ← textBetween? text m.stop.offset (byteLength text)
    match (Cursor.start rest).find? (closingTag m.body) with
    | none => some { position, discovery := .unclosed m.start.offset m.stop.offset }
    | some (closing, _) =>
      let payloadStop := m.stop.offset + closing.offset
      let payload ← textBetween? text m.stop.offset payloadStop
      some
        { position
          discovery := .element
            { start := m.start.offset
              payloadStart := m.stop.offset
              payloadStop
              stop := payloadStop + byteLength (closingTag m.body)
              payload } }

/-- The rounds of a search that begins at an offset and goes on as long as it does not leave the
    text. There is no result if a round fails or if more than `limit` rounds are needed. -/
def rounds? (opening : Template) (text : List Char) : Nat → Nat → Option (List Round)
  | 0, position => if position ≤ byteLength text then none else some []
  | limit + 1, position =>
    if position ≤ byteLength text then do
      let r ← round? opening text position
      match r.discovery.next? with
      | none => some [r]
      | some next => return r :: (← rounds? opening text limit next)
    else some []

/-- The round begins at a boundary of the text, all pieces that it cuts out go from a boundary
    to a boundary that is not in front of it, and it leads to a later boundary. -/
structure Round.IsSafe (text : List Char) (r : Round) : Prop where
  position : IsBoundary text r.position
  pieces : ∀ piece ∈ r.discovery.pieces (byteLength text),
    IsBoundary text piece.1 ∧ IsBoundary text piece.2 ∧ piece.1 ≤ piece.2
  next : ∀ next, r.discovery.next? = some next → IsBoundary text next ∧ r.position < next

variable {medium : Medium} {marker : String} {text v : List Char} {c : Cursor} {m : Capture}

/-! ### What a search passes -/

/-- The marked elements behind a position. -/
def elementsFrom (medium : Medium) (marker : String) (c : Cursor) : List Element :=
  c.scan fun d => (element? (openingTag medium marker) d).map fun e => (e, e.stop)

theorem element?_eq_none_of_match? {d : Cursor}
    (h : ((openingTag medium marker).match? d).isSome = false) :
    element? (openingTag medium marker) d = none := by
  rw [element?, Option.not_isSome_iff_eq_none.1 (Bool.eq_false_iff.1 h)]

theorem elementsFrom_eq_seek (c : Cursor) :
    elementsFrom medium marker c =
      match c.seek fun d => ((openingTag medium marker).match? d).isSome with
      | some d => elementsFrom medium marker d
      | none => [] :=
  Cursor.scan_eq_seek progresses_element?
    (fun _ h => by rw [element?_eq_none_of_match? h]; rfl) c

theorem elementsFrom_of_first?_eq_none (h : (openingTag medium marker).first? c = none) :
    elementsFrom medium marker c = [] := by
  rw [elementsFrom_eq_seek]
  split
  · rename_i d hd
    obtain ⟨m, hm⟩ := Option.isSome_iff_exists.1 (Cursor.seek_eq_some hd).1
    rw [Template.first?, hd, Option.bind_some, hm] at h
    cases h
  · rfl

/-- The first match begins behind the position, it is the match there, and no element lies in
    front of it. -/
theorem exists_of_first? (h : (openingTag medium marker).first? c = some m) :
    (∃ w, c.Reaches w m.start) ∧ (openingTag medium marker).match? m.start = some m
      ∧ elementsFrom medium marker c = elementsFrom medium marker m.start := by
  obtain ⟨d, hd, hm⟩ := Option.bind_eq_some_iff.1 h
  obtain ⟨rfl, -⟩ := Template.exists_of_match? hm
  refine ⟨(Cursor.seek_eq_some hd).2, hm, ?_⟩
  rw [elementsFrom_eq_seek, hd]

/-! ### One round -/

theorem round?_of_first?_eq_none (hc : (Cursor.start text).Reaches v c)
    (h : (openingTag medium marker).first? c = none) :
    round? (openingTag medium marker) text c.offset
      = some { position := c.offset, discovery := .nothing } := by
  rw [round?, Cursor.atOffset?_eq_some_iff.2 ⟨⟨v, hc⟩, rfl⟩]
  simp only [Option.bind_eq_bind, Option.bind_some, h]

theorem round?_of_unclosed (hc : (Cursor.start text).Reaches v c)
    (h : (openingTag medium marker).first? c = some m)
    (hnone : element? (openingTag medium marker) m.start = none) :
    round? (openingTag medium marker) text c.offset
      = some { position := c.offset, discovery := .unclosed m.start.offset m.stop.offset } := by
  obtain ⟨⟨w, hw⟩, hm, -⟩ := exists_of_first? h
  obtain ⟨tag, htag, -⟩ := exists_openingTag hm
  rw [element?, hm] at hnone
  have hclosing := Cursor.find?_eq_none_iff.1 (Option.map_eq_none_iff.1 hnone)
  have hrest : (Cursor.start m.stop.after).find? (closingTag m.body) = none :=
    Cursor.find?_eq_none_iff.2 hclosing
  rw [round?, Cursor.atOffset?_eq_some_iff.2 ⟨⟨v, hc⟩, rfl⟩]
  simp only [Option.bind_eq_bind, Option.bind_some, h, hrest,
    (hc.trans (hw.trans htag)).textBetween?_after]

theorem round?_of_element {e : Element} (hc : (Cursor.start text).Reaches v c)
    (h : (openingTag medium marker).first? c = some m)
    (he : element? (openingTag medium marker) m.start = some e) :
    round? (openingTag medium marker) text c.offset
      = some { position := c.offset, discovery := .element (extent e) } := by
  obtain ⟨⟨w, hw⟩, hm, -⟩ := exists_of_first? h
  obtain ⟨tag, htag, -⟩ := exists_openingTag hm
  have hstop := hc.trans (hw.trans htag)
  obtain ⟨hstart, m', hmarks⟩ := marks_of_element? he
  obtain rfl : m' = m := by
    have hmatch := hmarks.match?_eq
    rw [hstart, hm] at hmatch
    exact (Option.some.inj hmatch).symm
  rw [element?, hm] at he
  obtain ⟨⟨payloadStop, stop⟩, hfound, rfl⟩ := Option.map_eq_some_iff.1 he
  obtain ⟨d, d', hrest, hoffset⟩ := Cursor.exists_find?_start hfound
  have hpayload := hstop.textBetween?_eq hmarks.payload_reaches
  have hclosing := hmarks.closing_reaches.offset_eq
  simp only at hpayload hclosing
  rw [round?, Cursor.atOffset?_eq_some_iff.2 ⟨⟨v, hc⟩, rfl⟩]
  simp only [Option.bind_eq_bind, Option.bind_some, h, hstop.textBetween?_after, hrest, ← hoffset,
    hpayload, ← hclosing, extent]

/-- What a round makes of the elements behind the position where it begins. The search ends, and
    there are none, or it goes on behind that position, and no other one lies between than the
    one that is found. -/
inductive Round.Passes (medium : Medium) (marker : String) (c : Cursor) (r : Round) : Prop
  | ends : r.discovery.next? = none → r.discovery.element? = none →
    elementsFrom medium marker c = [] → Passes medium marker c r
  | goesOn {w : List Char} {d : Cursor} : w ≠ [] → c.Reaches w d →
    r.discovery.next? = some d.offset →
      (elementsFrom medium marker c).map extent
        = r.discovery.element?.toList ++ (elementsFrom medium marker d).map extent →
        Passes medium marker c r

/-- A round that goes on behind its position is safe if the pieces that it cuts out are. -/
theorem Round.Passes.isSafe {r : Round} (h : r.Passes medium marker c)
    (hc : (Cursor.start text).Reaches v c) (hposition : r.position = c.offset)
    (hpieces : ∀ piece ∈ r.discovery.pieces (byteLength text),
      ∃ w, textBetween? text piece.1 piece.2 = some w) : r.IsSafe text where
  position := hposition ▸ hc.isBoundary
  pieces piece hpiece := by
    obtain ⟨w, hw⟩ := hpieces piece hpiece
    exact isBoundary_of_textBetween? hw
  next next hnext := by
    rcases h with ⟨hends, -, -⟩ | ⟨hw, hd, hgoes, -⟩
    · rw [hends] at hnext
      cases hnext
    · rw [hgoes] at hnext
      obtain rfl := Option.some.inj hnext
      exact ⟨(hc.trans hd).isBoundary, hposition ▸ hd.offset_lt hw⟩

/-- From an opening tag without a closing tag the search goes on behind its first character. -/
theorem passes_unclosed (h : (openingTag medium marker).first? c = some m)
    (hnone : element? (openingTag medium marker) m.start = none) (position : Nat) :
    Round.Passes medium marker c
      { position, discovery := .unclosed m.start.offset m.stop.offset } := by
  obtain ⟨⟨w, hw⟩, hm, hsame⟩ := exists_of_first? h
  obtain ⟨tag, htag, -⟩ := exists_openingTag hm
  obtain ⟨d, hd, -⟩ := Cursor.Reaches.exists_of_cons (x := '<') htag
  have hoffset : m.start.offset + 1 = d.offset := hd.offset_eq.symm
  refine .goesOn (List.append_ne_nil_of_right_ne_nil w (List.cons_ne_nil '<' [])) (hw.trans hd)
    (congrArg some hoffset) ?_
  have hscan : elementsFrom medium marker m.start = elementsFrom medium marker d := by
    rw [elementsFrom, Cursor.scan_eq progresses_element?, hnone, Cursor.next?_eq_some_iff.2 hd]
    rfl
  rw [hsame, hscan]
  rfl

/-- From an element the search goes on behind its closing tag. -/
theorem passes_element {e : Element} (h : (openingTag medium marker).first? c = some m)
    (he : element? (openingTag medium marker) m.start = some e) (position : Nat) :
    Round.Passes medium marker c { position, discovery := .element (extent e) } := by
  obtain ⟨⟨w, hw⟩, -, hsame⟩ := exists_of_first? h
  obtain ⟨u, hu, hstop⟩ := consumes_element? _ _ he
  refine .goesOn (List.append_ne_nil_of_right_ne_nil w hu) (hw.trans hstop) rfl ?_
  have hscan : elementsFrom medium marker m.start = e :: elementsFrom medium marker e.stop :=
    Cursor.scan_eq_of_some progresses_element? (by rw [he]; rfl)
  rw [hsame, hscan]
  rfl

/-- Where the search has come to a position of the text, the next round does not fail. -/
theorem exists_round (medium : Medium) (marker : String) (hc : (Cursor.start text).Reaches v c) :
    ∃ r, round? (openingTag medium marker) text c.offset = some r ∧ r.position = c.offset
      ∧ r.IsSafe text ∧ r.Passes medium marker c := by
  cases h : (openingTag medium marker).first? c with
  | none =>
    have hpasses : Round.Passes medium marker c { position := c.offset, discovery := .nothing } :=
      .ends rfl rfl (elementsFrom_of_first?_eq_none h)
    exact ⟨_, round?_of_first?_eq_none hc h, rfl,
      hpasses.isSafe hc rfl fun piece hpiece => absurd hpiece List.not_mem_nil, hpasses⟩
  | some m =>
    obtain ⟨⟨w, hw⟩, hm, -⟩ := exists_of_first? h
    obtain ⟨tag, htag, -⟩ := exists_openingTag hm
    have hstop := hc.trans (hw.trans htag)
    cases he : element? (openingTag medium marker) m.start with
    | none =>
      have hpasses := passes_unclosed h he c.offset
      refine ⟨_, round?_of_unclosed hc h he, rfl, hpasses.isSafe hc rfl fun piece hpiece => ?_,
        hpasses⟩
      obtain rfl := List.mem_singleton.1 hpiece
      exact ⟨_, hstop.textBetween?_after⟩
    | some e =>
      have hpasses := passes_element h he c.offset
      refine ⟨_, round?_of_element hc h he, rfl, hpasses.isSafe hc rfl fun piece hpiece => ?_,
        hpasses⟩
      obtain ⟨hstart, tag, htag, hpayload, -⟩ := exists_of_element? he
      have hbegin := hc.trans (hw.trans htag)
      rcases List.mem_pair.1 hpiece with rfl | rfl
      · exact ⟨_, hbegin.textBetween?_after⟩
      · exact ⟨_, hbegin.textBetween?_eq hpayload⟩

/-! ### All rounds -/

/-- From a position of the text on, there are at most as many rounds as bytes behind it, and one
    more, and they find the elements behind it. -/
theorem exists_rounds (medium : Medium) (marker : String) {limit : Nat}
    (hc : (Cursor.start text).Reaches v c) (hlimit : byteLength c.after < limit) :
    ∃ rounds, rounds? (openingTag medium marker) text limit c.offset = some rounds
      ∧ rounds.length ≤ byteLength c.after + 1
      ∧ (∀ r ∈ rounds, r.IsSafe text ∧ c.offset ≤ r.position)
      ∧ rounds.Pairwise (fun r s => r.position < s.position)
      ∧ rounds.filterMap (·.discovery.element?) = (elementsFrom medium marker c).map extent := by
  induction limit generalizing v c with
  | zero => omega
  | succ limit ih =>
    have hle : c.offset ≤ byteLength text := hc.isBoundary.le_byteLength
    obtain ⟨r, hround, hposition, hsafe, hpasses⟩ := exists_round medium marker hc
    rw [rounds?, if_pos hle, hround]
    rcases hpasses with ⟨hnext, helement, hnone⟩ | ⟨hw, hd, hnext, helements⟩
    · refine ⟨[r], by simp [hnext], by simp, ?_, List.pairwise_singleton _ _, ?_⟩
      · rintro s hs
        obtain rfl := List.mem_singleton.1 hs
        exact ⟨hsafe, hposition.ge⟩
      · simp [helement, hnone]
    · rename_i w d
      -- The next round begins later, so the rest of the text is shorter there.
      have hlt := hd.offset_lt hw
      have hbytes : byteLength c.after = byteLength w + byteLength d.after := by
        rw [hd.after, byteLength_append]
      have hpos := byteLength_pos hw
      obtain ⟨rounds, hrounds, hlength, hall, hpairwise, hfound⟩ :=
        ih (hc.trans hd) (by omega)
      refine ⟨r :: rounds, by simp [hnext, hrounds], ?_, ?_, ?_, ?_⟩
      · rw [List.length_cons]
        omega
      · rintro s hs
        rcases List.mem_cons.1 hs with rfl | hs
        · exact ⟨hsafe, hposition.ge⟩
        · exact ⟨(hall s hs).1, by have := (hall s hs).2; omega⟩
      · refine List.pairwise_cons.2 ⟨fun s hs => ?_, hpairwise⟩
        have := (hall s hs).2
        omega
      · rw [helements, ← hfound]
        cases helement : r.discovery.element? <;> simp [helement]

/-- The search for marked elements comes to an end after at most one round more than the text
    has bytes. No round fails: each one begins at a boundary of the text and cuts the text at
    boundaries only, and a round with another one behind it leads to a later boundary, whether
    it finds an element or not. What the rounds find are the marked elements of the text. -/
theorem exists_safe_rounds (medium : Medium) (marker : String) (text : List Char) :
    ∃ rounds, rounds? (openingTag medium marker) text (byteLength text + 1) 0 = some rounds
      ∧ rounds.length ≤ byteLength text + 1
      ∧ (∀ r ∈ rounds, r.IsSafe text ∧ r.position ≤ byteLength text)
      ∧ rounds.Pairwise (fun r s => r.position < s.position)
      ∧ rounds.filterMap (·.discovery.element?) = (elements medium marker text).map extent := by
  obtain ⟨rounds, hrounds, hlength, hall, hpairwise, hfound⟩ :=
    exists_rounds medium marker (.refl (Cursor.start text)) (Nat.lt_succ_self (byteLength text))
  exact ⟨rounds, hrounds, hlength,
    fun r hr => ⟨(hall r hr).1, (hall r hr).1.position.le_byteLength⟩, hpairwise, hfound⟩

/-- In front of the element there is an opening tag without a closing tag, and some characters
    of this text have two bytes. -/
def nestedText : List Char :=
  "é<p class=\"m\"><b class=\"m\">ü</b>".toList

/-- The element of this text. -/
def nestedExtent : Extent where
  start := 15
  payloadStart := 28
  payloadStop := 30
  stop := 34
  payload := ['ü']

/-- Three rounds are needed: one for the tag that is not closed, one for the element, and one
    that finds nothing at the end of the text. -/
theorem exists_safe_rounds_nested :
    ∃ r s t, rounds? (openingTag .markup "m") nestedText (byteLength nestedText + 1) 0
        = some [r, s, t]
      ∧ r = { position := 0, discovery := .unclosed 2 15 }
      ∧ s = { position := 3, discovery := .element nestedExtent }
      ∧ t = { position := 34, discovery := .nothing }
      ∧ r.IsSafe nestedText ∧ s.IsSafe nestedText ∧ t.IsSafe nestedText
      ∧ (elements .markup "m" nestedText).map extent = [nestedExtent] := by
  obtain ⟨rounds, hrounds, -, hsafe, -, hfound⟩ := exists_safe_rounds .markup "m" nestedText
  have hthree : rounds? (openingTag .markup "m") nestedText (byteLength nestedText + 1) 0
      = some [{ position := 0, discovery := .unclosed 2 15 },
        { position := 3, discovery := .element nestedExtent },
        { position := 34, discovery := .nothing }] := by
    decide +kernel
  obtain rfl := Option.some.inj (hrounds.symm.trans hthree)
  exact ⟨_, _, _, hthree, rfl, rfl, rfl, (hsafe _ (by simp)).1, (hsafe _ (by simp)).1,
    (hsafe _ (by simp)).1, hfound.symm⟩

end Marker

end CatalogAudit
