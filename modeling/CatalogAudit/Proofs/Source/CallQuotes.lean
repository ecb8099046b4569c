import CatalogAudit.Proofs.Source.Calls

/-!
# The quotes of a call

The pattern for calls asks for a quote in front of the literal and for one behind it, but
not for the same one. So the literal ends at the first quote of any kind, also where the
script goes on with it: of `l("x')")` the pattern finds `l("x')` with the literal `x`. All
else about the calls that are found is as it should be. They are written where they are
found, with the name at the beginning of a word, and they do not overlap.

* `Call.Written.StandsAt`: a call as it is written in a text.
* `Call.exists_find`: every call that is written is found or begins within one that is.
* `Call.areCalls_finds`: what is found, and when all of it has one kind of quote.
-/

namespace CatalogAudit.Call

/-- A call: what stands in front of the name of the function, and the argument. -/
structure Written where
  receiver : List Char
  argument : Argument
  receiver_mem : receiver ∈ receivers

namespace Written

/-- How a call is written. -/
def text (function : String) (w : Written) : List Char :=
  callText w.receiver function.toList w.argument

/-- The argument ends with the quote that it begins with. -/
def IsQuoted (w : Written) : Prop :=
  w.argument.openingQuote = w.argument.closingQuote

/-- A text goes on with a call at an offset, and the name of the function begins a word
    there. -/
def StandsAt (function : String) (text : List Char) (w : Written) (offset : Nat) : Prop :=
  ∃ before, before ++ w.text function <+: text ∧ byteLength before = offset
    ∧ ∀ x ∈ (before ++ w.receiver).getLast?, Unicode.isWord x = false

/-- A find is the call, with its literal. -/
structure IsFound (function : String) (text : List Char) (w : Written) (f : Find) : Prop where
  standsAt : w.StandsAt function text f.offset
  literal_eq : w.argument.literal = f.literal

/-- Where a call ends that begins at an offset. -/
def stop (function : String) (w : Written) (offset : Nat) : Nat :=
  offset + byteLength (w.text function)

end Written

/-- What is found in a text are calls that do not overlap. -/
structure AreCalls (function : String) (text : List Char) (found : List Find) : Prop where
  exists_written : ∀ f ∈ found, ∃ w : Written, w.IsFound function text f
  separate : found.Pairwise fun f g =>
    ∀ w : Written, w.IsFound function text f → w.stop function f.offset ≤ g.offset
  /-- All of them are quoted exactly if every call with two kinds of quotes in the text begins
      within another one that is found. -/
  isQuoted_iff : (∀ f ∈ found, ∃ w : Written, w.IsFound function text f ∧ w.IsQuoted)
    ↔ ∀ offset (v : Written), v.StandsAt function text offset → ¬v.IsQuoted →
      ∃ f ∈ found, ∃ w : Written, w.IsFound function text f
        ∧ f.offset < offset ∧ offset < w.stop function f.offset

variable {function : String} {text : List Char} {w v : Written} {f g : Find} {offset : Nat}

/-! ### What stands in a text -/

theorem previous?_of_reaches {before : List Char} {c : Cursor}
    (h : (Cursor.start text).Reaches before c) : c.previous? = before.getLast? := by
  rw [Cursor.previous?, h.before, Cursor.start, List.append_nil, List.head?_reverse]

/-- A call that stands in a text goes from one position of it to another one. -/
theorem Written.StandsAt.exists_reaches (h : w.StandsAt function text offset) :
    ∃ before c d, (Cursor.start text).Reaches before c ∧ c.offset = offset
      ∧ c.Reaches (w.text function) d
      ∧ ∀ x ∈ (before ++ w.receiver).getLast?, Unicode.isWord x = false := by
  obtain ⟨before, hstands, rfl, hboundary⟩ := h
  obtain ⟨c, d, hc, hd⟩ := Cursor.exists_reaches hstands
  exact ⟨before, c, d, hc, hc.offset_of_start, hd, hboundary⟩

/-- At one offset of a text stands one call at most. -/
theorem Written.StandsAt.unique (hf : isIdentifier function = true)
    (hw : w.StandsAt function text offset) (hv : v.StandsAt function text offset) : w = v := by
  obtain ⟨before, c, d, hc, hoffset, hd, -⟩ := hw.exists_reaches
  obtain ⟨before', c', d', hc', hoffset', hd', -⟩ := hv.exists_reaches
  obtain rfl : c = c' := hc.eq_of_offset_eq hc' (hoffset.trans hoffset'.symm)
  have hdot : '.' ∉ function.toList := notMem_of_isIdentifier hf (by decide)
  obtain ⟨hreceiver, hargument⟩ := callText_unique hdot w.receiver_mem v.receiver_mem
    (hd.after.symm.trans hd'.after)
  cases w
  cases v
  congr

/-! ### What is found -/

/-- A match in a text is a call, from its start to its end. -/
theorem exists_isFound_of_mem_all (hf : isIdentifier function = true) {m : Capture}
    (hm : m ∈ (calls function).all text) :
    ∃ w : Written, w.IsFound function text { offset := m.start.offset, literal := m.body }
      ∧ w.stop function m.start.offset = m.stop.offset := by
  obtain ⟨before, hbefore, hmatch⟩ := Template.match?_of_mem_all consumes_calls hm
  obtain ⟨receiver, hreceiver, e, he, hboundary, a, ha, hbody⟩ := exists_boundary hmatch
  have hcall := he.trans ha
  refine ⟨⟨receiver, a, hreceiver⟩, ⟨⟨before, ?_, hbefore.offset_of_start.symm, ?_⟩, hbody.symm⟩,
    hcall.offset_eq.symm⟩
  · exact ⟨m.stop.after, (hbefore.trans hcall).after.symm⟩
  · rw [← previous?_of_reaches (hbefore.trans he)]
    exact (holds_wordBoundary_iff hf ha).1 hboundary

theorem exists_isFound (hf : isIdentifier function = true)
    (h : f ∈ finds (calls function) text) : ∃ w : Written, w.IsFound function text f := by
  obtain ⟨m, hm, rfl⟩ := List.mem_map.1 h
  obtain ⟨w, hw, -⟩ := exists_isFound_of_mem_all hf hm
  exact ⟨w, hw⟩

/-- A call that stands in a text is found, or it begins within one that is. -/
theorem exists_find (hf : isIdentifier function = true)
    (h : w.StandsAt function text offset) :
    ∃ f ∈ finds (calls function) text, f.offset = offset ∨ ∃ v : Written,
      v.IsFound function text f ∧ f.offset < offset ∧ offset < v.stop function f.offset := by
  obtain ⟨before, c, d, hc, rfl, hd, hboundary⟩ := h.exists_reaches
  have hprevious (hnil : w.receiver = []) : ∀ x ∈ c.previous?, Unicode.isWord x = false := by
    rwa [previous?_of_reaches hc, ← List.append_nil before, ← hnil]
  obtain ⟨m, hmatch, -⟩ := exists_match? hf w.receiver_mem hprevious hd
  obtain ⟨n, hn, hplace⟩ := Template.exists_mem_all consumes_calls hc hmatch
  refine ⟨_, List.mem_map_of_mem hn, ?_⟩
  rcases hplace with rfl | ⟨hstart, hstop⟩
  · exact .inl rfl
  · obtain ⟨v, hv, hend⟩ := exists_isFound_of_mem_all hf hn
    exact .inr ⟨v, hv, hstart, hend ▸ hstop⟩

/-- The calls that are found do not overlap. -/
theorem pairwise_stop_finds (hf : isIdentifier function = true) (text : List Char) :
    (finds (calls function) text).Pairwise fun f g =>
      ∀ w : Written, w.IsFound function text f → w.stop function f.offset ≤ g.offset := by
  refine List.pairwise_map.2 ((Template.pairwise_stop_all consumes_calls text).imp_of_mem ?_)
  intro m n hm _ hle w hw
  obtain ⟨v, hv, hend⟩ := exists_isFound_of_mem_all hf hm
  obtain rfl := hw.standsAt.unique hf hv.standsAt
  exact hend ▸ hle

/-- No call that is found begins within another one. -/
theorem stop_le_of_lt (hf : isIdentifier function = true)
    (hfind : f ∈ finds (calls function) text) (hother : g ∈ finds (calls function) text)
    (hw : w.IsFound function text f) (hlt : f.offset < g.offset) :
    w.stop function f.offset ≤ g.offset := by
  obtain ⟨i, hi, rfl⟩ := List.getElem_of_mem hfind
  obtain ⟨j, hj, rfl⟩ := List.getElem_of_mem hother
  have hpairwise := List.pairwise_iff_getElem.1 (pairwise_stop_finds hf text)
  rcases Nat.lt_trichotomy i j with hij | rfl | hji
  · exact hpairwise i j hi hj hij w hw
  · exact absurd hlt (Nat.lt_irrefl _)
  · -- A call in front of this one would end in front of it.
    obtain ⟨v, hv⟩ := exists_isFound hf hother
    have hle := hpairwise j i hj hi hji v hv
    rw [Written.stop] at hle
    omega

/-- What is found in a text are calls, but they need not be quoted. -/
theorem areCalls_finds (hf : isIdentifier function = true) (text : List Char) :
    AreCalls function text (finds (calls function) text) where
  exists_written _ h := exists_isFound hf h
  separate := pairwise_stop_finds hf text
  isQuoted_iff := by
    constructor
    · intro hquoted offset v hv hmixed
      obtain ⟨f, hfind, rfl | hwithin⟩ := exists_find hf hv
      · -- The call itself is found, and so it is quoted.
        obtain ⟨w, hw, hsame⟩ := hquoted f hfind
        obtain rfl := hw.standsAt.unique hf hv
        exact absurd hsame hmixed
      · exact ⟨f, hfind, hwithin⟩
    · intro hmixed f hfind
      obtain ⟨w, hw⟩ := exists_isFound hf hfind
      refine ⟨w, hw, by_contra fun hnot => ?_⟩
      obtain ⟨g, hother, v, hv, hlt, hwithin⟩ := hmixed _ w hw.standsAt hnot
      exact Nat.not_le_of_lt hwithin (stop_le_of_lt hf hother hfind hv hlt)

/-- Two calls with different quotes, one of them with the receiver. -/
def twoCalls : List Char :=
  "l('One') + this.l(\"Two\")".toList

theorem areCalls_finds_two_calls :
    isIdentifier "l" = true
      ∧ finds (calls "l") twoCalls = [⟨0, "One".toList⟩, ⟨11, "Two".toList⟩]
      ∧ AreCalls "l" twoCalls (finds (calls "l") twoCalls) := by
  have hf : isIdentifier "l" = true := by decide +kernel
  exact ⟨hf, by decide +kernel, areCalls_finds hf twoCalls⟩

/-- A call whose literal holds a quote of another kind in front of a parenthesis. -/
def quoteInLiteral : List Char :=
  "l(\"x')\")".toList

/-- The beginning of this call up to the parenthesis in the literal is a call, too, but its
    quotes are of two kinds. -/
theorem exists_standsAt_quoteInLiteral :
    ∃ w : Written, w.StandsAt "l" quoteInLiteral 0 ∧ ¬w.IsQuoted := by
  refine ⟨⟨[], {
    blanksBefore := []
    blanksInFront := []
    openingQuote := '"'
    literal := ['x']
    closingQuote := '\''
    blanksBehind := []
    isWhiteSpace_of_mem_before := by simp
    isWhiteSpace_of_mem_inFront := by simp
    openingQuote_mem := by decide
    literal_ne_nil := by decide
    notMem_quotes_literal := by simp [quotes]
    closingQuote_mem := by decide
    isWhiteSpace_of_mem_behind := by simp }, by decide⟩, ⟨[], ?_, rfl, ?_⟩, ?_⟩
  · decide
  · simp
  · simp [Written.IsQuoted]

/-- The literal is found cut off, and what is found is not quoted. -/
theorem not_isQuoted_quoteInLiteral :
    isIdentifier "l" = true
      ∧ finds (calls "l") quoteInLiteral = [⟨0, "x".toList⟩]
      ∧ ¬∀ f ∈ finds (calls "l") quoteInLiteral,
        ∃ w : Written, w.IsFound "l" quoteInLiteral f ∧ w.IsQuoted := by
  have hf : isIdentifier "l" = true := by decide +kernel
  have hfinds : finds (calls "l") quoteInLiteral = [⟨0, "x".toList⟩] := by decide +kernel
  refine ⟨hf, hfinds, fun hall => ?_⟩
  obtain ⟨w, hw, hquoted⟩ := hall ⟨0, "x".toList⟩ (hfinds ▸ List.mem_singleton_self _)
  obtain ⟨v, hv, hmixed⟩ := exists_standsAt_quoteInLiteral
  obtain rfl := hw.standsAt.unique hf hv
  exact hmixed hquoted

end CatalogAudit.Call
