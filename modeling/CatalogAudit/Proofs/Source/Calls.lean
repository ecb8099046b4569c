import CatalogAudit.Proofs.Regex.Words
import CatalogAudit.Proofs.Source.Form
import CatalogAudit.Proofs.Text.Split
import CatalogAudit.Proofs.Unicode.Classes

/-!
# Calls as they are written

A call is white space, parentheses, quotes and a literal behind a name. Each of
these parts ends at the first character that it cannot contain, so a text that
begins with a call does so in one way, and the pattern for calls matches the
call as it is written.

* `callText_unique`: the call that a text begins with.
* `receiver_eq_of_front_eq`, `receiver_ne`: what stands in front of the name.
* `exists_match?`, `exists_match?_of_interpolation`: a call is matched as a whole, and an
  interpolation is matched.
-/

namespace CatalogAudit.Call

open Regex

/-! ### One way to read a call -/

section Unique

variable {a b : Argument} {u v : List Char}

theorem not_isWhiteSpace {x : Char} (h : x ∈ Unicode.delimiters) :
    ¬Unicode.isWhiteSpace x = true :=
  Bool.eq_false_iff.1 (Unicode.classes_of_mem_delimiters h).2.2.1

theorem quotes_subset_delimiters : quotes ⊆ Unicode.delimiters := by decide

/-- No delimiter is among white space. -/
theorem notMem_of_isWhiteSpace {x : Char} {blanks : List Char}
    (h : ∀ y ∈ blanks, Unicode.isWhiteSpace y = true) (hx : x ∈ Unicode.delimiters) :
    x ∉ blanks := fun hmem =>
  not_isWhiteSpace hx (h x hmem)

/-- A text begins with one argument at most. -/
theorem Argument.text_unique (h : a.text ++ u = b.text ++ v) : a = b ∧ u = v := by
  have hparenthesis : ¬Unicode.isWhiteSpace '(' = true := not_isWhiteSpace (by decide)
  have hclosing : ¬Unicode.isWhiteSpace ')' = true := not_isWhiteSpace (by decide)
  have hquotes {q : Char} (hq : q ∈ quotes) : ¬Unicode.isWhiteSpace q = true :=
    not_isWhiteSpace (quotes_subset_delimiters hq)
  -- White space ends at a delimiter, and the literal at the closing quote.
  simp only [text, List.append_assoc, List.cons_append, List.nil_append] at h
  obtain ⟨hbefore, -, h⟩ := split_unique a.isWhiteSpace_of_mem_before b.isWhiteSpace_of_mem_before
    hparenthesis hparenthesis h
  obtain ⟨hinFront, hquote, h⟩ := split_unique a.isWhiteSpace_of_mem_inFront
    b.isWhiteSpace_of_mem_inFront (hquotes a.openingQuote_mem) (hquotes b.openingQuote_mem) h
  obtain ⟨hliteral, hquote', h⟩ := split_unique a.notMem_quotes_literal b.notMem_quotes_literal
    (not_not.2 a.closingQuote_mem) (not_not.2 b.closingQuote_mem) h
  obtain ⟨hbehind, -, huv⟩ := split_unique a.isWhiteSpace_of_mem_behind b.isWhiteSpace_of_mem_behind
    hclosing hclosing h
  refine ⟨?_, huv⟩
  cases a
  cases b
  congr

variable {function r s : List Char}

/-- A call that begins with the name of a function does not begin with the receiver. -/
theorem not_this_isPrefix (hdot : '.' ∉ function) :
    ¬"this.".toList <+: callText [] function a ++ u := by
  rintro ⟨rest, h⟩
  have hblanks : '.' ∉ a.blanksBefore :=
    notMem_of_isWhiteSpace a.isWhiteSpace_of_mem_before (by decide)
  have hfirst : '.' ∉ function ++ a.blanksBefore := by simp [hdot, hblanks]
  have hthis : '(' ∉ "this".toList := by decide
  -- In front of the parenthesis there is no point, and in front of the point no parenthesis.
  have hsplit : (function ++ a.blanksBefore) ++ '(' :: (a.blanksInFront ++ ([a.openingQuote]
        ++ (a.literal ++ ([a.closingQuote] ++ (a.blanksBehind ++ ([')'] ++ u))))))
      = "this".toList ++ '.' :: rest := by
    simpa [callText, Argument.text] using h.symm
  exact absurd (eq_of_split hfirst hthis hsplit) (by decide)

theorem callText_ne_this (hdot : '.' ∉ function) :
    callText [] function a ++ u ≠ callText "this.".toList function b ++ v := by
  intro h
  refine not_this_isPrefix (a := a) (u := u) hdot ⟨function ++ b.text ++ v, ?_⟩
  rw [h, callText, List.append_assoc, List.append_assoc, List.append_assoc]

/-- A text begins with one call of a function at most. -/
theorem callText_unique (hdot : '.' ∉ function) (hr : r ∈ receivers) (hs : s ∈ receivers)
    (h : callText r function a ++ u = callText s function b ++ v) : r = s ∧ a = b := by
  have same (h : callText r function a ++ u = callText r function b ++ v) : a = b := by
    rw [callText, callText, List.append_assoc, List.append_assoc, List.append_assoc,
      List.append_assoc] at h
    exact (Argument.text_unique (List.append_cancel_left (List.append_cancel_left h))).1
  simp only [receivers, List.mem_cons, List.not_mem_nil, or_false] at hr hs
  rcases hr with rfl | rfl <;> rcases hs with rfl | rfl
  · exact ⟨rfl, same h⟩
  · exact absurd h (callText_ne_this hdot)
  · exact absurd h.symm (callText_ne_this hdot)
  · exact ⟨rfl, same h⟩

end Unique

/-! ### In front of the parenthesis -/

section Front

variable {function : String} (hf : isIdentifier function = true) {r s : List Char}
  {a b : Argument}

include hf in
theorem notMem_front (hr : r ∈ receivers) (a : Argument) :
    '(' ∉ r ++ function.toList ++ a.blanksBefore := by
  have hreceivers : ∀ r ∈ receivers, '(' ∉ r := by decide
  have hname : '(' ∉ function.toList := notMem_of_isIdentifier hf (by decide)
  have hblanks : '(' ∉ a.blanksBefore :=
    notMem_of_isWhiteSpace a.isWhiteSpace_of_mem_before (by decide)
  simp [hreceivers r hr, hname, hblanks]

include hf in
/-- White space begins behind the name, so what is in front of the name is told by
    what is in front of the parenthesis. -/
theorem receiver_eq_of_front_eq {before : List Char}
    (h : r ++ function.toList ++ a.blanksBefore
      = before ++ (s ++ function.toList ++ b.blanksBefore)) : r = before ++ s := by
  obtain ⟨x, rest, hx, -⟩ := exists_cons_of_isIdentifier hf
  obtain ⟨init, last, hlast⟩ : ∃ init last, function.toList = init ++ [last] :=
    (List.eq_nil_or_concat' function.toList).resolve_left (by simp [hx])
  have hblank : ¬Unicode.isWhiteSpace last = true :=
    Bool.eq_false_iff.1 (isWhiteSpace_eq_false_of_mem hf (by simp [hlast]))
  have hnames : (r ++ init) ++ last :: a.blanksBefore
      = (before ++ s ++ init) ++ last :: b.blanksBefore := by
    simpa [hlast] using h
  -- The last character of the name is the last one that is no white space.
  obtain ⟨hinit, -⟩ := split_last_unique a.isWhiteSpace_of_mem_before b.isWhiteSpace_of_mem_before
    hblank hblank hnames
  exact List.append_cancel_right hinit

/-- No receiver begins with code that ends behind a name. -/
theorem receiver_ne (hr : r ∈ receivers) {code more : List Char} (hne : code ≠ [])
    (hends : ∀ x ∈ code.getLast?, Unicode.isWord x = false ∧ x ≠ '.') : r ≠ code ++ more := by
  rintro rfl
  obtain ⟨hword, hpoint⟩ := hends _ (List.getLast?_eq_getLast_of_ne_nil hne)
  have hmem : code.getLast hne ∈ code ++ more := List.mem_append_left _ (List.getLast_mem hne)
  have hthis : ∀ x ∈ "this.".toList, Unicode.isWord x = true ∨ x = '.' :=
    List.all_iff_forall_prop.1 (by decide +kernel)
  simp only [receivers, List.mem_cons, List.not_mem_nil, or_false] at hr
  rcases hr with hnil | hreceiver
  · exact List.not_mem_nil (hnil ▸ hmem)
  · rcases hthis _ (hreceiver ▸ hmem) with hx | hx
    · exact absurd (hword.symm.trans hx) Bool.false_ne_true
    · exact hpoint hx

end Front

/-! ### A call is matched -/

variable {function : String} {a : Argument} {c d : Cursor}

/-- The parts of a match of an argument. -/
theorem exists_ends_argument (h : c.Reaches (function.toList ++ a.text) d) :
    ∃ bodyStart bodyStop, bodyStart ∈ (opening function).ends c
      ∧ bodyStop ∈ literal.ends bodyStart ∧ d ∈ (sequence closing).ends bodyStop := by
  obtain ⟨e₁, h₁, h⟩ := h.exists_of_append
  obtain ⟨e₂, h₂, h⟩ := h.exists_of_append
  obtain ⟨e₃, h₃, h⟩ := h.exists_of_append
  obtain ⟨e₄, h₄, h⟩ := h.exists_of_append
  obtain ⟨bodyStart, h₅, h⟩ := h.exists_of_append
  obtain ⟨bodyStop, h₆, h⟩ := h.exists_of_append
  obtain ⟨e₇, h₇, h⟩ := h.exists_of_append
  obtain ⟨e₈, h₈, h₉⟩ := h.exists_of_append
  refine ⟨bodyStart, bodyStop, ?_, ?_, ?_⟩
  · refine mem_ends_sequence (mem_ends_literal h₁) ?_
    refine mem_ends_sequence (mem_ends_zeroOrMore a.isWhiteSpace_of_mem_before h₂) ?_
    refine mem_ends_sequence (mem_ends_literal h₃) ?_
    refine mem_ends_sequence (mem_ends_zeroOrMore a.isWhiteSpace_of_mem_inFront h₄) ?_
    exact mem_ends_set (CharSet.contains_ofList.2 a.openingQuote_mem) h₅
  · exact mem_ends_oneOrMore a.literal_ne_nil (fun x hx =>
      CharSet.contains_except.2 (a.notMem_quotes_literal x hx)) h₆
  · refine mem_ends_sequence (mem_ends_set (CharSet.contains_ofList.2 a.closingQuote_mem) h₇) ?_
    refine mem_ends_sequence (mem_ends_zeroOrMore a.isWhiteSpace_of_mem_behind h₈) ?_
    exact mem_ends_literal h₉

/-- An interpolation is matched as it is written. -/
theorem exists_match?_of_interpolation (h : c.Reaches (interpolationText function.toList a) d) :
    ∃ m, (interpolations function).match? c = some m := by
  rw [interpolationText, ← List.append_assoc function.toList] at h
  obtain ⟨e, hdollar, h⟩ := h.exists_of_append
  obtain ⟨f, hname, hbrace⟩ := h.exists_of_append
  obtain ⟨bodyStart, bodyStop, hopening, hliteral, hclosing⟩ := exists_ends_argument hname
  have htrail : d ∈ (Regex.sequence (closing ++ [.literal "\x7d".toList])).ends bodyStop :=
    mem_ends_sequence_append hclosing (mem_ends_literal hbrace)
  exact Template.exists_match? (t := interpolations function)
    (mem_ends_seq (mem_ends_literal hdollar) hopening) hliteral htrail

theorem exists_match?_of_mem_ends {e : Cursor}
    (hreceiver : e ∈ (optional (.literal "this.".toList)).ends c)
    (hboundary : (Look.wordBoundary .word).holds e = true)
    (h : e.Reaches (function.toList ++ a.text) d) : ∃ m, (calls function).match? c = some m := by
  obtain ⟨bodyStart, bodyStop, hopening, hliteral, hclosing⟩ := exists_ends_argument h
  refine Template.exists_match? (t := calls function) ?_ hliteral hclosing
  exact mem_ends_seq hreceiver (mem_ends_seq (mem_ends_look_of_holds hboundary) hopening)

/-- A name begins at a boundary exactly if no word character is in front of it. -/
theorem holds_wordBoundary_iff (hf : isIdentifier function = true)
    (h : c.Reaches (function.toList ++ a.text) d) :
    (Look.wordBoundary .word).holds c = true ↔ ∀ x ∈ c.previous?, Unicode.isWord x = false := by
  obtain ⟨x, rest, hname, hx⟩ := exists_cons_of_isIdentifier hf
  have hpeek : c.peek? = some x := by
    rw [Cursor.peek?, h.after, hname]
    rfl
  have hholds : (Look.wordBoundary .word).holds c
      = (c.previous?.any Unicode.isWord != c.peek?.any Unicode.isWord) := rfl
  rw [hholds, hpeek]
  cases c.previous? with
  | none => simp [hx]
  | some y => simp [hx]

/-- A call is matched as it is written, if no word character is in front of it or it has the
    receiver. -/
theorem exists_match? (hf : isIdentifier function = true) {receiver : List Char}
    (hreceiver : receiver ∈ receivers)
    (hprevious : receiver = [] → ∀ x ∈ c.previous?, Unicode.isWord x = false)
    (h : c.Reaches (callText receiver function.toList a) d) :
    ∃ m, (calls function).match? c = some m ∧ m.start = c ∧ m.stop = d ∧ m.body = a.literal := by
  obtain ⟨m, hm⟩ : ∃ m, (calls function).match? c = some m := by
    obtain ⟨e, he, hname⟩ := h.exists_of_append
    simp only [receivers, List.mem_cons, List.not_mem_nil, or_false] at hreceiver
    rcases hreceiver with rfl | rfl
    · obtain rfl := (Cursor.Reaches.refl c).unique he
      exact exists_match?_of_mem_ends (mem_ends_optional_of_eq _ c)
        ((holds_wordBoundary_iff hf hname).2 (hprevious rfl)) hname
    · refine exists_match?_of_mem_ends (mem_ends_optional_of_mem (mem_ends_literal he))
        ((holds_wordBoundary_iff hf hname).2 fun x hx => ?_) hname
      -- The name stands behind the point of the receiver.
      have hpoint : e.previous? = some '.' := by
        rw [Cursor.previous?, he.before]
        rfl
      obtain rfl := Option.some.inj (hpoint.symm.trans hx)
      exact Unicode.isWord_eq_false_of_mem_delimiters (by decide)
  -- Whatever is matched here is a call, and the text begins with one call only.
  have hdot : '.' ∉ function.toList := notMem_of_isIdentifier hf (by decide)
  obtain ⟨other, hother, b, hb, hbody⟩ := exists_call hm
  obtain ⟨rfl, rfl⟩ := callText_unique hdot hother hreceiver (hb.after.symm.trans h.after)
  exact ⟨m, hm, (Template.exists_of_match? hm).1, hb.unique h, hbody⟩

end CatalogAudit.Call
