import CatalogAudit.Proofs.Source.Calls
import CatalogAudit.Proofs.Source.Pieces
import CatalogAudit.Proofs.Source.Usage

/-!
# Calls between other code

A script may be given as pieces: code without slashes and opening parentheses,
comments, and calls of the marking function. The search finds the calls again and
nothing else: a match runs up to the first parenthesis, which is that of the next
call, and the name of the function ends where white space begins. So a match that
begins in front of the call would begin with code that is part of the receiver.

* `PlainCall.not_infix_text`: no comment begins within a call.
* `CallPiece.letters_script_source`: what the comments leave.
* `CallPiece.callText_ne`: no call begins in front of those that are written.
* `CallPiece.callRecords_file`: the literals of the calls are recorded, each
  where its call stands in the file.
-/

namespace CatalogAudit

/-- A call with a literal in which no comment begins. -/
structure PlainCall where
  receiver : List Char
  argument : Call.Argument
  receiver_mem : receiver ∈ Call.receivers
  closingQuote_eq : argument.closingQuote = argument.openingQuote
  no_slashes : ¬['/', '/'].IsInfix argument.literal
  no_opening : ¬['/', '*'].IsInfix argument.literal

namespace PlainCall

/-- How a call is written. -/
def text (function : List Char) (c : PlainCall) : List Char :=
  Call.callText c.receiver function c.argument

/-- From the name of the function up to the literal. -/
def front (function : List Char) (c : PlainCall) : List Char :=
  c.receiver ++ (function ++ (c.argument.blanksBefore ++ ('(' :: (c.argument.blanksInFront
    ++ [c.argument.openingQuote]))))

/-- Behind the literal. -/
def back (c : PlainCall) : List Char :=
  c.argument.closingQuote :: (c.argument.blanksBehind ++ [')'])

theorem text_eq (function : List Char) (c : PlainCall) :
    c.text function = c.front function ++ (c.argument.literal ++ c.back) := by
  simp [text, Call.callText, Call.Argument.text, front, back]

theorem text_ne_nil (function : List Char) (c : PlainCall) : c.text function ≠ [] := by
  simp [text_eq, back]

theorem getLast?_text (function : List Char) (c : PlainCall) :
    (c.text function).getLast? = some ')' := by
  simp [text_eq, back, List.getLast?_append, List.getLast?_cons]

variable {function : List Char} {c : PlainCall}

/-- Delimiters stand in a call only as its parentheses and quotes and in the
    receiver. -/
theorem notMem_blanks {x : Char} (hx : x ∈ Unicode.delimiters) :
    x ∉ c.argument.blanksBefore ∧ x ∉ c.argument.blanksInFront ∧ x ∉ c.argument.blanksBehind :=
  ⟨Call.notMem_of_isWhiteSpace c.argument.isWhiteSpace_of_mem_before hx,
    Call.notMem_of_isWhiteSpace c.argument.isWhiteSpace_of_mem_inFront hx,
    Call.notMem_of_isWhiteSpace c.argument.isWhiteSpace_of_mem_behind hx⟩

/-- The slashes of a call are in its literal. -/
theorem notMem_front (hslash : '/' ∉ function) : '/' ∉ c.front function ∧ '/' ∉ c.back := by
  obtain ⟨hbefore, hinFront, hbehind⟩ := c.notMem_blanks (x := '/') (by decide)
  have hreceiver : ∀ r ∈ Call.receivers, '/' ∉ r := by decide
  have hquote {q : Char} (hq : q ∈ Call.quotes) : '/' ≠ q := fun he =>
    absurd (he ▸ hq) (by decide : '/' ∉ Call.quotes)
  have hopening := hquote c.argument.openingQuote_mem
  have hclosing := hquote c.argument.closingQuote_mem
  have hreceiver := hreceiver _ c.receiver_mem
  simp [front, back, hslash, hbefore, hinFront, hbehind, hopening, hclosing, hreceiver]

/-- No comment begins within a call. -/
theorem not_infix_text (hslash : '/' ∉ function) {x : Char} (hx : x ∉ Call.quotes)
    (h : ¬['/', x].IsInfix c.argument.literal) : ¬['/', x].IsInfix (c.text function) := by
  obtain ⟨hfront, hback⟩ := c.notMem_front hslash
  rw [text_eq, pair_infix_append_iff, pair_infix_append_iff]
  -- The first slash of a comment would be in the literal, and so would be the rest of the
  -- opening, since a quote is behind the literal.
  rintro (hpair | (hpair | hpair | ⟨-, hhead⟩) | ⟨hlast, -⟩)
  · exact not_pair_infix_of_notMem hfront hpair
  · exact h hpair
  · exact not_pair_infix_of_notMem hback hpair
  · obtain rfl : c.argument.closingQuote = x := Option.some.inj hhead
    exact hx c.argument.closingQuote_mem
  · exact hfront (List.mem_of_getLast? hlast)

/-- A pass over comments keeps a call, if none of its comments begins in the
    literal. -/
theorem outside_text (c : PlainCall) (offset : Nat) (hslash : '/' ∉ function) (style : CommentStyle)
    {x : Char} (hstyle : style.opening = ['/', x]) (hx : x ∉ Call.quotes)
    (h : ¬['/', x].IsInfix c.argument.literal) (l : List (Char × Nat)) :
    style.outside (located offset (c.text function) ++ l)
      = located offset (c.text function) ++ style.outside l := by
  refine CommentStyle.outside_append hstyle ?_ fun hlast => ?_
  · rw [chars_located]
    exact c.not_infix_text hslash hx h
  · rw [chars_located, getLast?_text] at hlast
    cases hlast

end PlainCall

/-! ### Comments -/

section Comment

variable {τ : Type} {c d n x y : Char × τ} {l w : List (Char × τ)}

/-- Of a comment up to the end of the line the newline is left. -/
theorem lines_line (hx : x.1 = '/') (hy : y.1 = '/') (hw : '\n' ∉ chars w) (hn : n.1 = '\n') :
    lines (x :: y :: (w ++ n :: l)) = n :: lines l := by
  rw [lines_cons, if_pos ⟨hx, by simp [hy]⟩, fromLineEnd_cons_of_ne (by simp [hy]),
    fromLineEnd_append_of_notMem hw, fromLineEnd_newline hn, lines_newline hn]

/-- The first pass keeps a comment that may span lines, and the second one drops
    it as a whole. -/
theorem blocks_lines_closed (hx : x.1 = '/') (hy : y.1 = '*') (hclosing : ¬['*', '/'].IsInfix (chars w))
    (hslashes : ¬['/', '/'].IsInfix (chars w)) (hc : c.1 = '*') (hd : d.1 = '/')
    (hn : n.1 = '\n') : blocks (lines (x :: y :: (w ++ c :: d :: n :: l))) = n :: blocks (lines l) := by
  have hkept : lines (x :: y :: (w ++ c :: d :: n :: l)) = x :: y :: (w ++ c :: d :: n :: lines l) := by
    have hpair : ¬['/', '/'].IsInfix (chars (x :: y :: (w ++ [c, d, n]))) := by
      simp [pair_infix_cons_iff, pair_infix_append_iff, hx, hy, hc, hd, hn, hslashes]
    have hpass := lines_append_of_no_slashes (l := l) hpair fun hlast => by
      simp [List.getLast?_cons, List.getLast?_append, hn] at hlast
    simpa using hpass
  rw [hkept, blocks_closed hx hy hclosing hc hd, blocks_cons_of_ne (by simp [hn])]

end Comment

/-! ### Pieces of a script -/

/-- A piece of a script with calls. -/
inductive CallPiece
  /-- Code that a call may follow: it ends neither in a name nor in the point behind
      an object. -/
  | filler (content : List Char) (plain : '/' ∉ content ∧ '(' ∉ content)
    (ends : ∀ x ∈ content.getLast?, Unicode.isWord x = false ∧ x ≠ '.')
  /-- From `//` up to and including a newline. -/
  | line (body : List Char) (single : '\n' ∉ body)
  /-- From `/*` up to and including the next `*/` and a newline. -/
  | block (body : List Char) (unclosed : ¬['*', '/'].IsInfix body)
    (plain : ¬['/', '/'].IsInfix body)
  | call (c : PlainCall)

namespace CallPiece

/-- How scripts are made of pieces. -/
def composition (function : List Char) : Composition CallPiece where
  text
    | filler content _ _ => content
    | line body _ => "//".toList ++ (body ++ ['\n'])
    | block body _ _ => "/*".toList ++ (body ++ ("*/".toList ++ ['\n']))
    | call c => c.text function
  kept
    | filler content _ _ => content
    | line _ _ | block _ _ _ => ['\n']
    | call c => c.text function
  keptAt
    | offset, filler content _ _ => located offset content
    | offset, line body _ => [('\n', offset + 2 + byteLength body)]
    | offset, block body _ _ => [('\n', offset + 2 + byteLength body + 2)]
    | offset, call c => located offset (c.text function)
  string?
    | filler _ _ _ | line _ _ | block _ _ _ => none
    | call c => some c.argument.literal
  chars_keptAt offset p := by cases p <;> simp
  begins p t ht offset := by
    cases p with
    | filler content _ _ => cases ht
    | line body _ => cases ht
    | block body _ _ => cases ht
    | call c =>
      obtain ⟨x, rest, hrest⟩ := List.exists_cons_of_ne_nil (c.text_ne_nil function)
      exact ⟨x, _, (congrArg (located offset) hrest).trans rfl⟩

variable {function : List Char}

/-- Calls are the pieces with a string. -/
theorem exists_call_of_string? {p : CallPiece} {t : List Char}
    (h : (composition function).string? p = some t) :
    ∃ c, p = call c ∧ c.argument.literal = t := by
  cases p with
  | filler content plain ends => cases h
  | line body single => cases h
  | block body unclosed plain => cases h
  | call c => exact ⟨c, rfl, Option.some.inj h⟩

/-- The letters that a script without comments has of its pieces. -/
theorem letters_script_source (hslash : '/' ∉ function) (pieces : List CallPiece) :
    (Stripped.script ((composition function).source pieces)).letters
      = (composition function).keptFrom 0 pieces := by
  rw [letters_script]
  refine Composition.pass_source (fun l => blocks (lines l)) (by simp)
    (fun offset p l => ?_) 0 pieces
  cases p with
  | filler content plain ends =>
    have hplain : '/' ∉ chars (located offset content) := by
      rw [chars_located]
      exact plain.1
    exact (congrArg blocks (lines_append_of_notMem hplain)).trans (blocks_append_of_notMem hplain)
  | line body single =>
    have hlocated : located offset ((composition function).text (line body single)) ++ l
        = ('/', offset) :: ('/', offset + 1) :: (located (offset + 2) body
          ++ ('\n', offset + 2 + byteLength body) :: l) := by
      have htext : (composition function).text (line body single)
        = ['/', '/'] ++ (body ++ ['\n']) := rfl
      rw [htext, located_append, located_append, List.append_assoc, List.append_assoc]
      rfl
    rw [hlocated, lines_line rfl rfl (by rwa [chars_located]) rfl, blocks_cons_of_ne (by simp)]
    rfl
  | block body unclosed plain =>
    have hlocated : located offset ((composition function).text (block body unclosed plain)) ++ l
        = ('/', offset) :: ('*', offset + 1) :: (located (offset + 2) body
          ++ ('*', offset + 2 + byteLength body) :: ('/', offset + 2 + byteLength body + 1)
            :: ('\n', offset + 2 + byteLength body + 2) :: l) := by
      have htext : (composition function).text (block body unclosed plain)
        = ['/', '*'] ++ (body ++ ['*', '/', '\n']) := rfl
      rw [htext, located_append, located_append, List.append_assoc, List.append_assoc]
      rfl
    rw [hlocated, blocks_lines_closed rfl rfl (by rwa [chars_located]) (by rwa [chars_located]) rfl
      rfl rfl]
    rfl
  | call c =>
    have hlines := c.outside_text offset hslash lineStyle rfl (by decide) c.no_slashes l
    have hblocks := c.outside_text offset hslash blockStyle rfl (by decide) c.no_opening (lines l)
    exact (congrArg blocks hlines).trans hblocks

/-! ### The search -/

theorem keptText_call (c : PlainCall) (rest : List CallPiece) :
    (composition function).keptText (call c :: rest)
      = (c.receiver ++ function ++ c.argument.blanksBefore) ++ '(' :: (c.argument.blanksInFront
        ++ [c.argument.openingQuote] ++ c.argument.literal ++ c.back
        ++ (composition function).keptText rest) := by
  have hkept : (composition function).kept (call c) = c.text function := rfl
  rw [Composition.keptText_cons, hkept, PlainCall.text_eq]
  simp [PlainCall.front]

/-- What a script without comments has of a piece other than a call: code without
    an opening parenthesis that ends behind a name. -/
theorem plain_kept {p : CallPiece} (h : (composition function).string? p = none) :
    '(' ∉ (composition function).kept p
      ∧ ∀ x ∈ ((composition function).kept p).getLast?, Unicode.isWord x = false ∧ x ≠ '.' := by
  have hnewline : '(' ∉ ['\n'] ∧ ∀ x ∈ ['\n'].getLast?, Unicode.isWord x = false ∧ x ≠ '.' := by
    refine ⟨by decide, fun x hx => ?_⟩
    obtain rfl := Option.some.inj hx
    decide +kernel
  cases p with
  | filler content plain ends => exact ⟨plain.2, ends⟩
  | line body single => exact hnewline
  | block body unclosed plain => exact hnewline
  | call c => cases h

/-- In front of the first opening parenthesis stands a call. -/
theorem notMem_or_exists_call (pieces : List CallPiece) :
    '(' ∉ (composition function).keptText pieces
      ∨ ∃ before, '(' ∉ before ∧ ∃ c : PlainCall, ∃ behind,
        (composition function).keptText pieces
          = (before ++ (c.receiver ++ function ++ c.argument.blanksBefore)) ++ '(' :: behind := by
  induction pieces with
  | nil => exact .inl (by simp [Composition.keptText])
  | cons p rest ih =>
    cases ht : (composition function).string? p with
    | none =>
      obtain ⟨hplain, -⟩ := plain_kept ht
      rw [Composition.keptText_cons]
      rcases ih with hnone | ⟨before, hbefore, c, behind, hrest⟩
      · exact .inl (by simp [hplain, hnone])
      · refine .inr ⟨(composition function).kept p ++ before, by simp [hplain, hbefore], c, behind, ?_⟩
        rw [hrest]
        simp
    | some t =>
      obtain ⟨c, rfl, -⟩ := exists_call_of_string? ht
      exact .inr ⟨[], by simp, c, _, by rw [keptText_call, List.nil_append]⟩

/-- No call begins with code in front of the calls that are written. -/
theorem callText_ne {function : String} (hf : isIdentifier function = true)
    {receiver : List Char} (hreceiver : receiver ∈ Call.receivers) {a : Call.Argument}
    {code behind : List Char} (hne : code ≠ []) (hplain : '(' ∉ code)
    (hends : ∀ x ∈ code.getLast?, Unicode.isWord x = false ∧ x ≠ '.') (pieces : List CallPiece) :
    Call.callText receiver function.toList a ++ behind
      ≠ code ++ (composition function.toList).keptText pieces := by
  intro h
  rcases notMem_or_exists_call pieces with hnone | ⟨before, hbefore, c, rest, hpieces⟩
  · have hparenthesis : '(' ∈ code ++ (composition function.toList).keptText pieces := by
      rw [← h]
      simp [Call.callText, Call.Argument.text]
    exact (List.mem_append.1 hparenthesis).elim hplain hnone
  · -- Both begin up to the same parenthesis, in front of which are a name and white space.
    have hsplit : (receiver ++ function.toList ++ a.blanksBefore) ++ '(' :: (a.blanksInFront
          ++ [a.openingQuote] ++ a.literal ++ [a.closingQuote] ++ a.blanksBehind ++ [')'] ++ behind)
        = (code ++ before ++ (c.receiver ++ function.toList ++ c.argument.blanksBefore))
          ++ '(' :: rest := by
      rw [hpieces] at h
      simpa [Call.callText, Call.Argument.text] using h
    have hfront : '(' ∉ code ++ before ++ (c.receiver ++ function.toList
        ++ c.argument.blanksBefore) := by
      simpa [hplain, hbefore] using Call.notMem_front hf c.receiver_mem c.argument
    obtain ⟨hsame, -⟩ := split_at_unique (Call.notMem_front hf hreceiver a) hfront hsplit
    have hpart := Call.receiver_eq_of_front_eq hf hsame
    rw [List.append_assoc] at hpart
    exact Call.receiver_ne hreceiver hne hends hpart

section Search

variable {function : String} {c d : Cursor}

/-- What the search recognises at a position, with the position behind it. -/
def recognise (function : String) (c : Cursor) : Option (Capture × Cursor) :=
  ((Call.calls function).match? c).map fun m => (m, m.stop)

/-- What is found with a match. -/
def stringFind? (m : Capture) : Option StringFind :=
  some { offset := m.start.offset, text := m.body }

theorem callFinds_eq (markers : Markers) (text : List Char) :
    Extraction.callFinds markers text
      = ((Cursor.start text).scan (recognise markers.function)).filterMap stringFind? := by
  rw [Extraction.callFinds, Call.finds, List.map_map, ← List.filterMap_eq_map]
  rfl

/-- No word character stands in front of the position. -/
def BehindName (c : Cursor) : Prop :=
  ∀ x ∈ c.previous?, Unicode.isWord x = false

theorem BehindName.of_reaches {w : List Char} (hc : BehindName c) (h : c.Reaches w d)
    (hw : ∀ x ∈ w.getLast?, Unicode.isWord x = false) : BehindName d := by
  intro x hx
  have hprevious : d.previous? = w.getLast?.or c.previous? := by
    rw [Cursor.previous?, h.before, List.head?_append, List.head?_reverse]
    rfl
  rw [hprevious] at hx
  rcases Option.or_eq_some_iff.1 hx with hx | ⟨-, hx⟩
  · exact hw x hx
  · exact hc x hx

/-- The search passes over other code and finds the calls as they are written. -/
theorem searches (hf : isIdentifier function = true) :
    (composition function.toList).Searches (recognise function) stringFind? BehindName where
  pass {c d p rest} hc hp hd hrest := by
    obtain ⟨hplain, hends⟩ := plain_kept hp
    refine ⟨hc.of_reaches hd fun x hx => (hends x hx).1, ?_⟩
    refine Cursor.scan_eq_of_none (Cursor.progresses_map Call.consumes_calls fun _ m => m) hd
      fun v x u e hsplit _ hu => ?_
    -- A match within the piece would be a call that begins with the rest of the piece.
    refine Option.map_eq_none_iff.2 (Option.eq_none_iff_forall_ne_some.2 fun m hm => ?_)
    obtain ⟨receiver, hreceiver, a, ha, -⟩ := Call.exists_call hm
    rw [hsplit] at hplain hends
    refine callText_ne hf hreceiver (List.cons_ne_nil x u)
      (fun hmem => hplain (List.mem_append_right v hmem)) (fun y hy => hends y ?_) rest
      (ha.after.symm.trans (hu.after.trans (by rw [hrest])))
    rw [List.getLast?_append_of_ne_nil _ (List.cons_ne_nil x u)]
    exact hy
  find {c d p t} hc hp hd := by
    obtain ⟨call, rfl, rfl⟩ := exists_call_of_string? hp
    have hd : c.Reaches (call.text function.toList) d := hd
    obtain ⟨m, hm, rfl, rfl, hbody⟩ := Call.exists_match? hf call.receiver_mem (fun _ => hc) hd
    refine ⟨hc.of_reaches hd fun x hx => ?_, m, by rw [recognise, hm]; rfl, ?_⟩
    · obtain rfl := Option.some.inj ((call.getLast?_text _).symm.trans hx)
      exact Unicode.isWord_eq_false_of_mem_delimiters (by decide)
    · rw [stringFind?, hbody]

end Search

/-! ### The records -/

/-- Of a script that consists of other code, comments and calls, the literals of
    the calls are recorded and nothing else, in their order and each where its
    call stands in the file. -/
theorem callRecords_file {function : String} (hf : isIdentifier function = true)
    (markerClass path : String) (pieces : List CallPiece) :
    let K := composition function.toList
    let records := Extraction.callRecords { markerClass, function } (K.file path pieces)
    records = K.recordsFrom path [] pieces
      ∧ ∀ t, (Usage.ofList records).occurrences t
        = ((K.recordsFrom path [] pieces).filter (·.1 = t)).map (·.2) := by
  intro K records
  have hrecords : records = K.recordsFrom path [] pieces := by
    have hcontent : (K.file path pieces).content.toList = K.source pieces := String.toList_ofList
    have hletters := letters_script_source (notMem_of_isIdentifier hf (by decide)) pieces
    rw [← hcontent] at hletters
    have hfinds := callFinds_eq { markerClass, function }
      (Stripped.script (K.file path pieces).content.toList).text
    exact (congrArg (Extraction.records path _) hfinds).trans (Composition.records_scan hcontent
      hletters (Cursor.progresses_map Call.consumes_calls fun _ m => m) (searches hf)
      fun x hx => by cases hx)
  refine ⟨hrecords, fun t => ?_⟩
  rw [← hrecords]
  exact Usage.occurrences_ofList fun r =>
    Extraction.ne_empty_of_mem_records fun _ => Extraction.ne_nil_of_mem_callFinds

/-- A call in a comment in front of one that is not commented. -/
def commentedPieces : List CallPiece :=
  [block "l('old') ".toList (by decide +kernel) (by decide +kernel),
    filler "title = l +\n".toList (by decide +kernel) (by
      intro x hx
      obtain rfl := Option.some.inj hx
      decide +kernel),
    call {
      receiver := "this.".toList
      argument := {
        blanksBefore := []
        blanksInFront := [' ']
        openingQuote := '"'
        literal := "now (l)".toList
        closingQuote := '"'
        blanksBehind := [' ']
        isWhiteSpace_of_mem_before := by simp
        isWhiteSpace_of_mem_inFront := List.all_iff_forall_prop.1 (by decide +kernel)
        openingQuote_mem := by decide
        literal_ne_nil := by decide
        notMem_quotes_literal := List.all_iff_forall_prop.1 (by decide +kernel)
        closingQuote_mem := by decide
        isWhiteSpace_of_mem_behind := List.all_iff_forall_prop.1 (by decide +kernel) }
      receiver_mem := by decide
      closingQuote_eq := rfl
      no_slashes := by decide +kernel
      no_opening := by decide +kernel }]

/-- Only the second call is recorded, with its place behind the comment. -/
theorem callRecords_file_commented :
    isIdentifier "l" = true
      ∧ Extraction.callRecords { markerClass := "m", function := "l" }
          ((composition ['l']).file "app.js" commentedPieces)
        = [("now (l)", { file := "app.js", place := { line := 3, column := 1 } })] := by
  have hf : isIdentifier "l" = true := by decide +kernel
  have hrecords := (callRecords_file hf "m" "app.js" commentedPieces).1
  exact ⟨hf, hrecords.trans (by decide +kernel)⟩

end CallPiece

end CatalogAudit
