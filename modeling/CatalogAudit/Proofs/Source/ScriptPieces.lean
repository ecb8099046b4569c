import CatalogAudit.Proofs.Source.ScriptPass
import Mathlib.Data.List.Infix

/-!
# Code between comments

A script may be given as pieces: code without slashes, comments up to the end of
a line, and comments that may span lines. Line comments are removed first, and
so two slashes cut off the rest of their line wherever they stand: in the last
line of a block comment, or where the closing of a block comment meets the next
comment. Then the comment stays open up to the end of a later one, and what
stands between the two is lost.

* `ScriptPiece.keepsFrom`: no code stands where it is lost. It never does where
  the end of no block comment is cut off (`keepsFrom_of_not_isCut`).
* `letters_script_eq_iff`: exactly then a stripped script consists of its code
  and of the newlines behind its line comments.
-/

namespace CatalogAudit

/-- A piece of a script. -/
inductive ScriptPiece
  | code (text : List Char) (plain : '/' ∉ text)
  /-- From `//` up to and including a newline. -/
  | line (body : List Char) (single : '\n' ∉ body)
  /-- From `/*` up to and including the next `*/`. -/
  | block (body : List Char) (unclosed : ¬['*', '/'].IsInfix body)

namespace ScriptPiece

/-- How a piece is written. -/
def text : ScriptPiece → List Char
  | code text _ => text
  | line body _ => "//".toList ++ (body ++ ['\n'])
  | block body _ => "/*".toList ++ (body ++ "*/".toList)

/-- What a script without comments has of a piece. -/
def kept : ScriptPiece → List Char
  | code text _ => text
  | line _ _ => ['\n']
  | block _ _ => []

/-- The letters that a script without comments has of a piece at an offset. -/
def keptAt (offset : Nat) : ScriptPiece → List (Char × Nat)
  | code text _ => located offset text
  | line body _ => [('\n', offset + 2 + byteLength body)]
  | block _ _ => []

/-- The script that consists of pieces. -/
def source (pieces : List ScriptPiece) : List Char :=
  pieces.flatMap text

/-- The code of a script and the newlines behind its line comments, as letters,
    where the script begins at an offset. -/
def keptFrom (offset : Nat) : List ScriptPiece → List (Char × Nat)
  | [] => []
  | p :: rest => p.keptAt offset ++ keptFrom (offset + byteLength p.text) rest

/-- The first pass cuts off the end of a block comment: there are two slashes in
    its last line, or the closing and what follows give two slashes. -/
def isCut (body : List Char) (rest : List ScriptPiece) : Bool :=
  decide (['/', '/'].IsInfix (lastLine body)) || (source rest).head? == some '/'

/-- No code is lost. Where `hidden` holds, the end of a block comment has been
    cut off together with the rest of its line. Then no code and no line comment
    may come before a block comment that goes on in another line, and the end of
    this one closes both unless it is cut off as well. -/
def keepsFrom (hidden : Bool) : List ScriptPiece → Bool
  | [] => !hidden
  | code text _ :: rest => (!hidden || text.isEmpty) && keepsFrom hidden rest
  | line _ _ :: rest => !hidden && keepsFrom false rest
  | block body _ :: rest =>
    if hidden && !body.contains '\n' then keepsFrom true rest
    else keepsFrom (isCut body rest) rest

theorem source_cons (p : ScriptPiece) (rest : List ScriptPiece) :
    source (p :: rest) = p.text ++ source rest :=
  List.flatMap_cons

theorem map_fst_keptFrom (offset : Nat) (pieces : List ScriptPiece) :
    (keptFrom offset pieces).map Prod.fst = pieces.flatMap kept := by
  induction pieces generalizing offset with
  | nil => rfl
  | cons p rest ih =>
    rw [keptFrom, List.map_append, ih, List.flatMap_cons]
    cases p with
    | code text _ => rw [keptAt, map_fst_located, kept]
    | line body _ => rfl
    | block body _ => rfl

end ScriptPiece

/-! ### A block comment -/

section Block

variable {τ : Type} {c d o o' : Char × τ} {l w x : List (Char × τ)}

/-- The first pass keeps the end of a block comment that is not cut off. -/
theorem lines_block (hc : c.1 = '*') (hw : ¬['/', '/'].IsInfix (lastLine (chars w)))
    (hl : (chars l).head? ≠ some '/') : lines (w ++ c :: d :: l) = lines w ++ c :: d :: lines l := by
  rw [lines_append hw fun _ => by simp [hc], lines_cons_of_ne (.inl (by simp [hc])),
    lines_cons_of_ne (.inr hl)]

/-- The first pass cuts off the end of a block comment with the rest of its
    line, or it leaves a star of it. -/
theorem lines_block_of_cut (hc : c.1 = '*') (hd : d.1 = '/')
    (h : ['/', '/'].IsInfix (lastLine (chars w)) ∨ (chars l).head? = some '/') :
    ∃ v, (v = lines w ∨ v = lines w ++ [c])
      ∧ lines (w ++ c :: d :: l) = v ++ lines (fromLineEnd l) := by
  by_cases hw : ['/', '/'].IsInfix (lastLine (chars w))
  · have hend : fromLineEnd ([c, d] ++ l) = fromLineEnd l :=
      fromLineEnd_append_of_notMem (by simp [hc, hd])
    exact ⟨lines w, .inl rfl, hend ▸ lines_append_of_cut hw⟩
  · have hl := h.resolve_left hw
    refine ⟨lines w ++ [c], .inr rfl, ?_⟩
    rw [lines_append hw fun _ => by simp [hc], lines_cons_of_ne (.inl (by simp [hc])), lines_cons,
      if_pos ⟨hd, hl⟩, List.append_assoc, List.singleton_append]

/-- An open comment that goes on at the end of a line is not closed there. -/
theorem not_closing_append (hx : ¬['*', '/'].IsInfix (chars x))
    (hw : ¬['*', '/'].IsInfix (chars w)) (hjoin : x = [] ∨ (chars w).head? = some '\n') :
    ¬['*', '/'].IsInfix (chars (x ++ lines w)) := by
  rcases hjoin with rfl | hnewline
  · exact not_closing_lines hw
  · obtain ⟨u, w, rfl⟩ : ∃ u v, w = u :: v := by
      cases w with
      | nil => cases hnewline
      | cons u w => exact ⟨u, w, rfl⟩
    have hu : u.1 = '\n' := Option.some.inj hnewline
    rw [chars_append, pair_infix_append_iff]
    rintro (h | h | ⟨-, h⟩)
    · exact hx h
    · exact not_closing_lines hw h
    · rw [lines_newline hu, chars_cons, hu] at h
      cases h

/-- A star closes no comment. -/
theorem not_closing_append_star (hc : c.1 = '*') (hw : ¬['*', '/'].IsInfix (chars w)) :
    ¬['*', '/'].IsInfix (chars (w ++ [c])) := by
  rw [chars_append, pair_infix_append_iff]
  rintro (h | h | ⟨-, h⟩)
  · exact hw h
  · exact absurd h (by simp [pair_infix_cons_iff])
  · rw [chars_cons, hc] at h
    cases h

section Open

variable (ho : o.1 = '/') (ho' : o'.1 = '*') (hc : c.1 = '*') (hd : d.1 = '/')
  (hx : ¬['*', '/'].IsInfix (chars x)) (hw : ¬['*', '/'].IsInfix (chars w))
  (hjoin : x = [] ∨ (chars w).head? = some '\n')

include ho ho' hc hd hx hw hjoin

/-- The end of a block comment that is not cut off closes what is open. -/
theorem blocks_lines_block (hline : ¬['/', '/'].IsInfix (lastLine (chars w)))
    (hl : (chars l).head? ≠ some '/') :
    blocks (o :: o' :: (x ++ lines (w ++ c :: d :: l))) = blocks (lines l) := by
  rw [lines_block hc hline hl, ← List.append_assoc]
  exact blocks_closed ho ho' (not_closing_append hx hw hjoin) hc hd

omit ho ho' in
/-- Where the end of a block comment is cut off, what is open stays open up to
    the end of the line at least. -/
theorem lines_block_open
    (h : ['/', '/'].IsInfix (lastLine (chars w)) ∨ (chars l).head? = some '/') :
    ∃ v, ¬['*', '/'].IsInfix (chars v)
      ∧ x ++ lines (w ++ c :: d :: l) = v ++ lines (fromLineEnd l) := by
  have hopen := not_closing_append hx hw hjoin
  obtain ⟨v, hv, hlines⟩ := lines_block_of_cut hc hd h
  refine ⟨x ++ v, ?_, by rw [hlines, List.append_assoc]⟩
  rcases hv with rfl | rfl
  · exact hopen
  · rw [← List.append_assoc]
    exact not_closing_append_star hc hopen

end Open

end Block

namespace ScriptPiece

/-! ### All pieces -/

/-- Later letters have greater offsets. -/
theorem pairwise_located (offset : Nat) (text : List Char) :
    (located offset text).Pairwise fun a b => a.2 < b.2 := by
  induction text generalizing offset with
  | nil => exact .nil
  | cons c text ih =>
    refine List.pairwise_cons.2 ⟨fun l hl => ?_, ih _⟩
    have := (offset_bounds_of_mem_located hl).1
    have := utf8Size_pos c
    omega

/-- Some letters of a text, the first of them apart, do not begin the text. -/
theorem lt_of_mem_tail {l : List (Char × Nat)} {offset : Nat} {text : List Char}
    (h : l.Sublist (located offset text)) {z : Char × Nat} (hz : z ∈ l.tail) : offset < z.2 := by
  cases l with
  | nil => cases hz
  | cons u l =>
    have hu := (offset_bounds_of_mem_located (h.subset List.mem_cons_self)).1
    have hlt := (List.pairwise_cons.1 ((pairwise_located offset text).sublist h)).1 z hz
    omega

/-- An open comment begins in front of an offset. -/
structure OpensBefore (o o' : Char × Nat) (x : List (Char × Nat)) (offset : Nat) : Prop where
  slash : o.1 = '/'
  star : o'.1 = '*'
  unclosed : ¬['*', '/'].IsInfix (chars x)
  before : o.2 < offset

/-- What the passes leave of a text whose first line is cut off, where a comment
    is open in front of it. -/
def leftOpen (o o' : Char × Nat) (x l : List (Char × Nat)) : List (Char × Nat) :=
  blocks (o :: o' :: (x ++ lines (fromLineEnd l)))

/-- The letter that the text begins with, or that its first line ends with, is
    not the first one to be left. -/
theorem leftOpen_ne_cons {o o' : Char × Nat} {x l m : List (Char × Nat)} {n offset : Nat}
    {text : List Char} (h : OpensBefore o o' x n) (hn : n ≤ offset)
    (hl : (fromLineEnd l).Sublist (located offset text)) (c : Char) :
    leftOpen o o' x l ≠ (c, offset) :: m := by
  intro heq
  have hhead : (c, offset) ∈ (leftOpen o o' x l).head? := by
    rw [heq]
    rfl
  rcases head?_blocks_open h.slash h.star h.unclosed (head?_lines_fromLineEnd l) hhead with ho | hmem
  · have hbefore := h.before
    rw [← ho] at hbefore
    omega
  · exact Nat.lt_irrefl _ (lt_of_mem_tail ((lines_sublist _).trans hl) hmem)

/-- What the passes leave is what is kept, for pieces with and without an open
    comment in front of them. -/
structure Decides (offset : Nat) (pieces : List ScriptPiece) : Prop where
  clear : blocks (lines (located offset (source pieces))) = keptFrom offset pieces
    ↔ keepsFrom false pieces = true
  hidden : ∀ o o' x, OpensBefore o o' x offset →
    (leftOpen o o' x (located offset (source pieces)) = keptFrom offset pieces
      ↔ keepsFrom true pieces = true)

theorem decides_nil (offset : Nat) : Decides offset [] where
  clear := by
    have hnil : blocks (lines (located offset (source []))) = [] := by
      rw [show located offset (source []) = [] from rfl, lines_nil, blocks_nil]
    simp [hnil, keptFrom, keepsFrom]
  hidden o o' x h := by
    have hopen : leftOpen o o' x (located offset (source [])) = o :: blocks (o' :: x) := by
      rw [leftOpen, show fromLineEnd (located offset (source [])) = [] from rfl, lines_nil,
        List.append_nil, blocks_unclosed h.slash h.star h.unclosed]
    simp [hopen, keptFrom, keepsFrom]

variable {offset : Nat} {rest : List ScriptPiece}

theorem decides_code {text : List Char} {plain : '/' ∉ text}
    (ih : Decides (offset + byteLength text) rest) : Decides offset (code text plain :: rest) := by
  have hlocated : located offset (source (code text plain :: rest))
      = located offset text ++ located (offset + byteLength text) (source rest) := by
    rw [source_cons, located_append]
    rfl
  have hplain : '/' ∉ chars (located offset text) := by rwa [chars_located]
  have hkept : keptFrom offset (code text plain :: rest)
      = located offset text ++ keptFrom (offset + byteLength text) rest := rfl
  refine ⟨?_, fun o o' x h => ?_⟩
  · rw [hlocated, lines_append_of_notMem hplain, blocks_append_of_notMem hplain, hkept,
      List.append_right_inj, ih.clear]
    simp [keepsFrom]
  · cases text with
    | nil => simpa [hlocated, hkept, keepsFrom, located] using ih.hidden o o' x h
    | cons c text =>
      -- The first letter of the code would have to be kept, and it is cut off.
      refine iff_of_false ?_ Bool.false_ne_true
      exact leftOpen_ne_cons h (Nat.le_refl _) (List.dropWhile_sublist _) c

theorem byteLength_text_line (body : List Char) (single : '\n' ∉ body) :
    byteLength (line body single).text = 2 + byteLength body + 1 := by
  rw [text, byteLength_append, byteLength_append]
  rfl

theorem byteLength_text_block (body : List Char) (unclosed : ¬['*', '/'].IsInfix body) :
    byteLength (block body unclosed).text = 2 + byteLength body + 2 := by
  rw [text, byteLength_append, byteLength_append]
  rfl

theorem located_line (offset : Nat) (body : List Char) (single : '\n' ∉ body)
    (rest : List ScriptPiece) :
    located offset (source (line body single :: rest))
      = ('/', offset) :: ('/', offset + 1) :: (located (offset + 2) body
        ++ located (offset + 2 + byteLength body) ('\n' :: source rest)) := by
  rw [← located_append, source_cons, text, List.append_assoc, List.append_assoc]
  rfl

theorem located_block (offset : Nat) (body : List Char) (unclosed : ¬['*', '/'].IsInfix body)
    (rest : List ScriptPiece) :
    located offset (source (block body unclosed :: rest))
      = ('/', offset) :: ('*', offset + 1) :: (located (offset + 2) body
        ++ located (offset + 2 + byteLength body) ('*' :: '/' :: source rest)) := by
  rw [← located_append, source_cons, text, List.append_assoc, List.append_assoc]
  rfl

theorem decides_line {body : List Char} {single : '\n' ∉ body}
    (ih : Decides (offset + byteLength (line body single).text) rest) :
    Decides offset (line body single :: rest) := by
  have hbody : '\n' ∉ chars (located (offset + 2) body) := by
    rwa [chars_located]
  have hend : fromLineEnd (located (offset + 2) body
        ++ located (offset + 2 + byteLength body) ('\n' :: source rest))
      = located (offset + 2 + byteLength body) ('\n' :: source rest) := by
    rw [fromLineEnd_append_of_notMem hbody]
    exact fromLineEnd_newline rfl
  rw [byteLength_text_line, ← Nat.add_assoc, ← Nat.add_assoc] at ih
  have hkept : keptFrom offset (line body single :: rest)
      = ('\n', offset + 2 + byteLength body)
        :: keptFrom (offset + 2 + byteLength body + 1) rest := by
    rw [keptFrom, byteLength_text_line, ← Nat.add_assoc, ← Nat.add_assoc]
    rfl
  refine ⟨?_, fun o o' x h => iff_of_false ?_ Bool.false_ne_true⟩
  · rw [located_line, lines_cons, if_pos ⟨rfl, rfl⟩, fromLineEnd_cons_of_ne (by simp), hend, located,
      lines_newline rfl, blocks_cons_of_ne (by simp), hkept, List.cons_inj_right]
    exact ih.clear
  · -- The newline behind the comment would have to be kept, and the open comment takes it.
    have hline : fromLineEnd (located offset (source (line body single :: rest)))
        = located (offset + 2 + byteLength body) ('\n' :: source rest) := by
      rw [located_line, fromLineEnd_cons_of_ne (by simp), fromLineEnd_cons_of_ne (by simp), hend]
    have hsub : (fromLineEnd (located offset (source (line body single :: rest)))).Sublist
        (located (offset + 2 + byteLength body) ('\n' :: source rest)) := by
      simp only [hline, List.Sublist.refl]
    rw [hkept]
    exact leftOpen_ne_cons h (by omega) hsub '\n'

theorem isCut_eq_true_iff {body : List Char} :
    isCut body rest = true
      ↔ ['/', '/'].IsInfix (lastLine body) ∨ (source rest).head? = some '/' := by
  rw [isCut, Bool.or_eq_true, decide_eq_true_iff, beq_iff_eq]

theorem OpensBefore.of_le {o o' : Char × Nat} {x : List (Char × Nat)} {n : Nat}
    (h : OpensBefore o o' x n) (hn : n ≤ offset) : OpensBefore o o' x offset :=
  ⟨h.slash, h.star, h.unclosed, Nat.lt_of_lt_of_le h.before hn⟩

/-- The end of a block comment, in front of which a comment is open. -/
theorem decides_end {n : Nat} (ih : Decides n rest) {o o' : Char × Nat} {x w : List (Char × Nat)}
    (h : OpensBefore o o' x n) {c d : Char × Nat} (hc : c.1 = '*') (hd : d.1 = '/')
    {body : List Char} (hw : ¬['*', '/'].IsInfix (chars w))
    (hlast : lastLine (chars w) = lastLine body)
    (hjoin : x = [] ∨ (chars w).head? = some '\n') :
    blocks (o :: o' :: (x ++ lines (w ++ c :: d :: located n (source rest)))) = keptFrom n rest
      ↔ keepsFrom (isCut body rest) rest = true := by
  have hsource := chars_located n (source rest)
  cases hcut : isCut body rest with
  | true =>
    have h' := isCut_eq_true_iff.1 hcut
    rw [← hlast, ← hsource] at h'
    obtain ⟨v, hv, hopen⟩ := lines_block_open hc hd h.unclosed hw hjoin h'
    rw [hopen]
    exact ih.hidden o o' v ⟨h.slash, h.star, hv, h.before⟩
  | false =>
    have h' := mt isCut_eq_true_iff.2 (Bool.not_eq_true _ ▸ hcut)
    rw [← hlast, ← hsource, not_or] at h'
    rw [blocks_lines_block h.slash h.star hc hd h.unclosed hw hjoin h'.1 h'.2]
    exact ih.clear

/-- The letters of a text from the end of its first line on. They end in the same
    line as the text. -/
theorem fromLineEnd_located {body : List Char} (h : '\n' ∈ body) (offset : Nat) :
    ∃ n v, (∀ l, fromLineEnd (located offset body ++ l) = located n ('\n' :: v) ++ l)
      ∧ ('\n' :: v).IsSuffix body ∧ lastLine ('\n' :: v) = lastLine body := by
  obtain ⟨u, v, rfl, hu⟩ := List.eq_append_cons_of_mem h
  have hu : '\n' ∉ chars (located offset u) := by rwa [chars_located]
  refine ⟨offset + byteLength u, v, fun l => ?_, List.suffix_append u _, ?_⟩
  · rw [located_append, List.append_assoc, fromLineEnd_append_of_notMem hu]
    exact fromLineEnd_newline rfl
  · exact (lastLine_newline [] v).trans (lastLine_newline u v).symm

theorem decides_block {body : List Char} {unclosed : ¬['*', '/'].IsInfix body}
    (ih : Decides (offset + byteLength (block body unclosed).text) rest) :
    Decides offset (block body unclosed :: rest) := by
  have hbody : chars (located (offset + 2) body) = body := chars_located _ _
  have hkept : keptFrom offset (block body unclosed :: rest)
      = keptFrom (offset + byteLength (block body unclosed).text) rest := rfl
  have hend : located (offset + 2 + byteLength body) ('*' :: '/' :: source rest)
      = ('*', offset + 2 + byteLength body) :: ('/', offset + 2 + byteLength body + 1)
        :: located (offset + byteLength (block body unclosed).text) (source rest) := by
    rw [byteLength_text_block, ← Nat.add_assoc, ← Nat.add_assoc]
    rfl
  refine ⟨?_, fun o o' x h => ?_⟩
  · have hopens : OpensBefore ('/', offset) ('*', offset + 1) []
        (offset + byteLength (block body unclosed).text) :=
      ⟨rfl, rfl, by simp, by rw [byteLength_text_block]; omega⟩
    rw [located_block, lines_cons_of_ne (.inr (by simp)), lines_cons_of_ne (.inl (by simp)), hend,
      hkept]
    exact decides_end ih hopens rfl rfl (by rwa [hbody]) (by rw [hbody]) (.inl rfl)
  · have hopens := h.of_le (Nat.le_add_right offset (byteLength (block body unclosed).text))
    rw [leftOpen, located_block, fromLineEnd_cons_of_ne (by simp),
      fromLineEnd_cons_of_ne (by simp), hend, hkept, keepsFrom]
    by_cases hnewline : '\n' ∈ body
    · -- The comment goes on in the next line, and what is open ends with it.
      obtain ⟨n, v, hline, hsuffix, hlast⟩ := fromLineEnd_located hnewline (offset + 2)
      have hv : ¬['*', '/'].IsInfix ('\n' :: v) := fun h => unclosed (h.trans hsuffix.isInfix)
      rw [if_neg (by simp [hnewline]), hline]
      exact decides_end ih hopens rfl rfl (by rwa [chars_located]) (by rw [chars_located, hlast])
        (.inr (by rw [chars_located]; rfl))
    · -- The comment ends in the line that is cut off, and so nothing changes.
      have hline : '\n' ∉ chars (located (offset + 2) body) := by rwa [hbody]
      rw [if_pos (by simp [hnewline]), fromLineEnd_append_of_notMem hline,
        fromLineEnd_cons_of_ne (by simp), fromLineEnd_cons_of_ne (by simp)]
      exact ih.hidden o o' x hopens

theorem decides (offset : Nat) (pieces : List ScriptPiece) : Decides offset pieces := by
  induction pieces generalizing offset with
  | nil => exact decides_nil offset
  | cons p rest ih =>
    cases p with
    | code text plain => exact decides_code (ih _)
    | line body single => exact decides_line (ih _)
    | block body unclosed => exact decides_block (ih _)

/-- No code is lost where the end of no block comment is cut off. -/
theorem keepsFrom_of_not_isCut {pieces : List ScriptPiece}
    (h : ∀ front body unclosed rest, pieces = front ++ block body unclosed :: rest →
      isCut body rest = false) : keepsFrom false pieces = true := by
  induction pieces with
  | nil => rfl
  | cons p rest ih =>
    have hrest : keepsFrom false rest = true := ih fun front body unclosed behind hb =>
      h (p :: front) body unclosed behind (congrArg (p :: ·) hb)
    cases p with
    | code text plain => exact hrest
    | line body single => exact hrest
    | block body unclosed =>
      have hcut : isCut body rest = false := h [] body unclosed rest rfl
      rw [keepsFrom, if_neg (by simp), hcut]
      exact hrest

/-- A stripped script consists of the code and of the newlines behind line
    comments, each where it stands in the script, exactly when no code stands
    where it is lost. Then its text consists of them as well, and in particular
    where the end of no block comment is cut off. -/
theorem letters_script_eq_iff (pieces : List ScriptPiece) :
    ((Stripped.script (source pieces)).letters = keptFrom 0 pieces ↔ keepsFrom false pieces = true)
      ∧ (keepsFrom false pieces = true →
        (Stripped.script (source pieces)).text = pieces.flatMap kept)
      ∧ ((∀ front body unclosed rest, pieces = front ++ block body unclosed :: rest →
          isCut body rest = false) →
        (Stripped.script (source pieces)).text = pieces.flatMap kept) := by
  have hiff : (Stripped.script (source pieces)).letters = keptFrom 0 pieces
      ↔ keepsFrom false pieces = true := by
    rw [letters_script]
    exact (decides 0 pieces).clear
  have htext (h : keepsFrom false pieces = true) :
      (Stripped.script (source pieces)).text = pieces.flatMap kept := by
    rw [← Stripped.map_fst_letters, hiff.2 h, map_fst_keptFrom]
  exact ⟨hiff, htext, fun h => htext (keepsFrom_of_not_isCut h)⟩

/-- The code behind a block comment with two slashes in it is lost. -/
theorem text_script_ne_kept :
    ∃ pieces, source pieces = "/* http://x */a".toList ∧ pieces.flatMap kept = ['a']
      ∧ (Stripped.script (source pieces)).text = "/* http:".toList := by
  refine ⟨[block " http://x ".toList (by decide +kernel), code ['a'] (by decide +kernel)], ?_⟩
  decide +kernel

end ScriptPiece

end CatalogAudit
