import CatalogAudit.Proofs.Source.Pass
import CatalogAudit.Proofs.Text.Place

/-!
# The passes over scripts

The pass over line comments works line by line: what it does behind a newline
does not depend on what is in front. Within a line it keeps everything or it
cuts off the rest. The pass over block comments drops an opening with all that
follows it up to the next closing, and keeps an opening that is never closed.

* `CommentStyle.outside_append`: a pass of any style over letters in which no
  comment begins.
* `lines_append`, `lines_append_of_cut`: the first pass over a text in two
  parts, whose first part ends in a line that is not cut or is cut.
* `blocks_closed`, `head?_blocks_open`: the second pass over an opening that is
  closed or need not be.
-/

namespace CatalogAudit

variable {τ : Type}

/-- The characters of letters. -/
def chars (l : List (Char × τ)) : List Char :=
  l.map Prod.fst

@[simp]
theorem chars_nil : chars ([] : List (Char × τ)) = [] := rfl

@[simp]
theorem chars_cons (x : Char × τ) (l : List (Char × τ)) : chars (x :: l) = x.1 :: chars l := rfl

@[simp]
theorem chars_append (l m : List (Char × τ)) : chars (l ++ m) = chars l ++ chars m :=
  List.map_append

@[simp]
theorem chars_located (offset : Nat) (text : List Char) : chars (located offset text) = text :=
  map_fst_located offset text

/-! ### Words of two characters -/

section Pair

variable {α : Type} {a b x : α} {l m : List α}

theorem pair_infix_cons_iff :
    [a, b].IsInfix (x :: l) ↔ x = a ∧ l.head? = some b ∨ [a, b].IsInfix l := by
  rw [List.infix_cons_iff, List.cons_prefix_cons]
  cases l with
  | nil => simp
  | cons y l => simp [List.cons_prefix_cons, eq_comm]

/-- A word of two characters lies in one of two parts or between them. -/
theorem pair_infix_append_iff :
    [a, b].IsInfix (l ++ m)
      ↔ [a, b].IsInfix l ∨ [a, b].IsInfix m ∨ l.getLast? = some a ∧ m.head? = some b := by
  induction l with
  | nil => simp
  | cons y l ih =>
    rw [List.cons_append, pair_infix_cons_iff, ih, pair_infix_cons_iff]
    cases l with
    | nil => simp; tauto
    | cons z l => simp [List.getLast?_cons_cons, or_assoc]

end Pair

theorem not_infix_cons {a b : Char} {x : Char × τ} {l : List (Char × τ)}
    (h : ¬[a, b].IsInfix (chars (x :: l))) :
    ¬(x.1 = a ∧ (chars l).head? = some b) ∧ ¬[a, b].IsInfix (chars l) :=
  not_or.1 (mt pair_infix_cons_iff.2 h)

theorem not_pair_infix_of_notMem {α : Type} {a b : α} {l : List α} (h : a ∉ l) :
    ¬[a, b].IsInfix l := fun hpair =>
  h (hpair.subset List.mem_cons_self)

namespace CommentStyle

variable {style : CommentStyle} {a b : Char} {opening : List Char} {x : Char × τ}
  {l w : List (Char × τ)} (hstyle : style.opening = a :: b :: opening)

include hstyle

/-- A comment begins with the first two characters of its opening. -/
theorem behind?_eq_none (h : x.1 ≠ a ∨ (chars l).head? ≠ some b) :
    style.behind? (x :: l) = none := by
  have hskip : skipLetters? style.opening (x :: l) = none := by
    refine Option.eq_none_iff_forall_ne_some.2 fun rest hrest => ?_
    obtain ⟨v, hv, hl⟩ := skipLetters?_eq_some_iff.1 hrest
    have hchars : x.1 :: chars l = (a :: b :: opening) ++ chars rest := by
      rw [← chars_cons, hl, chars_append, ← hstyle, ← hv]
      rfl
    obtain ⟨hx, hl⟩ := List.cons.inj hchars
    exact h.elim (· hx) (· (by rw [hl]; rfl))
  cases style with
  | line opening =>
    rw [behind?, show skipLetters? opening (x :: l) = none from hskip]
    rfl
  | block opening closing =>
    rw [behind?, show skipLetters? opening (x :: l) = none from hskip]
    rfl

/-- A pass keeps letters without the first two characters of an opening, unless
    these come about where the next part begins. -/
theorem outside_append (hw : ¬[a, b].IsInfix (chars w))
    (hl : (chars w).getLast? = some a → (chars l).head? ≠ some b) :
    style.outside (w ++ l) = w ++ style.outside l := by
  induction w with
  | nil => rfl
  | cons x w ih =>
    have hcons := not_infix_cons hw
    have hne : x.1 ≠ a ∨ (chars (w ++ l)).head? ≠ some b := by
      cases w with
      | nil => exact or_iff_not_imp_left.2 fun hx => hl (by simpa using hx)
      | cons y w => exact not_and_or.1 hcons.1
    have hlast : (chars w).getLast? = some a → (chars l).head? ≠ some b := by
      intro hlast
      cases w with
      | nil => cases hlast
      | cons y w => exact hl hlast
    rw [List.cons_append, outside_cons (behind?_eq_none hstyle hne), ih hcons.2 hlast,
      List.cons_append]

/-- A pass keeps letters without the first character of an opening. -/
theorem outside_append_of_notMem (h : a ∉ chars w) :
    style.outside (w ++ l) = w ++ style.outside l :=
  outside_append hstyle (not_pair_infix_of_notMem h) fun hlast =>
    absurd (List.mem_of_getLast? hlast) h

end CommentStyle

/-! ### The first pass -/

/-- The comments up to the end of a line. -/
def lineStyle : CommentStyle :=
  .line "//".toList

/-- The comments that may span lines. -/
def blockStyle : CommentStyle :=
  .block "/*".toList "*/".toList

/-- The letters that the first pass over a script leaves. -/
def lines (l : List (Char × τ)) : List (Char × τ) :=
  lineStyle.outside l

/-- The letters that the second pass over a script leaves. -/
def blocks (l : List (Char × τ)) : List (Char × τ) :=
  blockStyle.outside l

/-- The letters from the end of the line on. -/
def fromLineEnd (l : List (Char × τ)) : List (Char × τ) :=
  l.dropWhile (·.1 != '\n')

theorem letters_script (source : List Char) :
    (Stripped.script source).letters = blocks (lines (located 0 source)) := by
  have hscript : Stripped.script source
      = ((Stripped.whole source).remove lineStyle).remove blockStyle := rfl
  rw [hscript, Stripped.letters_remove_eq_outside _ (by decide),
    Stripped.letters_remove_eq_outside _ (by decide), Stripped.letters_whole]
  rfl

variable {x : Char × τ} {l w : List (Char × τ)}

theorem fromLineEnd_append_of_notMem (h : '\n' ∉ chars w) :
    fromLineEnd (w ++ l) = fromLineEnd l := by
  refine List.dropWhile_append_of_pos fun x hx => bne_iff_ne.2 fun he => h ?_
  exact he ▸ List.mem_map_of_mem hx

theorem fromLineEnd_of_notMem (h : '\n' ∉ chars w) : fromLineEnd w = [] := by
  have hw := fromLineEnd_append_of_notMem (l := []) h
  rwa [List.append_nil] at hw

theorem fromLineEnd_newline (h : x.1 = '\n') : fromLineEnd (x :: l) = x :: l :=
  List.dropWhile_cons_of_neg (by simp [h])

theorem fromLineEnd_cons_of_ne (h : x.1 ≠ '\n') : fromLineEnd (x :: l) = fromLineEnd l :=
  List.dropWhile_cons_of_pos (bne_iff_ne.2 h)

theorem fromLineEnd_append_newline (h : x.1 = '\n') (w : List (Char × τ)) :
    fromLineEnd (w ++ x :: l) = fromLineEnd w ++ x :: l := by
  induction w with
  | nil => exact fromLineEnd_newline h
  | cons y w ih =>
    rw [List.cons_append]
    by_cases hy : y.1 = '\n'
    · rw [fromLineEnd_newline hy, fromLineEnd_newline hy, List.cons_append]
    · rw [fromLineEnd_cons_of_ne hy, fromLineEnd_cons_of_ne hy, ih]

theorem skipLetters?_pair (a b : Char) (x : Char × τ) (l : List (Char × τ)) :
    skipLetters? [a, b] (x :: l)
      = if x.1 = a ∧ (chars l).head? = some b then some l.tail else none := by
  cases l with
  | nil => simp [skipLetters?]
  | cons y l =>
    simp only [skipLetters?, chars_cons, List.head?_cons, Option.some.injEq, List.tail_cons]
    grind

@[simp]
theorem lines_nil : lines ([] : List (Char × τ)) = [] :=
  CommentStyle.outside_nil

/-- Two slashes cut off the rest of the line, and any other letter is kept. -/
theorem lines_cons (x : Char × τ) (l : List (Char × τ)) :
    lines (x :: l)
      = if x.1 = '/' ∧ (chars l).head? = some '/' then lines (fromLineEnd l)
        else x :: lines l := by
  have hbehind : lineStyle.behind? (x :: l)
      = (if x.1 = '/' ∧ (chars l).head? = some '/' then some l.tail else none).map fromLineEnd :=
    congrArg (Option.map fromLineEnd) (skipLetters?_pair '/' '/' x l)
  split
  · rename_i h
    rw [if_pos h] at hbehind
    -- The second slash is part of the rest of the line.
    have htail : fromLineEnd l.tail = fromLineEnd l := by
      cases l with
      | nil => rfl
      | cons y l =>
        have hy : y.1 = '/' := by simpa using h.2
        exact (fromLineEnd_cons_of_ne (by simp [hy])).symm
    rw [← htail]
    exact CommentStyle.outside_of_behind? (by decide) hbehind
  · rename_i h
    rw [if_neg h] at hbehind
    exact CommentStyle.outside_cons hbehind

theorem lines_sublist (l : List (Char × τ)) : (lines l).Sublist l :=
  CommentStyle.outside_sublist (by decide) l

/-- A slash that is no part of two is kept, as is any other letter. -/
theorem lines_cons_of_ne (h : x.1 ≠ '/' ∨ (chars l).head? ≠ some '/') :
    lines (x :: l) = x :: lines l := by
  rw [lines_cons, if_neg]
  rintro ⟨hx, hl⟩
  exact h.elim (· hx) (· hl)

theorem lines_newline (h : x.1 = '\n') (l : List (Char × τ)) : lines (x :: l) = x :: lines l :=
  lines_cons_of_ne (.inl (by rw [h]; decide))

/-- Induction along the first pass. -/
theorem lines_induction {motive : List (Char × τ) → Prop} (nil : motive [])
    (cut : ∀ x l, x.1 = '/' → (chars l).head? = some '/' → motive (fromLineEnd l) →
      motive (x :: l))
    (letter : ∀ x l, x.1 ≠ '/' ∨ (chars l).head? ≠ some '/' → motive l → motive (x :: l))
    (l : List (Char × τ)) : motive l := by
  induction l using (measure List.length).wf.induction with
  | _ l ih =>
    cases l with
    | nil => exact nil
    | cons x l =>
      by_cases h : x.1 = '/' ∧ (chars l).head? = some '/'
      · exact cut x l h.1 h.2
          (ih _ (Nat.lt_succ_of_le (List.dropWhile_sublist _).length_le))
      · exact letter x l (by tauto) (ih l (Nat.lt_succ_self _))

/-- A newline ends whatever comment there is in front of it. -/
theorem lines_append_newline (h : x.1 = '\n') (l w : List (Char × τ)) :
    lines (w ++ x :: l) = lines w ++ x :: lines l := by
  induction w using lines_induction with
  | nil => rw [List.nil_append, lines_nil, List.nil_append, lines_newline h]
  | cut y w hy hw ih =>
    have hhead : (chars (w ++ x :: l)).head? = some '/' := by
      rw [chars_append, List.head?_append, hw]
      rfl
    rw [List.cons_append, lines_cons, if_pos ⟨hy, hhead⟩, lines_cons, if_pos ⟨hy, hw⟩,
      fromLineEnd_append_newline h, ih]
  | letter y w hy ih =>
    rw [lines_cons_of_ne hy, List.cons_append, lines_cons_of_ne, ih, List.cons_append]
    refine hy.imp_right fun hw => ?_
    cases w with
    | nil => simp [h]
    | cons z w => exact hw

/-- A line without two slashes is kept, unless they come about where the next
    part begins. -/
theorem lines_append_of_no_slashes (hw : ¬['/', '/'].IsInfix (chars w))
    (hl : (chars w).getLast? = some '/' → (chars l).head? ≠ some '/') :
    lines (w ++ l) = w ++ lines l :=
  CommentStyle.outside_append rfl hw hl

/-- Two slashes in a line cut off what the line goes on with in the next part. -/
theorem lines_append_of_slashes (hline : '\n' ∉ chars w) (hw : ['/', '/'].IsInfix (chars w)) :
    lines (w ++ l) = lines w ++ lines (fromLineEnd l) := by
  induction w with
  | nil => simp at hw
  | cons x w ih =>
    obtain ⟨hx, hline⟩ := List.ne_and_not_mem_of_not_mem_cons hline
    by_cases h : x.1 = '/' ∧ (chars w).head? = some '/'
    · -- The slashes stand here: the rest of the word is in the same line and is cut off.
      have hhead : (chars (w ++ l)).head? = some '/' := by
        rw [chars_append, List.head?_append, h.2]
        rfl
      have hend : fromLineEnd w = [] := fromLineEnd_of_notMem hline
      rw [List.cons_append, lines_cons, if_pos ⟨h.1, hhead⟩, lines_cons, if_pos h,
        fromLineEnd_append_of_notMem hline, hend, lines_nil, List.nil_append]
    · -- The slashes stand further on, within `w`, so nothing changes where `l` begins.
      have hw : ['/', '/'].IsInfix (chars w) := (pair_infix_cons_iff.1 hw).resolve_left h
      have hne : w ≠ [] := by
        rintro rfl
        simp at hw
      have hhead : (chars (w ++ l)).head? = (chars w).head? := by
        cases w with
        | nil => exact absurd rfl hne
        | cons y w => rfl
      have hkeep : x.1 ≠ '/' ∨ (chars w).head? ≠ some '/' := by tauto
      rw [List.cons_append, lines_cons_of_ne (hhead ▸ hkeep), lines_cons_of_ne hkeep, ih hline hw,
        List.cons_append]

/-- Letters end in a line of their own, or in one that begins behind a newline. -/
theorem newline_or_lastLine_chars_eq (w : List (Char × τ)) :
    '\n' ∉ chars w ∧ lastLine (chars w) = chars w
      ∨ ∃ front x last, w = front ++ x :: last ∧ x.1 = '\n' ∧ '\n' ∉ chars last
        ∧ chars last = lastLine (chars w) := by
  rcases newline_or_lastLine_eq (chars w) with h | ⟨s, hs⟩
  · exact .inl h
  · obtain ⟨front, rest, rfl, -, hrest⟩ := List.map_eq_append_iff.1 hs
    obtain ⟨x, last, rfl, hx, hlast⟩ := List.map_eq_cons_iff.1 hrest
    have hlast : chars last = lastLine (chars (front ++ x :: last)) := hlast
    exact .inr ⟨front, x, last, rfl, hx, by rw [hlast]; exact notMem_lastLine _, hlast⟩

/-- The first pass over a text in two parts, whose first part ends in a line
    without two slashes. -/
theorem lines_append (hw : ¬['/', '/'].IsInfix (lastLine (chars w)))
    (hl : (chars w).getLast? = some '/' → (chars l).head? ≠ some '/') :
    lines (w ++ l) = lines w ++ lines l := by
  have single {w : List (Char × τ)} (hw : ¬['/', '/'].IsInfix (chars w))
      (hl : (chars w).getLast? = some '/' → (chars l).head? ≠ some '/') :
      lines (w ++ l) = lines w ++ lines l := by
    have hself := lines_append_of_no_slashes (l := []) hw fun _ => by simp
    rw [List.append_nil, lines_nil, List.append_nil] at hself
    rw [lines_append_of_no_slashes hw hl, hself]
  rcases newline_or_lastLine_chars_eq w with ⟨-, hlast⟩ | ⟨front, x, last, rfl, hx, -, hlast⟩
  · exact single (hlast ▸ hw) hl
  · rw [List.append_assoc, List.cons_append, lines_append_newline hx, lines_append_newline hx,
      single (hlast ▸ hw), List.append_assoc, List.cons_append]
    intro h
    refine hl ?_
    rw [chars_append, List.getLast?_append, chars_cons, List.getLast?_cons, h]
    rfl

/-- The first pass over a text in two parts, whose first part ends in a line
    with two slashes. -/
theorem lines_append_of_cut (hw : ['/', '/'].IsInfix (lastLine (chars w))) :
    lines (w ++ l) = lines w ++ lines (fromLineEnd l) := by
  rcases newline_or_lastLine_chars_eq w with ⟨hline, hlast⟩ | ⟨front, x, last, rfl, hx, hline, hlast⟩
  · exact lines_append_of_slashes hline (hlast ▸ hw)
  · rw [List.append_assoc, List.cons_append, lines_append_newline hx, lines_append_newline hx,
      lines_append_of_slashes hline (hlast ▸ hw), List.append_assoc, List.cons_append]

/-- A text without slashes is kept. -/
theorem lines_append_of_notMem (h : '/' ∉ chars w) : lines (w ++ l) = w ++ lines l :=
  CommentStyle.outside_append_of_notMem rfl h

/-- From the end of a line on, a text begins with the newline. -/
theorem head?_lines_fromLineEnd (l : List (Char × τ)) :
    ∀ z ∈ (lines (fromLineEnd l)).head?, z.1 = '\n' := by
  intro z hz
  have hend : ∀ u ∈ (fromLineEnd l).head?, u.1 = '\n' := by
    intro u hu
    have hnot := List.head?_dropWhile_not (fun x : Char × τ => x.1 != '\n') l
    rw [show (l.dropWhile fun x => x.1 != '\n').head? = some u from hu] at hnot
    simpa using hnot
  cases hl : fromLineEnd l with
  | nil =>
    rw [hl, lines_nil] at hz
    cases hz
  | cons u rest =>
    rw [hl] at hend hz
    have hu := hend u rfl
    rw [lines_newline hu] at hz
    exact Option.some.inj hz ▸ hu

/-- The first pass begins as its text does, unless it cuts off the first line
    as a whole. -/
theorem head?_lines (l : List (Char × τ)) :
    (chars (lines l)).head? = (chars l).head?
      ∨ ∀ c, (chars (lines l)).head? = some c → c = '\n' := by
  cases l with
  | nil => exact .inl (by simp)
  | cons x l =>
    rw [lines_cons]
    split
    · refine .inr fun c hc => ?_
      obtain ⟨z, hz, rfl⟩ := Option.map_eq_some_iff.1 (List.head?_map.symm.trans hc)
      exact head?_lines_fromLineEnd l z hz
    · exact .inl rfl

/-- The first pass closes no comment that is not closed before. -/
theorem not_closing_lines (h : ¬['*', '/'].IsInfix (chars w)) :
    ¬['*', '/'].IsInfix (chars (lines w)) := by
  induction w using lines_induction with
  | nil => simp
  | cut x w hx hw ih =>
    rw [lines_cons, if_pos ⟨hx, hw⟩]
    refine ih fun hpair => h ?_
    have hsuffix : (chars (fromLineEnd w)).IsSuffix (chars (x :: w)) :=
      ((List.dropWhile_suffix _).trans (List.suffix_cons x w)).map Prod.fst
    exact hpair.trans hsuffix.isInfix
  | letter x w hx ih =>
    rw [lines_cons_of_ne hx, chars_cons, pair_infix_cons_iff]
    rw [chars_cons, pair_infix_cons_iff, not_or] at h
    rintro (⟨hstar, hslash⟩ | hpair)
    · -- A star does not come to stand in front of a slash: a cut leaves a newline there.
      rcases head?_lines w with hhead | hhead
      · exact h.1 ⟨hstar, hhead ▸ hslash⟩
      · exact absurd (hhead _ hslash) (by decide)
    · exact ih h.2 hpair

/-! ### The second pass -/

/-- What is left behind the first closing of a block comment. -/
def behindClosing? (l : List (Char × τ)) : Option (List (Char × τ)) :=
  findLetters? ['*', '/'] l

theorem behindClosing?_cons (x : Char × τ) (l : List (Char × τ)) :
    behindClosing? (x :: l)
      = if x.1 = '*' ∧ (chars l).head? = some '/' then some l.tail else behindClosing? l := by
  rw [behindClosing?, findLetters?, skipLetters?_pair]
  by_cases h : x.1 = '*' ∧ (chars l).head? = some '/'
  · rw [if_pos h, if_pos h]
  · rw [if_neg h, if_neg h]
    rfl

theorem sublist_of_behindClosing? {rest : List (Char × τ)} (h : behindClosing? l = some rest) :
    rest.Sublist l :=
  sublist_of_findLetters? h

/-- The search for a closing goes on behind a word without one, unless a slash
    follows that might close it. -/
theorem behindClosing?_append_of_ne (hw : ¬['*', '/'].IsInfix (chars w)) (hx : x.1 ≠ '/') :
    behindClosing? (w ++ x :: l) = behindClosing? (x :: l) := by
  induction w with
  | nil => rfl
  | cons z w ih =>
    have hcons := not_infix_cons hw
    rw [List.cons_append, behindClosing?_cons, if_neg, ih hcons.2]
    rintro ⟨hz, hhead⟩
    cases w with
    | nil => exact hx (Option.some.inj hhead)
    | cons u w => exact hcons.1 ⟨hz, hhead⟩

/-- A body without a closing ends at the first closing. -/
theorem behindClosing?_append {y : Char × τ} (hw : ¬['*', '/'].IsInfix (chars w)) (hx : x.1 = '*')
    (hy : y.1 = '/') : behindClosing? (w ++ x :: y :: l) = some l := by
  rw [behindClosing?_append_of_ne hw (by simp [hx]), behindClosing?_cons,
    if_pos ⟨hx, by simp [hy]⟩, List.tail_cons]

/-- A newline closes no comment. -/
theorem behindClosing?_append_newline (hw : ¬['*', '/'].IsInfix (chars w)) (hx : x.1 = '\n') :
    behindClosing? (w ++ x :: l) = behindClosing? l := by
  rw [behindClosing?_append_of_ne hw (by simp [hx]), behindClosing?_cons, if_neg (by simp [hx])]

theorem behindClosing?_eq_none (hw : ¬['*', '/'].IsInfix (chars w)) : behindClosing? w = none := by
  induction w with
  | nil => rfl
  | cons z w ih =>
    have hcons := not_infix_cons hw
    rw [behindClosing?_cons, if_neg hcons.1, ih hcons.2]

@[simp]
theorem blocks_nil : blocks ([] : List (Char × τ)) = [] :=
  CommentStyle.outside_nil

theorem blocks_sublist (l : List (Char × τ)) : (blocks l).Sublist l :=
  CommentStyle.outside_sublist (by decide) l

theorem behind?_blockStyle_cons (x : Char × τ) (l : List (Char × τ)) :
    blockStyle.behind? (x :: l)
      = if x.1 = '/' ∧ (chars l).head? = some '*' then behindClosing? l.tail else none := by
  have hbehind : blockStyle.behind? (x :: l)
      = (skipLetters? ['/', '*'] (x :: l)).bind behindClosing? := rfl
  rw [hbehind, skipLetters?_pair]
  split <;> rfl

theorem blocks_cons_of_ne (h : x.1 ≠ '/') : blocks (x :: l) = x :: blocks l := by
  refine CommentStyle.outside_cons ?_
  rw [behind?_blockStyle_cons, if_neg fun hx => h hx.1]

/-- A text without slashes is kept. -/
theorem blocks_append_of_notMem (h : '/' ∉ chars w) : blocks (w ++ l) = w ++ blocks l :=
  CommentStyle.outside_append_of_notMem rfl h

section Opening

variable {y : Char × τ} (hx : x.1 = '/') (hy : y.1 = '*')

include hx hy

theorem behind?_opening (l : List (Char × τ)) :
    blockStyle.behind? (x :: y :: l) = behindClosing? l := by
  rw [behind?_blockStyle_cons, if_pos ⟨hx, by simp [hy]⟩, List.tail_cons]

/-- A comment is dropped as a whole. -/
theorem blocks_closed {c d : Char × τ} (hw : ¬['*', '/'].IsInfix (chars w)) (hc : c.1 = '*')
    (hd : d.1 = '/') : blocks (x :: y :: (w ++ c :: d :: l)) = blocks l := by
  refine CommentStyle.outside_of_behind? (by decide) ?_
  rw [behind?_opening hx hy, behindClosing?_append hw hc hd]

/-- An opening that is never closed is kept. -/
theorem blocks_unclosed (hw : ¬['*', '/'].IsInfix (chars w)) :
    blocks (x :: y :: w) = x :: blocks (y :: w) := by
  refine CommentStyle.outside_cons ?_
  rw [behind?_opening hx hy, behindClosing?_eq_none hw]

/-- What is left of a text with an opening begins with this opening or lies
    behind the first newline that follows. -/
theorem head?_blocks_open (hw : ¬['*', '/'].IsInfix (chars w)) (hl : ∀ u ∈ l.head?, u.1 = '\n')
    {z : Char × τ} (hz : z ∈ (blocks (x :: y :: (w ++ l))).head?) : z = x ∨ z ∈ l.tail := by
  cases l with
  | nil =>
    rw [List.append_nil, blocks_unclosed hx hy hw] at hz
    exact .inl (Option.some.inj hz).symm
  | cons u l =>
    have hbehind : blockStyle.behind? (x :: y :: (w ++ u :: l)) = behindClosing? l := by
      rw [behind?_opening hx hy, behindClosing?_append_newline hw (hl u rfl)]
    -- The newline at the front of `l` goes with the comment if there is a closing behind it.
    cases hc : behindClosing? l with
    | none =>
      rw [blocks, CommentStyle.outside_cons (hbehind.trans hc)] at hz
      exact .inl (Option.some.inj hz).symm
    | some rest =>
      rw [blocks, CommentStyle.outside_of_behind? (by decide) (hbehind.trans hc)] at hz
      refine .inr ((sublist_of_behindClosing? hc).subset ?_)
      exact (blocks_sublist rest).subset (List.mem_of_head? hz)

end Opening

end CatalogAudit
