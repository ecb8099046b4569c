import CatalogAudit.Proofs.Regex.Words
import Mathlib.Computability.Language

/-!
# The language of an expression

An expression without anchors inside matches the words of a language, wherever the match
begins. The language of a sequence is the product of the languages of its parts, so the
language of a pattern can be read off the pattern part by part. The anchors at its ends turn
a match somewhere into a match of the whole text.

* `Regex.SpellsAt`: the ends of the matches at a position are those of the words.
* `spellsAt_set`, `spellsAt_many`: the words of the building blocks.
* `spellsAt_seq`, `spellsAt_literal`: the words of sequences.
* `matchesAt_start_iff`, `matchesAt_textEnd_iff`: a text whose beginning, or which as a whole, is
  a word.
-/

namespace CatalogAudit.Regex

open Cursor

variable {c d e : Cursor} {r s : Regex} {t : CharSet} {l m : Language Char} {text : List Char}

/-- The matches of `r` at `c` are the words of the language that the text goes on with. -/
def SpellsAt (c : Cursor) (r : Regex) (l : Language Char) : Prop :=
  ∀ d, d ∈ r.ends c ↔ ∃ w ∈ l, c.Reaches w d

/-! ### Repetitions of a set -/

theorem closureFrom_set (fuel : Nat) (c : Cursor) (found : List Cursor) :
    (closureFrom (set t).ends true fuel [] c).reverse ++ found = runFrom t fuel c found := by
  -- Each position has at most one next one, which is new, so no end is reached twice.
  induction fuel generalizing c found with
  | zero => rfl
  | succ fuel ih =>
    rw [closureFrom, runFrom, ends]
    cases hnext : c.next? with
    | none => rfl
    | some next =>
      obtain ⟨x, d⟩ := next
      have hlt : c.offset < d.offset :=
        (next?_eq_some_iff.1 hnext).offset_lt (List.cons_ne_nil x [])
      by_cases hx : t.contains x = true
      · simp only [reached, List.any_nil, Bool.false_eq_true, if_false, hx, if_true,
          List.filter_cons, hlt, decide_true, List.filter_nil, List.foldl_cons, List.foldl_nil]
        rw [List.reverse_cons, List.append_assoc]
        exact ih d (c :: found)
      · simp [reached, hx]

/-- Repeating a set comes to a run of its characters. -/
theorem ends_star_set (t : CharSet) (c : Cursor) :
    (star (set t) true).ends c = (zeroOrMore t).ends c := by
  have hrun := closureFrom_set (t := t) c.after.length c []
  rwa [List.append_nil] at hrun

/-- One or more characters of a set, in the form in which a pattern has it. -/
def many (t : CharSet) : Regex :=
  seq (times (set t) 1) (star (set t) true)

theorem ends_many (t : CharSet) (c : Cursor) : (many t).ends c = (oneOrMore t).ends c := by
  have hmany : (many t).ends c = chain (star (set t) true).ends ((set t).ends c) := rfl
  rw [hmany, funext (ends_star_set t)]
  rfl

/-! ### Words -/

/-- The words of one character. -/
def letters (t : CharSet) : Language Char :=
  { w | ∃ x, t.contains x = true ∧ w = [x] }

/-- The words of characters of a set, the empty one apart. -/
def names (t : CharSet) : Language Char :=
  { w | w ≠ [] ∧ ∀ x ∈ w, t.contains x = true }

theorem spellsAt_set (t : CharSet) (c : Cursor) : SpellsAt c (set t) (letters t) := by
  intro d
  constructor
  · intro h
    obtain ⟨x, hx, hreach⟩ := reaches_of_mem_ends_set h
    exact ⟨[x], ⟨x, hx, rfl⟩, hreach⟩
  · rintro ⟨w, ⟨x, hx, rfl⟩, hreach⟩
    exact mem_ends_set hx hreach

theorem spellsAt_many (t : CharSet) (c : Cursor) : SpellsAt c (many t) (names t) := by
  intro d
  rw [ends_many]
  constructor
  · intro h
    obtain ⟨w, hne, hw, hreach⟩ := reaches_of_mem_ends_oneOrMore h
    exact ⟨w, ⟨hne, hw⟩, hreach⟩
  · rintro ⟨w, ⟨hne, hw⟩, hreach⟩
    exact mem_ends_oneOrMore hne hw hreach

/-- The words of a sequence are made of one word of each part. -/
theorem spellsAt_seq (hr : SpellsAt c r l) (hs : ∀ e, SpellsAt e s m) :
    SpellsAt c (seq r s) (l * m) := by
  intro d
  constructor
  · intro h
    obtain ⟨e, he, hd⟩ := exists_of_mem_ends_seq h
    obtain ⟨v, hv, hce⟩ := (hr e).1 he
    obtain ⟨w, hw, hed⟩ := (hs e d).1 hd
    exact ⟨v ++ w, Language.mem_mul.2 ⟨v, hv, w, hw, rfl⟩, hce.trans hed⟩
  · rintro ⟨u, hu, hreach⟩
    obtain ⟨v, hv, w, hw, rfl⟩ := Language.mem_mul.1 hu
    obtain ⟨e, hce, hed⟩ := hreach.exists_of_append
    exact mem_ends_seq ((hr e).2 ⟨v, hv, hce⟩) ((hs e d).2 ⟨w, hw, hed⟩)

/-- The single word of the characters of a pattern that stand for themselves. -/
theorem spellsAt_literal (hr : SpellsAt c r l) (word : List Char) :
    SpellsAt c ((word.map fun x => set (.single x)).foldl seq r) (l * {word}) := by
  induction word generalizing r l with
  | nil =>
    have hone : ({[]} : Language Char) = 1 := rfl
    rwa [hone, mul_one]
  | cons x word ih =>
    have hletter : letters (.single x) = {[x]} := by
      ext w
      simp only [letters, CharSet.contains_single, exists_eq_left]
      rfl
    have hword : ({x :: word} : Language Char) = {[x]} * {word} := by
      ext w
      rw [Language.mem_mul]
      constructor
      · rintro rfl
        exact ⟨[x], rfl, word, rfl, rfl⟩
      · rintro ⟨_, rfl, _, rfl, rfl⟩
        rfl
    rw [List.map_cons, List.foldl_cons, hword, ← mul_assoc]
    exact ih (spellsAt_seq hr fun e => hletter ▸ spellsAt_set (.single x) e)

/-! ### Anchors -/

/-- At the start of a text the anchor matches and consumes nothing. -/
theorem spellsAt_textStart (text : List Char) :
    SpellsAt (start text) (seq empty (look .textStart)) 1 := by
  intro d
  have hends : (seq empty (look .textStart)).ends (start text) = [start text] := rfl
  rw [hends, List.mem_singleton]
  constructor
  · rintro rfl
    exact ⟨[], rfl, .refl _⟩
  · rintro ⟨w, rfl, hreach⟩
    exact hreach.unique (.refl _)

/-- Without an anchor at its end, an expression matches what begins with one of its words. -/
theorem matchesAt_start_iff (h : SpellsAt (start text) r l) :
    r.matchesAt (start text) = true ↔ ∃ w ∈ l, w <+: text := by
  rw [matchesAt, Bool.not_eq_true', List.isEmpty_eq_false_iff_exists_mem]
  constructor
  · rintro ⟨d, hd⟩
    obtain ⟨w, hw, hreach⟩ := (h d).1 hd
    exact ⟨w, hw, d.after, hreach.eq_append.symm⟩
  · rintro ⟨w, hw, rest, rfl⟩
    obtain ⟨d, hreach, -⟩ := Reaches.exists_of_after (c := start (w ++ rest)) rfl
    exact ⟨d, (h d).2 ⟨w, hw, hreach⟩⟩

/-- With an anchor at its end, an expression matches its words and nothing else. -/
theorem matchesAt_textEnd_iff (h : SpellsAt (start text) r l) :
    (seq r (look .textEnd)).matchesAt (start text) = true ↔ text ∈ l := by
  rw [matchesAt, Bool.not_eq_true', List.isEmpty_eq_false_iff_exists_mem]
  constructor
  · rintro ⟨d, hd⟩
    obtain ⟨e, he, hend⟩ := exists_of_mem_ends_seq hd
    obtain ⟨w, hw, hreach⟩ := (h e).1 he
    have hnil : e.after = [] := List.isEmpty_iff.1 (mem_ends_look hend).2
    have htext : text = w := by rw [hreach.eq_append, hnil, List.append_nil]
    exact htext ▸ hw
  · intro htext
    obtain ⟨d, hreach, hnil⟩ :=
      Reaches.exists_of_after (c := start text) (List.append_nil text).symm
    have hend : Look.textEnd.holds d = true := List.isEmpty_iff.2 hnil
    exact ⟨d, mem_ends_seq ((h d).2 ⟨text, htext, hreach⟩) (mem_ends_look_of_holds hend)⟩

end CatalogAudit.Regex
