import CatalogAudit.Settings.Basic
import CatalogAudit.Unicode.Character
import Mathlib.Data.Bool.AllAny

/-!
# Classes of characters

A category is looked up by bisection among the starts of runs, and the run that
the search ends at has the code point in it. So what holds of all characters of a
category can be read off the runs of that category. There are few of separators,
and with them white space is a short list, which has no character of an
identifier in it.

* `isBetween_rank`: what bisection finds.
* `exists_run`: the run that a category is taken from.
* `mem_whiteSpaces`: the characters of white space.
* `classes_of_mem_delimiters`: what delimiters are not.
* `isWhiteSpace_eq_false_of_mem`, `notMem_of_isIdentifier`: identifiers have
  neither white space nor delimiters.
-/

namespace CatalogAudit

namespace Unicode

/-- The entry in front of index `i` is at most `n` and the one at `i` is above. -/
structure IsBetween (starts : Array Nat) (n i : Nat) : Prop where
  le : 0 < i → starts.getD (i - 1) 0 ≤ n
  lt : i < starts.size → n < starts.getD i 0

/-- Bisection keeps the entries around its interval on their sides of `n`, and it
    halves the interval until nothing is left. -/
theorem isBetween_rankBetween {starts : Array Nat} {n steps low high : Nat} (hle : low ≤ high)
    (hsteps : high - low ≤ steps) (hlow : 0 < low → starts.getD (low - 1) 0 ≤ n)
    (hhigh : high < starts.size → n < starts.getD high 0) :
    IsBetween starts n (rankBetween starts n steps low high)
      ∧ rankBetween starts n steps low high ≤ high := by
  induction steps generalizing low high with
  | zero =>
    obtain rfl : low = high := by omega
    exact ⟨⟨hlow, hhigh⟩, Nat.le_refl low⟩
  | succ steps ih =>
    rw [rankBetween]
    by_cases h : low < high
    · rw [if_pos h]
      by_cases hm : starts.getD ((low + high) / 2) 0 ≤ n
      · simp only [if_pos hm]
        exact ih (by omega) (by omega) (fun _ => hm) hhigh
      · simp only [if_neg hm]
        have hmiddle : low ≤ (low + high) / 2 := by omega
        obtain ⟨hbetween, hrank⟩ := ih hmiddle (by omega) hlow fun _ => Nat.lt_of_not_le hm
        exact ⟨hbetween, by omega⟩
    · rw [if_neg h]
      obtain rfl : low = high := by omega
      exact ⟨⟨hlow, hhigh⟩, Nat.le_refl low⟩

theorem isBetween_rank (starts : Array Nat) (n : Nat) : IsBetween starts n (rank starts n) :=
  (isBetween_rankBetween (Nat.zero_le _) (Nat.le_refl _) (by simp) (by simp)).1

theorem rank_le (starts : Array Nat) (n : Nat) : rank starts n ≤ starts.size :=
  (isBetween_rankBetween (Nat.zero_le _) (Nat.le_refl _) (by simp) (by simp)).2

section Runs

variable {α : Type} {starts : Array Nat} {values : Array α}

theorem getElem?_eq_some_getD {i : Nat} (h : i < values.size) (d : α) :
    values.toList[i]? = some (values.getD i d) := by
  rw [Array.getElem?_toList, Array.getD_eq_getD_getElem?, Array.getElem?_eq_getElem h,
    Option.getD_some]

/-- Runs with their values, each with the start of the next one. -/
def runs (starts : Array Nat) (values : Array α) : List ((Nat × Nat) × α) :=
  (starts.toList.zip starts.toList.tail).zip values.toList

/-- The value that is found for a code point is that of the last run, which no
    other one follows, or that of a run with the code point in it. -/
theorem rank_eq_size_or_exists_run (hsize : values.size = starts.size)
    (hfirst : starts.getD 0 0 = 0) (n : Nat) (d : α) :
    rank starts n = starts.size
      ∨ ∃ low high, ((low, high), values.getD (rank starts n - 1) d) ∈ runs starts values
        ∧ low ≤ n ∧ n < high := by
  obtain ⟨hle, hlt⟩ := isBetween_rank starts n
  generalize hrank : rank starts n = i at hle hlt ⊢
  rcases Nat.lt_or_eq_of_le (hrank ▸ rank_le starts n : i ≤ starts.size) with hi | hi
  · have hpos : 0 < i := by
      refine Nat.pos_of_ne_zero fun hzero => ?_
      subst hzero
      rw [hfirst] at hlt
      exact Nat.not_lt_zero n (hlt hi)
    refine .inr ⟨_, _, List.mem_of_getElem? (i := i - 1) ?_, hle hpos, hlt hi⟩
    refine List.getElem?_zip_eq_some.2 ⟨List.getElem?_zip_eq_some.2 ⟨?_, ?_⟩, ?_⟩
    · exact getElem?_eq_some_getD (by omega) 0
    · rw [List.getElem?_tail, Nat.sub_add_cancel hpos]
      exact getElem?_eq_some_getD hi 0
    · exact getElem?_eq_some_getD (by omega) d
  · exact .inl hi

end Runs

/-- The runs of general categories. -/
@[irreducible]
def categoryRuns : List ((Nat × Nat) × Category) :=
  runs categoryStarts categoryValues

theorem exists_run (n : Nat) :
    categoryOf n = .cn ∨ ∃ low high, ((low, high), categoryOf n) ∈ categoryRuns
      ∧ low ≤ n ∧ n < high := by
  have hsize : categoryValues.size = categoryStarts.size := by decide +kernel
  have hfirst : categoryStarts.getD 0 0 = 0 := by decide +kernel
  have hlast : categoryValues.getD (categoryStarts.size - 1) .cn = .cn := by decide +kernel
  rw [categoryOf, categoryRuns]
  rcases rank_eq_size_or_exists_run hsize hfirst n .cn with hrank | hrun
  · exact .inl (hrank ▸ hlast)
  · exact .inr hrun

/-! ### White space -/

/-- The code points of white space. -/
def whiteSpaces : List Nat :=
  [9, 10, 11, 12, 13, 0x85] ++ [0x20, 0xA0, 0x1680, 0x2000, 0x2001, 0x2002, 0x2003, 0x2004, 0x2005,
    0x2006, 0x2007, 0x2008, 0x2009, 0x200A, 0x2028, 0x2029, 0x202F, 0x205F, 0x3000]

theorem mem_whiteSpaces_of_isSeparator {n : Nat} (h : (categoryOf n).isSeparator = true) :
    n ∈ whiteSpaces := by
  have hruns : ∀ run ∈ categoryRuns.filter (·.2.isSeparator),
      ∀ m ∈ List.range' run.1.1 (run.1.2 - run.1.1), m ∈ whiteSpaces := by decide +kernel
  rcases exists_run n with hn | ⟨low, high, hrun, hlow, hhigh⟩
  · rw [hn] at h
    cases h
  · generalize categoryOf n = k at h hrun
    have hn : n ∈ List.range' low (high - low) := List.mem_range'_1.2 ⟨hlow, by omega⟩
    exact hruns _ (List.mem_filter.2 ⟨hrun, h⟩) n hn

/-- White space is a short list of separators and controls. -/
theorem mem_whiteSpaces {c : Char} (h : isWhiteSpace c = true) :
    c.toNat ∈ whiteSpaces ∧ ((category c).isSeparator = true ∨ category c = .cc) := by
  have hcontrol (hc : c.toNat ∈ [9, 10, 11, 12, 13, 0x85]) :
      c.toNat ∈ whiteSpaces ∧ ((category c).isSeparator = true ∨ category c = .cc) := by
    have hcategory : ∀ n ∈ [9, 10, 11, 12, 13, 0x85], categoryOf n = .cc := by decide +kernel
    exact ⟨List.mem_append_left _ hc, .inr (hcategory _ hc)⟩
  rw [isWhiteSpace, Bool.or_eq_true, Bool.or_eq_true] at h
  rcases h with (h | h) | h
  · exact ⟨mem_whiteSpaces_of_isSeparator h, .inl h⟩
  · have hbounds : 9 ≤ c.toNat ∧ c.toNat ≤ 13 := by simpa using h
    have hmem : ∀ n ∈ List.range' 9 5, n ∈ [9, 10, 11, 12, 13, 0x85] := by decide
    exact hcontrol (hmem _ (List.mem_range'_1.2 ⟨hbounds.1, by omega⟩))
  · exact hcontrol (by simpa using .inr (.inr (.inr (.inr (.inr (beq_iff_eq.1 h))))))

theorem alphabeticBeyondLetters_contains_eq_false :
    ∀ n ∈ whiteSpaces, alphabeticBeyondLetters.contains n = false := by
  decide +kernel

/-- No letter and no number is white space. -/
theorem isWhiteSpace_eq_false {c : Char} (h : isAlphabetic c = true ∨ isNumeric c = true) :
    isWhiteSpace c = false := by
  refine Bool.eq_false_iff.2 fun hc => ?_
  obtain ⟨hmem, hcategory⟩ := mem_whiteSpaces hc
  rw [isAlphabetic, isNumeric, alphabeticBeyondLetters_contains_eq_false _ hmem] at h
  revert h hcategory
  cases category c <;> decide

/-- White space is in no word. -/
theorem isWord_eq_false_of_isWhiteSpace {c : Char} (h : isWhiteSpace c = true) :
    isWord c = false := by
  have hjoin : ∀ n ∈ whiteSpaces, n ≠ 0x200C ∧ n ≠ 0x200D := by decide
  obtain ⟨hmem, hcategory⟩ := mem_whiteSpaces h
  rw [isWord, isAlphabetic, alphabeticBeyondLetters_contains_eq_false _ hmem, isDecimalDigit,
    isJoinControl, beq_false_of_ne (hjoin _ hmem).1, beq_false_of_ne (hjoin _ hmem).2]
  revert hcategory
  cases category c <;> decide

/-! ### Delimiters -/

/-- The characters that calls, tags and comments are delimited with. -/
def delimiters : List Char :=
  "!\"$'()*./<=>`".toList

/-- A delimiter is of no class of characters. -/
theorem classes_of_mem_delimiters {c : Char} (h : c ∈ delimiters) :
    isAlphabetic c = false ∧ isNumeric c = false ∧ isWhiteSpace c = false ∧ isWord c = false := by
  have hlisted : ∀ c ∈ delimiters, category c ∈ [.po, .ps, .pe, .sm, .sc, .sk]
      ∧ alphabeticBeyondLetters.contains c.toNat = false
      ∧ 13 < c.toNat ∧ c.toNat < 0x80 := List.all_iff_forall_prop.1 (by decide +kernel)
  obtain ⟨hcategory, hbeyond, hlow, hhigh⟩ := hlisted c h
  have hcontrol : c.toNat ≠ 0x85 ∧ c.toNat ≠ 0x200C ∧ c.toNat ≠ 0x200D := by omega
  simp only [isWord, isAlphabetic, isNumeric, isWhiteSpace, isDecimalDigit, isJoinControl, hbeyond,
    hcontrol, beq_false_of_ne, Bool.or_false, ne_eq, not_false_eq_true]
  have hrange : (decide (9 ≤ c.toNat) && decide (c.toNat ≤ 13)) = false := by
    simp only [Bool.and_eq_false_iff, decide_eq_false_iff_not]
    omega
  rw [hrange]
  revert hcategory
  cases category c <;> decide

theorem isWord_eq_false_of_mem_delimiters {c : Char} (h : c ∈ delimiters) : isWord c = false :=
  (classes_of_mem_delimiters h).2.2.2

/-- No delimiter is in a word. -/
theorem notMem_of_isWord {word : List Char} (h : ∀ c ∈ word, isWord c = true) {c : Char}
    (hc : c ∈ delimiters) : c ∉ word := fun hmem =>
  Bool.eq_false_iff.1 (isWord_eq_false_of_mem_delimiters hc) (h c hmem)

end Unicode

/-! ### Identifiers -/

/-- What the characters of an identifier are. -/
theorem mem_of_isIdentifier {name : String} (h : isIdentifier name = true) {x : Char}
    (hx : x ∈ name.toList) :
    Unicode.isAlphabetic x = true ∨ Unicode.isNumeric x = true ∨ x = '_' := by
  rw [isIdentifier] at h
  split at h
  · cases h
  · rename_i c rest hname
    obtain ⟨hc, hrest⟩ := Bool.and_eq_true_iff.1 h
    rw [hname] at hx
    rcases List.mem_cons.1 hx with rfl | hx
    · have hfirst : Unicode.isAlphabetic x = true ∨ x = '_' := by simpa using hc
      exact hfirst.imp_right .inr
    · simpa [or_assoc] using List.all_eq_true.1 hrest x hx

theorem isWhiteSpace_eq_false_of_mem {name : String} (h : isIdentifier name = true) {x : Char}
    (hx : x ∈ name.toList) : Unicode.isWhiteSpace x = false := by
  rcases mem_of_isIdentifier h hx with hx | hx | rfl
  · exact Unicode.isWhiteSpace_eq_false (.inl hx)
  · exact Unicode.isWhiteSpace_eq_false (.inr hx)
  · decide +kernel

theorem notMem_of_isIdentifier {name : String} (h : isIdentifier name = true) {x : Char}
    (hx : x ∈ Unicode.delimiters) : x ∉ name.toList := by
  intro hmem
  obtain ⟨halphabetic, hnumeric, -, -⟩ := Unicode.classes_of_mem_delimiters hx
  rcases mem_of_isIdentifier h hmem with hc | hc | rfl
  · exact absurd (halphabetic.symm.trans hc) Bool.false_ne_true
  · exact absurd (hnumeric.symm.trans hc) Bool.false_ne_true
  · exact absurd hx (by decide)

/-- An identifier begins with a word character. -/
theorem exists_cons_of_isIdentifier {name : String} (h : isIdentifier name = true) :
    ∃ x rest, name.toList = x :: rest ∧ Unicode.isWord x = true := by
  rw [isIdentifier] at h
  split at h
  · cases h
  · rename_i c rest hname
    refine ⟨c, rest, hname, ?_⟩
    have hfirst : Unicode.isAlphabetic c = true ∨ c = '_' := by
      simpa using (Bool.and_eq_true_iff.1 h).1
    rcases hfirst with hc | rfl
    · simp [Unicode.isWord, hc]
    · decide +kernel

end CatalogAudit
