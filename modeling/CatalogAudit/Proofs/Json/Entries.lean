import CatalogAudit.Proofs.Json.Skipping

/-!
# Objects of any values

An object whose values are kept as they are written: its keys are strings, its values are
well-formed, and nothing more is known of them. A reader that looks at some of the values and
reads over the others ends behind each of them, or it fails.

* `Json.IsObject`: the keys and values that a text writes.
* `Json.gives_readMembersFrom_entries_iff`: such an object is read entry by entry.
-/

namespace CatalogAudit.Json

/-- What stands behind the opening brace of an object, or behind an entry: the entries to come,
    each with its value as it is written, and the closing brace. -/
inductive WritesEntries : Bool → List (String × List Char) → List Char → Prop
  | close {first : Bool} {blanks : List Char} :
    IsBlanks blanks → WritesEntries first [] (blanks ++ ['\x7d'])
  | entry {first : Bool} {key : String} {entries : List (String × List Char)}
    {front name before behind value rest : List Char} :
    Separates first front → WritesText key name → IsBlanks before → IsBlanks behind →
      IsValue value → WritesEntries false entries rest →
        WritesEntries first ((key, value) :: entries)
          (front ++ (name ++ (before ++ ':' :: (behind ++ (value ++ rest)))))

/-- The text is one of an object with these entries. -/
def IsObject (entries : List (String × List Char)) (text : String) : Prop :=
  ∃ before letters behind, IsBlanks before ∧ WritesEntries true entries letters ∧ IsBlanks behind
    ∧ text.toList = before ++ '\x7b' :: (letters ++ behind)

/-- Behind a value in an object, a number is at its end. -/
theorem WritesEntries.endsNumber {entries : List (String × List Char)} {letters : List Char}
    (h : WritesEntries false entries letters) (rest : List Char) :
    EndsNumber (letters ++ rest) := by
  cases h with
  | close hblanks =>
    rw [List.append_assoc]
    exact endsNumber_of_isBlanks hblanks (by decide) rest
  | entry hfront =>
    obtain _ | hblanks := hfront
    rw [List.append_assoc, List.append_assoc]
    exact endsNumber_of_isBlanks hblanks (by decide) _

/-- The states that are reached by the entries one after the other. -/
inductive EntriesLead {σ : Type} (step : String → List Char → σ → σ → Prop) :
    List (String × List Char) → σ → σ → Prop
  | nil (s : σ) : EntriesLead step [] s s
  | cons {key : String} {value : List Char} {entries : List (String × List Char)} {s s' s'' : σ} :
    step key value s s' → EntriesLead step entries s' s'' →
      EntriesLead step ((key, value) :: entries) s s''

section Members

variable {σ : Type} {member : String → σ → Input → Outcome σ}
  {step : String → List Char → σ → σ → Prop}

/-- When `member` takes a value to its end or fails, the entries are taken one after the other. -/
theorem gives_readMembersFrom_entries_iff
    (hmember : ∀ key s before behind value rest offset s' left, IsBlanks before → IsBlanks behind →
      IsValue value → EndsNumber rest →
        (Gives
            (member key s { rest := before ++ ':' :: (behind ++ (value ++ rest)), offset }) s' left
          ↔ step key value s s' ∧ left = rest))
    {first : Bool} {entries : List (String × List Char)} {letters : List Char}
    (h : WritesEntries first entries letters) {fuel : Nat} (hfuel : letters.length ≤ fuel)
    {s s' : σ} (rest : List Char) (offset : Nat) {left : List Char} :
    Gives (readMembersFrom member fuel first s { rest := letters ++ rest, offset }) s' left
      ↔ EntriesLead step entries s s' ∧ left = rest := by
  induction h generalizing fuel s offset with
  | @close first blanks hblanks =>
    obtain ⟨fuel, rfl⟩ := Nat.exists_eq_add_one.2 (Nat.lt_of_lt_of_le (by simp) hfuel)
    have hnext : Gives (nextKey first { rest := blanks ++ ['\x7d'] ++ rest, offset }) false
        ('\x7d' :: rest) :=
      gives_nextKey_false_iff.2 ⟨blanks, rest, hblanks, rfl, by simp⟩
    obtain ⟨reached, hnext⟩ := hnext
    rw [readMembersFrom, hnext]
    simp only [gives_ok_iff, Input.advance, List.tail_cons]
    constructor
    · rintro ⟨rfl, rfl⟩
      exact ⟨.nil s, rfl⟩
    · rintro ⟨⟨⟩, rfl⟩
      exact ⟨rfl, rfl⟩
  | @entry first key entries front name before behind value others hfront hname hbefore hbehind
      hvalue hothers ih =>
    obtain ⟨inner, hinner, rfl⟩ := hname
    obtain ⟨fuel, rfl⟩ := Nat.exists_eq_add_one.2
      (Nat.lt_of_lt_of_le (by simp only [List.length_append, List.length_cons]; omega) hfuel)
    have hshorter : others.length ≤ fuel := by
      simp only [List.length_append, List.length_cons] at hfuel
      omega
    have hnext : Gives
        (nextKey first { rest := front ++ ('"' :: (inner ++ ['"']) ++ (before ++ ':' :: (behind
          ++ (value ++ others)))) ++ rest, offset }) true
        ('"' :: (inner ++ '"' :: (before ++ ':' :: (behind ++ (value ++ (others ++ rest)))))) :=
      gives_nextKey_true_iff.2 ⟨front, _, hfront, rfl, by simp⟩
    obtain ⟨reached, hnext⟩ := hnext
    have hkey : Gives (readText { rest := inner ++ '"' :: (before ++ ':' :: (behind
        ++ (value ++ (others ++ rest)))), offset := reached + 1 }) key
        (before ++ ':' :: (behind ++ (value ++ (others ++ rest)))) :=
      gives_readText_iff.2 ⟨inner, hinner, rfl⟩
    obtain ⟨colon, hkey⟩ := hkey
    have hstep (s' : σ) (left : List Char) :=
      hmember key s before behind value (others ++ rest) colon s' left hbefore hbehind hvalue
        (hothers.endsNumber rest)
    rw [readMembersFrom, hnext]
    simp only [Input.advance, List.tail_cons, hkey]
    constructor
    · intro hread
      split at hread
      · exact absurd hread (not_gives_error _ _ _)
      · rename_i t i htaken
        obtain ⟨ht, hi⟩ := (hstep t i.rest).1 ⟨i.offset, htaken⟩
        obtain ⟨left, reached⟩ := i
        obtain rfl : left = others ++ rest := hi
        obtain ⟨hlead, rfl⟩ := (ih hshorter reached).1 hread
        exact ⟨.cons ht hlead, rfl⟩
    · rintro ⟨hlead, rfl⟩
      obtain _ | ⟨ht, hlead⟩ := hlead
      obtain ⟨reached, htaken⟩ := (hstep _ _).2 ⟨ht, rfl⟩
      rw [htaken]
      exact (ih hshorter reached).2 ⟨hlead, rfl⟩

end Members

end CatalogAudit.Json
