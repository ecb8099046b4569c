import CatalogAudit.Proofs.Json.Scalars

/-!
# Reading over values

A value that is of no interest is read over. It only has to be well-formed: its strings may
have halves of surrogate pairs in them, which stand for no character, and its numbers may be of
any size.

* `Json.IsPart`, `Json.IsValue`: the well-formed values and what they consist of.
* `Json.Writes.isValue`: the texts of documents are values.
* `Json.IsPart.skips`: reading over a part ends right behind it, inside any brackets.
* `Json.exists_skipValue_eq`: so does reading over a value.
* `Json.IsValue.eq_of_append_eq`: a value ends in one place only.
-/

namespace CatalogAudit.Json

/-! ### Well-formed values -/

/-- What may be between the quotes of a string, where halves of surrogate pairs need not be
    combined. -/
inductive IsTextUnit : List Char → Prop
  | plain {c : Char} : c ≠ '"' → c ≠ '\\' → 0x20 ≤ c.toNat → IsTextUnit [c]
  | short {letter c : Char} : (letter, c) ∈ shortEscapes → IsTextUnit ['\\', letter]
  | unit {n : Nat} {ds : List Char} : FourDigits n ds → IsTextUnit ('\\' :: 'u' :: ds)

/-- A string between its quotes, which need not be one of characters. -/
def IsText (letters : List Char) : Prop :=
  ∃ units : List (List Char), (∀ unit ∈ units, IsTextUnit unit)
    ∧ letters = '"' :: (units.flatten ++ ['"'])

theorem IsText.exists_eq_cons {letters : List Char} (h : IsText letters) :
    ∃ inner, letters = '"' :: inner := by
  obtain ⟨units, -, rfl⟩ := h
  exact ⟨_, rfl⟩

/-- The character that opens a list or an object. -/
def Bracket.opening : Bracket → Char
  | list => '['
  | object => '\x7b'

/-- The character that closes a list or an object. -/
def Bracket.closing : Bracket → Char
  | list => ']'
  | object => '\x7d'

/-- What a text may go on with. -/
inductive Part
  | value
  /-- The items or members that are to come in a bracket, and its end. -/
  | inside (bracket : Bracket) (first : Bool)

/-- The texts of a part. -/
inductive IsPart : Part → List Char → Prop
  | name {letters : List Char} :
    letters ∈ [['n', 'u', 'l', 'l'], ['t', 'r', 'u', 'e'], ['f', 'a', 'l', 's', 'e']] →
      IsPart .value letters
  | number {letters : List Char} : IsNumber letters → IsPart .value letters
  | text {letters : List Char} : IsText letters → IsPart .value letters
  | bracket {bracket : Bracket} {letters : List Char} :
    IsPart (.inside bracket true) letters → IsPart .value (bracket.opening :: letters)
  | close {bracket : Bracket} {first : Bool} {blanks : List Char} :
    IsBlanks blanks → IsPart (.inside bracket first) (blanks ++ [bracket.closing])
  | item {first : Bool} {front value rest : List Char} :
    Separates first front → IsPart .value value → IsPart (.inside .list false) rest →
      IsPart (.inside .list first) (front ++ (value ++ rest))
  | member {first : Bool} {front name before behind value rest : List Char} :
    Separates first front → IsText name → IsBlanks before → IsBlanks behind →
      IsPart .value value → IsPart (.inside .object false) rest →
        IsPart (.inside .object first)
          (front ++ (name ++ (before ++ ':' :: (behind ++ (value ++ rest)))))

/-- The well-formed values, without blanks around them. -/
def IsValue (letters : List Char) : Prop :=
  IsPart .value letters

theorem WritesChar.exists_units {c : Char} {letters : List Char} (h : WritesChar c letters) :
    ∃ units : List (List Char), (∀ unit ∈ units, IsTextUnit unit)
      ∧ letters = units.flatten := by
  cases h with
  | plain hquote hbackslash hcontrol =>
    exact ⟨[[c]], List.forall_mem_singleton.2 (.plain hquote hbackslash hcontrol), rfl⟩
  | short hc => exact ⟨[_], List.forall_mem_singleton.2 (.short hc), by simp⟩
  | unit hds => exact ⟨[_], List.forall_mem_singleton.2 (.unit hds), by simp⟩
  | @pair _ _ _ ds es _ _ _ hds hes =>
    refine ⟨['\\' :: 'u' :: ds, '\\' :: 'u' :: es], ?_, by simp⟩
    exact List.forall_mem_cons.2 ⟨.unit hds, List.forall_mem_singleton.2 (.unit hes)⟩

theorem WritesChars.exists_units {cs letters : List Char} (h : WritesChars cs letters) :
    ∃ units : List (List Char), (∀ unit ∈ units, IsTextUnit unit)
      ∧ letters = units.flatten := by
  induction h with
  | nil => exact ⟨[], by simp, rfl⟩
  | cons hc _ ih =>
    obtain ⟨front, hfront, rfl⟩ := hc.exists_units
    obtain ⟨units, hunits, rfl⟩ := ih
    exact ⟨front ++ units, List.forall_mem_append.2 ⟨hfront, hunits⟩, by simp⟩

theorem WritesText.isText {s : String} {letters : List Char} (h : WritesText s letters) :
    IsText letters := by
  obtain ⟨inner, hinner, rfl⟩ := h
  obtain ⟨units, hunits, rfl⟩ := hinner.exists_units
  exact ⟨units, hunits, rfl⟩

/-- The texts of documents are well-formed values. -/
theorem Writes.isValue {v : Document} {letters : List Char} (h : Writes v letters) :
    IsValue letters := by
  refine @Writes.rec (fun _ letters _ => IsPart .value letters)
    (fun first _ letters _ => IsPart (.inside .list first) letters)
    (fun first _ letters _ => IsPart (.inside .object first) letters)
    ?null ?boolean ?number ?text ?list ?object ?endList ?item ?endObject ?member v letters h
  case null => exact .name (by simp)
  case boolean => exact fun b => .name (by cases b <;> simp)
  case number => exact fun h => .number h
  case text => exact fun h => .text h.isText
  case list => exact fun _ ih => .bracket ih
  case object => exact fun _ ih => .bracket ih
  case endList => exact fun h => .close h
  case item => exact fun hfront _ _ ihvalue ihrest => .item hfront ihvalue ihrest
  case endObject => exact fun h => .close h
  case member =>
    exact fun hfront hname hbefore hbehind _ _ ihvalue ihrest =>
      .member hfront hname.isText hbefore hbehind ihvalue ihrest

theorem IsNumber.exists_eq_cons {letters : List Char} (h : IsNumber letters) :
    ∃ c rest, letters = c :: rest ∧ (c = '-' ∨ isDigit c = true) := by
  obtain ⟨hsign, ⟨hne, hdigits⟩, -, -, -⟩ := h
  obtain ⟨c, rest, rfl⟩ := List.exists_cons_of_ne_nil hne
  simp only [List.mem_cons, List.not_mem_nil, or_false] at hsign
  rcases hsign with rfl | rfl
  · exact ⟨c, _, rfl, .inr (hdigits c List.mem_cons_self)⟩
  · exact ⟨'-', _, rfl, .inl rfl⟩

theorem ne_of_isDigit {c d : Char} (hc : isDigit c = true) (hd : isDigit d = false) : c ≠ d := by
  rintro rfl
  exact Bool.false_ne_true (hd.symm.trans hc)

/-- The first character of a value is no blank and closes no bracket. -/
theorem IsValue.exists_eq_cons {letters : List Char} (h : IsValue letters) :
    ∃ c rest, letters = c :: rest ∧ isBlank c = false ∧ c ≠ ']' ∧ c ≠ '\x7d' := by
  cases h with
  | name h =>
    simp only [List.mem_cons, List.not_mem_nil, or_false] at h
    rcases h with rfl | rfl | rfl <;> exact ⟨_, _, rfl, by decide⟩
  | number h =>
    obtain ⟨c, rest, rfl, rfl | hdigit⟩ := h.exists_eq_cons
    · exact ⟨_, _, rfl, by decide⟩
    · exact ⟨_, _, rfl, isBlank_of_isDigit hdigit, ne_of_isDigit hdigit (by decide),
        ne_of_isDigit hdigit (by decide)⟩
  | text h =>
    obtain ⟨inner, rfl⟩ := h.exists_eq_cons
    exact ⟨_, _, rfl, by decide⟩
  | @bracket b => cases b <;> exact ⟨_, _, rfl, by decide⟩

/-! ### Names, numbers and strings -/

theorem exists_skipName_eq (name rest : List Char) (offset : Nat) :
    ∃ offset', skipName name { rest := name ++ rest, offset }
      = .ok { rest, offset := offset' } := by
  induction name generalizing offset with
  | nil => exact ⟨offset, rfl⟩
  | cons c name ih =>
    simp only [List.cons_append, skipName, if_true]
    exact ih (offset + 1)

/-- What is left does not go on with a number. -/
def EndsNumber (rest : List Char) : Prop :=
  ∀ c ∈ rest.head?, isDigit c = false ∧ c ∉ ['.', 'e', 'E']

theorem skipDigits_append {digits rest : List Char} (hdigits : ∀ c ∈ digits, isDigit c = true)
    (hrest : NoDigit rest) (offset : Nat) :
    skipDigits { rest := digits ++ rest, offset }
      = { rest, offset := offset + digits.length } := by
  obtain ⟨htake, hdrop⟩ := takeWhile_isDigit_append hdigits hrest
  simp only [skipDigits, htake, hdrop]

section Numbers

variable {digits fraction exponent rest : List Char}

theorem exists_skipExponentIfAny_eq
    (hexponent : exponent = [] ∨ ∃ e ∈ ['e', 'E'], ∃ sign ∈ [[], ['+'], ['-']], ∃ ds, IsDigits ds
      ∧ exponent = e :: (sign ++ ds))
    (hrest : EndsNumber rest) (offset : Nat) :
    ∃ offset', skipExponentIfAny { rest := exponent ++ rest, offset }
      = .ok { rest, offset := offset' } := by
  rcases hexponent with rfl | ⟨e, he, sign, hsign, ds, ⟨hne, hds⟩, rfl⟩
  · refine ⟨offset, ?_⟩
    rw [List.nil_append, skipExponentIfAny]
    split
    · rename_i hleft
      exact absurd (hrest _ (congrArg List.head? hleft)).2 (by decide)
    · rename_i hleft
      exact absurd (hrest _ (congrArg List.head? hleft)).2 (by decide)
    · rfl
  -- Behind the sign there is a digit, which is no sign.
  · obtain ⟨d, front, rfl⟩ := List.exists_cons_of_ne_nil hne
    have hd := hds d List.mem_cons_self
    have hdigits (offset : Nat) := skipDigits_append hds (fun c hc => (hrest c hc).1) offset
    have hexponent : ∃ offset', skipExponent
          { rest := sign ++ (d :: front) ++ rest, offset := offset + 1 }
        = .ok { rest, offset := offset' } := by
      simp only [List.mem_cons, List.not_mem_nil, or_false] at hsign
      rcases hsign with rfl | rfl | rfl
      · have hplus : d ≠ '+' := ne_of_isDigit hd (by decide)
        have hminus : d ≠ '-' := ne_of_isDigit hd (by decide)
        refine ⟨_, .trans ?_ (congrArg Except.ok (hdigits (offset + 1)))⟩
        simp [skipExponent, hplus, hminus, hd]
      · refine ⟨_, .trans ?_ (congrArg Except.ok (hdigits (offset + 1 + 1)))⟩
        simp [skipExponent, Input.advance, hd]
      · refine ⟨_, .trans ?_ (congrArg Except.ok (hdigits (offset + 1 + 1)))⟩
        simp [skipExponent, Input.advance, hd]
    simp only [List.mem_cons, List.not_mem_nil, or_false] at he
    rcases he with rfl | rfl
    · exact hexponent
    · exact hexponent

/-- Behind its sign, a number is read over to its end. -/
theorem exists_skipNumber_eq (hdigits : IsDigits digits)
    (hzero : digits.head? = some '0' → digits = ['0'])
    (hfraction : fraction = [] ∨ ∃ ds, IsDigits ds ∧ fraction = '.' :: ds)
    (hexponent : exponent = [] ∨ ∃ e ∈ ['e', 'E'], ∃ sign ∈ [[], ['+'], ['-']], ∃ ds, IsDigits ds
      ∧ exponent = e :: (sign ++ ds))
    (hrest : EndsNumber rest) (offset : Nat) :
    ∃ offset', skipNumber { rest := digits ++ (fraction ++ (exponent ++ rest)), offset }
      = .ok { rest, offset := offset' } := by
  have hbehind : ∀ c ∈ (exponent ++ rest).head?, isDigit c = false ∧ c ≠ '.' := by
    rcases hexponent with rfl | ⟨e, he, _, _, _, _, rfl⟩
    · exact fun c hc => ⟨(hrest c hc).1, List.ne_of_not_mem_cons (hrest c hc).2⟩
    · rintro c ⟨⟩
      simp only [List.mem_cons, List.not_mem_nil, or_false] at he
      rcases he with rfl | rfl <;> exact ⟨rfl, by decide⟩
  have hbefore : NoDigit (fraction ++ (exponent ++ rest)) := by
    rcases hfraction with rfl | ⟨_, _, rfl⟩
    · exact fun c hc => (hbehind c hc).1
    · rintro c ⟨⟩
      rfl
  obtain ⟨hne, hall⟩ := hdigits
  obtain ⟨d, front, rfl⟩ := List.exists_cons_of_ne_nil hne
  have hd := hall d List.mem_cons_self
  -- A leading zero is the only digit, so it is taken as the others are.
  have hleft : (if d = '0' then
        Input.advance { rest := d :: (front ++ (fraction ++ (exponent ++ rest))), offset }
      else skipDigits { rest := d :: (front ++ (fraction ++ (exponent ++ rest))), offset })
      = { rest := fraction ++ (exponent ++ rest), offset := offset + (d :: front).length } := by
    split
    · rename_i hc
      obtain rfl : front = [] := (List.cons.inj (hzero (congrArg some hc))).2
      rfl
    · exact skipDigits_append hall hbefore offset
  have htail := exists_skipExponentIfAny_eq hexponent hrest
  rw [List.cons_append, skipNumber]
  simp only [hd, Bool.not_true, Bool.false_eq_true, if_false, hleft]
  generalize offset + (d :: front).length = reached
  rcases hfraction with rfl | ⟨ds, ⟨hds, hdigits⟩, rfl⟩
  · rw [List.nil_append]
    obtain ⟨offset', htail⟩ := htail reached
    refine ⟨offset', ?_⟩
    rw [← htail]
    cases hleft : exponent ++ rest with
    | nil => rfl
    | cons c behind =>
      obtain ⟨hdigit, hdot⟩ := hbehind c (by rw [hleft]; rfl)
      simp [hdigit]
  · have hskip := skipDigits_append hdigits (fun c hc => (hbehind c hc).1) (reached + 1)
    have hpositive := List.length_pos_iff.2 hds
    have hmoved : reached + 1 + ds.length ≠ reached + 1 := by omega
    simp only [List.cons_append, Input.advance, List.tail_cons, hskip, hmoved, if_false]
    exact htail (reached + 1 + ds.length)

end Numbers

theorem IsTextUnit.ne_nil {unit : List Char} (h : IsTextUnit unit) : unit ≠ [] := by
  cases h <;> exact List.cons_ne_nil _ _

theorem exists_skipTextFrom_eq {unit : List Char} (h : IsTextUnit unit) (fuel : Nat)
    (rest : List Char) (offset : Nat) :
    ∃ offset', skipTextFrom (fuel + 1) { rest := unit ++ rest, offset }
      = skipTextFrom fuel { rest, offset := offset' } := by
  cases h with
  | @plain c hquote hbackslash hcontrol =>
    have hprinted : ¬c.toNat < 0x20 := Nat.not_lt.2 hcontrol
    refine ⟨offset + c.utf8Size, ?_⟩
    simp [skipTextFrom, hprinted]
  | @short letter c hc =>
    have hletter : letter ≠ 'u' ∧ letter ∈ "\"\\/bfnrt".toList := by
      simp only [shortEscapes, List.mem_cons, Prod.mk.injEq, List.not_mem_nil, or_false] at hc
      rcases hc with ⟨rfl, -⟩ | ⟨rfl, -⟩ | ⟨rfl, -⟩ | ⟨rfl, -⟩ | ⟨rfl, -⟩ | ⟨rfl, -⟩ | ⟨rfl, -⟩
        | ⟨rfl, -⟩ <;> decide
    have hescape : skipEscape { rest := letter :: rest, offset := offset + 1 }
        = .ok { rest, offset := offset + 2 } := by
      simp [skipEscape, hletter, Input.advance, -String.reduceToList]
    refine ⟨offset + 2, ?_⟩
    simp only [List.cons_append, List.nil_append, skipTextFrom, Input.advance, List.tail_cons,
      hescape]
  | @unit n ds hds =>
    have hgives : Gives (readHexEscape { rest := ds ++ rest, offset := offset + 2 }) n rest :=
      gives_readHexEscape_iff.2 ⟨ds, hds, rfl⟩
    obtain ⟨offset', hread⟩ := hgives
    have hescape : skipEscape { rest := 'u' :: (ds ++ rest), offset := offset + 1 }
        = .ok { rest, offset := offset' } := by
      simp only [skipEscape, Input.advance, List.tail_cons, hread]
    refine ⟨offset', ?_⟩
    simp only [List.cons_append, skipTextFrom, Input.advance, List.tail_cons, hescape]

theorem exists_skipTextFrom_flatten_eq {units : List (List Char)}
    (h : ∀ unit ∈ units, IsTextUnit unit) {fuel : Nat} (hfuel : units.flatten.length < fuel)
    (rest : List Char) (offset : Nat) :
    ∃ offset', skipTextFrom fuel { rest := units.flatten ++ '"' :: rest, offset }
      = .ok { rest, offset := offset' } := by
  induction units generalizing fuel offset with
  | nil =>
    obtain ⟨fuel, rfl⟩ := Nat.exists_eq_add_one.2 hfuel
    exact ⟨offset + 1, rfl⟩
  | cons unit units ih =>
    obtain ⟨fuel, rfl⟩ := Nat.exists_eq_add_one.2 (Nat.zero_lt_of_lt hfuel)
    rw [List.forall_mem_cons] at h
    have hlength := List.length_pos_iff.2 h.1.ne_nil
    have hshorter : units.flatten.length < fuel := by
      rw [List.flatten_cons, List.length_append] at hfuel
      omega
    obtain ⟨offset', hstep⟩ := exists_skipTextFrom_eq h.1 fuel (units.flatten ++ '"' :: rest) offset
    rw [List.flatten_cons, List.append_assoc, hstep]
    exact ih h.2 hshorter offset'

/-- Behind its opening quote, a string is read over to its closing quote. -/
theorem exists_skipText_eq {letters : List Char} (h : IsText ('"' :: letters)) (rest : List Char)
    (offset : Nat) :
    ∃ offset', skipText { rest := letters ++ rest, offset } = .ok { rest, offset := offset' } := by
  obtain ⟨units, hunits, hletters⟩ := h
  obtain rfl := (List.cons.inj hletters).2
  rw [List.append_assoc, skipText]
  refine exists_skipTextFrom_flatten_eq hunits ?_ rest offset
  simp only [List.length_append, List.length_cons]
  omega

/-! ### Values inside brackets -/

-- In this section a step is unfolded where it is simplified.
attribute [local simp] skipFrom

namespace Part

/-- What is pending where a part begins. -/
def pending : Part → Pending
  | value => .value
  | inside _ first => .separator first

/-- The bracket that a part closes. -/
def brackets : Part → List Bracket
  | value => []
  | inside bracket _ => [bracket]

/-- The part is read over in a number of steps, which leads behind it and out of its bracket.
    The number is less than twice as many as the characters. -/
def Skips (part : Part) (letters rest : List Char) : Prop :=
  ∃ cost, cost + 2 ≤ 2 * letters.length ∧ ∀ brackets offset, ∃ offset', ∀ fuel,
    skipFrom (fuel + cost + 1) part.pending (part.brackets ++ brackets)
        { rest := letters ++ rest, offset }
      = skipFrom fuel (.separator false) brackets { rest, offset := offset' }

end Part

/-- Behind blanks, there is none. -/
theorem isBlank_of_skipBlanks {i : Input} {c : Char} {rest : List Char}
    (h : (skipBlanks i).rest = c :: rest) : isBlank c = false := by
  replace h : i.rest.dropWhile isBlank = c :: rest := h
  have hhead := List.dropWhile_get_zero_not isBlank i.rest (by simp [h])
  simpa [h] using hhead

theorem skipBlanks_skipBlanks (i : Input) : skipBlanks (skipBlanks i) = skipBlanks i := by
  generalize hleft : skipBlanks i = j
  obtain ⟨rest, offset⟩ := j
  cases rest with
  | nil => rfl
  | cons c rest =>
    exact skipBlanks_cons (isBlank_of_skipBlanks (congrArg Input.rest hleft)) rest offset

/-- Blanks in front of a value are read over with it. -/
theorem skipFrom_value_skipBlanks (fuel : Nat) (brackets : List Bracket) (i : Input) :
    skipFrom (fuel + 1) .value brackets i = skipFrom (fuel + 1) .value brackets (skipBlanks i) := by
  rw [skipFrom, skipFrom, skipBlanks_skipBlanks]

/-- Names, numbers and strings are read over in one step. -/
theorem skips_of_step {letters rest : List Char} (hne : letters ≠ [])
    (h : ∀ offset, ∃ offset', ∀ brackets fuel,
      skipFrom (fuel + 1) .value brackets { rest := letters ++ rest, offset }
        = skipFrom fuel (.separator false) brackets { rest, offset := offset' }) :
    Part.value.Skips letters rest := by
  have hpositive := List.length_pos_iff.2 hne
  refine ⟨0, by omega, fun brackets offset => ?_⟩
  obtain ⟨offset', hstep⟩ := h offset
  exact ⟨offset', hstep brackets⟩

/-- A name is read over when its first letter tells it. -/
theorem skips_of_skipName {c : Char} {name rest : List Char}
    (h : ∀ offset j, skipName name { rest := name ++ rest, offset := offset + 1 } = .ok j →
      ∀ brackets fuel, skipFrom (fuel + 1) .value brackets { rest := c :: (name ++ rest), offset }
        = skipFrom fuel (.separator false) brackets j) :
    Part.value.Skips (c :: name) rest := by
  refine skips_of_step (List.cons_ne_nil _ _) fun offset => ?_
  obtain ⟨offset', hskip⟩ := exists_skipName_eq name rest (offset + 1)
  exact ⟨offset', h offset _ hskip⟩

theorem skips_name {letters : List Char}
    (h : letters ∈ [['n', 'u', 'l', 'l'], ['t', 'r', 'u', 'e'], ['f', 'a', 'l', 's', 'e']])
    (rest : List Char) : Part.value.Skips letters rest := by
  simp only [List.mem_cons, List.not_mem_nil, or_false] at h
  rcases h with rfl | rfl | rfl <;> refine skips_of_skipName fun offset j hskip brackets fuel => ?_
  all_goals
    rw [skipFrom, skipBlanks_cons rfl]
    simp only [Input.advance, List.tail_cons, String.reduceToList, hskip]

theorem skips_text {letters : List Char} (h : IsText letters) (rest : List Char) :
    Part.value.Skips letters rest := by
  obtain ⟨inner, rfl⟩ := h.exists_eq_cons
  refine skips_of_step (List.cons_ne_nil _ _) fun offset => ?_
  obtain ⟨offset', hskip⟩ := exists_skipText_eq h rest (offset + 1)
  refine ⟨offset', fun brackets fuel => ?_⟩
  rw [List.cons_append, skipFrom, skipBlanks_cons rfl]
  simp only [Input.advance, List.tail_cons, hskip]

theorem skipFrom_of_isDigit {c : Char} (hc : isDigit c = true) {rest left : List Char}
    {offset offset' : Nat}
    (h : skipNumber { rest := c :: rest, offset } = .ok { rest := left, offset := offset' })
    (fuel : Nat) (brackets : List Bracket) :
    skipFrom (fuel + 1) .value brackets { rest := c :: rest, offset }
      = skipFrom fuel (.separator false) brackets { rest := left, offset := offset' } := by
  rw [skipFrom, skipBlanks_cons (isBlank_of_isDigit hc)]
  simp only
  split
  case h_9 =>
    rename_i hleft
    obtain ⟨rfl, -⟩ := List.cons.inj hleft
    rw [if_pos hc, h]
  all_goals
    rename_i hleft
    cases hleft
    try cases hc

theorem skips_number {letters : List Char} (h : IsNumber letters) {rest : List Char}
    (hrest : EndsNumber rest) : Part.value.Skips letters rest := by
  obtain ⟨hsign, hdigits, hzero, hfraction, hexponent⟩ := h
  have hskip := exists_skipNumber_eq hdigits hzero hfraction hexponent hrest
  obtain ⟨d, front, rfl⟩ := List.exists_cons_of_ne_nil hdigits.1
  simp only [List.mem_cons, List.not_mem_nil, or_false] at hsign
  rcases hsign with rfl | rfl <;> refine skips_of_step (List.cons_ne_nil _ _) fun offset => ?_
  · obtain ⟨offset', hskip⟩ := hskip offset
    refine ⟨offset', fun brackets fuel => ?_⟩
    simpa using skipFrom_of_isDigit (hdigits.2 d List.mem_cons_self) hskip fuel brackets
  · obtain ⟨offset', hskip⟩ := hskip (offset + 1)
    refine ⟨offset', fun brackets fuel => ?_⟩
    simp only [List.nil_append, List.cons_append, List.append_assoc, skipFrom]
    rw [skipBlanks_cons rfl]
    simp only [Input.advance, List.tail_cons]
    rw [← List.cons_append, hskip]

/-- A list or an object is read over when what is inside it is. -/
theorem skips_bracket {bracket : Bracket} {letters rest : List Char}
    (h : (Part.inside bracket true).Skips letters rest) :
    Part.value.Skips (bracket.opening :: letters) rest := by
  obtain ⟨cost, hcost, hskip⟩ := h
  refine ⟨cost + 1, by simp only [List.length_cons]; omega, fun brackets offset => ?_⟩
  obtain ⟨offset', hskip⟩ := hskip brackets (offset + 1)
  refine ⟨offset', fun fuel => ?_⟩
  rw [← hskip fuel]
  cases bracket <;> rfl

theorem skips_close {blanks : List Char} (hblanks : IsBlanks blanks) (bracket : Bracket)
    (first : Bool) (rest : List Char) :
    (Part.inside bracket first).Skips (blanks ++ [bracket.closing]) rest := by
  have hclosing : isBlank bracket.closing = false := by cases bracket <;> rfl
  refine ⟨0, by simp only [List.length_append, List.length_singleton]; omega, ?_⟩
  refine fun brackets offset => ⟨offset + blanks.length + 1, fun fuel => ?_⟩
  have hleft := skipBlanks_append hblanks hclosing rest offset
  cases bracket <;> simp_all [Part.pending, Part.brackets, Bracket.closing, Input.advance]

theorem exists_skipKey_eq {blanks name before : List Char} (hblanks : IsBlanks blanks)
    (hname : IsText name) (hbefore : IsBlanks before) (rest : List Char) (offset : Nat) :
    ∃ offset', skipKey { rest := blanks ++ (name ++ (before ++ ':' :: rest)), offset }
      = .ok { rest, offset := offset' } := by
  obtain ⟨inner, rfl⟩ := hname.exists_eq_cons
  obtain ⟨reached, hskip⟩ := exists_skipText_eq hname (before ++ ':' :: rest)
    (offset + blanks.length + 1)
  obtain ⟨offset', hcolon⟩ :=
    (readColon_eq_ok_iff (i := { rest := before ++ ':' :: rest, offset := reached })).2
      ⟨before, hbefore, rfl⟩
  refine ⟨offset', ?_⟩
  rw [List.cons_append, skipKey, skipBlanks_append hblanks rfl]
  simp only [Input.advance, List.tail_cons, hskip, hcolon]

section Separators

variable {bracket : Bracket} {brackets : List Bracket} {i j : Input} {rest : List Char}

theorem skipFrom_separator_of_first {c : Char} (hi : (skipBlanks i).rest = c :: rest)
    (hlist : c ≠ ']') (hobject : c ≠ '\x7d') (h : skipToValue bracket (skipBlanks i) = .ok j)
    (fuel : Nat) :
    skipFrom (fuel + 1) (.separator true) (bracket :: brackets) i
      = skipFrom fuel .value (bracket :: brackets) j := by
  cases bracket <;> simp [hi, hlist, hobject, h]

theorem skipFrom_separator_of_comma (hi : (skipBlanks i).rest = ',' :: rest)
    (h : skipToValue bracket (skipBlanks i).advance = .ok j) (fuel : Nat) :
    skipFrom (fuel + 1) (.separator false) (bracket :: brackets) i
      = skipFrom fuel .value (bracket :: brackets) j := by
  cases bracket <;> simp [hi, h]

end Separators

/-- In front of an item, its separator is read over. -/
theorem exists_skipFrom_item_eq {first : Bool} {front : List Char} (hfront : Separates first front)
    {c : Char} (hc : isBlank c = false ∧ c ≠ ']' ∧ c ≠ '\x7d') (brackets : List Bracket)
    (rest : List Char) (offset : Nat) :
    ∃ offset', ∀ fuel, skipFrom (fuel + 2) (.separator first) (.list :: brackets)
        { rest := front ++ c :: rest, offset }
      = skipFrom (fuel + 1) .value (.list :: brackets)
        { rest := c :: rest, offset := offset' } := by
  cases hfront with
  | @first _ hblanks =>
    have hleft := skipBlanks_append hblanks hc.1 rest offset
    refine ⟨offset + front.length, fun fuel => ?_⟩
    exact skipFrom_separator_of_first (by rw [hleft]) hc.2.1 hc.2.2 (by rw [hleft]; rfl) fuel.succ
  | @comma blanks behind hblanks hbehind =>
    have hleft := skipBlanks_append hblanks (by decide : isBlank ',' = false)
      (behind ++ c :: rest) offset
    refine ⟨offset + blanks.length + 1 + behind.length, fun fuel => ?_⟩
    rw [List.append_assoc, List.cons_append, skipFrom_separator_of_comma (by rw [hleft]) rfl, hleft,
      skipFrom_value_skipBlanks]
    exact congrArg _ (skipBlanks_append hbehind hc.1 rest (offset + blanks.length + 1))

/-- In front of the value of a member, its separator and its key are read over. -/
theorem exists_skipFrom_member_eq {first : Bool} {front name before behind : List Char}
    (hfront : Separates first front) (hname : IsText name) (hbefore : IsBlanks before)
    (hbehind : IsBlanks behind) {c : Char} (hc : isBlank c = false) (brackets : List Bracket)
    (rest : List Char) (offset : Nat) :
    ∃ offset', ∀ fuel, skipFrom (fuel + 2) (.separator first) (.object :: brackets)
        { rest := front ++ (name ++ (before ++ ':' :: (behind ++ c :: rest))), offset }
      = skipFrom (fuel + 1) .value (.object :: brackets)
        { rest := c :: rest, offset := offset' } := by
  have hkey {blanks : List Char} (hblanks : IsBlanks blanks) (offset : Nat) :=
    exists_skipKey_eq hblanks hname hbefore (behind ++ c :: rest) offset
  have hvalue (offset fuel : Nat) :
      skipFrom (fuel + 1) .value (.object :: brackets) { rest := behind ++ c :: rest, offset }
        = skipFrom (fuel + 1) .value (.object :: brackets)
          { rest := c :: rest, offset := offset + behind.length } := by
    rw [skipFrom_value_skipBlanks, skipBlanks_append hbehind hc]
  obtain ⟨inner, rfl⟩ := hname.exists_eq_cons
  cases hfront with
  | @first _ hblanks =>
    have hleft := skipBlanks_append hblanks (by decide : isBlank '"' = false)
      (inner ++ (before ++ ':' :: (behind ++ c :: rest))) offset
    obtain ⟨reached, hkey⟩ := hkey (List.forall_mem_nil _) (offset + front.length)
    refine ⟨reached + behind.length, fun fuel => ?_⟩
    rw [List.cons_append, ← hvalue]
    refine skipFrom_separator_of_first (by rw [hleft]) (by decide) (by decide) ?_ _
    rw [hleft]
    exact hkey
  | @comma blanks others hblanks hothers =>
    have hleft := skipBlanks_append hblanks (by decide : isBlank ',' = false)
      (others ++ ('"' :: inner ++ (before ++ ':' :: (behind ++ c :: rest)))) offset
    obtain ⟨reached, hkey⟩ := hkey hothers (offset + blanks.length + 1)
    refine ⟨reached + behind.length, fun fuel => ?_⟩
    rw [List.append_assoc, List.cons_append, ← hvalue]
    refine skipFrom_separator_of_comma (by rw [hleft]) ?_ _
    rw [hleft]
    exact hkey

section Parts

variable {first : Bool} {front name before behind value others rest : List Char}

theorem skips_item (hfront : Separates first front) (hvalue : IsValue value)
    (hskip : Part.value.Skips value (others ++ rest))
    (hothers : (Part.inside .list false).Skips others rest) :
    (Part.inside .list first).Skips (front ++ (value ++ others)) rest := by
  obtain ⟨cost, hcost, hskip⟩ := hskip
  obtain ⟨left, hleft, hothers⟩ := hothers
  obtain ⟨c, letters, rfl, hc⟩ := hvalue.exists_eq_cons
  refine ⟨left + 1 + cost + 1, by simp only [List.length_append]; omega, fun brackets offset => ?_⟩
  obtain ⟨atValue, hitem⟩ :=
    exists_skipFrom_item_eq hfront hc brackets (letters ++ (others ++ rest)) offset
  obtain ⟨behindValue, hskip⟩ := hskip (.list :: brackets) atValue
  obtain ⟨offset', hothers⟩ := hothers brackets behindValue
  refine ⟨offset', fun fuel => ?_⟩
  rw [← hothers fuel]
  refine .trans ?_ (hskip (fuel + left + 1))
  refine .trans ?_ (hitem (fuel + left + 1 + cost))
  simp only [Part.pending, Part.brackets, List.append_assoc, List.cons_append, List.nil_append,
    Nat.add_assoc]

theorem skips_member (hfront : Separates first front) (hname : IsText name)
    (hbefore : IsBlanks before) (hbehind : IsBlanks behind) (hvalue : IsValue value)
    (hskip : Part.value.Skips value (others ++ rest))
    (hothers : (Part.inside .object false).Skips others rest) :
    (Part.inside .object first).Skips
      (front ++ (name ++ (before ++ ':' :: (behind ++ (value ++ others))))) rest := by
  obtain ⟨cost, hcost, hskip⟩ := hskip
  obtain ⟨left, hleft, hothers⟩ := hothers
  obtain ⟨c, letters, rfl, hc⟩ := hvalue.exists_eq_cons
  refine ⟨left + 1 + cost + 1, by simp only [List.length_append, List.length_cons] at *; omega,
    fun brackets offset => ?_⟩
  obtain ⟨atValue, hmember⟩ := exists_skipFrom_member_eq hfront hname hbefore hbehind hc.1 brackets
    (letters ++ (others ++ rest)) offset
  obtain ⟨behindValue, hskip⟩ := hskip (.object :: brackets) atValue
  obtain ⟨offset', hothers⟩ := hothers brackets behindValue
  refine ⟨offset', fun fuel => ?_⟩
  rw [← hothers fuel]
  refine .trans ?_ (hskip (fuel + left + 1))
  refine .trans ?_ (hmember (fuel + left + 1 + cost))
  simp only [Part.pending, Part.brackets, List.append_assoc, List.cons_append, List.nil_append,
    Nat.add_assoc]

end Parts

theorem endsNumber_of_isBlanks {blanks : List Char} (hblanks : IsBlanks blanks) {c : Char}
    (hc : isDigit c = false ∧ c ∉ ['.', 'e', 'E']) (rest : List Char) :
    EndsNumber (blanks ++ c :: rest) := by
  cases blanks with
  | nil =>
    rintro _ ⟨⟩
    exact hc
  | cons d blanks =>
    rintro _ ⟨⟩
    have hd := hblanks d List.mem_cons_self
    simp only [isBlank, Bool.or_eq_true, beq_iff_eq] at hd
    rcases hd with ((rfl | rfl) | rfl) | rfl <;> decide

/-- Behind a value inside a bracket, a number is at its end. -/
theorem IsPart.endsNumber {bracket : Bracket} {letters : List Char}
    (h : IsPart (.inside bracket false) letters) (rest : List Char) :
    EndsNumber (letters ++ rest) := by
  have hclosing : isDigit bracket.closing = false ∧ bracket.closing ∉ ['.', 'e', 'E'] := by
    cases bracket <;> decide
  cases h with
  | close hblanks =>
    rw [List.append_assoc]
    exact endsNumber_of_isBlanks hblanks hclosing rest
  | item hfront | member hfront =>
    obtain _ | hblanks := hfront
    rw [List.append_assoc, List.append_assoc]
    exact endsNumber_of_isBlanks hblanks (by decide) _

/-- What a text goes on with is read over to its end. A number has no end of its own. -/
theorem IsPart.skips {part : Part} {letters : List Char} (h : IsPart part letters)
    {rest : List Char} (hrest : part = .value → IsNumber letters → EndsNumber rest) :
    part.Skips letters rest := by
  -- Every part inside a bracket is followed by another one or by the end of the bracket.
  induction h generalizing rest with
  | name h => exact skips_name h rest
  | number h => exact skips_number h (hrest rfl h)
  | text h => exact skips_text h rest
  | bracket _ ih => exact skips_bracket (ih nofun)
  | close hblanks => exact skips_close hblanks _ _ rest
  | item hfront hvalue hothers ihvalue ihothers =>
    exact skips_item hfront hvalue (ihvalue fun _ _ => hothers.endsNumber rest) (ihothers nofun)
  | member hfront hname hbefore hbehind hvalue hothers ihvalue ihothers =>
    exact skips_member hfront hname hbefore hbehind hvalue
      (ihvalue fun _ _ => hothers.endsNumber rest) (ihothers nofun)

/-- A value is read over to its end. -/
theorem exists_skipValue_eq {blanks letters rest : List Char} (hblanks : IsBlanks blanks)
    (h : IsValue letters) (hrest : IsNumber letters → EndsNumber rest) (offset : Nat) :
    ∃ offset', skipValue { rest := blanks ++ (letters ++ rest), offset }
      = .ok { rest, offset := offset' } := by
  obtain ⟨c, front, hletters, hc, -⟩ := h.exists_eq_cons
  obtain ⟨cost, hcost, hskip⟩ := IsPart.skips h fun _ => hrest
  obtain ⟨offset', hskip⟩ := hskip [] (offset + blanks.length)
  refine ⟨offset', ?_⟩
  have hleft : skipBlanks { rest := blanks ++ (letters ++ rest), offset }
      = { rest := letters ++ rest, offset := offset + blanks.length } := by
    rw [hletters]
    exact skipBlanks_append hblanks hc (front ++ rest) offset
  -- The steps that are left are not needed.
  obtain ⟨fuel, hfuel⟩ : ∃ fuel, 2 * (blanks ++ (letters ++ rest)).length + 2
      = fuel + 1 + cost + 1 :=
    ⟨2 * (blanks ++ (letters ++ rest)).length - cost, by
      simp only [List.length_append]
      omega⟩
  rw [skipValue, hfuel, skipFrom_value_skipBlanks, hleft]
  exact (hskip (fuel + 1)).trans rfl

section Ends

variable {blanks others letters value rest left : List Char}

theorem IsValue.append_eq_append (hblanks : IsBlanks blanks) (hothers : IsBlanks others)
    (h : IsValue letters) (hvalue : IsValue value)
    (heq : blanks ++ (letters ++ rest) = others ++ (value ++ left)) :
    letters ++ rest = value ++ left := by
  obtain ⟨c, front, rfl, hc, -⟩ := h.exists_eq_cons
  obtain ⟨d, behind, rfl, hd, -⟩ := hvalue.exists_eq_cons
  have hskip := skipBlanks_append hblanks hc (front ++ rest) 0
  have hskip' := skipBlanks_append hothers hd (behind ++ left) 0
  rw [← List.cons_append, heq, List.cons_append, hskip'] at hskip
  exact (Input.mk.inj hskip).1.symm

/-- However a text goes on, a value that it begins with ends in one place only. -/
theorem IsValue.eq_of_append_eq (hblanks : IsBlanks blanks) (hothers : IsBlanks others)
    (h : IsValue letters) (hvalue : IsValue value) (hrest : IsNumber letters → EndsNumber rest)
    (hleft : IsNumber value → EndsNumber left)
    (heq : blanks ++ (letters ++ rest) = others ++ (value ++ left)) :
    letters = value ∧ rest = left := by
  have heq := h.append_eq_append hblanks hothers hvalue heq
  obtain ⟨offset, hskip⟩ := exists_skipValue_eq (List.forall_mem_nil _) h hrest 0
  obtain ⟨offset', hskip'⟩ := exists_skipValue_eq (List.forall_mem_nil _) hvalue hleft 0
  rw [heq, hskip'] at hskip
  obtain ⟨rfl, -⟩ := Input.mk.inj (Except.ok.inj hskip)
  exact ⟨List.append_cancel_right heq, rfl⟩

end Ends

end CatalogAudit.Json
