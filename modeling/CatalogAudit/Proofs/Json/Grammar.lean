import CatalogAudit.Json.Reading
import Mathlib.Data.List.TakeWhile

/-!
# The grammar of documents

What a JSON text may look like, said without a reader. Blanks may stand between all parts of a
document, and a character of a string may be written in several ways. Of one document there
are therefore many texts.

* `Json.Document` are documents, `Json.IsDocument` relates them to their texts.
* `Json.WritesText` relates strings to the texts that write them.
* `Json.gives_readText_iff`: strings are read in this grammar, and nothing else is.
* `Json.gives_readMembers_iff`: objects are read member by member, whatever is done with these.
* `Json.decode_eq_ok_iff`: a whole text is read when only blanks are left.
-/

namespace CatalogAudit.Json

/-! ### Strings -/

def lowerDigits : List Char :=
  ['0', '1', '2', '3', '4', '5', '6', '7', '8', '9', 'a', 'b', 'c', 'd', 'e', 'f']

def upperDigits : List Char :=
  ['0', '1', '2', '3', '4', '5', '6', '7', '8', '9', 'A', 'B', 'C', 'D', 'E', 'F']

/-- The character is the hexadecimal digit of a number, in either case. -/
def IsHexDigit (n : Nat) (c : Char) : Prop :=
  lowerDigits[n]? = some c ∨ upperDigits[n]? = some c

/-- Four hexadecimal digits and their number. -/
inductive FourDigits : Nat → List Char → Prop
  | mk {k l m n : Nat} {a b c d : Char} :
    IsHexDigit k a → IsHexDigit l b → IsHexDigit m c → IsHexDigit n d →
      FourDigits (((k * 16 + l) * 16 + m) * 16 + n) [a, b, c, d]

/-- The letters that may follow a backslash, with the characters that they stand for there. -/
def shortEscapes : List (Char × Char) :=
  [('"', '"'), ('\\', '\\'), ('/', '/'), ('b', '\x08'), ('f', '\x0c'), ('n', '\n'), ('r', '\r'),
    ('t', '\t')]

/-- The ways to write a character in a string. -/
inductive WritesChar : Char → List Char → Prop
  | plain {c : Char} : c ≠ '"' → c ≠ '\\' → 0x20 ≤ c.toNat → WritesChar c [c]
  | short {letter c : Char} : (letter, c) ∈ shortEscapes → WritesChar c ['\\', letter]
  | unit {c : Char} {ds : List Char} : FourDigits c.toNat ds → WritesChar c ('\\' :: 'u' :: ds)
  /-- A character beyond the first `0x10000` is written as a pair of surrogates. -/
  | pair {c : Char} {high low : Nat} {ds es : List Char} :
    c.toNat = 0x10000 + high * 0x400 + low → high < 0x400 → low < 0x400 →
      FourDigits (0xD800 + high) ds → FourDigits (0xDC00 + low) es →
        WritesChar c ('\\' :: 'u' :: (ds ++ '\\' :: 'u' :: es))

/-- Characters written one after the other. -/
inductive WritesChars : List Char → List Char → Prop
  | nil : WritesChars [] []
  | cons {c : Char} {text letters rest : List Char} :
    WritesChar c letters → WritesChars text rest → WritesChars (c :: text) (letters ++ rest)

/-- A string between its quotes. -/
def WritesText (s : String) (letters : List Char) : Prop :=
  ∃ inner, WritesChars s.toList inner ∧ letters = '"' :: (inner ++ ['"'])

/-! ### Documents -/

/-- A document. A number is kept as it was written. -/
inductive Document
  | null
  | boolean (b : Bool)
  | number (letters : List Char)
  | text (s : String)
  | list (items : List Document)
  | object (members : List (String × Document))

def IsBlanks (letters : List Char) : Prop :=
  ∀ c ∈ letters, isBlank c = true

def IsDigits (letters : List Char) : Prop :=
  letters ≠ [] ∧ ∀ c ∈ letters, isDigit c = true

/-- A number: a sign, digits without a needless zero, a fraction and an exponent, of which only
    the digits have to be there. -/
inductive IsNumber : List Char → Prop
  | mk {sign digits fraction exponent : List Char} :
    sign ∈ [[], ['-']] → IsDigits digits → (digits.head? = some '0' → digits = ['0']) →
      (fraction = [] ∨ ∃ ds, IsDigits ds ∧ fraction = '.' :: ds) →
        (exponent = [] ∨ ∃ e ∈ ['e', 'E'], ∃ sign ∈ [[], ['+'], ['-']], ∃ ds, IsDigits ds
          ∧ exponent = e :: (sign ++ ds)) →
          IsNumber (sign ++ digits ++ fraction ++ exponent)

/-- What stands in front of an item or member: blanks, and a comma between them unless it is
    the first one. -/
inductive Separates : Bool → List Char → Prop
  | first {blanks : List Char} : IsBlanks blanks → Separates true blanks
  | comma {blanks behind : List Char} :
    IsBlanks blanks → IsBlanks behind → Separates false (blanks ++ ',' :: behind)

mutual

/-- The texts of a document, without blanks around it. -/
inductive Writes : Document → List Char → Prop
  | null : Writes .null ['n', 'u', 'l', 'l']
  | boolean (b : Bool) :
    Writes (.boolean b) (if b then ['t', 'r', 'u', 'e'] else ['f', 'a', 'l', 's', 'e'])
  | number {letters : List Char} : IsNumber letters → Writes (.number letters) letters
  | text {s : String} {letters : List Char} : WritesText s letters → Writes (.text s) letters
  | list {items : List Document} {letters : List Char} :
    WritesItems true items letters → Writes (.list items) ('[' :: letters)
  | object {members : List (String × Document)} {letters : List Char} :
    WritesMembers true members letters → Writes (.object members) ('\x7b' :: letters)

/-- What stands behind the opening bracket of a list, or behind an item: the items to come and
    the closing bracket. -/
inductive WritesItems : Bool → List Document → List Char → Prop
  | close {first : Bool} {blanks : List Char} :
    IsBlanks blanks → WritesItems first [] (blanks ++ [']'])
  | item {first : Bool} {v : Document} {items : List Document} {front value rest : List Char} :
    Separates first front → Writes v value → WritesItems false items rest →
      WritesItems first (v :: items) (front ++ (value ++ rest))

/-- What stands behind the opening brace of an object, or behind a member: the members to come
    and the closing brace. -/
inductive WritesMembers : Bool → List (String × Document) → List Char → Prop
  | close {first : Bool} {blanks : List Char} :
    IsBlanks blanks → WritesMembers first [] (blanks ++ ['\x7d'])
  | member {first : Bool} {key : String} {v : Document} {members : List (String × Document)}
    {front name before behind value rest : List Char} :
    Separates first front → WritesText key name → IsBlanks before → IsBlanks behind →
      Writes v value → WritesMembers false members rest →
        WritesMembers first ((key, v) :: members)
          (front ++ (name ++ (before ++ ':' :: (behind ++ (value ++ rest)))))

end

/-- The text is one of a document. -/
def IsDocument (v : Document) (text : String) : Prop :=
  ∃ before letters behind, IsBlanks before ∧ Writes v letters ∧ IsBlanks behind
    ∧ text.toList = before ++ (letters ++ behind)

/-! ### What readers give -/

variable {α : Type}

/-- The outcome is `a`, with `rest` left. -/
def Gives (o : Outcome α) (a : α) (rest : List Char) : Prop :=
  ∃ offset, o = .ok (a, { rest, offset })

@[simp]
theorem gives_ok_iff {a b : α} {i : Input} {rest : List Char} :
    Gives (.ok (a, i)) b rest ↔ a = b ∧ i.rest = rest := by
  obtain ⟨letters, offset⟩ := i
  simp [Gives]

@[simp]
theorem not_gives_error (f : Failure) (a : α) (rest : List Char) : ¬Gives (.error f) a rest := by
  simp [Gives]

@[simp]
theorem not_gives_failHere (i : Input) (cause : Cause) (a : α) (rest : List Char) :
    ¬Gives (i.failHere cause) a rest :=
  not_gives_error _ a rest

@[simp]
theorem not_gives_failNext (i : Input) (cause : Cause) (a : α) (rest : List Char) :
    ¬Gives (i.failNext cause) a rest :=
  not_gives_error _ a rest

theorem not_gives_failHexEscape (i : Input) (a : α) (rest : List Char) :
    ¬Gives (failHexEscape i) a rest := by
  rw [failHexEscape]
  split <;> exact not_gives_error _ a rest

/-! ### Reading strings -/

theorem lt_of_hexValue? {c : Char} {n : Nat} (h : hexValue? c = some n) : c.toNat < 128 := by
  have hle {d : Char} (hd : d.toNat < 128) (hcd : c ≤ d) : c.toNat < 128 :=
    Nat.lt_of_le_of_lt (UInt32.le_iff_toNat_le.1 hcd) hd
  rw [hexValue?] at h
  split at h
  · rename_i hdigit
    exact hle (by decide) hdigit.2
  · split at h
    · rename_i hlower
      exact hle (by decide) hlower.2
    · split at h
      · rename_i hupper
        exact hle (by decide) hupper.2
      · cases h

theorem hexValue?_eq_some_iff {c : Char} {n : Nat} : hexValue? c = some n ↔ IsHexDigit n c := by
  constructor
  · intro h
    have hall : ∀ k < 128, ∀ n ∈ (hexValue? (Char.ofNat k)).toList,
        lowerDigits[n]? = some (Char.ofNat k) ∨ upperDigits[n]? = some (Char.ofNat k) := by
      decide +kernel
    have hc := hall c.toNat (lt_of_hexValue? h) n
    rw [Char.ofNat_toNat, h] at hc
    exact hc List.mem_cons_self
  · intro h
    have hall : ∀ n < 16, ((lowerDigits[n]?).toList ++ (upperDigits[n]?).toList).all
        (hexValue? · == some n) = true := by decide +kernel
    have hn : n < 16 := by
      rcases h with h | h <;> exact (List.getElem?_eq_some_iff.1 h).1
    refine beq_iff_eq.1 (List.all_eq_true.1 (hall n hn) c ?_)
    rcases h with h | h <;> simp [h]

theorem fourDigits?_eq_some_iff {a b c d : Char} {n : Nat} :
    fourDigits? a b c d = some n ↔ FourDigits n [a, b, c, d] := by
  constructor
  · intro h
    rw [fourDigits?] at h
    split at h
    · rename_i k l m o hk hl hm ho
      rw [← Option.some.inj h]
      exact .mk (hexValue?_eq_some_iff.1 hk) (hexValue?_eq_some_iff.1 hl)
        (hexValue?_eq_some_iff.1 hm) (hexValue?_eq_some_iff.1 ho)
    · cases h
  · rintro ⟨hk, hl, hm, ho⟩
    rw [fourDigits?, hexValue?_eq_some_iff.2 hk, hexValue?_eq_some_iff.2 hl,
      hexValue?_eq_some_iff.2 hm, hexValue?_eq_some_iff.2 ho]

theorem gives_readHexEscape_iff {i : Input} {n : Nat} {rest : List Char} :
    Gives (readHexEscape i) n rest ↔ ∃ ds, FourDigits n ds ∧ i.rest = ds ++ rest := by
  obtain ⟨letters, offset⟩ := i
  constructor
  · intro h
    rw [readHexEscape] at h
    split at h
    · rename_i a b c d behind hletters
      split at h
      · rename_i m hm
        obtain ⟨rfl, rfl⟩ := gives_ok_iff.1 h
        exact ⟨_, fourDigits?_eq_some_iff.1 hm, hletters⟩
      · exact absurd h (not_gives_failHexEscape _ _ _)
    · exact absurd h (not_gives_failHexEscape _ _ _)
  · rintro ⟨ds, hds, rfl⟩
    have hvalue := hds
    obtain ⟨hk, hl, hm, ho⟩ := hds
    simp [readHexEscape, fourDigits?_eq_some_iff.2 hvalue]

theorem FourDigits.lt {n : Nat} {ds : List Char} (h : FourDigits n ds) : n < 0x10000 := by
  have hdigit {n : Nat} {c : Char} (h : IsHexDigit n c) : n < 16 := by
    rcases h with h | h <;> exact (List.getElem?_eq_some_iff.1 h).1
  obtain ⟨hk, hl, hm, hn⟩ := h
  have := hdigit hk
  have := hdigit hl
  have := hdigit hm
  have := hdigit hn
  omega

/-- The second half of a pair has to follow the first one. -/
theorem gives_readLowSurrogate_iff {high : Nat} {i : Input} {c : Char} {rest : List Char} :
    Gives (readLowSurrogate high i) c rest ↔ ∃ low es, 0xDC00 ≤ low ∧ low ≤ 0xDFFF
      ∧ FourDigits low es ∧ i.rest = '\\' :: 'u' :: (es ++ rest)
      ∧ c = Char.ofNat ((high - 0xD800) * 1024 + (low - 0xDC00) + 0x10000) := by
  obtain ⟨letters, offset⟩ := i
  constructor
  · intro h
    rw [readLowSurrogate] at h
    split at h
    · exact absurd h (not_gives_failHere _ _ _ _)
    · split at h
      · exact absurd h (not_gives_failHere _ _ _ _)
      · split at h
        · exact absurd h (not_gives_error _ _ _)
        · rename_i low j hread
          split at h
          · rename_i hrange
            obtain ⟨rfl, rfl⟩ := gives_ok_iff.1 h
            obtain ⟨es, hes, hrest⟩ := gives_readHexEscape_iff.1 ⟨j.offset, hread⟩
            refine ⟨low, es, hrange.1, hrange.2, hes, ?_, rfl⟩
            simp_all [Input.advance]
          · exact absurd h (not_gives_failHere _ _ _ _)
      · exact absurd h (not_gives_failNext _ _ _ _)
    · exact absurd h (not_gives_failNext _ _ _ _)
  · rintro ⟨low, es, hlow, hhigh, hes, rfl, hc⟩
    have hgives : Gives (readHexEscape { rest := es ++ rest, offset := offset + 1 + 1 }) low rest :=
      gives_readHexEscape_iff.2 ⟨es, hes, rfl⟩
    obtain ⟨offset', hread⟩ := hgives
    rw [hc]
    refine ⟨offset', ?_⟩
    simp only [readLowSurrogate, Input.advance, List.tail_cons, hread, hlow, hhigh, and_self,
      if_true]

theorem toNat_ofNat {n : Nat} (h : n < 0xD800 ∨ 0xDFFF < n ∧ n < 0x110000) :
    (Char.ofNat n).toNat = n := by
  have hvalid : n.isValidChar := h
  rw [Char.ofNat, dif_pos hvalid]
  rfl

theorem toNat_lt_or (c : Char) : c.toNat < 0xD800 ∨ 0xDFFF < c.toNat ∧ c.toNat < 0x110000 :=
  c.valid

/-- A number that is no half of a pair is a character, and a pair is a character as well. -/
theorem gives_unit_iff {n : Nat} (hbound : n < 0x10000) {j : Input} {c : Char} {rest : List Char} :
    Gives
        (if 0xDC00 ≤ n ∧ n ≤ 0xDFFF then j.failHere .loneSurrogate
          else if 0xD800 ≤ n ∧ n ≤ 0xDBFF then readLowSurrogate n j
          else .ok (Char.ofNat n, j)) c rest
      ↔ c.toNat = n ∧ j.rest = rest
        ∨ ∃ high low es, n = 0xD800 + high ∧ high < 0x400 ∧ low < 0x400
          ∧ c.toNat = 0x10000 + high * 0x400 + low ∧ FourDigits (0xDC00 + low) es
          ∧ j.rest = '\\' :: 'u' :: (es ++ rest) := by
  by_cases hlow : 0xDC00 ≤ n ∧ n ≤ 0xDFFF
  · rw [if_pos hlow]
    refine iff_of_false (not_gives_failHere _ _ _ _) ?_
    rintro (⟨hc, -⟩ | ⟨high, low, es, hn, hhigh, -⟩)
    · have hvalid := toNat_lt_or c
      omega
    · omega
  rw [if_neg hlow]
  by_cases hhigh : 0xD800 ≤ n ∧ n ≤ 0xDBFF
  · rw [if_pos hhigh, gives_readLowSurrogate_iff]
    constructor
    · rintro ⟨low, es, hle, hge, hes, hrest, hc⟩
      have hother : low = 0xDC00 + (low - 0xDC00) := by omega
      refine .inr ⟨n - 0xD800, low - 0xDC00, es, by omega, by omega, by omega, ?_, hother ▸ hes,
        hrest⟩
      rw [hc, toNat_ofNat (by omega)]
      omega
    · rintro (⟨hc, -⟩ | ⟨high, low, es, rfl, -, hlow, hc, hes, hrest⟩)
      · have hvalid := toNat_lt_or c
        omega
      · refine ⟨0xDC00 + low, es, by omega, by omega, hes, hrest, ?_⟩
        rw [Nat.add_sub_cancel_left, Nat.add_sub_cancel_left, ← Char.ofNat_toNat c, hc]
        congr 1
        omega
  · rw [if_neg hhigh, gives_ok_iff]
    constructor
    · rintro ⟨hc, hrest⟩
      exact .inl ⟨hc ▸ toNat_ofNat (by omega), hrest⟩
    · rintro (⟨rfl, hrest⟩ | ⟨high, low, es, hn, hlt, -⟩)
      · exact ⟨Char.ofNat_toNat c, hrest⟩
      · omega

/-- What follows a backslash and `u` is read by its number. -/
theorem gives_readEscape_of_unit {n : Nat} {ds letters rest : List Char} {c : Char}
    (hds : FourDigits n ds) {offset : Nat}
    (h : ∀ offset, Gives
        (if 0xDC00 ≤ n ∧ n ≤ 0xDFFF then
            ({ rest := letters, offset } : Input).failHere .loneSurrogate
          else if 0xD800 ≤ n ∧ n ≤ 0xDBFF then readLowSurrogate n { rest := letters, offset }
          else .ok (Char.ofNat n, { rest := letters, offset })) c rest) :
    Gives (readEscape { rest := 'u' :: (ds ++ letters), offset }) c rest := by
  have hgives : Gives (readHexEscape { rest := ds ++ letters, offset := offset + 1 }) n letters :=
    gives_readHexEscape_iff.2 ⟨ds, hds, rfl⟩
  obtain ⟨offset', hread⟩ := hgives
  rw [readEscape]
  simp only [Input.advance, List.tail_cons, hread]
  exact h offset'

/-- The characters that follow a backslash in a string. -/
theorem gives_readEscape_iff {i : Input} {c : Char} {rest : List Char} :
    Gives (readEscape i) c rest
      ↔ ∃ letters, WritesChar c ('\\' :: letters) ∧ i.rest = letters ++ rest := by
  obtain ⟨letters, offset⟩ := i
  constructor
  · intro h
    have hshort {letter : Char} {behind : List Char} (hc : (letter, c) ∈ shortEscapes)
        (hrest : behind = rest) :
        ∃ cs, WritesChar c ('\\' :: cs) ∧ letter :: behind = cs ++ rest :=
      ⟨[letter], .short hc, by rw [hrest]; rfl⟩
    rw [readEscape] at h
    split at h
    · exact absurd h (not_gives_failHere _ _ _ _)
    all_goals rename_i behind hletters
    all_goals simp only at hletters
    all_goals subst hletters
    case h_10 =>
      split at h
      · exact absurd h (not_gives_error _ _ _)
      · rename_i n j hread
        obtain ⟨ds, hds, hbehind⟩ := gives_readHexEscape_iff.1 ⟨j.offset, hread⟩
        obtain rfl : behind = ds ++ j.rest := hbehind
        rcases (gives_unit_iff hds.lt).1 h with ⟨rfl, rfl⟩
          | ⟨high, low, es, rfl, hhigh, hlow, hc, hes, hrest⟩
        · exact ⟨'u' :: ds, .unit hds, rfl⟩
        · refine ⟨'u' :: (ds ++ '\\' :: 'u' :: es), .pair hc hhigh hlow hds hes, ?_⟩
          simp [hrest]
    case h_11 => exact absurd h (not_gives_failNext _ _ _ _)
    all_goals
      obtain ⟨rfl, hrest⟩ := gives_ok_iff.1 h
      exact hshort (by decide) hrest
  · rintro ⟨cs, hwrites, hrest⟩
    obtain rfl : letters = cs ++ rest := hrest
    generalize hfront : '\\' :: cs = front at hwrites
    cases hwrites with
    | plain _ hbackslash _ => exact absurd (List.cons.inj hfront).1.symm hbackslash
    | short hc =>
      obtain ⟨-, rfl⟩ := List.cons.inj hfront
      simp only [shortEscapes, List.mem_cons, Prod.mk.injEq, List.not_mem_nil, or_false] at hc
      rcases hc with ⟨rfl, rfl⟩ | ⟨rfl, rfl⟩ | ⟨rfl, rfl⟩ | ⟨rfl, rfl⟩ | ⟨rfl, rfl⟩ | ⟨rfl, rfl⟩
        | ⟨rfl, rfl⟩ | ⟨rfl, rfl⟩ <;> exact ⟨_, rfl⟩
    | unit hds =>
      obtain ⟨-, rfl⟩ := List.cons.inj hfront
      exact gives_readEscape_of_unit hds fun _ => (gives_unit_iff hds.lt).2 (.inl ⟨rfl, rfl⟩)
    | pair hc hhigh hlow hds hes =>
      obtain ⟨-, rfl⟩ := List.cons.inj hfront
      rw [List.cons_append, List.append_assoc]
      exact gives_readEscape_of_unit hds fun _ => (gives_unit_iff hds.lt).2
        (.inr ⟨_, _, _, rfl, hhigh, hlow, hc, hes, rfl⟩)

/-- What is read up to a quote are characters of the grammar. -/
theorem exists_of_gives_readTextFrom {fuel : Nat} {found cs rest : List Char} {i : Input}
    (h : Gives (readTextFrom fuel found i) cs rest) :
    ∃ text letters, WritesChars text letters ∧ i.rest = letters ++ '"' :: rest
      ∧ cs = found.reverse ++ text := by
  induction fuel generalizing found i with
  | zero => exact absurd h (not_gives_failHere _ _ _ _)
  | succ fuel ih =>
    obtain ⟨left, offset⟩ := i
    rw [readTextFrom] at h
    split at h
    · exact absurd h (not_gives_failHere _ _ _ _)
    · rename_i behind hleft
      obtain ⟨rfl, hrest⟩ := gives_ok_iff.1 h
      obtain rfl : left = '"' :: behind := hleft
      exact ⟨[], [], .nil, congrArg _ hrest, (List.append_nil _).symm⟩
    · rename_i behind hleft
      obtain rfl : left = '\\' :: behind := hleft
      split at h
      · exact absurd h (not_gives_error _ _ _)
      · rename_i c j hread
        obtain ⟨letters, hc, hbehind⟩ := gives_readEscape_iff.1 ⟨j.offset, hread⟩
        obtain rfl : behind = letters ++ j.rest := hbehind
        obtain ⟨text, others, htext, hj, rfl⟩ := ih h
        refine ⟨c :: text, ('\\' :: letters) ++ others, .cons hc htext, by simp [hj], by simp⟩
    · rename_i c behind hquote hbackslash hleft
      obtain rfl : left = c :: behind := hleft
      split at h
      · exact absurd h (not_gives_failNext _ _ _ _)
      · rename_i hcontrol
        obtain ⟨text, others, htext, hbehind, rfl⟩ := ih h
        obtain rfl : behind = others ++ '"' :: rest := hbehind
        have hc : WritesChar c [c] :=
          .plain (fun he => hquote he) (fun he => hbackslash he) (Nat.le_of_not_lt hcontrol)
        exact ⟨c :: text, [c] ++ others, .cons hc htext, rfl, by simp⟩

theorem WritesChar.ne_nil {c : Char} {letters : List Char} (h : WritesChar c letters) :
    letters ≠ [] := by
  cases h <;> exact List.cons_ne_nil _ _

/-- However a character is written, it is read. -/
theorem exists_readTextFrom_eq {c : Char} {letters : List Char} (h : WritesChar c letters)
    (fuel : Nat) (found rest : List Char) (offset : Nat) :
    ∃ offset', readTextFrom (fuel + 1) found { rest := letters ++ rest, offset }
      = readTextFrom fuel (c :: found) { rest, offset := offset' } := by
  have hescape {letters : List Char} (h : WritesChar c ('\\' :: letters)) :
      ∃ offset', readTextFrom (fuel + 1) found { rest := '\\' :: letters ++ rest, offset }
        = readTextFrom fuel (c :: found) { rest, offset := offset' } := by
    have hgives : Gives (readEscape { rest := letters ++ rest, offset := offset + 1 }) c rest :=
      gives_readEscape_iff.2 ⟨letters, h, rfl⟩
    obtain ⟨offset', hread⟩ := hgives
    refine ⟨offset', ?_⟩
    simp only [readTextFrom, List.cons_append, Input.advance, List.tail_cons, hread]
  cases h with
  | plain hquote hbackslash hcontrol =>
    refine ⟨offset + c.utf8Size, ?_⟩
    have hprinted : ¬c.toNat < 0x20 := Nat.not_lt.2 hcontrol
    simp [readTextFrom, hprinted]
  | short hc => exact hescape (.short hc)
  | unit hds => exact hescape (.unit hds)
  | pair hc hhigh hlow hds hes => exact hescape (.pair hc hhigh hlow hds hes)

theorem gives_readTextFrom {text letters : List Char} (h : WritesChars text letters) {fuel : Nat}
    (hfuel : letters.length < fuel) (found rest : List Char) (offset : Nat) :
    Gives (readTextFrom fuel found { rest := letters ++ '"' :: rest, offset })
      (found.reverse ++ text) rest := by
  induction h generalizing fuel found offset with
  | nil =>
    obtain ⟨fuel, rfl⟩ := Nat.exists_eq_add_one.2 hfuel
    rw [List.append_nil]
    exact ⟨_, rfl⟩
  | @cons c text letters others hc _ ih =>
    obtain ⟨fuel, rfl⟩ := Nat.exists_eq_add_one.2 (Nat.zero_lt_of_lt hfuel)
    have hlength := List.length_pos_iff.2 hc.ne_nil
    have hshorter : others.length < fuel := by
      rw [List.length_append] at hfuel
      omega
    obtain ⟨offset', hstep⟩ := exists_readTextFrom_eq hc fuel found (others ++ '"' :: rest) offset
    rw [List.append_assoc, hstep]
    have hrest := ih hshorter (c :: found) offset'
    rwa [List.reverse_cons, List.append_assoc] at hrest

/-- Behind its opening quote, a string is read up to its closing quote. -/
theorem gives_readText_iff {i : Input} {s : String} {rest : List Char} :
    Gives (readText i) s rest
      ↔ ∃ letters, WritesChars s.toList letters ∧ i.rest = letters ++ '"' :: rest := by
  obtain ⟨left, offset⟩ := i
  constructor
  · intro h
    rw [readText] at h
    split at h
    · exact absurd h (not_gives_error _ _ _)
    · rename_i cs j hread
      obtain ⟨text, letters, htext, hleft, rfl⟩ := exists_of_gives_readTextFrom ⟨j.offset, hread⟩
      obtain ⟨rfl, rfl⟩ := gives_ok_iff.1 h
      exact ⟨letters, by simpa using htext, hleft⟩
  · rintro ⟨letters, htext, hleft⟩
    obtain rfl : left = letters ++ '"' :: rest := hleft
    obtain ⟨offset', hread⟩ := gives_readTextFrom htext
      (by simp : letters.length < (letters ++ '"' :: rest).length) [] rest offset
    refine ⟨offset', ?_⟩
    rw [readText, hread]
    simp

/-! ### Reading between the values -/

theorem exists_blanks (i : Input) :
    ∃ blanks, IsBlanks blanks ∧ i.rest = blanks ++ (skipBlanks i).rest :=
  ⟨i.rest.takeWhile isBlank, fun _ hc => List.mem_takeWhile_imp hc,
    (List.takeWhile_append_dropWhile).symm⟩

theorem skipBlanks_append {blanks : List Char} (h : IsBlanks blanks) {c : Char}
    (hc : isBlank c = false) (rest : List Char) (offset : Nat) :
    skipBlanks { rest := blanks ++ c :: rest, offset }
      = { rest := c :: rest, offset := offset + blanks.length } := by
  simp [skipBlanks, List.dropWhile_append_of_pos h, List.takeWhile_append_of_pos h, hc]

theorem skipBlanks_cons {c : Char} (hc : isBlank c = false) (rest : List Char) (offset : Nat) :
    skipBlanks { rest := c :: rest, offset } = { rest := c :: rest, offset } := by
  simp [skipBlanks, hc]

theorem readColon_eq_ok_iff {i : Input} {rest : List Char} :
    (∃ offset, readColon i = .ok { rest, offset })
      ↔ ∃ blanks, IsBlanks blanks ∧ i.rest = blanks ++ ':' :: rest := by
  constructor
  · rintro ⟨offset, h⟩
    obtain ⟨blanks, hblanks, hleft⟩ := exists_blanks i
    rw [readColon] at h
    generalize skipBlanks i = j at h hleft
    obtain ⟨left, reached⟩ := j
    simp only at h
    split at h
    · cases h
    · obtain ⟨rfl, -⟩ := Input.mk.inj (Except.ok.inj h)
      exact ⟨blanks, hblanks, hleft⟩
    · cases h
  · rintro ⟨blanks, hblanks, hleft⟩
    obtain ⟨left, offset⟩ := i
    obtain rfl : left = blanks ++ ':' :: rest := hleft
    refine ⟨offset + blanks.length + 1, ?_⟩
    rw [readColon, skipBlanks_append hblanks rfl]
    rfl

/-- A key comes next behind blanks, and behind a comma unless it is the first one. -/
theorem gives_nextKey_true_iff {first : Bool} {i : Input} {rest : List Char} :
    Gives (nextKey first i) true rest
      ↔ ∃ front letters, Separates first front ∧ rest = '"' :: letters
        ∧ i.rest = front ++ rest := by
  constructor
  · intro h
    obtain ⟨blanks, hblanks, hleft⟩ := exists_blanks i
    rw [nextKey] at h
    generalize skipBlanks i = j at h hleft
    obtain ⟨left, reached⟩ := j
    simp only at h
    split at h
    · exact absurd h (not_gives_failNext _ _ _ _)
    · cases (gives_ok_iff.1 h).1
    rename_i c behind _
    cases first with
    | true =>
      simp only [if_true] at h
      split at h
      · rename_i hc
        obtain ⟨-, rfl⟩ := gives_ok_iff.1 h
        exact ⟨blanks, behind, .first hblanks, by rw [hc], hleft⟩
      · exact absurd h (not_gives_failNext _ _ _ _)
    | false =>
      simp only [Bool.false_eq_true, if_false] at h
      split at h
      · rename_i hc
        subst hc
        obtain ⟨others, hothers, hbehind⟩ :=
          exists_blanks (Input.advance { rest := ',' :: behind, offset := reached })
        generalize skipBlanks (Input.advance { rest := ',' :: behind, offset := reached }) = k
          at h hbehind
        obtain ⟨left, reached⟩ := k
        obtain rfl : behind = others ++ left := hbehind
        simp only at h
        split at h
        · exact absurd h (not_gives_failNext _ _ _ _)
        · rename_i letters
          obtain ⟨-, rfl⟩ := gives_ok_iff.1 h
          exact ⟨blanks ++ ',' :: others, letters, .comma hblanks hothers, rfl, by simp [hleft]⟩
        · exact absurd h (not_gives_failNext _ _ _ _)
        · exact absurd h (not_gives_failNext _ _ _ _)
      · exact absurd h (not_gives_failNext _ _ _ _)
  · rintro ⟨front, letters, hfront, rfl, hleft⟩
    obtain ⟨left, offset⟩ := i
    obtain rfl : left = front ++ '"' :: letters := hleft
    cases hfront with
    | first hblanks =>
      rw [nextKey, skipBlanks_append hblanks rfl]
      exact ⟨_, rfl⟩
    | comma hblanks hbehind =>
      have hquote : isBlank '"' = false := rfl
      rw [List.append_assoc, List.cons_append, nextKey, skipBlanks_append hblanks rfl]
      simp only [Input.advance, List.tail_cons, skipBlanks_append hbehind hquote]
      exact ⟨_, rfl⟩

theorem gives_nextKey_false_iff {first : Bool} {i : Input} {rest : List Char} :
    Gives (nextKey first i) false rest
      ↔ ∃ blanks letters, IsBlanks blanks ∧ rest = '\x7d' :: letters ∧ i.rest = blanks ++ rest := by
  constructor
  · intro h
    obtain ⟨blanks, hblanks, hleft⟩ := exists_blanks i
    rw [nextKey] at h
    generalize skipBlanks i = j at h hleft
    obtain ⟨left, reached⟩ := j
    simp only at h
    split at h
    · exact absurd h (not_gives_failNext _ _ _ _)
    · obtain ⟨-, rfl⟩ := gives_ok_iff.1 h
      exact ⟨blanks, _, hblanks, rfl, hleft⟩
    -- Anything but the brace is a key or a failure.
    repeat' split at h
    all_goals first
      | exact absurd h (not_gives_failNext _ _ _ _)
      | cases (gives_ok_iff.1 h).1
  · rintro ⟨blanks, letters, hblanks, rfl, hleft⟩
    obtain ⟨left, offset⟩ := i
    obtain rfl : left = blanks ++ '\x7d' :: letters := hleft
    rw [nextKey, skipBlanks_append hblanks rfl]
    exact ⟨_, rfl⟩

/-! ### Reading strings and objects -/

/-- A value of another type is never taken. -/
theorem not_gives_failType (expected : Expected) (i : Input) (a : α) (rest : List Char) :
    ¬Gives (failType expected i) a rest := by
  simp only [failType]
  repeat' split
  all_goals exact not_gives_error _ a rest

theorem gives_expectText_iff {i : Input} {s : String} {rest : List Char} :
    Gives (expectText i) s rest
      ↔ ∃ blanks letters, IsBlanks blanks ∧ WritesText s letters
        ∧ i.rest = blanks ++ (letters ++ rest) := by
  constructor
  · intro h
    obtain ⟨blanks, hblanks, hleft⟩ := exists_blanks i
    rw [expectText] at h
    generalize skipBlanks i = j at h hleft
    obtain ⟨left, reached⟩ := j
    simp only at h
    split at h
    · exact absurd h (not_gives_failNext _ _ _ _)
    · obtain ⟨inner, hinner, hbehind⟩ := gives_readText_iff.1 h
      refine ⟨blanks, _, hblanks, ⟨inner, hinner, rfl⟩, ?_⟩
      simp_all [Input.advance]
    · exact absurd h (not_gives_failType _ _ _ _)
  · rintro ⟨blanks, letters, hblanks, ⟨inner, hinner, rfl⟩, hleft⟩
    obtain ⟨left, offset⟩ := i
    obtain rfl : left = blanks ++ '"' :: (inner ++ ['"'] ++ rest) := hleft
    rw [expectText, skipBlanks_append hblanks rfl]
    exact gives_readText_iff.2 ⟨inner, hinner, by simp [Input.advance]⟩

/-- What stands behind the opening brace of an object, or behind a member, when `step` says what
    may stand behind a key and to which state it leads from another one. -/
inductive MembersLead {σ : Type} (step : String → σ → σ → List Char → Prop) :
    Bool → σ → σ → List Char → Prop
  | close {first : Bool} {s : σ} {blanks : List Char} :
    IsBlanks blanks → MembersLead step first s s (blanks ++ ['\x7d'])
  | member {first : Bool} {key : String} {s s' s'' : σ} {front name letters rest : List Char} :
    Separates first front → WritesText key name → step key s s' letters →
      MembersLead step false s' s'' rest →
        MembersLead step first s s'' (front ++ (name ++ (letters ++ rest)))

section Members

variable {σ : Type} {member : String → σ → Input → Outcome σ}
  {step : String → σ → σ → List Char → Prop}

theorem exists_of_gives_readMembersFrom
    (hmember : ∀ key s i s' rest, Gives (member key s i) s' rest →
      ∃ letters, step key s s' letters ∧ i.rest = letters ++ rest)
    {fuel : Nat} {first : Bool} {s s' : σ} {i : Input} {rest : List Char}
    (h : Gives (readMembersFrom member fuel first s i) s' rest) :
    ∃ letters, MembersLead step first s s' letters ∧ i.rest = letters ++ rest := by
  induction fuel generalizing first s i with
  | zero => exact absurd h (not_gives_failNext _ _ _ _)
  | succ fuel ih =>
    rw [readMembersFrom] at h
    split at h
    · exact absurd h (not_gives_error _ _ _)
    · rename_i j hnext
      obtain ⟨blanks, letters, hblanks, hj, hleft⟩ := gives_nextKey_false_iff.1 ⟨j.offset, hnext⟩
      obtain ⟨rfl, hrest⟩ := gives_ok_iff.1 h
      refine ⟨_, .close hblanks, ?_⟩
      rw [Input.advance, hj] at hrest
      rw [hleft, hj, ← hrest]
      simp
    · rename_i j hnext
      obtain ⟨front, inner, hfront, hj, hleft⟩ := gives_nextKey_true_iff.1 ⟨j.offset, hnext⟩
      split at h
      · exact absurd h (not_gives_error _ _ _)
      rename_i key k hkey
      obtain ⟨name, hname, hinner⟩ := gives_readText_iff.1 ⟨k.offset, hkey⟩
      split at h
      · exact absurd h (not_gives_error _ _ _)
      rename_i t l hvalue
      obtain ⟨letters, hstep, hk⟩ := hmember key s k t l.rest ⟨l.offset, hvalue⟩
      obtain ⟨others, hothers, hl⟩ := ih h
      refine ⟨_, .member hfront ⟨name, hname, rfl⟩ hstep hothers, ?_⟩
      rw [Input.advance, hj] at hinner
      obtain rfl : inner = name ++ '"' :: k.rest := hinner
      simp [hleft, hj, hk, hl]

theorem gives_readMembersFrom
    (hmember : ∀ key s i s' rest, (∃ letters, step key s s' letters ∧ i.rest = letters ++ rest) →
      Gives (member key s i) s' rest)
    {first : Bool} {s s' : σ} {letters : List Char} (h : MembersLead step first s s' letters)
    {fuel : Nat} (hfuel : letters.length < fuel) (rest : List Char) (offset : Nat) :
    Gives (readMembersFrom member fuel first s { rest := letters ++ rest, offset }) s' rest := by
  induction h generalizing fuel offset with
  | @close first s blanks hblanks =>
    obtain ⟨fuel, rfl⟩ := Nat.exists_eq_add_one.2 (Nat.zero_lt_of_lt hfuel)
    have hnext : Gives (nextKey first { rest := blanks ++ ['\x7d'] ++ rest, offset }) false
        ('\x7d' :: rest) :=
      gives_nextKey_false_iff.2 ⟨blanks, rest, hblanks, rfl, by simp⟩
    obtain ⟨reached, hnext⟩ := hnext
    rw [readMembersFrom, hnext]
    exact ⟨_, rfl⟩
  | @member first key s s' s'' front name letters others hfront hname hstep _ ih =>
    obtain ⟨fuel, rfl⟩ := Nat.exists_eq_add_one.2 (Nat.zero_lt_of_lt hfuel)
    obtain ⟨inner, hinner, rfl⟩ := hname
    have hshorter : others.length < fuel := by
      simp only [List.length_append, List.length_cons] at hfuel
      omega
    have hnext : Gives
        (nextKey first
          { rest := front ++ ('"' :: (inner ++ ['"']) ++ (letters ++ others)) ++ rest, offset })
        true ('"' :: (inner ++ '"' :: (letters ++ (others ++ rest)))) :=
      gives_nextKey_true_iff.2 ⟨front, _, hfront, rfl, by simp⟩
    obtain ⟨reached, hnext⟩ := hnext
    have hkey (reached : Nat) : Gives
        (readText { rest := inner ++ '"' :: (letters ++ (others ++ rest)), offset := reached }) key
        (letters ++ (others ++ rest)) :=
      gives_readText_iff.2 ⟨inner, hinner, rfl⟩
    obtain ⟨behind, hkey⟩ := hkey (reached + 1)
    obtain ⟨left, hvalue⟩ := hmember key s
      { rest := letters ++ (others ++ rest), offset := behind } s' (others ++ rest)
      ⟨letters, hstep, rfl⟩
    rw [readMembersFrom, hnext]
    simp only [Input.advance, List.tail_cons, hkey, hvalue]
    exact ih hshorter left

/-- An object is read member by member behind its opening brace. -/
theorem gives_readMembers_iff
    (hmember : ∀ key s i s' rest, Gives (member key s i) s' rest
      ↔ ∃ letters, step key s s' letters ∧ i.rest = letters ++ rest)
    {s s' : σ} {i : Input} {rest : List Char} :
    Gives (readMembers member s i) s' rest
      ↔ ∃ letters, MembersLead step true s s' letters ∧ i.rest = letters ++ rest := by
  constructor
  · exact exists_of_gives_readMembersFrom fun key s i s' rest => (hmember key s i s' rest).1
  · rintro ⟨letters, hletters, hleft⟩
    obtain ⟨left, offset⟩ := i
    obtain rfl : left = letters ++ rest := hleft
    refine gives_readMembersFrom (fun key s i s' rest => (hmember key s i s' rest).2) hletters ?_
      rest offset
    rw [List.length_append]
    omega

end Members

/-- Behind the value of a whole text there are blanks only. -/
theorem decode_eq_ok_iff {reader : Input → Outcome α} {text : String} {a : α} :
    decode reader text = .ok a
      ↔ ∃ rest, Gives (reader { rest := text.toList, offset := 0 }) a rest ∧ IsBlanks rest := by
  have hblanks (i : Input) : (skipBlanks i).rest.isEmpty = true ↔ IsBlanks i.rest := by
    rw [List.isEmpty_iff, skipBlanks, List.dropWhile_eq_nil_iff, IsBlanks]
  rw [decode]
  constructor
  · intro h
    split at h
    · cases h
    · rename_i b i hread
      simp only at h
      split at h
      · rename_i hend
        obtain rfl := Except.ok.inj h
        exact ⟨i.rest, ⟨i.offset, hread⟩, (hblanks i).1 hend⟩
      · cases h
  · rintro ⟨rest, ⟨offset, hread⟩, hrest⟩
    rw [hread]
    simp only [(hblanks { rest, offset }).2 hrest, if_true]

end CatalogAudit.Json
