import CatalogAudit.Json.Writing
import CatalogAudit.Proofs.Json.Grammar

/-!
# Strings and numbers in documents

What is written of a string or of a number is read back as this string or number, whatever
stands behind it. Escapes are read as the characters that they stand for, so the string
ends where its writer closed it.

* `Json.writesChars_escaped`: what is written of a string is one of the texts of the grammar.
* `Json.gives_readText`: strings are read back.
* `Json.gives_readNatural`: numbers are read back.
-/

namespace CatalogAudit.Json

variable {α : Type}

/-! ### Strings -/

theorem hexValue?_digitChar : ∀ d < 16, hexValue? (Nat.digitChar d) = some d := by decide

/-- The four digits that write a control character. -/
theorem fourDigits?_hexadecimal {n : Nat} (hn : n < 0x20) :
    ∃ a b, hexadecimal (n / 16) ++ hexadecimal (n % 16) = [a, b]
      ∧ fourDigits? '0' '0' a b = some n := by
  have hhigh : n / 16 < 16 := by omega
  have hlow : n % 16 < 16 := Nat.mod_lt n (by decide)
  refine ⟨Nat.digitChar (n / 16), Nat.digitChar (n % 16), ?_, ?_⟩
  · rw [hexadecimal, hexadecimal, Nat.toDigits_of_lt_base hhigh, Nat.toDigits_of_lt_base hlow]
    rfl
  · have hzero : hexValue? '0' = some 0 := by decide
    rw [fourDigits?, hzero, hexValue?_digitChar _ hhigh, hexValue?_digitChar _ hlow]
    simp only [Option.some.injEq]
    omega

/-- Control characters that have no short escape are escaped by their number. -/
theorem escaped_of_control {c : Char} (hcontrol : c.toNat < 0x20)
    (hlong : c ∉ ['\x08', '\t', '\n', '\x0c', '\r']) :
    ∃ a b, Value.escaped c = ['\\', 'u', '0', '0', a, b]
      ∧ fourDigits? '0' '0' a b = some c.toNat := by
  obtain ⟨a, b, hdigits, hvalue⟩ := fourDigits?_hexadecimal hcontrol
  simp only [List.mem_cons, List.not_mem_nil, or_false, not_or] at hlong
  obtain ⟨hb, ht, hn, hf, hr⟩ := hlong
  have hquoted : ¬(c = '"' ∨ c = '\\') := by
    rintro (rfl | rfl) <;> exact absurd hcontrol (by decide)
  refine ⟨a, b, ?_, hvalue⟩
  rw [Value.escaped, if_neg hquoted, if_neg hb, if_neg ht, if_neg hn, if_neg hf, if_neg hr,
    if_pos hcontrol, List.append_assoc, hdigits]
  rfl

/-- Other characters show as they are. -/
theorem escaped_of_plain {c : Char} (hquoted : ¬(c = '"' ∨ c = '\\'))
    (hcontrol : ¬c.toNat < 0x20) : Value.escaped c = [c] := by
  have hne {d : Char} (hd : d.toNat < 0x20) : c ≠ d := by
    rintro rfl
    exact hcontrol hd
  rw [Value.escaped, if_neg hquoted, if_neg (hne (by decide)), if_neg (hne (by decide)),
    if_neg (hne (by decide)), if_neg (hne (by decide)), if_neg (hne (by decide)),
    if_neg hcontrol]

/-- What is written of a character is one of the ways to write it. -/
theorem writesChar_escaped (c : Char) : WritesChar c (Value.escaped c) := by
  by_cases hquoted : c = '"' ∨ c = '\\'
  · rw [Value.escaped, if_pos hquoted]
    rcases hquoted with rfl | rfl <;> exact .short (by decide)
  by_cases hcontrol : c.toNat < 0x20
  · by_cases hshort : c ∈ ['\x08', '\t', '\n', '\x0c', '\r']
    · simp only [List.mem_cons, List.not_mem_nil, or_false] at hshort
      rcases hshort with rfl | rfl | rfl | rfl | rfl <;> exact .short (by decide)
    · obtain ⟨a, b, hescaped, hvalue⟩ := escaped_of_control hcontrol hshort
      rw [hescaped]
      exact .unit (fourDigits?_eq_some_iff.1 hvalue)
  · obtain ⟨hquote, hbackslash⟩ := not_or.1 hquoted
    rw [escaped_of_plain hquoted hcontrol]
    exact .plain hquote hbackslash (Nat.le_of_not_lt hcontrol)

theorem writesChars_escaped (cs : List Char) : WritesChars cs (cs.flatMap Value.escaped) := by
  induction cs with
  | nil => exact .nil
  | cons c cs ih => exact .cons (writesChar_escaped c) ih

/-- Every element adds to what is written of a list. -/
theorem length_le_length_flatMap {f : α → List Char} (hf : ∀ a, f a ≠ []) (l : List α) :
    l.length ≤ (l.flatMap f).length := by
  induction l with
  | nil => exact Nat.zero_le _
  | cons a l ih =>
    have ha := List.length_pos_iff.2 (hf a)
    rw [List.flatMap_cons, List.length_append, List.length_cons]
    omega

/-- What is written of a string is read as this string behind its opening quote. -/
theorem gives_readText (s : String) (rest : List Char) (offset : Nat) :
    Gives (readText { rest := s.toList.flatMap Value.escaped ++ '"' :: rest, offset }) s rest :=
  gives_readText_iff.2 ⟨_, writesChars_escaped s.toList, rfl⟩

/-! ### Numbers -/

/-- Reads a number without sign, fraction and exponent. It does not begin with a zero
    unless it is zero. -/
def readNatural (i : Input) : Outcome Nat :=
  match i.rest.takeWhile isDigit with
  | [] => i.failNext .expectedValue
  | '0' :: _ :: _ => i.advance.failNext .invalidNumber
  | digits => .ok (Nat.ofDigitChars 10 digits 0, skipDigits i)

theorem isBlank_of_isDigit {c : Char} (h : isDigit c = true) : isBlank c = false := by
  rw [Bool.eq_false_iff]
  intro hblank
  simp only [isBlank, Bool.or_eq_true, beq_iff_eq] at hblank
  rcases hblank with ((rfl | rfl) | rfl) | rfl <;> cases h

/-- What is left does not begin with a digit. -/
def NoDigit (rest : List Char) : Prop :=
  ∀ c ∈ rest.head?, isDigit c = false

theorem takeWhile_isDigit_append {ds rest : List Char} (hds : ∀ c ∈ ds, isDigit c = true)
    (hrest : NoDigit rest) :
    (ds ++ rest).takeWhile isDigit = ds ∧ (ds ++ rest).dropWhile isDigit = rest := by
  rw [List.takeWhile_append_of_pos hds, List.dropWhile_append_of_pos hds]
  cases rest with
  | nil => simp
  | cons c rest =>
    have hc := hrest c rfl
    simp [hc]

theorem isDigit_of_mem_toDigits {n : Nat} {c : Char} (h : c ∈ Nat.toDigits 10 n) :
    isDigit c = true := by
  have hc := Nat.isDigit_of_mem_toDigits (by decide) (by decide) h
  simpa [isDigit, Char.isDigit, Char.le_def] using hc

/-- No number but zero begins with a zero. -/
theorem eq_nil_of_toDigits {n : Nat} {ds : List Char} (h : Nat.toDigits 10 n = '0' :: ds) :
    ds = [] := by
  induction n using Nat.strongRecOn generalizing ds with
  | ind n ih =>
    rw [Nat.toDigits_eq_if (by decide)] at h
    split at h
    · exact (List.cons.inj h).2.symm
    · rename_i hlarge
      have hne : Nat.toDigits 10 (n / 10) ≠ [] := Nat.toDigits_ne_nil
      obtain ⟨d, front, hfront⟩ := List.exists_cons_of_ne_nil hne
      rw [hfront, List.cons_append] at h
      obtain ⟨rfl, -⟩ := List.cons.inj h
      -- The front of the digits would be those of zero.
      obtain rfl := ih (n / 10) (by omega) hfront
      have hzero := Nat.ofDigitChars_toDigits (b := 10) (n := n / 10) (by decide) (by decide)
      rw [hfront] at hzero
      have : n / 10 = 0 := hzero.symm
      omega

/-- What is written of a number is read as this number. -/
theorem gives_readNatural (n : Nat) {rest : List Char} (hrest : NoDigit rest) (offset : Nat) :
    Gives (readNatural { rest := Nat.toDigits 10 n ++ rest, offset }) n rest := by
  have hdigits : ∀ c ∈ Nat.toDigits 10 n, isDigit c = true := fun c hc =>
    isDigit_of_mem_toDigits hc
  obtain ⟨htake, hdrop⟩ := takeWhile_isDigit_append hdigits hrest
  have hvalue := Nat.ofDigitChars_toDigits (b := 10) (n := n) (by decide) (by decide)
  rw [readNatural]
  simp only [htake]
  split
  · rename_i hnil
    exact absurd hnil Nat.toDigits_ne_nil
  · rename_i hzero
    cases eq_nil_of_toDigits hzero
  · refine ⟨offset + (Nat.toDigits 10 n).length, ?_⟩
    rw [hvalue, skipDigits]
    simp only [hdrop, htake]

end CatalogAudit.Json
