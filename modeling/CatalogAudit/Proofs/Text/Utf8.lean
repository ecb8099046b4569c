import CatalogAudit.Text.Utf8
import Mathlib.Data.List.Forall2

/-!
# Text from its bytes

The bytes of a text split into its characters, so reading them loses nothing.

* `Utf8.first_encodeChar`: the first piece of bytes that begin with those of a
  character.
* `Utf8.decode?_eq_some_iff`: a text is read from its bytes, and from no others.
* `Utf8.lossy_of_decode?`: bytes that are the form of a text are read as this text.
-/

namespace CatalogAudit.Utf8

theorem encode_eq (text : String) : encode text = text.toList.flatMap String.utf8EncodeChar := by
  have hbytes : text.toUTF8 = text.toList.utf8Encode := by
    rw [String.toUTF8, ← String.toByteArray_ofList, String.ofList_toList]
  rw [encode, hbytes, List.utf8Encode]
  simp

theorem eq_encode_of_decode? {bytes : List UInt8} {text : String} (h : decode? bytes = some text) :
    bytes = encode text := by
  rw [decode?, String.fromUTF8?] at h
  split at h
  · rw [encode, String.toUTF8, ← Option.some.inj h]
    rfl
  · cases h

theorem decode?_encode (text : String) : decode? (encode text) = some text := by
  have hbytes : (⟨(encode text).toArray⟩ : ByteArray) = text.toByteArray := rfl
  rw [decode?, hbytes, String.fromUTF8?, dif_pos text.isValidUTF8]
  rfl

theorem decode?_eq_some_iff {bytes : List UInt8} {text : String} :
    decode? bytes = some text ↔ bytes = encode text :=
  ⟨eq_encode_of_decode?, fun h => h ▸ decode?_encode text⟩

/-- Bytes are the UTF-8 form of one text only, and texts of one sequence of
    bytes. -/
theorem eq_of_decode?_eq_some {a b : List UInt8} {text : String} (ha : decode? a = some text)
    (hb : decode? b = some text) : a = b := by
  rw [eq_encode_of_decode? ha, eq_encode_of_decode? hb]

/-! ### One character -/

/-- The bytes lie in the ranges, one by one. -/
def Fits (ranges : List (UInt8 × UInt8)) (bytes : List UInt8) : Prop :=
  List.Forall₂ (fun range b => range.1 ≤ b ∧ b ≤ range.2) ranges bytes

theorem fitting_append {ranges : List (UInt8 × UInt8)} {bytes : List UInt8}
    (h : Fits ranges bytes) (rest : List UInt8) : fitting ranges (bytes ++ rest) = bytes := by
  induction h with
  | nil => cases rest <;> rfl
  | cons hrange _ ih => rw [List.cons_append, fitting, if_pos hrange, ih]

/-- Bytes as they are expected behind a first byte make a character with it. -/
theorem first_of_fits {b : UInt8} {payload : Nat} {ranges : List (UInt8 × UInt8)}
    {bytes : List UInt8} (hlead : lead? b = some (payload, ranges)) (h : Fits ranges bytes)
    (rest : List UInt8) :
    first b (bytes ++ rest)
      = (.char (Char.ofNat (bytes.foldl (fun n b => n * 64 + (b.toNat - 0x80)) payload)),
        bytes.length) := by
  rw [first, hlead]
  simp only [fitting_append h, if_pos h.length_eq.symm]

theorem lead?_one {n : Nat} (h : n < 0x80) : lead? (UInt8.ofNat n) = some (n, []) := by
  have hall : ∀ n < 0x80, lead? (UInt8.ofNat n) = some (n, []) := by decide +kernel
  exact hall n h

theorem lead?_two {n : Nat} (h : 2 ≤ n) (h' : n < 32) :
    lead? (UInt8.ofNat (n + 0xc0)) = some (n, [(0x80, 0xBF)]) := by
  obtain ⟨n, rfl⟩ := Nat.exists_eq_add_of_le' h
  have hall : ∀ n < 30, lead? (UInt8.ofNat (n + 2 + 0xc0)) = some (n + 2, [(0x80, 0xBF)]) := by
    decide +kernel
  exact hall n (by omega)

theorem lead?_three {n : Nat} (h : n < 16) :
    lead? (UInt8.ofNat (n + 0xe0)) = some (n,
      [if n = 0 then (0xA0, 0xBF) else if n = 13 then (0x80, 0x9F) else (0x80, 0xBF),
        (0x80, 0xBF)]) := by
  have hall : ∀ n < 16, lead? (UInt8.ofNat (n + 0xe0)) = some (n,
      [if n = 0 then (0xA0, 0xBF) else if n = 13 then (0x80, 0x9F) else (0x80, 0xBF),
        (0x80, 0xBF)]) := by decide +kernel
  exact hall n h

theorem lead?_four {n : Nat} (h : n < 5) :
    lead? (UInt8.ofNat (n + 0xf0)) = some (n,
      [if n = 0 then (0x90, 0xBF) else if n = 4 then (0x80, 0x8F) else (0x80, 0xBF),
        (0x80, 0xBF), (0x80, 0xBF)]) := by
  have hall : ∀ n < 5, lead? (UInt8.ofNat (n + 0xf0)) = some (n,
      [if n = 0 then (0x90, 0xBF) else if n = 4 then (0x80, 0x8F) else (0x80, 0xBF),
        (0x80, 0xBF), (0x80, 0xBF)]) := by decide +kernel
  exact hall n h

theorem toNat_tail (n : Nat) : (UInt8.ofNat (n % 64 + 0x80)).toNat = n % 64 + 0x80 := by
  rw [UInt8.toNat_ofNat']
  omega

/-- A byte behind the first one lies between two others when its payload does. -/
theorem tail_fits (n low high : Nat) (hlow : low ≤ n % 64 + 0x80) (hhigh : n % 64 + 0x80 ≤ high)
    (h : high < 256) : UInt8.ofNat low ≤ UInt8.ofNat (n % 64 + 0x80)
      ∧ UInt8.ofNat (n % 64 + 0x80) ≤ UInt8.ofNat high := by
  rw [UInt8.le_iff_toNat_le, UInt8.le_iff_toNat_le, toNat_tail, UInt8.toNat_ofNat',
    UInt8.toNat_ofNat']
  omega

theorem tail_fits_all (n : Nat) : (0x80 : UInt8) ≤ UInt8.ofNat (n % 64 + 0x80)
    ∧ UInt8.ofNat (n % 64 + 0x80) ≤ 0xBF :=
  tail_fits n 0x80 0xBF (by omega) (by omega) (by decide)

/-- The first byte of a character announces the others, and the payloads of all
    make up its number. -/
theorem exists_lead? (c : Char) : ∃ b payload ranges bytes, String.utf8EncodeChar c = b :: bytes
    ∧ lead? b = some (payload, ranges) ∧ Fits ranges bytes
    ∧ bytes.foldl (fun n b => n * 64 + (b.toNat - 0x80)) payload = c.toNat := by
  have hvalid : c.val.toNat < 0xd800 ∨ 0xdfff < c.val.toNat ∧ c.val.toNat < 0x110000 := c.valid
  have hnat : c.toNat = c.val.toNat := rfl
  rw [hnat]
  fun_cases String.utf8EncodeChar c
  case case1 v hv =>
    exact ⟨_, v, [], [], rfl, lead?_one (by omega), .nil, rfl⟩
  case case2 v hv hv' =>
    refine ⟨_, _, _, _, rfl, lead?_two (by omega) (by omega), .cons (tail_fits_all v) .nil, ?_⟩
    simp only [List.foldl_cons, List.foldl_nil, toNat_tail]
    omega
  case case3 v hv hv' hv'' =>
    refine ⟨_, _, _, _, rfl, lead?_three (by omega),
      .cons ?_ (.cons (tail_fits_all v) .nil), ?_⟩
    · split
      · exact tail_fits _ 0xA0 0xBF (by omega) (by omega) (by decide)
      · split
        · exact tail_fits _ 0x80 0x9F (by omega) (by omega) (by decide)
        · exact tail_fits_all _
    · simp only [List.foldl_cons, List.foldl_nil, toNat_tail]
      omega
  case case4 v hv hv' hv'' =>
    refine ⟨_, _, _, _, rfl, lead?_four (by omega),
      .cons ?_ (.cons (tail_fits_all _) (.cons (tail_fits_all v) .nil)), ?_⟩
    · split
      · exact tail_fits _ 0x90 0xBF (by omega) (by omega) (by decide)
      · split
        · exact tail_fits _ 0x80 0x8F (by omega) (by omega) (by decide)
        · exact tail_fits_all _
    · simp only [List.foldl_cons, List.foldl_nil, toNat_tail]
      omega

/-! ### Texts -/

theorem pieces_encodeChar (c : Char) (rest : List UInt8) :
    pieces (String.utf8EncodeChar c ++ rest) = .char c :: pieces rest := by
  obtain ⟨b, payload, ranges, bytes, hbytes, hlead, hfits, hnumber⟩ := exists_lead? c
  rw [hbytes, List.cons_append, pieces, first_of_fits hlead hfits, hnumber, Char.ofNat_toNat]
  simp only [List.drop_left]

theorem lossy_encode (text : String) : lossy (encode text) = text := by
  have hpieces (chars : List Char) :
      pieces (chars.flatMap String.utf8EncodeChar) = chars.map .char := by
    induction chars with
    | nil => rw [List.flatMap_nil, pieces]; rfl
    | cons c chars ih => rw [List.flatMap_cons, pieces_encodeChar, ih, List.map_cons]
  rw [lossy, encode_eq, hpieces, List.map_map]
  exact (congrArg String.ofList (List.map_id _)).trans String.ofList_toList

/-- Bytes that are the form of a text are read as this text. -/
theorem lossy_of_decode? {bytes : List UInt8} {text : String} (h : decode? bytes = some text) :
    lossy bytes = text := by
  rw [eq_encode_of_decode? h, lossy_encode]

end CatalogAudit.Utf8
