import CatalogAudit.Proofs.Text.Utf8
import Mathlib.Data.String.Basic

/-!
# Texts in the order of their bytes

Texts are compared character by character. The bytes of a character put its number down
from the highest bits to the lowest, and longer forms have greater first bytes, so to
compare the bytes of two texts comes to the same.

* `Utf8.encodeChar_append_lt`: the bytes of characters decide as the characters do.
* `Utf8.encode_lt_encode_iff`: the order of texts is the order of their bytes.
-/

namespace CatalogAudit.Utf8

theorem ofNat_cons_lt {m n : Nat} (h : m < n) (hn : n < 256) (u v : List UInt8) :
    UInt8.ofNat m :: u < UInt8.ofNat n :: v := by
  refine List.cons_lt_cons_iff.2 (.inl (UInt8.lt_iff_toNat_lt.2 ?_))
  rw [UInt8.toNat_ofNat', UInt8.toNat_ofNat']
  omega

/-- Numbers whose last six bits make a byte of their own are in the order of their bytes, if
    they are so without these bits. -/
theorem append_tail_lt (front : Nat → List UInt8) {m n : Nat}
    (hfront : m / 64 < n / 64 → ∀ u v, front (m / 64) ++ u < front (n / 64) ++ v) (h : m < n)
    (u v : List UInt8) :
    front (m / 64) ++ UInt8.ofNat (m % 64 + 128) :: u
      < front (n / 64) ++ UInt8.ofNat (n % 64 + 128) :: v := by
  rcases Nat.lt_or_eq_of_le (Nat.div_le_div_right (Nat.le_of_lt h) : m / 64 ≤ n / 64) with hlt | heq
  · exact hfront hlt _ _
  · rw [heq]
    exact List.append_left_lt (ofNat_cons_lt (by omega) (by omega) u v)

/-- The bytes of the lesser one of two characters come first, whatever follows. -/
theorem encodeChar_append_lt {c d : Char} (h : c < d) (u v : List UInt8) :
    String.utf8EncodeChar c ++ u < String.utf8EncodeChar d ++ v := by
  have hlt : c.val.toNat < d.val.toNat := UInt32.lt_iff_toNat_lt.1 h
  have hvalid : d.val.toNat < 0xd800 ∨ 0xdfff < d.val.toNat ∧ d.val.toNat < 0x110000 := d.valid
  rw [String.utf8EncodeChar.eq_def, String.utf8EncodeChar.eq_def]
  generalize c.val.toNat = m at *
  generalize d.val.toNat = n at *
  -- A form is the next shorter one of all but the last six bits, with one more byte.
  have htwo {m n : Nat} (h : m < n) (hn : n < 2048) (u v : List UInt8) :
      [UInt8.ofNat (m / 64 % 32 + 192)] ++ UInt8.ofNat (m % 64 + 128) :: u
        < [UInt8.ofNat (n / 64 % 32 + 192)] ++ UInt8.ofNat (n % 64 + 128) :: v :=
    append_tail_lt (fun k => [UInt8.ofNat (k % 32 + 192)])
      (fun _ => ofNat_cons_lt (by omega) (by omega)) h u v
  have hthree {m n : Nat} (h : m < n) (hn : n < 65536) (u v : List UInt8) :
      [UInt8.ofNat (m / 64 / 64 % 16 + 224), UInt8.ofNat (m / 64 % 64 + 128)]
          ++ UInt8.ofNat (m % 64 + 128) :: u
        < [UInt8.ofNat (n / 64 / 64 % 16 + 224), UInt8.ofNat (n / 64 % 64 + 128)]
          ++ UInt8.ofNat (n % 64 + 128) :: v :=
    append_tail_lt (fun k => [UInt8.ofNat (k / 64 % 16 + 224), UInt8.ofNat (k % 64 + 128)])
      (fun h => append_tail_lt (fun k => [UInt8.ofNat (k % 16 + 224)])
        (fun _ => ofNat_cons_lt (by omega) (by omega)) h) h u v
  have hfour (u v : List UInt8) :
      [UInt8.ofNat (m / 64 / 64 / 64 % 8 + 240), UInt8.ofNat (m / 64 / 64 % 64 + 128),
          UInt8.ofNat (m / 64 % 64 + 128)] ++ UInt8.ofNat (m % 64 + 128) :: u
        < [UInt8.ofNat (n / 64 / 64 / 64 % 8 + 240), UInt8.ofNat (n / 64 / 64 % 64 + 128),
          UInt8.ofNat (n / 64 % 64 + 128)] ++ UInt8.ofNat (n % 64 + 128) :: v :=
    append_tail_lt (fun k => [UInt8.ofNat (k / 64 / 64 % 8 + 240),
        UInt8.ofNat (k / 64 % 64 + 128), UInt8.ofNat (k % 64 + 128)])
      (fun h => append_tail_lt
        (fun k => [UInt8.ofNat (k / 64 % 8 + 240), UInt8.ofNat (k % 64 + 128)])
        (fun h => append_tail_lt (fun k => [UInt8.ofNat (k % 8 + 240)])
          (fun _ => ofNat_cons_lt (by omega) (by omega)) h) h) hlt u v
  have hdiv (k : Nat) : k / 4096 = k / 64 / 64 ∧ k / 262144 = k / 64 / 64 / 64 := by omega
  simp only [(hdiv m).1, (hdiv m).2, (hdiv n).1, (hdiv n).2]
  -- Of forms of different lengths the first bytes decide.
  split_ifs
  all_goals first
    | omega
    | exact ofNat_cons_lt (by omega) (by omega) _ _
    | exact htwo hlt (by omega) u v
    | exact hthree hlt (by omega) u v
    | exact hfour u v

theorem flatMap_encodeChar_lt {s t : List Char} (h : s < t) :
    s.flatMap String.utf8EncodeChar < t.flatMap String.utf8EncodeChar := by
  induction h with
  | @nil c t =>
    rw [List.flatMap_nil, List.flatMap_cons]
    obtain ⟨b, bytes, hbytes⟩ := List.exists_cons_of_ne_nil (String.utf8EncodeChar_ne_nil (c := c))
    rw [hbytes]
    exact List.nil_lt_cons _ _
  | @rel c s d t h =>
    rw [List.flatMap_cons, List.flatMap_cons]
    exact encodeChar_append_lt h _ _
  | @cons c s t _ ih =>
    rw [List.flatMap_cons, List.flatMap_cons]
    exact List.append_left_lt ih

/-- Texts are in the order of their bytes. -/
theorem encode_lt_encode_iff {s t : String} : encode s < encode t ↔ s < t := by
  have hlt {s t : String} (h : s < t) : encode s < encode t := by
    rw [encode_eq, encode_eq]
    exact flatMap_encodeChar_lt (String.lt_iff_toList_lt.1 h)
  refine ⟨fun h => ?_, hlt⟩
  rcases lt_trichotomy s t with hst | rfl | hts
  · exact hst
  · exact absurd h (List.lt_irrefl _)
  · exact absurd h (List.lt_asymm (hlt hts))

end CatalogAudit.Utf8
