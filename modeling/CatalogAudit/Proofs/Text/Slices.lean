import CatalogAudit.Proofs.Text.Place
import CatalogAudit.Proofs.Text.Scan

/-!
# Offsets at which a text is cut

Offsets count bytes, and so an offset may be inside a character or beyond the end of a text.
At such an offset nothing begins, and a text cannot be cut there.

* `IsBoundary`: the offsets of the positions of a text.
* `Cursor.atOffset?`: the position at an offset (`atOffset?_eq_some_iff`).
* `textBetween?`: the text between two offsets. There is one exactly between boundaries
  (`textBetween?_eq_some_iff`).
-/

namespace CatalogAudit

/-- The offset is between two characters of the text, or at one of its ends. -/
def IsBoundary (text : List Char) (offset : Nat) : Prop :=
  ∃ before, before <+: text ∧ byteLength before = offset

theorem byteLength_le_of_prefix {s t : List Char} (h : s <+: t) : byteLength s ≤ byteLength t := by
  obtain ⟨rest, rfl⟩ := h
  rw [byteLength_append]
  exact Nat.le_add_right _ _

theorem IsBoundary.le_byteLength {text : List Char} {offset : Nat} (h : IsBoundary text offset) :
    offset ≤ byteLength text := by
  obtain ⟨before, hbefore, rfl⟩ := h
  exact byteLength_le_of_prefix hbefore

/-- So many bytes are so many characters exactly if some beginning of the text has both
    lengths. -/
theorem charactersIn_eq_some_iff {text : List Char} {bytes n : Nat} :
    charactersIn text bytes = some n
      ↔ ∃ before, before <+: text ∧ byteLength before = bytes ∧ before.length = n := by
  constructor
  · intro h
    induction text generalizing bytes n with
    | nil =>
      cases bytes with
      | zero => exact ⟨[], List.prefix_rfl, rfl, Option.some.inj h⟩
      | succ bytes => cases h
    | cons x rest ih =>
      cases bytes with
      | zero => exact ⟨[], List.nil_prefix, rfl, Option.some.inj h⟩
      | succ bytes =>
        rw [charactersIn] at h
        · split at h
          · rename_i hle
            obtain ⟨m, hm, rfl⟩ := Option.map_eq_some_iff.1 h
            obtain ⟨before, hbefore, hbytes, rfl⟩ := ih hm
            refine ⟨x :: before, List.cons_prefix_cons.2 ⟨rfl, hbefore⟩, ?_, rfl⟩
            rw [byteLength_cons, hbytes]
            omega
          · cases h
        · exact Nat.succ_ne_zero bytes
  · rintro ⟨before, ⟨rest, rfl⟩, rfl, rfl⟩
    exact charactersIn_append before rest

namespace Cursor

variable {text v w : List Char} {c d : Cursor} {offset : Nat}

/-- The position at an offset of a text. -/
def atOffset? (text : List Char) (offset : Nat) : Option Cursor :=
  (charactersIn text offset).map fun n =>
    { before := (text.take n).reverse
      after := text.drop n
      offset := byteLength (text.take n)
      offset_eq := (byteLength_reverse _).symm }

theorem Reaches.isBoundary (h : (start text).Reaches w c) : IsBoundary text c.offset :=
  ⟨w, ⟨c.after, h.eq_append.symm⟩, h.offset_of_start.symm⟩

/-- The position at an offset is the one of the text that has this offset. -/
theorem atOffset?_eq_some_iff :
    atOffset? text offset = some c ↔ (∃ w, (start text).Reaches w c) ∧ c.offset = offset := by
  constructor
  · intro h
    obtain ⟨n, hn, rfl⟩ := Option.map_eq_some_iff.1 h
    obtain ⟨before, ⟨rest, rfl⟩, rfl, rfl⟩ := charactersIn_eq_some_iff.1 hn
    refine ⟨⟨before, ?_, ?_⟩, ?_⟩
    · simp [start]
    · simp [start]
    · simp
  · rintro ⟨⟨w, hw⟩, rfl⟩
    have hn : charactersIn text c.offset = some w.length :=
      charactersIn_eq_some_iff.2
        ⟨w, ⟨c.after, hw.eq_append.symm⟩, hw.offset_of_start.symm, rfl⟩
    rw [atOffset?, hn, Option.map_some]
    refine congrArg some (ext_sides ?_ ?_)
    · have hbefore : c.before = w.reverse ++ [] := hw.before
      rw [hbefore, List.append_nil]
      exact congrArg List.reverse (by rw [hw.eq_append, List.take_left])
    · exact (congrArg (List.drop w.length) hw.eq_append).trans List.drop_left

end Cursor

/-- The text between two offsets. There is none if one of them is not a boundary or if they
    are in the wrong order. -/
def textBetween? (text : List Char) (start stop : Nat) : Option (List Char) :=
  match Cursor.atOffset? text start, Cursor.atOffset? text stop with
  | some c, some d => if start ≤ stop then some (c.upTo d) else none
  | _, _ => none

/-- The text between two offsets goes from the boundary at the first one to the boundary at the
    second one. -/
theorem textBetween?_eq_some_iff {text w : List Char} {start stop : Nat} :
    textBetween? text start stop = some w
      ↔ ∃ before, before ++ w <+: text ∧ byteLength before = start
        ∧ byteLength (before ++ w) = stop := by
  constructor
  · intro h
    rw [textBetween?] at h
    split at h
    · rename_i c d hc hd
      obtain ⟨⟨v, hv⟩, rfl⟩ := Cursor.atOffset?_eq_some_iff.1 hc
      obtain ⟨⟨u, hu⟩, rfl⟩ := Cursor.atOffset?_eq_some_iff.1 hd
      split at h
      · rename_i hle
        obtain ⟨t, rfl, ht⟩ := hv.exists_between hu hle
        obtain rfl : t = w := ht.upTo_eq.symm.trans (Option.some.inj h)
        exact ⟨v, ⟨d.after, hu.eq_append.symm⟩, hv.offset_of_start.symm, hu.offset_of_start.symm⟩
      · cases h
    · cases h
  · rintro ⟨before, hprefix, rfl, rfl⟩
    obtain ⟨c, d, hc, hd⟩ := Cursor.exists_reaches hprefix
    have hstop := hc.trans hd
    rw [textBetween?, Cursor.atOffset?_eq_some_iff.2 ⟨⟨before, hc⟩, hc.offset_of_start⟩,
      Cursor.atOffset?_eq_some_iff.2 ⟨⟨before ++ w, hstop⟩, hstop.offset_of_start⟩]
    simp only [byteLength_append, Nat.le_add_right, if_true, hd.upTo_eq]

/-- A text is cut between boundaries only. -/
theorem isBoundary_of_textBetween? {text w : List Char} {start stop : Nat}
    (h : textBetween? text start stop = some w) :
    IsBoundary text start ∧ IsBoundary text stop ∧ start ≤ stop := by
  obtain ⟨before, hprefix, rfl, rfl⟩ := textBetween?_eq_some_iff.1 h
  exact ⟨⟨before, (List.prefix_append before w).trans hprefix, rfl⟩,
    ⟨before ++ w, hprefix, rfl⟩, byteLength_le_of_prefix (List.prefix_append before w)⟩

/-- What is behind a position can be cut out. -/
theorem Cursor.Reaches.textBetween?_after {text v : List Char} {c : Cursor}
    (hc : (Cursor.start text).Reaches v c) :
    textBetween? text c.offset (byteLength text) = some c.after :=
  textBetween?_eq_some_iff.2
    ⟨v, hc.eq_append ▸ List.prefix_rfl, hc.offset_of_start.symm, by rw [← hc.eq_append]⟩

/-- A text can be cut where one of its positions is reached from another one. -/
theorem Cursor.Reaches.textBetween?_eq {text v w : List Char} {c d : Cursor}
    (hc : (Cursor.start text).Reaches v c) (hd : c.Reaches w d) :
    textBetween? text c.offset d.offset = some w :=
  textBetween?_eq_some_iff.2 ⟨v, ⟨d.after, (hc.trans hd).eq_append.symm⟩,
    hc.offset_of_start.symm, (hc.trans hd).offset_of_start.symm⟩

end CatalogAudit
