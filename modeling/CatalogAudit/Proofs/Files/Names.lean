import CatalogAudit.Files.Tree
import CatalogAudit.Proofs.Text.Utf8
import Mathlib.Data.List.Nodup
import Mathlib.Data.List.TakeWhile

/-!
# Names of files

A directory has no two entries of one name, and a name with a given extension is
determined by what is in front of the extension. The path of an entry of a
directory ends with the name of the entry, whatever the path of the directory
looks like.

* `FileName.hasExtension_iff`: names with an extension.
* `FileName.eq_of_stem_eq`: names with one stem and one extension.
* `Path.fileName?_child`: the name in the path of an entry.
* `Tree.nodup_names`: the names in a directory of a tree.
-/

namespace CatalogAudit

namespace FileName

/-- Without a dot a name is all stem. -/
theorem split_of_notMem {name : FileName} (h : dot ∉ name.bytes) :
    name.split = (name.bytes, none) := by
  have htake : name.bytes.reverse.takeWhile (· != dot) = name.bytes.reverse := by
    refine List.takeWhile_eq_self_iff.2 fun b hb => bne_iff_ne.2 ?_
    exact fun he => h (he ▸ List.mem_reverse.1 hb)
  rw [split, htake]
  simp

/-- The last dot of a name separates the stem from the extension, unless it is
    the first byte. -/
theorem split_of_eq {name : FileName} {front extension : List UInt8}
    (h : name.bytes = front ++ dot :: extension) (hd : dot ∉ extension) :
    name.split = if front.isEmpty then (name.bytes, none) else (front, some extension) := by
  have htake : name.bytes.reverse.takeWhile (· != dot) = extension.reverse := by
    have hrev : name.bytes.reverse = extension.reverse ++ dot :: front.reverse := by
      rw [h]
      simp
    rw [hrev, List.takeWhile_append_of_pos, List.takeWhile_cons_of_neg (by simp), List.append_nil]
    intro b hb
    exact bne_iff_ne.2 fun he => hd (he ▸ List.mem_reverse.1 hb)
  have hlength : name.bytes.length - extension.length - 1 = front.length := by
    rw [h, List.length_append, List.length_cons]
    omega
  have hfront : name.bytes.take front.length = front := by rw [h, List.take_left]
  rw [split, htake, List.reverse_reverse, hlength, hfront]

theorem stem_of_eq {name : FileName} {front extension : List UInt8}
    (h : name.bytes = front ++ dot :: extension) (hd : dot ∉ extension) (hne : front ≠ []) :
    name.stem = front := by
  rw [stem, split_of_eq h hd, if_neg (by simpa using hne)]

/-- A name with an extension is made of its stem, a dot and the extension. -/
theorem bytes_of_hasExtension {name : FileName} {extension : String}
    (h : name.hasExtension extension = true) :
    name.bytes = name.stem ++ dot :: Utf8.encode extension := by
  rw [hasExtension, beq_iff_eq, extension?] at h
  rw [stem]
  by_cases hdot : dot ∈ name.bytes
  · obtain ⟨behind, front, hrev, hbehind⟩ :=
      List.eq_append_cons_of_mem (List.mem_reverse.2 hdot)
    have hbytes : name.bytes = front.reverse ++ dot :: behind.reverse := by
      rw [← List.reverse_reverse name.bytes, hrev]
      simp
    have hsplit := split_of_eq hbytes fun hd => hbehind (List.mem_reverse.1 hd)
    rw [hsplit] at h ⊢
    split at h
    · cases h
    · rename_i hfront
      rw [if_neg hfront, ← Option.some.inj h]
      exact hbytes
  · rw [split_of_notMem hdot] at h
    cases h

/-- The stem of a name with an extension is not empty: a dot at the start of a name separates
    nothing. -/
theorem hasExtension_iff {name : FileName} {extension : String}
    (hd : dot ∉ Utf8.encode extension) : name.hasExtension extension = true
      ↔ ∃ front, front ≠ [] ∧ name.bytes = front ++ dot :: Utf8.encode extension := by
  constructor
  · intro h
    have hbytes := bytes_of_hasExtension h
    refine ⟨name.stem, fun hnil => ?_, hbytes⟩
    rw [hasExtension, beq_iff_eq, extension?, split_of_eq hbytes hd, hnil] at h
    cases h
  · rintro ⟨front, hne, hbytes⟩
    rw [hasExtension, extension?, split_of_eq hbytes hd, if_neg (by simpa using hne)]
    exact beq_self_eq_true _

/-- Names with one extension differ in their stems. -/
theorem eq_of_stem_eq {name other : FileName} {extension : String}
    (h : name.hasExtension extension = true) (ho : other.hasExtension extension = true)
    (hs : name.stem = other.stem) : name = other := by
  have hbytes : name.bytes = other.bytes := by
    rw [bytes_of_hasExtension h, bytes_of_hasExtension ho, hs]
  obtain ⟨bytes, proper⟩ := name
  obtain ⟨bytes', proper'⟩ := other
  obtain rfl : bytes = bytes' := hbytes
  rfl

end FileName

/-! ### Paths of entries -/

namespace Path

theorem split_cons_of_ne {b : UInt8} (h : b ≠ slash) (bytes : List UInt8) :
    ∃ piece rest, split bytes = piece :: rest ∧ split (b :: bytes) = (b :: piece) :: rest := by
  rw [split, if_neg h]
  cases hs : split bytes with
  | nil =>
    cases bytes with
    | nil => cases hs
    | cons c bytes =>
      rw [split] at hs
      split at hs
      · cases hs
      · split at hs <;> cases hs
  | cons piece rest => exact ⟨piece, rest, rfl, rfl⟩

theorem split_of_notMem {bytes : List UInt8} (h : slash ∉ bytes) : split bytes = [bytes] := by
  induction bytes with
  | nil => rfl
  | cons b bytes ih =>
    obtain ⟨hb, hbytes⟩ := List.ne_and_not_mem_of_not_mem_cons h
    obtain ⟨piece, rest, hs, hcons⟩ := split_cons_of_ne (Ne.symm hb) bytes
    rw [ih hbytes] at hs
    obtain ⟨rfl, rfl⟩ := List.cons.inj hs
    exact hcons

/-- The pieces on both sides of a slash. -/
theorem split_append_slash (front behind : List UInt8) :
    split (front ++ slash :: behind) = split front ++ split behind := by
  induction front with
  | nil => simp [split]
  | cons b front ih =>
    by_cases hb : b = slash
    · rw [List.cons_append, split, if_pos hb, ih, split, if_pos hb, List.cons_append]
    · obtain ⟨piece, rest, hs, hcons⟩ := split_cons_of_ne hb front
      obtain ⟨piece', rest', hs', hcons'⟩ := split_cons_of_ne hb (front ++ slash :: behind)
      rw [ih, hs, List.cons_append] at hs'
      obtain ⟨rfl, rfl⟩ := List.cons.inj hs'
      rw [List.cons_append, hcons', hcons, List.cons_append]

theorem ofPiece?_bytes (name : FileName) : Component.ofPiece? name.bytes = some (.name name) := by
  rw [Component.ofPiece?, if_neg name.proper.2.2.1, FileName.ofBytes?, dif_pos name.proper]
  rfl

/-- Below any front that is empty or ends with a slash, a name is a piece of
    its own. -/
theorem pieces_append_name {front : List UInt8} (h : front = [] ∨ front.getLast? = some slash)
    (name : FileName) : ∃ pieces, split (front ++ name.bytes) = pieces ++ [name.bytes] := by
  have hname := split_of_notMem name.proper.2.2.2
  rcases h with rfl | h
  · exact ⟨[], hname⟩
  · obtain ⟨front, rfl⟩ := List.getLast?_eq_some_iff.1 h
    refine ⟨split front, ?_⟩
    rw [List.append_assoc, List.singleton_append, split_append_slash, hname]

/-- A path whose last piece is a name ends with this name. -/
theorem fileName?_of_pieces {p : Path} {pieces : List (List UInt8)} {name : FileName}
    (h : p.pieces = pieces ++ [name.bytes]) : p.fileName? = some name := by
  have hlast : ∃ front, p.start.2 = front ++ [name.bytes] := by
    rw [start, h]
    cases pieces with
    | nil =>
      have hrel : p.isAbsolute = false := by
        rw [isAbsolute, beq_eq_false_iff_ne]
        intro habsolute
        obtain ⟨bytes, hbytes⟩ := List.head?_eq_some_iff.1 habsolute
        rw [Path.pieces, hbytes, split, if_pos rfl] at h
        exact name.proper.1 (List.cons.inj h).1.symm
      rw [List.nil_append, hrel]
      simp only [Bool.false_eq_true, if_false, if_neg name.proper.2.1]
      exact ⟨[], rfl⟩
    | cons piece pieces =>
      -- Whatever the path starts with takes up the first piece at most.
      simp only [List.cons_append]
      split
      · exact ⟨pieces, rfl⟩
      · split
        · exact ⟨pieces, rfl⟩
        · exact ⟨piece :: pieces, rfl⟩
  obtain ⟨front, hfront⟩ := hlast
  have hcomponents : p.components
      = (p.start.1.toList ++ front.filterMap Component.ofPiece?) ++ [.name name] := by
    rw [components, hfront, List.filterMap_append, List.append_assoc]
    simp [ofPiece?_bytes]
  rw [fileName?, hcomponents, List.getLast?_concat]

theorem isAbsolute_name (name : FileName) : ({ bytes := name.bytes } : Path).isAbsolute = false := by
  rw [isAbsolute, beq_eq_false_iff_ne]
  intro h
  exact name.proper.2.2.2 (List.mem_of_head? h)

/-- In front of the name of an entry is the path of its directory, and a slash
    unless it has one or is empty. -/
theorem bytes_child (p : Path) (name : FileName) :
    (p.child name).bytes
      = if p.bytes.isEmpty || p.bytes.getLast? == some slash then p.bytes ++ name.bytes
        else p.bytes ++ slash :: name.bytes := by
  rw [child, join, isAbsolute_name, if_neg Bool.false_ne_true]
  split <;> rfl

/-- The path of an entry ends with the name of the entry. -/
theorem fileName?_child (p : Path) (name : FileName) : (p.child name).fileName? = some name := by
  have hchild : ∃ front, (front = [] ∨ front.getLast? = some slash)
      ∧ (p.child name).bytes = front ++ name.bytes := by
    rw [bytes_child]
    split
    · rename_i h
      refine ⟨p.bytes, ?_, rfl⟩
      simpa using h
    · exact ⟨p.bytes ++ [slash], .inr List.getLast?_concat, by simp⟩
  obtain ⟨front, hfront, hbytes⟩ := hchild
  obtain ⟨pieces, hpieces⟩ := pieces_append_name hfront name
  exact fileName?_of_pieces (hbytes ▸ hpieces)

end Path

/-! ### Directories -/

namespace Tree

variable (t : Tree)

/-- The entries of a directory have different names. -/
theorem nodup_namesAt (place : Location) : (t.namesAt place).Nodup := by
  have hmap : t.namesAt place
      = (t.entries.map (·.1)).filterMap fun l => if l.dropLast = place then l.getLast? else none := by
    rw [List.filterMap_map]
    rfl
  rw [hmap]
  refine List.Nodup.filterMap ?_ t.distinct
  -- The directory and the name together are the place of the entry.
  intro a b name ha hb
  have eq_append {l : Location}
      (h : name ∈ if l.dropLast = place then l.getLast? else none) : l = place ++ [name] := by
    split at h
    · rename_i hl
      rw [← hl]
      exact (List.dropLast_append_getLast? _ h).symm
    · cases h
  rw [eq_append ha, eq_append hb]

theorem nodup_names (here : Location) (p : Path) : ((t.fileSystem here).names p).Nodup := by
  simp only [fileSystem]
  split
  · exact t.nodup_namesAt _
  · exact .nil

end Tree

end CatalogAudit
