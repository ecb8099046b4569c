import CatalogAudit.Proofs.Files.Changes

/-!
# Paths of directories

A path without its empty pieces differs from the path in these pieces only. The path of a
place is made of the names that lead to it, and its ancestors are the paths of the places
above.

* `Path.split_unsplit`: the pieces that a path is made of.
* `Path.sameButEmpty_resume`: what is left of a path without its empty pieces.
* `Location.place_path`, `Location.exists_of_mem_ancestors`: the path of a place.
-/

namespace CatalogAudit

namespace Path

/-! ### Pieces -/

theorem notMem_of_mem_split {bytes piece : List UInt8} (h : piece ∈ split bytes) :
    slash ∉ piece := by
  induction bytes generalizing piece with
  | nil =>
    obtain rfl := List.mem_singleton.1 h
    exact List.not_mem_nil
  | cons b bytes ih =>
    by_cases hb : b = slash
    · rw [split, if_pos hb] at h
      rcases List.mem_cons.1 h with rfl | h
      · exact List.not_mem_nil
      · exact ih h
    · obtain ⟨first, rest, hs, hcons⟩ := split_cons_of_ne hb bytes
      rw [hs] at ih
      rw [hcons] at h
      rcases List.mem_cons.1 h with rfl | h
      · exact List.not_mem_cons_of_ne_of_not_mem (Ne.symm hb) (ih List.mem_cons_self)
      · exact ih (List.mem_cons_of_mem first h)

/-- A byte that separates nothing stands in one of the pieces. -/
theorem mem_iff_exists_mem_split {b : UInt8} (hb : b ≠ slash) {bytes : List UInt8} :
    b ∈ bytes ↔ ∃ piece ∈ split bytes, b ∈ piece := by
  induction bytes with
  | nil => simp [split]
  | cons c bytes ih =>
    by_cases hc : c = slash
    · rw [split, if_pos hc, List.mem_cons, ih]
      simp [hc, hb]
    · obtain ⟨first, rest, hs, hcons⟩ := split_cons_of_ne hc bytes
      rw [hs] at ih
      rw [hcons, List.mem_cons, ih]
      simp [or_assoc]

/-- Pieces without a slash are the pieces of what they make up. -/
theorem split_unsplit {pieces : List (List UInt8)} (hne : pieces ≠ [])
    (h : ∀ piece ∈ pieces, slash ∉ piece) : split (unsplit pieces) = pieces := by
  induction pieces with
  | nil => exact absurd rfl hne
  | cons piece rest ih =>
    have hpiece := split_of_notMem (h piece List.mem_cons_self)
    cases rest with
    | nil => simpa [unsplit] using hpiece
    | cons next rest =>
      have hcons : unsplit (piece :: next :: rest) = piece ++ slash :: unsplit (next :: rest) := by
        simp [unsplit, List.intercalate_cons_cons]
      rw [hcons, split_append_slash, hpiece,
        ih (List.cons_ne_nil _ _) fun q hq => h q (List.mem_cons_of_mem piece hq)]
      rfl

/-! ### Empty pieces -/

/-- The paths differ in empty pieces only. -/
structure SameButEmpty (p q : Path) : Prop where
  pieces_eq : p.pieces.filter (!·.isEmpty) = q.pieces.filter (!·.isEmpty)
  isAbsolute_eq : p.isAbsolute = q.isAbsolute
  bytes_eq_nil_iff : p.bytes = [] ↔ q.bytes = []

/-- A path that begins with a piece that is not empty is neither absolute nor empty. -/
theorem isAbsolute_eq_false_of_pieces {p : Path} {piece : List UInt8}
    {rest : List (List UInt8)} (h : p.pieces = piece :: rest) (hne : piece ≠ []) :
    p.isAbsolute = false ∧ p.bytes ≠ [] := by
  obtain ⟨first, behind, hpieces, habsolute⟩ := p.exists_pieces
  obtain ⟨rfl, -⟩ := List.cons.inj (h.symm.trans hpieces)
  refine ⟨Bool.eq_false_iff.2 fun ha => hne (habsolute ha), fun hbytes => ?_⟩
  rw [pieces, hbytes, split] at h
  exact hne (List.cons.inj h).1.symm

/-- A path that is neither absolute nor empty begins with a piece that is not empty. -/
theorem ne_nil_of_pieces {p : Path} {piece : List UInt8} {rest : List (List UInt8)}
    (h : p.pieces = piece :: rest) (habsolute : p.isAbsolute = false) (hne : p.bytes ≠ []) :
    piece ≠ [] := by
  obtain ⟨b, bytes, hbytes⟩ := List.exists_cons_of_ne_nil hne
  have hb : b ≠ slash := by
    rintro rfl
    rw [isAbsolute, hbytes] at habsolute
    cases habsolute
  obtain ⟨first, behind, -, hcons⟩ := split_cons_of_ne hb bytes
  rw [pieces, hbytes, hcons] at h
  exact (List.cons.inj h).1 ▸ List.cons_ne_nil b first

section Filtered

variable (p : Path)

theorem notMem_of_mem_filter : ∀ piece ∈ p.pieces.filter (!·.isEmpty), slash ∉ piece :=
  fun _ hpiece => notMem_of_mem_split (List.mem_filter.1 hpiece).1

/-- The pieces of what the pieces that are not empty make up. -/
theorem filter_split_unsplit :
    (split (unsplit (p.pieces.filter (!·.isEmpty)))).filter (!·.isEmpty)
      = p.pieces.filter (!·.isEmpty) := by
  by_cases hpieces : p.pieces.filter (!·.isEmpty) = []
  · rw [hpieces]
    rfl
  · rw [split_unsplit hpieces p.notMem_of_mem_filter, List.filter_filter]
    simp

variable {p} {q : Path}

/-- Without a slash at the start, the pieces that are not empty make up the path but for
    empty pieces. -/
theorem sameButEmpty_of_bytes (ha : p.isAbsolute = false)
    (hq : q.bytes = unsplit (p.pieces.filter (!·.isEmpty))) : q.SameButEmpty p := by
  have hpieces : q.pieces.filter (!·.isEmpty) = p.pieces.filter (!·.isEmpty) := by
    rw [pieces, hq, filter_split_unsplit]
  by_cases hbytes : p.bytes = []
  · have hnil : q.bytes = [] := by
      rw [hq, pieces, hbytes]
      rfl
    exact ⟨hpieces, by rw [ha, isAbsolute, hnil]; rfl, iff_of_true hnil hbytes⟩
  · obtain ⟨piece, rest, hp, -⟩ := p.exists_pieces
    have hne := ne_nil_of_pieces hp ha hbytes
    have hfirst : q.pieces = piece :: rest.filter (!·.isEmpty) := by
      have hcons : p.pieces.filter (!·.isEmpty) = piece :: rest.filter (!·.isEmpty) := by
        rw [hp, List.filter_cons_of_pos (by simpa using hne)]
      have hfree := p.notMem_of_mem_filter
      rw [hcons] at hq hfree
      rw [pieces, hq, split_unsplit (List.cons_ne_nil _ _) hfree]
    obtain ⟨hrelative, hq'⟩ := isAbsolute_eq_false_of_pieces hfirst hne
    exact ⟨hpieces, hrelative.trans ha.symm, iff_of_false hq' hbytes⟩

/-- What is left of a path without its empty pieces. -/
theorem sameButEmpty_resume (p : Path) :
    (resume p.start.1 (p.start.2.filter (!·.isEmpty))).SameButEmpty p := by
  obtain ⟨piece, rest, hpieces, habsolute⟩ := p.exists_pieces
  rw [start, hpieces]
  simp only
  split
  · rename_i ha
    obtain rfl := habsolute ha
    have hrest : p.pieces.filter (!·.isEmpty) = rest.filter (!·.isEmpty) := by
      rw [hpieces, List.filter_cons_of_neg (by simp)]
    have hne : p.bytes ≠ [] := fun hbytes => by
      rw [isAbsolute, hbytes] at ha
      cases ha
    refine ⟨?_, ha ▸ rfl, by simp [resume, hne]⟩
    rw [← hrest, pieces, resume, split, if_pos rfl, List.filter_cons_of_neg (by simp),
      filter_split_unsplit]
  · rename_i ha
    refine sameButEmpty_of_bytes (Bool.eq_false_iff.2 ha) ?_
    rw [hpieces]
    split
    · -- The dot at the start is a piece like the others.
      rename_i hdot
      rw [hdot, List.filter_cons_of_pos (by simp)]
      cases rest.filter (!·.isEmpty) <;> rfl
    · rfl

end Filtered

end Path

/-! ### The path of a place -/

namespace Location

theorem pieces_path {place : Location} (h : place ≠ []) :
    place.path.pieces = [] :: place.map (·.bytes) := by
  have hfree : ∀ piece ∈ place.map (·.bytes), slash ∉ piece := by
    intro piece hpiece
    obtain ⟨name, -, rfl⟩ := List.mem_map.1 hpiece
    exact name.proper.2.2.2
  rw [Path.pieces, path, Path.split, if_pos rfl,
    Path.split_unsplit (by simpa using h) hfree]

theorem filterMap_ofPiece? (names : List FileName) :
    (names.map (·.bytes)).filterMap Component.ofPiece? = names.map .name := by
  rw [List.filterMap_map, ← List.filterMap_eq_map]
  exact List.filterMap_congr fun name _ => Path.ofPiece?_bytes name

theorem foldl_step (place names : Location) :
    (names.map Component.name).foldl step place = place ++ names := by
  induction names generalizing place with
  | nil => simp
  | cons name names ih =>
    rw [List.map_cons, List.foldl_cons, ih, step, List.append_assoc]
    rfl

/-- The path of a place names this place. -/
theorem place_path (here place : Location) : place.path.place here = place := by
  by_cases h : place = []
  · subst h
    rfl
  · rw [Path.place_eq, pieces_path h, List.filterMap_cons_none Path.ofPiece?_nil,
      filterMap_ofPiece?, foldl_step]
    rfl

theorem isIdle_bytes (name : FileName) : Path.isIdle name.bytes = false := by
  simp [Path.isIdle, name.proper.1, name.proper.2.1]

/-- Fewer and fewer names make up the paths of the places above. -/
theorem exists_of_mem_above {names : List FileName} {q : Path}
    (h : q ∈ Path.above (some .root) (names.map (·.bytes))) :
    ∃ above : Location, above <+: names.reverse ∧ q = above.path := by
  induction names with
  | nil =>
    obtain rfl := List.mem_singleton.1 h
    exact ⟨[], List.prefix_rfl, rfl⟩
  | cons name names ih =>
    rw [List.map_cons, Path.above, if_neg (by simp [isIdle_bytes])] at h
    rcases List.mem_cons.1 h with rfl | h
    · refine ⟨(name :: names).reverse, List.prefix_rfl, ?_⟩
      rw [path, List.map_reverse]
      rfl
    · obtain ⟨above, habove, rfl⟩ := ih h
      refine ⟨above, habove.trans ?_, rfl⟩
      rw [List.reverse_cons]
      exact List.prefix_append _ _

/-- The ancestors of the path of a place are the paths of places above it. -/
theorem exists_of_mem_ancestors {place : Location} {q : Path} (h : q ∈ place.path.ancestors) :
    ∃ above : Location, above <+: place ∧ q = above.path := by
  have hstart : place.path.start = (some .root, place.path.pieces.tail) := by
    obtain ⟨piece, rest, hpieces, -⟩ := place.path.exists_pieces
    have habsolute : place.path.isAbsolute = true := rfl
    rw [Path.start, hpieces]
    simp [habsolute]
  rw [Path.ancestors, hstart] at h
  induction place using List.reverseRecOn with
  | nil => cases h
  | append_singleton front name _ =>
    have hlast : ((front ++ [name]).map (·.bytes)).reverse.dropWhile Path.isIdle
        = name.bytes :: front.reverse.map (·.bytes) := by
      rw [List.map_append, List.reverse_append, List.map_reverse]
      exact List.dropWhile_cons_of_neg (by simp [isIdle_bytes])
    rw [pieces_path (by simp), List.tail_cons, hlast] at h
    obtain ⟨above, habove, rfl⟩ := exists_of_mem_above h
    rw [List.reverse_reverse] at habove
    exact ⟨above, habove.trans (List.prefix_append _ _), rfl⟩

end Location

end CatalogAudit
