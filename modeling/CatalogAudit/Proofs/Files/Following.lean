import CatalogAudit.Project.Sources
import CatalogAudit.Proofs.Files.Directories
import Mathlib.Data.List.Infix
import Mathlib.Data.Set.List

/-!
# Following paths

A piece that stands for no component leads from a directory to the same directory. So it does not
matter where such pieces stand in a path, unless it ends with one: behind the last name, a piece
asks for a directory. All of this holds with links on the way as well.

* `Path.steps`, `Path.SameSteps`: paths that differ in idle pieces only.
* `Tree.locate_child_congr`: such paths lead to the same entries of a directory.
* `Tree.locate_eq_ok_iff_of_sameSteps`: such paths lead to the same directories.
* `Path.map_components_ancestors`: the components of the ancestors of a path.
* `Path.Names`, `Path.Names.forall₂_ancestors`: the places that a path and its ancestors name.
-/

namespace CatalogAudit

/-! ### Steps -/

/-- The piece of a path that stands for a component. -/
def Component.piece : Component → List UInt8
  | root | current => []
  | parent => [dot, dot]
  | name n => n.bytes

namespace Path

theorem ofPiece?_of_isIdle {piece : List UInt8} (h : isIdle piece = true) :
    Component.ofPiece? piece = none := by
  rw [isIdle, Bool.or_eq_true, List.isEmpty_iff, beq_iff_eq] at h
  rcases h with rfl | rfl
  · exact ofPiece?_nil
  · exact ofPiece?_dot

/-- A piece without a slash that is not idle stands for a component. -/
theorem exists_ofPiece? {piece : List UInt8} (hslash : slash ∉ piece) (h : isIdle piece = false) :
    ∃ c, Component.ofPiece? piece = some c ∧ c.piece = piece := by
  rw [isIdle, Bool.or_eq_false_iff, List.isEmpty_eq_false_iff, beq_eq_false_iff_ne] at h
  by_cases hparent : piece = [dot, dot]
  · exact ⟨.parent, by rw [Component.ofPiece?, if_pos hparent], hparent.symm⟩
  · let name : FileName := ⟨piece, h.1, h.2, hparent, hslash⟩
    exact ⟨.name name, ofPiece?_bytes name, rfl⟩

/-- The pieces of a path that stand for components. -/
def steps (p : Path) : List (List UInt8) :=
  p.pieces.filter (!isIdle ·)

/-- The steps of a path are told by its components. -/
theorem filter_isIdle_eq {pieces : List (List UInt8)} (h : ∀ piece ∈ pieces, slash ∉ piece) :
    pieces.filter (!isIdle ·) = (pieces.filterMap Component.ofPiece?).map Component.piece := by
  induction pieces with
  | nil => rfl
  | cons piece pieces ih =>
    have ih := ih fun q hq => h q (List.mem_cons_of_mem piece hq)
    cases hidle : isIdle piece with
    | true =>
      rw [List.filter_cons_of_neg (by simp [hidle]),
        List.filterMap_cons_none (ofPiece?_of_isIdle hidle), ih]
    | false =>
      obtain ⟨c, hc, hpiece⟩ := exists_ofPiece? (h piece List.mem_cons_self) hidle
      rw [List.filter_cons_of_pos (by simp [hidle]), List.filterMap_cons_some hc, List.map_cons,
        hpiece, ih]

theorem steps_eq (p : Path) :
    p.steps = (p.pieces.filterMap Component.ofPiece?).map Component.piece :=
  filter_isIdle_eq fun _ => notMem_of_mem_split

/-- The paths go through the same steps from the same start. -/
structure SameSteps (p q : Path) : Prop where
  steps_eq : p.steps = q.steps
  isAbsolute_eq : p.isAbsolute = q.isAbsolute
  bytes_eq_nil_iff : p.bytes = [] ↔ q.bytes = []

theorem SameButEmpty.sameSteps {p q : Path} (h : p.SameButEmpty q) : p.SameSteps q where
  steps_eq := by
    have hsteps (p : Path) : p.steps = (p.pieces.filter (!·.isEmpty)).filter (!isIdle ·) := by
      rw [steps, List.filter_filter]
      refine List.filter_congr fun piece _ => ?_
      cases piece <;> simp [isIdle]
    rw [hsteps, hsteps, h.pieces_eq]
  isAbsolute_eq := h.isAbsolute_eq
  bytes_eq_nil_iff := h.bytes_eq_nil_iff

theorem bytes_ne_nil_of_isAbsolute {p : Path} (h : p.isAbsolute = true) : p.bytes ≠ [] := by
  intro hnil
  rw [isAbsolute, hnil] at h
  cases h

theorem isAbsolute_iff_components {p : Path} :
    p.isAbsolute = true ↔ p.components.head? = some .root := by
  have hnone : (p.pieces.filterMap Component.ofPiece?).head? ≠ some .root := by
    intro hroot
    obtain ⟨piece, -, hpiece⟩ := List.mem_filterMap.1 (List.mem_of_head? hroot)
    rw [Component.ofPiece?] at hpiece
    split at hpiece
    · cases hpiece
    · cases hname : FileName.ofBytes? piece <;> simp [hname] at hpiece
  rw [components_eq, start_fst]
  split
  · rename_i h
    simp [h]
  · rename_i h
    split
    · simp [h]
    · simpa [h] using hnone

theorem components_of_isAbsolute {p : Path} (h : p.isAbsolute = true) :
    p.components = .root :: p.pieces.filterMap Component.ofPiece? := by
  rw [components_eq, start_fst, if_pos h]
  rfl

/-- Absolute paths with the same components go through the same steps. -/
theorem sameSteps_of_components {p q : Path} (hp : p.isAbsolute = true)
    (h : p.components = q.components) : p.SameSteps q := by
  have hq : q.isAbsolute = true := isAbsolute_iff_components.2 (h ▸ isAbsolute_iff_components.1 hp)
  refine ⟨?_, hp.trans hq.symm, iff_of_false (bytes_ne_nil_of_isAbsolute hp)
    (bytes_ne_nil_of_isAbsolute hq)⟩
  rw [components_of_isAbsolute hp, components_of_isAbsolute hq] at h
  rw [p.steps_eq, q.steps_eq, (List.cons.inj h).2]

theorem SameSteps.symm {p q : Path} (h : p.SameSteps q) : q.SameSteps p where
  steps_eq := h.steps_eq.symm
  isAbsolute_eq := h.isAbsolute_eq.symm
  bytes_eq_nil_iff := h.bytes_eq_nil_iff.symm

theorem SameSteps.components_eq {p q : Path} (h : p.SameSteps q) (hp : p.isAbsolute = true) :
    p.components = q.components := by
  have hsteps (p : Path) : p.pieces.filterMap Component.ofPiece?
      = p.steps.filterMap Component.ofPiece? := by
    rw [steps, List.filterMap_filter]
    refine List.filterMap_congr fun piece _ => ?_
    cases hidle : isIdle piece with
    | true => simp [ofPiece?_of_isIdle hidle]
    | false => simp
  rw [components_of_isAbsolute hp, components_of_isAbsolute (h.isAbsolute_eq ▸ hp), hsteps, hsteps,
    h.steps_eq]

theorem SameSteps.contains_zero_eq {p q : Path} (h : p.SameSteps q) :
    p.bytes.contains 0 = q.bytes.contains 0 := by
  have hsteps (p : Path) : p.bytes.contains 0 = true ↔ ∃ piece ∈ p.steps, 0 ∈ piece := by
    rw [List.contains_iff_mem, mem_iff_exists_mem_split (by decide)]
    refine exists_congr fun piece => ?_
    rw [steps, List.mem_filter]
    refine ⟨fun ⟨hmem, hzero⟩ => ⟨⟨hmem, ?_⟩, hzero⟩, fun ⟨⟨hmem, _⟩, hzero⟩ => ⟨hmem, hzero⟩⟩
    rw [Bool.not_eq_true', isIdle, Bool.or_eq_false_iff, List.isEmpty_eq_false_iff,
      beq_eq_false_iff_ne]
    refine ⟨List.ne_nil_of_mem hzero, ?_⟩
    rintro rfl
    exact absurd hzero (by decide)
  rw [Bool.eq_iff_iff, hsteps, hsteps, h.steps_eq]

/-- The pieces of the path of an entry, without the idle ones in front of its name. -/
theorem exists_pieces_child (p : Path) (name : FileName) :
    ∃ front, (p.child name).pieces = front ++ [name.bytes]
      ∧ front.filter (!isIdle ·) = p.steps := by
  by_cases h : p.bytes = []
  · refine ⟨[], ?_, ?_⟩
    · rw [pieces, bytes_child, h]
      exact split_of_notMem name.proper.2.2.2
    · rw [steps, pieces, h]
      rfl
  · obtain ⟨front, hfront, hpieces⟩ := pieces_child h name
    refine ⟨front, hpieces, ?_⟩
    rcases hfront with hfront | hfront
    · rw [steps, hfront]
    · rw [steps, hfront, List.filter_append, List.filter_cons_of_neg (by decide), List.filter_nil,
        List.append_nil]

end Path

/-! ### Pieces that lead nowhere -/

namespace Tree

variable {t : Tree} {here place : Location} {p q : Path} {xs ys : List (List UInt8)}

/-- What two ways have in common behind any place, they have in common behind the same pieces in
    front of them. The induction is on the links first, as a link puts more pieces in front. -/
theorem follow_append {R : Except FileFault Location → Except FileFault Location → Prop}
    (hfault : ∀ fault, R (.error fault) (.error fault))
    (h : ∀ links next, R (t.follow links next xs) (t.follow links next ys))
    (links : Nat) (place : Location) (front : List (List UInt8)) :
    R (t.follow links place (front ++ xs)) (t.follow links place (front ++ ys)) := by
  induction links using Nat.strongRecOn generalizing place front with
  | ind links fewer =>
  induction front generalizing place with
  | nil => exact h links place
  | cons piece front ih =>
    rw [List.cons_append, List.cons_append, follow, follow]
    by_cases hplace : t.at? place ≠ some .directory
    · rw [if_pos hplace, if_pos hplace]
      exact hfault _
    rw [if_neg hplace, if_neg hplace]
    rcases Component.ofPiece? piece with _ | _ | _ | _ | name
    case some.name =>
      simp only
      by_cases hlong : greatestNameLength < name.bytes.length
      · rw [if_pos hlong, if_pos hlong]
        exact hfault _
      rw [if_neg hlong, if_neg hlong]
      rcases t.at? (place ++ [name]) with _ | content | _ | target
      case none => exact hfault _
      case some.link =>
        cases links with
        | zero => exact hfault _
        | succ links =>
          simp only [← List.append_assoc]
          exact fewer links (Nat.lt_succ_self links) _ _
      all_goals exact ih _
    all_goals exact ih _

/-- In front of another piece, an idle piece leads nowhere. -/
theorem follow_idle {piece : List UInt8} (h : Path.isIdle piece = true) (hne : xs ≠ [])
    (links : Nat) (place : Location) :
    t.follow links place (piece :: xs) = t.follow links place xs := by
  obtain ⟨next, xs, rfl⟩ := List.exists_cons_of_ne_nil hne
  rw [follow, Path.ofPiece?_of_isIdle h]
  by_cases hplace : t.at? place ≠ some .directory
  · rw [if_pos hplace, follow, if_pos hplace]
  · rw [if_neg hplace]

theorem follow_filter_isIdle (hne : xs ≠ []) (links : Nat) (place : Location)
    (front : List (List UInt8)) :
    t.follow links place (front.filter (!Path.isIdle ·) ++ xs)
      = t.follow links place (front ++ xs) := by
  induction front generalizing links place with
  | nil => rfl
  | cons piece front ih =>
    cases hidle : Path.isIdle piece with
    | true =>
      rw [List.filter_cons_of_neg (by simp [hidle]), ih, List.cons_append,
        follow_idle hidle (List.append_ne_nil_of_right_ne_nil _ hne)]
    | false =>
      rw [List.filter_cons_of_pos (by simp [hidle])]
      exact follow_append (fun _ => rfl) ih links place [piece]

/-- An empty piece at the end asks for a directory. -/
theorem follow_append_empty (hplace : t.at? place = some .directory) (links : Nat)
    (start : Location) (front : List (List UInt8)) :
    t.follow links start (front ++ [[]]) = .ok place ↔ t.follow links start front = .ok place := by
  have hend (links : Nat) (next : Location) :
      t.follow links next [[]] = .ok place ↔ t.follow links next [] = .ok place := by
    have hnil : t.follow links next [] = .ok next := by rw [follow]
    rw [hnil, follow, Path.ofPiece?_nil, hnil]
    by_cases hnext : t.at? next ≠ some .directory
    · rw [if_pos hnext]
      refine iff_of_false (fun h => by cases h) fun h => hnext ?_
      rw [Except.ok.inj h, hplace]
    · rw [if_neg hnext]
  have hall := follow_append (R := fun x y => x = .ok place ↔ y = .ok place) (fun _ => Iff.rfl) hend
    links start front
  rwa [List.append_nil] at hall

/-- Idle pieces change nothing on the way to a directory. -/
theorem follow_filter_isIdle_eq_ok_iff (hplace : t.at? place = some .directory) (links : Nat)
    (start : Location) (pieces : List (List UInt8)) :
    t.follow links start (pieces.filter (!Path.isIdle ·)) = .ok place
      ↔ t.follow links start pieces = .ok place := by
  rw [← follow_append_empty hplace, follow_filter_isIdle (List.cons_ne_nil _ _),
    follow_append_empty hplace]

/-- Paths of the same steps lead to the same entries of a directory. -/
theorem locate_child_congr (h : p.SameSteps q) (here : Location) (name : FileName) :
    t.locate here (p.child name) = t.locate here (q.child name) := by
  have hempty (p : Path) : (p.child name).bytes.isEmpty = false :=
    List.isEmpty_eq_false_iff.2 (p.bytes_child_ne_nil name)
  have habsolute : (p.child name).isAbsolute = (q.child name).isAbsolute := by
    by_cases hp : p.bytes = []
    · rw [Path.isAbsolute, Path.isAbsolute, Path.bytes_child, Path.bytes_child, hp,
        h.bytes_eq_nil_iff.1 hp]
    · rw [Path.isAbsolute_child hp, Path.isAbsolute_child fun hq => hp (h.bytes_eq_nil_iff.2 hq),
        h.isAbsolute_eq]
  obtain ⟨front, hfront, hsteps⟩ := p.exists_pieces_child name
  obtain ⟨front', hfront', hsteps'⟩ := q.exists_pieces_child name
  rw [locate, locate, hempty, hempty, Path.contains_zero_child, Path.contains_zero_child,
    h.contains_zero_eq, habsolute, hfront, hfront', ← follow_filter_isIdle (List.cons_ne_nil _ _),
    hsteps, h.steps_eq, ← hsteps', follow_filter_isIdle (List.cons_ne_nil _ _)]

theorem find_child_congr (h : p.SameSteps q) (here : Location) (name : FileName) :
    t.find here (p.child name) = t.find here (q.child name) := by
  rw [find, find, locate_child_congr h]

/-- Paths of the same steps lead to the same directories. -/
theorem locate_eq_ok_iff_of_sameSteps (h : p.SameSteps q)
    (hplace : t.at? place = some .directory) :
    t.locate here p = .ok place ↔ t.locate here q = .ok place := by
  have hempty : p.bytes.isEmpty = q.bytes.isEmpty := by
    rw [Bool.eq_iff_iff, List.isEmpty_iff, List.isEmpty_iff]
    exact h.bytes_eq_nil_iff
  rw [locate, locate, hempty, h.contains_zero_eq, h.isAbsolute_eq]
  split
  · rfl
  · split
    · rfl
    · rw [← follow_filter_isIdle_eq_ok_iff hplace, ← follow_filter_isIdle_eq_ok_iff hplace _ _
        q.pieces]
      exact iff_of_eq (congrArg (fun steps => t.follow _ _ steps = .ok place) h.steps_eq)

end Tree

/-! ### Where markup files are looked for -/

/-- A path that is text is looked up by the same steps. -/
theorem Sources.sameSteps_lookupDirectory {directory : Path} {text : String}
    (htext : Utf8.decode? directory.bytes = some text) :
    (lookupDirectory directory).SameSteps directory := by
  have hsame : Path.ofText directory.text = directory := by
    rw [Path.text, Utf8.lossy_of_decode? htext, Path.ofText, ← Utf8.eq_encode_of_decode? htext]
  rw [lookupDirectory, hsame]
  exact directory.sameButEmpty_resume.sameSteps

/-! ### The components of ancestors -/

namespace Path

theorem components_resume {pieces : List (List UInt8)} (h : ∀ piece ∈ pieces, slash ∉ piece) :
    (resume (some .root) pieces).components = .root :: pieces.filterMap Component.ofPiece? := by
  rw [components_of_isAbsolute rfl, Path.pieces, resume, split, if_pos rfl,
    List.filterMap_cons_none ofPiece?_nil]
  by_cases hne : pieces = []
  · subst hne
    rfl
  · rw [split_unsplit hne h]

/-- Of the components behind the root fewer and fewer are left. -/
theorem map_components_above {pieces : List (List UInt8)} (h : ∀ piece ∈ pieces, slash ∉ piece) :
    (above (some .root) pieces).map components
      = ((pieces.reverse.filterMap Component.ofPiece?).inits.reverse).map (.root :: ·) := by
  induction pieces with
  | nil => rfl
  | cons piece pieces ih =>
    have ih := ih fun q hq => h q (List.mem_cons_of_mem piece hq)
    rw [above]
    cases hidle : isIdle piece with
    | true => simpa [ofPiece?_of_isIdle hidle] using ih
    | false =>
      obtain ⟨c, hc, -⟩ := exists_ofPiece? (h piece List.mem_cons_self) hidle
      have hfirst : (resume (some .root) (piece :: pieces).reverse).components
          = .root :: (pieces.reverse.filterMap Component.ofPiece? ++ [c]) := by
        rw [components_resume fun q hq => h q (List.mem_reverse.1 hq)]
        simp [hc]
      rw [if_neg Bool.false_ne_true, List.map_cons, hfirst, ih]
      simp [hc, List.inits_append]

/-- The components of an absolute path and of its ancestors, from one to the next. -/
theorem map_components_ancestors {p : Path} (h : p.isAbsolute = true) :
    (p :: p.ancestors).map components
      = (p.pieces.filterMap Component.ofPiece?).inits.reverse.map (.root :: ·) := by
  have hfree : ∀ piece ∈ p.start.2, slash ∉ piece := by
    intro piece hpiece
    obtain ⟨first, rest, hpieces, -⟩ := p.exists_pieces
    rw [start, hpieces, h] at hpiece
    exact notMem_of_mem_split (hpieces ▸ List.mem_cons_of_mem first hpiece)
  have hstart : p.start.1 = some .root := by rw [start_fst, if_pos h]
  rw [List.map_cons, components_of_isAbsolute h, ancestors, hstart, ← filterMap_start]
  -- Idle pieces at the end stand for nothing and go together with the last component.
  have hidle : (p.start.2.reverse.takeWhile isIdle).reverse.filterMap Component.ofPiece? = [] :=
    List.filterMap_eq_nil_iff.2 fun piece hpiece =>
      ofPiece?_of_isIdle (List.mem_takeWhile_imp (List.mem_reverse.1 hpiece))
  have hsplit : p.start.2 = (p.start.2.reverse.dropWhile isIdle).reverse
      ++ (p.start.2.reverse.takeWhile isIdle).reverse := by
    rw [← List.reverse_append, List.takeWhile_append_dropWhile, List.reverse_reverse]
  have hcomponents : p.start.2.filterMap Component.ofPiece?
      = (p.start.2.reverse.dropWhile isIdle).reverse.filterMap Component.ofPiece? := by
    rw [hsplit, List.filterMap_append, hidle, List.append_nil, ← hsplit]
  rw [hcomponents]
  cases hrest : p.start.2.reverse.dropWhile isIdle with
  | nil => rfl
  | cons last pieces =>
    have hmem : ∀ piece ∈ last :: pieces, slash ∉ piece := fun piece hpiece =>
      hfree piece (List.mem_reverse.1 ((List.dropWhile_sublist isIdle).subset (hrest ▸ hpiece)))
    have hlast : isIdle last = false := by
      have hnot := List.head_dropWhile_not isIdle (l := p.start.2.reverse) (by simp [hrest])
      simpa [hrest] using hnot
    obtain ⟨c, hc, -⟩ := exists_ofPiece? (hmem last List.mem_cons_self) hlast
    rw [map_components_above fun piece hpiece => hmem piece (List.mem_cons_of_mem last hpiece)]
    simp [hc, List.inits_append]

/-! ### Paths that name a place -/

/-- The path goes from the root to the place, name by name. -/
def Names (p : Path) (place : Location) : Prop :=
  p.components = .root :: place.map .name

variable {p q : Path} {place : Location}

theorem Names.isAbsolute (h : p.Names place) : p.isAbsolute = true :=
  isAbsolute_iff_components.2 (by rw [h]; rfl)

theorem Names.sameSteps (hp : p.Names place) (hq : q.Names place) : p.SameSteps q :=
  sameSteps_of_components hp.isAbsolute (hp.trans hq.symm)

theorem Names.child (h : p.Names place) (name : FileName) :
    (p.child name).Names (place ++ [name]) := by
  rw [Names, components_child, h, List.map_append]
  rfl

/-- A path names one place only. -/
theorem Names.unique {other : Location} (h : p.Names place) (h' : p.Names other) :
    place = other := by
  have hnames := (List.cons.inj (h.symm.trans h')).2
  exact List.map_injective_iff.2 (fun _ _ => Component.name.inj) hnames

/-- An absolute path that never goes back names the place that it leads to. -/
theorem names_place (habsolute : p.isAbsolute = true) (hparent : .parent ∉ p.components)
    (here : Location) : p.Names (p.place here) := by
  have hcomponents := components_of_isAbsolute habsolute
  have hnames : ∀ c ∈ p.pieces.filterMap Component.ofPiece?, ∃ name, .name name = c := by
    intro c hc
    obtain ⟨piece, -, hpiece⟩ := List.mem_filterMap.1 hc
    rw [Component.ofPiece?] at hpiece
    split at hpiece
    · refine absurd ?_ hparent
      rw [hcomponents, Option.some.inj hpiece]
      exact List.mem_cons_of_mem _ hc
    · obtain ⟨name, -, hname⟩ := Option.map_eq_some_iff.1 hpiece
      exact ⟨name, hname⟩
  obtain ⟨names, hsame⟩ : p.pieces.filterMap Component.ofPiece? ∈ Set.range (List.map .name) :=
    Set.range_list_map Component.name ▸ hnames
  have hplace : p.place here = names := by
    rw [place_eq, if_pos habsolute, ← hsame]
    exact Location.foldl_step [] names
  rw [Names, hplace, hsame]
  exact hcomponents

/-- A path and its ancestors name the place and the places above it, in order. -/
theorem Names.forall₂_ancestors (h : p.Names place) :
    List.Forall₂ Names (p :: p.ancestors) place.inits.reverse := by
  have hcomponents := map_components_ancestors h.isAbsolute
  have hplace : p.pieces.filterMap Component.ofPiece? = place.map .name :=
    (List.cons.inj ((components_of_isAbsolute h.isAbsolute).symm.trans h)).2
  rw [hplace, List.map_inits, ← List.map_reverse, List.map_map] at hcomponents
  rw [← List.forall₂_eq_eq_eq, List.forall₂_map_left_iff, List.forall₂_map_right_iff]
    at hcomponents
  exact hcomponents

/-- Above a place are the places that its names lead through. -/
theorem inits_concat_reverse (place : Location) (name : FileName) :
    (place ++ [name]).inits.reverse = (place ++ [name]) :: place.inits.reverse := by
  simp [List.inits_append]

theorem exists_inits_reverse (place : Location) :
    ∃ above, place.inits.reverse = place :: above := by
  induction place using List.reverseRecOn with
  | nil => exact ⟨[], rfl⟩
  | append_singleton place name _ => exact ⟨_, inits_concat_reverse place name⟩

/-- The parent of the path of an entry names the directory. -/
theorem Names.exists_parent? {name : FileName} (h : p.Names (place ++ [name])) :
    ∃ parent, p.parent? = some parent ∧ parent.Names place := by
  have hall := h.forall₂_ancestors
  obtain ⟨above, habove⟩ := exists_inits_reverse place
  rw [inits_concat_reverse, habove] at hall
  obtain ⟨-, hrest⟩ := List.forall₂_cons.1 hall
  obtain ⟨parent, others, hparent, -, hancestors⟩ := List.forall₂_cons_right_iff.1 hrest
  exact ⟨parent, by rw [parent?, hancestors]; rfl, hparent⟩

end Path

/-- The path of a place names it. -/
theorem Location.names_path (place : Location) : place.path.Names place := by
  by_cases h : place = []
  · subst h
    have hroot : (path []).components = [.root] := by decide
    exact hroot
  · rw [Path.Names, Path.components_of_isAbsolute rfl, pieces_path h,
      List.filterMap_cons_none Path.ofPiece?_nil, filterMap_ofPiece?]

end CatalogAudit
