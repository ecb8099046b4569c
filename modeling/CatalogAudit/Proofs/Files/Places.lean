import CatalogAudit.Proofs.Files.Names
import Mathlib.Data.List.Induction

/-!
# The places that paths name

Without links a path can be followed without looking at the files: its
components say step by step where it goes, and the files only decide whether it
gets there.

* `Path.components_child`: the components of the path of an entry.
* `Path.place`: the place that a path names.
* `Tree.IsPlain`: there are no links in a tree.
* `Tree.place_of_locate`: what a path leads to is what it names.
* `Tree.mem_names_iff`, `Tree.mem_filesBelow_run_iff`: what is in a directory and below it.
* `Tree.locate_child`: how to get to an entry of a directory.
-/

namespace CatalogAudit

theorem bind_eq_ok_iff {ε α β : Type} {x : Except ε α} {f : α → Except ε β} {b : β} :
    (x >>= f) = .ok b ↔ ∃ a, x = .ok a ∧ f a = .ok b := by
  cases x <;> simp [bind, Except.bind]

/-- Where a component leads from a place. -/
def Location.step (place : Location) : Component → Location
  | .root => []
  | .current => place
  | .parent => place.dropLast
  | .name n => place ++ [n]

/-- Whether an entry is a link. -/
def Entry.isLink : Entry → Bool
  | .link _ => true
  | _ => false

/-! ### Paths -/

namespace Path

/-- The place that a path names, seen from the directory `here`. -/
def place (here : Location) (p : Path) : Location :=
  p.components.foldl Location.step here

theorem split_ne_nil (bytes : List UInt8) : split bytes ≠ [] := by
  cases bytes with
  | nil => simp [split]
  | cons b bytes =>
    by_cases hb : b = slash
    · simp [split, hb]
    · obtain ⟨piece, rest, -, hcons⟩ := split_cons_of_ne hb bytes
      simp [hcons]

/-- The pieces of a path; an absolute path begins with an empty one. -/
theorem exists_pieces (p : Path) :
    ∃ piece rest, p.pieces = piece :: rest ∧ (p.isAbsolute = true → piece = []) := by
  obtain ⟨piece, rest, h⟩ := List.exists_cons_of_ne_nil (split_ne_nil p.bytes)
  refine ⟨piece, rest, h, fun habsolute => ?_⟩
  rw [isAbsolute, beq_iff_eq, List.head?_eq_some_iff] at habsolute
  obtain ⟨bytes, hbytes⟩ := habsolute
  rw [hbytes, split, if_pos rfl] at h
  exact (List.cons.inj h).1.symm

theorem ofPiece?_nil : Component.ofPiece? [] = none := by decide

theorem ofPiece?_dot : Component.ofPiece? [dot] = none := by decide

/-- The start of a path takes up a piece that stands for nothing. -/
theorem filterMap_start (p : Path) :
    p.start.2.filterMap Component.ofPiece? = p.pieces.filterMap Component.ofPiece? := by
  obtain ⟨piece, rest, h, habsolute⟩ := p.exists_pieces
  rw [start, h]
  simp only
  split
  · rename_i ha
    rw [habsolute ha, List.filterMap_cons_none ofPiece?_nil]
  · split
    · rename_i hdot
      rw [hdot, List.filterMap_cons_none ofPiece?_dot]
    · rfl

theorem components_eq (p : Path) :
    p.components = p.start.1.toList ++ p.pieces.filterMap Component.ofPiece? := by
  rw [components, filterMap_start]

/-- A path goes through its pieces, from the root if it is absolute. -/
theorem place_eq (here : Location) (p : Path) :
    p.place here = (p.pieces.filterMap Component.ofPiece?).foldl Location.step
      (if p.isAbsolute then [] else here) := by
  rw [place, components_eq, List.foldl_append]
  congr 1
  obtain ⟨piece, rest, h, -⟩ := p.exists_pieces
  rw [start, h]
  simp only
  split
  · rfl
  · split <;> rfl

/-- The pieces of the path of an entry are those of the directory, without an
    empty one at the end, and the name. -/
theorem pieces_child {p : Path} (h : p.bytes ≠ []) (name : FileName) :
    ∃ front, (p.pieces = front ∨ p.pieces = front ++ [[]])
      ∧ (p.child name).pieces = front ++ [name.bytes] := by
  have hname := split_of_notMem name.proper.2.2.2
  have hempty : p.bytes.isEmpty = false := List.isEmpty_eq_false_iff.2 h
  have hbytes := bytes_child p name
  rw [hempty, Bool.false_or] at hbytes
  split at hbytes
  · rename_i hslash
    obtain ⟨front, hfront⟩ := List.getLast?_eq_some_iff.1 (beq_iff_eq.1 hslash)
    refine ⟨split front, .inr ?_, ?_⟩
    · rw [pieces, hfront, split_append_slash]
      rfl
    · rw [pieces, hbytes, hfront, List.append_assoc, List.singleton_append, split_append_slash,
        hname]
  · refine ⟨p.pieces, .inl rfl, ?_⟩
    rw [pieces, hbytes, split_append_slash, hname, pieces]

theorem bytes_child_ne_nil (p : Path) (name : FileName) : (p.child name).bytes ≠ [] := by
  rw [bytes_child]
  split <;> simp [name.proper.1]

theorem isAbsolute_child {p : Path} (h : p.bytes ≠ []) (name : FileName) :
    (p.child name).isAbsolute = p.isAbsolute := by
  obtain ⟨b, bytes, hbytes⟩ := List.exists_cons_of_ne_nil h
  rw [isAbsolute, isAbsolute, bytes_child]
  split <;> simp [hbytes]

theorem contains_zero_child (p : Path) (name : FileName) :
    (p.child name).bytes.contains 0 = (p.bytes.contains 0 || name.bytes.contains 0) := by
  have hslash : ((0 : UInt8) == slash) = false := by decide
  rw [bytes_child]
  split
  · rw [List.contains_append]
  · rw [List.contains_append, List.contains_cons, hslash, Bool.false_or]

/-- The pieces of the path of an entry further below. -/
theorem pieces_foldl_child {p : Path} {front : List (List UInt8)} {name : FileName}
    (h : p.pieces = front ++ [name.bytes]) (names : List FileName) :
    (names.foldl child p).pieces = p.pieces ++ names.map (·.bytes) := by
  induction names generalizing p front name with
  | nil => simp
  | cons next names ih =>
    have hbytes : p.bytes ≠ [] := by
      intro hnil
      rw [pieces, hnil, split] at h
      exact name.proper.1 (List.append_eq_singleton_iff.1 h.symm |>.elim
        (fun h => List.cons.inj h.2 |>.1) fun h => by cases h.2)
    obtain ⟨before, hbefore, hchild⟩ := pieces_child hbytes next
    -- The path ends with a name, so there is no empty piece at its end to be dropped.
    have hsame : p.pieces = before := by
      refine hbefore.resolve_right fun hempty => name.proper.1 ?_
      exact List.cons.inj (List.append_inj' (h.symm.trans hempty) rfl).2 |>.1
    rw [← hsame] at hchild
    rw [List.foldl_cons, ih hchild, hchild, List.append_assoc]
    rfl

theorem contains_zero_foldl_child (p : Path) (names : List FileName) :
    (names.foldl child p).bytes.contains 0
      = (p.bytes.contains 0 || names.any (·.bytes.contains 0)) := by
  induction names generalizing p with
  | nil => simp
  | cons name names ih =>
    rw [List.foldl_cons, ih, contains_zero_child, List.any_cons, Bool.or_assoc]

theorem isAbsolute_foldl_child {p : Path} (h : p.bytes ≠ []) (names : List FileName) :
    (names.foldl child p).isAbsolute = p.isAbsolute := by
  induction names generalizing p with
  | nil => rfl
  | cons name names ih =>
    rw [List.foldl_cons, ih (bytes_child_ne_nil p name), isAbsolute_child h]

theorem bytes_foldl_child_ne_nil {p : Path} (h : p.bytes ≠ []) (names : List FileName) :
    (names.foldl child p).bytes ≠ [] := by
  induction names generalizing p with
  | nil => exact h
  | cons name names ih => exact ih (bytes_child_ne_nil p name)

/-- What a path starts with, if this is neither a name nor a parent. -/
theorem start_fst (p : Path) : p.start.1 =
    if p.isAbsolute then some .root
    else if p.pieces.head? = some [dot] then some .current else none := by
  obtain ⟨piece, rest, hpieces, -⟩ := p.exists_pieces
  rw [start, hpieces]
  simp only [List.head?_cons, Option.some.injEq]
  split
  · rfl
  · split <;> rfl

/-- The path of an entry has the components of the directory and the name of the entry. -/
theorem components_child (p : Path) (name : FileName) :
    (p.child name).components = p.components ++ [.name name] := by
  have hname : [name.bytes].filterMap Component.ofPiece? = [.name name] := by
    simp [ofPiece?_bytes]
  by_cases h : p.bytes = []
  · have hchild : p.child name = { bytes := name.bytes } := by
      rw [child, join]
      simp [h]
    have hnone : p.components = [] := by
      rw [components, start, isAbsolute, pieces, h]
      decide
    have hpieces : (p.child name).pieces = [name.bytes] := by
      rw [hchild]
      exact split_of_notMem name.proper.2.2.2
    rw [hnone, components_eq, start_fst, hpieces, hname, hchild, isAbsolute_name]
    simp [name.proper.2.1]
  · obtain ⟨front, hfront, hpieces⟩ := pieces_child h name
    have hsame : front.filterMap Component.ofPiece? = p.pieces.filterMap Component.ofPiece? := by
      rcases hfront with hfront | hfront
      · rw [hfront]
      · rw [hfront, List.filterMap_append]
        simp [ofPiece?_nil]
    have hstart : (p.child name).start.1 = p.start.1 := by
      rw [start_fst, start_fst, isAbsolute_child h, hpieces]
      cases front with
      | nil => rcases hfront with hfront | hfront <;> simp [hfront, name.proper.2.1]
      | cons piece front => rcases hfront with hfront | hfront <;> simp [hfront]
    rw [components_eq, components_eq, hstart, hpieces, List.filterMap_append, hsame, hname,
      List.append_assoc]

theorem components_foldl_child (p : Path) (names : List FileName) :
    (names.foldl child p).components = p.components ++ names.map .name := by
  induction names generalizing p with
  | nil => simp
  | cons name names ih =>
    rw [List.foldl_cons, ih, components_child, List.append_assoc]
    rfl

/-- An entry of a directory has its name behind the place of the directory. -/
theorem place_child (here : Location) (p : Path) (name : FileName) :
    (p.child name).place here = p.place here ++ [name] := by
  rw [place, components_child, List.foldl_append]
  rfl

theorem place_foldl_child (here : Location) (p : Path) (names : List FileName) :
    (names.foldl child p).place here = p.place here ++ names := by
  induction names generalizing p with
  | nil => simp
  | cons name names ih => rw [List.foldl_cons, ih, place_child, List.append_assoc]; rfl

/-- A path that ends with a name names a place of this name. -/
theorem getLast?_place {p : Path} {name : FileName} (h : p.fileName? = some name)
    (here : Location) : (p.place here).getLast? = some name := by
  have hlast : p.components.getLast? = some (.name name) := by
    rw [fileName?] at h
    split at h
    · rename_i n hn
      rw [hn, Option.some.inj h]
    · cases h
  obtain ⟨front, hfront⟩ := List.getLast?_eq_some_iff.1 hlast
  rw [place, hfront, List.foldl_append]
  exact List.getLast?_concat

theorem key_injective : Function.Injective Component.key := by
  rintro (_ | _ | _ | ⟨⟨a, ha⟩⟩) (_ | _ | _ | ⟨⟨b, hb⟩⟩) h <;> simp_all [Component.key]

/-- Paths that are equal step by step name the same place. -/
theorem place_eq_of_key_eq {p q : Path} (h : p.key = q.key) (here : Location) :
    p.place here = q.place here := by
  rw [place, place, List.map_injective_iff.2 key_injective h]

end Path

/-! ### Trees without links -/

namespace Tree

/-- There are no links in the tree. -/
def IsPlain (t : Tree) : Prop :=
  ∀ place target, t.at? place ≠ some (.link target)

/-- Follows one piece of a path from a place on. -/
def enter (t : Tree) (place : Location) (piece : List UInt8) : Except FileFault Location :=
  if t.at? place ≠ some .directory then .error .notDirectory
  else
    match Component.ofPiece? piece with
    | some .parent => .ok place.dropLast
    | some (.name name) =>
      if greatestNameLength < name.bytes.length then .error .nameTooLong
      else if t.at? (place ++ [name]) = none then .error .notFound
      else .ok (place ++ [name])
    | _ => .ok place

variable {t : Tree} {here place : Location} {p : Path}

/-- Without links a path is followed piece by piece. -/
theorem follow_eq_foldlM (h : t.IsPlain) (links : Nat) (place : Location)
    (pieces : List (List UInt8)) :
    t.follow links place pieces = pieces.foldlM t.enter place := by
  induction pieces generalizing place with
  | nil => rw [follow]; rfl
  | cons piece pieces ih =>
    rw [follow, List.foldlM_cons, enter]
    by_cases hplace : t.at? place ≠ some .directory
    · rw [if_pos hplace, if_pos hplace]
      rfl
    · rw [if_neg hplace, if_neg hplace]
      -- Only a name can lead to a link.
      rcases hpiece : Component.ofPiece? piece with _ | _ | _ | _ | name
      case some.name =>
        simp only
        split
        · rfl
        · cases hnext : t.at? (place ++ [name]) with
          | none => rfl
          | some e =>
            cases e with
            | link target => exact absurd hnext (h _ _)
            | file content => rw [if_neg (by simp)]; exact ih _
            | directory => rw [if_neg (by simp)]; exact ih _
      all_goals exact ih _

/-- A piece leads where its component says, if anywhere. -/
theorem step_of_enter {piece : List UInt8} {next : Location} (h : t.enter place piece = .ok next) :
    next = (Component.ofPiece? piece).toList.foldl Location.step place := by
  have ofPiece?_cases : Component.ofPiece? piece = some .parent
      ∨ (∃ name, Component.ofPiece? piece = some (.name name)) ∨ Component.ofPiece? piece = none := by
    rw [Component.ofPiece?]
    split
    · exact .inl rfl
    · cases FileName.ofBytes? piece <;> simp
  rw [enter] at h
  split at h
  · cases h
  · rcases ofPiece?_cases with hpiece | ⟨name, hpiece⟩ | hpiece
    · rw [hpiece] at h ⊢
      exact (Except.ok.inj h).symm
    · rw [hpiece] at h ⊢
      simp only at h
      split at h
      · cases h
      · split at h
        · cases h
        · exact (Except.ok.inj h).symm
    · rw [hpiece] at h ⊢
      exact (Except.ok.inj h).symm

theorem place_of_foldlM {pieces : List (List UInt8)} {next : Location}
    (h : pieces.foldlM t.enter place = .ok next) :
    next = (pieces.filterMap Component.ofPiece?).foldl Location.step place := by
  induction pieces generalizing place with
  | nil => exact (Except.ok.inj h).symm
  | cons piece pieces ih =>
    rw [List.foldlM_cons, bind_eq_ok_iff] at h
    obtain ⟨between, henter, h⟩ := h
    rw [ih h, step_of_enter henter, ← List.foldl_append]
    cases hpiece : Component.ofPiece? piece <;> simp [hpiece]

/-- The pieces of a path from where it begins. -/
theorem locate_eq (h : t.IsPlain) (here : Location) (p : Path) :
    t.locate here p =
      if p.bytes.isEmpty then .error .notFound
      else if p.bytes.contains 0 then .error .zeroByte
      else p.pieces.foldlM t.enter (if p.isAbsolute then [] else here) := by
  rw [locate, follow_eq_foldlM h]

/-- What a path leads to is the place that it names. -/
theorem place_of_locate (h : t.IsPlain) (hp : t.locate here p = .ok place) :
    p.place here = place := by
  rw [locate_eq h] at hp
  split at hp
  · cases hp
  · split at hp
    · cases hp
    · rw [Path.place_eq, place_of_foldlM hp]

theorem lookup_eq_some_iff {entries : List (Location × Entry)} {e : Entry}
    (hdistinct : (entries.map (·.1)).Nodup) :
    entries.lookup place = some e ↔ (place, e) ∈ entries := by
  induction entries with
  | nil => simp
  | cons x entries ih =>
    obtain ⟨other, e'⟩ := x
    rw [List.map_cons, List.nodup_cons] at hdistinct
    rw [List.lookup_cons, List.mem_cons]
    by_cases hx : place = other
    · subst hx
      have hnone : (place, e) ∉ entries := fun h => hdistinct.1 (List.mem_map.2 ⟨_, h, rfl⟩)
      simp [hnone, eq_comm]
    · simpa [hx, beq_eq_false_iff_ne.2 hx] using ih hdistinct.2

/-- Apart from the root, what is at a place is its entry. -/
theorem at?_eq_some_iff (hplace : place ≠ []) {e : Entry} :
    t.at? place = some e ↔ (place, e) ∈ t.entries := by
  rw [at?, entryIn?, if_neg hplace, lookup_eq_some_iff t.distinct]

theorem isPlain_of_any_isLink (h : t.entries.any (·.2.isLink) = false) : t.IsPlain := by
  intro place target hlink
  by_cases hplace : place = []
  · subst hplace
    cases hlink
  · exact List.any_eq_false.1 h _ ((at?_eq_some_iff hplace).1 hlink) rfl

theorem mem_namesAt_iff {name : FileName} :
    name ∈ t.namesAt place ↔ t.at? (place ++ [name]) ≠ none := by
  have hne : place ++ [name] ≠ [] := List.append_ne_nil_of_right_ne_nil _ (List.cons_ne_nil _ _)
  rw [Option.ne_none_iff_exists']
  constructor
  · intro h
    obtain ⟨⟨other, e⟩, hentry, hname⟩ := List.mem_filterMap.1 h
    simp only at hname
    split at hname
    · rename_i hplace
      have hother : other = place ++ [name] := by
        rw [← hplace]
        exact (List.dropLast_append_getLast? _ hname).symm
      exact ⟨e, (at?_eq_some_iff hne).2 (hother ▸ hentry)⟩
    · cases hname
  · rintro ⟨e, h⟩
    exact List.mem_filterMap.2 ⟨_, (at?_eq_some_iff hne).1 h, by simp⟩

/-- The names in the directory that a path leads to. -/
theorem mem_names_iff {name : FileName} : name ∈ ((t.fileSystem here).names p).run
    ↔ ∃ place, t.find here p = .ok (place, .directory) ∧ t.at? (place ++ [name]) ≠ none := by
  simp only [fileSystem, Id.run]
  split
  · rename_i place hfind
    rw [mem_namesAt_iff]
    constructor
    · exact fun h => ⟨place, hfind, h⟩
    · rintro ⟨place', hfind', h⟩
      obtain ⟨rfl, -⟩ := Prod.mk.inj (Except.ok.inj (hfind.symm.trans hfind'))
      exact h
  · rename_i hother
    refine iff_of_false List.not_mem_nil ?_
    rintro ⟨place, hfind, -⟩
    exact hother place hfind

/-- What is left of a place below another one leads there. -/
theorem eq_append_of_drop {l names : Location}
    (h : (if place.isPrefixOf l then some (l.drop place.length) else none) = some names) :
    l = place ++ names := by
  split at h
  · rename_i hbelow
    obtain ⟨below, rfl⟩ := List.isPrefixOf_iff_prefix.1 hbelow
    rw [List.drop_left] at h
    rw [Option.some.inj h]
  · cases h

/-- The files below a place are those at the places below it. -/
theorem mem_filesBelow_iff {names : Location} :
    names ∈ t.filesBelow place ↔ ∃ content, t.at? (place ++ names) = some (.file content) := by
  constructor
  · intro h
    obtain ⟨⟨other, e⟩, hentry, he⟩ := List.mem_filterMap.1 h
    cases e with
    | file content =>
      obtain rfl := eq_append_of_drop he
      exact ⟨content, (at?_eq_some_iff (t.grounded _ hentry).1).2 hentry⟩
    | directory | link target => cases he
  · rintro ⟨content, h⟩
    have hne : place ++ names ≠ [] := by
      intro hnil
      rw [hnil] at h
      cases h
    exact List.mem_filterMap.2 ⟨_, (at?_eq_some_iff hne).1 h, by simp⟩

/-- The files below the directory that a path leads to. -/
theorem mem_filesBelow_run_iff {q : Path} : q ∈ ((t.fileSystem here).filesBelow p).run
    ↔ ∃ place names content, t.find here p = .ok (place, .directory)
      ∧ t.at? (place ++ names) = some (.file content) ∧ q = names.foldl Path.child p := by
  simp only [fileSystem, Id.run]
  split
  · rename_i place hfind
    rw [List.mem_map]
    constructor
    · rintro ⟨names, hnames, rfl⟩
      obtain ⟨content, hfile⟩ := mem_filesBelow_iff.1 hnames
      exact ⟨place, names, content, hfind, hfile, rfl⟩
    · rintro ⟨place', names, content, hfind', hfile, rfl⟩
      obtain ⟨rfl, -⟩ := Prod.mk.inj (Except.ok.inj (hfind.symm.trans hfind'))
      exact ⟨names, mem_filesBelow_iff.2 ⟨content, hfile⟩, rfl⟩
  · rename_i hother
    refine iff_of_false List.not_mem_nil ?_
    rintro ⟨place, names, content, hfind, -⟩
    exact hother place hfind

theorem nodup_filesBelow (t : Tree) (place : Location) : (t.filesBelow place).Nodup := by
  rw [filesBelow, List.Nodup, List.pairwise_filterMap]
  refine (List.pairwise_map.1 t.distinct).imp ?_
  rintro ⟨a, e⟩ ⟨b, e'⟩ hne names h names' h' rfl
  cases e with
  | file content =>
    cases e' with
    | file content' => exact hne ((eq_append_of_drop h).trans (eq_append_of_drop h').symm)
    | directory | link target => cases h'
  | directory | link target => cases h

/-- What an entry lies in is a directory. -/
theorem at?_dropLast {e : Entry} (h : t.at? place = some e) :
    t.at? place.dropLast = some .directory := by
  by_cases hplace : place = []
  · subst hplace
    rfl
  · exact (t.grounded _ ((at?_eq_some_iff hplace).1 h)).2

/-- Above an entry there are directories only. -/
theorem at?_of_append {below : Location} {e : Entry} (hne : below ≠ [])
    (h : t.at? (place ++ below) = some e) : t.at? place = some .directory := by
  induction below using List.reverseRecOn generalizing e with
  | nil => exact absurd rfl hne
  | append_singleton below name ih =>
    have hparent := at?_dropLast h
    rw [← List.append_assoc, List.dropLast_concat] at hparent
    by_cases hbelow : below = []
    · subst hbelow
      simpa using hparent
    · exact ih hbelow hparent

/-- Going down to an entry fails only for a name that is too long. -/
theorem foldlM_names {names : List FileName} (h : t.at? (place ++ names) ≠ none) :
    (names.map (·.bytes)).foldlM t.enter place =
      if names.any (greatestNameLength < ·.bytes.length) then .error .nameTooLong
      else .ok (place ++ names) := by
  induction names generalizing place with
  | nil => simp; rfl
  | cons name names ih =>
    obtain ⟨e, he⟩ := Option.ne_none_iff_exists'.1 h
    have hplace : t.at? place = some .directory := at?_of_append (List.cons_ne_nil _ _) he
    rw [List.append_cons] at h
    have hnext : t.at? (place ++ [name]) ≠ none := by
      by_cases hnames : names = []
      · simpa [hnames] using h
      · rw [List.append_cons] at he
        rw [at?_of_append hnames he]
        simp
    have henter : t.enter place name.bytes
        = if greatestNameLength < name.bytes.length then .error .nameTooLong
          else .ok (place ++ [name]) := by
      rw [enter, if_neg (by simp [hplace]), Path.ofPiece?_bytes]
      simp only [if_neg hnext]
    rw [List.map_cons, List.foldlM_cons, henter, List.any_cons]
    by_cases hlong : greatestNameLength < name.bytes.length
    · simp only [hlong, if_true, decide_true, Bool.true_or]
      rfl
    · simp only [hlong, if_false, decide_false, Bool.false_or]
      have hcons := List.append_cons place name names
      rw [hcons]
      exact ih h

/-- Whether the path of an entry below a directory leads to it depends on the
    names in between only. -/
theorem locate_foldl_child (h : t.IsPlain) (hp : t.locate here p = .ok place)
    {names : List FileName} (hentry : t.at? (place ++ names) ≠ none) :
    t.locate here (names.foldl Path.child p) =
      if names.any (·.bytes.contains 0) then .error .zeroByte
      else if names.any (greatestNameLength < ·.bytes.length) then .error .nameTooLong
      else .ok (place ++ names) := by
  cases names with
  | nil => simpa using hp
  | cons name names =>
    have hfollow := locate_eq h here p
    rw [hp] at hfollow
    split at hfollow
    · cases hfollow
    rename_i hempty
    split at hfollow
    · cases hfollow
    rename_i hzero
    have hbytes : p.bytes ≠ [] := by simpa using hempty
    obtain ⟨front, hfront, hchild⟩ := Path.pieces_child hbytes name
    have hpieces : ((name :: names).foldl Path.child p).pieces
        = front ++ (name :: names).map (·.bytes) := by
      rw [List.foldl_cons, Path.pieces_foldl_child hchild, hchild, List.append_assoc]
      rfl
    -- An empty piece at the end of the path stays where it is.
    have hbefore : front.foldlM t.enter (if p.isAbsolute then [] else here) = .ok place := by
      rcases hfront with hfront | hfront
      · rw [← hfront]
        exact hfollow.symm
      · rw [hfront, List.foldlM_append] at hfollow
        obtain ⟨between, hf, hlast⟩ := bind_eq_ok_iff.1 hfollow.symm
        obtain ⟨next, henter, hnext⟩ := bind_eq_ok_iff.1 hlast
        have hstay := step_of_enter henter
        rw [Path.ofPiece?_nil] at hstay
        rw [hf, ← Except.ok.inj hnext, hstay]
        rfl
    have hne := Path.bytes_foldl_child_ne_nil hbytes (name :: names)
    rw [locate_eq h, if_neg (mt List.isEmpty_iff.1 hne),
      Path.contains_zero_foldl_child, Path.isAbsolute_foldl_child hbytes, hpieces,
      List.foldlM_append, hbefore]
    have hclear : p.bytes.contains 0 = false := by simpa using hzero
    rw [hclear, Bool.false_or]
    split
    · rfl
    · exact foldlM_names hentry

end Tree

end CatalogAudit
