import CatalogAudit.Proofs.Files.Places

/-!
# Changes of one file

The content of a file can be replaced, and a file can be erased. Both leave what
is at all other places as it is, and since only directories lead on, both leave
all paths to other places as they are.

* `Tree.replace` and `Tree.erase`, with what they do to each place.
* `Tree.FileChange`: any change of one file.
* `Tree.locate_replace`, `Tree.locate_erase_eq_ok_iff`: where paths lead after
  that.
-/

namespace CatalogAudit

/-- The entry is a file. -/
def Entry.isFile : Entry → Bool
  | file _ => true
  | _ => false

@[simp]
theorem Entry.isFile_file (content : List UInt8) : (file content).isFile = true := rfl

@[simp]
theorem Entry.isFile_directory : directory.isFile = false := rfl

@[simp]
theorem Entry.isFile_link (target : Path) : (link target).isFile = false := rfl

namespace Tree

variable {t : Tree} {f place here : Location} {p : Path} {content bytes : List UInt8}

/-! ### Replacing a file -/

theorem lookup_map {entries : List (Location × Entry)} (change : Location → Entry → Entry)
    (place : Location) :
    (entries.map fun e => (e.1, change e.1 e.2)).lookup place
      = (entries.lookup place).map (change place) := by
  induction entries with
  | nil => rfl
  | cons e entries ih =>
    rw [List.map_cons, List.lookup_cons, List.lookup_cons, ih]
    by_cases he : place = e.1
    · simp [he]
    · simp [beq_eq_false_iff_ne.2 he]

/-- What becomes of an entry when the content of a file is replaced. -/
def replaced (f : Location) (content : List UInt8) (place : Location) (e : Entry) : Entry :=
  if place = f ∧ e.isFile = true then .file content else e

theorem isFile_replaced (f : Location) (content : List UInt8) (place : Location) (e : Entry) :
    (replaced f content place e).isFile = e.isFile := by
  rw [replaced]
  split
  · rename_i he
    exact he.2.symm
  · rfl

theorem entryIn?_replaced {entries : List (Location × Entry)} (f : Location)
    (content : List UInt8) (place : Location) :
    entryIn? (entries.map fun e => (e.1, replaced f content e.1 e.2)) place
      = (entryIn? entries place).map (replaced f content place) := by
  rw [entryIn?, entryIn?, lookup_map]
  split
  · simp [replaced]
  · rfl

/-- Replaces the content of a file. Where no file is, nothing changes. -/
def replace (t : Tree) (f : Location) (content : List UInt8) : Tree where
  entries := t.entries.map fun e => (e.1, replaced f content e.1 e.2)
  distinct := by
    rw [List.map_map]
    exact t.distinct
  grounded e he := by
    obtain ⟨x, hx, rfl⟩ := List.mem_map.1 he
    obtain ⟨hne, hparent⟩ := t.grounded x hx
    refine ⟨hne, ?_⟩
    rw [entryIn?_replaced, hparent]
    simp [replaced]

theorem at?_replace (t : Tree) (f : Location) (content : List UInt8) (place : Location) :
    (t.replace f content).at? place = (t.at? place).map (replaced f content place) :=
  entryIn?_replaced f content place

theorem at?_replace_self (hf : t.at? f = some (.file bytes)) (content : List UInt8) :
    (t.replace f content).at? f = some (.file content) := by
  rw [at?_replace, hf]
  simp [replaced]

/-! ### Erasing a file -/

/-- The entry is not the file that is erased. -/
def stays (f : Location) (e : Location × Entry) : Bool :=
  decide ¬(e.1 = f ∧ e.2.isFile = true)

theorem entryIn?_filter {entries : List (Location × Entry)}
    (hdistinct : (entries.map (·.1)).Nodup) (hplace : place ≠ []) {e : Entry} :
    entryIn? (entries.filter (stays f)) place = some e
      ↔ entryIn? entries place = some e ∧ stays f (place, e) = true := by
  rw [entryIn?, entryIn?, if_neg hplace, if_neg hplace, lookup_eq_some_iff hdistinct,
    lookup_eq_some_iff (hdistinct.sublist (List.filter_sublist.map _)), List.mem_filter]

/-- Takes a file away. Where no file is, nothing changes. -/
def erase (t : Tree) (f : Location) : Tree where
  entries := t.entries.filter (stays f)
  distinct := t.distinct.sublist (List.filter_sublist.map _)
  grounded e he := by
    obtain ⟨hne, hparent⟩ := t.grounded e (List.mem_filter.1 he).1
    refine ⟨hne, ?_⟩
    by_cases hroot : e.1.dropLast = []
    · rw [hroot]
      rfl
    · refine (entryIn?_filter t.distinct hroot).2 ⟨hparent, ?_⟩
      simp [stays]

/-- Erasing a file takes away what is at its place and nothing else. -/
theorem at?_erase (hf : t.at? f = some (.file content)) (place : Location) :
    (t.erase f).at? place = if place = f then none else t.at? place := by
  have hroot : f ≠ [] := by
    rintro rfl
    cases hf
  by_cases hplace : place = []
  · subst hplace
    rw [if_neg (Ne.symm hroot)]
    rfl
  ext e
  rw [at?, erase, entryIn?_filter t.distinct hplace, ← at?]
  split
  · rename_i hsame
    subst hsame
    rw [hf]
    refine iff_of_false ?_ (by simp)
    rintro ⟨hfile, hstays⟩
    simp [stays, ← Option.some.inj hfile] at hstays
  · rename_i hother
    simp [stays, hother]

/-- What is erased need not be replaced before. -/
theorem erase_replace (t : Tree) (f : Location) (content : List UInt8) :
    (t.replace f content).erase f = t.erase f := by
  have hentries : (t.replace f content).entries.filter (stays f) = t.entries.filter (stays f) := by
    rw [replace, List.filter_map]
    have hkeeps : stays f ∘ (fun e => (e.1, replaced f content e.1 e.2)) = stays f := by
      funext e
      simp only [Function.comp, stays, isFile_replaced]
    rw [hkeeps]
    refine (List.map_congr_left fun e he => ?_).trans (List.map_id _)
    have hstays := (List.mem_filter.1 he).2
    rw [replaced, if_neg (of_decide_eq_true hstays)]
    rfl
  unfold erase
  congr 1

/-- What is erased need not be put there before. -/
theorem erase_insert (h : t.at? f = none) : (t.insert f (.file content)).erase f = t := by
  have hstays : t.entries.filter (stays f) = t.entries := by
    refine List.filter_eq_self.2 fun e he => decide_eq_true ?_
    rintro ⟨rfl, -⟩
    rw [(at?_eq_some_iff (t.grounded e he).1).2 he] at h
    cases h
  rw [insert]
  split
  · have hentries : (t.entries ++ [(f, Entry.file content)]).filter (stays f) = t.entries := by
      rw [List.filter_append, hstays]
      simp [stays]
    unfold erase
    congr 1
  · unfold erase
    congr 1

/-- What is put at a free place of a directory is there. -/
theorem at?_insert {e : Entry} (h : t.at? f = none) (hparent : t.at? f.dropLast = some .directory) :
    (t.insert f e).at? f = some e := by
  have hne : f ≠ [] := by
    rintro rfl
    cases h
  have hentries : (t.insert f e).entries = t.entries ++ [(f, e)] := by
    rw [insert, dif_pos ⟨hne, h, hparent⟩]
  rw [at?_eq_some_iff hne, hentries]
  exact List.mem_append_right _ (List.mem_singleton_self _)

/-- A file is put at a free place of a directory, or it gets another content, or it is
    taken away. -/
inductive FileChange (f : Location) : Tree → Tree → Prop
  | add {t : Tree} (content : List UInt8) :
    t.at? f = none → t.at? f.dropLast = some .directory →
      FileChange f t (t.insert f (.file content))
  | change {t : Tree} {old : List UInt8} (content : List UInt8) :
    t.at? f = some (.file old) → FileChange f t (t.replace f content)
  | delete {t : Tree} {old : List UInt8} :
    t.at? f = some (.file old) → FileChange f t (t.erase f)

/-! ### Where paths lead -/

theorem isPlain_replace (h : t.IsPlain) (f : Location) (content : List UInt8) :
    (t.replace f content).IsPlain := by
  intro place target hlink
  rw [at?_replace, Option.map_eq_some_iff] at hlink
  obtain ⟨e, he, hreplaced⟩ := hlink
  rw [replaced] at hreplaced
  split at hreplaced
  · cases hreplaced
  · exact h place target (hreplaced ▸ he)

theorem isPlain_erase (h : t.IsPlain) (hf : t.at? f = some (.file content)) :
    (t.erase f).IsPlain := by
  intro place target hlink
  rw [at?_erase hf] at hlink
  split at hlink
  · cases hlink
  · exact h place target hlink

/-- A file is no link. -/
theorem isPlain_of_erase (h : (t.erase f).IsPlain) (hf : t.at? f = some (.file content)) :
    t.IsPlain := by
  intro place target hlink
  refine h place target ?_
  rw [at?_erase hf, if_neg, hlink]
  rintro rfl
  cases hf.symm.trans hlink

theorem enter_replace (t : Tree) (f : Location) (content : List UInt8) :
    (t.replace f content).enter = t.enter := by
  have hdirectory (place : Location) :
      (t.replace f content).at? place = some .directory ↔ t.at? place = some .directory := by
    rw [at?_replace]
    cases t.at? place with
    | none => simp
    | some e =>
      rw [Option.map_some, replaced]
      split
      · rename_i he
        refine iff_of_false (by simp) fun hdirectory => ?_
        obtain rfl := Option.some.inj hdirectory
        simp at he
      · rfl
  have hnone (place : Location) :
      (t.replace f content).at? place = none ↔ t.at? place = none := by
    rw [at?_replace, Option.map_eq_none_iff]
  funext place piece
  simp only [enter, Ne, hdirectory, hnone]

/-- A replaced file changes no way. -/
theorem locate_replace (h : t.IsPlain) (f : Location) (content : List UInt8) (here : Location)
    (p : Path) : (t.replace f content).locate here p = t.locate here p := by
  rw [locate_eq (isPlain_replace h f content), locate_eq h, enter_replace]

/-- A step in a tree without the file is a step in the tree, but not to the
    file. -/
theorem enter_erase_eq_ok_iff (hf : t.at? f = some (.file content)) {piece : List UInt8}
    {next : Location} :
    (t.erase f).enter place piece = .ok next ↔ t.enter place piece = .ok next ∧ next ≠ f := by
  have hdirectory (place : Location) :
      (t.erase f).at? place = some .directory ↔ t.at? place = some .directory := by
    rw [at?_erase hf]
    split
    · rename_i hplace
      simp [hplace, hf]
    · rfl
  by_cases hplace : t.at? place = some .directory
  · -- The place is a directory, so neither it nor its parent is the file.
    have hself : place ≠ f := by
      rintro rfl
      cases hplace.symm.trans hf
    have hparent : place.dropLast ≠ f := by
      rintro rfl
      cases (at?_dropLast hplace).symm.trans hf
    have ne_of_eq {place next : Location} (hne : place ≠ f)
        (h : (Except.ok place : Except FileFault Location) = .ok next) : next ≠ f :=
      Except.ok.inj h ▸ hne
    rw [enter, enter, if_neg (not_not.2 hplace), if_neg (not_not.2 ((hdirectory place).2 hplace))]
    split
    · exact (and_iff_left_of_imp (ne_of_eq hparent)).symm
    · rename_i name _
      rw [at?_erase hf]
      by_cases hlong : greatestNameLength < name.bytes.length
      · simp [hlong]
      · by_cases hnext : place ++ [name] = f
        · simp [hlong, hnext, hf, eq_comm]
        · simp only [hlong, hnext, if_false]
          refine (and_iff_left_of_imp fun h => ?_).symm
          split at h
          · cases h
          · exact ne_of_eq hnext h
    · exact (and_iff_left_of_imp (ne_of_eq hself)).symm
  · have hfault (t : Tree) (h : t.at? place ≠ some .directory) :
        t.enter place piece = .error .notDirectory := by
      rw [enter, if_pos h]
    rw [hfault _ hplace, hfault _ (mt (hdirectory place).1 hplace)]
    simp

theorem foldlM_erase_eq_ok_iff (hf : t.at? f = some (.file content)) {pieces : List (List UInt8)}
    {next : Location} (hpieces : pieces ≠ []) :
    pieces.foldlM (t.erase f).enter place = .ok next
      ↔ pieces.foldlM t.enter place = .ok next ∧ next ≠ f := by
  induction pieces generalizing place with
  | nil => exact absurd rfl hpieces
  | cons piece pieces ih =>
    rw [List.foldlM_cons, List.foldlM_cons, bind_eq_ok_iff, bind_eq_ok_iff]
    simp only [enter_erase_eq_ok_iff hf]
    by_cases hlast : pieces = []
    · subst hlast
      simp only [List.foldlM_nil, pure, Except.pure, Except.ok.injEq]
      grind
    · simp only [ih hlast]
      constructor
      · rintro ⟨between, ⟨henter, -⟩, hrest, hnext⟩
        exact ⟨⟨between, henter, hrest⟩, hnext⟩
      · rintro ⟨⟨between, henter, hrest⟩, hnext⟩
        refine ⟨between, ⟨henter, ?_⟩, hrest, hnext⟩
        -- Nothing leads on from the file.
        rintro rfl
        obtain ⟨piece', pieces', rfl⟩ := List.exists_cons_of_ne_nil hlast
        rw [List.foldlM_cons, bind_eq_ok_iff] at hrest
        obtain ⟨_, hfile, -⟩ := hrest
        rw [enter, if_pos (by simp [hf])] at hfile
        cases hfile

/-- The ways in a tree without the file are the ways in the tree, but not to
    the file. -/
theorem locate_erase_eq_ok_iff (h : t.IsPlain) (hf : t.at? f = some (.file content)) :
    (t.erase f).locate here p = .ok place ↔ t.locate here p = .ok place ∧ place ≠ f := by
  rw [locate_eq (isPlain_erase h hf), locate_eq h]
  split
  · simp
  · split
    · simp
    · exact foldlM_erase_eq_ok_iff hf (Path.split_ne_nil p.bytes)

theorem find_eq_ok_iff {x : Location × Entry} :
    t.find here p = .ok x ↔ t.locate here p = .ok x.1 ∧ t.at? x.1 = some x.2 := by
  obtain ⟨place, e⟩ := x
  rw [find]
  cases t.locate here p with
  | error fault => simp
  | ok place' =>
    simp only
    cases hat : t.at? place' with
    | none =>
      refine iff_of_false (by simp) fun h => ?_
      obtain ⟨hplace, he⟩ := h
      rw [← Except.ok.inj hplace, hat] at he
      cases he
    | some e' =>
      simp only [Except.ok.injEq, Prod.mk.injEq]
      refine and_congr_right fun hplace => ?_
      rw [← hplace, hat, Option.some.injEq]

/-- What a path leads to is at the place that it names. -/
theorem place_of_find (h : t.IsPlain) {x : Location × Entry} (hp : t.find here p = .ok x) :
    p.place here = x.1 :=
  place_of_locate h (find_eq_ok_iff.1 hp).1

theorem find_replace (h : t.IsPlain) (f : Location) (content : List UInt8) (here : Location)
    (p : Path) :
    (t.replace f content).find here p
      = (t.find here p).map fun x => (x.1, replaced f content x.1 x.2) := by
  rw [find, find, locate_replace h]
  cases t.locate here p with
  | error fault => rfl
  | ok place =>
    simp only [at?_replace]
    cases t.at? place <;> rfl

theorem find_erase_eq_ok_iff (h : t.IsPlain) (hf : t.at? f = some (.file content))
    {x : Location × Entry} :
    (t.erase f).find here p = .ok x ↔ t.find here p = .ok x ∧ x.1 ≠ f := by
  rw [find_eq_ok_iff, find_eq_ok_iff, locate_erase_eq_ok_iff h hf, at?_erase hf]
  by_cases hx : x.1 = f <;> simp [hx]

/-! ### The operations on a tree with a replaced file -/

theorem resolve_replace (h : t.IsPlain) (f : Location) (content : List UInt8) (here : Location) :
    ((t.replace f content).fileSystem here).resolve = (t.fileSystem here).resolve := by
  funext p
  simp only [fileSystem, locate_replace h]

theorem kind?_replace (h : t.IsPlain) (f : Location) (content : List UInt8) (here : Location) :
    ((t.replace f content).fileSystem here).kind? = (t.fileSystem here).kind? := by
  funext p
  simp only [fileSystem, find_replace h]
  rcases t.find here p with fault | ⟨place, e⟩
  · rfl
  · cases e <;> by_cases hplace : place = f <;> simp [Except.map, replaced, hplace]

theorem names_replace (h : t.IsPlain) (f : Location) (content : List UInt8) (here : Location) :
    ((t.replace f content).fileSystem here).names = (t.fileSystem here).names := by
  have hnames (place : Location) : (t.replace f content).namesAt place = t.namesAt place := by
    rw [namesAt, namesAt, replace, List.filterMap_map]
    rfl
  funext p
  simp only [fileSystem, find_replace h]
  rcases t.find here p with fault | ⟨place, e⟩
  · rfl
  · cases e <;> by_cases hplace : place = f <;> simp [Except.map, replaced, hplace, hnames]

theorem filesBelow_replace (h : t.IsPlain) (f : Location) (content : List UInt8)
    (here : Location) :
    ((t.replace f content).fileSystem here).filesBelow = (t.fileSystem here).filesBelow := by
  have hbelow (place : Location) :
      (t.replace f content).filesBelow place = t.filesBelow place := by
    rw [filesBelow, filesBelow, replace, List.filterMap_map]
    refine List.filterMap_congr fun e _ => ?_
    obtain ⟨other, e⟩ := e
    cases e <;> by_cases hother : other = f <;> simp [replaced, hother]
  funext p
  simp only [fileSystem, find_replace h]
  rcases t.find here p with fault | ⟨place, e⟩
  · rfl
  · cases e <;> by_cases hplace : place = f <;> simp [Except.map, replaced, hplace, hbelow]

/-- All files but the replaced one are read as before. -/
theorem read_replace (h : t.IsPlain) (hp : p.place here ≠ f) :
    ((t.replace f content).fileSystem here).read p = (t.fileSystem here).read p := by
  simp only [fileSystem, find_replace h]
  cases hfind : t.find here p with
  | error fault => rfl
  | ok x =>
    obtain ⟨place, e⟩ := x
    have hplace : place ≠ f := fun he => hp ((place_of_find h hfind).trans he)
    simp [Except.map, replaced, hplace]

/-! ### The operations on a tree with an erased file -/

theorem resolve_erase_iff (h : t.IsPlain) (hf : t.at? f = some (.file content)) {q : Path}
    (hp : p.place here ≠ f) :
    ((t.erase f).fileSystem here).resolve p = .ok q ↔ (t.fileSystem here).resolve p = .ok q := by
  have resolve_eq_ok_iff (t : Tree) : (t.fileSystem here).resolve p = .ok q
      ↔ ∃ place, t.locate here p = .ok place ∧ place.path = q := by
    change (t.locate here p).map Location.path = .ok q ↔ _
    cases t.locate here p <;> simp [Except.map]
  rw [resolve_eq_ok_iff, resolve_eq_ok_iff]
  refine exists_congr fun place => and_congr_left fun _ => ?_
  rw [locate_erase_eq_ok_iff h hf]
  exact and_iff_left_of_imp fun hlocate => place_of_locate h hlocate ▸ hp

/-- At the place of a file there is nothing else. -/
theorem entries_erase (hf : t.at? f = some (.file content)) :
    (t.erase f).entries = t.entries.filter (·.1 ≠ f) := by
  refine List.filter_congr fun e he => ?_
  by_cases hplace : e.1 = f
  · have hne : f ≠ [] := hplace ▸ (t.grounded e he).1
    have hentry : t.at? f = some e.2 := (at?_eq_some_iff hne).2 (hplace ▸ he)
    rw [hf] at hentry
    simp [stays, hplace, ← Option.some.inj hentry]
  · simp [stays, hplace]

theorem namesAt_erase (hf : t.at? f = some (.file content)) (place : Location) :
    (t.erase f).namesAt place = (t.namesAt place).filter fun name => place ++ [name] ≠ f := by
  rw [namesAt, namesAt, entries_erase hf, List.filterMap_filter, List.filter_filterMap]
  refine List.filterMap_congr fun e _ => ?_
  by_cases hparent : e.1.dropLast = place
  · cases hname : e.1.getLast? with
    | none => simp
    | some name =>
      have hplace : place ++ [name] = e.1 := by
        rw [← hparent]
        exact List.dropLast_append_getLast? _ hname
      simp [hparent, Option.filter_some, hplace]
  · simp [hparent]

theorem filesBelow_erase (hf : t.at? f = some (.file content)) (place : Location) :
    (t.erase f).filesBelow place = (t.filesBelow place).filter fun names => place ++ names ≠ f := by
  rw [filesBelow, filesBelow, entries_erase hf, List.filterMap_filter, List.filter_filterMap]
  refine List.filterMap_congr fun e _ => ?_
  obtain ⟨other, e⟩ := e
  cases e with
  | directory => simp
  | link target => simp
  | file bytes =>
    by_cases hbelow : place.isPrefixOf other = true
    · obtain ⟨names, rfl⟩ := List.isPrefixOf_iff_prefix.1 hbelow
      simp [hbelow, Option.filter_some]
    · simp [hbelow]

/-- What is found in the tree is found without the file, unless it is the file. -/
theorem find_erase_of_ne (h : t.IsPlain) (hf : t.at? f = some (.file content))
    {x : Location × Entry} (hfind : t.find here p = .ok x) (hp : p.place here ≠ f) :
    (t.erase f).find here p = .ok x :=
  (find_erase_eq_ok_iff h hf).2 ⟨hfind, place_of_find h hfind ▸ hp⟩

/-- Nothing more is found without the file, and the file is not found. -/
theorem find_erase_eq_error (h : t.IsPlain) (hf : t.at? f = some (.file content))
    (hp : p.place here = f ∨ ∃ fault, t.find here p = .error fault) :
    ∃ fault, (t.erase f).find here p = .error fault := by
  cases hfind : (t.erase f).find here p with
  | error fault => exact ⟨fault, rfl⟩
  | ok x =>
    obtain ⟨hx, hne⟩ := (find_erase_eq_ok_iff h hf).1 hfind
    rcases hp with hp | ⟨fault, hp⟩
    · exact absurd ((place_of_find h hx).symm.trans hp) hne
    · cases hx.symm.trans hp

theorem kind?_erase (h : t.IsPlain) (hf : t.at? f = some (.file content)) (here : Location)
    (p : Path) :
    ((t.erase f).fileSystem here).kind? p
      = if p.place here = f then none else (t.fileSystem here).kind? p := by
  simp only [fileSystem]
  by_cases hp : p.place here = f
  · obtain ⟨fault, herror⟩ := find_erase_eq_error h hf (.inl hp)
    rw [herror, if_pos hp]
  · rw [if_neg hp]
    cases hfind : t.find here p with
    | error fault =>
      obtain ⟨fault', herror⟩ := find_erase_eq_error h hf (.inr ⟨fault, hfind⟩)
      rw [herror]
    | ok x => rw [find_erase_of_ne h hf hfind hp]

/-- The directories stay. -/
theorem find_erase_eq_directory_iff (h : t.IsPlain) (hf : t.at? f = some (.file content)) :
    (t.erase f).find here p = .ok (place, .directory)
      ↔ t.find here p = .ok (place, .directory) := by
  rw [find_erase_eq_ok_iff h hf]
  refine and_iff_left_of_imp fun hfind => ?_
  rintro rfl
  cases hf.symm.trans (find_eq_ok_iff.1 hfind).2

theorem names_erase (h : t.IsPlain) (hf : t.at? f = some (.file content)) (here : Location)
    (p : Path) :
    ((t.erase f).fileSystem here).names p
      = ((t.fileSystem here).names p).filter fun name => (p.child name).place here ≠ f := by
  simp only [fileSystem, Path.place_child]
  split
  · rename_i place hdirectory
    rw [find_erase_eq_directory_iff h hf] at hdirectory
    rw [hdirectory, place_of_find h hdirectory]
    exact namesAt_erase hf place
  · rename_i hnone
    split
    · rename_i place hdirectory
      exact absurd ((find_erase_eq_directory_iff h hf).2 hdirectory) (hnone place)
    · rfl

theorem filesBelow_fileSystem_erase (h : t.IsPlain) (hf : t.at? f = some (.file content))
    (here : Location) (p : Path) :
    ((t.erase f).fileSystem here).filesBelow p
      = ((t.fileSystem here).filesBelow p).filter fun q => q.place here ≠ f := by
  simp only [fileSystem]
  split
  · rename_i place hdirectory
    rw [find_erase_eq_directory_iff h hf] at hdirectory
    rw [hdirectory, filesBelow_erase hf, List.filter_map]
    simp only [Function.comp_def, Path.place_foldl_child, place_of_find h hdirectory]
  · rename_i hnone
    split
    · rename_i place hdirectory
      exact absurd ((find_erase_eq_directory_iff h hf).2 hdirectory) (hnone place)
    · rfl

/-- What is found is read as before, unless it is the erased file. -/
theorem read_erase_of_find (h : t.IsPlain) (hf : t.at? f = some (.file content))
    {x : Location × Entry} (hfind : t.find here p = .ok x) (hp : p.place here ≠ f) :
    ((t.erase f).fileSystem here).read p = (t.fileSystem here).read p := by
  simp only [fileSystem]
  rw [find_erase_of_ne h hf hfind hp, hfind]

/-- The names of the files below a place lead to entries. -/
theorem at?_of_mem_filesBelow {names : Location} (h : names ∈ t.filesBelow place) :
    t.at? (place ++ names) ≠ none := by
  obtain ⟨content, hfile⟩ := mem_filesBelow_iff.1 h
  rw [hfile]
  exact Option.some_ne_none _

/-- All files below a directory are found as before, or as before not found,
    unless it is the erased file. -/
theorem find_erase_of_mem_filesBelow (h : t.IsPlain) (hf : t.at? f = some (.file content))
    (hp : t.find here p = .ok (place, .directory)) {names : Location}
    (hnames : names ∈ t.filesBelow place) (hne : place ++ names ≠ f) :
    (t.erase f).find here (names.foldl Path.child p)
      = t.find here (names.foldl Path.child p) := by
  have hp' := (find_erase_eq_directory_iff h hf).2 hp
  have hentry := at?_of_mem_filesBelow hnames
  have hentry' : (t.erase f).at? (place ++ names) ≠ none := by
    rwa [at?_erase hf, if_neg hne]
  -- The path of such a file leads to it unless the names are at fault.
  have hlocate : (t.erase f).locate here (names.foldl Path.child p)
      = t.locate here (names.foldl Path.child p) := by
    rw [locate_foldl_child (isPlain_erase h hf) (find_eq_ok_iff.1 hp').1 hentry',
      locate_foldl_child h (find_eq_ok_iff.1 hp).1 hentry]
  have hplace : (names.foldl Path.child p).place here = place ++ names := by
    rw [Path.place_foldl_child, place_of_find h hp]
  rw [find, find, hlocate]
  cases hl : t.locate here (names.foldl Path.child p) with
  | error fault => rfl
  | ok other =>
    have hother : other ≠ f := by
      rwa [← place_of_locate h hl, hplace]
    simp only [at?_erase hf, if_neg hother]

theorem read_erase_of_mem_filesBelow (h : t.IsPlain) (hf : t.at? f = some (.file content))
    {q : Path} (hq : q ∈ ((t.fileSystem here).filesBelow p).run) (hne : q.place here ≠ f) :
    ((t.erase f).fileSystem here).read q = (t.fileSystem here).read q := by
  simp only [fileSystem, Id.run] at hq
  split at hq
  · rename_i place hdirectory
    obtain ⟨names, hnames, rfl⟩ := List.mem_map.1 hq
    rw [Path.place_foldl_child, place_of_find h hdirectory] at hne
    simp only [fileSystem, find_erase_of_mem_filesBelow h hf hdirectory hnames hne]
  · cases hq

end Tree

end CatalogAudit
