import CatalogAudit.Proofs.Files.Changes
import CatalogAudit.Proofs.Project.Catalogs
import Mathlib.Data.List.Sublists

/-!
# The files that a check lists

A check lists markup files, script files and catalogs, each list sorted. When
some files go and all others stay as they are, then the lists lose these files
and nothing else changes: sorting is stable, and paths that are equal step by
step go together.

* `FileSystem.Lacks`: some files are gone.
* `Sources.sortPaths_filter`, `Sources.dropRepeated_filter`: filtering commutes
  with sorting, and on sorted paths with dropping repeated ones.
* `FileSystem.Lacks.markupPaths_eq`, `FileSystem.Lacks.scriptPaths_eq` and
  `FileSystem.Lacks.catalogPaths_eq`: what is left of the lists.
-/

namespace CatalogAudit

/-! ### The order of paths -/

namespace Path

theorem le_iff {p q : Path} : p.le q = true ↔ p.key ≤ q.key := by
  simp [le, List.not_lt]

theorem le_trans (p q r : Path) (hpq : p.le q = true) (hqr : q.le r = true) : p.le r = true :=
  le_iff.2 (List.le_trans (le_iff.1 hpq) (le_iff.1 hqr))

theorem le_total (p q : Path) : (p.le q || q.le p) = true := by
  rw [Bool.or_eq_true, le_iff, le_iff]
  exact List.le_total p.key q.key

theorem key_eq_of_le {p q : Path} (hpq : p.le q = true) (hqp : q.le p = true) : p.key = q.key :=
  List.le_antisymm (le_iff.1 hpq) (le_iff.1 hqp)

end Path

namespace Sources

theorem pairwise_sortPaths (l : List Path) : (sortPaths l).Pairwise fun p q => p.le q = true :=
  List.pairwise_mergeSort Path.le_trans Path.le_total l

/-- Sorting paths that differ step by step leaves no two that are equal. -/
theorem pairwise_lt_sortPaths {l : List Path} (h : (l.map Path.key).Nodup) :
    (sortPaths l).Pairwise fun p q => p.key < q.key := by
  have hnodup : ((sortPaths l).map Path.key).Nodup :=
    ((List.mergeSort_perm l Path.le).map _).nodup_iff.2 h
  refine ((pairwise_sortPaths l).and (List.pairwise_map.1 hnodup)).imp ?_
  rintro p q ⟨hle, hne⟩
  exact List.not_le.1 fun hqp => hne (List.le_antisymm (Path.le_iff.1 hle) hqp)

/-- Paths in strictly ascending order are told by what they are. -/
theorem eq_of_mem_iff {l l' : List Path} (h : l.Pairwise fun p q => p.key < q.key)
    (h' : l'.Pairwise fun p q => p.key < q.key) (hmem : ∀ q, q ∈ l ↔ q ∈ l') : l = l' := by
  have hnodup {l : List Path} (h : l.Pairwise fun p q => p.key < q.key) : l.Nodup := by
    refine h.imp ?_
    rintro p q hlt rfl
    exact List.lt_irrefl _ hlt
  refine List.Perm.eq_of_pairwise (fun p q _ _ hpq hqp => ?_) h h'
    ((List.perm_ext_iff_of_nodup (hnodup h) (hnodup h')).2 hmem)
  exact absurd hqp (List.lt_asymm hpq)

/-- In a sorted list the smaller paths stand in front. -/
theorem eq_takeWhile_of_pairwise {p : Path} {front behind : List Path}
    (hfront : ∀ q ∈ front, p.le q = false) (hbehind : ∀ q ∈ behind, p.le q = true) :
    front = (front ++ behind).takeWhile fun q => !p.le q := by
  rw [List.takeWhile_append_of_pos fun q hq => by rw [hfront q hq]; rfl]
  have hnone : behind.takeWhile (fun q => !p.le q) = [] := by
    cases behind with
    | nil => rfl
    | cons q behind =>
      rw [List.takeWhile_cons_of_neg]
      simp [hbehind q List.mem_cons_self]
  rw [hnone, List.append_nil]

/-- Where the sort puts a path that stands first: behind all smaller ones and in
    front of all others. -/
theorem exists_sortPaths_cons (p : Path) (l : List Path) :
    ∃ front behind, sortPaths (p :: l) = front ++ p :: behind ∧ sortPaths l = front ++ behind
      ∧ (∀ q ∈ front, p.le q = false) ∧ ∀ q ∈ behind, p.le q = true := by
  obtain ⟨front, behind, hcons, hl, hfront⟩ :=
    List.mergeSort_cons Path.le_trans Path.le_total p l
  have hsorted := pairwise_sortPaths (p :: l)
  rw [sortPaths, hcons, List.pairwise_append, List.pairwise_cons] at hsorted
  exact ⟨front, behind, hcons, hl, fun q hq => by simpa using hfront q hq, hsorted.2.1.1⟩

/-- The sort is stable, so paths that go leave the others as they are. -/
theorem sortPaths_filter (keep : Path → Bool) (l : List Path) :
    sortPaths (l.filter keep) = (sortPaths l).filter keep := by
  induction l with
  | nil => simp [sortPaths]
  | cons p l ih =>
    obtain ⟨front, behind, hcons, hl, hfront, hbehind⟩ := exists_sortPaths_cons p l
    rw [hl, List.filter_append] at ih
    rw [hcons, List.filter_append]
    by_cases hp : keep p = true
    · obtain ⟨front', behind', hcons', hl', hfront', hbehind'⟩ :=
        exists_sortPaths_cons p (l.filter keep)
      have hsame : front' ++ behind' = front.filter keep ++ behind.filter keep := hl'.symm.trans ih
      have hfronts : front' = front.filter keep := by
        rw [eq_takeWhile_of_pairwise hfront' hbehind', hsame, ← eq_takeWhile_of_pairwise]
        · exact fun q hq => hfront q (List.mem_filter.1 hq).1
        · exact fun q hq => hbehind q (List.mem_filter.1 hq).1
      have hbehinds : behind' = behind.filter keep :=
        List.append_cancel_left (hfronts ▸ hsame)
      rw [List.filter_cons_of_pos hp, hcons', hfronts, hbehinds, List.filter_cons_of_pos hp]
    · rw [List.filter_cons_of_neg hp, ih, List.filter_cons_of_neg hp]

/-! ### Repeated paths -/

theorem dropRepeated_sublist (l : List Path) : (dropRepeated l).Sublist l := by
  induction l with
  | nil => exact .slnil
  | cons p l ih =>
    rw [dropRepeated, List.foldr_cons, ← dropRepeated]
    cases hl : dropRepeated l with
    | nil => exact List.singleton_sublist.2 List.mem_cons_self
    | cons q others =>
      rw [hl] at ih
      simp only
      split
      · exact ((List.sublist_cons_self q others).trans ih).cons_cons p
      · exact ih.cons_cons p

/-- In sorted paths the first path takes the place of all that are equal to it
    step by step. -/
theorem dropRepeated_cons {p : Path} {l : List Path}
    (h : (p :: l).Pairwise fun p q => p.le q = true) :
    dropRepeated (p :: l) = p :: (dropRepeated l).filter fun q => q.key ≠ p.key := by
  induction l generalizing p with
  | nil => rfl
  | cons q l ih =>
    obtain ⟨hp, hl⟩ := List.pairwise_cons.1 h
    obtain ⟨hq, -⟩ := List.pairwise_cons.1 hl
    have hcons : dropRepeated (p :: q :: l) = if p.key = q.key
        then p :: (dropRepeated l).filter (fun r => r.key ≠ q.key) else p :: dropRepeated (q :: l) := by
      rw [dropRepeated, List.foldr_cons, ← dropRepeated, ih hl]
    rw [hcons]
    split
    · rename_i hkey
      rw [ih hl, List.filter_cons_of_neg (by simp [hkey]), List.filter_filter, hkey]
      simp
    · -- What comes later has the key of `p` only if `q` has it too.
      rename_i hkey
      rw [List.filter_eq_self.2]
      intro r hr
      refine decide_eq_true fun hrp => hkey ?_
      have hqr : q.le r = true := by
        rcases List.mem_cons.1 ((dropRepeated_sublist _).subset hr) with rfl | hr
        · simpa using Path.le_total r r
        · exact hq r hr
      exact Path.key_eq_of_le (hp q List.mem_cons_self)
        (Path.le_iff.2 (hrp ▸ Path.le_iff.1 hqr))

/-- What is left of sorted paths without repeated ones ascends strictly. -/
theorem pairwise_lt_dropRepeated {l : List Path} (h : l.Pairwise fun p q => p.le q = true) :
    (dropRepeated l).Pairwise fun p q => p.key < q.key := by
  induction l with
  | nil => exact .nil
  | cons p l ih =>
    obtain ⟨hp, hl⟩ := List.pairwise_cons.1 h
    rw [dropRepeated_cons h]
    refine List.pairwise_cons.2 ⟨fun q hq => ?_, (ih hl).filter _⟩
    obtain ⟨hmem, hne⟩ := List.mem_filter.1 hq
    have hle := Path.le_iff.1 (hp q ((dropRepeated_sublist l).subset hmem))
    exact List.not_le.1 fun hqp => of_decide_eq_true hne (List.le_antisymm hqp hle)

/-- No path is lost but for one that is equal to it step by step. -/
theorem mem_map_key_dropRepeated {l : List Path} (h : l.Pairwise fun p q => p.le q = true)
    {k : List (List UInt8)} : k ∈ (dropRepeated l).map Path.key ↔ k ∈ l.map Path.key := by
  induction l with
  | nil => rfl
  | cons p l ih =>
    rw [dropRepeated_cons h, List.map_cons, List.map_cons, List.mem_cons, List.mem_cons,
      ← ih h.of_cons]
    by_cases hk : k = p.key
    · simp [hk]
    · refine or_congr_right ?_
      simp only [List.mem_map, List.mem_filter, decide_eq_true_eq]
      refine exists_congr fun q => ⟨fun ⟨hq, he⟩ => ⟨hq.1, he⟩, fun ⟨hq, he⟩ => ⟨⟨hq, ?_⟩, he⟩⟩
      exact fun hqp => hk (he.symm.trans hqp)

/-- On sorted paths it does not matter whether first some paths go or first the
    repeated ones, if paths that are equal step by step go together. -/
theorem dropRepeated_filter {keep : Path → Bool}
    (hkeep : ∀ p q, p.key = q.key → keep p = keep q) {l : List Path}
    (hl : l.Pairwise fun p q => p.le q = true) :
    dropRepeated (l.filter keep) = (dropRepeated l).filter keep := by
  induction l with
  | nil => rfl
  | cons p l ih =>
    rw [dropRepeated_cons hl]
    by_cases hp : keep p = true
    · have hsorted := hl.filter keep
      rw [List.filter_cons_of_pos hp] at hsorted ⊢
      rw [dropRepeated_cons hsorted, ih hl.of_cons, List.filter_cons_of_pos hp, List.filter_comm]
    · rw [List.filter_cons_of_neg hp, List.filter_cons_of_neg hp, ih hl.of_cons,
        List.filter_filter]
      refine List.filter_congr fun q _ => ?_
      by_cases hkey : q.key = p.key
      · simp [hkeep q p hkey, hp]
      · simp [hkey]

end Sources

/-! ### Files that are gone -/

/-- The files of `fs'` are those of `fs`, but for some that are gone. -/
structure FileSystem.Lacks (fs' fs : FileSystem Id) (gone : Path → Bool) : Prop where
  /-- Paths that are equal step by step are gone together. -/
  gone_eq_of_key_eq : ∀ p q : Path, p.key = q.key → gone p = gone q
  kind?_eq : ∀ p, (fs'.kind? p).run = if gone p then none else (fs.kind? p).run
  names_eq : ∀ p, (fs'.names p).run = (fs.names p).run.filter fun name => !gone (p.child name)
  filesBelow_eq : ∀ p, (fs'.filesBelow p).run = (fs.filesBelow p).run.filter (!gone ·)
  resolve_eq : ∀ {p q}, gone p = false → (fs.resolve p).run = .ok q → (fs'.resolve p).run = .ok q
  read_eq_of_kind : ∀ {p}, gone p = false → (fs.kind? p).run ≠ none →
    (fs'.read p).run = (fs.read p).run
  read_eq_of_below : ∀ {p q}, gone q = false → q ∈ (fs.filesBelow p).run →
    (fs'.read q).run = (fs.read q).run

theorem Tree.IsPlain.lacks_erase {t : Tree} (h : t.IsPlain) {f : Location} {content : List UInt8}
    (hf : t.at? f = some (.file content)) (here : Location) :
    ((t.erase f).fileSystem here).Lacks (t.fileSystem here) fun p => p.place here = f where
  gone_eq_of_key_eq p q hkey := by rw [Path.place_eq_of_key_eq hkey]
  kind?_eq p := by
    simp only [decide_eq_true_eq]
    exact kind?_erase h hf here p
  names_eq p := by
    have hnames := names_erase h hf here p
    simp only [decide_not] at hnames
    exact hnames
  filesBelow_eq p := by
    have hbelow := filesBelow_fileSystem_erase h hf here p
    simp only [decide_not] at hbelow
    exact hbelow
  resolve_eq hp hq := (resolve_erase_iff h hf (of_decide_eq_false hp)).2 hq
  read_eq_of_kind {p} hp hkind := by
    cases hfind : t.find here p with
    | error fault =>
      refine absurd ?_ hkind
      simp only [fileSystem, hfind]
      rfl
    | ok x => exact read_erase_of_find h hf hfind (of_decide_eq_false hp)
  read_eq_of_below hq hbelow := read_erase_of_mem_filesBelow h hf hbelow (of_decide_eq_false hq)

namespace Project

variable (fs : FileSystem Id) (p : Project)

/-- The markup files that a check lists. -/
def markupPaths : List Path :=
  (Sources.markupFiles fs p.root (p.directory p.settings.templatesDir)).run

/-- The script files that a check lists. -/
def scriptPaths : List Path :=
  (Sources.scriptFiles fs (p.directory p.settings.scriptsDir)).run

/-- The files of catalogs that a check lists. -/
def catalogPaths : List Path :=
  (Catalogs.files fs (p.directory p.settings.catalogsDir)).run

theorem markupSources_eq : p.markupSources fs
    = (p.markupPaths fs).map fun q => (Sources.readOne fs p.root q).run := by
  rw [markupSources, Sources.read, List.idRun_mapM]
  rfl

theorem scriptSources_eq : p.scriptSources fs
    = (p.scriptPaths fs).map fun q => (Sources.readOne fs p.root q).run := by
  rw [scriptSources, Sources.read, List.idRun_mapM]
  rfl

theorem catalogFiles_eq : p.catalogFiles fs
    = (p.catalogPaths fs).map fun q => (Catalogs.loadOne fs q).run := by
  rw [catalogFiles, List.idRun_mapM]
  rfl

end Project

/-! ### The files of the lists -/

section Listed

variable {fs : FileSystem Id} {p : Project} {q : Path}

/-- A file of a directory goes by a name that satisfies the test. -/
theorem FileSystem.mem_filesIn {directory : Path} {test : FileName → Bool}
    (h : q ∈ (fs.filesIn directory test).run) :
    (∃ name, q.fileName? = some name ∧ test name = true) ∧ (fs.isFile q).run = true := by
  obtain ⟨name, -, htest, rfl, hfile⟩ := mem_filesIn_iff.1 h
  exact ⟨⟨name, directory.fileName?_child name, htest⟩, beq_iff_eq.2 hfile⟩

theorem Sources.mem_sortPaths {l : List Path} : q ∈ sortPaths l ↔ q ∈ l :=
  (List.mergeSort_perm l Path.le).mem_iff

namespace Project

theorem mem_markupPaths (h : q ∈ p.markupPaths fs) :
    (∃ name, q.fileName? = some name ∧ Sources.isMarkupName name = true)
      ∧ (fs.isFile q).run = true := by
  have hmem := Sources.mem_sortPaths.1 ((Sources.dropRepeated_sublist _).subset h)
  rcases List.mem_append.1 hmem with hmem | hmem <;> exact FileSystem.mem_filesIn hmem

theorem mem_scriptPaths (h : q ∈ p.scriptPaths fs) :
    Sources.isScript q = true ∧ q ∈ (fs.filesBelow (p.directory p.settings.scriptsDir)).run :=
  (List.mem_filter.1 (Sources.mem_sortPaths.1 h)).symm

theorem mem_catalogPaths (h : q ∈ p.catalogPaths fs) :
    (∃ name, q.fileName? = some name ∧ name.hasExtension Catalogs.extension = true)
      ∧ (fs.isFile q).run = true :=
  FileSystem.mem_filesIn (Sources.mem_sortPaths.1 h)

end Project

end Listed

/-! ### What is left of the lists -/

namespace FileSystem.Lacks

variable {fs fs' : FileSystem Id} {gone : Path → Bool}

theorem isFile_eq (h : fs'.Lacks fs gone) (p : Path) :
    (fs'.isFile p).run = (!gone p && (fs.isFile p).run) := by
  have run_isFile (fs : FileSystem Id) : (fs.isFile p).run = ((fs.kind? p).run == some .file) := rfl
  rw [run_isFile, run_isFile, h.kind?_eq]
  cases gone p <;> rfl

/-- A file that stays is read as before. -/
theorem read_eq_of_isFile (h : fs'.Lacks fs gone) {q : Path} (hq : (fs.isFile q).run = true)
    (hg : gone q = false) : (fs'.read q).run = (fs.read q).run := by
  refine h.read_eq_of_kind hg fun hnone => ?_
  have hfile : ((fs.kind? q).run == some .file) = true := hq
  rw [hnone] at hfile
  cases hfile

theorem filesIn_eq (h : fs'.Lacks fs gone) (directory : Path) (test : FileName → Bool) :
    (fs'.filesIn directory test).run = (fs.filesIn directory test).run.filter (!gone ·) := by
  rw [run_filesIn, run_filesIn, h.names_eq, List.filter_comm]
  have hmap (names : List FileName) : (names.filter fun name => !gone (directory.child name)).map
      directory.child = (names.map directory.child).filter (!gone ·) := by
    rw [List.filter_map]
    rfl
  rw [hmap, List.filter_filter, List.filter_filter]
  refine List.filter_congr fun q _ => ?_
  rw [h.isFile_eq]
  cases gone q <;> simp

variable (p : Project)

theorem markupPaths_eq (h : fs'.Lacks fs gone) :
    p.markupPaths fs' = (p.markupPaths fs).filter (!gone ·) := by
  have run_markupFiles (fs : FileSystem Id) : p.markupPaths fs =
      Sources.dropRepeated (Sources.sortPaths (
        (fs.filesIn (Sources.lookupDirectory p.root) Sources.isMarkupName).run
        ++ (fs.filesIn (Sources.lookupDirectory (p.directory p.settings.templatesDir))
          Sources.isMarkupName).run)) := rfl
  rw [run_markupFiles, run_markupFiles, h.filesIn_eq, h.filesIn_eq, ← List.filter_append,
    Sources.sortPaths_filter, Sources.dropRepeated_filter _ (Sources.pairwise_sortPaths _)]
  intro q r hkey
  rw [h.gone_eq_of_key_eq q r hkey]

theorem scriptPaths_eq (h : fs'.Lacks fs gone) :
    p.scriptPaths fs' = (p.scriptPaths fs).filter (!gone ·) := by
  have run_scriptFiles (fs : FileSystem Id) : p.scriptPaths fs =
      Sources.sortPaths ((fs.filesBelow (p.directory p.settings.scriptsDir)).run.filter
        Sources.isScript) := rfl
  rw [run_scriptFiles, run_scriptFiles, h.filesBelow_eq, List.filter_comm,
    Sources.sortPaths_filter]

theorem catalogPaths_eq (h : fs'.Lacks fs gone) :
    p.catalogPaths fs' = (p.catalogPaths fs).filter (!gone ·) := by
  have run_files (fs : FileSystem Id) : p.catalogPaths fs =
      Sources.sortPaths (fs.filesIn (p.directory p.settings.catalogsDir)
        (·.hasExtension Catalogs.extension)).run := rfl
  rw [run_files, run_files, h.filesIn_eq, Sources.sortPaths_filter]

end FileSystem.Lacks

end CatalogAudit
