import CatalogAudit.Proofs.Files.Following
import CatalogAudit.Proofs.Project.Excluded
import CatalogAudit.Proofs.Project.Listing

/-!
# Which files are sources

Sources are found by where they are and how they are called, in whatever order directories are
listed. Scripts lie at any depth below their directory and are no links; markup files lie directly
in one of two directories, which may be one and the same, and may be links to files.

* `Tree.ShownBy`: a file system that lists the directories of a tree in any order.
* `Sources.IsScriptAt`, `Sources.IsMarkupAt`: what sources are.
* `Sources.markup_and_script_files`: what is found.
-/

namespace CatalogAudit

/-- The file system shows the files of a tree, and lists them in any order. -/
structure Tree.ShownBy (t : Tree) (here : Location) (fs : FileSystem Id) : Prop where
  kind?_eq : ∀ p, (fs.kind? p).run = ((t.fileSystem here).kind? p).run
  names_perm : ∀ p, (fs.names p).run.Perm ((t.fileSystem here).names p).run
  filesBelow_perm : ∀ p, (fs.filesBelow p).run.Perm ((t.fileSystem here).filesBelow p).run

namespace Sources

/-- A regular file at any depth below the directory, with the extension of scripts. The place of
    the directory is where its path leads, and the names below it lead through no links. -/
def IsScriptAt (t : Tree) (here : Location) (directory q : Path) : Prop :=
  ∃ place below name content, t.find here directory = .ok (place, .directory)
    ∧ t.at? (place ++ (below ++ [name])) = some (.file content)
    ∧ (∃ stem, stem ≠ [] ∧ name.bytes = stem ++ dot :: Utf8.encode "js")
    ∧ q = (below ++ [name]).foldl Path.child directory

/-- An entry of the directory that is a file, links followed, with a text for its name that ends
    as those of markup files do. -/
def IsMarkupAt (t : Tree) (here : Location) (directory q : Path) : Prop :=
  ∃ place name, t.find here directory = .ok (place, .directory)
    ∧ t.at? (place ++ [name]) ≠ none
    ∧ (∃ text, name.bytes = Utf8.encode text) ∧ Utf8.encode ".html" <:+ name.bytes
    ∧ ((t.fileSystem here).kind? q).run = some .file ∧ q = directory.child name

variable {t : Tree} {here : Location} {fs : FileSystem Id} {directory root templates q : Path}

/-! ### Scripts -/

theorem isScript_foldl_child {below : Location} {name : FileName} :
    isScript ((below ++ [name]).foldl Path.child directory) = true
      ↔ ∃ stem, stem ≠ [] ∧ name.bytes = stem ++ dot :: Utf8.encode "js" := by
  have hname : ((below ++ [name]).foldl Path.child directory).fileName? = some name := by
    rw [List.foldl_append]
    exact Path.fileName?_child _ name
  rw [isScript, hname]
  exact FileName.hasExtension_iff (by decide)

theorem mem_scriptFiles_iff (h : t.ShownBy here fs) :
    q ∈ (scriptFiles fs directory).run ↔ IsScriptAt t here directory q := by
  have hmem : q ∈ (scriptFiles fs directory).run
      ↔ q ∈ (fs.filesBelow directory).run.filter isScript := mem_sortPaths
  rw [hmem, List.mem_filter, (h.filesBelow_perm directory).mem_iff,
    Tree.mem_filesBelow_run_iff]
  constructor
  · rintro ⟨⟨place, names, content, hfind, hfile, rfl⟩, hscript⟩
    rcases List.eq_nil_or_concat names with rfl | ⟨below, name, rfl⟩
    · -- The directory itself is no file.
      rw [List.append_nil, (Tree.find_eq_ok_iff.1 hfind).2] at hfile
      cases hfile
    · rw [List.concat_eq_append] at hfile hscript ⊢
      exact ⟨place, below, name, content, hfind, hfile, isScript_foldl_child.1 hscript, rfl⟩
  · rintro ⟨place, below, name, content, hfind, hfile, hname, rfl⟩
    exact ⟨⟨place, _, content, hfind, hfile, rfl⟩, isScript_foldl_child.2 hname⟩

/-- Names below a directory are told by the path that they make. -/
theorem nodup_key_filesBelow :
    (((t.fileSystem here).filesBelow directory).run.map Path.key).Nodup := by
  simp only [Tree.fileSystem, Id.run]
  split
  · rename_i place _
    rw [List.map_map]
    refine (t.nodup_filesBelow place).map ?_
    intro names names' h
    have hcomponents := List.map_injective_iff.2 Path.key_injective h
    rw [Path.components_foldl_child, Path.components_foldl_child] at hcomponents
    exact List.map_injective_iff.2 (fun _ _ => Component.name.inj)
      (List.append_cancel_left hcomponents)
  · exact .nil

theorem scriptFiles_ascending (h : t.ShownBy here fs) :
    (scriptFiles fs directory).run.Pairwise fun p q => p.key < q.key := by
  refine pairwise_lt_sortPaths (l := (fs.filesBelow directory).run.filter isScript) ?_
  refine List.Nodup.sublist (List.filter_sublist.map _) ?_
  exact ((h.filesBelow_perm directory).map _).nodup_iff.2 nodup_key_filesBelow

/-! ### Markup files -/

theorem isMarkupName_iff {name : FileName} : isMarkupName name = true
    ↔ (∃ text, name.bytes = Utf8.encode text) ∧ Utf8.encode ".html" <:+ name.bytes := by
  rw [isMarkupName, Bool.and_eq_true, List.isSuffixOf_iff_suffix, Option.isSome_iff_exists,
    and_comm]
  simp only [Utf8.decode?_eq_some_iff]
  rfl

theorem mem_filesIn_iff (h : t.ShownBy here fs) :
    q ∈ (fs.filesIn directory isMarkupName).run ↔ IsMarkupAt t here directory q := by
  rw [FileSystem.mem_filesIn_iff, h.kind?_eq]
  simp only [(h.names_perm directory).mem_iff, Tree.mem_names_iff, isMarkupName_iff]
  constructor
  · rintro ⟨name, ⟨place, hfind, hentry⟩, ⟨htext, hending⟩, rfl, hfile⟩
    exact ⟨place, name, hfind, hentry, htext, hending, hfile, rfl⟩
  · rintro ⟨place, name, hfind, hentry, htext, hending, hfile, rfl⟩
    exact ⟨name, ⟨place, hfind, hentry⟩, ⟨htext, hending⟩, rfl, hfile⟩

/-- Paths of the same steps have the same markup files directly below them, but for the way in
    which their paths are written. -/
theorem IsMarkupAt.of_sameSteps {other : Path} (hq : IsMarkupAt t here directory q)
    (h : directory.SameSteps other) (habsolute : directory.isAbsolute = true) :
    ∃ q', IsMarkupAt t here other q' ∧ q'.components = q.components := by
  obtain ⟨place, name, hfind, hentry, htext, hending, hfile, rfl⟩ := hq
  obtain ⟨hlocate, hplace⟩ := Tree.find_eq_ok_iff.1 hfind
  have hfind' : t.find here other = .ok (place, .directory) :=
    Tree.find_eq_ok_iff.2 ⟨(Tree.locate_eq_ok_iff_of_sameSteps h hplace).1 hlocate, hplace⟩
  have hfile' : ((t.fileSystem here).kind? (other.child name)).run = some .file := by
    rw [← hfile]
    simp only [Tree.fileSystem, Tree.find_child_congr h]
  refine ⟨other.child name, ⟨place, name, hfind', hentry, htext, hending, hfile', rfl⟩, ?_⟩
  rw [Path.components_child, Path.components_child, h.components_eq habsolute]

/-- Nothing is missed for looking into the directory under another spelling of its path. -/
theorem exists_mem_lookupDirectory_iff (h : t.ShownBy here fs) {text : String}
    (habsolute : (Path.ofText text).isAbsolute = true) {cs : List Component} :
    (∃ q ∈ (fs.filesIn (lookupDirectory (.ofText text)) isMarkupName).run, q.components = cs)
      ↔ ∃ q, IsMarkupAt t here (.ofText text) q ∧ q.components = cs := by
  have hsame : (lookupDirectory (.ofText text)).SameSteps (.ofText text) :=
    sameSteps_lookupDirectory (Utf8.decode?_encode text)
  simp only [mem_filesIn_iff h]
  constructor
  · rintro ⟨q, hq, rfl⟩
    exact hq.of_sameSteps hsame (hsame.isAbsolute_eq.trans habsolute)
  · rintro ⟨q, hq, rfl⟩
    exact hq.of_sameSteps hsame.symm habsolute

theorem exists_mem_markupFiles_iff {cs : List Component} :
    (∃ q ∈ (markupFiles fs root templates).run, q.components = cs)
      ↔ ∃ directory ∈ [root, templates],
        ∃ q ∈ (fs.filesIn (lookupDirectory directory) isMarkupName).run, q.components = cs := by
  have hmarkup : (markupFiles fs root templates).run = dropRepeated (sortPaths
      ((fs.filesIn (lookupDirectory root) isMarkupName).run
        ++ (fs.filesIn (lookupDirectory templates) isMarkupName).run)) := rfl
  have hkey (l : List Path) :
      (∃ q ∈ l, q.components = cs) ↔ cs.map Component.key ∈ l.map Path.key := by
    rw [List.mem_map]
    refine exists_congr fun q => and_congr_right fun _ => ?_
    exact (List.map_injective_iff.2 Path.key_injective).eq_iff.symm
  rw [hkey, hmarkup, mem_map_key_dropRepeated (pairwise_sortPaths _), ← hkey]
  simp only [mem_sortPaths, List.mem_append, List.mem_cons, List.not_mem_nil, or_false,
    or_and_right, exists_or, exists_eq_left]

/-- The script files are exactly the scripts below their directory, and the markup files are
    exactly those directly in the root and directly in the directory of templates. Both ascend
    strictly by their components, so none is there twice. -/
theorem markup_and_script_files (h : t.ShownBy here fs) (scripts : Path) {root templates : String}
    (hroot : (Path.ofText root).isAbsolute = true)
    (htemplates : (Path.ofText templates).isAbsolute = true) :
    ((scriptFiles fs scripts).run.Pairwise fun p q => p.key < q.key)
      ∧ (∀ q, q ∈ (scriptFiles fs scripts).run ↔ IsScriptAt t here scripts q)
      ∧ ((markupFiles fs (.ofText root) (.ofText templates)).run.Pairwise fun p q => p.key < q.key)
      ∧ ∀ cs, (∃ q ∈ (markupFiles fs (.ofText root) (.ofText templates)).run, q.components = cs)
        ↔ ∃ directory ∈ [Path.ofText root, Path.ofText templates],
          ∃ q, IsMarkupAt t here directory q ∧ q.components = cs := by
  refine ⟨scriptFiles_ascending h, fun q => mem_scriptFiles_iff h,
    pairwise_lt_dropRepeated (pairwise_sortPaths _), fun cs => ?_⟩
  rw [exists_mem_markupFiles_iff]
  refine exists_congr fun directory => and_congr_right fun hdirectory => ?_
  rcases List.mem_pair.1 hdirectory with rfl | rfl
  · exact exists_mem_lookupDirectory_iff h hroot
  · exact exists_mem_lookupDirectory_iff h htemplates

def linkName : FileName where
  bytes := Utf8.encode "[x].html"
  proper := by decide

/-- A script below a directory, and a link to it that is called like a markup file. -/
def linkedTree : Tree :=
  Project.selectorTree.insert [linkName] (.link (.ofText "js/app.js"))

/-- The tree with everything listed the other way round. -/
def linkedFiles : FileSystem Id :=
  { linkedTree.fileSystem [] with
    names := fun p => ((linkedTree.fileSystem []).names p).reverse
    filesBelow := fun p => ((linkedTree.fileSystem []).filesBelow p).reverse }

/-- The link is found once, although it lies in both directories of markup files. -/
theorem markup_and_script_files_linked :
    linkedTree.ShownBy [] linkedFiles ∧ (Path.ofText "/").isAbsolute = true
      ∧ (Path.ofText "//.").isAbsolute = true
      ∧ Path.ofText "/js/app.js" ∈ (scriptFiles linkedFiles (.ofText "/js")).run
      ∧ (∃ q ∈ (markupFiles linkedFiles (.ofText "/") (.ofText "//.")).run,
        q.components = [.root, .name linkName])
      ∧ (markupFiles linkedFiles (.ofText "/") (.ofText "//.")).run.Pairwise
        fun p q => p.key < q.key := by
  have hshown : linkedTree.ShownBy [] linkedFiles :=
    ⟨fun _ => rfl, fun _ => List.reverse_perm _, fun _ => List.reverse_perm _⟩
  have habsolute : (Path.ofText "/").isAbsolute = true ∧ (Path.ofText "//.").isAbsolute = true := by
    decide +kernel
  obtain ⟨-, hscripts, hascending, hmarkup⟩ :=
    markup_and_script_files hshown (.ofText "/js") habsolute.1 habsolute.2
  have hscript : IsScriptAt linkedTree [] (.ofText "/js") (.ofText "/js/app.js") :=
    ⟨[Project.scriptsName], [], Project.scriptName, Utf8.encode "l('.hide')", by cbv,
      by decide +kernel, ⟨Utf8.encode "app", by decide, by decide +kernel⟩, by decide +kernel⟩
  have hlink : IsMarkupAt linkedTree [] (.ofText "/") (.ofText "/[x].html") :=
    ⟨[], linkName, by cbv, by decide +kernel, ⟨"[x].html", rfl⟩, by decide +kernel, by cbv,
      by decide +kernel⟩
  exact ⟨hshown, habsolute.1, habsolute.2, (hscripts _).2 hscript,
    (hmarkup _).2 ⟨_, List.mem_cons_self, _, hlink, by decide +kernel⟩, hascending⟩

end Sources

end CatalogAudit
