import CatalogAudit.Proofs.Files.Following
import CatalogAudit.Proofs.Project.FaultIsolation

/-!
# The files that a check depends on

The root and the settings of a project designate files by their places and names: markup
files, script files, catalogs, and what settings are looked for by. On a tree without links
a check depends on these files only, so whatever becomes of any other file, the check ends
as before, warnings included.

There are two exceptions. Where the path of a directory of markup files is no text, they are
looked for in another directory; and a root may be a file, which leaves no project when it is
deleted.

* `Project.Designates`: the files that a project designates.
* `Project.Misreads`: the files that are taken for markup files of a directory whose path is
  no text.
* `Project.isAt_erase_iff`, `Project.run_check_erase`: the project and its check without
  another file.
* `Project.run_check_congr`: the check where nothing that is listed has changed.
* `Project.run_checkRoot_of_fileChange`: the check of a root before and after a change.
* `Project.checkRoot_ne_of_undesignated`: the two exceptions.
-/

namespace CatalogAudit

/-! ### Where settings are looked for -/

namespace Settings

variable {fs fs' : FileSystem Id} {directories : List Path}

/-- Settings are looked for by the entries with two names. -/
theorem run_findIn?_congr
    (h : ∀ directory ∈ directories, ∀ mark ∈ [fileName, repositoryMark],
      (fs'.exists? (directory.join mark)).run = (fs.exists? (directory.join mark)).run) :
    (findIn? fs' directories).run = (findIn? fs directories).run := by
  induction directories with
  | nil => rfl
  | cons directory directories ih =>
    rw [run_findIn?_cons, run_findIn?_cons, h directory List.mem_cons_self fileName (by simp),
      h directory List.mem_cons_self repositoryMark (by simp),
      ih fun other hother => h other (List.mem_cons_of_mem directory hother)]

theorem mem_of_findIn? {file : Path} (h : (findIn? fs directories).run = some file) :
    ∃ directory ∈ directories, file = directory.join fileName := by
  induction directories with
  | nil => cases h
  | cons directory directories ih =>
    rw [run_findIn?_cons] at h
    split at h
    · exact ⟨directory, List.mem_cons_self, (Option.some.inj h).symm⟩
    · split at h
      · cases h
      · obtain ⟨other, hother, hfile⟩ := ih h
        exact ⟨other, List.mem_cons_of_mem directory hother, hfile⟩

end Settings

/-- What a path is resolved to is the path of the place that it leads to. -/
theorem Tree.exists_of_resolve {t : Tree} {here : Location} {directory q : Path}
    (h : ((t.fileSystem here).resolve directory).run = .ok q) :
    ∃ place, t.locate here directory = .ok place ∧ q = place.path := by
  change (t.locate here directory).map Location.path = .ok q at h
  cases hlocate : t.locate here directory with
  | error fault =>
    rw [hlocate] at h
    cases h
  | ok place =>
    rw [hlocate] at h
    exact ⟨place, rfl, (Except.ok.inj h).symm⟩

namespace Project

variable {t t' : Tree} {here f : Location} {root q : Path} {content : List UInt8} {p : Project}
  {limit : SizeLimit}

/-! ### Designated files -/

/-- The file is one that a check of the project looks for. -/
inductive Designates (t : Tree) (here : Location) (p : Project) (f : Location) : Prop
  /-- Markup files are directly in the root or directly in the directory of templates. -/
  | markup {directory : Path} {place : Location} {name : FileName} :
    directory ∈ [p.root, p.directory p.settings.templatesDir] →
      t.locate here directory = .ok place → Sources.isMarkupName name = true →
        f = place ++ [name] → Designates t here p f
  /-- Script files are anywhere below the directory of scripts. -/
  | script {place below : Location} {name : FileName} :
    t.locate here (p.directory p.settings.scriptsDir) = .ok place →
      name.hasExtension Sources.scriptExtension = true → f = place ++ below ++ [name] →
        Designates t here p f
  /-- Catalogs are directly in the directory of catalogs. -/
  | catalog {place : Location} {name : FileName} :
    t.locate here (p.directory p.settings.catalogsDir) = .ok place →
      name.hasExtension Catalogs.extension = true → f = place ++ [name] → Designates t here p f
  /-- Settings, and the mark of a repository, are in the root or above it. -/
  | settings {above : Location} {name : FileName} :
    above <+: p.root.place here → name ∈ [settingsName, Settings.repositoryName] →
      f = above ++ [name] → Designates t here p f

/-- The path of a directory of markup files is no text, so that these are looked for in the
    directory of the nearest text, and the file is there. -/
inductive Misreads (t : Tree) (here : Location) (p : Project) (f : Location) : Prop
  | intro {directory : Path} {place : Location} {name : FileName} :
    directory ∈ [p.root, p.directory p.settings.templatesDir] →
      Utf8.decode? directory.bytes = none →
        t.locate here (Sources.lookupDirectory directory) = .ok place →
          Sources.isMarkupName name = true → f = place ++ [name] → Misreads t here p f

/-- A check looks for the file, rightly or not. -/
def LooksFor (t : Tree) (here : Location) (p : Project) (f : Location) : Prop :=
  p.Designates t here f ∨ p.Misreads t here f

/-- A file is looked for in a tree if in another one, as long as the ways to the directories
    in which it may be are the same. -/
theorem LooksFor.of_locate (h : p.LooksFor t here f)
    (hlocate : ∀ q place, t.locate here q = .ok place → place ≠ f →
      t'.locate here q = .ok place) : p.LooksFor t' here f := by
  have ne_append {place : Location} (below : Location) (name : FileName) :
      place ≠ place ++ below ++ [name] := by
    intro hself
    have hlength := congrArg List.length hself
    rw [List.length_append, List.length_append, List.length_singleton] at hlength
    omega
  rcases h with hdesignates | ⟨hdirectory, htext, hplace, hname, hf⟩
  · refine .inl ?_
    cases hdesignates with
    | markup hdirectory hplace hname hf =>
      exact .markup hdirectory (hlocate _ _ hplace (hf ▸ by simp)) hname hf
    | script hplace hname hf =>
      exact .script (hlocate _ _ hplace (hf ▸ ne_append _ _)) hname hf
    | catalog hplace hname hf => exact .catalog (hlocate _ _ hplace (hf ▸ by simp)) hname hf
    | settings habove hname hf => exact .settings habove hname hf
  · exact .inr ⟨hdirectory, htext, hlocate _ _ hplace (hf ▸ by simp), hname, hf⟩

/-- A check reads what it lists and nothing else. -/
theorem run_check_congr {fs fs' : FileSystem Id} (h : fs'.SameFiles fs)
    (hsources : ∀ q ∈ p.markupPaths fs ++ p.scriptPaths fs, (fs'.read q).run = (fs.read q).run)
    (hcatalogs : ∀ q ∈ p.catalogPaths fs, (fs'.read q).run = (fs.read q).run) :
    (p.check fs' limit).run = (p.check fs limit).run := by
  obtain ⟨hmarkupPaths, hscriptPaths, hcatalogPaths⟩ := paths_eq h p
  have hmarkup : p.markupSources fs' = p.markupSources fs := by
    rw [markupSources_eq, markupSources_eq, hmarkupPaths]
    exact List.map_congr_left fun q hq =>
      Sources.run_readOne_congr (hsources q (List.mem_append_left _ hq))
  have hscript : p.scriptSources fs' = p.scriptSources fs := by
    rw [scriptSources_eq, scriptSources_eq, hscriptPaths]
    exact List.map_congr_left fun q hq =>
      Sources.run_readOne_congr (hsources q (List.mem_append_right _ hq))
  have hcatalog : p.catalogFiles fs' = p.catalogFiles fs := by
    rw [catalogFiles_eq, catalogFiles_eq, hcatalogPaths]
    exact List.map_congr_left fun q hq => Catalogs.run_loadOne_congr (hcatalogs q hq)
  have houtcome (e : Exclusion) : p.outcomeOn fs' e = p.outcomeOn fs e := by
    rw [outcomeOn, outcomeOn, hmarkup, hscript, hcatalog]
  rw [check_within_eq, check_within_eq]
  simp only [houtcome]

/-! ### The check with another file gone or changed -/

section Other

variable (hplain : t.IsPlain) (hf : t.at? f = some (.file content)) (hother : ¬p.LooksFor t here f)

include hother

/-- Settings are looked for elsewhere. -/
theorem place_join_ne {resolved : Location} (hroot : p.root = resolved.path) {directory mark : Path}
    (hdirectory : directory ∈ p.root :: p.root.ancestors)
    (hmark : mark ∈ [Settings.fileName, Settings.repositoryMark]) :
    (directory.join mark).place here ≠ f := by
  obtain ⟨above, habove, rfl⟩ :
      ∃ above : Location, above <+: resolved ∧ directory = above.path := by
    rw [hroot] at hdirectory
    rcases List.mem_cons.1 hdirectory with rfl | hdirectory
    · exact ⟨resolved, List.prefix_rfl, rfl⟩
    · exact Location.exists_of_mem_ancestors hdirectory
  obtain ⟨name, hname, rfl⟩ :
      ∃ name ∈ [settingsName, Settings.repositoryName], mark = { bytes := name.bytes } := by
    rcases List.mem_pair.1 hmark with rfl | rfl
    · exact ⟨settingsName, by simp, rfl⟩
    · exact ⟨Settings.repositoryName, by simp, rfl⟩
  have hchild := Path.place_child here above.path name
  rw [Location.place_path] at hchild
  rintro rfl
  refine hother (.inl (.settings ?_ hname hchild))
  rwa [hroot, Location.place_path]

include hplain hf

/-- What is found in a directory of markup files is looked for there, rightly or not. -/
theorem place_ne_of_mem_filesIn {directory : Path}
    (hdirectory : directory ∈ [p.root, p.directory p.settings.templatesDir])
    (hq : q ∈ ((t.fileSystem here).filesIn (Sources.lookupDirectory directory)
      Sources.isMarkupName).run) : q.place here ≠ f := by
  obtain ⟨name, hmem, hname, rfl, -⟩ := FileSystem.mem_filesIn_iff.1 hq
  obtain ⟨place, hfind, -⟩ := Tree.mem_names_iff.1 hmem
  obtain ⟨hlookup, hplace⟩ := Tree.find_eq_ok_iff.1 hfind
  have hchild : ((Sources.lookupDirectory directory).child name).place here = place ++ [name] := by
    rw [Path.place_child, Tree.place_of_locate hplain hlookup]
  rintro rfl
  cases htext : Utf8.decode? directory.bytes with
  | none => exact hother (.inr ⟨hdirectory, htext, hlookup, hname, hchild⟩)
  | some text =>
    have hlocate := (Tree.locate_eq_ok_iff_of_sameSteps
      (Sources.sameSteps_lookupDirectory htext) hplace).1 hlookup
    exact hother (.inl (.markup hdirectory hlocate hname hchild))

/-- The sources and the catalogs that are listed are other files. -/
theorem place_ne_of_mem_sources
    (hq : q ∈ p.markupPaths (t.fileSystem here) ++ p.scriptPaths (t.fileSystem here)) :
    q.place here ≠ f := by
  rcases List.mem_append.1 hq with hq | hq
  · have hmem := Sources.mem_sortPaths.1 ((Sources.dropRepeated_sublist _).subset hq)
    rcases List.mem_append.1 hmem with hmem | hmem
    · exact place_ne_of_mem_filesIn hplain hf hother (by simp) hmem
    · exact place_ne_of_mem_filesIn hplain hf hother (by simp) hmem
  · obtain ⟨name, hname, hscript⟩ := exists_name_of_mem_scriptPaths hq
    obtain ⟨place, names, -, hfind, -, rfl⟩ :=
      Tree.mem_filesBelow_run_iff.1 (mem_scriptPaths hq).2
    obtain ⟨hlocate, hplace⟩ := Tree.find_eq_ok_iff.1 hfind
    have hlast := Path.getLast?_place hname here
    rw [Path.place_foldl_child, Tree.place_of_locate hplain hlocate] at hlast ⊢
    rcases List.eq_nil_or_concat names with rfl | ⟨below, last, rfl⟩
    · -- The directory itself is no file.
      rw [List.append_nil]
      rintro rfl
      cases hf.symm.trans hplace
    · rw [List.concat_eq_append, ← List.append_assoc, List.getLast?_concat] at hlast
      obtain rfl := Option.some.inj hlast
      have hplaces : place ++ below.concat last = place ++ below ++ [last] := by
        rw [List.concat_eq_append, List.append_assoc]
      rintro rfl
      exact hother (.inl (.script hlocate hscript hplaces))

theorem place_ne_of_mem_catalogs (hq : q ∈ p.catalogPaths (t.fileSystem here)) :
    q.place here ≠ f := by
  obtain ⟨name, hmem, hname, rfl, -⟩ := FileSystem.mem_filesIn_iff.1 (Sources.mem_sortPaths.1 hq)
  obtain ⟨place, hfind, -⟩ := Tree.mem_names_iff.1 hmem
  have hlocate := (Tree.find_eq_ok_iff.1 hfind).1
  rw [Path.place_child, Tree.place_of_locate hplain hlocate]
  rintro rfl
  exact hother (.inl (.catalog hlocate hname rfl))

/-- A check goes as before without a file that it does not look for. -/
theorem run_check_erase :
    (p.check ((t.erase f).fileSystem here) limit).run
      = (p.check (t.fileSystem here) limit).run := by
  have hsame : SameButWarned _ (p.check ((t.erase f).fileSystem here) limit).run
      (p.check (t.fileSystem here) limit).run := sameButWarned_of_lacks (hplain.lacks_erase hf here)
    (fun q hq hgone => absurd (of_decide_eq_true hgone)
      (place_ne_of_mem_sources hplain hf hother hq))
    fun q hq hgone => absurd (of_decide_eq_true hgone)
      (place_ne_of_mem_catalogs hplain hf hother hq)
  have hnames : p.namesOf (t.fileSystem here) (fun q => q.place here = f) = [] := by
    rw [namesOf, List.map_eq_nil_iff, List.filter_eq_nil_iff]
    intro e he hgone
    refine absurd (of_decide_eq_true hgone) ?_
    rcases List.mem_append.1 he with he | he <;> obtain ⟨q, hq, rfl⟩ := List.mem_map.1 he
    · exact place_ne_of_mem_sources hplain hf hother hq
    · exact place_ne_of_mem_catalogs hplain hf hother hq
  rw [hnames] at hsame
  exact hsame.eq_of_nil

/-- Settings are found as before. -/
theorem run_find?_erase {resolved : Location} (hroot : p.root = resolved.path) :
    (Settings.find? ((t.erase f).fileSystem here) p.root).run
      = (Settings.find? (t.fileSystem here) p.root).run := by
  refine Settings.run_findIn?_congr fun directory hdirectory mark hmark => ?_
  have run_exists? (fs : FileSystem Id) (q : Path) :
      (fs.exists? q).run = ((fs.kind? q).run).isSome := rfl
  have hne := place_join_ne hother hroot hdirectory hmark
  rw [run_exists?, run_exists?, (hplain.lacks_erase hf here).kind?_eq, if_neg (by simpa using hne)]

/-- And what is found is read as before. -/
theorem run_read_settings_erase {resolved : Location} (hroot : p.root = resolved.path)
    {file : Path} (hfile : (Settings.find? (t.fileSystem here) p.root).run = some file) :
    (((t.erase f).fileSystem here).read file).run = ((t.fileSystem here).read file).run := by
  have hexists : (((t.fileSystem here).kind? file).run).isSome = true :=
    Settings.exists_of_find? hfile
  obtain ⟨directory, hdirectory, rfl⟩ := Settings.mem_of_findIn? hfile
  have hne := place_join_ne hother hroot hdirectory List.mem_cons_self
  refine (hplain.lacks_erase hf here).read_eq_of_kind (decide_eq_false hne) fun hnone => ?_
  rw [hnone] at hexists
  cases hexists

/-- Without such a file the project at a root is the same. -/
theorem isAt_erase_iff (hroot : root.place here ≠ f) :
    p.IsAt ((t.erase f).fileSystem here) root limit
      ↔ p.IsAt (t.fileSystem here) root limit := by
  have hresolve := Tree.resolve_erase_iff (q := p.root) hplain hf hroot
  constructor
  · intro h
    have hresolved := hresolve.1 h.resolve_eq
    obtain ⟨place, -, hplace⟩ := Tree.exists_of_resolve hresolved
    have hfind := run_find?_erase hplain hf hother hplace
    exact h.congr hresolved hfind.symm fun file hfile =>
      (run_read_settings_erase hplain hf hother hplace (hfind ▸ hfile)).symm
  · intro h
    obtain ⟨place, -, hplace⟩ := Tree.exists_of_resolve h.resolve_eq
    exact h.congr (hresolve.2 h.resolve_eq) (run_find?_erase hplain hf hother hplace)
      fun file hfile => run_read_settings_erase hplain hf hother hplace hfile

/-- The check of a root goes as before without such a file. -/
theorem run_checkRoot_erase (hp : p.IsAt (t.fileSystem here) root limit)
    (hroot : root.place here ≠ f) :
    (checkRoot ((t.erase f).fileSystem here) root limit).run
      = (checkRoot (t.fileSystem here) root limit).run := by
  have herased := (isAt_erase_iff hplain hf hother hroot).2 hp
  rw [herased.run_checkRoot, hp.run_checkRoot, run_check_erase hplain hf hother]

/-- The check of a root goes as before with another content of such a file, the root itself
    included. -/
theorem run_checkRoot_replace (hp : p.IsAt (t.fileSystem here) root limit) (bytes : List UInt8) :
    (checkRoot ((t.replace f bytes).fileSystem here) root limit).run
      = (checkRoot (t.fileSystem here) root limit).run := by
  have hsame := hplain.sameFiles_replace f bytes here
  have hread (q : Path) (hq : q.place here ≠ f) :
      (((t.replace f bytes).fileSystem here).read q).run = ((t.fileSystem here).read q).run :=
    congrArg Id.run (Tree.read_replace hplain hq)
  have hp' : p.IsAt ((t.replace f bytes).fileSystem here) root limit := by
    obtain ⟨place, -, hplace⟩ := Tree.exists_of_resolve hp.resolve_eq
    refine hp.congr ?_ (by rw [hsame.find?_eq]) fun file hfile => ?_
    · rw [hsame.resolve_eq]
      exact hp.resolve_eq
    · obtain ⟨directory, hdirectory, rfl⟩ := Settings.mem_of_findIn? hfile
      exact hread _ (place_join_ne hother hplace hdirectory List.mem_cons_self)
  rw [hp'.run_checkRoot, hp.run_checkRoot]
  exact run_check_congr hsame (fun q hq => hread q (place_ne_of_mem_sources hplain hf hother hq))
    fun q hq => hread q (place_ne_of_mem_catalogs hplain hf hother hq)

end Other

/-! ### The check after a change -/

/-- A file that is added, changed or deleted makes no difference to a check, unless the
    project at the root designates it. The file is not one that is misread, and if it is
    deleted, it is not the root itself. -/
theorem run_checkRoot_of_fileChange (hplain : t.IsPlain) (hchange : Tree.FileChange f t t')
    (hp : p.IsAt (t.fileSystem here) root limit)
    (hroot : t'.at? f = none → root.place here ≠ f)
    (hother : ¬p.Designates t here f) (hread : ¬p.Misreads t here f) :
    (checkRoot (t'.fileSystem here) root limit).run
      = (checkRoot (t.fileSystem here) root limit).run := by
  have hother : ¬p.LooksFor t here f := not_or.2 ⟨hother, hread⟩
  cases hchange with
  | add content hfree hparent =>
    have hf : (t.insert f (.file content)).at? f = some (.file content) :=
      Tree.at?_insert hfree hparent
    have herase : (t.insert f (.file content)).erase f = t := Tree.erase_insert hfree
    have hplain' := Tree.isPlain_of_erase (herase.symm ▸ hplain) hf
    have hother' : ¬p.LooksFor (t.insert f (.file content)) here f := by
      refine fun h => hother (h.of_locate fun q place hlocate hne => ?_)
      rw [← herase]
      exact (Tree.locate_erase_eq_ok_iff hplain' hf).2 ⟨hlocate, hne⟩
    have hroot : root.place here ≠ f := by
      obtain ⟨place, hlocate, -⟩ := Tree.exists_of_resolve hp.resolve_eq
      rw [Tree.place_of_locate hplain hlocate]
      exact ((Tree.locate_erase_eq_ok_iff hplain' hf).1 (herase.symm ▸ hlocate)).2
    have hp' := (isAt_erase_iff hplain' hf hother' hroot).1 (herase.symm ▸ hp)
    rw [← run_checkRoot_erase hplain' hf hother' hp' hroot, herase]
  | change content hf => exact run_checkRoot_replace hplain hf hother hp content
  | delete hf =>
    have hgone : (t.erase f).at? f = none := (Tree.at?_erase hf f).trans (if_pos rfl)
    exact run_checkRoot_erase hplain hf hother hp (hroot hgone)

def pageName : FileName where
  bytes := Utf8.encode "index.html"
  proper := by decide

/-- A file has one directory and one name. -/
theorem eq_of_append_eq (directory : Location) {last name : FileName} {place : Location}
    (h : directory ++ [last] = place ++ [name]) : place = directory ∧ name = last := by
  obtain ⟨hplace, hname⟩ := List.append_inj' h rfl
  exact ⟨hplace.symm, (List.singleton_inj.1 hname).symm⟩

/-- A page among the catalogs is no markup file of the project with the selector. -/
theorem not_designates_page :
    ¬selectorProject.Designates settledTree [] [catalogsName, pageName] := by
  rintro (⟨hdirectory, hplace, -, hf⟩ | ⟨-, hname, hf⟩ | ⟨-, hname, hf⟩ | ⟨-, hname, hf⟩)
  · have hplace' := Tree.place_of_locate isPlain_settled hplace
    obtain ⟨rfl, -⟩ := eq_of_append_eq [catalogsName] hf
    rcases List.mem_pair.1 hdirectory with rfl | rfl
    · exact absurd hplace' (by decide +kernel)
    · exact absurd hplace' (by decide +kernel)
  all_goals
    obtain ⟨-, rfl⟩ := eq_of_append_eq [catalogsName] hf
    exact absurd hname (by decide)

/-- The paths of its directories are text. -/
theorem not_misreads_page : ¬selectorProject.Misreads settledTree [] [catalogsName, pageName] := by
  rintro ⟨hdirectory, htext, -, -, -⟩
  rcases List.mem_pair.1 hdirectory with rfl | rfl
  · exact absurd htext (by decide +kernel)
  · exact absurd htext (by decide +kernel)

/-- A page that is put among the catalogs makes no difference. -/
theorem run_checkRoot_of_page_added :
    (checkRoot ((settledTree.insert [catalogsName, pageName]
      (.file (Utf8.encode "<b class=\"ds-i18n\">Hi</b>"))).fileSystem []) (.ofText "/")).run
      = (checkRoot (settledTree.fileSystem []) (.ofText "/")).run :=
  run_checkRoot_of_fileChange isPlain_settled (.add _ (by decide +kernel) (by decide +kernel))
    isAt_settled (fun _ => by decide +kernel) not_designates_page not_misreads_page

/-! ### The exceptions -/

/-- A file makes a difference although the project does not designate it. -/
structure IsException (t t' : Tree) (here f : Location) (root : Path) (p : Project) : Prop where
  plain : t.IsPlain
  change : Tree.FileChange f t t'
  isAt : p.IsAt (t.fileSystem here) root
  undesignated : ¬p.Designates t here f
  run_ne : (checkRoot (t'.fileSystem here) root).run ≠ (checkRoot (t.fileSystem here) root).run

def byteName : FileName where
  bytes := [0xff]
  proper := by decide

/-- The name as which the byte is shown. -/
def substituteName : FileName where
  bytes := Utf8.encode "\ufffd"
  proper := by decide

/-- A directory whose name is no text, and the directory as which it is shown. -/
def misreadTree : Tree :=
  (Tree.empty.insert [byteName] .directory).insert [substituteName] .directory

/-- The tree with a page in the second directory. -/
def misreadPageTree : Tree :=
  misreadTree.insert [substituteName, pageName]
    (.file (Utf8.encode "<b class=\"ds-i18n\">Hi</b>"))

/-- The project in the first directory. -/
def misreadProject : Project where
  root := { bytes := Utf8.encode "/" ++ [0xff] }
  base := { bytes := Utf8.encode "/" ++ [0xff] }
  settings := .default

theorem isAt_misread : misreadProject.IsAt (misreadTree.fileSystem []) misreadProject.root :=
  ⟨by cbv, .default (by cbv)⟩

theorem isAt_misreadPage :
    misreadProject.IsAt (misreadPageTree.fileSystem []) misreadProject.root :=
  ⟨by cbv, .default (by cbv)⟩

theorem markupSources_misread :
    misreadProject.markupSources (misreadTree.fileSystem []) = [] := by cbv

theorem markupSources_misreadPage :
    misreadProject.markupSources (misreadPageTree.fileSystem [])
      = [.ok { path := "/\ufffd/index.html", content := "<b class=\"ds-i18n\">Hi</b>" }] := by cbv

theorem not_designates_misreadPage :
    ¬misreadProject.Designates misreadTree [] [substituteName, pageName] := by
  rintro (⟨hdirectory, hplace, -, hf⟩ | ⟨-, hname, hf⟩ | ⟨-, hname, hf⟩ | ⟨-, hname, hf⟩)
  · have hplace' := Tree.place_of_locate (Tree.isPlain_of_any_isLink (by decide +kernel)) hplace
    obtain ⟨rfl, -⟩ := eq_of_append_eq [substituteName] hf
    rcases List.mem_pair.1 hdirectory with rfl | rfl
    · exact absurd hplace' (by decide +kernel)
    · exact absurd hplace' (by decide +kernel)
  all_goals
    obtain ⟨-, rfl⟩ := eq_of_append_eq [substituteName] hf
    exact absurd hname (by decide)

/-- The page counts among the markup files. -/
theorem isException_misread :
    IsException misreadTree misreadPageTree [] [substituteName, pageName] misreadProject.root
      misreadProject where
  plain := Tree.isPlain_of_any_isLink (by decide +kernel)
  change := .add _ (by decide +kernel) (by decide +kernel)
  isAt := isAt_misread
  undesignated := not_designates_misreadPage
  run_ne := by
    obtain ⟨e, he, -⟩ := exists_exclusion_selector
    have hdefault : Exclusion.ofPatterns misreadProject.settings.excludePatterns = .ok e := he
    rw [isAt_misreadPage.run_checkRoot, isAt_misread.run_checkRoot, check_eq, check_eq, hdefault]
    intro hsame
    have hcount : (accepted (misreadProject.markupSources (misreadPageTree.fileSystem []))).length
        = (accepted (misreadProject.markupSources (misreadTree.fileSystem []))).length :=
      congrArg Outcome.markupFiles (Except.ok.inj hsame)
    rw [markupSources_misreadPage, markupSources_misread] at hcount
    exact absurd hcount (by decide)

def notesName : FileName where
  bytes := Utf8.encode "notes.txt"
  proper := by decide

/-- A tree with one file. -/
def notesTree : Tree :=
  Tree.empty.insert [notesName] (.file [])

/-- The project whose root is this file. -/
def notesProject : Project where
  root := .ofText "/notes.txt"
  base := .ofText "/notes.txt"
  settings := .default

theorem isAt_notes : notesProject.IsAt (notesTree.fileSystem []) (.ofText "/notes.txt") :=
  ⟨by cbv, .default (by cbv)⟩

theorem not_designates_notes : ¬notesProject.Designates notesTree [] [notesName] := by
  rintro (⟨-, -, hname, hf⟩ | ⟨-, hname, hf⟩ | ⟨-, hname, hf⟩ | ⟨-, hname, hf⟩)
  all_goals
    obtain ⟨-, rfl⟩ := eq_of_append_eq [] hf
    exact absurd hname (by decide)

/-- Without the file there is no project. -/
theorem isException_notes :
    IsException notesTree (notesTree.erase [notesName]) [] [notesName] (.ofText "/notes.txt")
      notesProject where
  plain := Tree.isPlain_of_any_isLink (by decide +kernel)
  change := .delete (by decide +kernel : notesTree.at? [notesName] = some (.file []))
  isAt := isAt_notes
  undesignated := not_designates_notes
  run_ne := by
    obtain ⟨e, he, -⟩ := exists_exclusion_selector
    have hdefault : Exclusion.ofPatterns notesProject.settings.excludePatterns = .ok e := he
    have hresolve : (((notesTree.erase [notesName]).fileSystem []).resolve
        (.ofText "/notes.txt")).run = .error .notFound := by cbv
    rw [isAt_notes.run_checkRoot, check_eq, hdefault, CommandLine.run_checkRoot, run_ofRoot,
      hresolve]
    intro hsame
    cases hsame

/-- A file that the project does not designate makes a difference in a directory that is taken
    for the root by mistake, and where it is the root itself. -/
theorem checkRoot_ne_of_undesignated :
    IsException misreadTree misreadPageTree [] [substituteName, pageName] misreadProject.root
        misreadProject
      ∧ IsException notesTree (notesTree.erase [notesName]) [] [notesName] (.ofText "/notes.txt")
        notesProject :=
  ⟨isException_misread, isException_notes⟩

end Project

end CatalogAudit
