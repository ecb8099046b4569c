import CatalogAudit.Proofs.Files.Following
import CatalogAudit.Proofs.Project.AtRoot
import CatalogAudit.Proofs.Project.FaultIsolation

/-!
# The nearest settings

Settings are looked for from a directory upwards. Which file is found depends on the places above
the directory only: it is the settings of the nearest one that has any, unless a nearer one is
the top of a repository. In one directory the settings count before the mark.

* `Settings.IsNearest`: the place whose settings count.
* `Settings.isNearest_concat`: one step upwards.
* `Settings.find?_and_load_nearest`: what is found and what is loaded.
-/

namespace CatalogAudit.Settings

open Project (settingsName)

/-- There is an entry of the name in the directory at a place, links followed. -/
def Holds (t : Tree) (here place : Location) (name : FileName) : Prop :=
  ((t.fileSystem here).exists? (place.path.child name)).run = true

/-- The place is above `below`, or is `below` itself, and has settings. Before it there are neither
    settings nor the top of a repository. -/
structure IsNearest (t : Tree) (here below place : Location) : Prop where
  above : place <+: below
  holds : Holds t here place settingsName
  between : ∀ other, place <+: other → other <+: below → other ≠ place →
    ¬Holds t here other settingsName ∧ ¬Holds t here other repositoryName

variable {t : Tree} {here below place : Location} {start other directory file : Path}
  {directories : List Path}

/-! ### One step upwards -/

theorem isNearest_nil : IsNearest t here [] place ↔ place = [] ∧ Holds t here [] settingsName := by
  constructor
  · intro h
    obtain rfl := List.prefix_nil.1 h.above
    exact ⟨rfl, h.holds⟩
  · rintro ⟨rfl, h⟩
    exact ⟨List.prefix_rfl, h, fun other _ hother hne => absurd (List.prefix_nil.1 hother) hne⟩

theorem isNearest_concat {name : FileName} :
    IsNearest t here (below ++ [name]) place
      ↔ place = below ++ [name] ∧ Holds t here (below ++ [name]) settingsName
        ∨ ¬Holds t here (below ++ [name]) settingsName
          ∧ ¬Holds t here (below ++ [name]) repositoryName ∧ IsNearest t here below place := by
  constructor
  · intro h
    rcases List.prefix_concat_iff.1 h.above with rfl | habove
    · exact .inl ⟨rfl, h.holds⟩
    · have hne : below ++ [name] ≠ place := by
        rintro rfl
        simpa using habove.length_le
      obtain ⟨hsettings, hmark⟩ := h.between _ h.above List.prefix_rfl hne
      exact .inr ⟨hsettings, hmark, habove, h.holds, fun other hplace hother =>
        h.between other hplace (hother.trans (List.prefix_append below [name]))⟩
  · rintro (⟨rfl, h⟩ | ⟨hsettings, hmark, h⟩)
    · refine ⟨List.prefix_rfl, h, fun other hplace hother hne => absurd ?_ hne⟩
      exact hother.eq_of_length_le hplace.length_le
    · refine ⟨h.above.trans (List.prefix_append below [name]), h.holds, ?_⟩
      intro other hplace hother hne
      rcases List.prefix_concat_iff.1 hother with rfl | hother
      · exact ⟨hsettings, hmark⟩
      · exact h.between other hplace hother hne

/-! ### The walk upwards -/

/-- What is in a directory does not depend on how its path is written. -/
theorem exists?_child_iff (h : directory.Names place) (name : FileName) :
    ((t.fileSystem here).exists? (directory.child name)).run = true
      ↔ Holds t here place name := by
  have run_exists? (p : Path) : ((t.fileSystem here).exists? p).run
      = ((t.fileSystem here).kind? p).isSome := rfl
  rw [Holds, run_exists?, run_exists?, Tree.fileSystem]
  simp only [Tree.find_child_congr (h.sameSteps place.names_path)]

theorem run_findIn?_cons_of_names (h : directory.Names place) :
    (findIn? (t.fileSystem here) (directory :: directories)).run = some file
      ↔ file = directory.child settingsName ∧ Holds t here place settingsName
        ∨ ¬Holds t here place settingsName ∧ ¬Holds t here place repositoryName
          ∧ (findIn? (t.fileSystem here) directories).run = some file := by
  have hsettings : ((t.fileSystem here).exists? (directory.join fileName)).run = true
      ↔ Holds t here place settingsName := exists?_child_iff h settingsName
  have hmark : ((t.fileSystem here).exists? (directory.join repositoryMark)).run = true
      ↔ Holds t here place repositoryName := exists?_child_iff h repositoryName
  rw [run_findIn?_cons]
  split
  · rename_i hfile
    have hholds := hsettings.1 hfile
    simp only [hholds, not_true_eq_false, false_and, or_false, and_true, Option.some.injEq]
    exact eq_comm
  · rename_i hfile
    have hnot : ¬Holds t here place settingsName := fun hholds => hfile (hsettings.2 hholds)
    split
    · rename_i hrepository
      have hholds := hmark.1 hrepository
      simp [hnot, hholds]
    · rename_i hrepository
      have hnone : ¬Holds t here place repositoryName := fun hholds => hrepository (hmark.2 hholds)
      simp [hnot, hnone]

theorem exists_of_mem_left {α β : Type} {R : α → β → Prop} {l : List α} {m : List β}
    (h : List.Forall₂ R l m) {a : α} (ha : a ∈ l) : ∃ b ∈ m, R a b := by
  induction h with
  | nil => cases ha
  | @cons c b l m hcb _ ih =>
    rcases List.mem_cons.1 ha with rfl | ha
    · exact ⟨b, List.mem_cons_self, hcb⟩
    · obtain ⟨d, hd, had⟩ := ih ha
      exact ⟨d, List.mem_cons_of_mem b hd, had⟩

/-- The directories of a walk upwards are the places above the start. -/
theorem prefix_of_mem_walk (h : List.Forall₂ Path.Names directories below.inits.reverse)
    (hmem : directory ∈ directories) (hnames : directory.Names place) : place <+: below := by
  obtain ⟨above, habove, hdirectory⟩ := exists_of_mem_left h hmem
  rw [List.mem_reverse, List.mem_inits] at habove
  rwa [hnames.unique hdirectory]

theorem exists_mem_walk (h : List.Forall₂ Path.Names directories below.inits.reverse)
    (hplace : place <+: below) : ∃ directory ∈ directories, directory.Names place :=
  exists_of_mem_left (R := fun place directory => Path.Names directory place) h.flip
    (List.mem_reverse.2 ((List.mem_inits _ _).2 hplace))

/-- From directory to directory, the walk finds the settings of the nearest place. -/
theorem run_findIn?_eq_some_iff
    (h : List.Forall₂ Path.Names directories below.inits.reverse) :
    (findIn? (t.fileSystem here) directories).run = some file
      ↔ ∃ place directory, IsNearest t here below place ∧ directory ∈ directories
        ∧ directory.Names place ∧ file = directory.child settingsName := by
  induction below using List.reverseRecOn generalizing directories with
  | nil =>
    obtain ⟨first, others, hfirst, hothers, rfl⟩ := List.forall₂_cons_right_iff.1 h
    obtain rfl := List.forall₂_nil_right_iff.1 hothers
    have hend : (findIn? (t.fileSystem here) []).run ≠ some file := by
      rw [findIn?]
      exact fun h => by cases h
    simp only [run_findIn?_cons_of_names hfirst, isNearest_nil, List.mem_singleton, hend, and_false,
      or_false]
    constructor
    · rintro ⟨hfile, hholds⟩
      exact ⟨[], first, ⟨rfl, hholds⟩, rfl, hfirst, hfile⟩
    · rintro ⟨place, directory, ⟨rfl, hholds⟩, rfl, -, hfile⟩
      exact ⟨hfile, hholds⟩
  | append_singleton below name ih =>
    rw [Path.inits_concat_reverse] at h
    obtain ⟨first, others, hfirst, hothers, rfl⟩ := List.forall₂_cons_right_iff.1 h
    -- The first directory is left behind for good, because it is below all others.
    have hbelow : ¬below ++ [name] <+: below := fun hle => by simpa using hle.length_le
    rw [run_findIn?_cons_of_names hfirst, ih hothers]
    simp only [isNearest_concat]
    constructor
    · rintro (⟨hfile, hholds⟩ | ⟨hsettings, hmark, place, directory, hnearest, hmem, hnames, hfile⟩)
      · exact ⟨_, first, .inl ⟨rfl, hholds⟩, List.mem_cons_self, hfirst, hfile⟩
      · exact ⟨place, directory, .inr ⟨hsettings, hmark, hnearest⟩,
          List.mem_cons_of_mem first hmem, hnames, hfile⟩
    · rintro ⟨place, directory, ⟨rfl, hholds⟩ | ⟨hsettings, hmark, hnearest⟩, hmem, hnames, hfile⟩
      · rcases List.mem_cons.1 hmem with rfl | hmem
        · exact .inl ⟨hfile, hholds⟩
        · exact absurd (prefix_of_mem_walk hothers hmem hnames) hbelow
      · rcases List.mem_cons.1 hmem with rfl | hmem
        · rw [hnames.unique hfirst] at hnearest
          exact absurd hnearest.above hbelow
        · exact .inr ⟨hsettings, hmark, place, directory, hnearest, hmem, hnames, hfile⟩

/-! ### What is found -/

theorem run_find?_eq_some_iff (h : start.Names below) :
    (find? (t.fileSystem here) start).run = some file
      ↔ ∃ place directory, IsNearest t here below place ∧ directory ∈ start :: start.ancestors
        ∧ directory.Names place ∧ file = directory.child settingsName :=
  run_findIn?_eq_some_iff h.forall₂_ancestors

theorem exists_find? (h : start.Names below) (hnearest : IsNearest t here below place) :
    ∃ directory : Path, directory.Names place
      ∧ (find? (t.fileSystem here) start).run = some (directory.child settingsName) := by
  obtain ⟨directory, hmem, hnames⟩ := exists_mem_walk h.forall₂_ancestors hnearest.above
  exact ⟨directory, hnames, (run_find?_eq_some_iff h).2
    ⟨place, directory, hnearest, hmem, hnames, rfl⟩⟩

theorem exists_find?_iff (h : start.Names below) :
    (∃ file, (find? (t.fileSystem here) start).run = some file
        ∧ file.Names (place ++ [settingsName]))
      ↔ IsNearest t here below place := by
  constructor
  · rintro ⟨file, hfind, hfile⟩
    obtain ⟨other, directory, hnearest, -, hnames, rfl⟩ := (run_find?_eq_some_iff h).1 hfind
    obtain rfl := List.append_cancel_right (hfile.unique (hnames.child settingsName))
    exact hnearest
  · intro hnearest
    obtain ⟨directory, hnames, hfind⟩ := exists_find? h hnearest
    exact ⟨_, hfind, hnames.child settingsName⟩

theorem run_find?_eq_none_iff (h : start.Names below) :
    (find? (t.fileSystem here) start).run = none
      ↔ ∀ place, ¬IsNearest t here below place := by
  rw [Option.eq_none_iff_forall_ne_some]
  constructor
  · intro hnone place hnearest
    obtain ⟨directory, -, hfind⟩ := exists_find? h hnearest
    exact hnone _ hfind
  · intro hnone file hfind
    obtain ⟨place, directory, hnearest, -⟩ := (run_find?_eq_some_iff h).1 hfind
    exact hnone place hnearest

/-! ### What is loaded -/

/-- Settings loaded twice from the file at one place: the same settings and the directory of the
    file, or the same failure. The paths may be written differently. -/
inductive LoadedAlike (place : Location) : Except SettingsFailure LoadedSettings →
    Except SettingsFailure LoadedSettings → Prop
  | loaded {s : Settings} {base base' : Path} : base.Names place → base'.Names place →
    LoadedAlike place (.ok { settings := s, base, fromFile := true })
      (.ok { settings := s, base := base', fromFile := true })
  | document {file file' : Path} {fault : DocumentFault} :
    file.Names (place ++ [settingsName]) → file'.Names (place ++ [settingsName]) →
      LoadedAlike place (.error (.document file fault)) (.error (.document file' fault))
  | refused {fault : SettingsFault} :
    LoadedAlike place (.error (.refused fault)) (.error (.refused fault))

theorem run_readDocument_child (h : directory.Names place) (h' : other.Names place) :
    ((t.fileSystem here).readDocument ofJson (directory.child settingsName)).run
      = ((t.fileSystem here).readDocument ofJson (other.child settingsName)).run := by
  have hread : (t.fileSystem here).read (directory.child settingsName)
      = (t.fileSystem here).read (other.child settingsName) := by
    simp only [Tree.fileSystem, Tree.find_child_congr (h.sameSteps h')]
  rw [FileSystem.run_readDocument, FileSystem.run_readDocument, FileSystem.run_readText,
    FileSystem.run_readText, hread]

theorem loadedAlike_load {below' : Location} (hstart : start.Names below)
    (hother : other.Names below') (h : IsNearest t here below place)
    (h' : IsNearest t here below' place) :
    LoadedAlike place (load (t.fileSystem here) start).run (load (t.fileSystem here) other).run := by
  obtain ⟨directory, hnames, hfind⟩ := exists_find? hstart h
  obtain ⟨directory', hnames', hfind'⟩ := exists_find? hother h'
  obtain ⟨base, hparent, hbase⟩ := (hnames.child settingsName).exists_parent?
  obtain ⟨base', hparent', hbase'⟩ := (hnames'.child settingsName).exists_parent?
  rw [run_load_of_some hfind, run_load_of_some hfind', run_readDocument_child hnames hnames',
    hparent, hparent']
  cases ((t.fileSystem here).readDocument ofJson (directory'.child settingsName)).run with
  | error fault => exact .document (hnames.child settingsName) (hnames'.child settingsName)
  | ok s =>
    simp only [Option.getD_some]
    cases s.validate with
    | error fault => exact .refused
    | ok => exact .loaded hbase hbase'

/-- Where both walks come to the directory by the same path, nothing differs at all. -/
theorem load_eq_of_mem_walks {below' : Location} (hstart : start.Names below)
    (hother : other.Names below') (h : IsNearest t here below place)
    (h' : IsNearest t here below' place) (hnames : directory.Names place)
    (hmem : directory ∈ start :: start.ancestors) (hmem' : directory ∈ other :: other.ancestors) :
    (load (t.fileSystem here) start).run = (load (t.fileSystem here) other).run := by
  have hfind := (run_find?_eq_some_iff hstart).2 ⟨place, directory, h, hmem, hnames, rfl⟩
  have hfind' := (run_find?_eq_some_iff hother).2 ⟨place, directory, h', hmem', hnames, rfl⟩
  obtain ⟨base, hparent, -⟩ := (hnames.child settingsName).exists_parent?
  rw [run_load_of_some hfind, run_load_of_some hfind', hparent]
  rfl

/-- From an absolute path that never goes back, the settings of the nearest place above it are
    found, and loading gives the same from wherever these are the nearest ones. Without such a
    place the default settings are seen from the start. -/
theorem find?_and_load_nearest (t : Tree) (here : Location) (start : Path)
    (habsolute : start.isAbsolute = true) (hparent : Component.parent ∉ start.components) :
    (∀ place, (∃ file, (find? (t.fileSystem here) start).run = some file
          ∧ file.Names (place ++ [settingsName]))
        ↔ IsNearest t here (start.place here) place)
      ∧ ((find? (t.fileSystem here) start).run = none
        ↔ ∀ place, ¬IsNearest t here (start.place here) place)
      ∧ (∀ other place, other.isAbsolute = true → Component.parent ∉ other.components →
        IsNearest t here (start.place here) place → IsNearest t here (other.place here) place →
          LoadedAlike place (load (t.fileSystem here) start).run
            (load (t.fileSystem here) other).run
          ∧ ∀ directory, directory.Names place → directory ∈ start :: start.ancestors →
            directory ∈ other :: other.ancestors →
              (load (t.fileSystem here) start).run = (load (t.fileSystem here) other).run)
      ∧ ((∀ place, ¬IsNearest t here (start.place here) place) →
        (load (t.fileSystem here) start).run
          = .ok { settings := .default, base := start, fromFile := false }) := by
  have hstart := Path.names_place habsolute hparent here
  refine ⟨fun place => exists_find?_iff hstart, run_find?_eq_none_iff hstart, ?_, fun hnone => ?_⟩
  · intro other place habsolute' hparent' h h'
    have hother := Path.names_place habsolute' hparent' here
    exact ⟨loadedAlike_load hstart hother h h',
      fun directory => load_eq_of_mem_walks hstart hother h h'⟩
  · exact run_load_of_none ((run_find?_eq_none_iff hstart).2 hnone)

open Project (settledTree scriptsName catalogsName)

theorem isNearest_settled {name : FileName} (hname : name ∈ [scriptsName, catalogsName]) :
    IsNearest settledTree [] [name] [] := by
  have hroot : Holds settledTree [] [] settingsName := by
    rw [Holds]
    cbv
  have hnone : ∀ name ∈ [scriptsName, catalogsName], ∀ mark ∈ [settingsName, repositoryName],
      ¬Holds settledTree [] [name] mark := by
    simp only [List.forall_mem_cons, Holds, Bool.not_eq_true]
    exact ⟨⟨by cbv, by cbv, by simp⟩, ⟨by cbv, by cbv, by simp⟩, by simp⟩
  refine isNearest_concat.2 (.inr ⟨?_, ?_, isNearest_nil.2 ⟨rfl, hroot⟩⟩)
  · exact hnone name hname settingsName (by simp)
  · exact hnone name hname repositoryName (by simp)

/-- The settings at the root are found from below, however the path is written. -/
theorem find?_and_load_nearest_settled :
    (Path.ofText "/js").isAbsolute = true ∧ Component.parent ∉ (Path.ofText "/js").components
      ∧ (∃ file, (find? (settledTree.fileSystem []) (.ofText "/js")).run = some file
        ∧ file.Names [settingsName])
      ∧ LoadedAlike [] (load (settledTree.fileSystem []) (.ofText "/js")).run
        (load (settledTree.fileSystem []) (.ofText "//lang/.")).run := by
  have hstart : (Path.ofText "/js").isAbsolute = true
      ∧ Component.parent ∉ (Path.ofText "/js").components := by decide +kernel
  have hother : (Path.ofText "//lang/.").isAbsolute = true
      ∧ Component.parent ∉ (Path.ofText "//lang/.").components := by decide +kernel
  have hplaces : (Path.ofText "/js").place [] = [scriptsName]
      ∧ (Path.ofText "//lang/.").place [] = [catalogsName] := by decide +kernel
  have hnearest : IsNearest settledTree [] ((Path.ofText "/js").place []) [] := by
    rw [hplaces.1]
    exact isNearest_settled (by simp)
  have hnearest' : IsNearest settledTree [] ((Path.ofText "//lang/.").place []) [] := by
    rw [hplaces.2]
    exact isNearest_settled (by simp)
  obtain ⟨hfound, -, hloaded, -⟩ :=
    find?_and_load_nearest settledTree [] (.ofText "/js") hstart.1 hstart.2
  exact ⟨hstart.1, hstart.2, (hfound []).2 hnearest,
    (hloaded (.ofText "//lang/.") [] hother.1 hother.2 hnearest hnearest').1⟩

end CatalogAudit.Settings
