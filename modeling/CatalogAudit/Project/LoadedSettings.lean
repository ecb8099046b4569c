import CatalogAudit.Project.Document
import CatalogAudit.Settings.Reading

/-!
# The settings of a project

Settings are looked for from a directory upwards, as far as the top of the
repository. The directories that they name are seen from the directory in which
they were found.

* `Settings.find?` finds the file, `Settings.load` reads it.
-/

namespace CatalogAudit

variable {m : Type → Type} [Monad m]

/-- Settings, and where they come from. -/
structure LoadedSettings where
  settings : Settings
  /-- The directory from which the directories of the settings are seen. -/
  base : Path
  /-- The settings come from a file and are not the default ones. -/
  fromFile : Bool
  deriving DecidableEq, Repr

/-- Why a project has no settings. -/
inductive SettingsFailure
  | document (file : Path) (fault : DocumentFault)
  | refused (fault : SettingsFault)
  deriving DecidableEq, Repr

namespace Settings

/-- The name of files with settings. -/
def fileName : Path := Path.ofText ".catalintrc.json"

/-- The name of the entry that marks the top of a repository. -/
def repositoryMark : Path := Path.ofText ".git"

/-- The first file with settings in one of the directories, unless a directory
    before it is the top of a repository. In one directory the settings count
    before the mark. -/
def findIn? (fs : FileSystem m) : List Path → m (Option Path)
  | [] => return none
  | directory :: directories => do
    if ← fs.exists? (directory.join fileName) then
      return some (directory.join fileName)
    else if ← fs.exists? (directory.join repositoryMark) then
      return none
    else
      findIn? fs directories

/-- The file with the settings for a directory. -/
def find? (fs : FileSystem m) (start : Path) : m (Option Path) :=
  findIn? fs (start :: start.ancestors)

/-- The settings for a directory. -/
def load (fs : FileSystem m) (start : Path) (limit : SizeLimit := .unlimited) :
    m (Except SettingsFailure LoadedSettings) := do
  match ← find? fs start with
  | none => return .ok { settings := default, base := start, fromFile := false }
  | some file =>
    match ← fs.readDocument ofJson file with
    | .error fault => return .error (.document file fault)
    | .ok settings =>
      match settings.validate limit with
      | .error fault => return .error (.refused fault)
      | .ok () =>
        return .ok { settings, base := file.parent?.getD start, fromFile := true }

end Settings

end CatalogAudit
