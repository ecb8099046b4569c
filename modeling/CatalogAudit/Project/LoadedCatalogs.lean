import CatalogAudit.Catalog.Reading
import CatalogAudit.Project.Document
import CatalogAudit.Project.Sources

/-!
# The catalogs of a project

Each JSON file directly in the directory of catalogs is the catalog of one
language, which is the name of the file without its extension. A file that
cannot be read as a catalog is left out with a warning. A missing directory is
an empty one.

* `Catalogs.load` reads the catalogs in a directory.
-/

namespace CatalogAudit

variable {m : Type → Type} [Monad m]

/-- The catalogs that could be read, and warnings about the others. -/
structure LoadedCatalogs where
  catalogs : Catalogs
  warnings : List Warning
  deriving DecidableEq

/-- The language that a path names: that of its file name, if this is text. -/
def Path.language? (p : Path) : Option String :=
  p.fileName?.bind fun name => Utf8.decode? name.stem

/-- Reads the catalog of a language from a file. -/
def Catalog.load (fs : FileSystem m) (file : Path) (language : String) :
    m (Except DocumentFault Catalog) :=
  fs.readDocument (Catalog.ofJson language) file

namespace Catalogs

/-- The extension of catalogs. -/
def extension : String := "json"

/-- The start of the messages about catalogs that are left out. -/
def complaint : String := "Failed to load catalog: "

/-- Reads the catalog in a file under the language that its path names. -/
def loadOne (fs : FileSystem m) (file : Path) : m (Except Warning Catalog) := do
  match file.language? with
  | none =>
    return .error { file := file.text, message := complaint ++ "file name is not valid UTF-8" }
  | some language =>
    match ← Catalog.load fs file language with
    | .ok catalog => return .ok catalog
    | .error fault => return .error { file := file.text, message := complaint ++ fault.cause }

/-- The files of catalogs in a directory, sorted. -/
def files (fs : FileSystem m) (directory : Path) : m (List Path) := do
  return Sources.sortPaths (← fs.filesIn directory (·.hasExtension extension))

/-- Reads the catalogs in a directory. -/
def load (fs : FileSystem m) (directory : Path) : m LoadedCatalogs := do
  let outcomes ← (← files fs directory).mapM (loadOne fs)
  return { catalogs := ofList (accepted outcomes), warnings := warned outcomes }

end Catalogs

end CatalogAudit
