import CatalogAudit.Files.FileSystem
import CatalogAudit.Project.Warning
import CatalogAudit.Source.Extraction

/-!
# The sources of a project

Markup files lie directly in the root of a project or directly in its directory
of templates. Script files lie at any depth below the directory of scripts.

* `Sources.markupFiles` and `Sources.scriptFiles` find the files, sorted by
  the components of their paths.
* `Sources.read` reads them.
-/

namespace CatalogAudit.Sources

variable {m : Type → Type} [Monad m]

/-- The extension of script files. -/
def scriptExtension : String := "js"

/-- The end of the names of markup files. -/
def markupEnding : String := ".html"

/-- A name that is text and ends as those of markup files do. -/
def isMarkupName (name : FileName) : Bool :=
  (Utf8.encode markupEnding).isSuffixOf name.bytes && (Utf8.decode? name.bytes).isSome

/-- The path of a script file. -/
def isScript (p : Path) : Bool :=
  match p.fileName? with
  | some name => name.hasExtension scriptExtension
  | none => false

/-- The directory in which markup files are looked for: its path is taken as
    text and without empty pieces. -/
def lookupDirectory (directory : Path) : Path :=
  let p := Path.ofText directory.text
  Path.resume p.start.1 (p.start.2.filter (!·.isEmpty))

/-- Sorts paths by their components. -/
def sortPaths (paths : List Path) : List Path :=
  paths.mergeSort Path.le

/-- Drops each path whose components are those of the one before it. -/
def dropRepeated (paths : List Path) : List Path :=
  paths.foldr (fun p rest =>
    match rest with
    | q :: others => if p.key = q.key then p :: others else p :: rest
    | [] => [p]) []

/-- The markup files in the root and in the directory of templates. -/
def markupFiles (fs : FileSystem m) (root templates : Path) : m (List Path) := do
  let inRoot ← fs.filesIn (lookupDirectory root) isMarkupName
  let inTemplates ← fs.filesIn (lookupDirectory templates) isMarkupName
  return dropRepeated (sortPaths (inRoot ++ inTemplates))

/-- The script files below a directory. -/
def scriptFiles (fs : FileSystem m) (scripts : Path) : m (List Path) := do
  return sortPaths ((← fs.filesBelow scripts).filter isScript)

/-- Reads one source, which goes by its path as seen from the root. -/
def readOne (fs : FileSystem m) (root p : Path) : m (Except Warning SourceFile) := do
  match ← fs.readText p with
  | .ok content => return .ok { path := p.display root, content }
  | .error fault =>
    return .error { file := p.display root, message := "Failed to read file: " ++ fault.message }

/-- Reads sources one by one. -/
def read (fs : FileSystem m) (root : Path) (paths : List Path) :
    m (List (Except Warning SourceFile)) :=
  paths.mapM (readOne fs root)

end CatalogAudit.Sources
