import CatalogAudit.Files.Path

/-!
# File systems

What a run needs of the files around it: to resolve a path, to tell files from
directories, to list a directory, to find the files below one, and to read a
file. The operations run in a monad, so that the same run works on the files of
a machine and on a `Tree` in memory.

* `FileSystem` are these operations.
* `FileSystem.readText` reads a file whose content has to be UTF-8.
-/

namespace CatalogAudit

/-- Why a file cannot be found or read. -/
inductive FileFault
  | notFound
  | notDirectory
  | isDirectory
  | nameTooLong
  | tooManyLinks
  /-- A path with a zero byte in it, which no file can have. -/
  | zeroByte
  /-- The content is not UTF-8. -/
  | notText
  /-- Any other reason, in words. -/
  | other (reason : String)
  deriving DecidableEq, Repr

/-- The wording of a fault. -/
def FileFault.message : FileFault → String
  | notFound => "No such file or directory (os error 2)"
  | notDirectory => "Not a directory (os error 20)"
  | isDirectory => "Is a directory (os error 21)"
  | nameTooLong => "File name too long (os error 36)"
  | tooManyLinks => "Too many levels of symbolic links (os error 40)"
  | zeroByte => "file name contained an unexpected NUL byte"
  | notText => "stream did not contain valid UTF-8"
  | other reason => reason

/-- What a path leads to. -/
inductive FileKind
  | file
  | directory
  /-- Neither, such as a device. -/
  | other
  deriving DecidableEq, Repr

/-- The operations on files that a run needs. A directory that cannot be listed is one without
    entries: the operations do not tell why. -/
structure FileSystem (m : Type → Type) where
  /-- The absolute path without links that a path leads to. -/
  resolve : Path → m (Except FileFault Path)
  /-- What a path leads to, links followed, if it leads anywhere. -/
  kind? : Path → m (Option FileKind)
  /-- The names of the entries of a directory, in any order. -/
  names : Path → m (List FileName)
  /-- The regular files at any depth below a directory, in any order. The
      directory may be a link, but no link below it is followed or listed. -/
  filesBelow : Path → m (List Path)
  /-- The content of a file. -/
  read : Path → m (Except FileFault (List UInt8))

namespace FileSystem

variable {m : Type → Type} [Monad m]

def exists? (fs : FileSystem m) (p : Path) : m Bool := do
  return (← fs.kind? p).isSome

def isFile (fs : FileSystem m) (p : Path) : m Bool := do
  return (← fs.kind? p) == some .file

def isDirectory (fs : FileSystem m) (p : Path) : m Bool := do
  return (← fs.kind? p) == some .directory

/-- The content of a file as text. -/
def readText (fs : FileSystem m) (p : Path) : m (Except FileFault String) := do
  match ← fs.read p with
  | .error fault => return .error fault
  | .ok bytes =>
    match Utf8.decode? bytes with
    | some text => return .ok text
    | none => return .error .notText

/-- The path itself, if it leads to a file. -/
def asFile? (fs : FileSystem m) (p : Path) : m (Option Path) := do
  return if ← fs.isFile p then some p else none

/-- The files that are entries of a directory and whose names satisfy a
    test, links followed. -/
def filesIn (fs : FileSystem m) (directory : Path) (test : FileName → Bool) : m (List Path) := do
  let names ← fs.names directory
  let found ← ((names.filter test).map directory.child).mapM fs.asFile?
  return found.filterMap id

end FileSystem

end CatalogAudit
