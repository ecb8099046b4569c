import CatalogAudit.CommandLine.Run

/-!
# The program

The operations on the files of the machine, and the run of the program on them.
-/

namespace CatalogAudit

/-- The fault that an error number stands for. -/
def FileFault.ofNumber (number : UInt32) (details : String) : FileFault :=
  match number.toNat with
  | 2 => notFound
  | 20 => notDirectory
  | 21 => isDirectory
  | 36 => nameTooLong
  | 40 => tooManyLinks
  | n => other (details ++ " (os error " ++ toString n ++ ")")

/-- The fault behind an error. -/
def FileFault.ofError : IO.Error → FileFault
  | .noFileOrDirectory _ number details | .interrupted _ number details =>
    .ofNumber number details
  | .alreadyExists _ number details | .invalidArgument _ number details
  | .permissionDenied _ number details | .resourceExhausted _ number details
  | .inappropriateType _ number details | .noSuchThing _ number details =>
    .ofNumber number details
  | .otherError number details | .resourceBusy number details | .resourceVanished number details
  | .unsupportedOperation number details | .hardwareFault number details
  | .unsatisfiedConstraints number details | .illegalOperation number details
  | .protocolError number details | .timeExpired number details => .ofNumber number details
  | .unexpectedEof => .other "unexpected end of file"
  | .userError details => .other details

namespace Machine

/-- What a type of file is. -/
def kindOf : IO.FS.FileType → FileKind
  | .file => .file
  | .dir => .directory
  | _ => .other

/-- The outcome of an action on a file, or the fault. -/
def attempt {α : Type} (action : IO α) : IO (Except FileFault α) := do
  match ← action.toBaseIO with
  | .ok value => return .ok value
  | .error e => return .error (.ofError e)

/-- The outcome of an action on a file, or a value in place of it. -/
def orElse {α : Type} (value : α) (action : IO α) : IO α := do
  match ← action.toBaseIO with
  | .ok value => return value
  | .error _ => return value

def nameOf? (e : IO.FS.DirEntry) : Option FileName :=
  FileName.ofBytes? (Utf8.encode e.fileName)

/-- The regular files below a directory. -/
partial def filesBelow (shownAs : Path) (entries : Array IO.FS.DirEntry) : IO (List Path) := do
  let mut files := []
  for e in entries do
    match nameOf? e with
    | none => pure ()
    | some name =>
      match ← (e.path.symlinkMetadata).toBaseIO with
      | .error _ => pure ()
      | .ok found =>
        match kindOf found.type with
        | .file => files := files ++ [shownAs.child name]
        | .directory =>
          let inner ← orElse #[] e.path.readDir
          files := files ++ (← filesBelow (shownAs.child name) inner)
        | .other => pure ()
  return files

/-- The files of the machine. -/
def fileSystem : FileSystem IO where
  resolve p := attempt do
    let found ← IO.FS.realPath p.text
    discard found.metadata
    return .ofText found.toString
  kind? p := orElse none do
    return some (kindOf (← (← IO.FS.realPath p.text).metadata).type)
  names p := orElse [] do
    return (← (← IO.FS.realPath p.text).readDir).toList.filterMap nameOf?
  filesBelow p := orElse [] do
    filesBelow p (← (← IO.FS.realPath p.text).readDir)
  read p := attempt do
    return (← IO.FS.readBinFile p.text).data.toList

end Machine

end CatalogAudit

open CatalogAudit in
/-- Runs the program on the files of the machine. -/
def main (arguments : List String) : IO UInt32 := do
  let shown := Style.areShown (← IO.getEnv "CLICOLOR_FORCE") (← IO.getEnv "NO_COLOR")
    (← IO.getEnv "CLICOLOR") (← (← IO.getStdout).isTty)
  let printed ← CommandLine.run Machine.fileSystem shown arguments
  IO.eprint printed.diagnostics
  IO.print printed.output
  return printed.status.code.toUInt32
