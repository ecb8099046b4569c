import CatalogAudit.CommandLine.Arguments
import CatalogAudit.Report.Document

/-!
# Runs of the program

A run understands its arguments, checks the project and prints the report or
the document. The exit status says whether the catalogs and the sources agree.

* `CommandLine.run` gives the exit status and what is printed.
-/

namespace CatalogAudit

variable {m : Type → Type} [Monad m]

/-- How a run ends. -/
inductive ExitStatus
  /-- The catalogs and the sources agree. -/
  | success
  /-- Something is missing or unused. -/
  | failure
  /-- The check could not be run. -/
  | error
  deriving DecidableEq, Repr

namespace ExitStatus

/-- The number that the caller gets. -/
def code : ExitStatus → Nat
  | success => 0
  | failure => 1
  | error => 2

/-- The status of a check that was run. -/
def ofOutcome (o : Outcome) : ExitStatus :=
  if o.hasIssues then failure else success

end ExitStatus

/-- What a run prints, and how it ends. -/
structure Printed where
  status : ExitStatus
  output : String
  diagnostics : String
  deriving DecidableEq, Repr

namespace CommandLine

/-- The name of the program and its version. -/
def versionText : String := "catalint 0.1.0\n"

/-- How the program is called. -/
def usage : String := "Usage: catalint [OPTIONS]\n"

/-- The text about the program and its arguments. -/
def helpText : String :=
  "A fast CLI tool for keeping UI translation catalogs in sync with markup and script sources\n\n"
    ++ usage ++ "\nOptions:\n"
    ++ "      --root <ROOT>  Project root containing the templates, scripts and catalogs "
    ++ "[default: .]\n"
    ++ "  -v, --verbose      List excluded strings in the text report\n"
    ++ "      --json         Print the results as a single JSON document\n"
    ++ "      --compact      Omit locations and per-language lists from the text report\n"
    ++ "  -h, --help         Print help\n"
    ++ "  -V, --version      Print version\n"

/-- What is printed instead of a check. -/
def interrupted : Interruption → Printed
  | .help => { status := .success, output := helpText, diagnostics := "" }
  | .version => { status := .success, output := versionText, diagnostics := "" }
  | .refused fault =>
    { status := .error
      output := ""
      diagnostics := "error: " ++ fault.message ++ "\n\n" ++ usage
        ++ "\nFor more information, try '--help'.\n" }

/-- What is printed when the check could not be run. -/
def failed (failure : CheckFailure) : Printed where
  status := .error
  output := ""
  diagnostics :=
    "Error: " ++ ": ".intercalate (failure.message :: failure.cause?.toList) ++ "\n"

/-- What is printed about an outcome, with or without styles. -/
def reported (shown : Bool) (arguments : Arguments) (o : Outcome) : Printed where
  status := .ofOutcome o
  output :=
    if arguments.json then Report.documentText o ++ "\n"
    else Report.text shown arguments.reportOptions o
  diagnostics := Report.warnings shown o

/-- Runs the program. -/
def run (fs : FileSystem m) (shown : Bool) (arguments : List String)
    (limit : SizeLimit := .unlimited) : m Printed := do
  match Arguments.ofList arguments with
  | .error i => return interrupted i
  | .ok arguments =>
    match ← Project.checkRoot fs (.ofText arguments.root) limit with
    | .error failure => return failed failure
    | .ok o => return reported shown arguments o

end CommandLine

end CatalogAudit
