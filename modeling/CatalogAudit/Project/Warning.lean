/-!
# Warnings

A file that cannot be read or understood is left out of a run, and the run goes
on. What is left out is reported in a warning.
-/

namespace CatalogAudit

/-- A file that was left out, and why. -/
structure Warning where
  file : String
  message : String
  deriving DecidableEq, Repr

/-- The values among the outcomes of a step over several files. -/
def accepted {α : Type} (outcomes : List (Except Warning α)) : List α :=
  outcomes.filterMap Except.toOption

/-- The warnings among the outcomes of a step over several files. -/
def warned {α : Type} (outcomes : List (Except Warning α)) : List Warning :=
  outcomes.filterMap fun
    | .error w => some w
    | .ok _ => none

end CatalogAudit
