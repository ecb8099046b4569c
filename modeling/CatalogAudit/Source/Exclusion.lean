import CatalogAudit.Pattern.Compilation
import CatalogAudit.Source.Usage

/-!
# Exclusion of technical strings

Some strings are marked like others but are no text to read,
such as selectors of style sheets or lists of tags. They are told by patterns
that match at their start, and they take part in no comparison.

* `Exclusion.ofPatterns` compiles the patterns, or gives the first one that is
  malformed or too large.
* `Exclusion.partition` separates the strings that are kept from the excluded
  ones.
-/

namespace CatalogAudit

/-- The expressions that tell excluded strings. -/
structure Exclusion where
  expressions : List Regex
  deriving DecidableEq, Repr

namespace Exclusion

/-- The pattern that an exclusion pattern is part of, which ties it to the
    start of a string. -/
def anchored (pattern : String) : String :=
  "^(?:" ++ pattern ++ ")"

/-- Compiles exclusion patterns. -/
def ofPatterns (patterns : List String) (limit : SizeLimit := .unlimited) :
    Except String Exclusion :=
  match patterns with
  | [] => .ok { expressions := [] }
  | p :: rest =>
    match Regex.compile? limit (anchored p) with
    | some r => (ofPatterns rest limit).map fun e => { expressions := r :: e.expressions }
    | none => .error p

def isExcluded (e : Exclusion) (text : String) : Bool :=
  e.expressions.any (·.isMatch text.toList)

/-- The used strings that are kept, and the excluded texts. -/
def partition (e : Exclusion) (used : Usage) : Usage × TextSet :=
  let (excluded, kept) := used.partition e.isExcluded
  (kept, .ofList excluded.texts)

end Exclusion

end CatalogAudit
