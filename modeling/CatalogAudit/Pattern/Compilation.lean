import CatalogAudit.Pattern.Reading

/-!
# Compiled patterns

A pattern is compiled to a program, and one whose program would be too large is
refused although it is well-formed. How large a program is depends on the
engine, which is not described here: a limit is given by the patterns that
exceed it.

* `Regex.compile?` reads a pattern within a limit.
* `Pattern.escaped` is the pattern of a text.
-/

namespace CatalogAudit

/-- A limit on the size of compiled patterns. -/
structure SizeLimit where
  isExceeded : String → Bool

/-- No pattern is too large. -/
def SizeLimit.unlimited : SizeLimit where
  isExceeded _ := false

/-- The regular expression that a pattern stands for, if it is not too large. -/
def Regex.compile? (limit : SizeLimit) (pattern : String) : Option Regex :=
  if limit.isExceeded pattern then none else ofPattern? pattern

@[simp]
theorem Regex.compile?_unlimited (pattern : String) :
    compile? .unlimited pattern = ofPattern? pattern := rfl

/-- A limit changes no expression. -/
theorem Regex.ofPattern?_of_compile? {limit : SizeLimit} {pattern : String} {r : Regex}
    (h : compile? limit pattern = some r) : ofPattern? pattern = some r := by
  rw [compile?] at h
  split at h
  · cases h
  · exact h

namespace Pattern

/-- A character with a meaning of its own in patterns. -/
def isOperator (c : Char) : Bool :=
  "\\.+*?()|[]\x7b\x7d^$#&-~".toList.contains c

/-- The pattern of a text, in which no character has a meaning of its own. -/
def escaped (text : String) : String :=
  String.ofList (text.toList.flatMap fun c => if isOperator c then ['\\', c] else [c])

end Pattern

end CatalogAudit
