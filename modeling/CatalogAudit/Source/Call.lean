import CatalogAudit.Pattern.Compilation
import CatalogAudit.Regex.Capture

/-!
# Calls of the marking function

A call such as `l('text')`, `this.l("text")` or an interpolation such as
`${l('text')}` inside a template literal has one literal argument without any
quote character inside, so concatenations and nested calls are no such calls.

* `Call.calls` and `Call.interpolations` are the templates for a function name.
-/

namespace CatalogAudit.Call

/-- A literal that was found, with the offset where its call or interpolation
    begins. -/
structure Find where
  offset : Nat
  literal : List Char
  deriving DecidableEq, Repr

/-- The three quote characters. -/
def quotes : List Char :=
  "\"'`".toList

/-- From the function name to the opening quote of the argument. -/
def opening (function : String) : Regex :=
  .sequence [.literal function.toList, .zeroOrMore .space, .literal ['('], .zeroOrMore .space,
    .set (.ofList quotes)]

/-- From the closing quote of the argument to the closing parenthesis. -/
def closing : List Regex :=
  [.set (.ofList quotes), .zeroOrMore .space, .literal [')']]

/-- A literal argument. -/
def literal : Regex :=
  .oneOrMore (.except quotes)

/-- Calls of the function, with or without the receiver `this`. -/
def calls (function : String) : Template where
  lead := .seq (.optional (.literal "this.".toList))
    (.seq (.look (.wordBoundary .word)) (opening function))
  body := literal
  trail := .sequence closing

/-- Calls of the function as the whole of an interpolation. -/
def interpolations (function : String) : Template where
  lead := .seq (.literal "$\x7b".toList) (opening function)
  body := literal
  trail := .sequence (closing ++ [.literal "\x7d".toList])

/-- The pattern of an argument in its parentheses. -/
def argumentPattern : String :=
  "\\s*\\(\\s*[\"'`]([^\"'`]+)[\"'`]\\s*\\)"

/-- The pattern that is compiled for calls. -/
def callPattern (function : String) : String :=
  "(?:this\\.)?\\b" ++ Pattern.escaped function ++ argumentPattern

/-- The pattern that is compiled for interpolations. -/
def interpolationPattern (function : String) : String :=
  "\\$\\\x7b" ++ Pattern.escaped function ++ argumentPattern ++ "\\\x7d"

/-- The literals that a template finds in a text. -/
def finds (template : Template) (text : List Char) : List Find :=
  (template.all text).map fun m => { offset := m.start.offset, literal := m.body }

end CatalogAudit.Call
