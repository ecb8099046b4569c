import CatalogAudit.Report.Summary

/-!
# Arguments

The command line takes a root, which is a value of its own or follows an equals
sign, and three flags. Each may be given once and in any order, and a flag with
a short form may be joined with others behind one dash. There are no further
arguments, so behind a double dash nothing is understood.

Arguments are understood from left to right, and the first one that asks for
help, asks for the version or is refused ends this. A root is taken in when the
next argument that is understood comes, or at the end: an argument that is not
understood is refused before a root in front of it is.

* `Arguments.ofList` are the arguments in a list.
-/

namespace CatalogAudit

/-- What was asked for. -/
structure Arguments where
  root : String
  verbose : Bool
  json : Bool
  compact : Bool
  deriving DecidableEq, Repr

/-- The part of the arguments that is about the report in words. -/
def Arguments.reportOptions (a : Arguments) : ReportOptions where
  verbose := a.verbose
  compact := a.compact

/-- An argument that takes no value. -/
inductive Switch
  | verbose
  | json
  | compact
  | help
  | version
  deriving DecidableEq, Repr

namespace Switch

def all : List Switch := [verbose, json, compact, help, version]

/-- The long form without its dashes. -/
def long : Switch → String
  | verbose => "verbose"
  | json => "json"
  | compact => "compact"
  | help => "help"
  | version => "version"

/-- The short form without its dash, if there is one. -/
def short? : Switch → Option Char
  | verbose => some 'v'
  | help => some 'h'
  | version => some 'V'
  | json | compact => none

end Switch

/-- Why arguments are refused. -/
inductive ArgumentFault
  | unknown (argument : String)
  /-- The root is left out or empty. -/
  | noRoot
  | repeatedRoot
  | repeated (switch : Switch)
  | unexpectedValue (switch : Switch) (value : String)
  deriving DecidableEq, Repr

/-- The wording of a fault. -/
def ArgumentFault.message : ArgumentFault → String
  | unknown argument => "unexpected argument '" ++ argument ++ "' found"
  | noRoot => "a value is required for '--root <ROOT>' but none was supplied"
  | repeatedRoot => "the argument '--root <ROOT>' cannot be used multiple times"
  | repeated switch => "the argument '--" ++ switch.long ++ "' cannot be used multiple times"
  | unexpectedValue switch value =>
    "unexpected value '" ++ value ++ "' for '--" ++ switch.long
      ++ "' found; no more were accepted"

/-- Why there is nothing to check. -/
inductive Interruption
  | help
  | version
  | refused (fault : ArgumentFault)
  deriving DecidableEq, Repr

/-- A root that has not been taken in yet. -/
inductive PendingRoot
  | none
  /-- The next argument is its value. -/
  | awaited
  | given (value : String)
  deriving DecidableEq, Repr

/-- What has been understood so far. -/
structure Progress where
  root : Option String
  switches : List Switch
  pending : PendingRoot
  deriving DecidableEq, Repr

namespace Progress

def start : Progress where
  root := none
  switches := []
  pending := .none

/-- Takes in the root that is pending. -/
def settle (p : Progress) : Except Interruption Progress :=
  match p.pending with
  | .none => .ok p
  | .awaited => .error (.refused .noRoot)
  | .given value =>
    if p.root.isSome then .error (.refused .repeatedRoot)
    else if value.isEmpty then .error (.refused .noRoot)
    else .ok { p with root := some value, pending := .none }

/-- Takes in a switch. -/
def switchOn (p : Progress) (switch : Switch) : Except Interruption Progress :=
  match p.settle with
  | .error i => .error i
  | .ok p =>
    match switch with
    | .help => .error .help
    | .version => .error .version
    | _ =>
      if p.switches.contains switch then .error (.refused (.repeated switch))
      else .ok { p with switches := switch :: p.switches }

/-- Understands short forms that are joined behind one dash. -/
def shortForms (p : Progress) : List Char → Except Interruption Progress
  | [] => .ok p
  | c :: cs =>
    match Switch.all.find? (·.short? == some c) with
    | none => .error (.refused (.unknown (String.ofList ['-', c])))
    | some switch =>
      match p.switchOn switch with
      | .error i => .error i
      | .ok p => p.shortForms cs

/-- Understands a long form, with the value behind an equals sign. -/
def longForm (p : Progress) (name : String) (value : Option String) :
    Except Interruption Progress :=
  if name = "root" then
    match p.settle, value with
    | .error i, _ => .error i
    | .ok p, none => .ok { p with pending := .awaited }
    | .ok p, some value => { p with pending := .given value }.settle
  else
    match Switch.all.find? (·.long == name), value with
    | none, _ => .error (.refused (.unknown ("--" ++ name)))
    | some switch, some value => .error (.refused (.unexpectedValue switch value))
    | some switch, none => p.switchOn switch

/-- Understands an argument that is no option: it can only be a root. -/
def plain (p : Progress) (argument : String) : Except Interruption Progress :=
  match p.pending with
  | .awaited => .ok { p with pending := .given argument }
  | _ => .error (.refused (.unknown argument))

/-- Understands one argument that is not a double dash. -/
def understand (p : Progress) (argument : String) : Except Interruption Progress :=
  match argument.toList with
  | '-' :: '-' :: long =>
    let name := long.takeWhile (· != '=')
    let value := match long.dropWhile (· != '=') with
      | [] => none
      | _ :: value => some (String.ofList value)
    p.longForm (String.ofList name) value
  | '-' :: c :: short => p.shortForms (c :: short)
  | _ => p.plain argument

/-- Understands arguments one after the other. -/
def understandAll (p : Progress) : List String → Except Interruption Progress
  | [] => p.settle
  | "--" :: [] => p.settle
  | "--" :: argument :: _ => .error (.refused (.unknown argument))
  | argument :: arguments =>
    match p.understand argument with
    | .error i => .error i
    | .ok p => p.understandAll arguments

end Progress

/-- The root where none is given. -/
def Arguments.defaultRoot : String := "."

/-- The arguments in a list. -/
def Arguments.ofList (arguments : List String) : Except Interruption Arguments :=
  match Progress.start.understandAll arguments with
  | .error i => .error i
  | .ok p => .ok
    { root := p.root.getD defaultRoot
      verbose := p.switches.contains .verbose
      json := p.switches.contains .json
      compact := p.switches.contains .compact }

end CatalogAudit
