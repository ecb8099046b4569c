import CatalogAudit.Pattern.Escape

/-!
# Bracketed classes

A class in brackets is a union of characters, ranges, named classes and nested
classes. Unions are combined by the operators `&&`, `--` and `~~`, which all
bind equally and to the left.

The reader keeps the classes that are open, the innermost apart. Every part
comes with the depth of its nesting, since a pattern may not nest too deeply.

* `readClass` reads a class behind its opening bracket.
-/

namespace CatalogAudit.Pattern

/-- A part of a class, with the depth of its nesting. -/
structure ClassPart where
  set : CharSet
  depth : Nat
  deriving DecidableEq, Repr

/-- An operator between two unions. -/
inductive ClassOperator
  | intersection
  | difference
  | symmetricDifference
  deriving DecidableEq, Repr

/-- A class that is still open. -/
structure OpenClass where
  negated : Bool
  /-- The operand on the left and the operator before the present union. -/
  pending : Option (ClassPart × ClassOperator)
  /-- The parts of the present union, the latest first. -/
  parts : List ClassPart
  deriving DecidableEq, Repr

/-- The union of parts, given with the latest first. -/
def unionOf : List ClassPart → ClassPart
  | [] => { set := .empty, depth := 0 }
  | [p] => p
  | parts =>
    { set := parts.foldl (fun s p => .union p.set s) .empty
      depth := parts.foldl (fun d p => max d p.depth) 0 + 1 }

namespace OpenClass

/-- Adds a part to the present union. -/
def push (o : OpenClass) (p : ClassPart) : OpenClass :=
  { o with parts := p :: o.parts }

/-- Adds a character. Where Unicode is switched off, only ASCII characters can
    be in a class. -/
def pushChar (o : OpenClass) (s : CharSet) : OpenClass :=
  o.push { set := s, depth := 0 }

/-- The present union, combined with the operand before it. -/
def combined (o : OpenClass) (flags : Flags) : ClassPart :=
  let right := unionOf o.parts
  match o.pending with
  | none => right
  | some (left, operator) =>
    let s := flags.fold left.set
    let t := flags.fold right.set
    { set := match operator with
        | .intersection => .intersection s t
        | .difference => .difference s t
        | .symmetricDifference => .symmetricDifference s t
      depth := max left.depth right.depth + 1 }

/-- Puts an operator behind the present union. -/
def operate (o : OpenClass) (flags : Flags) (operator : ClassOperator) : OpenClass :=
  { o with pending := some (o.combined flags, operator), parts := [] }

/-- The finished class. -/
def close? (o : OpenClass) (flags : Flags) : Option ClassPart :=
  let all := o.combined flags
  (flags.negate? o.negated (flags.fold all.set)).map fun s => { set := s, depth := all.depth + 1 }

end OpenClass

/-- The classes with a name between `[:` and `:]`. -/
def namedClass? (name : String) : Option CharSet :=
  let lower := CharSet.range 'a' 'z'
  let upper := CharSet.range 'A' 'Z'
  let alpha := CharSet.union lower upper
  match name with
  | "alnum" => some (.union asciiDigit alpha)
  | "alpha" => some alpha
  | "ascii" => some (.range '\x00' '\x7f')
  | "blank" => some (.union (.single '\t') (.single ' '))
  | "cntrl" => some (.union (.range '\x00' '\x1f') (.single '\x7f'))
  | "digit" => some asciiDigit
  | "graph" => some (.range '!' '~')
  | "lower" => some lower
  | "print" => some (.range ' ' '~')
  | "punct" =>
    some (.union (.range '!' '/') (.union (.range ':' '@')
      (.union (.range '[' (Char.ofNat 96)) (.range '\x7b' '~'))))
  | "space" => some asciiSpace
  | "upper" => some upper
  | "word" => some asciiWord
  | "xdigit" => some (.union asciiDigit (.union (.range 'a' 'f') (.range 'A' 'F')))
  | _ => none

/-- Reads a named class behind its opening bracket: the class and the rest, if
    one is there. -/
def readNamedClass (flags : Flags) : List Char → Option (Option CharSet × List Char)
  | ':' :: rest =>
    let (negated, rest) : Bool × List Char :=
      match rest with
      | '^' :: rest => (true, rest)
      | rest => (false, rest)
    let name := rest.takeWhile (· != ':')
    match rest.dropWhile (· != ':') with
    | ':' :: ']' :: rest =>
      (namedClass? (String.ofList name)).map fun s => (flags.negate? negated (flags.fold s), rest)
    | _ => none
  | _ => none

/-- Reads the start of a class behind its opening bracket: a caret, hyphens,
    and, when it comes first, a closing bracket that stands for itself. -/
def openClass? (flags : Flags) (rest : List Char) : Option (OpenClass × List Char) :=
  let rest := flags.skip rest
  let (negated, rest) : Bool × List Char :=
    match rest with
    | '^' :: rest => (true, flags.skip rest)
    | rest => (false, rest)
  let (hyphens, rest) := gather flags (· == '-') rest.length rest
  let o : OpenClass :=
    { negated
      pending := none
      parts := hyphens.map fun c => { set := .single c, depth := 0 } }
  match rest with
  | [] => none
  | ']' :: more =>
    if hyphens.isEmpty then
      match flags.skip more with
      | [] => none
      | rest => some (o.pushChar (.single ']'), rest)
    else some (o, rest)
  | rest => some (o, rest)

/-- The character behind a hyphen, past the blanks that do not count. A comment
    sign is passed once but not what it introduces; where nothing else follows
    a blank counts after all. -/
def peekBeyond (flags : Flags) (rest : List Char) : Option Char :=
  if !flags.verbose then rest.head?
  else
    match rest.dropWhile Unicode.isWhiteSpace with
    | '#' :: more => (more.find? fun c => !Unicode.isWhiteSpace c).or rest.head?
    | c :: _ => some c
    | [] => rest.head?

/-- Reads a character or an escape in a class. -/
def readClassAtom (flags : Flags) : List Char → Option (Atom × List Char)
  | [] => none
  | '\\' :: rest => readEscape flags rest
  | c :: rest => some (.char c false, rest)

/-- The character that an atom stands for in a class. -/
def Atom.classChar? (flags : Flags) : Atom → Option Char
  | .char c _ => if flags.unicode || c.toNat < 128 then some c else none
  | _ => none

/-- The set that an atom stands for in a class. -/
def Atom.classSet? (flags : Flags) : Atom → Option CharSet
  | .set s => some s
  | a => (a.classChar? flags).map .single

/-- Reads a character, an escape or a range. -/
def readRange (flags : Flags) (rest : List Char) : Option (CharSet × List Char) :=
  match readClassAtom flags rest with
  | none => none
  | some (low, rest) =>
    match flags.skip rest with
    | [] => none
    | '-' :: more =>
      if peekBeyond flags more = some ']' ∨ peekBeyond flags more = some '-' then
        (low.classSet? flags).map (·, '-' :: more)
      else
        match readClassAtom flags (flags.skip more) with
        | none => none
        | some (high, rest) =>
          match low.classChar? flags, high.classChar? flags with
          | some l, some h => if l.toNat ≤ h.toNat then some (.range l h, rest) else none
          | _, _ => none
    | rest => (low.classSet? flags).map (·, rest)

/-- Reads a class whose innermost open class is `o`, inside the classes `outer`. -/
def readClassFrom (flags : Flags) :
    Nat → OpenClass → List OpenClass → List Char → Option (ClassPart × List Char)
  | 0, _, _, _ => none
  | fuel + 1, o, outer, rest =>
    match flags.skip rest with
    | [] => none
    | '[' :: rest =>
      match readNamedClass flags rest with
      | some (some s, rest) => readClassFrom flags fuel (o.pushChar s) outer rest
      | some (none, _) => none
      | none =>
        match openClass? flags rest with
        | some (inner, rest) => readClassFrom flags fuel inner (o :: outer) rest
        | none => none
    | ']' :: rest =>
      match o.close? flags, outer with
      | none, _ => none
      | some part, [] => some (part, rest)
      | some part, o :: outer => readClassFrom flags fuel (o.push part) outer rest
    | '&' :: '&' :: rest => readClassFrom flags fuel (o.operate flags .intersection) outer rest
    | '-' :: '-' :: rest => readClassFrom flags fuel (o.operate flags .difference) outer rest
    | '~' :: '~' :: rest =>
      readClassFrom flags fuel (o.operate flags .symmetricDifference) outer rest
    | rest =>
      match readRange flags rest with
      | some (s, rest) => readClassFrom flags fuel (o.pushChar s) outer rest
      | none => none

/-- Reads a class behind its opening bracket. -/
def readClass (flags : Flags) (rest : List Char) : Option (ClassPart × List Char) :=
  match openClass? flags rest with
  | some (o, rest) => readClassFrom flags (rest.length + 1) o [] rest
  | none => none

end CatalogAudit.Pattern
