import CatalogAudit.Pattern.BracketedClass

/-!
# Reading a pattern

A pattern is read from left to right. The reader keeps the pieces of the
present branch, the branches before it, and, for every open group, what was
read outside it together with the flags to go back to. Every piece comes with
the depth of its nesting; a pattern nests at most `maxDepth` levels deep.

* `Regex.ofPattern?` is the regular expression that a pattern stands for, or
  nothing when the pattern is malformed.
-/

namespace CatalogAudit

namespace Pattern

/-- How deeply a pattern may nest. -/
def maxDepth : Nat := 250

/-- How often a repetition may ask for its body. -/
def maxCount : Nat := Nat.pow 2 32 - 1

/-- A piece of a branch. -/
structure Piece where
  regex : Regex
  depth : Nat
  /-- The piece only changes flags, so that it cannot be repeated. -/
  directive : Bool := false
  deriving DecidableEq, Repr

/-- What has been read of a group, or of the pattern outside all groups. -/
structure Level where
  /-- The finished branches, the latest first. -/
  branches : List Piece
  /-- The pieces of the present branch, the latest first. -/
  pieces : List Piece
  deriving DecidableEq, Repr

/-- What is to be taken up again when a group closes. -/
structure OpenGroup where
  outside : Level
  flags : Flags
  deriving DecidableEq, Repr

/-- The state of the reader. -/
structure State where
  level : Level
  groups : List OpenGroup
  flags : Flags
  /-- The names of the groups so far, of which no two may be equal. -/
  names : List String
  deriving DecidableEq, Repr

/-- The depth of several pieces next to each other. -/
def depthOf (pieces : List Piece) : Nat :=
  pieces.foldl (fun d p => max d p.depth) 0 + 1

/-- The sequence of pieces, given with the latest first. -/
def sequenceOf : List Piece → Piece
  | [] => { regex := .empty, depth := 0 }
  | [p] => { p with directive := false }
  | pieces =>
    { regex := (pieces.map (·.regex)).foldr (fun r before => .seq before r) .empty
      depth := depthOf pieces }

/-- The choice between branches, given with the latest first. -/
def choiceOf : List Piece → Piece
  | [] => { regex := .empty, depth := 0 }
  | [p] => p
  | p :: branches =>
    { regex := branches.foldl (fun r q => .alt q.regex r) p.regex
      depth := depthOf (p :: branches) }

namespace Level

/-- Nothing has been read yet. -/
def empty : Level where
  branches := []
  pieces := []

def push (l : Level) (p : Piece) : Level :=
  { l with pieces := p :: l.pieces }

/-- Ends the present branch. -/
def branch (l : Level) : Level where
  branches := sequenceOf l.pieces :: l.branches
  pieces := []

/-- Everything that has been read. -/
def close (l : Level) : Piece :=
  choiceOf l.branch.branches

/-- Replaces the latest piece by a repetition of it. -/
def repeat? (l : Level) (repetition : Regex → Regex) : Option Level :=
  match l.pieces with
  | [] => none
  | p :: pieces =>
    if p.directive then none
    else some { l with pieces := { regex := repetition p.regex, depth := p.depth + 1 } :: pieces }

end Level

namespace State

/-- The state at the start of a pattern. -/
def initial : State where
  level := .empty
  groups := []
  flags := .initial
  names := []

def push (s : State) (p : Piece) : State :=
  { s with level := s.level.push p }

def pushRegex (s : State) (r : Regex) : State :=
  s.push { regex := r, depth := 0 }

/-- Opens a group with flags of its own. -/
def openGroup (s : State) (flags : Flags) : State :=
  { s with level := .empty, groups := { outside := s.level, flags := s.flags } :: s.groups, flags }

/-- Closes the innermost group. -/
def closeGroup? (s : State) : Option State :=
  match s.groups with
  | [] => none
  | g :: groups =>
    let inside := s.level.close
    some { s with
      level := g.outside.push { regex := inside.regex, depth := inside.depth + 1 }
      groups
      flags := g.flags }

end State

/-- A character outside of classes, together with its case variants when the
    flags say so. -/
def charRegex? (flags : Flags) (c : Char) (byte : Bool) : Option Regex :=
  if flags.unicode then some (.set (flags.fold (.single c)))
  else if c.toNat < 128 then some (.set (flags.fold (.single c)))
  else if byte then none
  else some (.set (.single c))

/-- An atom outside of classes. -/
def Atom.regex? (flags : Flags) : Atom → Option Regex
  | .char c byte => charRegex? flags c byte
  | .set s => some (.set s)
  | .look l => some (.look l)

/-- The dot. Where Unicode is switched off it would match bytes that are no
    characters and is refused. -/
def dot? (flags : Flags) : Option Regex :=
  if !flags.unicode then none
  else if flags.dotAll then some (.set .any)
  else if flags.crlf then some (.set (.except ['\n', '\r']))
  else some (.set (.except ['\n']))

/-- The caret: the start of the text, or of a line. -/
def caret (flags : Flags) : Look :=
  if !flags.multiLine then .textStart
  else if flags.crlf then .lineStartCrlf
  else .lineStart

/-- The dollar sign: the end of the text, or of a line. -/
def dollar (flags : Flags) : Look :=
  if !flags.multiLine then .textEnd
  else if flags.crlf then .lineEndCrlf
  else .lineEnd

/-- A character that may stand in the name of a group. -/
def isGroupNameChar (first : Bool) (c : Char) : Bool :=
  c == '_' || Unicode.isAlphabetic c
    || (!first && (Unicode.isNumeric c || c == '.' || c == '[' || c == ']'))

/-- The name of a group up to the closing angle bracket, and the rest. -/
def readGroupName (rest : List Char) : Option (String × List Char) :=
  let name := rest.takeWhile (· != '>')
  match rest.dropWhile (· != '>'), name with
  | '>' :: rest, c :: more =>
    if isGroupNameChar true c && more.all (isGroupNameChar false) then
      some (String.ofList name, rest)
    else none
  | _, _ => none

/-- Opens a group with a name. -/
def openNamed? (s : State) (rest : List Char) : Option (State × List Char) :=
  match readGroupName rest with
  | some (name, rest) =>
    if s.names.contains name then none
    else some ({ s.openGroup s.flags with names := name :: s.names }, rest)
  | none => none

/-- Reads what follows an opening parenthesis: a named group, a group with
    flags, flags for the rest of the present group, or a plain group. There is
    no looking around. -/
def readGroup (s : State) (rest : List Char) : Option (State × List Char) :=
  match s.flags.skip rest with
  | '?' :: 'P' :: '<' :: rest => openNamed? s rest
  | '?' :: '<' :: '=' :: _ => none
  | '?' :: '<' :: '!' :: _ => none
  | '?' :: '<' :: rest => openNamed? s rest
  | '?' :: rest =>
    match readFlags false [] rest with
    | some (changes, ':' :: rest) => some (s.openGroup (s.flags.change changes), rest)
    | some (changes, ')' :: rest) =>
      if changes.isEmpty then none
      else
        some ({ s with
          flags := s.flags.change changes
          level := s.level.push { regex := .empty, depth := 0, directive := true } }, rest)
    | _ => none
  | rest => some (s.openGroup s.flags, rest)

/-- Reads the question mark that turns a repetition from greedy to lazy, or
    back: whether the repetition is greedy, and the rest. -/
def readGreed (flags : Flags) : List Char → Bool × List Char
  | '?' :: rest => (flags.swapGreed, rest)
  | rest => (!flags.swapGreed, rest)

/-- How often an expression has to be repeated for a count of `n`: one that
    consumes nothing need not be repeated. -/
def repetitions (r : Regex) (n : Nat) : Nat :=
  if r.isIdle then min n 1 else n

/-- At least `least` matches in a row. -/
def atLeast (least : Nat) (greedy : Bool) (r : Regex) : Regex :=
  match least with
  | 0 => .star r greedy
  | least => .seq (.times r (repetitions r least)) (.star r greedy)

/-- From `least` to `most` matches in a row. -/
def between (least most : Nat) (greedy : Bool) (r : Regex) : Regex :=
  .seq (.times r (repetitions r least)) (.upTo r (repetitions r (most - least)) greedy)

/-- Reads a number that a repetition counts with. -/
def readCount (flags : Flags) (rest : List Char) : Option (Nat × List Char) :=
  let rest := rest.dropWhile Unicode.isWhiteSpace
  match gather flags isDigit rest.length rest with
  | ([], _) => none
  | (digits, rest) =>
    let n := numberOf 10 digits
    if n ≤ maxCount then some (n, rest.dropWhile Unicode.isWhiteSpace) else none

/-- Reads a counted repetition behind its opening brace: the least number of
    matches, the greatest one unless there is none, and the rest. -/
def readCounts (flags : Flags) (rest : List Char) : Option (Nat × Option Nat × List Char) :=
  match readCount flags (flags.skip rest) with
  | some (least, ',' :: rest) =>
    match flags.skip rest with
    | '\x7d' :: rest => some (least, none, rest)
    | rest =>
      match readCount flags rest with
      | some (most, '\x7d' :: rest) => if least ≤ most then some (least, some most, rest) else none
      | _ => none
  | some (n, '\x7d' :: rest) => some (n, some n, rest)
  | _ => none

/-- Reads the part of a pattern that begins with `c`. -/
def readPart (s : State) (c : Char) (rest : List Char) : Option (State × List Char) :=
  let repeated (rest : List Char) (repetition : Bool → Regex → Regex) : Option (State × List Char) :=
    let (greedy, rest) := readGreed s.flags rest
    (s.level.repeat? (repetition greedy)).map fun level => ({ s with level }, rest)
  match c with
  | '(' => readGroup s rest
  | ')' => s.closeGroup?.map (·, rest)
  | '|' => some ({ s with level := s.level.branch }, rest)
  | '[' =>
    (readClass s.flags rest).map fun (part, rest) =>
      (s.push { regex := .set part.set, depth := part.depth }, rest)
  | '?' => repeated rest fun greedy r => .upTo r 1 greedy
  | '*' => repeated rest fun greedy r => .star r greedy
  | '+' => repeated rest (atLeast 1)
  | '\x7b' =>
    match readCounts s.flags rest with
    | some (least, some most, rest) =>
      repeated (s.flags.skip rest) fun greedy => between least most greedy
    | some (least, none, rest) => repeated (s.flags.skip rest) (atLeast least)
    | none => none
  | '\\' =>
    match readEscape s.flags rest with
    | some (a, rest) => (a.regex? s.flags).map fun r => (s.pushRegex r, rest)
    | none => none
  | '.' => (dot? s.flags).map fun r => (s.pushRegex r, rest)
  | '^' => some (s.pushRegex (.look (caret s.flags)), rest)
  | '$' => some (s.pushRegex (.look (dollar s.flags)), rest)
  | c => (charRegex? s.flags c false).map fun r => (s.pushRegex r, rest)

/-- Reads a pattern to its end. Every part takes at least one character, so
    `fuel` need not be more than the length of the pattern. -/
def readFrom : Nat → State → List Char → Option State
  | fuel, s, rest =>
    match s.flags.skip rest with
    | [] => some s
    | c :: rest =>
      match fuel with
      | 0 => none
      | fuel + 1 =>
        match readPart s c rest with
        | some (s, rest) => readFrom fuel s rest
        | none => none

/-- The regular expression that has been read, if no group is open. -/
def State.finish? (s : State) : Option Regex :=
  match s.groups with
  | [] =>
    let all := s.level.close
    if all.depth ≤ maxDepth then some all.regex else none
  | _ :: _ => none

end Pattern

/-- The regular expression that a pattern stands for. -/
def Regex.ofPattern? (pattern : String) : Option Regex :=
  let text := pattern.toList
  match Pattern.readFrom text.length .initial text with
  | some s => s.finish?
  | none => none

end CatalogAudit
