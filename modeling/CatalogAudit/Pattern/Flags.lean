import CatalogAudit.Regex.Basic

/-!
# Flags of a pattern

Flags change what the rest of a group means. They are written as letters, such
as in `(?i)` or `(?s-m:…)`; a hyphen switches off the flags behind it.

* `readFlags` reads the letters of one such list.
-/

namespace CatalogAudit.Pattern

/-- The flags in force at some point of a pattern. -/
structure Flags where
  /-- Letters match their case variants. -/
  caseless : Bool
  /-- The anchors match at every line. -/
  multiLine : Bool
  /-- The dot matches a newline too. -/
  dotAll : Bool
  /-- Repetitions are lazy, and greedy with a question mark. -/
  swapGreed : Bool
  /-- Classes and boundaries follow Unicode, not ASCII. -/
  unicode : Bool
  /-- A carriage return ends a line as well. -/
  crlf : Bool
  /-- Blanks and comments in the pattern do not count. -/
  verbose : Bool
  deriving DecidableEq, Repr

/-- One of the flags. -/
inductive Flag
  | caseless
  | multiLine
  | dotAll
  | swapGreed
  | unicode
  | crlf
  | verbose
  deriving DecidableEq, Repr

/-- The flag with a letter. -/
def Flag.ofLetter? : Char → Option Flag
  | 'i' => some .caseless
  | 'm' => some .multiLine
  | 's' => some .dotAll
  | 'U' => some .swapGreed
  | 'u' => some .unicode
  | 'R' => some .crlf
  | 'x' => some .verbose
  | _ => none

namespace Flags

/-- The flags at the start of a pattern. -/
def initial : Flags where
  caseless := false
  multiLine := false
  dotAll := false
  swapGreed := false
  unicode := true
  crlf := false
  verbose := false

def set (flags : Flags) (value : Bool) : Flag → Flags
  | .caseless => { flags with caseless := value }
  | .multiLine => { flags with multiLine := value }
  | .dotAll => { flags with dotAll := value }
  | .swapGreed => { flags with swapGreed := value }
  | .unicode => { flags with unicode := value }
  | .crlf => { flags with crlf := value }
  | .verbose => { flags with verbose := value }

/-- The flags after a list of changes, the first change first. -/
def change (flags : Flags) (changes : List (Flag × Bool)) : Flags :=
  changes.foldl (fun flags c => flags.set c.2 c.1) flags

end Flags

/-- Reads flag letters up to a colon or a closing parenthesis, which stays in
    the rest. No flag may come twice, nor the hyphen, and the hyphen may not
    come last. `negated` tells that the hyphen came before; `changes` are the
    flags before, the latest first. -/
def readFlags (negated : Bool) (changes : List (Flag × Bool)) :
    List Char → Option (List (Flag × Bool) × List Char)
  | [] => none
  | c :: rest =>
    if c = ':' ∨ c = ')' then some (changes.reverse, c :: rest)
    else if c = '-' then
      match negated, rest with
      | false, d :: _ => if d = ':' ∨ d = ')' then none else readFlags true changes rest
      | _, _ => none
    else
      match Flag.ofLetter? c with
      | some flag =>
        if changes.any (·.1 = flag) then none
        else readFlags negated ((flag, !negated) :: changes) rest
      | none => none

end CatalogAudit.Pattern
