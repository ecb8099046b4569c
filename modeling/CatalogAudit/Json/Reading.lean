import CatalogAudit.Json.Failure

/-!
# Reading JSON texts

Readers take the input at some position and give a value with the input behind
it, or a failure. Failures that are found by looking at a character refer to
the position behind its first byte, the others to the position that has been
reached.

* `readText` reads a string, `readNumber` a number.
* `expectText`, `expectTexts` and `expectObject` read a value of one type.
* `skipValue` reads over any value. Values may nest to any depth; strings in
  them are not decoded and numbers have no range.
* `decode` reads a whole text.
-/

namespace CatalogAudit.Json

/-- The characters that are left, and the number of bytes before them. -/
structure Input where
  rest : List Char
  offset : Nat
  deriving DecidableEq, Repr

/-- The outcome of a reader. -/
abbrev Outcome (α : Type) := Except Failure (α × Input)

namespace Input

/-- The input behind the next character, which takes one byte. -/
def advance (i : Input) : Input where
  rest := i.rest.tail
  offset := i.offset + 1

/-- Fails at the position that has been reached. -/
def failHere {α : Type} (i : Input) (cause : Cause) : Except Failure α :=
  .error { cause, offset := i.offset }

/-- Fails behind the first byte of the next character, or at the end. -/
def failNext {α : Type} (i : Input) (cause : Cause) : Except Failure α :=
  .error { cause, offset := if i.rest.isEmpty then i.offset else i.offset + 1 }

end Input

def isBlank (c : Char) : Bool :=
  c == ' ' || c == '\n' || c == '\t' || c == '\r'

/-- The input behind blanks. -/
def skipBlanks (i : Input) : Input where
  rest := i.rest.dropWhile isBlank
  offset := i.offset + (i.rest.takeWhile isBlank).length

/-! ### Strings -/

/-- The value of a hexadecimal digit. -/
def hexValue? (c : Char) : Option Nat :=
  if '0' ≤ c ∧ c ≤ '9' then some (c.toNat - '0'.toNat)
  else if 'a' ≤ c ∧ c ≤ 'f' then some (c.toNat - 'a'.toNat + 10)
  else if 'A' ≤ c ∧ c ≤ 'F' then some (c.toNat - 'A'.toNat + 10)
  else none

/-- The number that four hexadecimal digits write. -/
def fourDigits? (a b c d : Char) : Option Nat :=
  match hexValue? a, hexValue? b, hexValue? c, hexValue? d with
  | some a, some b, some c, some d => some (((a * 16 + b) * 16 + c) * 16 + d)
  | _, _, _, _ => none

/-- Fails for want of four hexadecimal digits: behind four bytes, or at the end
    if there are fewer. -/
def failHexEscape {α : Type} (i : Input) : Except Failure α :=
  if 4 ≤ byteLength i.rest then .error { cause := .invalidEscape, offset := i.offset + 4 }
  else .error { cause := .endInText, offset := i.offset + byteLength i.rest }

/-- Reads four hexadecimal digits. -/
def readHexEscape (i : Input) : Outcome Nat :=
  match i.rest with
  | a :: b :: c :: d :: rest =>
    match fourDigits? a b c d with
    | some n => .ok (n, { rest, offset := i.offset + 4 })
    | none => failHexEscape i
  | _ => failHexEscape i

/-- Reads the second half of a surrogate pair and combines it with the first. -/
def readLowSurrogate (high : Nat) (i : Input) : Outcome Char :=
  match i.rest with
  | [] => i.failHere .endInText
  | '\\' :: _ =>
    match i.advance.rest with
    | [] => i.advance.failHere .endInText
    | 'u' :: _ =>
      match readHexEscape i.advance.advance with
      | .error f => .error f
      | .ok (low, i) =>
        if 0xDC00 ≤ low ∧ low ≤ 0xDFFF then
          .ok (Char.ofNat ((high - 0xD800) * 1024 + (low - 0xDC00) + 0x10000), i)
        else i.failHere .loneSurrogate
    | _ :: _ => i.advance.failNext .endOfHexEscape
  | _ :: _ => i.failNext .endOfHexEscape

/-- Reads what follows a backslash. -/
def readEscape (i : Input) : Outcome Char :=
  match i.rest with
  | [] => i.failHere .endInText
  | '"' :: _ => .ok ('"', i.advance)
  | '\\' :: _ => .ok ('\\', i.advance)
  | '/' :: _ => .ok ('/', i.advance)
  | 'b' :: _ => .ok ('\x08', i.advance)
  | 'f' :: _ => .ok ('\x0c', i.advance)
  | 'n' :: _ => .ok ('\n', i.advance)
  | 'r' :: _ => .ok ('\r', i.advance)
  | 't' :: _ => .ok ('\t', i.advance)
  | 'u' :: _ =>
    match readHexEscape i.advance with
    | .error f => .error f
    | .ok (n, i) =>
      if 0xDC00 ≤ n ∧ n ≤ 0xDFFF then i.failHere .loneSurrogate
      else if 0xD800 ≤ n ∧ n ≤ 0xDBFF then readLowSurrogate n i
      else .ok (Char.ofNat n, i)
  | _ :: _ => i.failNext .invalidEscape

/-- Reads the characters of a string up to its closing quote. The characters
    before are in `found`, the latest first; `fuel` need not be more than the
    number of characters that are left. -/
def readTextFrom : Nat → List Char → Input → Outcome (List Char)
  | 0, _, i => i.failHere .endInText
  | fuel + 1, found, i =>
    match i.rest with
    | [] => i.failHere .endInText
    | '"' :: _ => .ok (found.reverse, i.advance)
    | '\\' :: _ =>
      match readEscape i.advance with
      | .error f => .error f
      | .ok (c, i) => readTextFrom fuel (c :: found) i
    | c :: rest =>
      if c.toNat < 0x20 then i.failNext .controlCharacter
      else readTextFrom fuel (c :: found) { rest, offset := i.offset + c.utf8Size }

/-- Reads a string behind its opening quote. -/
def readText (i : Input) : Outcome String :=
  match readTextFrom i.rest.length [] i with
  | .error f => .error f
  | .ok (cs, i) => .ok (String.ofList cs, i)

/-- Reads over what follows a backslash. Halves of surrogate pairs are not
    looked at. -/
def skipEscape (i : Input) : Except Failure Input :=
  match i.rest with
  | [] => i.failHere .endInText
  | 'u' :: _ =>
    match readHexEscape i.advance with
    | .error f => .error f
    | .ok (_, i) => .ok i
  | c :: _ => if "\"\\/bfnrt".toList.contains c then .ok i.advance else i.failNext .invalidEscape

/-- Reads over the characters of a string up to its closing quote. -/
def skipTextFrom : Nat → Input → Except Failure Input
  | 0, i => i.failHere .endInText
  | fuel + 1, i =>
    match i.rest with
    | [] => i.failHere .endInText
    | '"' :: _ => .ok i.advance
    | '\\' :: _ =>
      match skipEscape i.advance with
      | .error f => .error f
      | .ok i => skipTextFrom fuel i
    | c :: rest =>
      if c.toNat < 0x20 then i.failHere .controlCharacter
      else skipTextFrom fuel { rest, offset := i.offset + c.utf8Size }

/-- Reads over a string behind its opening quote. -/
def skipText (i : Input) : Except Failure Input :=
  skipTextFrom i.rest.length i

/-- Reads the rest of a literal name. -/
def skipName : List Char → Input → Except Failure Input
  | [], i => .ok i
  | x :: name, i =>
    match i.rest with
    | [] => i.failHere .endInValue
    | y :: _ => if x = y then skipName name i.advance else i.failNext .expectedIdentifier

/-! ### Numbers -/

def isDigit (c : Char) : Bool :=
  '0' ≤ c && c ≤ '9'

/-- The input behind digits. -/
def skipDigits (i : Input) : Input where
  rest := i.rest.dropWhile isDigit
  offset := i.offset + (i.rest.takeWhile isDigit).length

/-- Significands and exponents are kept in words; digits that no longer fit are
    dropped. -/
def greatestSignificand : Nat := Nat.pow 2 64 - 1

def greatestExponent : Nat := Nat.pow 2 31 - 1

/-- Takes digits into a number as long as it does not exceed `limit`: the
    number, how many digits it took, and the rest of the input. -/
def takeDigits (limit : Nat) (n taken offset : Nat) : List Char → Nat × Nat × Input
  | [] => (n, taken, { rest := [], offset })
  | c :: rest =>
    let next := n * 10 + (c.toNat - '0'.toNat)
    if isDigit c ∧ next ≤ limit then takeDigits limit next (taken + 1) (offset + 1) rest
    else (n, taken, { rest := c :: rest, offset })

/-- `f * 10 ^ exponent`, computed in steps of at most `10 ^ 308`; nothing when
    the result is infinite. -/
def scale (f : Float) : Nat → Int → Option Float
  | 0, _ => some f
  | steps + 1, exponent =>
    if exponent.natAbs ≤ 308 then
      let power := Float.ofScientific 1 false exponent.natAbs
      if 0 ≤ exponent then
        if (f * power).isInf then none else some (f * power)
      else some (f / power)
    else if f == 0.0 then some f
    else if 0 ≤ exponent then none
    else scale (f / Float.ofScientific 1 false 308) steps (exponent + 308)

/-- The number with a sign, a significand and an exponent. -/
def floatOf (positive : Bool) (significand : Nat) (exponent : Int) (i : Input) : Outcome Number :=
  match scale significand.toUInt64.toFloat 8 exponent with
  | some f => .ok (.floating (.ofFloat (if positive then f else -f)), i)
  | none => i.failHere .numberOutOfRange

/-- Reads an exponent behind its letter. -/
def readExponent (positive : Bool) (significand : Nat) (exponent : Int) (i : Input) :
    Outcome Number :=
  let (negative, i) : Bool × Input :=
    match i.rest with
    | '+' :: _ => (false, i.advance)
    | '-' :: _ => (true, i.advance)
    | _ => (false, i)
  match i.rest with
  | [] => i.failHere .endInValue
  | c :: _ =>
    if !isDigit c then i.failNext .invalidNumber
    else
      let (n, _, i) := takeDigits greatestExponent 0 0 i.offset i.rest
      match i.rest with
      | c :: _ =>
        -- A digit is left when the exponent no longer fits.
        if !isDigit c then
          floatOf positive significand (exponent + if negative then -(n : Int) else n) i
        else if significand ≠ 0 ∧ !negative then i.advance.failHere .numberOutOfRange
        else .ok (.floating (.ofFloat (if positive then 0.0 else -0.0)), skipDigits i)
      | [] => floatOf positive significand (exponent + if negative then -(n : Int) else n) i

/-- Reads an exponent, if one follows, and makes up the number. -/
def finishFloat (positive : Bool) (significand : Nat) (exponent : Int) (i : Input) :
    Outcome Number :=
  match i.rest with
  | 'e' :: _ | 'E' :: _ => readExponent positive significand exponent i.advance
  | _ => floatOf positive significand exponent i

/-- Reads a fraction behind the decimal point. -/
def readFraction (positive : Bool) (significand : Nat) (exponent : Int) (i : Input) :
    Outcome Number :=
  let (n, taken, j) := takeDigits greatestSignificand significand 0 i.offset i.rest
  match j.rest with
  | [] =>
    if taken = 0 then j.failNext .endInValue
    else finishFloat positive n (exponent - taken) j
  | c :: _ =>
    if isDigit c then finishFloat positive n (exponent - taken) (skipDigits j)
    else if taken = 0 then j.failNext .invalidNumber
    else finishFloat positive n (exponent - taken) j

/-- What follows the digits of a significand that fits into a word. -/
def finishNumber (positive : Bool) (significand : Nat) (i : Input) : Outcome Number :=
  match i.rest with
  | '.' :: _ => readFraction positive significand 0 i.advance
  | 'e' :: _ | 'E' :: _ => readExponent positive significand 0 i.advance
  | _ =>
    if positive then .ok (.integer significand, i)
    else if significand = 0 ∨ Nat.pow 2 63 < significand then
      .ok (.floating (.ofFloat (-significand.toUInt64.toFloat)), i)
    else .ok (.integer (-significand), i)

/-- What follows the digits of a significand that a word cannot hold: more
    digits, which only count for the exponent. -/
def finishLongNumber (positive : Bool) (significand : Nat) (i : Input) : Outcome Number :=
  let exponent : Int := (i.rest.takeWhile isDigit).length
  let i := skipDigits i
  match i.rest with
  | '.' :: _ => readFraction positive significand exponent i.advance
  | _ => finishFloat positive significand exponent i

/-- Reads a number behind its sign. -/
def readNumber (positive : Bool) (i : Input) : Outcome Number :=
  match i.rest with
  | [] => i.failHere .endInValue
  | '0' :: rest =>
    match rest with
    | c :: _ => if isDigit c then i.advance.failNext .invalidNumber
      else finishNumber positive 0 i.advance
    | [] => finishNumber positive 0 i.advance
  | c :: _ =>
    if !isDigit c then i.failNext .invalidNumber
    else
      let (n, _, i) := takeDigits greatestSignificand 0 0 i.offset i.rest
      match i.rest with
      | c :: _ => if isDigit c then finishLongNumber positive n i else finishNumber positive n i
      | [] => finishNumber positive n i

/-- Reads over an exponent behind its letter. -/
def skipExponent (i : Input) : Except Failure Input :=
  let i : Input :=
    match i.rest with
    | '+' :: _ | '-' :: _ => i.advance
    | _ => i
  match i.rest with
  | [] => i.failHere .invalidNumber
  | c :: _ => if isDigit c then .ok (skipDigits i) else i.failNext .invalidNumber

/-- Reads over an exponent, if one follows. -/
def skipExponentIfAny (i : Input) : Except Failure Input :=
  match i.rest with
  | 'e' :: _ | 'E' :: _ => skipExponent i.advance
  | _ => .ok i

/-- Reads over a number behind its sign. -/
def skipNumber (i : Input) : Except Failure Input :=
  match i.rest with
  | [] => i.failHere .invalidNumber
  | c :: _ =>
    if !isDigit c then i.failNext .invalidNumber
    else
      let j := if c = '0' then i.advance else skipDigits i
      match j.rest with
      | '.' :: _ =>
        let k := skipDigits j.advance
        if k.offset = j.offset + 1 then k.failNext .invalidNumber else skipExponentIfAny k
      | d :: _ => if isDigit d then j.failNext .invalidNumber else skipExponentIfAny j
      | [] => .ok j

/-! ### Values of one type -/

/-- Fails because the value that follows is not of the expected type. A value
    other than a list or an object is read first and may fail by itself. -/
def failType {α : Type} (expected : Expected) (i : Input) : Except Failure α :=
  let wrong (found : Found) (i : Input) : Except Failure α :=
    i.failHere (.invalidType found expected)
  let name (letters : String) (found : Found) : Except Failure α :=
    match skipName letters.toList i.advance with
    | .error f => .error f
    | .ok i => wrong found i
  let number (positive : Bool) (i : Input) : Except Failure α :=
    match readNumber positive i with
    | .error f => .error f
    | .ok (n, i) => wrong (.number n) i
  match i.rest with
  | 'n' :: _ => name "ull" .null
  | 't' :: _ => name "rue" (.boolean true)
  | 'f' :: _ => name "alse" (.boolean false)
  | '-' :: _ => number false i.advance
  | '"' :: _ =>
    match readText i.advance with
    | .error f => .error f
    | .ok (s, i) => wrong (.text s) i
  | '[' :: _ => wrong .sequence i
  | '\x7b' :: _ => wrong .map i
  | c :: _ => if isDigit c then number true i else i.failNext .expectedValue
  | [] => i.failNext .expectedValue

/-- Reads a string. -/
def expectText (i : Input) : Outcome String :=
  let i := skipBlanks i
  match i.rest with
  | [] => i.failNext .endInValue
  | '"' :: _ => readText i.advance
  | _ => failType .text i

/-- Reads up to the next element of a list: whether there is one. -/
def nextElement (first : Bool) (i : Input) : Outcome Bool :=
  let i := skipBlanks i
  match i.rest with
  | [] => i.failNext .endInList
  | ']' :: _ => .ok (false, i)
  | ',' :: _ =>
    if first then .ok (true, i)
    else
      let i := skipBlanks i.advance
      match i.rest with
      | [] => i.failNext .endInValue
      | ']' :: _ => i.failNext .trailingComma
      | _ => .ok (true, i)
  | _ => if first then .ok (true, i) else i.failNext .expectedCommaOrBracket

/-- Reads the end of a list. -/
def endList (i : Input) : Except Failure Input :=
  let i := skipBlanks i
  match i.rest with
  | [] => i.failNext .endInList
  | ']' :: _ => .ok i.advance
  | ',' :: _ =>
    let i := skipBlanks i.advance
    match i.rest with
    | ']' :: _ => i.failNext .trailingComma
    | _ => i.failNext .trailingCharacters
  | _ => i.failNext .trailingCharacters

/-- Reads the items of a list, each by `item`; `found` are those before, the latest first. -/
def readItemsFrom {α : Type} (item : Input → Outcome α) :
    Nat → List α → Input → Outcome (List α)
  | 0, _, i => i.failNext .endInList
  | fuel + 1, found, i =>
    match nextElement found.isEmpty i with
    | .error f => .error f
    | .ok (false, i) =>
      match endList i with
      | .error f => .error f
      | .ok i => .ok (found.reverse, i)
    | .ok (true, i) =>
      match item i with
      | .error f => .error f
      | .ok (a, i) => readItemsFrom item fuel (a :: found) i

/-- Reads a list of strings. -/
def expectTexts (i : Input) : Outcome (List String) :=
  let i := skipBlanks i
  match i.rest with
  | [] => i.failNext .endInValue
  | '[' :: _ => readItemsFrom expectText i.rest.length [] i.advance
  | _ => failType .sequence i

/-! ### Objects -/

/-- Reads up to the next key of an object: whether there is one. The quote that
    opens it is still to come. -/
def nextKey (first : Bool) (i : Input) : Outcome Bool :=
  let i := skipBlanks i
  match i.rest with
  | [] => i.failNext .endInObject
  | '\x7d' :: _ => .ok (false, i)
  | c :: _ =>
    if first then if c = '"' then .ok (true, i) else i.failNext .keyIsNoText
    else if c = ',' then
      let i := skipBlanks i.advance
      match i.rest with
      | [] => i.failNext .endInValue
      | '"' :: _ => .ok (true, i)
      | '\x7d' :: _ => i.failNext .trailingComma
      | _ => i.failNext .keyIsNoText
    else i.failNext .expectedCommaOrBrace

/-- Reads the colon behind a key. -/
def readColon (i : Input) : Except Failure Input :=
  let i := skipBlanks i
  match i.rest with
  | [] => i.failNext .endInObject
  | ':' :: _ => .ok i.advance
  | _ => i.failNext .expectedColon

/-- The position of a complaint about an object that was found behind a key:
    blanks and a closing brace are read first. -/
def complaintOffset (i : Input) : Nat :=
  let i := skipBlanks i
  match i.rest with
  | '\x7d' :: _ => i.offset + 1
  | _ => i.offset

/-- Reads the members of an object. What has been read is kept in a state that
    `member` extends by the value behind a key. -/
def readMembersFrom {σ : Type} (member : String → σ → Input → Outcome σ) :
    Nat → Bool → σ → Input → Outcome σ
  | 0, _, _, i => i.failNext .endInObject
  | fuel + 1, first, state, i =>
    match nextKey first i with
    | .error f => .error f
    | .ok (false, i) => .ok (state, i.advance)
    | .ok (true, i) =>
      match readText i.advance with
      | .error f => .error f
      | .ok (key, i) =>
        match member key state i with
        | .error f => .error f
        | .ok (state, i) => readMembersFrom member fuel false state i

/-- Reads the members of an object behind its opening brace. -/
def readMembers {σ : Type} (member : String → σ → Input → Outcome σ) (initial : σ) (i : Input) :
    Outcome σ :=
  readMembersFrom member (i.rest.length + 1) true initial i

/-! ### Values of any type -/

/-- A list or an object that is open around the present position. -/
inductive Bracket
  | list
  | object
  deriving DecidableEq, Repr

/-- What an input goes on with inside open brackets. -/
inductive Pending
  /-- A value. -/
  | value
  /-- What follows a value, or comes first in a bracket. -/
  | separator (first : Bool)
  deriving DecidableEq, Repr

/-- Reads over a key and its colon. -/
def skipKey (i : Input) : Except Failure Input :=
  let i := skipBlanks i
  match i.rest with
  | [] => i.failNext .endInObject
  | '"' :: _ =>
    match skipText i.advance with
    | .error f => .error f
    | .ok i => readColon i
  | _ => i.failNext .keyIsNoText

/-- Reads over what comes before the next value in a bracket. -/
def skipToValue (bracket : Bracket) (i : Input) : Except Failure Input :=
  match bracket with
  | .list => .ok i
  | .object => skipKey i

/-- Reads over the rest of a value that is inside the given brackets, the
    innermost first. -/
def skipFrom : Nat → Pending → List Bracket → Input → Except Failure Input
  | 0, _, _, i => i.failNext .endInValue
  | fuel + 1, .value, brackets, i =>
    let i := skipBlanks i
    let scalar (outcome : Except Failure Input) : Except Failure Input :=
      match outcome with
      | .error f => .error f
      | .ok i => skipFrom fuel (.separator false) brackets i
    match i.rest with
    | [] => i.failNext .endInValue
    | 'n' :: _ => scalar (skipName "ull".toList i.advance)
    | 't' :: _ => scalar (skipName "rue".toList i.advance)
    | 'f' :: _ => scalar (skipName "alse".toList i.advance)
    | '-' :: _ => scalar (skipNumber i.advance)
    | '"' :: _ => scalar (skipText i.advance)
    | '[' :: _ => skipFrom fuel (.separator true) (.list :: brackets) i.advance
    | '\x7b' :: _ => skipFrom fuel (.separator true) (.object :: brackets) i.advance
    | c :: _ => if isDigit c then scalar (skipNumber i) else i.failNext .expectedValue
  | _ + 1, .separator _, [], i => .ok i
  | fuel + 1, .separator first, bracket :: brackets, i =>
    let i := skipBlanks i
    let further (i : Input) : Except Failure Input :=
      match skipToValue bracket i with
      | .error f => .error f
      | .ok i => skipFrom fuel .value (bracket :: brackets) i
    match i.rest, bracket with
    | [], .list => i.failNext .endInList
    | [], .object => i.failNext .endInObject
    | ']' :: _, .list => skipFrom fuel (.separator false) brackets i.advance
    | '\x7d' :: _, .object => skipFrom fuel (.separator false) brackets i.advance
    | c :: _, bracket =>
      if first then further i
      else if c = ',' then further i.advance
      else
        match bracket with
        | .list => i.failNext .expectedCommaOrBracket
        | .object => i.failNext .expectedCommaOrBrace

/-- Reads over any value. Every step but the last takes a character or turns
    from a value to what follows it. -/
def skipValue (i : Input) : Except Failure Input :=
  skipFrom (2 * i.rest.length + 2) .value [] i

/-! ### Whole texts -/

/-- Reads a whole text, behind whose value only blanks may come. -/
def decode {α : Type} (reader : Input → Outcome α) (text : String) : Except Failure α :=
  match reader { rest := text.toList, offset := 0 } with
  | .error f => .error f
  | .ok (a, i) =>
    let i := skipBlanks i
    if i.rest.isEmpty then .ok a else i.failNext .trailingCharacters

end CatalogAudit.Json
