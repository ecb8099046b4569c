/-!
# Shortest decimals

A binary64 number stands for all reals that round to it. The shortest decimal
of the number is the one with the fewest digits among them and, of those, the
nearest. For every power of ten, from large to small, the two multiples of that
power around the number are tried; the first power with a multiple in the
interval gives the fewest digits. Everything is computed with natural numbers.

* `Binary64.shortest` gives the digits and the power of ten.
-/

namespace CatalogAudit

/-- A binary64 number as its bits. -/
structure Binary64 where
  bits : UInt64
  deriving DecidableEq, Repr

namespace Binary64

def ofFloat (x : Float) : Binary64 where
  bits := x.toBits

/-- The sign bit is set. -/
def isNegative (x : Binary64) : Bool :=
  x.bits.toNat / Nat.pow 2 63 == 1

/-- The eleven bits of the exponent. -/
def biased (x : Binary64) : Nat :=
  x.bits.toNat / Nat.pow 2 52 % Nat.pow 2 11

/-- The fifty-two bits of the fraction. -/
def fraction (x : Binary64) : Nat :=
  x.bits.toNat % Nat.pow 2 52

/-- The magnitude is `mantissa * 2 ^ (exponent - 1077)`, with two more binary
    places than the format has. -/
def mantissa (x : Binary64) : Nat :=
  4 * if x.biased = 0 then x.fraction else Nat.pow 2 52 + x.fraction

def exponent (x : Binary64) : Nat :=
  max x.biased 1

end Binary64

/-- The reals that round to a number: `low / unit` to `high / unit` around
    `value / unit`. -/
structure RoundingInterval where
  low : Nat
  value : Nat
  high : Nat
  unit : Nat
  /-- The ends belong to the interval. -/
  closed : Bool

/-- The interval of a positive number. Below a power of two the numbers are
    twice as close, and an even fraction wins a tie. -/
def Binary64.interval (x : Binary64) : RoundingInterval :=
  let below := if x.fraction = 0 ∧ 1 < x.biased then 1 else 2
  let scale := Nat.pow 2 (x.exponent - 1077)
  { low := (x.mantissa - below) * scale
    value := x.mantissa * scale
    high := (x.mantissa + 2) * scale
    unit := Nat.pow 2 (1077 - x.exponent)
    closed := x.fraction % 2 == 0 }

/-- Digits, as the number they write, and the power of ten they count. -/
structure ShortDecimal where
  digits : Nat
  power : Int
  deriving DecidableEq, Repr

namespace RoundingInterval

/-- The interval in units of `10 ^ power`. -/
def inPowers (r : RoundingInterval) (power : Int) : RoundingInterval :=
  { r with
    low := r.low * Nat.pow 10 (-power).toNat
    value := r.value * Nat.pow 10 (-power).toNat
    high := r.high * Nat.pow 10 (-power).toNat
    unit := r.unit * Nat.pow 10 power.toNat }

/-- The natural number `n` lies in the interval. -/
def contains (r : RoundingInterval) (n : Nat) : Bool :=
  if r.closed then r.low ≤ n * r.unit && n * r.unit ≤ r.high
  else r.low < n * r.unit && n * r.unit < r.high

/-- The natural number in the interval next to the value: of two the nearer,
    and the even one on a tie. -/
def nearest? (r : RoundingInterval) : Option Nat :=
  let n := r.value / r.unit
  let rest := r.value % r.unit
  match r.contains n && n != 0, r.contains (n + 1) with
  | true, true =>
    if 2 * rest < r.unit ∨ (2 * rest = r.unit ∧ n % 2 = 0) then some n else some (n + 1)
  | true, false => some n
  | false, true => some (n + 1)
  | false, false => none

/-- The first multiple of a power of ten in the interval, among `tries` powers
    from `power` downwards. -/
def search (r : RoundingInterval) : Nat → Int → ShortDecimal
  | 0, power => { digits := (r.inPowers power).value / (r.inPowers power).unit, power }
  | tries + 1, power =>
    match (r.inPowers power).nearest? with
    | some n => { digits := n, power }
    | none => search r tries (power - 1)

end RoundingInterval

/-- A power of ten that is not below a positive number, and not far above it. -/
def Binary64.powerAbove (x : Binary64) : Int :=
  ((x.mantissa.log2 : Int) + 1 + x.exponent - 1077) * 30103 / 100000 + 1

/-- The shortest decimal of a positive number. A number needs at most seventeen
    digits, and the power above it exceeds the one of its first digit by at most
    one. -/
def Binary64.shortest (x : Binary64) : ShortDecimal :=
  x.interval.search 19 x.powerAbove

end CatalogAudit
