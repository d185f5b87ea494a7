import AgentManifest.Decimal.Binary64

/-! The shortest decimal that reads back as a given number. The decimals that read back fill an
interval around the number, its ends included when the significand is even. `shortest` takes the
coarsest power-of-ten grid with a point in that interval, and of two such points the nearer one. -/

namespace AgentManifest

inductive TieRule where
  | toEven
  | away
  deriving DecidableEq, Repr

structure ShortDecimal where
  digits : Nat
  exponent : Int
  deriving DecidableEq, Repr

namespace Binary64

/-- The magnitude and the ends of the interval that rounds to it, all over one denominator. -/
structure RoundingInterval where
  low : Nat
  value : Nat
  high : Nat
  denominator : Nat
  closed : Bool

/-- The reals that round to the number. Below a power of two the spacing is half of that above. -/
def roundingInterval (x : Binary64) : RoundingInterval :=
  let m := x.significand
  let (up, down) := powerOfTwo (x.exponent - 2)
  let below := if m = Binary64.binadeSize ∧ x.exponent > -1074 then 1 else 2
  ⟨(4 * m - below) * up, 4 * m * up, (4 * m + 2) * up, down, m % 2 == 0⟩

def RoundingInterval.holds (i : RoundingInterval) (num den : Nat) : Bool :=
  let here := num * i.denominator
  let low := i.low * den
  let high := i.high * den
  if i.closed then low ≤ here && here ≤ high else low < here && here < high

/-- The point of the grid of multiples of `10 ^ exponent` that is nearest to the value among those
in the interval. -/
def RoundingInterval.gridPoint? (i : RoundingInterval) (tie : TieRule) (exponent : Int) :
    Option Nat :=
  let up := Nat.pow 10 exponent.toNat
  let down := Nat.pow 10 (-exponent).toNat
  let num := i.value * down
  let den := i.denominator * up
  let lower := num / den
  let twice := 2 * (num % den)
  let lowerHolds := i.holds (lower * up) down
  let upperHolds := i.holds ((lower + 1) * up) down
  if lowerHolds && upperHolds then
    if twice < den then some lower
    else if den < twice then some (lower + 1)
    else match tie with
      | .away => some (lower + 1)
      | .toEven => some (lower + lower % 2)
  else if lowerHolds then some lower
  else if upperHolds then some (lower + 1)
  else none

def RoundingInterval.search (i : RoundingInterval) (tie : TieRule) : Nat → Int → ShortDecimal
  | 0, exponent => ⟨0, exponent⟩
  | steps + 1, exponent =>
    match i.gridPoint? tie exponent with
    | some digits => ⟨digits, exponent⟩
    | none => i.search tie steps (exponent - 1)

def tenExponentAbove (x : Binary64) : Int :=
  ((x.significand.log2 : Int) + 1 + x.exponent) * 30103 / 100000 + 2

def shortest (tie : TieRule) (x : Binary64) : ShortDecimal :=
  if x.isZero then ⟨0, 0⟩ else x.roundingInterval.search tie 24 x.tenExponentAbove

end Binary64
end AgentManifest
