/-! The finite numbers of the binary64 format, in exact integer arithmetic. A number is a sign and
the rank of its magnitude among the non-negative finite numbers, so neighbouring ranks are
neighbouring numbers and order on magnitudes is order on ranks. `round?` is the one place where a
ratio becomes a number: to the nearest, a tie to the even significand, nothing beyond the largest
finite number. -/

namespace AgentManifest

abbrev Binary64.binadeSize : Nat := 0x10000000000000

/-- How many non-negative finite numbers there are. -/
abbrev Binary64.rankCount : Nat := 2047 * Binary64.binadeSize

/-- A finite binary64 number. -/
structure Binary64 where
  negative : Bool
  rank : Fin Binary64.rankCount
  deriving DecidableEq, Repr

namespace Binary64

/-- The significand `m` of the magnitude `m * 2 ^ exponent`. -/
def significand (x : Binary64) : Nat :=
  if x.rank.val < binadeSize then x.rank.val else binadeSize + x.rank.val % binadeSize

def exponent (x : Binary64) : Int :=
  if x.rank.val < binadeSize then -1074 else (x.rank.val / binadeSize : Nat) - 1075

def powerOfTwo (e : Int) : Nat × Nat := (Nat.pow 2 e.toNat, Nat.pow 2 (-e).toNat)

def magnitude (x : Binary64) : Nat × Nat :=
  let (up, down) := powerOfTwo x.exponent
  (x.significand * up, down)

def zero : Binary64 := ⟨false, ⟨0, by decide⟩⟩

def isZero (x : Binary64) : Bool := x.rank.val == 0

def key (x : Binary64) : Int := if x.negative then -(x.rank.val : Int) else x.rank.val

def same (x y : Binary64) : Bool := x.key == y.key

def lt (x y : Binary64) : Bool := x.key < y.key

/-- The quotient rounded to the nearest natural number, a tie to the even one. -/
def divideToEven (num den : Nat) : Nat :=
  let q := num / den
  let twice := 2 * (num % den)
  if twice < den then q else if twice > den then q + 1 else q + q % 2

/-- The exponent of the largest power of two that is at most `num / den`, for positive `num` and
`den`. -/
def floorLog2 (num den : Nat) : Int :=
  let guess : Int := (num.log2 : Int) - den.log2
  if den * Nat.pow 2 guess.toNat ≤ num * Nat.pow 2 (-guess).toNat then guess else guess - 1

def placeOf (num den : Nat) : Int := max (floorLog2 num den - 52) (-1074)

/-- The number nearest to `num / den`, a tie to the even significand; none when that is beyond the
largest finite number. -/
def round? (negative : Bool) (num den : Nat) : Option Binary64 :=
  if num = 0 then some ⟨negative, ⟨0, by decide⟩⟩
  else
    let place := placeOf num den
    let m := divideToEven (num * Nat.pow 2 (-place).toNat) (den * Nat.pow 2 place.toNat)
    let rank := (place + 1074).toNat * binadeSize + m
    if h : rank < rankCount then some ⟨negative, ⟨rank, h⟩⟩ else none

def mul? (x y : Binary64) : Option Binary64 :=
  let (a, b) := x.magnitude
  let (c, d) := y.magnitude
  round? (x.negative != y.negative) (a * c) (b * d)

def div? (x y : Binary64) : Option Binary64 :=
  let (a, b) := x.magnitude
  let (c, d) := y.magnitude
  round? (x.negative != y.negative) (a * d) (b * c)

def ofInt? (i : Int) : Option Binary64 := round? (i < 0) i.natAbs 1

/-- The number nearest to `digits * 10 ^ exponent`. A decimal far outside the range is settled by
its size alone. -/
def ofDecimal? (negative : Bool) (digits : Nat) (exponent : Int) : Option Binary64 :=
  let size : Int := digits.log2 * 30103 / 100000 + exponent
  if digits = 0 || size < -400 then some ⟨negative, ⟨0, by decide⟩⟩
  else if size > 400 then none
  else round? negative (digits * Nat.pow 10 exponent.toNat) (Nat.pow 10 (-exponent).toNat)

end Binary64
end AgentManifest
