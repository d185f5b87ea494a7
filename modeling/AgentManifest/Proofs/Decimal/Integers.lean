import Mathlib.Algebra.Ring.Int.Defs
import AgentManifest.Proofs.Json.WellFormed

/-! Integers among the binary64 numbers. An integer below 2 ^ 53 is a number of its own and those
above it are rounded to greater ones, so a bound below 2 ^ 53 holds of stored integers after
rounding exactly when it holds of the integers themselves. Rounding never exchanges two integers:
the smaller one is stored below the larger one unless both are stored as one number, and that takes
integers beyond 2 ^ 53 that lie close together. -/

namespace AgentManifest
namespace Binary64

/-- The rank of the number nearest to a natural number, as if there were no largest one. -/
def integerRank (n : Nat) : Nat :=
  if n = 0 then 0
  else (n.log2 + 1022) * binadeSize
    + divideToEven (n * 2 ^ (52 - n.log2)) (2 ^ (n.log2 - 52))

theorem divideToEven_one (n : Nat) : divideToEven n 1 = n := by
  simp [divideToEven, Nat.mod_one]

theorem le_divideToEven (num den : Nat) : num / den ≤ divideToEven num den := by
  simp only [divideToEven]
  split
  · exact Nat.le_refl _
  · split <;> omega

theorem divideToEven_le (num den : Nat) : divideToEven num den ≤ num / den + 1 := by
  simp only [divideToEven]
  split
  · omega
  · split <;> omega

theorem placeOf_one {n : Nat} (positive : n ≠ 0) : placeOf n 1 = (n.log2 : Int) - 52 := by
  have below : 2 ^ n.log2 ≤ n := Nat.log2_self_le positive
  have whole : floorLog2 n 1 = n.log2 := by
    have one : Nat.log2 1 = 0 := by decide
    simp [floorLog2, one, below]
  rw [placeOf, whole]
  omega

theorem round?_one (negative : Bool) (n : Nat) :
    round? negative n 1 =
      if small : integerRank n < rankCount then some ⟨negative, ⟨integerRank n, small⟩⟩
      else none := by
  by_cases zero : n = 0
  · simp [round?, integerRank, zero]
  · have exponent : (placeOf n 1 + 1074).toNat = n.log2 + 1022 := by
      rw [placeOf_one zero]
      omega
    have down : (-placeOf n 1).toNat = 52 - n.log2 := by
      rw [placeOf_one zero]
      omega
    have up : (placeOf n 1).toNat = n.log2 - 52 := by
      rw [placeOf_one zero]
      omega
    simp [round?, integerRank, zero, exponent, down, up]

variable {m n : Nat}

theorem integerRank_of_lt (positive : n ≠ 0) (exact_ : n < 2 ^ 53) :
    integerRank n = (n.log2 + 1022) * binadeSize + n * 2 ^ (52 - n.log2) := by
  have small : n.log2 < 53 := (Nat.log2_lt positive).mpr exact_
  have whole : n.log2 - 52 = 0 := by omega
  rw [integerRank, if_neg positive, whole, Nat.pow_zero, divideToEven_one]

theorem binadeSize_le_significand (positive : n ≠ 0) :
    binadeSize ≤ n * 2 ^ (52 - n.log2) / 2 ^ (n.log2 - 52) := by
  have below : 2 ^ n.log2 ≤ n := Nat.log2_self_le positive
  rw [Nat.le_div_iff_mul_le (Nat.two_pow_pos _)]
  calc binadeSize * 2 ^ (n.log2 - 52)
      = 2 ^ 52 * 2 ^ (n.log2 - 52) := rfl
    _ = 2 ^ n.log2 * 2 ^ (52 - n.log2) := by
        rw [← Nat.pow_add, ← Nat.pow_add]
        congr 1
        omega
    _ ≤ n * 2 ^ (52 - n.log2) := Nat.mul_le_mul_right _ below

theorem significand_lt (n : Nat) :
    n * 2 ^ (52 - n.log2) / 2 ^ (n.log2 - 52) < 2 * binadeSize := by
  have above : n < 2 ^ (n.log2 + 1) := Nat.lt_log2_self
  rw [Nat.div_lt_iff_lt_mul (Nat.two_pow_pos _)]
  calc n * 2 ^ (52 - n.log2)
      < 2 ^ (n.log2 + 1) * 2 ^ (52 - n.log2) :=
        Nat.mul_lt_mul_of_pos_right above (Nat.two_pow_pos _)
    _ = 2 ^ 53 * 2 ^ (n.log2 - 52) := by
        rw [← Nat.pow_add, ← Nat.pow_add]
        congr 1
        omega
    _ = 2 * binadeSize * 2 ^ (n.log2 - 52) := rfl

theorem le_integerRank (positive : n ≠ 0) : (n.log2 + 1023) * binadeSize ≤ integerRank n := by
  rw [integerRank, if_neg positive]
  calc (n.log2 + 1023) * binadeSize
      = (n.log2 + 1022) * binadeSize + binadeSize := Nat.succ_mul _ _
    _ ≤ _ := Nat.add_le_add_left
        (Nat.le_trans (binadeSize_le_significand positive) (le_divideToEven _ _)) _

theorem integerRank_le (positive : n ≠ 0) : integerRank n ≤ (n.log2 + 1024) * binadeSize := by
  rw [integerRank, if_neg positive]
  calc (n.log2 + 1022) * binadeSize + divideToEven (n * 2 ^ (52 - n.log2)) (2 ^ (n.log2 - 52))
      ≤ (n.log2 + 1022) * binadeSize + 2 * binadeSize :=
        Nat.add_le_add_left (Nat.le_trans (divideToEven_le _ _) (significand_lt n)) _
    _ = (n.log2 + 1024) * binadeSize := (Nat.add_mul _ 2 _).symm

theorem integerRank_zero : integerRank 0 = 0 := if_pos rfl

theorem integerRank_pos (positive : n ≠ 0) : 0 < integerRank n :=
  Nat.lt_of_lt_of_le (Nat.mul_pos (by omega) (by decide)) (le_integerRank positive)

/-- Up to 2 ^ 53 no two integers are rounded to one number. -/
theorem integerRank_lt (less : m < n) (exact_ : m < 2 ^ 53) : integerRank m < integerRank n := by
  have positive : n ≠ 0 := Nat.ne_zero_of_lt less
  by_cases zero : m = 0
  · rw [zero, integerRank_zero]
    exact integerRank_pos positive
  · have rank := integerRank_of_lt zero exact_
    have small : m.log2 < 53 := (Nat.log2_lt zero).mpr exact_
    have ordered : m.log2 ≤ n.log2 := (Nat.le_log2 positive).mpr
      (Nat.le_trans (Nat.log2_self_le zero) (Nat.le_of_lt less))
    rcases Nat.eq_or_lt_of_le ordered with same | below
    · -- Equal exponents: the significands decide, and neither of them is rounded.
      have exact' : n < 2 ^ 53 := by
        refine Nat.lt_of_lt_of_le Nat.lt_log2_self (Nat.pow_le_pow_right (by decide) ?_)
        rw [← same]
        exact small
      rw [rank, integerRank_of_lt positive exact', same]
      exact Nat.add_lt_add_left (Nat.mul_lt_mul_of_pos_right less (Nat.two_pow_pos _)) _
    · have significand : m * 2 ^ (52 - m.log2) < 2 * binadeSize := by
        have bounded := significand_lt m
        have whole : m.log2 - 52 = 0 := Nat.sub_eq_zero_of_le (Nat.le_of_lt_succ small)
        rwa [whole, Nat.pow_zero, Nat.div_one] at bounded
      calc integerRank m
          = (m.log2 + 1022) * binadeSize + m * 2 ^ (52 - m.log2) := rank
        _ < (m.log2 + 1022) * binadeSize + 2 * binadeSize := Nat.add_lt_add_left significand _
        _ = (m.log2 + 1024) * binadeSize := (Nat.add_mul _ 2 _).symm
        _ ≤ (n.log2 + 1023) * binadeSize :=
            Nat.mul_le_mul_right _ (Nat.add_le_add_right below 1023)
        _ ≤ integerRank n := le_integerRank positive

end Binary64

namespace Number

variable {i : Int}

theorem key_integer (stored : fits i = true) :
    (integer i).toBinary64.key =
      if i < 0 then -(Binary64.integerRank i.natAbs : Int) else Binary64.integerRank i.natAbs := by
  have range := fits_iff.mp stored
  have small : Binary64.integerRank i.natAbs < Binary64.rankCount := by
    by_cases zero : i.natAbs = 0
    · rw [zero]
      decide
    · have log : i.natAbs.log2 < 64 := (Nat.log2_lt zero).mpr (by omega)
      calc Binary64.integerRank i.natAbs
          ≤ (i.natAbs.log2 + 1024) * Binary64.binadeSize := Binary64.integerRank_le zero
        _ ≤ 1087 * Binary64.binadeSize := Nat.mul_le_mul_right _ (by omega)
        _ < Binary64.rankCount := by decide
  rw [toBinary64, Binary64.ofInt?, Binary64.round?_one, dif_pos small]
  simp [Binary64.key]

theorem key_ofNat {bound : Nat} (exact_ : bound < 2 ^ 53) :
    (integer bound).toBinary64.key = Binary64.integerRank bound := by
  have stored : fits bound = true := fits_iff.mpr (by omega)
  rw [key_integer stored, if_neg (by omega), Int.natAbs_natCast]

/-- A stored integer is at most an exact bound if it is after rounding. -/
theorem key_integer_le_iff (bound : Nat) (stored : fits i = true) (exact_ : bound < 2 ^ 53) :
    (integer i).toBinary64.key ≤ (integer bound).toBinary64.key ↔ i ≤ bound := by
  rw [key_integer stored, key_ofNat exact_]
  constructor
  · intro below
    by_contra above
    have less : bound < i.natAbs := by omega
    have := Binary64.integerRank_lt less exact_
    rw [if_neg (by omega)] at below
    omega
  · intro below
    split
    next negative => omega
    next =>
      rcases Nat.eq_or_lt_of_le (show i.natAbs ≤ bound by omega) with same | less
      · rw [same]
      · have := Binary64.integerRank_lt less (by omega)
        omega

/-- A stored integer is at least an exact bound if it is after rounding. -/
theorem le_key_integer_iff (bound : Nat) (stored : fits i = true) (exact_ : bound < 2 ^ 53) :
    (integer bound).toBinary64.key ≤ (integer i).toBinary64.key ↔ bound ≤ i := by
  rw [key_integer stored, key_ofNat exact_]
  constructor
  · intro above
    by_contra below
    split at above
    next negative =>
      have positive : 0 < Binary64.integerRank i.natAbs := Binary64.integerRank_pos (by omega)
      omega
    next =>
      have less : i.natAbs < bound := by omega
      have := Binary64.integerRank_lt less (by omega)
      omega
  · intro above
    rw [if_neg (by omega)]
    rcases Nat.eq_or_lt_of_le (show bound ≤ i.natAbs by omega) with same | less
    · rw [same]
    · have := Binary64.integerRank_lt less exact_
      omega

end Number

namespace Binary64

variable {m n den : Nat}

/-- A quotient is rounded down over at most half of the divisor, and up over at least half of it. -/
theorem divideToEven_cases (num den : Nat) :
    (divideToEven num den = num / den ∧ 2 * (num % den) ≤ den) ∨
      (divideToEven num den = num / den + 1 ∧ den ≤ 2 * (num % den)) := by
  simp only [divideToEven]
  split
  next below => exact .inl ⟨rfl, by omega⟩
  next =>
    split
    next above => exact .inr ⟨rfl, by omega⟩
    next =>
      rcases Nat.mod_two_eq_zero_or_one (num / den) with even | odd
      · exact .inl ⟨by omega, by omega⟩
      · exact .inr ⟨by omega, by omega⟩

theorem divideToEven_near (num : Nat) (positive : 0 < den) :
    2 * (divideToEven num den * den) ≤ 2 * num + den ∧
      2 * num ≤ 2 * (divideToEven num den * den) + den := by
  have whole : num / den * den + num % den = num := Nat.div_add_mod' num den
  rcases divideToEven_cases num den with ⟨rounded, half⟩ | ⟨rounded, half⟩
  · rw [rounded]
    generalize num / den * den = below at *
    omega
  · have inside : num % den < den := Nat.mod_lt _ positive
    rw [rounded, Nat.add_one_mul (num / den)]
    generalize num / den * den = below at *
    omega

theorem divideToEven_mono (den : Nat) (less : m ≤ n) : divideToEven m den ≤ divideToEven n den := by
  rcases Nat.eq_or_lt_of_le (Nat.div_le_div_right (c := den) less) with same | below
  · have ordered : m % den ≤ n % den := by
      have wholeM := Nat.div_add_mod' m den
      have wholeN := Nat.div_add_mod' n den
      rw [same] at wholeM
      generalize n / den * den = below at *
      omega
    simp only [divideToEven, same]
    split_ifs <;> omega
  · calc divideToEven m den ≤ m / den + 1 := divideToEven_le m den
      _ ≤ n / den := below
      _ ≤ divideToEven n den := le_divideToEven n den

theorem integerRank_mono (less : m ≤ n) : integerRank m ≤ integerRank n := by
  by_cases zero : m = 0
  · rw [zero, integerRank_zero]
    exact Nat.zero_le _
  · have positive : n ≠ 0 := by omega
    have ordered : m.log2 ≤ n.log2 :=
      (Nat.le_log2 positive).mpr (Nat.le_trans (Nat.log2_self_le zero) less)
    rcases Nat.eq_or_lt_of_le ordered with same | below
    · rw [integerRank, if_neg zero, integerRank, if_neg positive, same]
      exact Nat.add_le_add_left (divideToEven_mono _ (Nat.mul_le_mul_right _ less)) _
    · calc integerRank m ≤ (m.log2 + 1024) * binadeSize := integerRank_le zero
        _ ≤ (n.log2 + 1023) * binadeSize := Nat.mul_le_mul_right _ (Nat.add_le_add_right below 1023)
        _ ≤ integerRank n := le_integerRank positive

theorem integerRank_of_le (large : 2 ^ 52 ≤ n) : integerRank n =
    (n.log2 + 1022) * binadeSize + divideToEven n (2 ^ (n.log2 - 52)) := by
  have positive : n ≠ 0 := by omega
  have exponent : 52 ≤ n.log2 := (Nat.le_log2 positive).mpr large
  rw [integerRank, if_neg positive, Nat.sub_eq_zero_of_le exponent, Nat.pow_zero, Nat.mul_one]

/-- Integers are only rounded to one number if that takes rounding, and if they are no farther apart
than the numbers around the larger one. -/
theorem close_of_integerRank_eq (less : m < n) (same : integerRank m = integerRank n) :
    2 ^ 53 ≤ m ∧ n ≤ m + 2 ^ (n.log2 - 52) := by
  have large : 2 ^ 53 ≤ m := by
    by_contra exact_
    exact absurd same (Nat.ne_of_lt (integerRank_lt less (by omega)))
  refine ⟨large, ?_⟩
  have zero : m ≠ 0 := by omega
  have positive : n ≠ 0 := by omega
  have exponent : 53 ≤ m.log2 := (Nat.le_log2 zero).mpr large
  have ordered : m.log2 ≤ n.log2 :=
    (Nat.le_log2 positive).mpr (Nat.le_trans (Nat.log2_self_le zero) (Nat.le_of_lt less))
  have nearM := (divideToEven_near m (Nat.two_pow_pos (m.log2 - 52))).1
  have nearN := (divideToEven_near n (Nat.two_pow_pos (n.log2 - 52))).2
  have size : binadeSize = 0x10000000000000 := rfl
  have most := integerRank_le zero
  have least := le_integerRank positive
  have rankM := integerRank_of_le (Nat.le_trans (by decide) large)
  have rankN := integerRank_of_le (Nat.le_trans (Nat.le_trans (by decide) large) (Nat.le_of_lt less))
  rw [size] at most least rankM rankN
  rcases Nat.eq_or_lt_of_le ordered with level | below
  · rw [level] at rankM nearM
    have quotients : divideToEven m (2 ^ (n.log2 - 52)) = divideToEven n (2 ^ (n.log2 - 52)) := by
      omega
    rw [quotients] at nearM
    omega
  · -- The smaller one is rounded up to the power of two that the larger one is rounded down to.
    have next : n.log2 = m.log2 + 1 := by omega
    have up : divideToEven m (2 ^ (m.log2 - 52)) = 2 * 0x10000000000000 := by omega
    have down : divideToEven n (2 ^ (n.log2 - 52)) = 0x10000000000000 := by omega
    have double : 2 ^ (n.log2 - 52) = 2 * 2 ^ (m.log2 - 52) := by
      rw [next, Nat.sub_add_comm (by omega), Nat.pow_succ, Nat.mul_comm]
    rw [up] at nearM
    rw [down] at nearN
    omega

theorem apart_le_of_integerRank_eq (less : m < n) (same : integerRank m = integerRank n)
    (stored : n < 2 ^ 64) : 2 ^ 53 ≤ m ∧ n ≤ m + 2048 := by
  obtain ⟨large, close⟩ := close_of_integerRank_eq less same
  have exponent : n.log2 < 64 := (Nat.log2_lt (by omega)).mpr stored
  have spacing : 2 ^ (n.log2 - 52) ≤ 2 ^ 11 := Nat.pow_le_pow_right (by decide) (by omega)
  exact ⟨large, by omega⟩

end Binary64

namespace Number

variable {i j : Int}

/-- Two integers have the same nearest number. -/
def RoundTogether (i j : Int) : Prop := (integer i).toBinary64 = (integer j).toBinary64

instance : Decidable (RoundTogether i j) :=
  inferInstanceAs (Decidable ((integer i).toBinary64 = (integer j).toBinary64))

theorem toBinary64_integer (stored : fits i = true) : ∃ small,
    (integer i).toBinary64 = ⟨decide (i < 0), ⟨Binary64.integerRank i.natAbs, small⟩⟩ := by
  have range := fits_iff.mp stored
  have small : Binary64.integerRank i.natAbs < Binary64.rankCount := by
    refine Nat.lt_of_le_of_lt (Binary64.integerRank_mono (n := 2 ^ 64) (by omega)) ?_
    decide
  refine ⟨small, ?_⟩
  rw [toBinary64, Binary64.ofInt?, Binary64.round?_one, dif_pos small, Option.getD_some]

theorem roundTogether_iff (storedI : fits i = true) (storedJ : fits j = true) :
    RoundTogether i j ↔ (i < 0 ↔ j < 0) ∧
      Binary64.integerRank i.natAbs = Binary64.integerRank j.natAbs := by
  obtain ⟨_, roundedI⟩ := toBinary64_integer storedI
  obtain ⟨_, roundedJ⟩ := toBinary64_integer storedJ
  rw [RoundTogether, roundedI, roundedJ]
  simp

/-- Of two stored integers the smaller one is stored as the smaller number, unless both are stored
as one. -/
theorem lt_toBinary64_iff (storedI : fits i = true) (storedJ : fits j = true) :
    (integer i).toBinary64.lt (integer j).toBinary64 = true ↔ i < j ∧ ¬ RoundTogether i j := by
  rw [roundTogether_iff storedI storedJ, Binary64.lt, decide_eq_true_iff, key_integer storedI,
    key_integer storedJ]
  have up : i.natAbs ≤ j.natAbs →
      Binary64.integerRank i.natAbs ≤ Binary64.integerRank j.natAbs := Binary64.integerRank_mono
  have down : j.natAbs ≤ i.natAbs →
      Binary64.integerRank j.natAbs ≤ Binary64.integerRank i.natAbs := Binary64.integerRank_mono
  have positiveI : i ≠ 0 → 0 < Binary64.integerRank i.natAbs := fun other =>
    Binary64.integerRank_pos (by omega)
  have positiveJ : j ≠ 0 → 0 < Binary64.integerRank j.natAbs := fun other =>
    Binary64.integerRank_pos (by omega)
  split_ifs <;> omega

/-- Integers that are stored as one number are both large, of one sign, and close together. -/
theorem RoundTogether.close (together : RoundTogether i j) (storedI : fits i = true)
    (storedJ : fits j = true) (less : i < j) :
    (2 ^ 53 ≤ i ∨ j ≤ -2 ^ 53) ∧ j ≤ i + 2048 := by
  obtain ⟨signs, same⟩ := (roundTogether_iff storedI storedJ).mp together
  have rangeI := fits_iff.mp storedI
  have rangeJ := fits_iff.mp storedJ
  by_cases negative : i < 0
  · have apart := Binary64.apart_le_of_integerRank_eq (by omega) same.symm (by omega)
    omega
  · have apart := Binary64.apart_le_of_integerRank_eq (by omega) same (by omega)
    omega

end Number
end AgentManifest
