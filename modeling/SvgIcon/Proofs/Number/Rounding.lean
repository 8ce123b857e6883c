import Mathlib.Algebra.Group.Nat.Defs
import SvgIcon.Number.Decimal

/-!
Rounding of decimals.  What a decimal is rounded to depends on the ratio that it stands for and not
on how its digits and its exponent share it.  The exponents that are answered without computing a
power are answered rightly, so the shortest decimal of a number reads back as that number.
-/

namespace SvgIcon
namespace Double

theorem unitsInOne_eq : unitsInOne = 2 ^ 1074 := by decide +kernel

/-- Three binary digits are less than a decimal one. -/
theorem two_pow_le_ten_pow (n : Nat) : 2 ^ (3 * n) ≤ 10 ^ n := by
  rw [Nat.pow_mul]
  exact Nat.pow_le_pow_left (by omega) n

/-! ## Ratios -/

theorem roundDiv_mul (num den : Nat) {k : Nat} (hk : 0 < k) :
    roundDiv (num * k) (den * k) = roundDiv num den := by
  have hless : den * k < 2 * (num % den * k) ↔ den < 2 * (num % den) := by
    rw [← Nat.mul_assoc]
    exact Nat.mul_lt_mul_right hk
  have hhalf : 2 * (num % den * k) = den * k ↔ 2 * (num % den) = den := by
    rw [← Nat.mul_assoc]
    exact Nat.mul_left_inj (Nat.ne_of_gt hk)
  simp only [roundDiv, Nat.mul_div_mul_right _ _ hk, Nat.mul_mod_mul_right, hless, hhalf]

theorem rankOfRatio_mul (num den : Nat) {k : Nat} (hk : 0 < k) :
    rankOfRatio (num * k) (den * k) = rankOfRatio num den := by
  simp only [rankOfRatio, Nat.mul_div_mul_right _ _ hk]
  rw [Nat.mul_right_comm den k, roundDiv_mul _ _ hk]

theorem ofRatio_mul (negative : Bool) (num den : Nat) {k : Nat} (hk : 0 < k) :
    ofRatio negative (num * k) (den * k) = ofRatio negative num den := by
  rw [ofRatio, ofUnits, Nat.mul_right_comm num k, rankOfRatio_mul _ _ hk]
  rfl

/-- Equal ratios are rounded to the same number. -/
theorem ofRatio_congr (negative : Bool) {num den num' den' : Nat} (hden : 0 < den)
    (hden' : 0 < den') (h : num * den' = num' * den) :
    ofRatio negative num den = ofRatio negative num' den' :=
  calc ofRatio negative num den
      = ofRatio negative (num * den') (den * den') := (ofRatio_mul _ _ _ hden').symm
    _ = ofRatio negative (num' * den) (den' * den) := by rw [h, Nat.mul_comm den den']
    _ = ofRatio negative num' den' := ofRatio_mul _ _ _ hden

/-! ## Decimals -/

/-- The number `digits * 10 ^ exponent`, rounded, whatever the exponent is. -/
def ofPower (negative : Bool) (digits : Nat) (exponent : Int) : Double :=
  ofRatio negative (digits * 10 ^ exponent.toNat) (10 ^ (-exponent).toNat)

theorem ofPower_shift (negative : Bool) (digits k : Nat) (exponent : Int) :
    ofPower negative (digits * 10 ^ k) (exponent - k) = ofPower negative digits exponent := by
  have hexponents : k + (exponent - k).toNat + (-exponent).toNat =
      exponent.toNat + (-(exponent - k)).toNat := by omega
  apply ofRatio_congr
  · exact Nat.pow_pos (by omega)
  · exact Nat.pow_pos (by omega)
  · rw [Nat.mul_assoc, Nat.mul_assoc, Nat.mul_assoc, ← Nat.pow_add, ← Nat.pow_add, ← Nat.pow_add,
      ← hexponents, Nat.add_assoc]

theorem rankOfRatio_of_small {num den : Nat} (h : 2 * num < den) : rankOfRatio num den = 0 := by
  have hquotient : num / den = 0 := Nat.div_eq_of_lt (by omega)
  have hround : roundDiv num den = 0 := by
    have hrest : num % den = num := Nat.mod_eq_of_lt (by omega)
    rw [roundDiv, hquotient, hrest]
    exact if_neg (by omega)
  rw [rankOfRatio, hquotient]
  show 0 * blockSize + roundDiv num (den * 2 ^ 0) = 0
  rw [Nat.zero_mul, Nat.pow_zero, Nat.mul_one, Nat.zero_add, hround]

theorem le_roundDiv (num den : Nat) : num / den ≤ roundDiv num den := by
  rw [roundDiv]
  split <;> omega

theorem rankCount_le_rankOfRatio {num den : Nat} (h : 2 ^ 2098 ≤ num / den) :
    rankCount ≤ rankOfRatio num den := by
  have hne : num / den ≠ 0 := Nat.ne_of_gt (Nat.lt_of_lt_of_le (Nat.two_pow_pos 2098) h)
  have hlog : 2098 ≤ (num / den).log2 := (Nat.le_log2 hne).2 h
  -- what is left of the quotient behind the scale has 53 digits
  have hblock : blockSize ≤ num / (den * 2 ^ ((num / den).log2 - 52)) := by
    rw [← Nat.div_div_eq_div_mul, Nat.le_div_iff_mul_le (Nat.two_pow_pos _)]
    show 2 ^ 52 * 2 ^ ((num / den).log2 - 52) ≤ num / den
    rw [← Nat.pow_add, show 52 + ((num / den).log2 - 52) = (num / den).log2 by omega]
    exact Nat.log2_self_le hne
  have hround := le_roundDiv num (den * 2 ^ ((num / den).log2 - 52))
  have hscale : 2046 * blockSize ≤ ((num / den).log2 - 52) * blockSize :=
    Nat.mul_le_mul_right _ (by omega)
  show 2047 * blockSize ≤ ((num / den).log2 - 52) * blockSize +
    roundDiv num (den * 2 ^ ((num / den).log2 - 52))
  omega

theorem ofPower_zero (negative : Bool) (exponent : Int) :
    ofPower negative 0 exponent = signedZero negative := by
  have hpos : 0 < 10 ^ (-exponent).toNat := Nat.pow_pos (by omega)
  rw [ofPower, ofRatio, ofUnits, Nat.zero_mul, Nat.zero_mul, rankOfRatio_of_small (by omega)]
  rfl

theorem ofPower_of_large (negative : Bool) {digits : Nat} {exponent : Int} (hdigits : digits ≠ 0)
    (h : 400 < exponent) : ofPower negative digits exponent = infinite negative := by
  have hnone : (-exponent).toNat = 0 := by omega
  have hdigit : 1 ≤ digits := Nat.one_le_iff_ne_zero.2 hdigits
  have hunits : 2 ^ 2098 ≤ digits * 10 ^ exponent.toNat * unitsInOne :=
    calc 2 ^ 2098 ≤ 2 ^ (3 * exponent.toNat + 1074) := Nat.pow_le_pow_right (by omega) (by omega)
      _ = 1 * 2 ^ (3 * exponent.toNat) * unitsInOne := by
        rw [Nat.pow_add, unitsInOne_eq, Nat.one_mul]
      _ ≤ digits * 10 ^ exponent.toNat * unitsInOne :=
        Nat.mul_le_mul_right _ (Nat.mul_le_mul hdigit (two_pow_le_ten_pow _))
  have hrank : rankCount ≤ rankOfRatio (digits * 10 ^ exponent.toNat * unitsInOne) 1 :=
    rankCount_le_rankOfRatio (by rwa [Nat.div_one])
  rw [ofPower, hnone, Nat.pow_zero, ofRatio, ofUnits, ofRank, dif_neg (by omega)]

theorem ofPower_of_small (negative : Bool) {digits : Nat} {exponent : Int}
    (h : exponent + (digits.log2 / 3 + 1 : Nat) < -400) :
    ofPower negative digits exponent = signedZero negative := by
  have hnone : exponent.toNat = 0 := by omega
  have hdigits : digits < 10 ^ (digits.log2 / 3 + 1) :=
    calc digits < 2 ^ (digits.log2 + 1) := Nat.lt_log2_self
      _ ≤ 2 ^ (3 * (digits.log2 / 3 + 1)) := Nat.pow_le_pow_right (by omega) (by omega)
      _ ≤ 10 ^ (digits.log2 / 3 + 1) := two_pow_le_ten_pow _
  have hone : 2 * unitsInOne ≤ 10 ^ ((-exponent).toNat - (digits.log2 / 3 + 1)) :=
    calc 2 * unitsInOne = 2 ^ (1 + 1074) := by rw [Nat.pow_add, unitsInOne_eq, Nat.pow_one]
      _ ≤ 2 ^ (3 * ((-exponent).toNat - (digits.log2 / 3 + 1))) :=
        Nat.pow_le_pow_right (by omega) (by omega)
      _ ≤ 10 ^ ((-exponent).toNat - (digits.log2 / 3 + 1)) := two_pow_le_ten_pow _
  have hsmall : 2 * (digits * unitsInOne) < 10 ^ (-exponent).toNat :=
    calc 2 * (digits * unitsInOne) = digits * (2 * unitsInOne) := Nat.mul_left_comm _ _ _
      _ ≤ digits * 10 ^ ((-exponent).toNat - (digits.log2 / 3 + 1)) := Nat.mul_le_mul_left _ hone
      _ < 10 ^ (digits.log2 / 3 + 1) * 10 ^ ((-exponent).toNat - (digits.log2 / 3 + 1)) :=
        Nat.mul_lt_mul_of_pos_right hdigits (Nat.pow_pos (by omega))
      _ = 10 ^ (-exponent).toNat := by
        rw [← Nat.pow_add]
        congr 1
        omega
  rw [ofPower, hnone, Nat.pow_zero, Nat.mul_one, ofRatio, ofUnits, rankOfRatio_of_small hsmall]
  rfl

/-- Exponents that are answered without computing a power are answered as the power would be. -/
theorem ofDecimal_eq (negative : Bool) (digits : Nat) (exponent : Int) :
    ofDecimal negative digits exponent = ofPower negative digits exponent := by
  rw [ofDecimal]
  split
  · rename_i hzero
    rw [hzero, ofPower_zero]
  split
  · rename_i hne hlarge
    rw [ofPower_of_large negative hne hlarge]
  split
  · rename_i hsmall
    rw [ofPower_of_small negative hsmall]
  split
  · rename_i hpositive
    have hnone : (-exponent).toNat = 0 := by omega
    rw [ofPower, hnone]
    rfl
  · rename_i hnegative
    have hnone : exponent.toNat = 0 := by omega
    rw [ofPower, hnone, Nat.pow_zero, Nat.mul_one]
    rfl

/-- A power of ten can be moved from the exponent to the digits. -/
theorem ofDecimal_shift (negative : Bool) (digits k : Nat) (exponent : Int) :
    ofDecimal negative (digits * 10 ^ k) (exponent - k) =
      ofDecimal negative digits exponent := by
  rw [ofDecimal_eq, ofDecimal_eq, ofPower_shift]

theorem ofDecimal_sign {digits : Nat} {exponent : Int} {rank : Fin rankCount}
    (h : ofDecimal false digits exponent = finite false rank) (negative : Bool) :
    ofDecimal negative digits exponent = finite negative rank := by
  rw [ofDecimal_eq, ofPower, ofRatio, ofUnits, ofRank] at h ⊢
  split at h
  · rename_i hlt
    obtain ⟨_, hrank⟩ := finite.inj h
    rw [dif_pos hlt, hrank]
  · exact absurd h (by simp)

/-! ## The shortest decimal -/

theorem roundDiv_one (n : Nat) : roundDiv n 1 = n := by simp [roundDiv, Nat.mod_one]

section
variable {rank : Nat}

theorem rankOfRatio_of_lt_blockSize (h : rank < blockSize) : rankOfRatio rank 1 = rank := by
  have hlog : rank.log2 - 52 = 0 := by
    by_cases hzero : rank = 0
    · rw [hzero]
      rfl
    · have hlt : rank.log2 < 52 := (Nat.log2_lt hzero).2 h
      omega
  rw [rankOfRatio, Nat.div_one, hlog, Nat.zero_mul, Nat.zero_add]
  exact roundDiv_one rank

/-- Beyond the first block a magnitude has 53 digits to base two, and then zeros. -/
theorem units_of_le (h : blockSize ≤ rank) :
    units rank = (blockSize + rank % blockSize) * 2 ^ (rank / blockSize - 1) := by
  rw [units, if_neg (Nat.not_lt.2 h)]
  rfl

theorem log2_units (h : blockSize ≤ rank) : (units rank).log2 - 52 = rank / blockSize - 1 := by
  have hblock : blockSize = 2 ^ 52 := rfl
  have hrest : rank % blockSize < blockSize := Nat.mod_lt _ (Nat.two_pow_pos 52)
  have hunits := units_of_le h
  have hne : units rank ≠ 0 := by
    rw [hunits]
    exact Nat.mul_ne_zero (by omega) (Nat.ne_of_gt (Nat.two_pow_pos _))
  have hlog : (units rank).log2 = 52 + (rank / blockSize - 1) := by
    refine (Nat.log2_eq_iff hne).2 ⟨?_, ?_⟩
    · rw [hunits, Nat.pow_add]
      exact Nat.mul_le_mul_right _ (by omega)
    · rw [hunits, Nat.add_right_comm, Nat.pow_add]
      exact Nat.mul_lt_mul_of_pos_right (by omega) (Nat.two_pow_pos _)
  omega

/-- A magnitude on the grid is rounded to its own rank. -/
theorem rankOfRatio_units (rank : Nat) : rankOfRatio (units rank) 1 = rank := by
  by_cases hsmall : rank < blockSize
  · rw [units, if_pos hsmall]
    exact rankOfRatio_of_lt_blockSize hsmall
  · have hlarge : blockSize ≤ rank := Nat.le_of_not_lt hsmall
    have hround : roundDiv (units rank) (1 * 2 ^ (rank / blockSize - 1)) =
        blockSize + rank % blockSize := by
      rw [units_of_le hlarge, roundDiv_mul _ 1 (Nat.two_pow_pos _), roundDiv_one]
    show ((units rank / 1).log2 - 52) * blockSize +
      roundDiv (units rank) (1 * 2 ^ ((units rank / 1).log2 - 52)) = rank
    rw [Nat.div_one, log2_units hlarge, hround]
    have hblock : blockSize = 2 ^ 52 := rfl
    have hturns : 1 ≤ rank / blockSize :=
      (Nat.le_div_iff_mul_le (Nat.two_pow_pos 52)).2 (by omega)
    have hturn : (rank / blockSize - 1) * blockSize + blockSize = blockSize * (rank / blockSize) := by
      rw [← Nat.succ_mul, show (rank / blockSize - 1).succ = rank / blockSize by omega,
        Nat.mul_comm]
    have hsplit := Nat.div_add_mod rank blockSize
    omega

end

theorem units_lt (rank : Fin rankCount) : units rank < 2 ^ (53 + 2045) := by
  have hblock : blockSize = 2 ^ 52 := rfl
  have hrest : rank.val % blockSize < blockSize := Nat.mod_lt _ (Nat.two_pow_pos 52)
  have hturns : rank.val / blockSize < 2047 :=
    (Nat.div_lt_iff_lt_mul (Nat.two_pow_pos 52)).2 rank.isLt
  rw [units]
  split
  · rename_i hsmall
    exact Nat.lt_of_lt_of_le hsmall (Nat.pow_le_pow_right (by omega) (by omega))
  · rw [Nat.pow_add]
    exact Nat.mul_lt_mul_of_lt_of_le (by omega) (Nat.pow_le_pow_right (by omega) (by omega))
      (Nat.two_pow_pos _)

/-- The exact value of a number, as a decimal, reads back. -/
theorem ofPower_exact (rank : Fin rankCount) {k : Nat} (hk : unitsInOne = 2 ^ k) :
    ofPower false (units rank * 5 ^ k) (-k) = finite false rank := by
  have hwhole : (-(k : Int)).toNat = 0 := by omega
  have hpart : (- -(k : Int)).toNat = k := by omega
  have hvalue : units rank * 5 ^ k * 10 ^ 0 * unitsInOne = units rank * 10 ^ k := by
    rw [Nat.pow_zero, Nat.mul_one, hk, Nat.mul_assoc, ← Nat.mul_pow]
  have hscaled := rankOfRatio_mul (units rank) 1 (Nat.pow_pos (n := k) (show 0 < 10 by omega))
  rw [Nat.one_mul] at hscaled
  rw [ofPower, hwhole, hpart, ofRatio, ofUnits, hvalue, hscaled, rankOfRatio_units, ofRank,
    dif_pos rank.isLt]

theorem ofDecimal_of_nearestDecimal? {rank : Fin rankCount} {exponent : Int} {d : Decimal}
    (h : nearestDecimal? rank exponent = some d) :
    ofDecimal false d.digits d.exponent = finite false rank := by
  obtain ⟨digits, hfound, rfl⟩ := Option.map_eq_some_iff.1 h
  simpa using List.find?_some hfound

theorem ofDecimal_shortest (rank : Fin rankCount) :
    ofDecimal false (shortest rank).digits (shortest rank).exponent = finite false rank := by
  rw [shortest]
  generalize hsearch : (List.range 17).findSome? _ = found
  cases found with
  | none =>
    rw [ofDecimal_eq]
    exact ofPower_exact (k := 1074) rank unitsInOne_eq
  | some d =>
    obtain ⟨count, _, hcount⟩ := List.exists_of_findSome?_eq_some hsearch
    exact ofDecimal_of_nearestDecimal? hcount

end Double
end SvgIcon
