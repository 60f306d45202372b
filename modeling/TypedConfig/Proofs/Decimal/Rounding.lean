import Mathlib.Algebra.Order.Field.Power
import Mathlib.Algebra.Order.Field.Rat
import Mathlib.Data.Rat.Cast.Order
import Mathlib.Tactic.FieldSimp
import Mathlib.Tactic.Linarith
import Mathlib.Tactic.Positivity
import Mathlib.Tactic.Ring
import TypedConfig.Decimal.Binary

/-!
Rounding is exact where it has nothing to round. The exponent that is chosen for a quotient is the one with
which its significand has full width, or the least one (`exponentOf_eq`), so a quotient that is the value of a
finite pattern is rounded to this pattern (`nearest_eq_of_value`).
-/

namespace TypedConfig.Decimal.Format

variable {f : Format} {num den m n d pattern : Nat} {k : Int}

/-! ### Quotients and powers of two -/

theorem two_zpow_pos (k : Int) : (0 : ℚ) < 2 ^ k := by positivity

theorem two_zpow_lt {j k : Int} : (2 : ℚ) ^ j < 2 ^ k ↔ j < k :=
  zpow_lt_zpow_iff_right₀ (by norm_num)

theorem two_zpow_le {j k : Int} : (2 : ℚ) ^ j ≤ 2 ^ k ↔ j ≤ k :=
  zpow_le_zpow_iff_right₀ (by norm_num)

theorem scale_snd_pos (hden : 0 < den) (num : Nat) (k : Int) : 0 < (scale num den k).2 := by
  unfold scale
  split
  · exact Nat.mul_pos hden (Nat.pow_pos (by decide))
  · exact hden

theorem scale_value (hden : 0 < den) (num : Nat) (k : Int) :
    ((scale num den k).1 : ℚ) / (scale num den k).2 = num / den / 2 ^ k := by
  unfold scale
  have hne : (den : ℚ) ≠ 0 := by positivity
  split
  · rename_i hk
    obtain ⟨j, rfl⟩ := Int.eq_ofNat_of_zero_le hk
    simp [div_div]
  · rename_i hk
    obtain ⟨j, rfl⟩ : ∃ j : Nat, k = -j := ⟨(-k).toNat, by omega⟩
    simp
    field_simp

/-- The bit lengths of a quotient's parts fix its size up to a factor of two. -/
theorem quotient_bounds (hnum : 0 < num) (hden : 0 < den) :
    (2 : ℚ) ^ ((num.log2 : Int) - den.log2 - 1) < num / den ∧
      (num : ℚ) / den < 2 ^ ((num.log2 : Int) - den.log2 + 1) := by
  have hnum0 : (2 : ℚ) ^ (num.log2 : Int) ≤ num := by
    exact_mod_cast Nat.log2_self_le (by omega)
  have hnum1 : (num : ℚ) < 2 ^ ((num.log2 : Int) + 1) := by
    exact_mod_cast Nat.lt_log2_self
  have hden0 : (2 : ℚ) ^ (den.log2 : Int) ≤ den := by
    exact_mod_cast Nat.log2_self_le (by omega)
  have hden1 : (den : ℚ) < 2 ^ ((den.log2 : Int) + 1) := by
    exact_mod_cast Nat.lt_log2_self
  have hpos : (0 : ℚ) < den := by positivity
  constructor
  · rw [lt_div_iff₀ hpos]
    calc (2 : ℚ) ^ ((num.log2 : Int) - den.log2 - 1) * den
        < 2 ^ ((num.log2 : Int) - den.log2 - 1) * 2 ^ ((den.log2 : Int) + 1) := by gcongr
      _ = 2 ^ (num.log2 : Int) := by
        rw [← zpow_add₀ (by norm_num)]
        congr 1
        omega
      _ ≤ num := hnum0
  · rw [div_lt_iff₀ hpos]
    calc (num : ℚ) < 2 ^ ((num.log2 : Int) + 1) := hnum1
      _ = 2 ^ ((num.log2 : Int) - den.log2 + 1) * 2 ^ (den.log2 : Int) := by
        rw [← zpow_add₀ (by norm_num)]
        congr 1
        omega
      _ ≤ 2 ^ ((num.log2 : Int) - den.log2 + 1) * den := by gcongr

/-! ### The exponent of a quotient -/

theorem radix_cast (f : Format) : (f.radix : ℚ) = 2 ^ (f.fractionBits : Int) := by
  simp [radix]

theorem radix_pos (f : Format) : 0 < f.radix := Nat.pow_pos (by decide)

/-- The exponent that is chosen, before it is kept from falling below the least one, is the one with which the
significand has full width. -/
theorem exists_exponentOf (f : Format) (hnum : 0 < num) (hden : 0 < den) :
    ∃ k, f.exponentOf num den = max k f.minExponent ∧
      (2 : ℚ) ^ (k + f.fractionBits) ≤ num / den ∧ (num : ℚ) / den < 2 ^ (k + f.fractionBits + 1) := by
  obtain ⟨hlow, hhigh⟩ := quotient_bounds hnum hden
  let guess : Int := (num.log2 : Int) - den.log2 - f.fractionBits
  have hguess : guess + f.fractionBits = (num.log2 : Int) - den.log2 := by
    simp only [guess]
    omega
  -- The comparison of the scaled quotient tells on which side of the power the quotient lies.
  have hcompare : (scale num den guess).1 < (scale num den guess).2 * f.radix ↔
      (num : ℚ) / den < 2 ^ (guess + f.fractionBits) := by
    have hpos : (0 : ℚ) < (scale num den guess).2 := by
      exact_mod_cast scale_snd_pos hden num guess
    rw [zpow_add₀ (by norm_num), ← radix_cast, ← div_lt_iff₀' (two_zpow_pos guess), ← scale_value hden,
      div_lt_iff₀' hpos]
    exact_mod_cast Iff.rfl
  by_cases hless : (num : ℚ) / den < 2 ^ (guess + f.fractionBits)
  · refine ⟨guess - 1, ?_, ?_, ?_⟩
    · simp only [exponentOf]
      exact congrArg (max · f.minExponent) (if_pos (hcompare.mpr hless))
    · rw [show guess - 1 + f.fractionBits = (num.log2 : Int) - den.log2 - 1 by omega]
      exact hlow.le
    · rwa [show guess - 1 + f.fractionBits + 1 = guess + f.fractionBits by omega]
  · refine ⟨guess, ?_, not_lt.mp hless, ?_⟩
    · simp only [exponentOf]
      exact congrArg (max · f.minExponent) (if_neg (fun h => hless (hcompare.mp h)))
    · rwa [hguess]

/-- A quotient that is a magnitude of the format has the exponent of this magnitude. -/
theorem exponentOf_eq (hden : 0 < den) (hm : 0 < m) (hlt : m < 2 * f.radix) (hk : f.minExponent ≤ k)
    (hfull : f.radix ≤ m ∨ k = f.minExponent) (hvalue : (num : ℚ) / den = m * 2 ^ k) :
    f.exponentOf num den = k := by
  have hmq : (0 : ℚ) < m := by exact_mod_cast hm
  have hnum : 0 < num := by
    rcases Nat.eq_zero_or_pos num with rfl | h
    · simp only [Nat.cast_zero, zero_div] at hvalue
      exact absurd hvalue.symm (mul_pos hmq (two_zpow_pos k)).ne'
    · exact h
  obtain ⟨k₁, hchosen, hlow, hhigh⟩ := exists_exponentOf f hnum hden
  have hupper : (num : ℚ) / den < 2 ^ (k + f.fractionBits + 1) := by
    have hltq : (m : ℚ) < 2 * f.radix := by exact_mod_cast hlt
    calc (num : ℚ) / den = m * 2 ^ k := hvalue
      _ < 2 * f.radix * 2 ^ k := mul_lt_mul_of_pos_right hltq (two_zpow_pos k)
      _ = 2 ^ (k + f.fractionBits + 1) := by
        rw [radix_cast, zpow_add_one₀ (by norm_num), zpow_add₀ (by norm_num)]
        ring
  have hle : k₁ ≤ k := by
    have := two_zpow_lt.mp (hlow.trans_lt hupper)
    omega
  rcases hfull with hfull | rfl
  · have hlower : (2 : ℚ) ^ (k + f.fractionBits) ≤ num / den := by
      have hfullq : (f.radix : ℚ) ≤ m := by exact_mod_cast hfull
      rw [hvalue, zpow_add₀ (by norm_num), ← radix_cast, mul_comm]
      exact mul_le_mul_of_nonneg_right hfullq (two_zpow_pos k).le
    have := two_zpow_lt.mp (hlower.trans_lt hhigh)
    omega
  · omega

/-! ### Exact quotients -/

theorem minExponent_le_decompose (f : Format) (pattern : Nat) : f.minExponent ≤ (f.decompose pattern).2 := by
  unfold decompose
  dsimp only
  split
  · exact le_rfl
  · dsimp only
    omega

theorem eq_zero_of_decompose (f : Format) (h : (f.decompose pattern).1 = 0) : pattern = 0 := by
  have hradix := f.radix_pos
  have hsplit := Nat.div_add_mod' pattern f.radix
  unfold decompose at h
  dsimp only at h
  split at h
  · rename_i hcode
    dsimp only at h
    rw [hcode, h] at hsplit
    omega
  · dsimp only at h
    omega

theorem roundDiv_mul (m : Nat) (hd : 0 < d) : roundDiv (m * d) d = m := by
  simp [roundDiv, Nat.mul_div_cancel m hd, hd]

/-- A quotient that is a magnitude of the format is rounded to this magnitude. -/
theorem nearest_eq (hden : 0 < den) (hm : 0 < m) (hlt : m < 2 * f.radix) (hk : f.minExponent ≤ k)
    (hfull : f.radix ≤ m ∨ k = f.minExponent) (hvalue : (num : ℚ) / den = m * 2 ^ k) :
    f.nearest num den = min ((k - f.minExponent).toNat * f.radix + m) f.infinity := by
  have hexponent := exponentOf_eq hden hm hlt hk hfull hvalue
  have hpos := scale_snd_pos hden num k
  have hscaled : (scale num den k).1 = m * (scale num den k).2 := by
    have hposq : ((scale num den k).2 : ℚ) ≠ 0 := by positivity
    have hquotient := scale_value hden num k
    rw [hvalue, mul_div_assoc, div_self (two_zpow_pos k).ne', mul_one, div_eq_iff hposq] at hquotient
    exact_mod_cast hquotient
  have hnum : num ≠ 0 := by
    rintro rfl
    have hmq : (0 : ℚ) < m := by exact_mod_cast hm
    simp only [Nat.cast_zero, zero_div] at hvalue
    exact absurd hvalue.symm (mul_pos hmq (two_zpow_pos k)).ne'
  rw [nearest, if_neg hnum, hexponent]
  simp only [hscaled, roundDiv_mul m hpos]

/-- The value of a finite pattern is rounded to this pattern. -/
theorem nearest_eq_of_value (hden : 0 < den) (hfinite : pattern < f.infinity)
    (hvalue : (num : ℚ) / den = (f.decompose pattern).1 * 2 ^ (f.decompose pattern).2) :
    f.nearest num den = pattern := by
  have hradix := f.radix_pos
  have hsplit := Nat.div_add_mod' pattern f.radix
  have hfraction := Nat.mod_lt pattern hradix
  unfold decompose at hvalue
  dsimp only at hvalue
  split at hvalue
  · rename_i hcode
    rw [hcode, Nat.zero_mul, Nat.zero_add] at hsplit
    rw [hsplit] at hvalue hfraction
    rcases Nat.eq_zero_or_pos pattern with rfl | hpos
    · have hne : (den : ℚ) ≠ 0 := by positivity
      simp only [Nat.cast_zero, zero_mul, div_eq_zero_iff, hne, or_false, Nat.cast_eq_zero] at hvalue
      simp [nearest, hvalue]
    · rw [nearest_eq hden hpos (by omega) le_rfl (.inr rfl) hvalue]
      simp only [sub_self, Int.toNat_zero, Nat.zero_mul, Nat.zero_add]
      omega
  · rename_i hcode
    obtain ⟨code, hnext⟩ := Nat.exists_eq_succ_of_ne_zero hcode
    rw [hnext, Nat.succ_sub_one] at hvalue
    rw [hnext, Nat.succ_mul] at hsplit
    have hdrop : (f.minExponent + (code : Int) - f.minExponent).toNat = code := by omega
    rw [nearest_eq hden (by omega) (by omega) (by omega) (.inl (by omega)) hvalue, hdrop]
    omega

end TypedConfig.Decimal.Format
