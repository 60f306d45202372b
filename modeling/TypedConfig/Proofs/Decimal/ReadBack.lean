import Mathlib.Data.Nat.Log
import TypedConfig.Decimal.Layout
import TypedConfig.Proofs.Decimal.Numerals
import TypedConfig.Proofs.Decimal.Rounding

/-!
What is printed is read back. The decimal that is chosen for a finite pattern is nearest to this pattern
(`nearestDecimal_shortest`): either it was tried, or it has all the digits of the value, and then there is
nothing to round. In the plain layout it is a numeral that stands for the same decimal, as far as it is in
the range of the format, so all bits are read back, with the sign of zero and the infinities
(`exists_numeral_plainText`).
-/

namespace TypedConfig.Decimal

variable {f : Format} {tie : Tie} {pattern num den m c bits : Nat} {e k : Int} {d : Nat × Int}

/-! ### The decimal that is chosen -/

theorem nearestDecimal_of_neighbour? (h : neighbour? f tie pattern num den e = some d) :
    f.nearestDecimal d.1 d.2 = pattern := by
  unfold neighbour? at h
  generalize (if 0 ≤ e then _ else _ : Nat × Nat) = scaled at h
  dsimp only at h
  split at h
  · rename_i hboth
    obtain ⟨hbelow, habove⟩ := Bool.and_eq_true_iff.1 hboth
    replace hbelow := of_decide_eq_true hbelow
    replace habove := of_decide_eq_true habove
    cases h
    -- the nearer one is one of the two, whichever way the tie goes
    split
    · exact hbelow
    · split
      · exact habove
      · split
        · exact habove
        · split
          · exact hbelow
          · exact habove
  · split at h
    · rename_i hbelow
      cases h
      exact of_decide_eq_true hbelow
    · split at h
      · rename_i habove
        cases h
        exact of_decide_eq_true habove
      · cases h

theorem le_log2_mul_pow_five (hm : m ≠ 0) (n : Nat) : 2 * n ≤ (m * Nat.pow 5 n).log2 := by
  have hpos : 0 < Nat.pow 5 n := Nat.pow_pos (by decide)
  rw [Nat.le_log2 (Nat.mul_ne_zero hm hpos.ne')]
  calc 2 ^ (2 * n) = 4 ^ n := Nat.pow_mul 2 2 n
    _ ≤ 5 ^ n := Nat.pow_le_pow_left (by decide) n
    _ ≤ m * Nat.pow 5 n := Nat.le_mul_of_pos_left _ (Nat.pos_of_ne_zero hm)

/-- All the digits of a magnitude read back. -/
theorem nearestDecimal_exactDecimal (hmin : -1200 ≤ f.minExponent) (hfinite : pattern < f.infinity)
    (hm : (f.decompose pattern).1 ≠ 0) :
    f.nearestDecimal (exactDecimal (f.decompose pattern).1 (f.decompose pattern).2).1
      (exactDecimal (f.decompose pattern).1 (f.decompose pattern).2).2 = pattern := by
  have hleast : f.minExponent ≤ (f.decompose pattern).2 := f.minExponent_le_decompose pattern
  have hnearest := @Format.nearest_eq_of_value f
  generalize hsplit : f.decompose pattern = split at hm hleast ⊢
  obtain ⟨m, k⟩ := split
  dsimp only at hm hleast ⊢
  unfold exactDecimal
  split
  · rename_i hk
    obtain ⟨n, rfl⟩ := Int.eq_ofNat_of_zero_le hk
    have hpos : 0 < Nat.pow 2 n := Nat.pow_pos (by decide)
    have hnum : m * Nat.pow 2 n ≠ 0 := Nat.mul_ne_zero hm hpos.ne'
    simp only [Format.nearestDecimal, Int.toNat_natCast, if_neg hnum, le_refl, if_true, Int.toNat_zero]
    refine (if_neg (by decide)).trans (hnearest Nat.one_pos hfinite ?_)
    rw [hsplit]
    simp
  · rename_i hk
    obtain ⟨n, rfl⟩ : ∃ n : Nat, k = -n := ⟨(-k).toNat, by omega⟩
    have hpos : 0 < Nat.pow 5 n := Nat.pow_pos (by decide)
    have hnum : m * Nat.pow 5 n ≠ 0 := Nat.mul_ne_zero hm hpos.ne'
    have hlog := le_log2_mul_pow_five hm n
    have hback : (- -(n : Int)).toNat = n := by omega
    have hnear : ¬ (m * Nat.pow 5 n).log2 + 1200 < 3 * n := by omega
    simp only [Format.nearestDecimal, hback, if_neg hnum, if_neg hk, if_neg hnear]
    refine hnearest (Nat.pow_pos (by decide)) hfinite ?_
    rw [hsplit]
    have hten : (10 : ℚ) ^ n = 5 ^ n * 2 ^ n := by rw [← mul_pow]; norm_num
    simp only [Nat.pow_eq, Nat.cast_mul, Nat.cast_pow, Nat.cast_ofNat, zpow_neg, zpow_natCast, hten]
    field_simp

/-- **The decimal that is chosen for a finite pattern reads back**, whichever way ties go. -/
theorem nearestDecimal_shortest (hmin : -1200 ≤ f.minExponent) (hfinite : pattern < f.infinity) :
    f.nearestDecimal (shortest f tie pattern).1 (shortest f tie pattern).2 = pattern := by
  unfold shortest
  dsimp only
  split
  · rename_i hzero
    rw [f.eq_zero_of_decompose hzero]
    rfl
  · rename_i hm
    generalize hfound : List.findSome? _ (List.range 17) = found
    cases found with
    | none => exact nearestDecimal_exactDecimal hmin hfinite hm
    | some d =>
      obtain ⟨i, -, hi⟩ := List.exists_of_findSome?_eq_some hfound
      exact nearestDecimal_of_neighbour? hi

/-! ### The plain layout -/

theorem digitsValue_append_zeros (cs : List Char) (n : Nat) :
    digitsValue (cs ++ List.replicate n '0') = digitsValue cs * 10 ^ n := by
  rw [digitsValue, Nat.ofDigitChars_append, Nat.ofDigitChars_replicate_zero, Nat.mul_comm]
  rfl

theorem digitsValue_zeros_append (n : Nat) (cs : List Char) :
    digitsValue (List.replicate n '0' ++ cs) = digitsValue cs := by
  rw [digitsValue, Nat.ofDigitChars_append, Nat.ofDigitChars_replicate_zero, Nat.mul_zero]
  rfl

theorem digits_zeros (n : Nat) : Digits (List.replicate n '0') := by
  intro c hc
  rw [List.eq_of_mem_replicate hc]
  rfl

/-- A decimal in the range of the format reads the same with its zeros written out. -/
theorem nearestDecimal_mul_pow (hfinite : f.nearestDecimal c e < f.infinity) (he : 0 ≤ e) :
    f.nearestDecimal (c * 10 ^ e.toNat) 0 = f.nearestDecimal c e := by
  have hpow : 10 ^ e.toNat ≠ 0 := (Nat.pow_pos (by decide)).ne'
  unfold Format.nearestDecimal at hfinite ⊢
  by_cases hc : c = 0
  · simp [hc]
  · simp only [hc, if_false, he, if_true] at hfinite ⊢
    -- beyond this exponent the decimal would be read as infinity
    have hrange : ¬ 400 < e := by
      intro h
      rw [if_pos h] at hfinite
      exact lt_irrefl _ hfinite
    simp [hc, hrange]

/-- **In the plain layout a decimal is a numeral** that is read as the decimal, if this is in the range of the
format. -/
theorem exists_magnitude_positional (hfinite : f.nearestDecimal c e < f.infinity) :
    ∃ c' e', MagnitudeForm (.finite c' e') (positional c e) ∧
      f.nearestDecimal c' e' = f.nearestDecimal c e := by
  have hds := digits_ofNat c
  have hne := ofNat_ne_nil c
  unfold positional
  dsimp only
  split
  · rename_i he
    split
    · rename_i hc
      have hform := MagnitudeForm.whole hne hds .absent
      rw [digitsValue_ofNat, List.append_nil] at hform
      exact ⟨_, _, hform, by simp [Format.nearestDecimal, hc]⟩
    · have hne' : ofNat c ++ List.replicate e.toNat '0' ≠ [] := List.append_ne_nil_of_left_ne_nil hne _
      have hform := MagnitudeForm.whole hne' (digits_append.2 ⟨hds, digits_zeros _⟩) .absent
      rw [digitsValue_append_zeros, digitsValue_ofNat, List.append_nil] at hform
      exact ⟨_, _, hform, nearestDecimal_mul_pow hfinite he⟩
  · rename_i he
    obtain ⟨n, rfl⟩ : ∃ n : Nat, e = -n := ⟨(-e).toNat, by omega⟩
    have hn : (- -(n : Int)).toNat = n := by omega
    rw [hn]
    split
    · rename_i hinside
      generalize hcut : (ofNat c).length - n = cut
      have hparts : ofNat c = (ofNat c).take cut ++ (ofNat c).drop cut :=
        (List.take_append_drop cut _).symm
      have hlength : ((ofNat c).drop cut).length = n := by
        rw [List.length_drop]
        omega
      rw [hparts, digits_append] at hds
      have hform := MagnitudeForm.pointed (.inr ?_) hds.1 hds.2 .absent
      · rw [← hparts, digitsValue_ofNat, hlength, List.append_nil, Int.zero_sub] at hform
        exact ⟨_, _, hform, rfl⟩
      · intro hnil
        rw [hnil] at hlength
        simp only [List.length_nil] at hlength
        omega
    · rename_i hbefore
      have hzero : Digits ['0'] := digits_zeros 1
      have hfraction : Digits (List.replicate (n - (ofNat c).length) '0' ++ ofNat c) :=
        digits_append.2 ⟨digits_zeros _, hds⟩
      have hform := MagnitudeForm.pointed (.inl (List.cons_ne_nil _ _)) hzero hfraction .absent
      have hvalue : digitsValue (['0'] ++ (List.replicate (n - (ofNat c).length) '0' ++ ofNat c)) = c := by
        rw [← List.append_assoc, ← List.replicate_one, List.replicate_append_replicate,
          digitsValue_zeros_append, digitsValue_ofNat]
      have hlength : (List.replicate (n - (ofNat c).length) '0' ++ ofNat c).length = n := by
        rw [List.length_append, List.length_replicate]
        omega
      rw [hvalue, hlength, List.append_nil, Int.zero_sub] at hform
      exact ⟨_, _, hform, rfl⟩

/-! ### Patterns of bits -/

/-- Not-a-number: every pattern of a magnitude above infinity. -/
def Format.IsNaN (f : Format) (bits : Nat) : Prop := f.infinity < (splitSign f bits).2

instance (f : Format) (bits : Nat) : Decidable (f.IsNaN bits) :=
  inferInstanceAs (Decidable (f.infinity < (splitSign f bits).2))

/-- The magnitude of a pattern is printed as a numeral that reads back. -/
theorem exists_magnitude_body (hmin : -1200 ≤ f.minExponent) (h : pattern ≤ f.infinity) :
    ∃ m, MagnitudeForm m (if pattern = f.infinity then ['i', 'n', 'f']
        else positional (shortest f .up pattern).1 (shortest f .up pattern).2) ∧
      ∀ negative, (⟨negative, m⟩ : Numeral).toBits f =
        if negative then f.signBit + pattern else pattern := by
  split
  · rename_i hinf
    refine ⟨.infinite, .infinite (by decide), fun negative => ?_⟩
    rw [hinf]
    rfl
  · rename_i hne
    have hfinite : pattern < f.infinity := by omega
    have hback : f.nearestDecimal (shortest f .up pattern).1 (shortest f .up pattern).2 = pattern :=
      nearestDecimal_shortest hmin hfinite
    have hrange := hback.trans_lt hfinite
    obtain ⟨c', e', hform, hsame⟩ := exists_magnitude_positional hrange
    refine ⟨_, hform, fun negative => ?_⟩
    simp only [Numeral.toBits, hsame, hback]

/-- **What is printed of a pattern, not-a-number apart, is a numeral with these bits.** -/
theorem exists_numeral_plainText (hmin : -1200 ≤ f.minExponent) (h : ¬ f.IsNaN bits) :
    ∃ n, NumeralForm n (plainText f bits) ∧ n.toBits f = bits := by
  unfold Format.IsNaN at h
  obtain ⟨m, hform, hbits⟩ := exists_magnitude_body hmin (Nat.not_lt.1 h)
  unfold plainText
  dsimp only
  rw [if_neg h]
  unfold splitSign at hform hbits ⊢
  split
  · rename_i hsign
    rw [if_pos hsign] at hform hbits
    refine ⟨⟨true, m⟩, .minus hform, (hbits true).trans ?_⟩
    simp only [if_true]
    omega
  · rename_i hsign
    rw [if_neg hsign] at hform hbits
    exact ⟨⟨false, m⟩, .bare hform, hbits false⟩

end TypedConfig.Decimal
