import TypedConfig.Decimal.Numeral

/-!
Integers as they may be written (`IntegerForm`): an optional sign and at least one digit, with any number of
zeros in front. A reader that checks the range digit by digit accepts exactly the forms of the numbers in its
range (`readInteger_eq_ok_iff`), since a number only moves away from zero while it is read.
-/

namespace TypedConfig.Decimal

/-- A run of ASCII digits. -/
def Digits (cs : List Char) : Prop := ∀ c ∈ cs, c.isDigit = true

instance (cs : List Char) : Decidable (Digits cs) :=
  List.decidableBAll (fun c : Char => c.isDigit = true) cs

/-- The second argument is a form of the first. -/
inductive IntegerForm : Int → List Char → Prop
  | bare {ds : List Char} (hne : ds ≠ []) (hds : Digits ds) : IntegerForm (digitsValue ds) ds
  | plus {ds : List Char} (hne : ds ≠ []) (hds : Digits ds) :
      IntegerForm (digitsValue ds) ('+' :: ds)
  | minus {ds : List Char} (hne : ds ≠ []) (hds : Digits ds) :
      IntegerForm (-digitsValue ds) ('-' :: ds)

variable {c : Char} {cs ds : List Char} {lo hi n : Int} {a : Nat} {negative : Bool}

/-! ### Digits -/

theorem digits_nil : Digits [] := fun _ h => absurd h List.not_mem_nil

theorem digits_cons : Digits (c :: cs) ↔ c.isDigit = true ∧ Digits cs := List.forall_mem_cons

theorem digits_append : Digits (cs ++ ds) ↔ Digits cs ∧ Digits ds := List.forall_mem_append

theorem ne_sign_of_isDigit (h : c.isDigit = true) : c ≠ '+' ∧ c ≠ '-' := by
  constructor
  · rintro rfl
    exact absurd h (by decide)
  · rintro rfl
    exact absurd h (by decide)

theorem Digits.exists_concat (h : Digits ds) (hne : ds ≠ []) :
    ∃ front d, ds = front ++ [d] ∧ d.isDigit = true :=
  ⟨ds.dropLast, ds.getLast hne, (List.dropLast_concat_getLast hne).symm, h _ (List.getLast_mem hne)⟩

theorem digits_ofNat (n : Nat) : Digits (ofNat n) := fun _ hc =>
  Nat.isDigit_of_mem_toDigits (by decide) (by decide) hc

theorem ofNat_ne_nil (n : Nat) : ofNat n ≠ [] := Nat.toDigits_ne_nil

@[simp] theorem digitsValue_ofNat (n : Nat) : digitsValue (ofNat n) = n :=
  Nat.ofDigitChars_ten_toDigits

theorem le_ofDigitChars (cs : List Char) (a : Nat) : a ≤ Nat.ofDigitChars 10 cs a := by
  induction cs generalizing a with
  | nil => simp
  | cons c cs ih =>
    rw [Nat.ofDigitChars_cons]
    have := ih (10 * a + (c.toNat - '0'.toNat))
    omega

theorem IntegerForm.exists_concat (h : IntegerForm n cs) :
    ∃ front d, cs = front ++ [d] ∧ d.isDigit = true := by
  cases h with
  | bare hne hds => exact hds.exists_concat hne
  | plus hne hds =>
    obtain ⟨front, d, rfl, hd⟩ := hds.exists_concat hne
    exact ⟨'+' :: front, d, rfl, hd⟩
  | minus hne hds =>
    obtain ⟨front, d, rfl, hd⟩ := hds.exists_concat hne
    exact ⟨'-' :: front, d, rfl, hd⟩

/-! ### Reading into a range -/

/-- A number with the sign of what is read. -/
def signed (negative : Bool) (a : Nat) : Int := if negative then -a else a

theorem signed_false : signed false a = a := rfl

theorem signed_true : signed true a = -a := rfl

/-- A number that is farther from zero than one outside of the range is outside, too. -/
theorem signed_out_of_range {b : Nat} (hab : a ≤ b) (hlo : lo ≤ 0) (hhi : 0 ≤ hi)
    (h : signed negative a < lo ∨ hi < signed negative a) :
    ¬ (lo ≤ signed negative b ∧ signed negative b ≤ hi) := by
  cases negative with
  | false =>
    rw [signed_false] at h ⊢
    omega
  | true =>
    rw [signed_true] at h ⊢
    omega

/-- **Digits are read if the whole number is in the range**: then so is every number on the way. -/
theorem readDigits_eq_ok_iff (hlo : lo ≤ 0) (hhi : 0 ≤ hi) (ha : lo ≤ signed negative a)
    (ha' : signed negative a ≤ hi) :
    readDigits lo hi negative (signed negative a) cs = .ok n ↔
      Digits cs ∧ n = signed negative (Nat.ofDigitChars 10 cs a) ∧ lo ≤ n ∧ n ≤ hi := by
  induction cs generalizing a with
  | nil =>
    rw [readDigits, Nat.ofDigitChars_nil, Except.ok.injEq]
    constructor
    · rintro rfl
      exact ⟨digits_nil, rfl, ha, ha'⟩
    · exact fun h => h.2.1.symm
  | cons c cs ih =>
    rw [readDigits, digits_cons, Nat.ofDigitChars_cons]
    by_cases hc : c.isDigit = true
    · have hdigit : digit? c = some (c.toNat - 48) := if_pos hc
      have hnext : (if negative = true then signed negative a * 10 - ((c.toNat - 48 : Nat) : Int)
          else signed negative a * 10 + ((c.toNat - 48 : Nat) : Int)) =
          signed negative (10 * a + (c.toNat - '0'.toNat)) := by
        have h48 : '0'.toNat = 48 := rfl
        cases negative with
        | false =>
          simp only [signed_false, h48, Bool.false_eq_true, if_false]
          omega
        | true =>
          simp only [signed_true, h48, if_true]
          omega
      rw [hdigit]
      simp only [hnext]
      have hgrow := le_ofDigitChars cs (10 * a + (c.toNat - '0'.toNat))
      by_cases hsmall : signed negative (10 * a + (c.toNat - '0'.toNat)) < lo
      · rw [if_pos hsmall]
        refine iff_of_false (by simp) ?_
        rintro ⟨-, rfl, hrange⟩
        exact signed_out_of_range hgrow hlo hhi (.inl hsmall) hrange
      · rw [if_neg hsmall]
        by_cases hlarge : hi < signed negative (10 * a + (c.toNat - '0'.toNat))
        · rw [if_pos hlarge]
          refine iff_of_false (by simp) ?_
          rintro ⟨-, rfl, hrange⟩
          exact signed_out_of_range hgrow hlo hhi (.inr hlarge) hrange
        · rw [if_neg hlarge, ih (Int.not_lt.1 hsmall) (Int.not_lt.1 hlarge)]
          simp only [hc, true_and]
    · have hdigit : digit? c = none := if_neg hc
      rw [hdigit]
      exact iff_of_false (by simp) fun h => hc h.1.1

/-- What is read after a sign, or without one. -/
theorem readDigits_zero_eq_ok_iff (negative : Bool) (hlo : lo ≤ 0) (hhi : 0 ≤ hi) :
    readDigits lo hi negative 0 cs = .ok n ↔
      Digits cs ∧ n = signed negative (digitsValue cs) ∧ lo ≤ n ∧ n ≤ hi := by
  have hzero : signed negative 0 = 0 := by cases negative <;> rfl
  have hlo' : lo ≤ signed negative 0 := hzero ▸ hlo
  have hhi' : signed negative 0 ≤ hi := hzero ▸ hhi
  rw [← hzero]
  exact readDigits_eq_ok_iff hlo hhi hlo' hhi'

theorem readInteger_plus (hne : ds ≠ []) :
    readInteger lo hi ('+' :: ds) = readDigits lo hi false 0 ds := by
  cases ds with
  | nil => exact absurd rfl hne
  | cons d ds => rfl

theorem readInteger_minus (hne : ds ≠ []) :
    readInteger lo hi ('-' :: ds) = readDigits lo hi true 0 ds := by
  cases ds with
  | nil => exact absurd rfl hne
  | cons d ds => rfl

theorem readInteger_bare (hne : ds ≠ []) (hds : Digits ds) :
    readInteger lo hi ds = readDigits lo hi false 0 ds := by
  cases ds with
  | nil => exact absurd rfl hne
  | cons d ds =>
    obtain ⟨hplus, hminus⟩ := ne_sign_of_isDigit (digits_cons.1 hds).1
    simp [readInteger, hplus, hminus]

/-- **What is read into a range are the forms of its numbers.** -/
theorem readInteger_eq_ok_iff (hlo : lo ≤ 0) (hhi : 0 ≤ hi) :
    readInteger lo hi cs = .ok n ↔ IntegerForm n cs ∧ lo ≤ n ∧ n ≤ hi := by
  constructor
  · intro h
    unfold readInteger at h
    split at h
    · cases h
    · cases h
    · cases h
    · rename_i ds hne
      obtain ⟨hds, rfl, hrange⟩ := (readDigits_zero_eq_ok_iff false hlo hhi).1 h
      exact ⟨.plus (fun h => hne (by rw [h])) hds, hrange⟩
    · rename_i ds hne
      obtain ⟨hds, rfl, hrange⟩ := (readDigits_zero_eq_ok_iff true hlo hhi).1 h
      exact ⟨.minus (fun h => hne (by rw [h])) hds, hrange⟩
    · rename_i hne _ _ _ _
      obtain ⟨hds, rfl, hrange⟩ := (readDigits_zero_eq_ok_iff false hlo hhi).1 h
      exact ⟨.bare hne hds, hrange⟩
  · rintro ⟨hform, hrange⟩
    cases hform with
    | bare hne hds =>
      rw [readInteger_bare hne hds]
      exact (readDigits_zero_eq_ok_iff false hlo hhi).2 ⟨hds, rfl, hrange⟩
    | plus hne hds =>
      rw [readInteger_plus hne]
      exact (readDigits_zero_eq_ok_iff false hlo hhi).2 ⟨hds, rfl, hrange⟩
    | minus hne hds =>
      rw [readInteger_minus hne]
      exact (readDigits_zero_eq_ok_iff true hlo hhi).2 ⟨hds, rfl, hrange⟩

/-- **A printed integer is a form of it.** -/
theorem integerForm_ofInt (i : Int) : IntegerForm i (ofInt i) := by
  unfold ofInt
  split
  · rename_i hneg
    have hform := IntegerForm.minus (ofNat_ne_nil i.natAbs) (digits_ofNat i.natAbs)
    rw [digitsValue_ofNat] at hform
    rwa [show -(i.natAbs : Int) = i by omega] at hform
  · rename_i hneg
    have hform := IntegerForm.bare (ofNat_ne_nil i.natAbs) (digits_ofNat i.natAbs)
    rw [digitsValue_ofNat] at hform
    rwa [show (i.natAbs : Int) = i by omega] at hform

end TypedConfig.Decimal
