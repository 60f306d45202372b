import TypedConfig.Proofs.Decimal.ReadBack
import TypedConfig.Proofs.Scalar.Leniency

/-!
Values that are shown convert back. An integer is shown as a form of its number, and what converts to an
integer are the forms of the numbers in the range of its kind (`convertInteger_eq_ok_iff`). A floating-point
number is shown as a numeral with its bits, so nothing of it is taken for a suffix or a blank.
-/

namespace TypedConfig.Scalar

open Decimal (IntegerForm)

/-- The width of a kind of integers in bits, and its values by their numbers. -/
def Kind.integer? : Kind → Option (Nat × (Int → Value))
  | .byte => some (8, fun n => .byte (Int8.ofInt n))
  | .int16 => some (16, fun n => .int16 (Int16.ofInt n))
  | .int32 => some (32, fun n => .int32 (Int32.ofInt n))
  | .int64 => some (64, fun n => .int64 (Int64.ofInt n))
  | _ => none

/-- The number that a value of such a kind is. -/
def Value.number? : Value → Option Int
  | .byte n => some n.toInt
  | .int16 n => some n.toInt
  | .int32 n => some n.toInt
  | .int64 n => some n.toInt
  | _ => none

/-- The values that are not a number, with whatever sign and payload. -/
def Value.IsNaN : Value → Prop
  | .float64 bits => Decimal.binary64.IsNaN bits.toNat
  | .float32 bits => Decimal.binary32.IsNaN bits.toNat
  | _ => False

instance : (v : Value) → Decidable v.IsNaN
  | .float64 bits => inferInstanceAs (Decidable (Decimal.binary64.IsNaN bits.toNat))
  | .float32 bits => inferInstanceAs (Decidable (Decimal.binary32.IsNaN bits.toNat))
  | .text _ | .bool _ | .int32 _ | .int64 _ | .int16 _ | .char _ | .byte _ => isFalse id

variable {k : Kind} {w bits : Nat} {make : Int → Value} {makeBits : Nat → Value} {f : Decimal.Format}
  {lo hi n : Int} {v : Value} {text : String}

/-! ### Integers -/

theorem convertInteger_eq_ok_iff (hlo : lo ≤ 0) (hhi : 0 ≤ hi) :
    convertInteger k lo hi make text = .ok v ↔
      ∃ n, IntegerForm n text.toList ∧ lo ≤ n ∧ n ≤ hi ∧ v = make n := by
  unfold convertInteger
  constructor
  · intro h
    split at h
    · rename_i n hread
      cases h
      obtain ⟨hform, hrange⟩ := (Decimal.readInteger_eq_ok_iff hlo hhi).1 hread
      exact ⟨n, hform, hrange.1, hrange.2, rfl⟩
    · cases h
  · rintro ⟨n, hform, hlow, hhigh, rfl⟩
    rw [(Decimal.readInteger_eq_ok_iff hlo hhi).2 ⟨hform, hlow, hhigh⟩]

theorem convert_of_integer? (hk : k.integer? = some (w, make)) (text : String) :
    convert text k = convertInteger k (-2 ^ (w - 1)) (2 ^ (w - 1) - 1) make text := by
  cases k with
  | byte | int16 | int32 | int64 =>
    cases hk
    rfl
  | text | bool | float64 | float32 | char => cases hk

theorem eq_ofInt_iff {α : Type} {toInt : α → Int} {ofInt : Int → α} (hlow : ∀ a, lo ≤ toInt a)
    (hhigh : ∀ a, toInt a < hi) (hto : ∀ {n}, lo ≤ n → n < hi → toInt (ofInt n) = n)
    (hof : ∀ a, ofInt (toInt a) = a) (a : α) : (lo ≤ n ∧ n < hi) ∧ a = ofInt n ↔ toInt a = n := by
  constructor
  · rintro ⟨hrange, rfl⟩
    exact hto hrange.1 hrange.2
  · rintro rfl
    exact ⟨⟨hlow a, hhigh a⟩, (hof a).symm⟩

/-- The numbers in the range are the numbers of the values, each of one value. -/
theorem make_eq_iff (hk : k.integer? = some (w, make)) :
    (-2 ^ (w - 1) ≤ n ∧ n < 2 ^ (w - 1)) ∧ v = make n ↔ v.kind = k ∧ v.number? = some n := by
  cases k with
  | byte =>
    cases hk
    cases v with
    | byte a =>
      have hiff := eq_ofInt_iff (n := n) Int8.le_toInt Int8.toInt_lt Int8.toInt_ofInt_of_le Int8.ofInt_toInt a
      simpa [Value.kind, Value.number?] using hiff
    | text | bool | int32 | int64 | float64 | float32 | int16 | char => simp [Value.kind]
  | int16 =>
    cases hk
    cases v with
    | int16 a =>
      have hiff := eq_ofInt_iff (n := n) Int16.le_toInt Int16.toInt_lt Int16.toInt_ofInt_of_le Int16.ofInt_toInt a
      simpa [Value.kind, Value.number?] using hiff
    | text | bool | int32 | int64 | float64 | float32 | char | byte => simp [Value.kind]
  | int32 =>
    cases hk
    cases v with
    | int32 a =>
      have hiff := eq_ofInt_iff (n := n) Int32.le_toInt Int32.toInt_lt Int32.toInt_ofInt_of_le Int32.ofInt_toInt a
      simpa [Value.kind, Value.number?] using hiff
    | text | bool | int64 | float64 | float32 | int16 | char | byte => simp [Value.kind]
  | int64 =>
    cases hk
    cases v with
    | int64 a =>
      have hiff := eq_ofInt_iff (n := n) Int64.le_toInt Int64.toInt_lt Int64.toInt_ofInt_of_le Int64.ofInt_toInt a
      simpa [Value.kind, Value.number?] using hiff
    | text | bool | int32 | float64 | float32 | int16 | char | byte => simp [Value.kind]
  | text | bool | float64 | float32 | char => cases hk

theorem convert_integer_eq_ok_iff (hk : k.integer? = some (w, make)) :
    convert text k = .ok v ↔
      ∃ n, IntegerForm n text.toList ∧ (-2 ^ (w - 1) ≤ n ∧ n < 2 ^ (w - 1)) ∧ v = make n := by
  have hpos : (0 : Int) < 2 ^ (w - 1) := Int.pow_pos (by decide)
  rw [convert_of_integer? hk, convertInteger_eq_ok_iff (by omega) (by omega)]
  refine exists_congr fun n => and_congr_right fun _ => ?_
  rw [← and_assoc, Int.le_sub_one_iff]

theorem integerForm_display (h : v.number? = some n) : IntegerForm n v.display.toList := by
  cases v with
  | byte | int16 | int32 | int64 =>
    cases h
    unfold Value.display
    rw [String.toList_ofList]
    exact Decimal.integerForm_ofInt _
  | text | bool | float64 | float32 | char => cases h

theorem convert_display_of_number? (hk : v.kind.integer? = some (w, make)) (h : v.number? = some n) :
    convert v.display v.kind = .ok v := by
  obtain ⟨hrange, hmake⟩ := (make_eq_iff hk).2 ⟨rfl, h⟩
  exact (convert_integer_eq_ok_iff hk).2 ⟨n, integerForm_display h, hrange, hmake⟩

/-! ### Floating-point numbers -/

theorem convert_plainText (hk : k.float? = some (f, makeBits)) (hmin : -1200 ≤ f.minExponent)
    (h : ¬ f.IsNaN bits) :
    convert (String.ofList (Decimal.plainText f bits)) k = .ok (makeBits bits) := by
  obtain ⟨n, hform, hbits⟩ := Decimal.exists_numeral_plainText hmin h
  rw [convert_of_float? hk, convertNumeral_eq_ok_iff, String.toList_ofList]
  exact ⟨_, n, hform, .self _, by rw [hbits]⟩

/-! ### All kinds -/

/-- **A value that is shown converts back to itself**, bit for bit, unless it is not a number. -/
theorem convert_display (h : ¬ v.IsNaN) : convert v.display v.kind = .ok v := by
  cases v with
  | text s => rfl
  | bool b => cases b <;> rfl
  | byte | int16 | int32 | int64 => exact convert_display_of_number? rfl rfl
  | float64 bits =>
    have hback := convert_plainText (k := .float64) rfl (by decide) h
    rwa [Nat.toUInt64_eq, UInt64.ofNat_toNat] at hback
  | float32 bits =>
    have hback := convert_plainText (k := .float32) rfl (by decide) h
    rwa [Nat.toUInt32_eq, UInt32.ofNat_toNat] at hback
  | char c => simp [Value.display, Value.kind, convert]

/-- **Showing and converting are inverse.** Every value of the nine kinds that is not one of the
not-a-numbers converts back from what is shown of it, bit for bit. And for every kind of integers a text
converts to a value exactly if it is a form of the value's number, an optional sign and at least one digit;
it converts to some value exactly if this number is in the range of the kind's width. -/
theorem display_convert_inverse :
    (∀ v : Value, ¬ v.IsNaN → convert v.display v.kind = .ok v) ∧
    ∀ k w make, Kind.integer? k = some (w, make) → ∀ text : String,
      (∀ v, convert text k = .ok v ↔ v.kind = k ∧ ∃ n, v.number? = some n ∧ IntegerForm n text.toList) ∧
      ((∃ v, convert text k = .ok v) ↔
        ∃ n, IntegerForm n text.toList ∧ -2 ^ (w - 1) ≤ n ∧ n < 2 ^ (w - 1)) := by
  refine ⟨fun v h => convert_display h, fun k w make hk text => ⟨fun v => ?_, ?_⟩⟩
  · rw [convert_integer_eq_ok_iff hk]
    constructor
    · rintro ⟨n, hform, hmake⟩
      obtain ⟨hkind, hnumber⟩ := (make_eq_iff hk).1 hmake
      exact ⟨hkind, n, hnumber, hform⟩
    · rintro ⟨hkind, n, hnumber, hform⟩
      exact ⟨n, hform, (make_eq_iff hk).2 ⟨hkind, hnumber⟩⟩
  · constructor
    · rintro ⟨v, hv⟩
      obtain ⟨n, hform, hrange, -⟩ := (convert_integer_eq_ok_iff hk).1 hv
      exact ⟨n, hform, hrange⟩
    · rintro ⟨n, hform, hrange⟩
      exact ⟨make n, (convert_integer_eq_ok_iff hk).2 ⟨n, hform, hrange, rfl⟩⟩

/-- Negative zero, an infinity and the least byte, shown and converted back. -/
theorem display_convert_inverse_extremes :
    ¬ (Value.float64 0x8000000000000000).IsNaN ∧
    convert "-0" .float64 = .ok (.float64 0x8000000000000000) ∧
    ¬ (Value.float32 0x7F800000).IsNaN ∧
    convert "inf" .float32 = .ok (.float32 0x7F800000) ∧
    (∃ make, Kind.integer? .byte = some (8, make)) ∧
    convert "-0128" .byte = .ok (.byte (-128)) := by
  obtain ⟨hback, hinteger⟩ := display_convert_inverse
  have hzero : ¬ (Value.float64 0x8000000000000000).IsNaN := by decide
  have hinf : ¬ (Value.float32 0x7F800000).IsNaN := by decide
  have hform : IntegerForm (-Decimal.digitsValue ['0', '1', '2', '8']) ['-', '0', '1', '2', '8'] :=
    .minus (by decide) (by decide)
  exact ⟨hzero, hback _ hzero, hinf, hback _ hinf, ⟨_, rfl⟩,
    ((hinteger .byte 8 _ rfl "-0128").1 (.byte (-128))).2 ⟨rfl, -128, rfl, hform⟩⟩

end TypedConfig.Scalar
