import TypedConfig.Proofs.Decimal.Numerals
import TypedConfig.Proofs.Text.Trimming
import TypedConfig.Scalar.Convert

/-!
What the conversion of numerals tolerates. Around a numeral there may be blanks, and directly after a digit or
a point that it ends with one suffix letter (`Surrounds`). Nothing else is tolerated, and what is tolerated
does not change the value (`convertNumeral_eq_ok_iff`): no form of a numeral ends in such a letter after a digit or
a point, so that a numeral keeps all of its characters.
-/

namespace TypedConfig.Scalar

open Decimal (MagnitudeForm Numeral NumeralForm)
open Text (Blanks Tight)

/-- What a numeral may stand in: blanks, and one suffix letter directly after a digit or a point. -/
inductive Surrounds (numeral : List Char) : List Char → Prop
  | blanks {before after : List Char} (hbefore : Blanks before) (hafter : Blanks after) :
      Surrounds numeral (before ++ numeral ++ after)
  | suffix {before after : List Char} {c s : Char} (hbefore : Blanks before) (hafter : Blanks after)
      (hc : numeral.getLast? = some c) (hends : endsNumeral c = true) (hs : isSuffix s = true) :
      Surrounds numeral (before ++ (numeral ++ [s]) ++ after)

variable {c s : Char} {cs numeral : List Char} {n : Numeral} {k : Kind} {f : Decimal.Format}
  {make : Nat → Value} {text : String} {v : Value}

/-! ### The ends of a numeral -/

theorem isBlank_of_isSuffix (h : isSuffix s = true) : Text.isBlank s = false := by
  simp only [isSuffix, Bool.or_eq_true, decide_eq_true_eq] at h
  obtain ((rfl | rfl) | rfl) | rfl := h <;> rfl

theorem isBlank_of_isDigit (h : c.isDigit = true) : Text.isBlank c = false := by
  rw [Char.isDigit_iff_toNat] at h
  have h0 : 48 ≤ c.toNat := h.1
  have h9 : c.toNat ≤ 57 := h.2
  simp [Text.isBlank]
  omega

theorem isBlank_of_isBlank_toLower (h : Text.isBlank c.toLower = false) : Text.isBlank c = false := by
  cases hc : Text.isBlank c with
  | false => rfl
  | true =>
    have hcapital : c.toNat < 65 ∨ 90 < c.toNat := by
      simp [Text.isBlank] at hc
      omega
    rw [Decimal.toLower_eq_self hcapital, hc] at h
    cases h

theorem isSuffix_of_isDigit (h : c.isDigit = true) : isSuffix c = false := by
  cases hs : isSuffix c with
  | false => rfl
  | true =>
    simp only [isSuffix, Bool.or_eq_true, decide_eq_true_eq] at hs
    obtain ((rfl | rfl) | rfl) | rfl := hs <;> exact absurd h (by decide)

theorem endsNumeral_of_toLower (h : endsNumeral c.toLower = false) : endsNumeral c = false := by
  cases hc : endsNumeral c with
  | false => rfl
  | true =>
    simp only [endsNumeral, Bool.or_eq_true, decide_eq_true_eq] at hc
    rcases hc with hdigit | rfl
    · rw [Decimal.toLower_of_isDigit hdigit] at h
      simp [endsNumeral, hdigit] at h
    · exact absurd h (by decide)

theorem isBlank_head_of_form {m : Decimal.Magnitude} (h : MagnitudeForm m cs) :
    ∃ c rest, cs = c :: rest ∧ Text.isBlank c = false := by
  cases m with
  | finite digits e =>
    obtain ⟨c, rest, rfl, hc⟩ := h.exists_cons_of_finite
    refine ⟨c, rest, rfl, ?_⟩
    rcases hc with hdigit | rfl
    · exact isBlank_of_isDigit hdigit
    · rfl
  | infinite | notANumber =>
    obtain ⟨c, rest, rfl, hc⟩ := h.exists_cons_of_word (by simp)
    refine ⟨c, rest, rfl, isBlank_of_isBlank_toLower ?_⟩
    rcases hc with hc | hc <;> rw [hc] <;> rfl

/-- **No suffix letter ends a numeral after a digit or a point**, and no blank ends it. -/
theorem exists_concat_of_form {m : Decimal.Magnitude} (h : MagnitudeForm m cs) :
    ∃ front c, cs = front ++ [c] ∧ Text.isBlank c = false ∧
      (isSuffix c = false ∨ ∃ front' b, front = front' ++ [b] ∧ endsNumeral b = false) := by
  obtain ⟨front, c, rfl, hc⟩ := h.exists_concat
  refine ⟨front, c, rfl, ?_⟩
  rcases hc with hdigit | rfl | ⟨front', b, rfl, hletters⟩
  · exact ⟨isBlank_of_isDigit hdigit, .inl (isSuffix_of_isDigit hdigit)⟩
  · exact ⟨rfl, .inl rfl⟩
  · simp only [List.mem_cons, Prod.mk.injEq, List.not_mem_nil, or_false] at hletters
    obtain ⟨hb, hc⟩ | ⟨hb, hc⟩ | ⟨hb, hc⟩ := hletters <;>
    · refine ⟨isBlank_of_isBlank_toLower ?_, .inr ⟨front', b, rfl, endsNumeral_of_toLower ?_⟩⟩
      · rw [hc]
        rfl
      · rw [hb]
        rfl

/-- A sign in front changes nothing at the end. -/
theorem exists_concat_of_numeralForm (h : NumeralForm n cs) :
    ∃ front c, cs = front ++ [c] ∧ Text.isBlank c = false ∧
      (isSuffix c = false ∨ ∃ front' b, front = front' ++ [b] ∧ endsNumeral b = false) := by
  cases h with
  | bare h => exact exists_concat_of_form h
  | plus h | minus h =>
    obtain ⟨front, c, rfl, hblank, hc⟩ := exists_concat_of_form h
    refine ⟨_ :: front, c, rfl, hblank, hc.imp id ?_⟩
    rintro ⟨front', b, rfl, hb⟩
    exact ⟨_ :: front', b, rfl, hb⟩

theorem tight_of_numeralForm (h : NumeralForm n cs) : Tight cs := by
  obtain ⟨front, c, heq, hblank, -⟩ := exists_concat_of_numeralForm h
  refine ⟨?_, front, c, heq, hblank⟩
  cases h with
  | bare h => exact isBlank_head_of_form h
  | plus h => exact ⟨'+', _, rfl, rfl⟩
  | minus h => exact ⟨'-', _, rfl, rfl⟩

/-! ### Taking the numeral out of a text -/

theorem Surrounds.self (numeral : List Char) : Surrounds numeral numeral := by
  have h : Surrounds numeral ([] ++ numeral ++ []) := .blanks Text.blanks_nil Text.blanks_nil
  rwa [List.nil_append, List.append_nil] at h

theorem numeralText_of_keeps {front : List Char} (h : Text.trim cs = front ++ [c])
    (hkeeps : isSuffix c = false ∨ ∃ front' b, front = front' ++ [b] ∧ endsNumeral b = false) :
    numeralText cs = front ++ [c] := by
  unfold numeralText
  dsimp only
  rw [h, List.reverse_append, List.reverse_singleton, List.singleton_append]
  rcases hkeeps with hs | ⟨front', b, rfl, hb⟩
  · split
    · rename_i heq
      obtain ⟨rfl, -⟩ := List.cons.inj heq
      simp [hs]
    · rfl
  · simp [hb]

theorem numeralText_of_suffix (h : Text.trim cs = numeral ++ [s]) (hc : numeral.getLast? = some c)
    (hends : endsNumeral c = true) (hs : isSuffix s = true) : numeralText cs = numeral := by
  obtain ⟨front, rfl⟩ := List.getLast?_eq_some_iff.1 hc
  unfold numeralText
  rw [h]
  simp [hends, hs]

/-- **The numeral is found in whatever surrounds it.** -/
theorem numeralText_of_surrounds (h : NumeralForm n numeral) (hcs : Surrounds numeral cs) :
    numeralText cs = numeral := by
  have htight := tight_of_numeralForm h
  cases hcs with
  | blanks hbefore hafter =>
    obtain ⟨front, c, rfl, -, hkeeps⟩ := exists_concat_of_numeralForm h
    exact numeralText_of_keeps (Text.trim_surrounded htight hbefore hafter) hkeeps
  | @suffix _ _ c s hbefore hafter hc hends hs =>
    have htight' : Tight (numeral ++ [s]) := by
      obtain ⟨d, rest, rfl, hd⟩ := htight.first
      exact ⟨⟨d, rest ++ [s], rfl, hd⟩, _, s, rfl, isBlank_of_isSuffix hs⟩
    exact numeralText_of_suffix (Text.trim_surrounded htight' hbefore hafter) hc hends hs

/-- **Every text surrounds the numeral that is looked for in it.** -/
theorem surrounds_numeralText (cs : List Char) : Surrounds (numeralText cs) cs := by
  obtain ⟨before, after, hbefore, hafter, heq⟩ := Text.exists_surrounded cs
  have hblanks : Surrounds (Text.trim cs) cs := by
    have h : Surrounds (Text.trim cs) (before ++ Text.trim cs ++ after) := .blanks hbefore hafter
    rwa [← heq] at h
  unfold numeralText
  dsimp only
  split
  · rename_i s c rest hreverse
    split
    · rename_i hsuffix
      obtain ⟨hs, hends⟩ := Bool.and_eq_true_iff.1 hsuffix
      have htrim : Text.trim cs = (rest.reverse ++ [c]) ++ [s] := by
        rw [← List.reverse_reverse (Text.trim cs), hreverse]
        simp
      rw [htrim, List.dropLast_concat]
      have h : Surrounds (rest.reverse ++ [c]) (before ++ ((rest.reverse ++ [c]) ++ [s]) ++ after) :=
        .suffix hbefore hafter List.getLast?_concat hends hs
      rwa [← htrim, ← heq] at h
    · exact hblanks
  · exact hblanks

/-! ### Conversion -/

/-- A numeral converts to its value, and a text without one is reported as it is. -/
theorem convertNumeral_eq_ok_iff :
    convertNumeral k f make text = .ok v ↔ ∃ numeral n, NumeralForm n numeral ∧
      Surrounds numeral text.toList ∧ v = make (n.toBits f) := by
  unfold convertNumeral
  constructor
  · intro h
    split at h
    · rename_i n hread
      cases h
      exact ⟨_, n, Numeral.read_eq_ok_iff.1 hread, surrounds_numeralText _, rfl⟩
    · cases h
  · rintro ⟨numeral, n, hform, hsurrounds, rfl⟩
    rw [numeralText_of_surrounds hform hsurrounds, Numeral.read_eq_ok_iff.2 hform]

theorem convertNumeral_eq_error {e : ConversionError} (h : convertNumeral k f make text = .error e) :
    ∃ fault, e = .invalid text k (.numeral fault) := by
  unfold convertNumeral at h
  split at h
  · cases h
  · rename_i fault _
    cases h
    exact ⟨fault, rfl⟩

/-- The format of a kind of floating-point numbers, and its values by their bits. -/
def Kind.float? : Kind → Option (Decimal.Format × (Nat → Value))
  | .float64 => some (Decimal.binary64, fun n => .float64 n.toUInt64)
  | .float32 => some (Decimal.binary32, fun n => .float32 n.toUInt32)
  | _ => none

theorem convert_of_float? (hk : k.float? = some (f, make)) (text : String) :
    convert text k = convertNumeral k f make text := by
  cases k with
  | float64 | float32 =>
    cases hk
    rfl
  | text | bool | int32 | int64 | int16 | char | byte => cases hk

/-- **Leniency is conservative and exact.** Let numerals be read in the documented grammar, as they are.
A text that is a numeral as it stands converts to the value that is read from it. A text converts to a value
if and only if it is a numeral with that value between blanks, perhaps with one suffix letter directly after a
digit or a point that the numeral ends with. Any other text is reported as it was given. -/
theorem convert_float_iff (hk : k.float? = some (f, make)) :
    (∀ cs n, Numeral.read cs = .ok n ↔ NumeralForm n cs) ∧
    (∀ (text : String) n, Numeral.read text.toList = .ok n →
      convert text k = .ok (make (n.toBits f))) ∧
    (∀ (text : String) v, convert text k = .ok v ↔ ∃ numeral n, Numeral.read numeral = .ok n ∧
      Surrounds numeral text.toList ∧ v = make (n.toBits f)) ∧
    ∀ text e, convert text k = .error e → ∃ fault, e = .invalid text k (.numeral fault) := by
  have hiff : ∀ (text : String) v, convert text k = .ok v ↔ ∃ numeral n,
      Numeral.read numeral = .ok n ∧ Surrounds numeral text.toList ∧ v = make (n.toBits f) := by
    intro text v
    rw [convert_of_float? hk, convertNumeral_eq_ok_iff]
    simp only [Numeral.read_eq_ok_iff]
  refine ⟨fun cs n => Numeral.read_eq_ok_iff, fun text n hn => ?_, hiff, fun text e he => ?_⟩
  · exact (hiff text _).2 ⟨_, n, hn, .self _, rfl⟩
  · rw [convert_of_float? hk] at he
    exact convertNumeral_eq_error he

/-- A numeral with a suffix letter between blanks of two sorts, and one with two such letters. -/
theorem convert_float_iff_suffixed :
    Kind.float? .float32 = some (Decimal.binary32, fun n => .float32 n.toUInt32) ∧
    convert "1." .float32 = .ok (.float32 0x3F800000) ∧
    convert "\u00a01.D\t" .float32 = .ok (.float32 0x3F800000) ∧
    convert "1.fd" .float32 = .error (.invalid "1.fd" .float32 (.numeral .invalid)) := by
  have hk : Kind.float? .float32 = some (Decimal.binary32, fun n => .float32 n.toUInt32) := rfl
  obtain ⟨-, hself, hiff, -⟩ := convert_float_iff hk
  have hread : Numeral.read "1.".toList = .ok ⟨false, .finite 1 0⟩ := rfl
  have hbits : (⟨false, .finite 1 0⟩ : Numeral).toBits Decimal.binary32 = 0x3F800000 := by
    decide +kernel
  have htext : "\u00a01.D\t".toList = ['\u00a0'] ++ ("1.".toList ++ ['D']) ++ ['\t'] := rfl
  have hsurrounds : Surrounds "1.".toList "\u00a01.D\t".toList := by
    rw [htext]
    exact .suffix (by decide) (by decide) rfl rfl rfl
  refine ⟨hk, ?_, ?_, rfl⟩
  · rw [hself "1." _ hread, hbits]
    rfl
  · refine (hiff _ _).2 ⟨_, _, hread, hsurrounds, ?_⟩
    rw [hbits]
    rfl

end TypedConfig.Scalar
