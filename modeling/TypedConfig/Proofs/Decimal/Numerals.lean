import Mathlib.Logic.Basic
import TypedConfig.Proofs.Decimal.Integers

/-!
Numerals as they may be written (`NumeralForm`): an optional sign, then digits with at most one point among
them and perhaps an exponent, or a word for infinity or not-a-number. What is read are exactly these forms
(`Numeral.read_eq_ok_iff`).
-/

namespace TypedConfig.Decimal

/-- The second argument is a form of the exponent: nothing, or a mark and an integer. -/
inductive ExponentForm : Int → List Char → Prop
  | absent : ExponentForm 0 []
  | marked {mark : Char} {n : Int} {cs : List Char} (hmark : mark = 'e' ∨ mark = 'E')
      (hn : IntegerForm n cs) : ExponentForm n (mark :: cs)

/-- The second argument is a form of the magnitude: digits, with a point among them or without, of which one
stands on one side of the point at least, and perhaps an exponent; or a word in any case. -/
inductive MagnitudeForm : Magnitude → List Char → Prop
  | whole {ds exponent : List Char} {e : Int} (hne : ds ≠ []) (hds : Digits ds)
      (he : ExponentForm e exponent) :
      MagnitudeForm (.finite (digitsValue ds) e) (ds ++ exponent)
  | pointed {ds fs exponent : List Char} {e : Int} (hne : ds ≠ [] ∨ fs ≠ []) (hds : Digits ds)
      (hfs : Digits fs) (he : ExponentForm e exponent) :
      MagnitudeForm (.finite (digitsValue (ds ++ fs)) (e - fs.length)) (ds ++ '.' :: (fs ++ exponent))
  | infinite {cs : List Char}
      (h : cs.map Char.toLower ∈ [['i', 'n', 'f'], ['i', 'n', 'f', 'i', 'n', 'i', 't', 'y']]) :
      MagnitudeForm .infinite cs
  | notANumber {cs : List Char} (h : cs.map Char.toLower = ['n', 'a', 'n']) :
      MagnitudeForm .notANumber cs

/-- The second argument is a form of the numeral. -/
inductive NumeralForm : Numeral → List Char → Prop
  | bare {m : Magnitude} {cs : List Char} (h : MagnitudeForm m cs) : NumeralForm ⟨false, m⟩ cs
  | plus {m : Magnitude} {cs : List Char} (h : MagnitudeForm m cs) : NumeralForm ⟨false, m⟩ ('+' :: cs)
  | minus {m : Magnitude} {cs : List Char} (h : MagnitudeForm m cs) : NumeralForm ⟨true, m⟩ ('-' :: cs)

variable {c : Char} {cs ds fs rest exponent : List Char} {e : Int} {m : Magnitude} {n : Numeral}

/-! ### Exponents -/

theorem isEmpty_eq_false_and_all_iff :
    (!ds.isEmpty && ds.all Char.isDigit) = true ↔ ds ≠ [] ∧ Digits ds := by
  simp [Digits]

theorem readExponent_eq_some_iff : readExponent cs = some e ↔ ExponentForm e cs := by
  constructor
  · intro h
    cases cs with
    | nil =>
      cases h
      exact .absent
    | cons mark cs =>
      simp only [readExponent] at h
      split at h
      · rename_i hmark
        replace hmark : mark = 'e' ∨ mark = 'E' := by simpa using hmark
        -- the sign comes first, and digits have to follow whichever it is
        split at h <;> dsimp only at h <;> split at h
        · rename_i hdigits
          cases h
          obtain ⟨hne, hds⟩ := isEmpty_eq_false_and_all_iff.1 hdigits
          exact .marked hmark (.minus hne hds)
        · cases h
        · rename_i hdigits
          cases h
          obtain ⟨hne, hds⟩ := isEmpty_eq_false_and_all_iff.1 hdigits
          exact .marked hmark (.plus hne hds)
        · cases h
        · rename_i hdigits
          cases h
          obtain ⟨hne, hds⟩ := isEmpty_eq_false_and_all_iff.1 hdigits
          exact .marked hmark (.bare hne hds)
        · cases h
      · cases h
  · intro h
    cases h with
    | absent => rfl
    | marked hmark hn =>
      cases hn with
      | bare hne hds =>
        rename_i ds
        cases ds with
        | nil => exact absurd rfl hne
        | cons d ds =>
          obtain ⟨hplus, hminus⟩ := ne_sign_of_isDigit (digits_cons.1 hds).1
          simpa [readExponent, hmark, hplus, hminus, Digits] using hds
      | plus hne hds =>
        simp [readExponent, hmark, isEmpty_eq_false_and_all_iff.2 ⟨hne, hds⟩]
      | minus hne hds => 
        simp [readExponent, hmark, isEmpty_eq_false_and_all_iff.2 ⟨hne, hds⟩]

/-! ### Digits with a point -/

theorem takeWhile_digits (hds : Digits ds) (hrest : ∀ c ∈ rest.head?, c.isDigit = false) :
    (ds ++ rest).takeWhile Char.isDigit = ds ∧ (ds ++ rest).dropWhile Char.isDigit = rest := by
  rw [List.takeWhile_append_of_pos hds, List.dropWhile_append_of_pos hds]
  cases rest with
  | nil => simp
  | cons c rest =>
    have hc := hrest c rfl
    simp [hc]

theorem ExponentForm.head?_not_isDigit (h : ExponentForm e exponent) :
    ∀ c ∈ exponent.head?, c.isDigit = false := by
  intro c hc
  cases h with
  | absent => cases hc
  | marked hmark _ =>
    cases hc
    rcases hmark with rfl | rfl <;> rfl

theorem digits_takeWhile (cs : List Char) : Digits (cs.takeWhile Char.isDigit) :=
  List.all_eq_true.1 List.all_takeWhile

theorem readFinite_eq_some_iff :
    readFinite cs = some m ↔ MagnitudeForm m cs ∧ ∃ digits e, m = .finite digits e := by
  constructor
  · intro h
    unfold readFinite at h
    dsimp only at h
    have hcs : cs.takeWhile Char.isDigit ++ cs.dropWhile Char.isDigit = cs :=
      List.takeWhile_append_dropWhile
    have hwhole := digits_takeWhile cs
    generalize cs.takeWhile Char.isDigit = whole at h hcs hwhole
    generalize cs.dropWhile Char.isDigit = rest at h hcs
    subst hcs
    split at h <;> dsimp only at h <;> split at h
    · cases h
    · rename_i rest' hne
      obtain ⟨e, he, rfl⟩ := Option.map_eq_some_iff.1 h
      refine ⟨?_, _, _, rfl⟩
      have hform := MagnitudeForm.pointed (by simpa [or_iff_not_imp_left] using hne) hwhole
        (digits_takeWhile rest') (readExponent_eq_some_iff.1 he)
      rwa [List.takeWhile_append_dropWhile] at hform
    · cases h
    · rename_i hne
      obtain ⟨e, he, rfl⟩ := Option.map_eq_some_iff.1 h
      refine ⟨?_, _, _, rfl⟩
      have hform := MagnitudeForm.whole (by simpa using hne) hwhole (readExponent_eq_some_iff.1 he)
      simpa using hform
  · rintro ⟨hform, digits, e, rfl⟩
    cases hform with
    | whole hne hds he =>
      obtain ⟨htake, hdrop⟩ := takeWhile_digits hds he.head?_not_isDigit
      have hread := readExponent_eq_some_iff.2 he
      unfold readFinite
      rw [htake, hdrop]
      cases he with
      | absent => simp [hne, hread]
      | marked hmark _ => rcases hmark with rfl | rfl <;> simp [hne, hread]
    | pointed hne hds hfs he =>
      have hpoint : ∀ tail : List Char, ∀ c ∈ ('.' :: tail).head?, c.isDigit = false := by
        rintro tail c ⟨⟩
        rfl
      obtain ⟨htake, hdrop⟩ := takeWhile_digits hds (hpoint _)
      obtain ⟨htake', hdrop'⟩ := takeWhile_digits hfs he.head?_not_isDigit
      have hread := readExponent_eq_some_iff.2 he
      unfold readFinite
      rw [htake, hdrop]
      simpa [htake', hdrop', hread, or_iff_not_imp_left] using hne

/-! ### Words and signs -/

theorem toList_eq_of_ofList_eq {word : String} (h : String.ofList cs = word) : cs = word.toList := by
  rw [← h, String.toList_ofList]

theorem readWord_eq_some_iff :
    readWord cs = some m ↔ MagnitudeForm m cs ∧ (m = .infinite ∨ m = .notANumber) := by
  constructor
  · intro h
    unfold readWord at h
    split at h <;> cases h <;> rename_i hword <;> replace hword := toList_eq_of_ofList_eq hword
    · exact ⟨.infinite (by rw [hword]; decide), .inl rfl⟩
    · exact ⟨.infinite (by rw [hword]; decide), .inl rfl⟩
    · exact ⟨.notANumber hword, .inr rfl⟩
  · rintro ⟨hform, hm⟩
    unfold readWord
    cases hform with
    | whole | pointed => simp at hm
    | infinite h =>
      simp only [List.mem_cons, List.not_mem_nil, or_false] at h
      rcases h with h | h <;> rw [h] <;> rfl
    | notANumber h =>
      rw [h]
      rfl

theorem MagnitudeForm.exists_cons_of_finite {digits : Nat} (h : MagnitudeForm (.finite digits e) cs) :
    ∃ c rest, cs = c :: rest ∧ (c.isDigit = true ∨ c = '.') := by
  cases h with
  | whole hne hds he =>
    obtain ⟨d, ds, rfl⟩ := List.exists_cons_of_ne_nil hne
    exact ⟨d, _, rfl, .inl (digits_cons.1 hds).1⟩
  | @pointed ds fs _ _ hne hds hfs he =>
    cases ds with
    | nil => exact ⟨'.', _, rfl, .inr rfl⟩
    | cons d ds => exact ⟨d, _, rfl, .inl (digits_cons.1 hds).1⟩

theorem MagnitudeForm.exists_cons_of_word (h : MagnitudeForm m cs)
    (hm : m = .infinite ∨ m = .notANumber) :
    ∃ c rest, cs = c :: rest ∧ (c.toLower = 'i' ∨ c.toLower = 'n') := by
  cases h with
  | whole | pointed => simp at hm
  | infinite h =>
    cases cs with
    | nil => simp at h
    | cons c cs =>
      refine ⟨c, cs, rfl, .inl ?_⟩
      simp only [List.map_cons, List.mem_cons, List.cons.injEq, List.not_mem_nil, or_false] at h
      exact h.elim And.left And.left
  | notANumber h =>
    cases cs with
    | nil => simp at h
    | cons c cs => exact ⟨c, cs, rfl, .inr (List.cons.inj h).1⟩

theorem toLower_eq_self (h : c.toNat < 65 ∨ 90 < c.toNat) : c.toLower = c := by
  unfold Char.toLower
  rw [dif_neg]
  rintro ⟨hA, hZ⟩
  have hA : 65 ≤ c.toNat := UInt32.le_iff_toNat_le.1 hA
  have hZ : c.toNat ≤ 90 := UInt32.le_iff_toNat_le.1 hZ
  omega

theorem toLower_of_isDigit (h : c.isDigit = true) : c.toLower = c := by
  have h9 : c.toNat ≤ 57 := (Char.isDigit_iff_toNat.1 h).2
  exact toLower_eq_self (by omega)

theorem readFinite_of_word (h : MagnitudeForm m cs) (hm : m = .infinite ∨ m = .notANumber) :
    readFinite cs = none := by
  rw [Option.eq_none_iff_forall_ne_some]
  intro m' hm'
  obtain ⟨hform, digits, e, rfl⟩ := readFinite_eq_some_iff.1 hm'
  obtain ⟨c, rest, rfl, hc⟩ := hform.exists_cons_of_finite
  obtain ⟨c', rest', heq, hc'⟩ := h.exists_cons_of_word hm
  cases heq
  rcases hc with hdigit | rfl
  · rw [toLower_of_isDigit hdigit] at hc'
    rcases hc' with rfl | rfl <;> exact absurd hdigit (by decide)
  · exact absurd hc' (by decide)

/-- **What is read after a sign are the forms of magnitudes.** -/
theorem readMagnitude_eq_some_iff :
    (readFinite cs).or (readWord cs) = some m ↔ MagnitudeForm m cs := by
  rw [Option.or_eq_some_iff, readFinite_eq_some_iff, readWord_eq_some_iff]
  constructor
  · rintro (h | h)
    · exact h.1
    · exact h.2.1
  · intro h
    cases m with
    | finite digits e => exact .inl ⟨h, digits, e, rfl⟩
    | infinite => exact .inr ⟨readFinite_of_word h (.inl rfl), h, .inl rfl⟩
    | notANumber => exact .inr ⟨readFinite_of_word h (.inr rfl), h, .inr rfl⟩

theorem MagnitudeForm.exists_cons (h : MagnitudeForm m cs) :
    ∃ c rest, cs = c :: rest ∧ c ≠ '+' ∧ c ≠ '-' := by
  cases m with
  | finite =>
    obtain ⟨c, rest, rfl, hc⟩ := h.exists_cons_of_finite
    refine ⟨c, rest, rfl, ?_⟩
    rcases hc with hdigit | rfl
    · exact ne_sign_of_isDigit hdigit
    · decide
  | infinite | notANumber =>
    obtain ⟨c, rest, rfl, hc⟩ := h.exists_cons_of_word (by simp)
    refine ⟨c, rest, rfl, ?_, ?_⟩ <;>
    · rintro rfl
      exact absurd hc (by decide)

/-- A magnitude ends in a digit, in the point, or in the last two letters of a word. -/
theorem MagnitudeForm.exists_concat (h : MagnitudeForm m cs) :
    ∃ front c, cs = front ++ [c] ∧ (c.isDigit = true ∨ c = '.' ∨
      ∃ front' b, front = front' ++ [b] ∧
        (b.toLower, c.toLower) ∈ [('n', 'f'), ('t', 'y'), ('a', 'n')]) := by
  cases h with
  | @whole ds exponent e hne hds he =>
    cases he with
    | absent =>
      obtain ⟨front, d, rfl, hd⟩ := hds.exists_concat hne
      exact ⟨front, d, List.append_nil _, .inl hd⟩
    | @marked mark _ _ _ hn =>
      obtain ⟨front, d, rfl, hd⟩ := hn.exists_concat
      exact ⟨ds ++ mark :: front, d, by simp, .inl hd⟩
  | @pointed ds fs exponent e hne hds hfs he =>
    cases he with
    | absent =>
      by_cases hfs' : fs = []
      · exact ⟨ds, '.', by simp [hfs'], .inr (.inl rfl)⟩
      · obtain ⟨front, d, rfl, hd⟩ := hfs.exists_concat hfs'
        exact ⟨ds ++ '.' :: front, d, by simp, .inl hd⟩
    | @marked mark _ _ _ hn =>
      obtain ⟨front, d, rfl, hd⟩ := hn.exists_concat
      exact ⟨ds ++ '.' :: (fs ++ mark :: front), d, by simp, .inl hd⟩
  | infinite h =>
    simp only [List.mem_cons, List.not_mem_nil, or_false, List.map_eq_cons_iff, List.map_eq_nil_iff] at h
    rcases h with ⟨a, _, rfl, -, b, _, rfl, hb, c, _, rfl, hc, rfl⟩ |
      ⟨a, _, rfl, -, b, _, rfl, -, c, _, rfl, -, d, _, rfl, -, e, _, rfl, -, f, _, rfl, -, g, _, rfl, hg,
        x, _, rfl, hx, rfl⟩
    · exact ⟨[a, b], c, rfl, .inr (.inr ⟨[a], b, rfl, by simp [hb, hc]⟩)⟩
    · exact ⟨[a, b, c, d, e, f, g], x, rfl, .inr (.inr ⟨[a, b, c, d, e, f], g, rfl, by simp [hg, hx]⟩)⟩
  | notANumber h =>
    simp only [List.map_eq_cons_iff, List.map_eq_nil_iff] at h
    obtain ⟨a, _, rfl, -, b, _, rfl, hb, c, _, rfl, hc, rfl⟩ := h
    exact ⟨[a, b], c, rfl, .inr (.inr ⟨[a], b, rfl, by simp [hb, hc]⟩)⟩

/-- **Numerals are read from exactly their forms.** -/
theorem Numeral.read_eq_ok_iff : Numeral.read cs = .ok n ↔ NumeralForm n cs := by
  constructor
  · intro h
    unfold Numeral.read at h
    split at h
    · cases h
    · split at h
      rename_i negative rest hsign
      split at h
      · rename_i m hm
        cases h
        have hform := readMagnitude_eq_some_iff.1 hm
        split at hsign <;> cases hsign
        · exact .minus hform
        · exact .plus hform
        · exact .bare hform
      · cases h
  · intro h
    cases h with
    | bare h =>
      obtain ⟨c, rest, rfl, hplus, hminus⟩ := h.exists_cons
      simp [Numeral.read, hplus, hminus, readMagnitude_eq_some_iff.2 h]
    | plus h => simp [Numeral.read, readMagnitude_eq_some_iff.2 h]
    | minus h => simp [Numeral.read, readMagnitude_eq_some_iff.2 h]

end TypedConfig.Decimal
