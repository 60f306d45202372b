import TypedConfig.Text.Units

/-!
UTF-16 units and the texts they spell. The strict reader takes exactly the units that some text is
written in, and it gives that text back: `ofUnits?_toUnits` and `toUnits_of_ofUnits?`. These are the
units that are well paired (`exists_ofUnits?_iff`).
-/

namespace TypedConfig.Text

/-! ### Units as numbers -/

theorem toNat_toUInt16 {n : Nat} (h : n < 0x10000) : n.toUInt16.toNat = n := by
  simp only [Nat.toUInt16, UInt16.toNat_ofNat']
  exact Nat.mod_eq_of_lt h

theorem isHighSurrogate_iff {u : UInt16} :
    isHighSurrogate u = true ↔ 0xD800 ≤ u.toNat ∧ u.toNat < 0xDC00 := by
  simp [isHighSurrogate, UInt16.le_iff_toNat_le, UInt16.lt_iff_toNat_lt]

theorem isLowSurrogate_iff {u : UInt16} :
    isLowSurrogate u = true ↔ 0xDC00 ≤ u.toNat ∧ u.toNat < 0xE000 := by
  simp [isLowSurrogate, UInt16.le_iff_toNat_le, UInt16.lt_iff_toNat_lt]

theorem unitChar?_eq {u : UInt16} (h : ¬ (0xD800 ≤ u.toNat ∧ u.toNat < 0xE000)) :
    unitChar? u = some (Char.ofNat u.toNat) := by
  have : ¬ ((0xD800 ≤ u && u < 0xE000) = true) := by
    simpa [UInt16.le_iff_toNat_le, UInt16.lt_iff_toNat_lt] using h
  rw [unitChar?, if_neg this]

theorem unitChar?_eq_some {u : UInt16} {c : Char} (h : unitChar? u = some c) :
    ¬ (0xD800 ≤ u.toNat ∧ u.toNat < 0xE000) ∧ c = Char.ofNat u.toNat := by
  unfold unitChar? at h
  split at h
  · cases h
  · rename_i hu
    refine ⟨by simpa [UInt16.le_iff_toNat_le, UInt16.lt_iff_toNat_lt] using hu, ?_⟩
    cases h; rfl

/-! ### Characters as numbers -/

theorem toNat_ofNat {n : Nat} (h : n.isValidChar) : (Char.ofNat n).toNat = n := by
  have : Char.ofNat n = Char.ofNatAux n h := dif_pos h
  rw [this]
  rfl

theorem toNat_char_lt (c : Char) : c.toNat < 0xD800 ∨ 0xDFFF < c.toNat ∧ c.toNat < 0x110000 :=
  c.valid

theorem charUnits_single {c : Char} (h : c.toNat < 0x10000) : charUnits c = [c.toNat.toUInt16] := by
  rw [charUnits, if_pos h]

theorem charUnits_pair {c : Char} (h : ¬ c.toNat < 0x10000) :
    charUnits c = [(0xD800 + (c.toNat - 0x10000) / 0x400).toUInt16,
      (0xDC00 + (c.toNat - 0x10000) % 0x400).toUInt16] := by
  rw [charUnits, if_neg h]

/-! ### The two directions -/

theorem ofUnits?_pair {u v : UInt16} (hu : isHighSurrogate u = true)
    (hv : isLowSurrogate v = true) (us : List UInt16) :
    ofUnits? (u :: v :: us) = (ofUnits? us).map (pairChar u v :: ·) := by
  simp [ofUnits?, hu, hv]

theorem ofUnits?_single {u : UInt16} {c : Char} (hu : ¬ isHighSurrogate u = true)
    (hc : unitChar? u = some c) (us : List UInt16) :
    ofUnits? (u :: us) = (ofUnits? us).map (c :: ·) := by
  rw [ofUnits?.eq_def]
  simp [hu, hc]

/-- A character is a unit that stands alone or a pair of surrogates. -/
theorem charUnits_cases (c : Char) :
    (∃ u, charUnits c = [u] ∧ ¬ isHighSurrogate u = true ∧ unitChar? u = some c) ∨
      ∃ u v, charUnits c = [u, v] ∧ isHighSurrogate u = true ∧ isLowSurrogate v = true ∧
        pairChar u v = c := by
  have hv := toNat_char_lt c
  by_cases h : c.toNat < 0x10000
  · have hn := toNat_toUInt16 h
    refine Or.inl ⟨_, charUnits_single h, ?_, ?_⟩
    · rw [isHighSurrogate_iff, hn]
      omega
    · rw [unitChar?_eq (by rw [hn]; omega), hn, Char.ofNat_toNat]
  · have h1 := toNat_toUInt16 (n := 0xD800 + (c.toNat - 0x10000) / 0x400) (by omega)
    have h2 := toNat_toUInt16 (n := 0xDC00 + (c.toNat - 0x10000) % 0x400) (by omega)
    refine Or.inr ⟨_, _, charUnits_pair h, isHighSurrogate_iff.2 (by omega),
      isLowSurrogate_iff.2 (by omega), ?_⟩
    have : 0x10000 + (0xD800 + (c.toNat - 0x10000) / 0x400 - 0xD800) * 0x400 +
        (0xDC00 + (c.toNat - 0x10000) % 0x400 - 0xDC00) = c.toNat := by omega
    rw [pairChar, h1, h2, this, Char.ofNat_toNat]

theorem ofUnits?_charUnits (c : Char) (us : List UInt16) :
    ofUnits? (charUnits c ++ us) = (ofUnits? us).map (c :: ·) := by
  rcases charUnits_cases c with ⟨u, hu, hhigh, hchar⟩ | ⟨u, v, huv, hhigh, hlow, hpair⟩
  · rw [hu, List.singleton_append, ofUnits?_single hhigh hchar]
  · rw [huv, List.cons_append, List.singleton_append, ofUnits?_pair hhigh hlow, hpair]

/-- **Reading inverts writing.** -/
theorem ofUnits?_toUnits (cs : List Char) : ofUnits? (toUnits cs) = some cs := by
  induction cs with
  | nil => rfl
  | cons c cs ih =>
    rw [toUnits, List.flatMap_cons, ofUnits?_charUnits, ← toUnits, ih]
    rfl

theorem charUnits_pairChar {u v : UInt16} (hu : isHighSurrogate u = true)
    (hv : isLowSurrogate v = true) : charUnits (pairChar u v) = [u, v] := by
  rw [isHighSurrogate_iff] at hu
  rw [isLowSurrogate_iff] at hv
  have hn : (pairChar u v).toNat =
      0x10000 + (u.toNat - 0xD800) * 0x400 + (v.toNat - 0xDC00) :=
    toNat_ofNat (Or.inr (by omega))
  have h1 : 0xD800 + ((pairChar u v).toNat - 0x10000) / 0x400 = u.toNat := by omega
  have h2 : 0xDC00 + ((pairChar u v).toNat - 0x10000) % 0x400 = v.toNat := by omega
  rw [charUnits_pair (by omega), h1, h2]
  simp

theorem charUnits_unitChar {u : UInt16} {c : Char} (h : unitChar? u = some c) :
    charUnits c = [u] := by
  obtain ⟨hu, rfl⟩ := unitChar?_eq_some h
  have hlt := u.toNat_lt
  have hn : (Char.ofNat u.toNat).toNat = u.toNat := toNat_ofNat (by
    rcases Nat.lt_or_ge u.toNat 0xD800 with h | h
    · exact Or.inl h
    · exact Or.inr (by omega))
  rw [charUnits_single (by omega), hn]
  simp

/-- **Writing inverts reading**: units that are read are those of the text. -/
theorem toUnits_of_ofUnits? {us : List UInt16} {cs : List Char} (h : ofUnits? us = some cs) :
    toUnits cs = us := by
  induction us using ofUnits?.induct generalizing cs with
  | case1 =>
    cases h
    rfl
  | case2 u hu v rest hv ih =>
    rw [ofUnits?_pair hu hv] at h
    obtain ⟨ds, hds, rfl⟩ := Option.map_eq_some_iff.1 h
    rw [toUnits, List.flatMap_cons, charUnits_pairChar hu hv, ← toUnits, ih hds]
    rfl
  | case3 u hu v rest hv => simp [ofUnits?, hu, hv] at h
  | case4 u hu => simp [ofUnits?, hu] at h
  | case5 u us hu c hc ih =>
    rw [ofUnits?_single hu hc] at h
    obtain ⟨ds, hds, rfl⟩ := Option.map_eq_some_iff.1 h
    rw [toUnits, List.flatMap_cons, charUnits_unitChar hc, ← toUnits, ih hds]
    rfl
  | case6 u us hu hc =>
    rw [ofUnits?.eq_def] at h
    simp [hu, hc] at h

/-! ### Pairing -/

/-- Units that are well paired: one outside the surrogates stands alone, a high surrogate stands
directly before a low one. -/
inductive Paired : List UInt16 → Prop
  | nil : Paired []
  | single {u : UInt16} {us : List UInt16} (hu : u < 0xD800 ∨ 0xE000 ≤ u) (hus : Paired us) :
      Paired (u :: us)
  | pair {u v : UInt16} {us : List UInt16} (hu : 0xD800 ≤ u ∧ u < 0xDC00)
      (hv : 0xDC00 ≤ v ∧ v < 0xE000) (hus : Paired us) : Paired (u :: v :: us)

/-- **The strict reader takes exactly the well-paired units.** -/
theorem exists_ofUnits?_iff {us : List UInt16} : (∃ cs, ofUnits? us = some cs) ↔ Paired us := by
  constructor
  · rintro ⟨cs, h⟩
    induction us using ofUnits?.induct generalizing cs with
    | case1 => exact .nil
    | case2 u hu v rest hv ih =>
      rw [ofUnits?_pair hu hv] at h
      obtain ⟨ds, hds, rfl⟩ := Option.map_eq_some_iff.1 h
      exact .pair (by simpa [isHighSurrogate] using hu) (by simpa [isLowSurrogate] using hv) (ih ds hds)
    | case3 u hu v rest hv => simp [ofUnits?, hu, hv] at h
    | case4 u hu => simp [ofUnits?, hu] at h
    | case5 u us hu c hc ih =>
      rw [ofUnits?_single hu hc] at h
      obtain ⟨ds, hds, rfl⟩ := Option.map_eq_some_iff.1 h
      have hout := (unitChar?_eq_some hc).1
      refine .single ?_ (ih ds hds)
      rw [UInt16.lt_iff_toNat_lt, UInt16.le_iff_toNat_le]
      show u.toNat < 0xD800 ∨ 0xE000 ≤ u.toNat
      omega
    | case6 u us hu hc =>
      rw [ofUnits?.eq_def] at h
      simp [hu, hc] at h
  · intro h
    induction h with
    | nil => exact ⟨[], rfl⟩
    | @single u us hu hus ih =>
      obtain ⟨cs, hcs⟩ := ih
      have hout : u.toNat < 0xD800 ∨ 0xE000 ≤ u.toNat := by
        simpa [UInt16.lt_iff_toNat_lt, UInt16.le_iff_toNat_le] using hu
      have hhigh : ¬ isHighSurrogate u = true := by
        rw [isHighSurrogate_iff]
        omega
      exact ⟨_, by rw [ofUnits?_single hhigh (unitChar?_eq (by omega)), hcs, Option.map_some]⟩
    | pair hu hv hus ih =>
      obtain ⟨cs, hcs⟩ := ih
      exact ⟨_, by rw [ofUnits?_pair (by simpa [isHighSurrogate] using hu)
        (by simpa [isLowSurrogate] using hv), hcs, Option.map_some]⟩

end TypedConfig.Text
