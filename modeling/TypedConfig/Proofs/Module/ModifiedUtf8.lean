import TypedConfig.Module.ModifiedUtf8
import TypedConfig.Proofs.Text.Units

/-!
Modified UTF-8 both ways. A text is read back from its encoding (`decodeText?_encodeText`). The reader
takes groups of bytes that spell well-paired units (`exists_decodeText?_iff`), and among them longer
groups than needed; the writer never writes one, so every text has one shortest encoding
(`encodeText_canonical`).
-/

namespace TypedConfig.Module

/-! ### Bytes as numbers -/

theorem toNat_toUInt8 {n : Nat} (h : n < 256) : n.toUInt8.toNat = n := by
  simp only [Nat.toUInt8, UInt8.toNat_ofNat']
  exact Nat.mod_eq_of_lt h

theorem isSingle_iff {b : UInt8} : isSingle b = true ↔ 1 ≤ b.toNat ∧ b.toNat < 0x80 := by
  simp only [isSingle, Bool.and_eq_true, decide_eq_true_eq, UInt8.lt_iff_toNat_lt]
  exact Iff.rfl

theorem opensTwo_iff {b : UInt8} : opensTwo b = true ↔ 0xC0 ≤ b.toNat ∧ b.toNat < 0xE0 := by
  simp [opensTwo, UInt8.le_iff_toNat_le, UInt8.lt_iff_toNat_lt]

theorem opensThree_iff {b : UInt8} : opensThree b = true ↔ 0xE0 ≤ b.toNat ∧ b.toNat < 0xF0 := by
  simp [opensThree, UInt8.le_iff_toNat_le, UInt8.lt_iff_toNat_lt]

theorem continues_iff {b : UInt8} : continues b = true ↔ 0x80 ≤ b.toNat ∧ b.toNat < 0xC0 := by
  simp [continues, UInt8.le_iff_toNat_le, UInt8.lt_iff_toNat_lt]

theorem toUInt16_eq {u : UInt16} {n : Nat} (h : n = u.toNat) : n.toUInt16 = u := by
  subst h
  exact UInt16.ofNat_toNat

/-! ### One group at a time -/

theorem encodeUnit_one {u : UInt16} (h : 1 ≤ u.toNat ∧ u.toNat < 0x80) :
    encodeUnit u = [u.toNat.toUInt8] := by
  rw [encodeUnit, if_pos h]

theorem encodeUnit_two {u : UInt16} (h1 : ¬ (1 ≤ u.toNat ∧ u.toNat < 0x80))
    (h2 : u.toNat < 0x800) :
    encodeUnit u = [(0xC0 + u.toNat / 64).toUInt8, (0x80 + u.toNat % 64).toUInt8] := by
  rw [encodeUnit, if_neg h1, if_pos h2]

theorem encodeUnit_three {u : UInt16} (h1 : ¬ (1 ≤ u.toNat ∧ u.toNat < 0x80))
    (h2 : ¬ u.toNat < 0x800) :
    encodeUnit u = [(0xE0 + u.toNat / 4096).toUInt8, (0x80 + u.toNat / 64 % 64).toUInt8,
      (0x80 + u.toNat % 64).toUInt8] := by
  rw [encodeUnit, if_neg h1, if_neg h2]

theorem decodeUnits_single {a : UInt8} (ha : isSingle a = true) (acc : List UInt16)
    (bs : List UInt8) : decodeUnits acc (a :: bs) = decodeUnits (a.toUInt16 :: acc) bs := by
  rw [decodeUnits.eq_def]
  simp [ha]

theorem decodeUnits_two {a b : UInt8} (ha : opensTwo a = true) (hb : continues b = true)
    (acc : List UInt16) (bs : List UInt8) :
    decodeUnits acc (a :: b :: bs) =
      decodeUnits (((a.toNat - 0xC0) * 64 + (b.toNat - 0x80)).toUInt16 :: acc) bs := by
  have h1 : ¬ isSingle a = true := by
    rw [opensTwo_iff] at ha
    rw [isSingle_iff]
    omega
  simp [decodeUnits, h1, ha, hb]

theorem decodeUnits_three {a b c : UInt8} (ha : opensThree a = true) (hb : continues b = true)
    (hc : continues c = true) (acc : List UInt16) (bs : List UInt8) :
    decodeUnits acc (a :: b :: c :: bs) =
      decodeUnits (((a.toNat - 0xE0) * 4096 + (b.toNat - 0x80) * 64 + (c.toNat - 0x80)).toUInt16 ::
        acc) bs := by
  have h1 : ¬ isSingle a = true := by
    rw [opensThree_iff] at ha
    rw [isSingle_iff]
    omega
  have h2 : ¬ opensTwo a = true := by
    rw [opensThree_iff] at ha
    rw [opensTwo_iff]
    omega
  simp [decodeUnits, h1, h2, ha, hb, hc]

theorem decodeUnits_encodeUnit (acc : List UInt16) (u : UInt16) (bs : List UInt8) :
    decodeUnits acc (encodeUnit u ++ bs) = decodeUnits (u :: acc) bs := by
  have hu := u.toNat_lt
  by_cases h1 : 1 ≤ u.toNat ∧ u.toNat < 0x80
  · have hb := toNat_toUInt8 (n := u.toNat) (by omega)
    rw [encodeUnit_one h1, List.singleton_append, decodeUnits_single (isSingle_iff.2 (by omega))]
    congr 2
    rw [← UInt16.toNat_inj, UInt8.toNat_toUInt16, hb]
  · by_cases h2 : u.toNat < 0x800
    · have ha := toNat_toUInt8 (n := 0xC0 + u.toNat / 64) (by omega)
      have hb := toNat_toUInt8 (n := 0x80 + u.toNat % 64) (by omega)
      rw [encodeUnit_two h1 h2, List.cons_append, List.singleton_append,
        decodeUnits_two (opensTwo_iff.2 (by omega)) (continues_iff.2 (by omega)), ha, hb,
        toUInt16_eq (u := u) (by omega)]
    · have ha := toNat_toUInt8 (n := 0xE0 + u.toNat / 4096) (by omega)
      have hb := toNat_toUInt8 (n := 0x80 + u.toNat / 64 % 64) (by omega)
      have hc := toNat_toUInt8 (n := 0x80 + u.toNat % 64) (by omega)
      rw [encodeUnit_three h1 h2, List.cons_append, List.cons_append, List.singleton_append,
        decodeUnits_three (opensThree_iff.2 (by omega)) (continues_iff.2 (by omega))
          (continues_iff.2 (by omega)), ha, hb, hc, toUInt16_eq (u := u) (by omega)]

theorem decodeUnits_flatMap (us acc : List UInt16) :
    decodeUnits acc (us.flatMap encodeUnit) = some (acc.reverse ++ us) := by
  induction us generalizing acc with
  | nil => simp [decodeUnits]
  | cons u us ih =>
    rw [List.flatMap_cons, decodeUnits_encodeUnit, ih]
    simp

/-- **Reading inverts writing.** -/
theorem decodeText?_encodeText (s : String) : decodeText? (encodeText s) = some s := by
  rw [decodeText?, encodeText, decodeUnits_flatMap]
  simp [Text.ofUnits?_toUnits]

/-! ### Groups of bytes -/

/-- Six more bits after those of a unit. -/
def addSix (u : UInt16) (b : UInt8) : UInt16 := u <<< 6 ||| (b &&& 0x3F).toUInt16

/-- A group of bytes and the unit that it spells: `0xxxxxxx` other than zero, `110xxxxx 10xxxxxx`, or
`1110xxxx 10xxxxxx 10xxxxxx`. The bits marked `x` are those of the unit. -/
inductive Group : List UInt8 → UInt16 → Prop
  | one {a : UInt8} (h0 : a ≠ 0) (ha : a &&& 0x80 = 0) : Group [a] a.toUInt16
  | two {a b : UInt8} (ha : a &&& 0xE0 = 0xC0) (hb : b &&& 0xC0 = 0x80) :
      Group [a, b] (addSix (a &&& 0x1F).toUInt16 b)
  | three {a b c : UInt8} (ha : a &&& 0xF0 = 0xE0) (hb : b &&& 0xC0 = 0x80)
      (hc : c &&& 0xC0 = 0x80) : Group [a, b, c] (addSix (addSix (a &&& 0x0F).toUInt16 b) c)

/-- The bytes are groups, one for each of the units. -/
inductive Grouped : List UInt8 → List UInt16 → Prop
  | nil : Grouped [] []
  | cons {g bs : List UInt8} {u : UInt16} {us : List UInt16} (hg : Group g u)
      (hbs : Grouped bs us) : Grouped (g ++ bs) (u :: us)

theorem forall_byte {p : UInt8 → Prop} (h : ∀ i : Fin 256, p (.ofFin i)) (b : UInt8) : p b :=
  h b.toFin

theorem isSingle_iff_bits (b : UInt8) : isSingle b = true ↔ b ≠ 0 ∧ b &&& 0x80 = 0 :=
  forall_byte (p := fun b => isSingle b = true ↔ b ≠ 0 ∧ b &&& 0x80 = 0) (by decide +kernel) b

theorem opensTwo_iff_bits (b : UInt8) : opensTwo b = true ↔ b &&& 0xE0 = 0xC0 :=
  forall_byte (p := fun b => opensTwo b = true ↔ b &&& 0xE0 = 0xC0) (by decide +kernel) b

theorem opensThree_iff_bits (b : UInt8) : opensThree b = true ↔ b &&& 0xF0 = 0xE0 :=
  forall_byte (p := fun b => opensThree b = true ↔ b &&& 0xF0 = 0xE0) (by decide +kernel) b

theorem continues_iff_bits (b : UInt8) : continues b = true ↔ b &&& 0xC0 = 0x80 :=
  forall_byte (p := fun b => continues b = true ↔ b &&& 0xC0 = 0x80) (by decide +kernel) b

theorem toNat_addSix {u : UInt16} (h : u.toNat < 1024) (b : UInt8) :
    (addSix u b).toNat = u.toNat * 64 + b.toNat % 64 := by
  have hlow : b.toNat &&& 0x3F = b.toNat % 64 := Nat.and_two_pow_sub_one_eq_mod b.toNat 6
  have hshift : u.toNat <<< 6 % 65536 = u.toNat <<< 6 := by
    rw [Nat.shiftLeft_eq]
    omega
  calc (addSix u b).toNat = u.toNat <<< 6 % 65536 ||| b.toNat % 64 := by simp [addSix, hlow]
    _ = u.toNat <<< 6 + b.toNat % 64 := by
      rw [hshift, Nat.shiftLeft_add_eq_or_of_lt (Nat.mod_lt _ (by decide))]
    _ = u.toNat * 64 + b.toNat % 64 := by rw [Nat.shiftLeft_eq]

theorem addSix_two {a b : UInt8} (ha : opensTwo a = true) (hb : continues b = true) :
    addSix (a &&& 0x1F).toUInt16 b = ((a.toNat - 0xC0) * 64 + (b.toNat - 0x80)).toUInt16 := by
  rw [opensTwo_iff] at ha
  rw [continues_iff] at hb
  have hlow : (a &&& 0x1F).toUInt16.toNat = a.toNat % 32 := by
    simpa using Nat.and_two_pow_sub_one_eq_mod a.toNat 5
  refine (toUInt16_eq ?_).symm
  rw [toNat_addSix (by omega), hlow]
  omega

theorem addSix_three {a b c : UInt8} (ha : opensThree a = true) (hb : continues b = true)
    (hc : continues c = true) :
    addSix (addSix (a &&& 0x0F).toUInt16 b) c =
      ((a.toNat - 0xE0) * 4096 + (b.toNat - 0x80) * 64 + (c.toNat - 0x80)).toUInt16 := by
  rw [opensThree_iff] at ha
  rw [continues_iff] at hb hc
  have hlow : (a &&& 0x0F).toUInt16.toNat = a.toNat % 16 := by
    simpa using Nat.and_two_pow_sub_one_eq_mod a.toNat 4
  have htwo := toNat_addSix (u := (a &&& 0x0F).toUInt16) (by omega) b
  refine (toUInt16_eq ?_).symm
  rw [toNat_addSix (by omega), htwo, hlow]
  omega

theorem decodeUnits_group {g : List UInt8} {u : UInt16} (h : Group g u) (acc : List UInt16)
    (bs : List UInt8) : decodeUnits acc (g ++ bs) = decodeUnits (u :: acc) bs := by
  cases h with
  | one h0 ha => exact decodeUnits_single ((isSingle_iff_bits _).2 ⟨h0, ha⟩) acc bs
  | two ha hb =>
    rw [← opensTwo_iff_bits] at ha
    rw [← continues_iff_bits] at hb
    rw [addSix_two ha hb]
    exact decodeUnits_two ha hb acc bs
  | three ha hb hc =>
    rw [← opensThree_iff_bits] at ha
    rw [← continues_iff_bits] at hb hc
    rw [addSix_three ha hb hc]
    exact decodeUnits_three ha hb hc acc bs

theorem Grouped.exists_cons {g bs : List UInt8} {u : UInt16} {acc us : List UInt16} (hg : Group g u)
    (h : ∃ vs, Grouped bs vs ∧ us = (u :: acc).reverse ++ vs) :
    ∃ vs, Grouped (g ++ bs) vs ∧ us = acc.reverse ++ vs := by
  obtain ⟨vs, hvs, rfl⟩ := h
  exact ⟨u :: vs, .cons hg hvs, by simp⟩

/-- **What the reader of units takes**: groups of bytes. The induction is on the reader's own
recursion, a group at a time. -/
theorem decodeUnits_eq_some_iff {acc us : List UInt16} {bs : List UInt8} :
    decodeUnits acc bs = some us ↔ ∃ vs, Grouped bs vs ∧ us = acc.reverse ++ vs := by
  constructor
  · intro h
    induction acc, bs using decodeUnits.induct with
    | case1 acc =>
      simp only [decodeUnits, Option.some.injEq] at h
      exact ⟨[], .nil, by simp [h]⟩
    | case2 acc a rest ha ih =>
      rw [decodeUnits_single ha] at h
      have hbits := (isSingle_iff_bits a).1 ha
      exact Grouped.exists_cons (.one hbits.1 hbits.2) (ih h)
    | case3 acc a h1 ha b rest hb ih =>
      rw [decodeUnits_two ha hb, ← addSix_two ha hb] at h
      rw [← addSix_two ha hb] at ih
      exact Grouped.exists_cons (.two ((opensTwo_iff_bits a).1 ha) ((continues_iff_bits b).1 hb)) (ih h)
    | case4 acc a h1 ha b rest hb => simp [decodeUnits, h1, ha, hb] at h
    | case5 acc a h1 ha => simp [decodeUnits, h1, ha] at h
    | case6 acc a h1 h2 ha b c rest hbc n ih =>
      rw [Bool.and_eq_true] at hbc
      rw [decodeUnits_three ha hbc.1 hbc.2, ← addSix_three ha hbc.1 hbc.2] at h
      rw [← addSix_three ha hbc.1 hbc.2] at ih
      exact Grouped.exists_cons (.three ((opensThree_iff_bits a).1 ha)
        ((continues_iff_bits b).1 hbc.1) ((continues_iff_bits c).1 hbc.2)) (ih h)
    | case7 acc a h1 h2 ha b c rest hbc => simp [decodeUnits, h1, h2, ha, hbc] at h
    | case8 acc a rest h1 h2 ha hr =>
      rw [decodeUnits.eq_def] at h
      simp [h1, h2, ha] at h
    | case9 acc a rest h1 h2 ha =>
      rw [decodeUnits.eq_def] at h
      simp [h1, h2, ha] at h
  · rintro ⟨vs, hvs, rfl⟩
    induction hvs generalizing acc with
    | nil => simp [decodeUnits]
    | cons hg _ ih => rw [decodeUnits_group hg, ih]; simp

/-- **What the reader takes, and what it reads**: the groups of the units of the text. -/
theorem decodeText?_eq_some_iff {bs : List UInt8} {s : String} :
    decodeText? bs = some s ↔ Grouped bs (Text.toUnits s.toList) := by
  constructor
  · intro h
    unfold decodeText? at h
    split at h
    · rename_i us hus
      obtain ⟨vs, hvs, rfl⟩ := decodeUnits_eq_some_iff.1 hus
      obtain ⟨cs, hcs, rfl⟩ := Option.map_eq_some_iff.1 h
      rw [String.toList_ofList, Text.toUnits_of_ofUnits? hcs]
      simpa using hvs
    · cases h
  · intro h
    have hus : decodeUnits [] bs = some (Text.toUnits s.toList) :=
      decodeUnits_eq_some_iff.2 ⟨_, h, rfl⟩
    rw [decodeText?, hus]
    simp [Text.ofUnits?_toUnits]

/-- **Which bytes the reader takes**: groups whose units are well paired. -/
theorem exists_decodeText?_iff {bs : List UInt8} :
    (∃ s, decodeText? bs = some s) ↔ ∃ us, Grouped bs us ∧ Text.Paired us := by
  constructor
  · rintro ⟨s, h⟩
    exact ⟨_, decodeText?_eq_some_iff.1 h, Text.exists_ofUnits?_iff.1 ⟨_, Text.ofUnits?_toUnits _⟩⟩
  · rintro ⟨us, hus, hpaired⟩
    obtain ⟨cs, hcs⟩ := Text.exists_ofUnits?_iff.2 hpaired
    refine ⟨.ofList cs, decodeText?_eq_some_iff.2 ?_⟩
    rwa [String.toList_ofList, Text.toUnits_of_ofUnits? hcs]

/-! ### The shortest groups -/

theorem length_encodeUnit_le_two {u : UInt16} (h : u.toNat < 0x800) :
    (encodeUnit u).length ≤ 2 := by
  by_cases h1 : 1 ≤ u.toNat ∧ u.toNat < 0x80
  · simp [encodeUnit_one h1]
  · simp [encodeUnit_two h1 h]

theorem Group.bounds {g : List UInt8} {u : UInt16} (h : Group g u) : ∀ b ∈ g, b ≠ 0 ∧ b < 0xF0 := by
  have hbyte : ∀ b : UInt8, 1 ≤ b.toNat ∧ b.toNat < 0xF0 → b ≠ 0 ∧ b < 0xF0 := by
    intro b hb
    refine ⟨fun h0 => ?_, UInt8.lt_iff_toNat_lt.2 hb.2⟩
    rw [h0] at hb
    exact absurd hb.1 (by decide)
  have hcontinues : ∀ b : UInt8, b &&& 0xC0 = 0x80 → b ≠ 0 ∧ b < 0xF0 := by
    intro b hb
    have := continues_iff.1 ((continues_iff_bits b).2 hb)
    exact hbyte b (by omega)
  cases h with
  | @one a h0 ha =>
    have := isSingle_iff.1 ((isSingle_iff_bits a).2 ⟨h0, ha⟩)
    simpa using hbyte a (by omega)
  | @two a b ha hb =>
    have := opensTwo_iff.1 ((opensTwo_iff_bits a).2 ha)
    simpa using ⟨hbyte a (by omega), hcontinues b hb⟩
  | @three a b c ha hb hc =>
    have := opensThree_iff.1 ((opensThree_iff_bits a).2 ha)
    simpa using ⟨hbyte a (by omega), hcontinues b hb, hcontinues c hc⟩

/-- A group is as short as the writer's, or it is the writer's. -/
theorem Group.longer_or_eq {g : List UInt8} {u : UInt16} (h : Group g u) :
    (encodeUnit u).length < g.length ∨ g = encodeUnit u := by
  cases h with
  | @one a h0 ha =>
    have ha := isSingle_iff.1 ((isSingle_iff_bits a).2 ⟨h0, ha⟩)
    right
    rw [encodeUnit_one (by simpa using ha)]
    simp
  | @two a b ha hb =>
    rw [← opensTwo_iff_bits] at ha
    rw [← continues_iff_bits] at hb
    rw [addSix_two ha hb]
    rw [opensTwo_iff] at ha
    rw [continues_iff] at hb
    generalize hn : (a.toNat - 0xC0) * 64 + (b.toNat - 0x80) = n
    have hu : n.toUInt16.toNat = n := Text.toNat_toUInt16 (by omega)
    by_cases h1 : 1 ≤ n ∧ n < 0x80
    · left
      rw [encodeUnit_one (by rwa [hu])]
      exact Nat.lt_succ_self 1
    · right
      have hlead : 0xC0 + n / 64 = a.toNat := by omega
      have hlast : 0x80 + n % 64 = b.toNat := by omega
      rw [encodeUnit_two (by rwa [hu]) (by omega), hu, hlead, hlast]
      simp
  | @three a b c ha hb hc =>
    rw [← opensThree_iff_bits] at ha
    rw [← continues_iff_bits] at hb hc
    rw [addSix_three ha hb hc]
    rw [opensThree_iff] at ha
    rw [continues_iff] at hb hc
    generalize hn : (a.toNat - 0xE0) * 4096 + (b.toNat - 0x80) * 64 + (c.toNat - 0x80) = n
    have hu : n.toUInt16.toNat = n := Text.toNat_toUInt16 (by omega)
    by_cases h2 : n < 0x800
    · left
      exact Nat.lt_succ_of_le (length_encodeUnit_le_two (by rwa [hu]))
    · right
      have hlead : 0xE0 + n / 4096 = a.toNat := by omega
      have hmiddle : 0x80 + n / 64 % 64 = b.toNat := by omega
      have hlast : 0x80 + n % 64 = c.toNat := by omega
      rw [encodeUnit_three (by omega) (by rwa [hu]), hu, hlead, hmiddle, hlast]
      simp

/-- Groups are more bytes than the writer writes for their units, or they are what it writes. -/
theorem Grouped.longer_or_eq {bs : List UInt8} {us : List UInt16} (h : Grouped bs us) :
    (us.flatMap encodeUnit).length < bs.length ∨ bs = us.flatMap encodeUnit := by
  induction h with
  | nil => exact Or.inr rfl
  | cons hg _ ih =>
    rw [List.flatMap_cons, List.length_append, List.length_append]
    rcases hg.longer_or_eq with hlt | rfl
    · left
      rcases ih with hlt' | rfl <;> omega
    · rcases ih with hlt' | rfl
      · exact Or.inl (by omega)
      · exact Or.inr rfl

theorem Grouped.bounds {bs : List UInt8} {us : List UInt16} (h : Grouped bs us) :
    ∀ b ∈ bs, b ≠ 0 ∧ b < 0xF0 := by
  induction h with
  | nil => simp
  | cons hg _ ih =>
    intro b hb
    rcases List.mem_append.1 hb with hb | hb
    · exact hg.bounds b hb
    · exact ih b hb

/-- **Writing is shortest**: bytes that are read as a text are more than those of its encoding, or
they are its encoding. -/
theorem encodeText_shorter_or_eq {bs : List UInt8} {s : String} (h : decodeText? bs = some s) :
    (encodeText s).length < bs.length ∨ bs = encodeText s :=
  (decodeText?_eq_some_iff.1 h).longer_or_eq

theorem length_encodeText_le {bs : List UInt8} {s : String} (h : decodeText? bs = some s) :
    (encodeText s).length ≤ bs.length := by
  rcases encodeText_shorter_or_eq h with hlt | rfl
  · exact Nat.le_of_lt hlt
  · exact Nat.le_refl _

theorem length_le_encodeText (s : String) : s.toList.length ≤ (encodeText s).length := by
  have hunit : ∀ u, 1 ≤ (encodeUnit u).length := by
    intro u
    unfold encodeUnit
    dsimp only
    split
    · simp
    · split <;> simp
  have hchar : ∀ c, 1 ≤ ((Text.charUnits c).flatMap encodeUnit).length := by
    intro c
    unfold Text.charUnits
    dsimp only
    split
    · rw [List.flatMap_singleton]
      exact hunit _
    · rw [List.flatMap_cons, List.length_append]
      exact Nat.le_add_right_of_le (hunit _)
  unfold encodeText
  induction s.toList with
  | nil => exact Nat.zero_le _
  | cons c cs ih =>
    have := hchar c
    rw [Text.toUnits, List.flatMap_cons, List.flatMap_append, List.length_append, List.length_cons]
    rw [Text.toUnits] at ih
    omega

/-! ### One encoding for each text -/

/-- **The encoding of a text is canonical.** It is read back as the text and holds neither a zero byte nor one that
begins with four ones. The reader takes just the groups of bytes whose units are well paired, and reads them as
the text that has these units. Of all bytes that are read as a text its encoding is the shortest, and there is no
other of its length. -/
theorem encodeText_canonical :
    (∀ s, decodeText? (encodeText s) = some s ∧ ∀ b ∈ encodeText s, b ≠ 0 ∧ b < 0xF0) ∧
    (∀ bs, (∃ s, decodeText? bs = some s) ↔ ∃ us, Grouped bs us ∧ Text.Paired us) ∧
    (∀ bs s, decodeText? bs = some s ↔ Grouped bs (Text.toUnits s.toList)) ∧
    ∀ bs s, decodeText? bs = some s →
      (encodeText s).length ≤ bs.length ∧
        ((encodeText s).length = bs.length → bs = encodeText s) := by
  refine ⟨fun s => ⟨decodeText?_encodeText s, ?_⟩, fun bs => exists_decodeText?_iff,
    fun bs s => decodeText?_eq_some_iff, fun bs s h => ⟨length_encodeText_le h, fun heq => ?_⟩⟩
  · exact (decodeText?_eq_some_iff.1 (decodeText?_encodeText s)).bounds
  · rcases encodeText_shorter_or_eq h with hlt | hbs
    · omega
    · exact hbs

/-- A letter in two bytes where one is enough, before a zero and a pair of surrogates. -/
def overlongBytes : List UInt8 :=
  [0xC1, 0x81, 0xC0, 0x80, 0xED, 0xA0, 0xBD, 0xED, 0xB8, 0x80]

theorem encodeText_canonical_overlong :
    decodeText? overlongBytes = some "A\x00😀" ∧
      (encodeText "A\x00😀").length < overlongBytes.length := by
  have h : decodeText? overlongBytes = some "A\x00😀" := by decide
  obtain ⟨hle, heq⟩ := encodeText_canonical.2.2.2 _ _ h
  exact ⟨h, Nat.lt_of_le_of_ne hle fun hlength => absurd (heq hlength) (by decide)⟩

end TypedConfig.Module
