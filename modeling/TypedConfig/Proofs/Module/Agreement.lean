import Mathlib.Data.List.Perm.Subperm
import TypedConfig.Module.Factory
import TypedConfig.Proofs.Module.Activation
import TypedConfig.Proofs.Module.RoundTrip
import TypedConfig.Proofs.Resolution.Resolved

/-!
The two factories agree. The table that is filled directly always exists; the module that is assembled
exists exactly if it fits its format and no accessor is named like the initializer, and is then the same
table under another type name (`produce_agree`).
-/

namespace TypedConfig.Module

open Contract (Accessor Declaration Descriptor)
open Resolution (Binding Resolves)

/-! ### When a module fits its format -/

namespace Contents

variable {m : Contents} {l : Layout}

/-- The count that the pool of a module would be given. -/
def poolCount (m : Contents) : Nat := (Pool.ofList m.constants).places + 3

/-- The texts in the pool of a module. -/
def poolTexts (m : Contents) : List String := (Pool.ofList m.constants).texts.toList

/-- Whether the pool of a module can be written. -/
def FitsFormat (m : Contents) : Prop :=
  m.poolCount ≤ maxShort ∧ ∀ s ∈ m.poolTexts, (encodeText s).length ≤ maxShort

/-- Accessors of distinct names can always be counted: each has its name in the pool. -/
theorem length_slots_lt (hl : m.layout = .ok l) (hnodup : (m.slots.map Slot.name).Nodup) :
    m.slots.length + 1 ≤ maxShort := by
  have hsub : m.slots.map Slot.name ⊆ l.pool.texts.toList := by
    intro n hn
    obtain ⟨s, hs, rfl⟩ := List.mem_map.1 hn
    have hc : Constant.text s.name ∈ m.constants := by
      rw [constants, List.mem_append, List.mem_flatMap]
      exact Or.inr ⟨s, hs, by simp [Slot.constants]⟩
    exact holds_of_layout hl hc
  have hlen := (List.subperm_of_subset hnodup hsub).length_le
  have hfits := l.fits
  rw [List.length_map, Distinct.length_toList] at hlen
  simp only [Pool.places] at hfits
  omega

theorem exists_assemble_iff_fitsFormat (hnodup : (m.slots.map Slot.name).Nodup) :
    (∃ bytes, m.assemble = .ok bytes) ↔ m.FitsFormat := by
  rw [exists_assemble_iff]
  constructor
  · rintro ⟨hl, -⟩
    exact Pool.exists_freeze_iff.1 hl
  · intro h
    obtain ⟨l, hl⟩ := Pool.exists_freeze_iff.2 h
    exact ⟨⟨l, hl⟩, length_slots_lt hl hnodup⟩

/-- Accessors of distinct names fail to be assembled for the size of their pool or of a text only. -/
theorem of_assemble_eq_error {e : BuildError} (hnodup : (m.slots.map Slot.name).Nodup)
    (h : m.assemble = .error e) : (∃ n, e = .poolOverflow n) ∨ ∃ n, e = .textTooLong n := by
  cases hl : m.layout with
  | error e' =>
    rw [assemble_of_layout_eq_error hl] at h
    cases h
    exact Pool.freeze_eq_error hl
  | ok l =>
    obtain ⟨bytes, -, -, hok, -⟩ := exists_assemble hl (length_slots_lt hl hnodup)
    rw [hok] at h
    cases h

/-- A module with a text value of more characters than a text of the pool has bytes does not fit. -/
theorem not_fitsFormat_of_long {s : Slot} {text : String} (hs : s ∈ m.slots)
    (hv : s.value = .text text) (hlen : maxShort < text.toList.length) : ¬ m.FitsFormat := by
  rintro ⟨-, htexts⟩
  have hc : Constant.string text ∈ m.constants := by
    rw [constants, List.mem_append, List.mem_flatMap]
    exact Or.inr ⟨s, hs, by simp [Slot.constants, hv, constantOf?]⟩
  have hheld := Pool.closed_ofList m.constants text (Or.inr (Pool.holds_of_mem hc))
  have hle := htexts text hheld
  have := length_le_encodeText text
  omega

end Contents

/-! ### The module of a binding -/

section Produce

variable {d : Descriptor} {b : Binding}

theorem matches_slotsOf (hb : b.Of d) : List.Forall₂ Slot.Matches (slotsOf b) d.accessors := by
  rw [slotsOf, List.forall₂_map_left_iff]
  exact hb.accessors.flip.imp fun r a h => ⟨h.name, Scalar.kind_of_convert h.value⟩

theorem names_slotsOf (hb : b.Of d) :
    (slotsOf b).map Slot.name = d.accessors.map Accessor.name := by
  have h := matches_slotsOf hb
  generalize slotsOf b = slots at h ⊢
  generalize d.accessors = accessors at h ⊢
  induction h with
  | nil => rfl
  | cons hm _ ih => rw [List.map_cons, List.map_cons, hm.name, ih]

/-- Making a module: it is assembled, and what was assembled is activated. -/
theorem produce_bytecode_of_ok {bytes : List UInt8} (k : Nat)
    (h : (contentsOf (synthesizedName d.typeName k) d b).assemble = .ok bytes) :
    (Factory.bytecode.produce k d b).2 =
      Assembled.load ⟨synthesizedName d.typeName k, bytes⟩ d := by
  simp only [Factory.produce, assembleFor, h]

theorem produce_bytecode_of_error {e : BuildError} (k : Nat)
    (h : (contentsOf (synthesizedName d.typeName k) d b).assemble = .error e) :
    (Factory.bytecode.produce k d b).2 = .error (.build e) := by
  simp only [Factory.produce, assembleFor, h]

/-- The error of a module that does not fit its format, or of an accessor that takes the name of the
initializer. -/
def ModuleError.IsExpected (e : ModuleError) : Prop :=
  (∃ n, e = .build (.poolOverflow n)) ∨ (∃ n, e = .build (.textTooLong n)) ∨
    ∃ code, e = .activation (.badInitializer code)

theorem produce_bytecode_cases (hb : b.Of d) (hnodup : (d.accessors.map Accessor.name).Nodup)
    (k : Nat) :
    (((∀ a ∈ d.accessors, a.name ≠ initName) ∧
        (contentsOf (synthesizedName d.typeName k) d b).FitsFormat) ∧
      (Factory.bytecode.produce k d b).2 =
        .ok ⟨synthesizedName d.typeName k, d.typeName, slotsOf b⟩) ∨
    (¬ ((∀ a ∈ d.accessors, a.name ≠ initName) ∧
        (contentsOf (synthesizedName d.typeName k) d b).FitsFormat) ∧
      ∃ e, (Factory.bytecode.produce k d b).2 = .error e ∧ e.IsExpected) := by
  generalize hm : contentsOf (synthesizedName d.typeName k) d b = m
  have hslots : m.slots = slotsOf b := by rw [← hm]; rfl
  have hnames : m.slots.map Slot.name = d.accessors.map Accessor.name :=
    hslots ▸ names_slotsOf hb
  have hnodup : (m.slots.map Slot.name).Nodup := hnames ▸ hnodup
  have hinit : (∀ a ∈ d.accessors, a.name ≠ initName) ↔ initName ∉ m.slots.map Slot.name := by
    simp [hnames]
  rw [hinit, ← Contents.exists_assemble_iff_fitsFormat hnodup]
  cases hassemble : m.assemble with
  | error e =>
    right
    refine ⟨by simp, _, produce_bytecode_of_error k (hm ▸ hassemble), ?_⟩
    rcases Contents.of_assemble_eq_error hnodup hassemble with ⟨n, rfl⟩ | ⟨n, rfl⟩
    · exact Or.inl ⟨n, rfl⟩
    · exact Or.inr (Or.inl ⟨n, rfl⟩)
  | ok bytes =>
    rw [produce_bytecode_of_ok k (hm ▸ hassemble), Assembled.load]
    by_cases hmem : initName ∈ m.slots.map Slot.name
    · obtain ⟨code, hparse⟩ := Contents.parse_eq_badInitializer hassemble hnodup hmem
      right
      refine ⟨fun h => h.1 hmem, .activation (.badInitializer code), ?_, Or.inr (Or.inr ⟨code, rfl⟩)⟩
      rw [activate_eq_error d hparse]
    · left
      have hparse := Contents.parse_eq_ok hassemble hnodup hmem
      have hactivate := activate_eq_ok hparse (by rw [← hm]; rfl) (hslots ▸ matches_slotsOf hb) hnodup
      refine ⟨⟨hmem, bytes, rfl⟩, ?_⟩
      rw [hactivate, hslots, ← hm]
      rfl

theorem produce_bytecode_of_long {a : Resolution.ResolvedAccessor} {text : String} (hb : b.Of d)
    (hnodup : (d.accessors.map Accessor.name).Nodup) (ha : a ∈ b.accessors)
    (hv : a.value = .text text) (hlen : maxShort < text.toList.length) (k : Nat) :
    ∃ e, (Factory.bytecode.produce k d b).2 = .error e := by
  have hslot : (⟨a.name, a.value⟩ : Slot) ∈ slotsOf b := List.mem_map.2 ⟨a, ha, rfl⟩
  have hlong := Contents.not_fitsFormat_of_long
    (m := contentsOf (synthesizedName d.typeName k) d b) hslot hv hlen
  rcases produce_bytecode_cases hb hnodup k with ⟨hfits, -⟩ | ⟨-, e, herror, -⟩
  · exact absurd hfits.2 hlong
  · exact ⟨e, herror⟩

/-- **The two factories agree.** For a binding that was resolved for a checked contract, the table is
always filled. The module is made if and only if no accessor is named like the initializer and the
module fits its format; it then has the contract, the accessors and the values of the table. Otherwise
the pool or a text is too large or the initializer is refused, and nothing else goes wrong. -/
theorem produce_agree {declared : Declaration} (hd : declared.validate = .ok d) {σ : Type}
    {out : Surroundings σ} {settings : Source.Locator} {world : σ} {registry : Watch.Registry}
    (hb : (Resolution.resolve out settings world registry d).1 = .ok b) (j k : Nat) :
    ∃ direct, (Factory.dispatch.produce j d b).2 = .ok direct ∧
      ((∃ loaded, (Factory.bytecode.produce k d b).2 = .ok loaded) ↔
        (∀ a ∈ d.accessors, a.name ≠ initName) ∧
          (contentsOf (synthesizedName d.typeName k) d b).poolCount ≤ 65535 ∧
          ∀ s ∈ (contentsOf (synthesizedName d.typeName k) d b).poolTexts,
            (encodeText s).length ≤ 65535) ∧
      (∀ loaded, (Factory.bytecode.produce k d b).2 = .ok loaded →
        loaded.typeName = synthesizedName d.typeName k ∧ loaded.contract = direct.contract ∧
          loaded.slots = direct.slots ∧
          loaded.slots.map Slot.name = d.accessors.map Accessor.name ∧
          ∀ name, loaded.value? name = direct.value? name) ∧
      ∀ e, (Factory.bytecode.produce k d b).2 = .error e →
        (∃ n, e = .build (.poolOverflow n)) ∨ (∃ n, e = .build (.textTooLong n)) ∨
          ∃ code, e = .activation (.badInitializer code) := by
  have hof := Resolution.of_resolve hb
  refine ⟨tableOf d b, rfl, ?_⟩
  rcases produce_bytecode_cases hof (Contract.nodup_names_of_validate hd) k with
    ⟨hfits, hok⟩ | ⟨hfits, e, herror, hexpected⟩
  · rw [hok]
    refine ⟨⟨fun _ => hfits, fun _ => ⟨_, rfl⟩⟩, ?_, by simp⟩
    rintro loaded ⟨⟩
    exact ⟨rfl, rfl, rfl, names_slotsOf hof, fun name => rfl⟩
  · rw [herror]
    refine ⟨⟨by simp, fun h => absurd h hfits⟩, by simp, ?_⟩
    rintro e ⟨⟩
    exact hexpected

/-- A contract with a character, a number that defaults to a negative zero, and an accessor that shares
its name with the label of every code block. -/
def mixedDeclaration : Declaration :=
  ⟨"app::Mixed", true, some "mixed.properties",
    [⟨"letter", "char", some "letter", some "x", 0⟩, ⟨"ratio", "f32", some "ratio", some "-0", 0⟩,
      ⟨"Code", "&str", some "code", some "none", 0⟩]⟩

def mixedDescriptor : Descriptor :=
  ⟨"app::Mixed", "mixed.properties",
    [⟨"letter", .char, "letter", "x"⟩, ⟨"ratio", .float32, "ratio", "-0"⟩,
      ⟨"Code", .text, "code", "none"⟩]⟩

/-- What the contract is bound to by a file that leaves the number out. -/
def mixedBinding : Binding :=
  ⟨"app::Mixed",
    [⟨"letter", .char, "letter", "yz", .char 'y', false⟩,
      ⟨"ratio", .float32, "ratio", "-0", .float32 0x80000000, true⟩,
      ⟨"Code", .text, "code", "a", .text "a", false⟩],
    "letter=yz\nratio=-0\ncode=a\n", some ⟨"mixed.properties"⟩, true, []⟩

/-- A world in which every path leads to one file. -/
def oneFile (text : String) : Surroundings Unit where
  environment _ _ := none
  readText _ _ := .ok text
  canonical _ _ := .ok ⟨[]⟩
  subscribe _ _ := .ok ()
  dump _ _ _ _ := ()

theorem produce_agree_mixed :
    mixedDeclaration.validate = .ok mixedDescriptor ∧
    (Resolution.resolve (oneFile "code=a\nletter=yz\n") .default () .empty mixedDescriptor).1 =
      .ok mixedBinding ∧
    ∃ direct, (Factory.dispatch.produce 1 mixedDescriptor mixedBinding).2 = .ok direct ∧
      ((∃ loaded, (Factory.bytecode.produce 7 mixedDescriptor mixedBinding).2 = .ok loaded) ↔
        (∀ a ∈ mixedDescriptor.accessors, a.name ≠ initName) ∧
          (contentsOf (synthesizedName "app::Mixed" 7) mixedDescriptor mixedBinding).poolCount ≤
            65535 ∧
          ∀ s ∈ (contentsOf (synthesizedName "app::Mixed" 7) mixedDescriptor mixedBinding).poolTexts,
            (encodeText s).length ≤ 65535) ∧
      (∀ loaded, (Factory.bytecode.produce 7 mixedDescriptor mixedBinding).2 = .ok loaded →
        loaded.typeName = "app/Mixed$CG7" ∧ loaded.contract = direct.contract ∧
          loaded.slots = direct.slots ∧ loaded.slots.map Slot.name = ["letter", "ratio", "Code"] ∧
          ∀ name, loaded.value? name = direct.value? name) ∧
      ∀ e, (Factory.bytecode.produce 7 mixedDescriptor mixedBinding).2 = .error e →
        (∃ n, e = .build (.poolOverflow n)) ∨ (∃ n, e = .build (.textTooLong n)) ∨
          ∃ code, e = .activation (.badInitializer code) := by
  have hd : mixedDeclaration.validate = .ok mixedDescriptor := by decide +kernel
  have hb : (Resolution.resolve (oneFile "code=a\nletter=yz\n") .default () .empty
      mixedDescriptor).1 = .ok mixedBinding := by decide +kernel
  exact ⟨hd, hb, produce_agree hd hb 1 7⟩

end Produce

end TypedConfig.Module
