import Mathlib.Data.List.Perm.Basic
import TypedConfig.Proofs.Module.Activation
import TypedConfig.Proofs.Module.Decoding
import TypedConfig.Proofs.Module.Sections
import TypedConfig.Proofs.Resolution.Resolved

/-!
Which modules are accepted for a contract: those that implement its interface and have, in any order, an accessor
of the declared kind for every declaration and no other (`activate_eq_ok_iff`). What is made of them does not
depend on the order of their methods. Of the modules that implement the interface the others are refused for the
first declaration that they do not meet or, where they meet all, for an accessor that is not declared.
-/

namespace TypedConfig.Contract

/-- What a declaration asks of an accessor: its name and its kind. -/
def Accessor.signature (a : Accessor) : String × Scalar.Kind := (a.name, a.kind)

end TypedConfig.Contract

namespace TypedConfig.Module

open Contract (Accessor Declaration Descriptor)

/-- What a slot offers: its name and the kind of its value. -/
def Slot.signature (s : Slot) : String × Scalar.Kind := (s.name, s.value.kind)

theorem Slot.matches_iff {s : Slot} {a : Accessor} : s.Matches a ↔ s.signature = a.signature := by
  constructor
  · intro h
    rw [signature, Accessor.signature, h.name, h.kind]
  · intro h
    exact ⟨congrArg Prod.fst h, congrArg Prod.snd h⟩

/-- A module that implements a contract: its interface is that of the contract, and its slots have the declared
names and kinds in some order. -/
structure Contents.Implements (m : Contents) (d : Descriptor) : Prop where
  interface : m.interface = some (internalName d.typeName)
  slots : (m.slots.map Slot.signature).Perm (d.accessors.map Accessor.signature)

/-- Why a declaration is not met by slots: its name is missing, or it is there with another kind. -/
inductive Misfit (slots : List Slot) (a : Accessor) : ActivationError → Prop where
  | missing (h : ∀ s ∈ slots, s.name ≠ a.name) : Misfit slots a (.missingAccessor a.name)
  | otherKind {s : Slot} (hs : s ∈ slots) (hname : s.name = a.name) (hkind : s.value.kind ≠ a.kind) :
    Misfit slots a (.kindMismatch a.name a.kind s.value.kind)

/-- The error is about the first declaration that is not met. -/
def FirstMisfit (slots : List Slot) (accessors : List Accessor) (e : ActivationError) : Prop :=
  ∃ before a after, accessors = before ++ a :: after ∧
    (∀ b ∈ before, ∃ s ∈ slots, s.Matches b) ∧ Misfit slots a e

/-! ### Matching -/

section Matching

variable {slots left wanted : List Slot} {s : Slot} {a b : Accessor} {accessors : List Accessor}
  {e : ActivationError}

theorem mem_left_of_perm (hp : (s :: left).Perm slots) (hname : s.name = a.name)
    (hab : b.name ≠ a.name) {x : Slot} (hx : x ∈ slots) (hxb : x.name = b.name) : x ∈ left := by
  have hmem := hp.mem_iff.2 hx
  rcases List.mem_cons.1 hmem with rfl | hleft
  · exact absurd (hxb.symm.trans hname) hab
  · exact hleft

theorem Misfit.of_left (h : Misfit left b e) (hp : (s :: left).Perm slots) (hname : s.name = a.name)
    (hab : b.name ≠ a.name) : Misfit slots b e := by
  cases h with
  | missing h =>
    refine .missing fun x hx hxb => ?_
    exact h x (mem_left_of_perm hp hname hab hx hxb) hxb
  | otherKind hs hname' hkind =>
    exact .otherKind (hp.mem_iff.1 (List.mem_cons_of_mem _ hs)) hname' hkind

/-- **What matching comes to**, for distinct names on both sides: all slots in the order of the declarations, or
the first declaration that is not met, or else a slot that is not declared. The induction takes one declaration
and its slot away at a time; as no other declaration has its name, the rest are met by what is left if and only
if they are met by all. -/
theorem matchSlots_cases (hslots : (slots.map Slot.name).Nodup)
    (haccessors : (accessors.map Accessor.name).Nodup) :
    (∃ wanted, matchSlots slots accessors = .ok wanted ∧ wanted.Perm slots ∧
      List.Forall₂ Slot.Matches wanted accessors) ∨
    (∃ e, matchSlots slots accessors = .error e ∧ FirstMisfit slots accessors e) ∨
    ∃ s ∈ slots, matchSlots slots accessors = .error (.unexpectedAccessor s.name) ∧
      s.name ∉ accessors.map Accessor.name ∧ ∀ a ∈ accessors, ∃ s ∈ slots, s.Matches a := by
  induction accessors generalizing slots with
  | nil =>
    cases slots with
    | nil => exact Or.inl ⟨[], rfl, .refl _, .nil⟩
    | cons s slots => exact Or.inr (Or.inr ⟨s, List.mem_cons_self, rfl, by simp, by simp⟩)
  | cons a accessors ih =>
    obtain ⟨ha, haccessors⟩ := List.nodup_cons.1 haccessors
    by_cases hfound : ∃ s ∈ slots, s.name = a.name
    · obtain ⟨s, hs, hname⟩ := hfound
      obtain ⟨left, hp, hmatch⟩ := exists_matchSlots_cons hslots hs hname accessors
      rw [hmatch]
      by_cases hkind : s.value.kind ≠ a.kind
      · rw [if_pos hkind]
        exact Or.inr (Or.inl ⟨_, rfl, [], a, accessors, rfl, by simp, .otherKind hs hname hkind⟩)
      · rw [if_neg hkind]
        have hsa : s.Matches a := ⟨hname, not_not.1 hkind⟩
        have hnames := (hp.map Slot.name).nodup_iff.2 hslots
        obtain ⟨hsleft, hleft⟩ := List.nodup_cons.1 hnames
        have hsub : ∀ x ∈ left, x ∈ slots := fun x hx => hp.mem_iff.1 (List.mem_cons_of_mem _ hx)
        rcases ih hleft haccessors with ⟨wanted, hok, hw, hm⟩ | ⟨e, herror, before, b, after, rfl,
          hbefore, hb⟩ | ⟨x, hx, herror, hnew, hall⟩
        · exact Or.inl ⟨s :: wanted, by rw [hok]; rfl, (hw.cons s).trans hp, .cons hsa hm⟩
        · refine Or.inr (Or.inl ⟨e, by rw [herror]; rfl, a :: before, b, after, rfl, ?_, ?_⟩)
          · refine List.forall_mem_cons.2 ⟨⟨s, hs, hsa⟩, fun c hc => ?_⟩
            obtain ⟨x, hx, hxc⟩ := hbefore c hc
            exact ⟨x, hsub x hx, hxc⟩
          · refine hb.of_left hp hname fun hba => ha ?_
            rw [← hba]
            simp
        · refine Or.inr (Or.inr ⟨x, hsub x hx, by rw [herror]; rfl, ?_, ?_⟩)
          · rw [List.map_cons, List.mem_cons, not_or]
            refine ⟨fun hxa => hsleft ?_, hnew⟩
            rw [hname, ← hxa]
            exact List.mem_map_of_mem hx
          · refine List.forall_mem_cons.2 ⟨⟨s, hs, hsa⟩, fun c hc => ?_⟩
            obtain ⟨y, hy, hyc⟩ := hall c hc
            exact ⟨y, hsub y hy, hyc⟩
    · have hmissing : ∀ s ∈ slots, s.name ≠ a.name := fun s hs h => hfound ⟨s, hs, h⟩
      exact Or.inr (Or.inl ⟨_, matchSlots_cons_of_missing hmissing accessors, [], a, accessors, rfl,
        by simp, .missing hmissing⟩)

theorem signatures_eq_iff : List.Forall₂ Slot.Matches wanted accessors ↔
    wanted.map Slot.signature = accessors.map Accessor.signature := by
  have hmatches : Slot.Matches = fun s a => s.signature = a.signature := by
    funext s a
    exact propext Slot.matches_iff
  rw [hmatches, ← List.forall₂_eq_eq_eq, List.forall₂_map_left_iff, List.forall₂_map_right_iff]

/-- The slots that match are those in the order of the declarations. -/
theorem matchSlots_eq_ok_iff (hslots : (slots.map Slot.name).Nodup)
    (haccessors : (accessors.map Accessor.name).Nodup) :
    matchSlots slots accessors = .ok wanted ↔
      wanted.Perm slots ∧ wanted.map Slot.signature = accessors.map Accessor.signature := by
  constructor
  · intro h
    rcases matchSlots_cases hslots haccessors with ⟨w, hok, hp, hm⟩ | ⟨e, herror, -⟩ |
      ⟨s, -, herror, -⟩
    · obtain rfl : w = wanted := Except.ok.inj (hok.symm.trans h)
      exact ⟨hp, signatures_eq_iff.1 hm⟩
    · rw [herror] at h
      cases h
    · rw [herror] at h
      cases h
  · rintro ⟨hp, hm⟩
    exact matchSlots_eq_ok (signatures_eq_iff.2 hm) ((hp.map Slot.name).nodup_iff.2 hslots) hp.symm

end Matching

/-! ### The order of the methods -/

/-- The second bytes are those of a module with its methods in another order. -/
def Reordered (bytes bytes' : List UInt8) : Prop :=
  ∃ sk front back, ∃ blocks blocks' : List (List UInt8), MethodCut sk front blocks back ∧ blocks'.Perm blocks ∧
    bytes = front ++ (blocks.flatten ++ back) ∧ bytes' = front ++ (blocks'.flatten ++ back)

theorem Reordered.symm {bytes bytes' : List UInt8} (h : Reordered bytes bytes') :
    Reordered bytes' bytes := by
  obtain ⟨sk, front, back, blocks, blocks', hcut, hblocks, hbytes, hbytes'⟩ := h
  obtain ⟨raws, -, hcut'⟩ := hcut.exists_of_perm hblocks
  exact ⟨_, front, back, blocks', blocks, hcut', hblocks.symm, hbytes', hbytes⟩

/-- Every order of the methods of a module is the order of some bytes. -/
theorem exists_reordered {bytes : List UInt8} {sk : Skeleton} {c : Cursor}
    (h : Skeleton.read (.start bytes) = .ok sk c) {raws : List RawMethod}
    (hp : raws.Perm sk.methods) :
    ∃ bytes' d, Reordered bytes bytes' ∧ Skeleton.read (.start bytes') =
      .ok ⟨sk.table, sk.typeName, sk.superIndex, sk.interface, raws⟩ d := by
  obtain ⟨front, blocks, back, hbytes, hcut⟩ := exists_methodCut h
  obtain ⟨blocks', hreads, hblocks⟩ := List.perm_comp_forall₂ hp hcut.blocks.flip
  have hcut' : MethodCut ⟨sk.table, sk.typeName, sk.superIndex, sk.interface, raws⟩ front blocks'
      back := by
    refine ⟨fun rest => ?_, hreads.flip, hcut.back⟩
    rw [hcut.front, ← hp.length_eq]
  obtain ⟨d, hread⟩ := hcut'.exists_read
  exact ⟨_, d, ⟨sk, front, back, blocks, blocks', hcut, hblocks, hbytes, rfl⟩, hread⟩

namespace Contents

variable {bytes bytes' : List UInt8} {p : Contents}

/-- With its methods in another order a module is parsed as before, but for the order of the slots. -/
theorem exists_parse_of_reordered (h : parse bytes = .ok p) (hr : Reordered bytes bytes') :
    ∃ slots, parse bytes' = .ok ⟨p.typeName, p.interface, slots⟩ ∧ slots.Perm p.slots := by
  obtain ⟨sk, front, back, blocks, blocks', hcut, hblocks, rfl, rfl⟩ := hr
  obtain ⟨d, hread⟩ := hcut.exists_read
  obtain ⟨sk', c, hread', htype, hinterface, hdecoded⟩ := parse_eq_ok_iff.1 h
  obtain rfl : sk = sk' := (EStateM.Result.ok.inj (hread.symm.trans hread')).1
  obtain ⟨raws, hraws, hcut'⟩ := hcut.exists_of_perm hblocks
  obtain ⟨slots, hdecoded', hslots⟩ := hdecoded.exists_of_perm hraws
  obtain ⟨d', hread'⟩ := hcut'.exists_read
  exact ⟨slots, parse_eq_ok_iff.2 ⟨_, d', hread', htype, hinterface, hdecoded'⟩, hslots⟩

theorem nodup_names_of_parse (h : parse bytes = .ok p) : (p.slots.map Slot.name).Nodup := by
  obtain ⟨_, _, _, _, _, hdecoded⟩ := parse_eq_ok_iff.1 h
  exact hdecoded.nodup

end Contents

/-! ### Activation -/

section Activation

variable {bytes bytes' : List UInt8} {m p : Contents} {declared : Declaration} {d : Descriptor}
  {loaded : Loaded}

theorem activate_of_interface (h : Contents.parse bytes = .ok m)
    (hinterface : m.interface = some (internalName d.typeName)) :
    activate bytes d = (matchSlots m.slots d.accessors).map fun slots =>
      ⟨m.typeName, d.typeName, slots⟩ := by
  rw [activate, h]
  show (if m.interface ≠ some (internalName d.typeName) then _ else _) = _
  rw [if_neg (by simp [hinterface])]
  cases matchSlots m.slots d.accessors <;> rfl

theorem activate_of_interface_ne (h : Contents.parse bytes = .ok m)
    (hinterface : m.interface ≠ some (internalName d.typeName)) :
    activate bytes d = .error (.interfaceMismatch (internalName d.typeName) m.interface) := by
  rw [activate, h]
  show (if m.interface ≠ some (internalName d.typeName) then _ else _) = _
  rw [if_pos hinterface]

/-- **What a module is activated as**: its slots in the order of the declarations. -/
theorem activate_eq_ok_iff (hnodup : (d.accessors.map Accessor.name).Nodup) :
    activate bytes d = .ok loaded ↔
      ∃ p, Contents.parse bytes = .ok p ∧ p.interface = some (internalName d.typeName) ∧
        loaded.typeName = p.typeName ∧ loaded.contract = d.typeName ∧
        loaded.slots.Perm p.slots ∧
        loaded.slots.map Slot.signature = d.accessors.map Accessor.signature := by
  cases hparse : Contents.parse bytes with
  | error e => simp [activate_eq_error d hparse]
  | ok m =>
    by_cases hinterface : m.interface = some (internalName d.typeName)
    · rw [activate_of_interface hparse hinterface]
      have hiff : ∀ wanted, matchSlots m.slots d.accessors = .ok wanted ↔ wanted.Perm m.slots ∧
          wanted.map Slot.signature = d.accessors.map Accessor.signature :=
        fun _ => matchSlots_eq_ok_iff (Contents.nodup_names_of_parse hparse) hnodup
      constructor
      · intro h
        cases hmatch : matchSlots m.slots d.accessors with
        | error e =>
          rw [hmatch] at h
          cases h
        | ok wanted =>
          rw [hmatch] at h
          cases h
          obtain ⟨hp, hsignatures⟩ := (hiff wanted).1 hmatch
          exact ⟨m, rfl, hinterface, rfl, rfl, hp, hsignatures⟩
      · rintro ⟨p, hp, -, htype, hcontract, hslots, hsignatures⟩
        cases hp
        rw [(hiff loaded.slots).2 ⟨hslots, hsignatures⟩]
        show Except.ok (Loaded.mk m.typeName d.typeName loaded.slots) = .ok loaded
        rw [← htype, ← hcontract]
    · rw [activate_of_interface_ne hparse hinterface]
      constructor
      · intro h
        cases h
      · rintro ⟨p, hp, hp', -⟩
        cases hp
        exact absurd hp' hinterface

/-- The slots can be put into the order of the declarations exactly if they have the declared names and kinds. -/
theorem exists_perm_iff {slots : List Slot} {accessors : List Accessor} :
    (∃ wanted : List Slot, wanted.Perm slots ∧
      wanted.map Slot.signature = accessors.map Accessor.signature) ↔
    (slots.map Slot.signature).Perm (accessors.map Accessor.signature) := by
  have h := congrFun (congrFun (List.eq_map_comp_perm Slot.signature)
    (accessors.map Accessor.signature)) slots
  rw [List.perm_comm, ← h]
  constructor
  · rintro ⟨wanted, hp, hm⟩
    exact ⟨wanted, hm.symm, hp⟩
  · rintro ⟨wanted, hm, hp⟩
    exact ⟨wanted, hp, hm.symm⟩

theorem Loaded.value?_eq_some_iff (hnodup : (loaded.slots.map Slot.name).Nodup) (name : String)
    (v : Scalar.Value) : loaded.value? name = some v ↔ ⟨name, v⟩ ∈ loaded.slots := by
  rw [Loaded.value?, Option.map_eq_some_iff]
  constructor
  · rintro ⟨s, hs, rfl⟩
    obtain rfl : s.name = name := by simpa using List.find?_some hs
    exact List.mem_of_find?_eq_some hs
  · intro hmem
    have hsome : (loaded.slots.find? fun s => s.name == name).isSome :=
      List.find?_isSome.2 ⟨_, hmem, by simp⟩
    obtain ⟨s, hs⟩ := Option.isSome_iff_exists.1 hsome
    have hname : s.name = name := by simpa using List.find?_some hs
    have heq := List.inj_on_of_nodup_map hnodup (List.mem_of_find?_eq_some hs) hmem hname
    exact ⟨s, hs, by rw [heq]⟩

theorem Loaded.isSome_value?_iff (name : String) :
    (loaded.value? name).isSome ↔ name ∈ loaded.slots.map Slot.name := by
  simp [Loaded.value?, List.find?_isSome]

theorem names_of_signatures {slots : List Slot} {accessors : List Accessor}
    (h : slots.map Slot.signature = accessors.map Accessor.signature) :
    slots.map Slot.name = accessors.map Accessor.name := by
  have := congrArg (List.map Prod.fst) h
  simpa [Slot.signature, Accessor.signature, Function.comp_def] using this

/-- What is loaded for a contract from a module: the slots of the module in the order of the declarations, which
answer for the declared names and for no other. -/
structure Loaded.Arranges (loaded : Loaded) (p : Contents) (d : Descriptor) : Prop where
  typeName : loaded.typeName = p.typeName
  contract : loaded.contract = d.typeName
  slots : loaded.slots.Perm p.slots
  declared : loaded.slots.map Slot.signature = d.accessors.map Accessor.signature
  value : ∀ name v, loaded.value? name = some v ↔ ⟨name, v⟩ ∈ p.slots
  answers : ∀ name, (loaded.value? name).isSome ↔ name ∈ d.accessors.map Accessor.name

theorem exists_arranges_of_activate (hnodup : (d.accessors.map Accessor.name).Nodup)
    (h : activate bytes d = .ok loaded) :
    ∃ p, Contents.parse bytes = .ok p ∧ loaded.Arranges p d := by
  obtain ⟨p, hp, -, htype, hcontract, hslots, hsignatures⟩ := (activate_eq_ok_iff hnodup).1 h
  have hnames := names_of_signatures hsignatures
  refine ⟨p, hp, htype, hcontract, hslots, hsignatures, fun name v => ?_, fun name => ?_⟩
  · rw [Loaded.value?_eq_some_iff (hnames ▸ hnodup), hslots.mem_iff]
  · rw [Loaded.isSome_value?_iff, hnames]

theorem activate_of_reordered (hnodup : (d.accessors.map Accessor.name).Nodup)
    (hr : Reordered bytes bytes') (h : activate bytes d = .ok loaded) :
    activate bytes' d = .ok loaded := by
  obtain ⟨p, hp, hinterface, htype, hcontract, hslots, hsignatures⟩ :=
    (activate_eq_ok_iff hnodup).1 h
  obtain ⟨slots, hp', hperm⟩ := Contents.exists_parse_of_reordered hp hr
  exact (activate_eq_ok_iff hnodup).2
    ⟨_, hp', hinterface, htype, hcontract, hslots.trans hperm.symm, hsignatures⟩

theorem exists_activate_iff (hnodup : (d.accessors.map Accessor.name).Nodup) :
    (∃ loaded, activate bytes d = .ok loaded) ↔
      ∃ p, Contents.parse bytes = .ok p ∧ p.Implements d := by
  constructor
  · rintro ⟨loaded, h⟩
    obtain ⟨p, hp, hinterface, -, -, hslots, hsignatures⟩ := (activate_eq_ok_iff hnodup).1 h
    exact ⟨p, hp, hinterface, exists_perm_iff.1 ⟨_, hslots, hsignatures⟩⟩
  · rintro ⟨p, hp, hinterface, hperm⟩
    obtain ⟨wanted, hslots, hsignatures⟩ := exists_perm_iff.2 hperm
    exact ⟨⟨p.typeName, d.typeName, wanted⟩, (activate_eq_ok_iff hnodup).2
      ⟨p, hp, hinterface, rfl, rfl, hslots, hsignatures⟩⟩

/-- **Activation accepts exactly the modules of its contract.** A module is activated if and only if it is parsed
and implements the contract. It is then loaded with its slots in the order of the declarations, and alike for
every order of its methods. A module of the interface that is not activated is refused for the first declaration
that it does not meet, and only if it meets all for a slot that is not declared. -/
theorem activate_iff_implements (hd : declared.validate = .ok d) (bytes : List UInt8) :
    ((∃ loaded, activate bytes d = .ok loaded) ↔
      ∃ p, Contents.parse bytes = .ok p ∧ p.Implements d) ∧
    (∀ loaded, activate bytes d = .ok loaded →
      ∃ p, Contents.parse bytes = .ok p ∧ loaded.Arranges p d) ∧
    (∀ bytes' loaded, Reordered bytes bytes' →
      (activate bytes' d = .ok loaded ↔ activate bytes d = .ok loaded)) ∧
    ∀ p e, Contents.parse bytes = .ok p → p.interface = some (internalName d.typeName) →
      activate bytes d = .error e →
        FirstMisfit p.slots d.accessors e ∨
        (∀ a ∈ d.accessors, ∃ s ∈ p.slots, s.Matches a) ∧
          ∃ s ∈ p.slots, s.name ∉ d.accessors.map Accessor.name ∧ e = .unexpectedAccessor s.name := by
  have hnodup := Contract.nodup_names_of_validate hd
  refine ⟨exists_activate_iff hnodup, fun loaded h => exists_arranges_of_activate hnodup h, ?_, ?_⟩
  · intro bytes' loaded hr
    exact ⟨activate_of_reordered hnodup hr.symm, activate_of_reordered hnodup hr⟩
  · intro p e hp hinterface h
    rw [activate_of_interface hp hinterface] at h
    rcases matchSlots_cases (Contents.nodup_names_of_parse hp) hnodup with ⟨w, hok, -⟩ |
      ⟨e', herror, hfirst⟩ | ⟨s, hs, herror, hnew, hall⟩
    · rw [hok] at h
      cases h
    · rw [herror] at h
      cases h
      exact Or.inl hfirst
    · rw [herror] at h
      cases h
      exact Or.inr ⟨hall, s, hs, hnew, rfl⟩

/-- A contract that the module with the payload of a NaN implements, in another order. -/
def nanDeclaration : Declaration :=
  ⟨"a::B", true, some "b.properties",
    [⟨"y", "bool", some "y", some "true", 0⟩, ⟨"Code", "f64", some "code", some "-0", 0⟩,
      ⟨"x", "f32", some "x", some "NaN", 0⟩]⟩

def nanDescriptor : Descriptor :=
  ⟨"a::B", "b.properties",
    [⟨"y", .bool, "y", "true"⟩, ⟨"Code", .float64, "code", "-0"⟩, ⟨"x", .float32, "x", "NaN"⟩]⟩

theorem activate_iff_implements_nanModule :
    nanDeclaration.validate = .ok nanDescriptor ∧ Contents.nanModule.Implements nanDescriptor ∧
    ∃ bytes, Contents.nanModule.assemble = .ok bytes ∧
      Contents.parse bytes = .ok Contents.nanModule ∧
      ((∃ loaded, activate bytes nanDescriptor = .ok loaded) ↔
        ∃ p, Contents.parse bytes = .ok p ∧ p.Implements nanDescriptor) ∧
      (∀ loaded, activate bytes nanDescriptor = .ok loaded →
        ∃ p, Contents.parse bytes = .ok p ∧ loaded.Arranges p nanDescriptor) ∧
      (∀ bytes' loaded, Reordered bytes bytes' →
        (activate bytes' nanDescriptor = .ok loaded ↔ activate bytes nanDescriptor = .ok loaded)) ∧
      ∀ p e, Contents.parse bytes = .ok p → p.interface = some (internalName "a::B") →
        activate bytes nanDescriptor = .error e →
          FirstMisfit p.slots nanDescriptor.accessors e ∨
          (∀ a ∈ nanDescriptor.accessors, ∃ s ∈ p.slots, s.Matches a) ∧
            ∃ s ∈ p.slots, s.name ∉ ["y", "Code", "x"] ∧ e = .unexpectedAccessor s.name := by
  have hd : nanDeclaration.validate = .ok nanDescriptor := by decide +kernel
  have himplements : Contents.nanModule.Implements nanDescriptor := by
    constructor
    · decide +kernel
    · decide +kernel
  obtain ⟨bytes, hbytes⟩ : ∃ bytes, Contents.nanModule.assemble = .ok bytes := ⟨_, rfl⟩
  have hparse := Contents.parse_eq_ok hbytes (by decide) (by decide)
  exact ⟨hd, himplements, bytes, hbytes, hparse, activate_iff_implements hd bytes⟩

end Activation

end TypedConfig.Module
