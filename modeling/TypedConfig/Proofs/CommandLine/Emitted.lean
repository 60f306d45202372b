import TypedConfig.CommandLine.Run
import TypedConfig.Proofs.Contract.Declared
import TypedConfig.Proofs.Module.Agreement
import TypedConfig.Proofs.Module.Names

/-!
Emitted modules and their decoding. A module that has been emitted is read back with the accessors that it
was emitted with, but the contract that it is found to implement is the one that its interface name reads
as. So it is accepted for the contract that it was emitted for exactly if the contract's name has no point
and no slash (`decode_emit_iff`).
-/

namespace TypedConfig.CommandLine

open Contract (AccessorDeclaration Declaration Descriptor)
open Resolution (Binding)
open TypedConfig.Module (Contents Loaded Slot contractName internalName slotsOf synthesizedName)

variable {o : Outside} {name : String} {source : Option Path} {specs : List String}
  {d : Descriptor} {b : Binding} {bytes : List UInt8} {effect : Effect}

/-- A slot that answers a declared accessor: it has its name and a value of its kind. -/
structure Answers (s : Slot) (a : AccessorDeclaration) : Prop where
  name : s.name = a.name
  kind : Scalar.Kind.ofTypeName? a.returnType = some s.value.kind

theorem of_contractOf (h : contractOf name source specs = .ok d) :
    ∃ declared, accessorsOf specs = .ok declared ∧ d.typeName = name ∧
      List.Forall₂ Contract.Declares declared d.accessors ∧
      (d.accessors.map Contract.Accessor.name).Nodup := by
  unfold contractOf at h
  split at h
  · cases h
  · rename_i declared hdeclared
    split at h
    · rename_i d' hvalid
      cases h
      have hof := Contract.of_validate hvalid
      exact ⟨declared, hdeclared, hof.typeName, hof.accessors,
        Contract.nodup_names_of_validate hvalid⟩
    · cases h

theorem of_bindingOf (h : bindingOf o source d = .ok b) : b.Of d := by
  unfold bindingOf at h
  dsimp only at h
  generalize (if source.isNone then { o with readText := fun _ => .ok "" } else o) = o' at h
  split at h
  · rename_i b' hb
    cases h
    exact Resolution.of_resolve hb
  · cases h

theorem answers_slotsOf {declared : List AccessorDeclaration}
    (hd : List.Forall₂ Contract.Declares declared d.accessors) (hb : b.Of d) :
    List.Forall₂ Answers (slotsOf b) declared := by
  have hmatches := Module.matches_slotsOf hb
  generalize slotsOf b = slots at hmatches ⊢
  generalize d.accessors = accessors at hd hmatches
  induction hd generalizing slots with
  | nil =>
    cases hmatches
    exact .nil
  | cons h _ ih =>
    cases hmatches with
    | cons hm hrest => exact .cons ⟨hm.name.trans h.name, hm.kind ▸ h.kind⟩ (ih _ hrest)

/-- The bytes that are handed out are the assembled module of the binding. -/
theorem assemble_of_moduleOf (h : moduleOf d b = .ok bytes) :
    (Module.contentsOf (synthesizedName d.typeName 1) d b).assemble = .ok bytes ∧
      ∃ loaded, Module.activate bytes d = .ok loaded := by
  unfold moduleOf at h
  split at h
  · cases h
  · rename_i m hm
    split at h
    · cases h
    · rename_i loaded hload
      cases h
      unfold Module.assembleFor at hm
      dsimp only at hm
      split at hm
      · rename_i bytes hbytes
        cases hm
        refine ⟨hbytes, loaded, ?_⟩
        unfold Module.Assembled.load at hload
        split at hload
        · rename_i l hl
          cases hload
          exact hl
        · cases hload
      · cases hm

theorem parse_of_moduleOf (h : moduleOf d b = .ok bytes) :
    Contents.parse bytes = .ok (Module.contentsOf (synthesizedName d.typeName 1) d b) := by
  obtain ⟨hassemble, loaded, hactivate⟩ := assemble_of_moduleOf h
  cases hparse : Contents.parse bytes with
  | error e =>
    rw [Module.activate_eq_error d hparse] at hactivate
    cases hactivate
  | ok p => rw [(Contents.parse_assemble hassemble).2 p hparse]

/-- What is left to be done with the bytes of a module. -/
def delivery (out : Option Path) (bytes : List UInt8) : Effect :=
  match out with
  | some path => .write path bytes
  | none => .print (hexDump bytes)

/-- Emitting comes to a binding of the contract, and the bytes of its module are to be delivered. -/
theorem of_emit {out : Option Path} (h : (emit o name source specs out).result = .ok effect) :
    ∃ d b bytes, contractOf name source specs = .ok d ∧ bindingOf o source d = .ok b ∧
      moduleOf d b = .ok bytes ∧ effect = delivery out bytes := by
  unfold emit at h
  split at h
  · cases h
  · rename_i d hd
    split at h
    · cases h
    · rename_i b hb
      cases hm : moduleOf d b with
      | error e =>
        rw [hm] at h
        cases h
      | ok bytes =>
        rw [hm] at h
        cases h
        exact ⟨d, b, bytes, hd, hb, hm, by cases out <;> rfl⟩

/-- The dispatch table that is found in a module emitted for a contract. -/
def tableIn (name : String) (slots : List Slot) : Loaded :=
  ⟨synthesizedName name 1, contractName (internalName name), slots⟩

/-- A module that has been handed out is decoded by the contract that its interface name reads as. -/
theorem loadedOf_of_moduleOf (h : moduleOf d b = .ok bytes) (expected : String) :
    loadedOf bytes (some expected) =
      if contractName (internalName d.typeName) = expected then .ok (tableIn d.typeName (slotsOf b))
      else .error (.wrongContract (contractName (internalName d.typeName)) expected) := by
  have hinspect : Module.inspect bytes = .ok (tableIn d.typeName (slotsOf b)) := by
    rw [Module.inspect, parse_of_moduleOf h]
    rfl
  rw [loadedOf, hinspect]
  rfl

/-- **A module that was emitted for a contract is accepted for it exactly if the contract's name has no
point and no slash.** The emitted bytes hold a slot for each accessor of the short forms, in their order,
of its name and kind and with the value that it was bound to. Where they are accepted these slots are
listed; else the module is said to implement the contract that its interface name reads as. -/
theorem decode_emit_iff {file : Path}
    (h : (emit o name source specs (some file)).result = .ok effect) :
    ∃ declared d b bytes, accessorsOf specs = .ok declared ∧ contractOf name source specs = .ok d ∧
      bindingOf o source d = .ok b ∧ List.Forall₂ Answers (slotsOf b) declared ∧
      effect = .write file bytes ∧
      ∀ o' json, o'.readBytes file = .ok bytes →
        ((∃ effect', (decode o' file (some name) json).result = .ok effect') ↔
          '.' ∉ name.toList ∧ '/' ∉ name.toList) ∧
        (∀ effect', (decode o' file (some name) json).result = .ok effect' →
          effect' = .print ((if json then jsonListing else listing)
            ⟨synthesizedName name 1, name, slotsOf b⟩)) ∧
        ∀ e, (decode o' file (some name) json).result = .error e →
          e = .wrongContract (contractName (internalName name)) name := by
  obtain ⟨d, b, bytes, hd, hb, hm, rfl⟩ := of_emit h
  obtain ⟨declared, hdeclared, hname, haccessors, -⟩ := of_contractOf hd
  refine ⟨declared, d, b, bytes, hdeclared, hd, hb, answers_slotsOf haccessors (of_bindingOf hb), rfl,
    fun o' json hread => ?_⟩
  have hloaded := loadedOf_of_moduleOf hm name
  rw [hname] at hloaded
  rw [← Module.contractName_internalName_iff]
  simp only [decode, hread, hloaded]
  by_cases heq : contractName (internalName name) = name
  · rw [if_pos heq, tableIn, heq]
    cases json <;> simp [Except.map]
  · rw [if_neg heq]
    simp [heq, Except.map]

/-! ### One module under two spellings of a name -/

section Flag

/-- A directory with one file in it. -/
def holding (bytes : List UInt8) : Outside where
  environment _ := none
  canonical _ := .ok ⟨[]⟩
  readText _ := .error .notFound
  readBytes _ := .ok bytes

/-- Emits a module with one flag for a contract. -/
def emitFlag (name : String) : Outcome :=
  emit (holding []) name none ["flag:bool:f:true"] (some ⟨"m.class"⟩)

/-- The module that is emitted. -/
def flagModule (name : String) : List UInt8 := ((emitFlag name).file?.map (·.2)).getD []

theorem result_emitFlag :
    (emitFlag "app::Flags").result = .ok (.write ⟨"m.class"⟩ (flagModule "app::Flags")) ∧
      (emitFlag "app.Flags").result = .ok (.write ⟨"m.class"⟩ (flagModule "app.Flags")) := by
  decide +kernel

/-- A module that was emitted for a contract with a point in its name is refused for that contract,
although the same bytes are activated for it. -/
theorem decode_refuses_point :
    (emitFlag "app.Flags").result = .ok (.write ⟨"m.class"⟩ (flagModule "app.Flags")) ∧
    (decode (holding (flagModule "app.Flags")) ⟨"m.class"⟩ (some "app.Flags") false).result =
      .error (.wrongContract "app::Flags" "app.Flags") ∧
    Module.activate (flagModule "app.Flags")
        ⟨"app.Flags", noSource, [⟨"flag", .bool, "f", "true"⟩]⟩ =
      .ok ⟨"app/Flags$CG1", "app.Flags", [⟨"flag", .bool true⟩]⟩ := by
  refine ⟨result_emitFlag.2, ?_, ?_⟩ <;> decide +kernel

theorem decode_emit_iff_flags :
    ((emitFlag "app::Flags").result = .ok (.write ⟨"m.class"⟩ (flagModule "app::Flags")) ∧
      ∃ effect, (decode (holding (flagModule "app::Flags")) ⟨"m.class"⟩ (some "app::Flags")
        true).result = .ok effect) ∧
    (emitFlag "app.Flags").result = .ok (.write ⟨"m.class"⟩ (flagModule "app.Flags")) ∧
      ¬ ∃ effect, (decode (holding (flagModule "app.Flags")) ⟨"m.class"⟩ (some "app.Flags")
        true).result = .ok effect := by
  obtain ⟨hcolons, hpoint⟩ := result_emitFlag
  obtain ⟨_, _, _, bytes, -, -, -, -, hwrite, hdecode⟩ := decode_emit_iff hcolons
  obtain ⟨_, _, _, bytes', -, -, -, -, hwrite', hdecode'⟩ := decode_emit_iff hpoint
  injection hwrite with _ hbytes
  injection hwrite' with _ hbytes'
  rw [hbytes, hbytes']
  rw [hbytes] at hcolons
  rw [hbytes'] at hpoint
  refine ⟨⟨hcolons, (hdecode (holding bytes) true rfl).1.2 (by decide)⟩, hpoint, ?_⟩
  rw [(hdecode' (holding bytes') true rfl).1]
  decide

end Flag

end TypedConfig.CommandLine
