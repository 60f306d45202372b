import Mathlib.Data.List.Forall2
import TypedConfig.Contract.Declaration

/-!
What a checked contract takes over from its declaration: the type name, the locator, and accessor for
accessor the name, the kind of the declared type, the key and the default (`Declares`). Accessors pass their
check exactly if each has all of this, takes no parameters, and has a name of its own
(`checkAccessors_eq_ok_iff`).
-/

namespace TypedConfig.Contract

variable {contract : String} {seen : List String} {a : AccessorDeclaration} {c : Accessor}
  {accessorDeclarations : List AccessorDeclaration} {accessors : List Accessor}
  {declared : Declaration} {d : Descriptor}

/-- A checked accessor that belongs to a declared one. -/
structure Declares (a : AccessorDeclaration) (c : Accessor) : Prop where
  name : c.name = a.name
  kind : Scalar.Kind.ofTypeName? a.returnType = some c.kind
  key : a.key = some c.key
  default : a.default = some c.default

theorem check_eq_ok_iff :
    a.check contract seen = .ok c ↔ a.name ∉ seen ∧ a.parameters = 0 ∧ Declares a c := by
  unfold AccessorDeclaration.check
  constructor
  · intro h
    split at h
    · cases h
    · rename_i hseen
      split at h
      · cases h
      · rename_i hparameters
        split at h
        · cases h
        · cases h
        · cases h
        · rename_i kind key default hkind hkey hdefault
          cases h
          exact ⟨by simpa using hseen, not_not.1 hparameters, rfl, hkind, hkey, hdefault⟩
  · rintro ⟨hseen, hparameters, hname, hkind, hkey, hdefault⟩
    rw [if_neg (by simpa using hseen), if_neg (not_not.2 hparameters), hkind, hkey, hdefault, ← hname]

theorem checkAccessors_cons_eq_ok_iff :
    checkAccessors contract seen (a :: accessorDeclarations) = .ok accessors ↔
      ∃ c others, a.check contract seen = .ok c ∧
        checkAccessors contract (a.name :: seen) accessorDeclarations = .ok others ∧
        accessors = c :: others := by
  rw [checkAccessors]
  cases a.check contract seen with
  | error e => simp
  | ok c =>
    cases checkAccessors contract (a.name :: seen) accessorDeclarations with
    | error e => simp
    | ok others => simp [eq_comm]

/-- **When accessors pass their check, and as what.** -/
theorem checkAccessors_eq_ok_iff :
    checkAccessors contract seen accessorDeclarations = .ok accessors ↔
      (accessorDeclarations.map AccessorDeclaration.name).Nodup ∧
      (∀ a ∈ accessorDeclarations, a.name ∉ seen ∧ a.parameters = 0) ∧
      List.Forall₂ Declares accessorDeclarations accessors := by
  induction accessorDeclarations generalizing seen accessors with
  | nil => simp [checkAccessors, eq_comm]
  | cons a rest ih =>
    rw [checkAccessors_cons_eq_ok_iff, List.map_cons, List.nodup_cons, List.forall_mem_cons]
    constructor
    · rintro ⟨c, others, hc, hothers, rfl⟩
      obtain ⟨hseen, hparameters, hdeclares⟩ := check_eq_ok_iff.1 hc
      obtain ⟨hnodup, hrest, hall⟩ := ih.1 hothers
      refine ⟨⟨?_, hnodup⟩, ⟨⟨hseen, hparameters⟩, fun b hb => ?_⟩, .cons hdeclares hall⟩
      · intro hmem
        obtain ⟨b, hb, heq⟩ := List.mem_map.1 hmem
        exact (hrest b hb).1 (heq ▸ List.mem_cons_self)
      · exact ⟨fun hmem => (hrest b hb).1 (List.mem_cons_of_mem _ hmem), (hrest b hb).2⟩
    · rintro ⟨⟨hnew, hnodup⟩, ⟨⟨hseen, hparameters⟩, hrest⟩, hall⟩
      cases hall with
      | @cons _ c _ others hdeclares hall =>
        refine ⟨c, others, check_eq_ok_iff.2 ⟨hseen, hparameters, hdeclares⟩, ?_, rfl⟩
        refine ih.2 ⟨hnodup, fun b hb => ⟨?_, (hrest b hb).2⟩, hall⟩
        rw [List.mem_cons, not_or]
        exact ⟨fun heq => hnew (heq ▸ List.mem_map_of_mem hb), (hrest b hb).1⟩

theorem names_of_declares (h : List.Forall₂ Declares accessorDeclarations accessors) :
    accessors.map Accessor.name = accessorDeclarations.map AccessorDeclaration.name := by
  induction h with
  | nil => rfl
  | cons hdeclares _ ih => rw [List.map_cons, List.map_cons, hdeclares.name, ih]

/-- A checked contract that belongs to a declaration. -/
structure Descriptor.Of (declared : Declaration) (d : Descriptor) : Prop where
  typeName : d.typeName = declared.typeName
  source : declared.source = some d.locator
  accessors : List.Forall₂ Declares declared.accessors d.accessors

theorem validate_eq_ok_iff :
    declared.validate = .ok d ↔ declared.capability = true ∧ d.Of declared ∧
      (declared.accessors.map AccessorDeclaration.name).Nodup ∧
      ∀ a ∈ declared.accessors, a.parameters = 0 := by
  unfold Declaration.validate
  constructor
  · intro h
    split at h
    · cases h
    · rename_i hcapability
      split at h
      · cases h
      · rename_i locator hlocator
        split at h
        · cases h
        · rename_i accessors haccessors
          cases h
          obtain ⟨hnodup, hall, hdeclares⟩ := checkAccessors_eq_ok_iff.1 haccessors
          exact ⟨by simpa using hcapability, ⟨rfl, hlocator, hdeclares⟩, hnodup,
            fun a ha => (hall a ha).2⟩
  · rintro ⟨hcapability, ⟨htype, hsource, hdeclares⟩, hnodup, hparameters⟩
    have hchecked : checkAccessors declared.typeName [] declared.accessors = .ok d.accessors :=
      checkAccessors_eq_ok_iff.2
        ⟨hnodup, fun a ha => ⟨List.not_mem_nil, hparameters a ha⟩, hdeclares⟩
    rw [hcapability, hsource]
    simp only [Bool.not_true, Bool.false_eq_true, if_false, hchecked]
    rw [← htype]

/-- **What is checked belongs to its declaration.** -/
theorem of_validate (h : declared.validate = .ok d) : d.Of declared := (validate_eq_ok_iff.1 h).2.1

/-- **A checked contract has accessors of distinct names.** -/
theorem nodup_names_of_validate (h : declared.validate = .ok d) :
    (d.accessors.map Accessor.name).Nodup := by
  obtain ⟨-, hof, hnodup, -⟩ := validate_eq_ok_iff.1 h
  rwa [names_of_declares hof.accessors]

end TypedConfig.Contract
