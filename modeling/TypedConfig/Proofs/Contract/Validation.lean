import TypedConfig.Proofs.Contract.Declared

/-!
Which declarations pass their check, and what is reported of the others. A declaration passes exactly if it
is a capability with a source and every accessor is complete and has a name of its own. Otherwise the error
is that of the first accessor at fault, and of several faults of one accessor that of the first in the order
of `Offends`; later accessors have no say (`Declaration.validate_exact`).
-/

namespace TypedConfig.Scalar.Kind

/-- The types by which a kind may be declared. -/
def spellings : Kind → List String
  | text => ["String", "std::string::String", "str", "&str", "&\x27staticstr"]
  | k => [k.typeName]

/-- A return type that names a kind: one of the kind's spellings with white space anywhere. -/
def NamedBy (k : Kind) (returnType : String) : Prop :=
  String.ofList (returnType.toList.filter fun c => !Text.isBlank c) ∈ k.spellings

instance (k : Kind) (returnType : String) : Decidable (k.NamedBy returnType) :=
  inferInstanceAs (Decidable (_ ∈ k.spellings))

theorem ofTypeName?_eq_some_iff {k : Kind} {returnType : String} :
    ofTypeName? returnType = some k ↔ k.NamedBy returnType := by
  unfold ofTypeName? NamedBy
  generalize String.ofList (returnType.toList.filter fun c => !Text.isBlank c) = name
  constructor
  · intro h
    split at h <;> cases h <;> simp [spellings, typeName]
  · intro h
    cases k with
    | text =>
      simp only [spellings, List.mem_cons, List.not_mem_nil, or_false] at h
      obtain rfl | rfl | rfl | rfl | rfl := h <;> rfl
    | bool | int32 | int64 | float64 | float32 | int16 | char | byte =>
      rw [List.mem_singleton.1 h]
      rfl

theorem ofTypeName?_eq_none_iff {returnType : String} :
    ofTypeName? returnType = none ↔ ∀ k : Kind, ¬ k.NamedBy returnType := by
  rw [Option.eq_none_iff_forall_ne_some]
  exact forall_congr' fun k => not_congr ofTypeName?_eq_some_iff

end TypedConfig.Scalar.Kind

namespace TypedConfig.Contract

variable {contract name : String} {seen seen' : List String} {a : AccessorDeclaration} {c : Accessor}
  {accessorDeclarations : List AccessorDeclaration} {accessors : List Accessor}
  {declared : Declaration} {d : Descriptor} {e : DeclarationError}

/-! ### One accessor -/

/-- An accessor that lacks nothing. -/
structure AccessorDeclaration.Complete (a : AccessorDeclaration) : Prop where
  parameters : a.parameters = 0
  kind : ∃ k : Scalar.Kind, k.NamedBy a.returnType
  key : ∃ key, a.key = some key
  default : ∃ default, a.default = some default

/-- What is wrong with an accessor that comes after some names. A fault counts only where those above it
are absent. -/
inductive AccessorDeclaration.Offends (contract : String) (before : List String)
    (a : AccessorDeclaration) : DeclarationError → Prop
  | duplicate (h : a.name ∈ before) : Offends contract before a (.duplicateAccessor contract a.name)
  | parameters (hname : a.name ∉ before) (h : a.parameters ≠ 0) :
      Offends contract before a (.hasParameters contract a.name a.parameters)
  | returnType (hname : a.name ∉ before) (hparameters : a.parameters = 0)
      (h : ∀ k : Scalar.Kind, ¬ k.NamedBy a.returnType) :
      Offends contract before a (.unsupportedReturnType contract a.name a.returnType)
  | key (hname : a.name ∉ before) (hparameters : a.parameters = 0)
      (hkind : ∃ k : Scalar.Kind, k.NamedBy a.returnType) (h : a.key = none) :
      Offends contract before a (.missingAccessorMetadata contract a.name .key)
  | default (hname : a.name ∉ before) (hparameters : a.parameters = 0)
      (hkind : ∃ k : Scalar.Kind, k.NamedBy a.returnType) (hkey : ∃ key, a.key = some key)
      (h : a.default = none) :
      Offends contract before a (.missingAccessorMetadata contract a.name .default)

theorem Declares.complete (h : Declares a c) (hparameters : a.parameters = 0) : a.Complete :=
  ⟨hparameters, ⟨_, Scalar.Kind.ofTypeName?_eq_some_iff.1 h.kind⟩, ⟨_, h.key⟩, ⟨_, h.default⟩⟩

theorem AccessorDeclaration.Complete.exists_declares (h : a.Complete) : ∃ c, Declares a c := by
  obtain ⟨-, ⟨kind, hkind⟩, ⟨key, hkey⟩, ⟨default, hdefault⟩⟩ := h
  exact ⟨⟨a.name, kind, key, default⟩, rfl, Scalar.Kind.ofTypeName?_eq_some_iff.2 hkind, hkey, hdefault⟩

theorem check_eq_error_iff : a.check contract seen = .error e ↔ a.Offends contract seen e := by
  unfold AccessorDeclaration.check
  constructor
  · intro h
    split at h
    · rename_i hseen
      cases h
      exact .duplicate (by simpa using hseen)
    · rename_i hseen
      replace hseen : a.name ∉ seen := by simpa using hseen
      split at h
      · rename_i hparameters
        cases h
        exact .parameters hseen hparameters
      · rename_i hparameters
        replace hparameters := not_not.1 hparameters
        split at h
        · rename_i hkind
          cases h
          exact .returnType hseen hparameters (Scalar.Kind.ofTypeName?_eq_none_iff.1 hkind)
        · rename_i kind hkind hkey
          cases h
          exact .key hseen hparameters ⟨kind, Scalar.Kind.ofTypeName?_eq_some_iff.1 hkind⟩ hkey
        · rename_i kind key hkind hkey hdefault
          cases h
          exact .default hseen hparameters ⟨kind, Scalar.Kind.ofTypeName?_eq_some_iff.1 hkind⟩
            ⟨key, hkey⟩ hdefault
        · cases h
  · intro h
    cases h with
    | duplicate hseen => rw [if_pos (by simpa using hseen)]
    | parameters hseen hparameters =>
      rw [if_neg (by simpa using hseen), if_pos hparameters]
    | returnType hseen hparameters hkind =>
      rw [if_neg (by simpa using hseen), if_neg (not_not.2 hparameters),
        Scalar.Kind.ofTypeName?_eq_none_iff.2 hkind]
    | key hseen hparameters hkind hkey =>
      obtain ⟨kind, hkind⟩ := hkind
      rw [if_neg (by simpa using hseen), if_neg (not_not.2 hparameters),
        Scalar.Kind.ofTypeName?_eq_some_iff.2 hkind, hkey]
    | default hseen hparameters hkind hkey hdefault =>
      obtain ⟨kind, hkind⟩ := hkind
      obtain ⟨key, hkey⟩ := hkey
      rw [if_neg (by simpa using hseen), if_neg (not_not.2 hparameters),
        Scalar.Kind.ofTypeName?_eq_some_iff.2 hkind, hkey, hdefault]

/-- Only which names have come before matters. -/
theorem AccessorDeclaration.Offends.congr (h : a.Offends contract seen e)
    (hsame : ∀ n, n ∈ seen' ↔ n ∈ seen) : a.Offends contract seen' e := by
  cases h with
  | duplicate hname => exact .duplicate ((hsame _).2 hname)
  | parameters hname h => exact .parameters (mt (hsame _).1 hname) h
  | returnType hname hparameters h => exact .returnType (mt (hsame _).1 hname) hparameters h
  | key hname hparameters hkind h => exact .key (mt (hsame _).1 hname) hparameters hkind h
  | default hname hparameters hkind hkey h =>
    exact .default (mt (hsame _).1 hname) hparameters hkind hkey h

/-! ### The first accessor at fault -/

theorem checkAccessors_cons_eq_error_iff :
    checkAccessors contract seen (a :: accessorDeclarations) = .error e ↔
      a.check contract seen = .error e ∨
      ∃ c, a.check contract seen = .ok c ∧
        checkAccessors contract (a.name :: seen) accessorDeclarations = .error e := by
  rw [checkAccessors]
  cases a.check contract seen with
  | error e' => simp
  | ok c => cases checkAccessors contract (a.name :: seen) accessorDeclarations <;> simp

/-- **What is reported of a list of accessors is what is wrong with the first one at fault.** -/
theorem checkAccessors_eq_error_iff :
    checkAccessors contract seen accessorDeclarations = .error e ↔
      ∃ before a after checked, accessorDeclarations = before ++ a :: after ∧
        checkAccessors contract seen before = .ok checked ∧
        a.Offends contract (seen ++ before.map AccessorDeclaration.name) e := by
  induction accessorDeclarations generalizing seen with
  | nil => simp [checkAccessors]
  | cons a rest ih =>
    rw [checkAccessors_cons_eq_error_iff, check_eq_error_iff]
    constructor
    · rintro (hfault | ⟨c, hc, hrest⟩)
      · exact ⟨[], a, rest, [], rfl, rfl, by simpa using hfault⟩
      · obtain ⟨before, b, after, checked, rfl, hbefore, hfault⟩ := ih.1 hrest
        refine ⟨a :: before, b, after, c :: checked, rfl, ?_, hfault.congr fun n => ?_⟩
        · exact checkAccessors_cons_eq_ok_iff.2 ⟨c, checked, hc, hbefore, rfl⟩
        · simp [or_left_comm]
    · rintro ⟨before, b, after, checked, heq, hbefore, hfault⟩
      cases before with
      | nil =>
        cases heq
        exact .inl (by simpa using hfault)
      | cons a' before =>
        cases heq
        obtain ⟨c, others, hc, hothers, -⟩ := checkAccessors_cons_eq_ok_iff.1 hbefore
        refine .inr ⟨c, hc, ih.2 ⟨before, b, after, others, rfl, hothers, hfault.congr fun n => ?_⟩⟩
        simp [or_left_comm]

/-- Accessors that pass their check together: each is complete and has a name of its own. -/
structure AllPass (accessorDeclarations : List AccessorDeclaration) : Prop where
  nodup : (accessorDeclarations.map AccessorDeclaration.name).Nodup
  complete : ∀ a ∈ accessorDeclarations, a.Complete

theorem exists_declares_iff :
    (∃ accessors, List.Forall₂ Declares accessorDeclarations accessors) ↔
      ∀ a ∈ accessorDeclarations, ∃ c, Declares a c := by
  induction accessorDeclarations with
  | nil => simp
  | cons a rest ih =>
    rw [List.forall_mem_cons, ← ih]
    constructor
    · rintro ⟨accessors, h⟩
      cases h with
      | cons hc hrest => exact ⟨⟨_, hc⟩, _, hrest⟩
    · rintro ⟨⟨c, hc⟩, others, hrest⟩
      exact ⟨c :: others, .cons hc hrest⟩

theorem exists_checkAccessors_iff :
    (∃ accessors, checkAccessors contract [] accessorDeclarations = .ok accessors) ↔
      AllPass accessorDeclarations := by
  constructor
  · rintro ⟨accessors, h⟩
    obtain ⟨hnodup, hall, hdeclares⟩ := checkAccessors_eq_ok_iff.1 h
    refine ⟨hnodup, fun a ha => ?_⟩
    obtain ⟨c, hc⟩ := exists_declares_iff.1 ⟨accessors, hdeclares⟩ a ha
    exact hc.complete (hall a ha).2
  · rintro ⟨hnodup, hcomplete⟩
    obtain ⟨accessors, hdeclares⟩ :=
      exists_declares_iff.2 fun a ha => (hcomplete a ha).exists_declares
    refine ⟨accessors, checkAccessors_eq_ok_iff.2 ⟨hnodup, fun a ha => ?_, hdeclares⟩⟩
    exact ⟨List.not_mem_nil, (hcomplete a ha).parameters⟩

/-- The first accessor at fault: those before it pass, and it offends after their names. -/
structure FirstFault (contract : String) (before : List AccessorDeclaration) (a : AccessorDeclaration)
    (e : DeclarationError) : Prop where
  passes : AllPass before
  offends : a.Offends contract (before.map AccessorDeclaration.name) e

/-! ### Declarations -/

theorem validate_of_source {locator : String} (hcapability : declared.capability = true)
    (hsource : declared.source = some locator) :
    declared.validate =
      (checkAccessors declared.typeName [] declared.accessors).map (⟨declared.typeName, locator, ·⟩) := by
  unfold Declaration.validate
  rw [hcapability, hsource]
  cases checkAccessors declared.typeName [] declared.accessors <;> rfl

/-- What is wrong with a capability that has a source is what is wrong with its first accessor at fault. -/
theorem validate_eq_error_iff (hcapability : declared.capability = true)
    (hsource : declared.source ≠ none) :
    declared.validate = .error e ↔ ∃ before a after,
      declared.accessors = before ++ a :: after ∧ FirstFault declared.typeName before a e := by
  obtain ⟨locator, hlocator⟩ := Option.ne_none_iff_exists'.1 hsource
  have hchecked : declared.validate = .error e ↔
      checkAccessors declared.typeName [] declared.accessors = .error e := by
    rw [validate_of_source hcapability hlocator]
    cases checkAccessors declared.typeName [] declared.accessors <;> simp [Except.map]
  rw [hchecked, checkAccessors_eq_error_iff]
  constructor
  · rintro ⟨before, a, after, checked, heq, hbefore, hfault⟩
    exact ⟨before, a, after, heq, exists_checkAccessors_iff.1 ⟨checked, hbefore⟩, hfault⟩
  · rintro ⟨before, a, after, heq, hpasses, hfault⟩
    obtain ⟨checked, hbefore⟩ := exists_checkAccessors_iff.2 hpasses
    exact ⟨before, a, after, checked, heq, hbefore, hfault⟩

theorem exists_validate_iff : (∃ d, declared.validate = .ok d) ↔
    declared.capability = true ∧ declared.source ≠ none ∧ AllPass declared.accessors := by
  constructor
  · rintro ⟨d, hd⟩
    obtain ⟨hcapability, hof, hnodup, hparameters⟩ := validate_eq_ok_iff.1 hd
    refine ⟨hcapability, ?_, hnodup, fun a ha => ?_⟩
    · rw [hof.source]
      exact Option.some_ne_none _
    · obtain ⟨c, hc⟩ := exists_declares_iff.1 ⟨_, hof.accessors⟩ a ha
      exact hc.complete (hparameters a ha)
  · rintro ⟨hcapability, hsource, hpasses⟩
    obtain ⟨locator, hlocator⟩ := Option.ne_none_iff_exists'.1 hsource
    have hexists : ∃ accessors, checkAccessors declared.typeName [] declared.accessors = .ok accessors :=
      exists_checkAccessors_iff.2 hpasses
    obtain ⟨accessors, haccessors⟩ := hexists
    refine ⟨⟨declared.typeName, locator, accessors⟩, ?_⟩
    rw [validate_of_source hcapability hlocator, haccessors]
    rfl

theorem accessor?_eq_some_iff (hnodup : (d.accessors.map Accessor.name).Nodup) :
    d.accessor? name = some c ↔ c ∈ d.accessors ∧ c.name = name := by
  unfold Descriptor.accessor?
  generalize d.accessors = accessors at hnodup
  induction accessors with
  | nil => simp
  | cons first rest ih =>
    rw [List.map_cons, List.nodup_cons] at hnodup
    by_cases hfirst : first.name = name
    · rw [List.find?_cons_of_pos (by simpa using hfirst), Option.some_inj]
      constructor
      · rintro rfl
        exact ⟨List.mem_cons_self, hfirst⟩
      · rintro ⟨hmem, hname⟩
        obtain rfl | hrest := List.mem_cons.1 hmem
        · rfl
        · exact absurd (List.mem_map.2 ⟨c, hrest, hname.trans hfirst.symm⟩) hnodup.1
    · rw [List.find?_cons_of_neg (by simpa using hfirst), ih hnodup.2, List.mem_cons]
      constructor
      · exact fun h => ⟨.inr h.1, h.2⟩
      · rintro ⟨rfl | hrest, hname⟩
        · exact absurd hname hfirst
        · exact ⟨hrest, hname⟩

theorem accessor?_eq_none_iff :
    d.accessor? name = none ↔ name ∉ d.accessors.map Accessor.name := by
  simp [Descriptor.accessor?]

/-- **Checking a declaration is exact.** It passes if and only if it is a capability, has a source, and its
accessors have distinct names, take no parameters, are of a type that names a kind, and have a key and a
default. What is made of it has the same type name and locator and, place for place, the same accessors with
the kinds that their types name, and a look-up by name finds these accessors and nothing else. A declaration
that is no capability, or else has no source, is refused for that. Otherwise the error is what is wrong with
the first accessor at fault, and it stays the same whatever accessors come after that one. -/
theorem Declaration.validate_exact (declared : Declaration) :
    ((∃ d, declared.validate = .ok d) ↔
      declared.capability = true ∧ declared.source ≠ none ∧ AllPass declared.accessors) ∧
    (∀ d, declared.validate = .ok d → d.Of declared ∧
      List.Forall₂ (fun a c => c.kind.NamedBy a.returnType) declared.accessors d.accessors ∧
      (∀ name c, d.accessor? name = some c ↔ c ∈ d.accessors ∧ c.name = name) ∧
      ∀ name, d.accessor? name = none ↔ name ∉ declared.accessors.map AccessorDeclaration.name) ∧
    (declared.capability = false →
      declared.validate = .error (.notACapability declared.typeName)) ∧
    (declared.capability = true → declared.source = none →
      declared.validate = .error (.missingSource declared.typeName)) ∧
    (declared.capability = true → declared.source ≠ none →
      (∀ e, declared.validate = .error e ↔ ∃ before a after,
        declared.accessors = before ++ a :: after ∧ FirstFault declared.typeName before a e) ∧
      ∀ before a later e, FirstFault declared.typeName before a e →
        { declared with accessors := before ++ a :: later }.validate = .error e) := by
  refine ⟨exists_validate_iff, fun d hd => ?_, fun hcapability => ?_, fun hcapability hsource => ?_,
    fun hcapability hsource => ⟨fun e => validate_eq_error_iff hcapability hsource, ?_⟩⟩
  · have hof := of_validate hd
    refine ⟨hof, ?_, fun name c => accessor?_eq_some_iff (nodup_names_of_validate hd), fun name => ?_⟩
    · exact hof.accessors.imp fun a c h => Scalar.Kind.ofTypeName?_eq_some_iff.1 h.kind
    · rw [accessor?_eq_none_iff, names_of_declares hof.accessors]
  · simp [validate, hcapability]
  · simp [validate, hcapability, hsource]
  · intro before a later e hfault
    refine (validate_eq_error_iff ?_ ?_).2 ⟨before, a, later, rfl, hfault⟩
    · exact hcapability
    · exact hsource

/-! ### Two faults -/

/-- An accessor that is complete. Its type is written with white space. -/
def nameAccessor : AccessorDeclaration := ⟨"name", "&\x27static str", some "n", some "none", 0⟩

/-- An accessor that takes parameters and lacks a key. -/
def faultyAccessor : AccessorDeclaration := ⟨"port", "i16", none, some "8080", 2⟩

/-- A contract with the accessor at fault after the complete one, and the name of that one once more. -/
def faultyDeclaration : Declaration :=
  ⟨"app::Server", true, some "server.properties", [nameAccessor, faultyAccessor, nameAccessor]⟩

theorem validate_exact_faultyDeclaration :
    faultyDeclaration.capability = true ∧ faultyDeclaration.source ≠ none ∧
    FirstFault "app::Server" [nameAccessor] faultyAccessor (.hasParameters "app::Server" "port" 2) ∧
    faultyDeclaration.validate = .error (.hasParameters "app::Server" "port" 2) ∧
    { faultyDeclaration with accessors := [nameAccessor] }.validate =
      .ok ⟨"app::Server", "server.properties", [⟨"name", .text, "n", "none"⟩]⟩ := by
  have hcapability : faultyDeclaration.capability = true := rfl
  have hsource : faultyDeclaration.source ≠ none := by decide
  have hcomplete : nameAccessor.Complete := ⟨rfl, ⟨.text, by decide +kernel⟩, ⟨"n", rfl⟩, ⟨"none", rfl⟩⟩
  have hpasses : AllPass [nameAccessor] :=
    ⟨by simp, fun a ha => List.mem_singleton.1 ha ▸ hcomplete⟩
  have hfault : FirstFault "app::Server" [nameAccessor] faultyAccessor
      (.hasParameters "app::Server" "port" 2) :=
    ⟨hpasses, .parameters (by decide) (by decide)⟩
  obtain ⟨-, -, -, -, hfirst⟩ := faultyDeclaration.validate_exact
  refine ⟨hcapability, hsource, hfault, ?_, by decide +kernel⟩
  exact (hfirst hcapability hsource).2 [nameAccessor] faultyAccessor [nameAccessor] _ hfault

end TypedConfig.Contract
