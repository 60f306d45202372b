import TypedConfig.Proofs.Contract.Declared
import TypedConfig.Resolution.Resolve

/-!
What resolution comes to. A binding of a checked contract has one resolved accessor for each accessor, in
the same order, whose value is what its text converts to.
-/

namespace TypedConfig.Scalar

theorem kind_of_convert {text : String} {k : Kind} {v : Value} (h : convert text k = .ok v) :
    v.kind = k := by
  have hinteger : ∀ {lo hi : Int} {make : Int → Value}, (∀ n, (make n).kind = k) →
      convertInteger k lo hi make text = .ok v → v.kind = k := by
    intro lo hi make hmake h
    unfold convertInteger at h
    split at h
    · cases h
      exact hmake _
    · cases h
  have hnumeral : ∀ {f : Decimal.Format} {make : Nat → Value}, (∀ n, (make n).kind = k) →
      convertNumeral k f make text = .ok v → v.kind = k := by
    intro f make hmake h
    unfold convertNumeral at h
    split at h
    · cases h
      exact hmake _
    · cases h
  cases k with
  | text =>
    cases h
    rfl
  | bool =>
    simp only [convert] at h
    split at h
    · cases h
      rfl
    · split at h
      · cases h
        rfl
      · cases h
  | char =>
    simp only [convert] at h
    split at h
    · cases h
      rfl
    · cases h
  | int32 | int64 | int16 | byte => exact hinteger (fun _ => rfl) h
  | float64 | float32 =>
    rw [convert] at h
    exact hnumeral (fun _ => rfl) h

end TypedConfig.Scalar

namespace TypedConfig.Resolution

open Contract (Accessor Descriptor)

variable {contract : String} {overrides : Source.Properties} {a : Accessor} {r : ResolvedAccessor}

/-- A resolved accessor that belongs to an accessor of a contract. -/
structure Resolves (a : Accessor) (r : ResolvedAccessor) : Prop where
  name : r.name = a.name
  kind : r.kind = a.kind
  key : r.key = a.key
  value : Scalar.convert r.text a.kind = .ok r.value

theorem resolves_of_resolveText {text : String} {fromDefault : Bool}
    (h : resolveText contract a text fromDefault = .ok r) : Resolves a r := by
  unfold resolveText at h
  split at h
  · rename_i value hvalue
    cases h
    exact ⟨rfl, rfl, rfl, hvalue⟩
  · cases h

theorem resolves_of_resolveAccessor (h : resolveAccessor contract overrides a = .ok r) :
    Resolves a r := by
  unfold resolveAccessor at h
  split at h
  · exact resolves_of_resolveText h
  · split at h
    · exact resolves_of_resolveText h
    · exact resolves_of_resolveText h

theorem resolves_of_resolveAccessors {accessors : List Accessor} {resolved : List ResolvedAccessor}
    (h : resolveAccessors contract overrides accessors = .ok resolved) :
    List.Forall₂ Resolves accessors resolved := by
  induction accessors generalizing resolved with
  | nil =>
    cases h
    exact .nil
  | cons a accessors ih =>
    unfold resolveAccessors at h
    split at h
    · cases h
    · rename_i r hr
      split at h
      · cases h
      · rename_i others hothers
        cases h
        exact .cons (resolves_of_resolveAccessor hr) (ih hothers)

/-- A binding that belongs to a contract: an accessor for each of the contract's, in the same order,
and their fingerprint. -/
structure Binding.Of (d : Descriptor) (b : Binding) : Prop where
  contract : b.contract = d.typeName
  accessors : List.Forall₂ Resolves d.accessors b.accessors
  fingerprint : b.fingerprint = Resolution.fingerprint b.accessors

theorem of_bind {o : Observation} {d : Descriptor} {b : Binding} (h : o.bind d = .ok b) :
    b.Of d := by
  unfold Observation.bind at h
  split at h
  · cases h
  · rename_i accessors haccessors
    cases h
    exact ⟨rfl, resolves_of_resolveAccessors haccessors, rfl⟩

/-- **What is resolved belongs to its contract.** -/
theorem of_resolve {σ : Type} {out : Surroundings σ} {settings : Source.Locator} {world : σ}
    {registry : Watch.Registry} {d : Descriptor} {b : Binding}
    (h : (resolve out settings world registry d).1 = .ok b) : b.Of d :=
  of_bind h

theorem bind_congr {o o' : Observation} {d : Descriptor} {b : Binding}
    (ho : o.overrides = o'.overrides) (h : o.bind d = .ok b) :
    ∃ b', o'.bind d = .ok b' ∧ b'.accessors = b.accessors := by
  unfold Observation.bind at h ⊢
  rw [← ho]
  split at h
  · cases h
  · rename_i accessors haccessors
    cases h
    exact ⟨_, rfl, rfl⟩

/-! ### What a source holds -/

section Source

variable {σ : Type} {out : Surroundings σ} {settings : Source.Locator} {world : σ}
  {registry : Watch.Registry} {d : Descriptor} {b : Binding}

/-- What the source that a locator leads to sets. A source that cannot be found or read sets nothing. -/
def overridesIn (out : Surroundings σ) (settings : Source.Locator) (world : σ) (locator : String) :
    Source.Properties :=
  match settings.locate (out.environment world) locator with
  | .unresolved _ => .empty
  | .file path =>
    match out.readText world path with
    | .ok text => .read text
    | .error _ => .empty

theorem overrides_observe (path : Path) (warnings : List Warning) (r : Except Files.Fault String) :
    (observe path warnings r).overrides =
      match r with
      | .ok text => .read text
      | .error _ => .empty := by
  unfold observe
  split <;> rfl

theorem overrides_approach (out : Surroundings σ) (settings : Source.Locator) (world : σ)
    (registry : Watch.Registry) (locator : String) :
    ((approach out settings world registry locator).1.observe out world).overrides =
      overridesIn out settings world locator := by
  unfold approach overridesIn
  cases settings.locate (out.environment world) locator with
  | unresolved name => rfl
  | file path =>
    dsimp only
    rcases registry.register (out.canonical world) (out.subscribe world) path with ⟨_ | _, _⟩
    · exact overrides_observe path _ _
    · exact overrides_observe path _ _

/-- Following a locator leaves the registry alone or registers one file. -/
theorem registry_approach (out : Surroundings σ) (settings : Source.Locator) (world : σ)
    (registry : Watch.Registry) (locator : String) :
    (approach out settings world registry locator).2 = registry ∨
      ∃ path, (approach out settings world registry locator).2 =
        (registry.register (out.canonical world) (out.subscribe world) path).2 := by
  unfold approach
  split
  · exact .inl rfl
  · rename_i path _
    refine .inr ⟨path, ?_⟩
    split
    · rename_i heq
      rw [heq]
    · rename_i heq
      rw [heq]

/-- What is resolved comes from what the source holds. -/
theorem accessors_of_resolve (h : (resolve out settings world registry d).1 = .ok b) :
    resolveAccessors d.typeName (overridesIn out settings world d.locator) d.accessors =
      .ok b.accessors := by
  rw [← overrides_approach out settings world registry]
  change ((approach out settings world registry d.locator).1.observe out world).bind d = .ok b at h
  unfold Observation.bind at h
  split at h
  · cases h
  · rename_i accessors haccessors
    cases h
    exact haccessors

/-- What the source holds is resolved, whatever files are registered. -/
theorem exists_resolve {accessors : List ResolvedAccessor} (registry : Watch.Registry)
    (h : resolveAccessors d.typeName (overridesIn out settings world d.locator) d.accessors =
      .ok accessors) :
    ∃ b, (resolve out settings world registry d).1 = .ok b ∧ b.accessors = accessors := by
  rw [← overrides_approach out settings world registry] at h
  change ∃ b, ((approach out settings world registry d.locator).1.observe out world).bind d = .ok b ∧ _
  unfold Observation.bind
  rw [h]
  exact ⟨_, rfl, rfl⟩

end Source

end TypedConfig.Resolution
