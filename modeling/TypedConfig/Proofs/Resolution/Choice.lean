import TypedConfig.Proofs.Resolution.Resolved

/-!
Which text an accessor takes, and what a failed resolution reports. Every accessor takes the text of its
key or its default, whatever the others take (`chosenText`). A contract is bound to these texts if they all
convert (`bind_eq_ok`), and otherwise the failure is that of the first accessor whose text does not
(`bind_eq_error_iff`).
-/

namespace TypedConfig.Scalar

theorem convert_eq_absent_iff {text : String} {k k' : Kind} :
    convert text k = .error (.absent k') ↔ k = .char ∧ text = "" ∧ k' = .char := by
  have hinteger : ∀ {lo hi : Int} {make : Int → Value},
      convertInteger k lo hi make text ≠ .error (.absent k') := by
    intro lo hi make
    unfold convertInteger
    split <;> simp
  have hnumeral : ∀ {f : Decimal.Format} {make : Nat → Value},
      convertNumeral k f make text ≠ .error (.absent k') := by
    intro f make
    unfold convertNumeral
    split <;> simp
  cases k with
  | text => simp [convert]
  | bool =>
    simp only [convert]
    split
    · simp
    · split <;> simp
  | char =>
    rw [convert]
    split
    · rename_i c cs htext
      have hne : text ≠ "" := by
        rintro rfl
        cases htext
      simp [hne]
    · rename_i htext
      have heq : text = "" := String.toList_eq_nil_iff.1 htext
      simp [heq, eq_comm]
  | int32 | int64 | int16 | byte =>
    refine iff_of_false hinteger ?_
    simp
  | float64 | float32 =>
    rw [convert]
    refine iff_of_false hnumeral ?_
    simp

end TypedConfig.Scalar

namespace TypedConfig.Resolution

open Contract (Accessor Descriptor)
open Scalar (ConversionError)

/-- The text that an accessor takes: that of its key, or its default where the key is absent, and also
where the text is empty and a single character is wanted. -/
def chosenText (overrides : Source.Properties) (a : Accessor) : String :=
  match overrides.get? a.key with
  | none => a.default
  | some text => if a.kind = .char ∧ text = "" then a.default else text

/-- The failure of the first accessor whose text does not convert: it names the contract, the accessor,
its key and kind, the text and what is wrong with it. -/
def FailsFirst (contract : String) (overrides : Source.Properties) (accessors : List Accessor)
    (f : ConversionFailure) : Prop :=
  ∃ before a after cause, accessors = before ++ a :: after ∧
    (∀ c ∈ before, ∃ v, Scalar.convert (chosenText overrides c) c.kind = .ok v) ∧
    Scalar.convert (chosenText overrides a) a.kind = .error cause ∧
    f = ⟨contract, a.name, a.key, chosenText overrides a, a.kind, cause⟩

/-- A resolved accessor that has taken its text from what a source holds. -/
structure Takes (overrides : Source.Properties) (a : Accessor) (r : ResolvedAccessor) : Prop where
  resolves : Resolves a r
  text : r.text = chosenText overrides a

section Accessors

variable {contract : String} {overrides : Source.Properties} {a : Accessor} {r : ResolvedAccessor}
  {f : ConversionFailure}

/-- **An accessor is resolved with the text that it takes.** -/
theorem resolveAccessor_eq (contract : String) (overrides : Source.Properties) (a : Accessor) :
    ∃ fromDefault, resolveAccessor contract overrides a =
      resolveText contract a (chosenText overrides a) fromDefault := by
  unfold resolveAccessor chosenText
  cases overrides.get? a.key with
  | none => exact ⟨true, rfl⟩
  | some text =>
    dsimp only
    split
    · rename_i k hk
      obtain ⟨hchar, hempty, -⟩ := Scalar.convert_eq_absent_iff.1 hk
      exact ⟨true, by rw [if_pos ⟨hchar, hempty⟩]⟩
    · rename_i hk
      have hne : ¬ (a.kind = .char ∧ text = "") := fun ⟨hchar, hempty⟩ =>
        hk .char (Scalar.convert_eq_absent_iff.2 ⟨hchar, hempty, rfl⟩)
      exact ⟨false, by rw [if_neg hne]⟩

theorem takes_of_resolveAccessor (h : resolveAccessor contract overrides a = .ok r) :
    Takes overrides a r := by
  refine ⟨resolves_of_resolveAccessor h, ?_⟩
  obtain ⟨fromDefault, heq⟩ := resolveAccessor_eq contract overrides a
  rw [heq, resolveText] at h
  split at h
  · cases h
    rfl
  · cases h

theorem resolveAccessor_eq_error_iff :
    resolveAccessor contract overrides a = .error f ↔
      ∃ cause, Scalar.convert (chosenText overrides a) a.kind = .error cause ∧
        f = ⟨contract, a.name, a.key, chosenText overrides a, a.kind, cause⟩ := by
  obtain ⟨fromDefault, heq⟩ := resolveAccessor_eq contract overrides a
  rw [heq, resolveText]
  cases Scalar.convert (chosenText overrides a) a.kind with
  | ok v => simp
  | error cause => simp [eq_comm]

end Accessors

section Contracts

variable {contract : String} {overrides : Source.Properties} {accessors : List Accessor}
  {resolved : List ResolvedAccessor} {f : ConversionFailure} {o : Observation} {d : Descriptor}
  {b : Binding}

theorem takes_of_resolveAccessors
    (h : resolveAccessors contract overrides accessors = .ok resolved) :
    List.Forall₂ (Takes overrides) accessors resolved := by
  induction accessors generalizing resolved with
  | nil =>
    cases h
    exact .nil
  | cons a accessors ih =>
    unfold resolveAccessors at h
    split at h
    · cases h
    · rename_i r hr
      split at h
      · cases h
      · rename_i others hothers
        cases h
        exact .cons (takes_of_resolveAccessor hr) (ih hothers)

theorem converts_of_takes (h : List.Forall₂ (Takes overrides) accessors resolved) :
    ∀ a ∈ accessors, ∃ v, Scalar.convert (chosenText overrides a) a.kind = .ok v := by
  induction h with
  | nil => simp
  | @cons a r _ _ hr _ ih =>
    exact List.forall_mem_cons.2 ⟨⟨r.value, hr.text ▸ hr.resolves.value⟩, ih⟩

/-- The first accessor is reported if its text does not convert, and otherwise one after it. -/
theorem failsFirst_cons {a : Accessor} :
    FailsFirst contract overrides (a :: accessors) f ↔
      resolveAccessor contract overrides a = .error f ∨
        (∃ v, Scalar.convert (chosenText overrides a) a.kind = .ok v) ∧
          FailsFirst contract overrides accessors f := by
  rw [resolveAccessor_eq_error_iff]
  constructor
  · rintro ⟨before, c, after, cause, heq, hbefore, hc, hf⟩
    cases before with
    | nil =>
      obtain ⟨rfl, rfl⟩ := List.cons.inj heq
      exact .inl ⟨cause, hc, hf⟩
    | cons p before =>
      obtain ⟨rfl, rfl⟩ := List.cons.inj heq
      obtain ⟨ha, hbefore⟩ := List.forall_mem_cons.1 hbefore
      exact .inr ⟨ha, before, c, after, cause, rfl, hbefore, hc, hf⟩
  · rintro (⟨cause, ha, hf⟩ | ⟨ha, before, c, after, cause, rfl, hbefore, hc, hf⟩)
    · exact ⟨[], a, accessors, cause, rfl, by simp, ha, hf⟩
    · exact ⟨a :: before, c, after, cause, rfl, List.forall_mem_cons.2 ⟨ha, hbefore⟩, hc, hf⟩

theorem resolveAccessors_eq_error_iff :
    resolveAccessors contract overrides accessors = .error f ↔
      FailsFirst contract overrides accessors f := by
  induction accessors with
  | nil =>
    refine iff_of_false (by simp [resolveAccessors]) ?_
    rintro ⟨before, a, after, cause, heq, -⟩
    simp at heq
  | cons a accessors ih =>
    rw [failsFirst_cons, ← ih, resolveAccessors]
    cases ha : resolveAccessor contract overrides a with
    | error e =>
      obtain ⟨cause, hcause, -⟩ := resolveAccessor_eq_error_iff.1 ha
      simp [hcause]
    | ok r =>
      have hr := takes_of_resolveAccessor ha
      have hv : ∃ v, Scalar.convert (chosenText overrides a) a.kind = .ok v :=
        ⟨r.value, hr.text ▸ hr.resolves.value⟩
      cases resolveAccessors contract overrides accessors <;> simp [hv]

/-- **A contract fails to resolve with the failure of the first accessor whose text does not
convert.** -/
theorem bind_eq_error_iff :
    o.bind d = .error f ↔ FailsFirst d.typeName o.overrides d.accessors f := by
  rw [← resolveAccessors_eq_error_iff, Observation.bind]
  cases resolveAccessors d.typeName o.overrides d.accessors <;> simp

/-- **A contract that resolves is bound to the texts that its accessors take.** -/
theorem bind_eq_ok (h : o.bind d = .ok b) :
    List.Forall₂ (Takes o.overrides) d.accessors b.accessors ∧ b.source = o.source ∧
      b.watchable = o.source.isSome ∧ b.warnings = o.warnings := by
  unfold Observation.bind at h
  split at h
  · cases h
  · rename_i accessors haccessors
    cases h
    exact ⟨takes_of_resolveAccessors haccessors, rfl, rfl, rfl⟩

/-- **A contract resolves unless the text of some accessor does not convert.** -/
theorem exists_failsFirst_iff :
    (∃ f, FailsFirst contract overrides accessors f) ↔
      ∃ a ∈ accessors, ∃ cause, Scalar.convert (chosenText overrides a) a.kind = .error cause := by
  constructor
  · rintro ⟨f, before, a, after, cause, rfl, -, ha, -⟩
    exact ⟨a, by simp, cause, ha⟩
  · rintro ⟨a, ha, cause, hcause⟩
    cases hr : resolveAccessors contract overrides accessors with
    | error f => exact ⟨f, resolveAccessors_eq_error_iff.1 hr⟩
    | ok resolved =>
      obtain ⟨v, hv⟩ := converts_of_takes (takes_of_resolveAccessors hr) a ha
      rw [hcause] at hv
      cases hv

theorem fingerprint_of_takes (h : List.Forall₂ (Takes overrides) accessors resolved) :
    fingerprint resolved =
      String.join (accessors.map fun a => fingerprintLine a.key (chosenText overrides a)) := by
  have hlines : resolved.map (fun r => fingerprintLine r.key r.text) =
      accessors.map fun a => fingerprintLine a.key (chosenText overrides a) := by
    induction h with
    | nil => rfl
    | cons hr _ ih => rw [List.map_cons, List.map_cons, hr.resolves.key, hr.text, ih]
  rw [fingerprint, hlines]

end Contracts

end TypedConfig.Resolution
