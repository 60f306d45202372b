import TypedConfig.Proofs.Cache.Independence

/-!
Reloading again changes nothing. After a pass in which nothing fails, every entry that may change has the
fingerprint that its source gives (`State.Sound.settled_reloadAll`), as long as the pass itself does not
dump modules over the sources (`replaced_again_after_dump`). In a state of this kind a pass finds every
entry as it is (`State.Settled.reloadAll_eq`), and no call leads out of such states while the sources hold
the same, so that every later pass changes nothing (`reloadAll_idempotent`).
-/

namespace TypedConfig.Cache

open Contract (Declaration Descriptor)
open Resolution (Binding overridesIn)

variable {σ : Type} {setup : Setup σ} {s r : State σ} {key : Key} {e x : Entry} {w w' : σ}

/-! ### Entries that are settled -/

/-- What the source of the entry holds gives the fingerprint that the entry has. -/
def Entry.Settled (setup : Setup σ) (w : σ) (e : Entry) : Prop :=
  ∃ accessors,
    Resolution.resolveAccessors e.descriptor.typeName
      (overridesIn setup.out setup.locator w e.descriptor.locator) e.descriptor.accessors =
        .ok accessors ∧
    e.fingerprint = Resolution.fingerprint accessors

theorem Entry.Settled.of_overridesIn_eq (h : e.Settled setup w)
    (hsame : overridesIn setup.out setup.locator w' e.descriptor.locator =
      overridesIn setup.out setup.locator w e.descriptor.locator) : e.Settled setup w' := by
  unfold Entry.Settled
  rw [hsame]
  exact h

theorem Entry.settled_new {registry : Watch.Registry} {d : Descriptor} {b : Binding} (i : Instance)
    (h : (Resolution.resolve setup.out setup.locator w registry d).1 = .ok b) :
    (Entry.new d i b).Settled setup w :=
  ⟨b.accessors, Resolution.accessors_of_resolve h, (Resolution.of_resolve h).fingerprint⟩

/-- **An entry that does not fail in a pass is settled when the pass has come to an end with it**, whether
it has been kept or replaced. -/
theorem Reload.Ends.settled {registry : Watch.Registry} {out : Except CacheError Verdict}
    (h : Ends setup (Resolution.resolve setup.out setup.locator w registry e.descriptor).1 e out x)
    (hv : verdictOf out ≠ .failed) : x.descriptor = e.descriptor ∧ x.Settled setup w := by
  cases h with
  | unresolved => exact absurd rfl hv
  | unmade => exact absurd rfl hv
  | reused hb hf =>
    refine ⟨rfl, _, Resolution.accessors_of_resolve hb, ?_⟩
    rw [← hf]
    exact (Resolution.of_resolve hb).fingerprint
  | replaced hb => exact ⟨rfl, Entry.settled_new _ hb⟩

/-- A settled entry is found as it is, and settling it makes nothing. -/
theorem Reload.settle_of_settled (h : e.Settled setup s.world) (key : Key) :
    (settle setup key e s).1 = .ok .reused ∧ (settle setup key e s).2.entries = s.entries ∧
      (settle setup key e s).2.world = s.world := by
  obtain ⟨accessors, haccessors, hfingerprint⟩ := h
  obtain ⟨b, hb, hsame⟩ := Resolution.exists_resolve s.registry haccessors
  have hf : b.fingerprint = e.fingerprint := by
    rw [(Resolution.of_resolve hb).fingerprint, hsame, hfingerprint]
  unfold settle
  dsimp only
  rcases hresolve : Resolution.resolve setup.out setup.locator s.world s.registry e.descriptor with
    ⟨o, registry⟩
  rw [hresolve] at hb
  subst hb
  dsimp only
  rw [if_pos hf]
  exact ⟨rfl, rfl, rfl⟩

theorem Reload.settleAll_of_settled {left : List (Key × Entry)}
    (h : ∀ p ∈ left, p.2.Settled setup s.world) :
    (settleAll setup left s).1.map (fun p => verdictOf p.2) = List.replicate left.length .reused ∧
      (settleAll setup left s).2.entries = s.entries ∧ (settleAll setup left s).2.world = s.world := by
  induction left generalizing s with
  | nil => exact ⟨rfl, rfl, rfl⟩
  | cons p rest ih =>
    obtain ⟨key, e⟩ := p
    obtain ⟨hout, hentries, hworld⟩ := settle_of_settled (h _ List.mem_cons_self) key
    obtain ⟨houts, hentries', hworld'⟩ := ih fun p hp => by
      rw [hworld]
      exact h p (List.mem_cons_of_mem _ hp)
    rw [settleAll_cons, List.map_cons, List.length_cons, List.replicate_succ, houts, hout]
    exact ⟨rfl, hentries'.trans hentries, hworld'.trans hworld⟩

theorem Reload.keys_entries_settleAll (setup : Setup σ) (left : List (Key × Entry)) (s : State σ) :
    (settleAll setup left s).2.entries.map Prod.fst = s.entries.map Prod.fst := by
  induction left generalizing s with
  | nil => rfl
  | cons p rest ih => exact (ih _).trans (settles setup p.1 p.2 s).keys

/-! ### Passes that change nothing -/

theorem Report.foldl_reused (n : Nat) (report : Report) :
    (List.replicate n Verdict.reused).foldl Report.add report =
      { report with reused := report.reused + n } := by
  induction n generalizing report with
  | zero => rfl
  | succ n ih =>
    rw [List.replicate_succ, List.foldl_cons, ih, add, Nat.add_assoc, Nat.add_comm 1]

namespace State

/-- Every entry that may change is settled. -/
def Settled (setup : Setup σ) (s : State σ) : Prop :=
  ∀ p ∈ Reload.snapshot s, p.2.Settled setup s.world

/-- **A pass finds settled entries as they are**, and leaves them and the world so. -/
theorem Settled.reloadAll_eq (h : s.Settled setup) :
    (s.reloadAll setup).1 = ⟨(Reload.snapshot s).length, 0, 0, 0⟩ ∧
      (s.reloadAll setup).2.entries = s.entries ∧ (s.reloadAll setup).2.world = s.world := by
  have hleft : ∀ p ∈ Reload.snapshot s, p.2.Settled setup s.beginPass.world := h
  obtain ⟨houts, hentries, hworld⟩ := Reload.settleAll_of_settled hleft
  rw [State.reloadAll_eq]
  refine ⟨?_, hentries, hworld⟩
  dsimp only
  rw [outcomes, houts, Report.foldl_reused, Report.zero, Nat.zero_add]

/-! ### The first pass -/

theorem keys_reloadAll (setup : Setup σ) (s : State σ) :
    (s.reloadAll setup).2.entries.map Prod.fst = s.entries.map Prod.fst := by
  rw [State.reloadAll_eq]
  exact Reload.keys_entries_settleAll setup (Reload.snapshot s) s.beginPass

/-- A pass leaves the sources of its entries as they are. -/
def LeavesSources (setup : Setup σ) (s : State σ) : Prop := ∀ key e, s.LeavesSource setup key e

theorem leavesSources_of
    (h : ∀ p ∈ Reload.snapshot s,
      setup.dumpDirectory = none ∨ s.DumpsAside setup p.2.descriptor.locator) :
    s.LeavesSources setup := by
  intro key e before rest hcut
  have hmem : (key, e) ∈ Reload.snapshot s := by simp [hcut]
  exact leavesSource_of (h _ hmem) key before rest hcut

/-- **After a pass in which nothing fails every entry that may change is settled**, if the pass leaves the
sources as they are. -/
theorem Sound.settled_reloadAll (hs : s.Sound) (hfailed : (s.reloadAll setup).1.failed = 0)
    (hleaves : s.LeavesSources setup) : (s.reloadAll setup).2.Settled setup := by
  intro p hp
  obtain ⟨hmem, hw⟩ := List.mem_filter.1 hp
  have hkeys := keys_reloadAll setup s
  have hfound : (s.reloadAll setup).2.entries.lookup p.1 = some p.2 :=
    lookup_eq_some_of_mem (hkeys ▸ hs.nodup) hmem
  have hkey : p.1 ∈ s.entries.map Prod.fst := by
    rw [← hkeys]
    exact List.mem_map_of_mem hmem
  obtain ⟨⟨key, e⟩, he, rfl⟩ := List.mem_map.1 hkey
  cases hwatchable : e.watchable with
  | false =>
    -- the pass has not looked at the entry, so it is the same and cannot change either
    have hsame := hfound.symm.trans (kept_reloadAll setup hs.nodup he hwatchable).2
    rw [Option.some.inj hsame, hwatchable] at hw
    cases hw
  | true =>
    obtain ⟨before, rest, r, out, x, hcut, rfl, hout, hx, hends⟩ :=
      ends_of_mem setup hs.nodup he hwatchable
    obtain ⟨hd, hsettled⟩ := hends.settled (ne_failed_of_reloadAll hfailed hout)
    rw [hfound, Option.some.injEq] at hx
    rw [hx]
    refine hsettled.of_overridesIn_eq ?_
    rw [hd]
    exact hleaves _ e before rest hcut

/-! ### Later calls -/

/-- What the sources of the entries hold is as it was before. -/
def SourcesKept (setup : Setup σ) (s r : State σ) : Prop :=
  ∀ p ∈ Reload.snapshot r, overridesIn setup.out setup.locator r.world p.2.descriptor.locator =
    overridesIn setup.out setup.locator s.world p.2.descriptor.locator

theorem SourcesKept.settled (hkept : SourcesKept setup s r)
    (h : ∀ p ∈ Reload.snapshot r, p.2.Settled setup s.world) : r.Settled setup :=
  fun p hp => (h p hp).of_overridesIn_eq (hkept p hp)

end State

section Get

variable {d : Descriptor} {b : Binding}

theorem Get.run_of_step {g g' : Get} (h : g.step setup s = (.inl g', r)) :
    (process setup).run g s = (process setup).run g' r :=
  Process.run_of_inl h

theorem Get.run_of_result {g : Get} {result : Except CacheError Instance}
    (h : g.step setup s = (.inr result, r)) : (process setup).run g s = (result, r) :=
  Process.run_of_inr h

/-- A get that has bound its contract installs an entry for it, unless no instance can be made. -/
theorem Get.entries_run_bound (hnone : s.entry? key = none) :
    ((process setup).run (.building key d (.bound b)) s).2.entries = s.entries ∨
      ∃ i, ((process setup).run (.building key d (.bound b)) s).2.entries =
        s.entries ++ [(key, .new d i b)] := by
  have hentries := entries_make setup d b s
  cases hmake : (setup.factory.produce (s.begun + 1) d b).2 with
  | error cause =>
    have hnext := Phase.make_of_error hmake
    rw [run_of_result (by simp only [step, Phase.next]; rw [hnext])]
    exact .inl hentries
  | ok table =>
    have hnext := Phase.make_of_ok hmake
    rw [run_of_step (by simp only [step, Phase.next]; rw [hnext])]
    generalize (Phase.make setup d b s).2 = made at hentries
    have hmissing : State.entry? (noteMade d (.made b ⟨s.activated + 1, table⟩) made) key = none := by
      rw [← hnone]
      exact congrArg (List.lookup key) hentries
    rw [run_of_result (by simp only [step, install, hmissing]; rfl)]
    exact .inr ⟨_, congrArg (· ++ _) hentries⟩

/-- **A get that nobody disturbs leaves the entries as they are or adds one**, for what its contract is
bound to. -/
theorem State.entries_get (setup : Setup σ) (s : State σ) (key : Key) (declared : Declaration) :
    (s.get setup key declared).2.entries = s.entries ∨
      ∃ d b i, (Resolution.resolve setup.out setup.locator s.world s.registry d).1 = .ok b ∧
        (s.get setup key declared).2.entries = s.entries ++ [(key, .new d i b)] := by
  cases he : s.entry? key with
  | some e =>
    rw [State.get_of_entry declared he]
    exact .inl rfl
  | none =>
    unfold State.get
    cases hd : declared.validate with
    | error cause =>
      rw [Get.run_of_result (by simp only [Get.step, he, hd]; rfl)]
      exact .inl rfl
    | ok d =>
      rcases ha : Resolution.approach setup.out setup.locator s.world s.registry d.locator with
        ⟨a, registry⟩
      rw [Get.run_of_step (by simp only [Get.step, he, hd]; rfl),
        Get.run_of_step (by simp only [Get.step, Phase.next, ha]; rfl),
        Get.run_of_step (by simp only [Get.step, Phase.next]; rfl)]
      cases hb : (a.observe setup.out s.world).bind d with
      | error cause =>
        rw [Get.run_of_result (by simp only [Get.step, Phase.next, Get.noteMade, hb]; rfl)]
        exact .inl rfl
      | ok b =>
        rw [Get.run_of_step (by simp only [Get.step, Phase.next, Get.noteMade, hb]; rfl)]
        have hresolve : (Resolution.resolve setup.out setup.locator s.world s.registry d).1 = .ok b := by
          rw [Resolution.resolve, ha]
          exact hb
        have hnone : State.entry? { s with registry } key = none := he
        refine (Get.entries_run_bound hnone).imp id ?_
        rintro ⟨i, hi⟩
        exact ⟨d, b, i, hresolve, hi⟩

end Get

/-! ### Later passes -/

/-- The states to which calls that follow one another take the cache, while what the sources of its entries
hold stays the same. -/
inductive Undisturbed (setup : Setup σ) (s : State σ) : State σ → Prop
  | here : Undisturbed setup s s
  | reload {r : State σ} (h : Undisturbed setup s r) : Undisturbed setup s (r.reloadAll setup).2
  | get {r : State σ} (h : Undisturbed setup s r) (key : Key) (declared : Declaration)
      (hkept : State.SourcesKept setup r (r.get setup key declared).2) :
      Undisturbed setup s (r.get setup key declared).2
  | invalidate {r : State σ} (h : Undisturbed setup s r) (key : Key) : Undisturbed setup s (r.invalidate key).2
  | clear {r : State σ} (h : Undisturbed setup s r) : Undisturbed setup s r.clear
  | outside {r : State σ} (h : Undisturbed setup s r) (world : σ) (registry : Watch.Registry)
      (hkept : State.SourcesKept setup r { r with world, registry }) :
      Undisturbed setup s { r with world, registry }

namespace State

theorem Settled.of_entries_subset (h : s.Settled setup) (hworld : r.world = s.world)
    (hsub : ∀ p ∈ r.entries, p ∈ s.entries) : r.Settled setup := by
  intro p hp
  obtain ⟨hmem, hw⟩ := List.mem_filter.1 hp
  rw [hworld]
  exact h p (List.mem_filter.2 ⟨hsub p hmem, hw⟩)

theorem Settled.reloadAll (h : s.Settled setup) : (s.reloadAll setup).2.Settled setup := by
  obtain ⟨-, hentries, hworld⟩ := h.reloadAll_eq
  exact h.of_entries_subset hworld fun p hp => hentries ▸ hp

theorem Settled.get (h : s.Settled setup) {declared : Declaration}
    (hkept : SourcesKept setup s (s.get setup key declared).2) :
    (s.get setup key declared).2.Settled setup := by
  refine hkept.settled fun p hp => ?_
  obtain ⟨hmem, hw⟩ := List.mem_filter.1 hp
  rcases entries_get setup s key declared with heq | ⟨d, b, i, hb, heq⟩
  · rw [heq] at hmem
    exact h p (List.mem_filter.2 ⟨hmem, hw⟩)
  · rw [heq, List.mem_append, List.mem_singleton] at hmem
    rcases hmem with hmem | rfl
    · exact h p (List.mem_filter.2 ⟨hmem, hw⟩)
    · exact Entry.settled_new i hb

theorem Settled.invalidate (h : s.Settled setup) (key : Key) : (s.invalidate key).2.Settled setup := by
  unfold State.invalidate
  split
  · exact h
  · exact h.of_entries_subset rfl fun p hp => List.mem_of_mem_filter hp

/-- **No call leads out of settled states** while the sources hold the same. -/
theorem Settled.of_undisturbed (h : s.Settled setup) (hr : Undisturbed setup s r) : r.Settled setup := by
  induction hr with
  | here => exact h
  | reload _ ih => exact ih.reloadAll
  | get _ key declared hkept ih => exact ih.get hkept
  | invalidate _ key ih => exact ih.invalidate key
  | clear _ ih => exact ih.of_entries_subset rfl fun p hp => absurd hp List.not_mem_nil
  | outside _ world registry hkept ih => exact hkept.settled ih

end State

/-- **Reloading again changes nothing.** Take a pass that nobody disturbs, in which nothing fails and which
leaves the sources of its entries as they are; it does so if it dumps nothing, or nothing over them. Let
calls follow, one after the other, while what the sources hold stays the same. Then every pass
among them finds each entry that may change as it is, and leaves all entries as they are. -/
theorem reloadAll_idempotent (setup : Setup σ) :
    (∀ s : State σ, (∀ p ∈ Reload.snapshot s,
        setup.dumpDirectory = none ∨ s.DumpsAside setup p.2.descriptor.locator) →
      s.LeavesSources setup) ∧
    ∀ s r : State σ, s.Sound → (s.reloadAll setup).1.failed = 0 → s.LeavesSources setup →
      Undisturbed setup (s.reloadAll setup).2 r →
      (r.reloadAll setup).1 = ⟨(r.entries.filter fun p => p.2.watchable).length, 0, 0, 0⟩ ∧
        (r.reloadAll setup).2.entries = r.entries := by
  refine ⟨fun s h => State.leavesSources_of h, ?_⟩
  intro s r hs hfailed hleaves hr
  have hsettled : r.Settled setup := (hs.settled_reloadAll hfailed hleaves).of_undisturbed hr
  obtain ⟨hreport, hentries, -⟩ := hsettled.reloadAll_eq
  exact ⟨hreport, hentries⟩

/-! ### A module dumped over the source and one dumped aside from it -/

section Dumped

/-- A world that is one file, over which the second module of the flag is dumped. -/
def dumpedOnce : Surroundings (Except Files.Fault String) :=
  { dumpedOver with
    dump := fun file _ name _ => if name = "app.Flags$CG2.class" then .error .notUtf8 else file }

def dumpedOnceSetup : Setup (Except Files.Fault String) := { dumpedOverSetup with out := dumpedOnce }

/-- The contract of the flag with that file. -/
def dumpedOnceDeclaration : Declaration :=
  { dumpedOverDeclaration with source := some "dump/app.Flags$CG2.class" }

/-- The flag has been got when there was no file, and now there is one. -/
def dumpedOnceState : State (Except Files.Fault String) :=
  (Machine.run dumpedOnceSetup (.new (.error .notFound) true)
    [.get 0 dumpedOnceDeclaration, .turn 0, .turn 0, .turn 0, .turn 0, .turn 0, .turn 0,
      .world (.ok "f=true\n")]).state

/-- The module that replaces the entry is dumped over the source, which is no text any more. So the next
pass replaces the entry again, although nothing else has happened. -/
theorem replaced_again_after_dump :
    dumpedOnceState.Reachable dumpedOnceSetup ∧
    (dumpedOnceState.reloadAll dumpedOnceSetup).1 = ⟨0, 1, 0, 0⟩ ∧
    (State.reloadAll dumpedOnceSetup (dumpedOnceState.reloadAll dumpedOnceSetup).2).1 =
      ⟨0, 1, 0, 0⟩ := by
  refine ⟨⟨_, _, _, rfl⟩, ?_⟩
  rw [State.reloadAll_eq, State.reloadAll_eq]
  decide +kernel

/-- The flag has been got, and then its file has been edited. -/
def editedState : State (List (String × Except Files.Fault String)) :=
  (Machine.run apartSetup (.new (flagsFile "f=true\n") true)
    [.get 0 flagDeclaration, .turn 0, .turn 0, .turn 0, .turn 0, .turn 0, .turn 0,
      .world (flagsFile "f=false\n")]).state

theorem dumpsAside_apart (s : State (List (String × Except Files.Fault String))) :
    s.DumpsAside apartSetup "flags.properties" := by
  intro before p rest _
  have hread : ∀ left : List (Key × Entry),
      overridesIn apartSetup.out apartSetup.locator
          (Reload.settleAll apartSetup left s.beginPass).2.world "flags.properties" =
        overridesIn apartSetup.out apartSetup.locator s.world "flags.properties" :=
    fun left => (sameSource_of_touches (Reload.touches_settleAll apartSetup left _)).overridesIn_eq
  rw [hread, hread]

/-- A pass replaces the flag, and the two passes after it keep it. -/
theorem reloadAll_idempotent_edited :
    editedState.Sound ∧ editedState.LeavesSources apartSetup ∧
    (editedState.reloadAll apartSetup).1 = ⟨0, 1, 0, 0⟩ ∧
    ∃ second, second = State.reloadAll apartSetup (editedState.reloadAll apartSetup).2 ∧
      second.1 = ⟨1, 0, 0, 0⟩ ∧ (second.2.reloadAll apartSetup).1 = ⟨1, 0, 0, 0⟩ ∧
      (second.2.reloadAll apartSetup).2.entries = (editedState.reloadAll apartSetup).2.entries := by
  obtain ⟨hleft, hagain⟩ := reloadAll_idempotent apartSetup
  have hreachable : editedState.Reachable apartSetup := ⟨_, _, _, rfl⟩
  have hs : editedState.Sound := hreachable.sound
  obtain ⟨hfirst, hlength⟩ : (editedState.reloadAll apartSetup).1 = ⟨0, 1, 0, 0⟩ ∧
      ((editedState.reloadAll apartSetup).2.entries.filter fun p => p.2.watchable).length = 1 := by
    rw [State.reloadAll_eq]
    decide +kernel
  have hlocators : ∀ p ∈ Reload.snapshot editedState, p.2.descriptor.locator = "flags.properties" := by
    decide +kernel
  have hleaves : editedState.LeavesSources apartSetup := hleft _ fun p hp => by
    rw [hlocators p hp]
    exact .inr (dumpsAside_apart editedState)
  have hfailed : (editedState.reloadAll apartSetup).1.failed = 0 := by rw [hfirst]
  obtain ⟨hsecond, hentries⟩ := hagain editedState _ hs hfailed hleaves .here
  obtain ⟨hthird, hentries'⟩ := hagain editedState _ hs hfailed hleaves (.reload .here)
  rw [hlength] at hsecond
  rw [hentries, hlength] at hthird
  exact ⟨hs, hleaves, hfirst, _, rfl, hsecond, hthird, hentries'.trans hentries⟩

end Dumped

end TypedConfig.Cache
