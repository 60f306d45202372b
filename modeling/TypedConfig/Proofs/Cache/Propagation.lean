import TypedConfig.Proofs.Cache.Alone
import TypedConfig.Proofs.Resolution.Fingerprint

/-!
How changes reach those who get. After a pass that runs alone and in which nothing fails, a get answers
the values that the source holds, but for one case: texts that clash have one fingerprint, and then the
values from before are kept (`get_after_reloadAll`).
-/

namespace TypedConfig.Cache

open Contract (Accessor Declaration Descriptor)
open Resolution (Binding Clash Observation ResolvedAccessor Resolves keyedTexts)
open TypedConfig.Module (slotsOf)

section Bindings

variable {d : Descriptor} {b b' : Binding}

theorem slotsOf_eq_of_texts (hb : b.Of d) (hb' : b'.Of d)
    (heq : keyedTexts b.accessors = keyedTexts b'.accessors) : slotsOf b = slotsOf b' := by
  have h := hb.accessors
  have h' := hb'.accessors
  unfold slotsOf
  generalize b.accessors = resolved at h heq ⊢
  generalize b'.accessors = resolved' at h' heq ⊢
  generalize d.accessors = accessors at h h'
  induction h generalizing resolved' with
  | nil =>
    cases h'
    rfl
  | @cons a r accessors resolved hr _ ih =>
    cases h' with
    | @cons _ r' _ resolved' hr' hrest =>
      simp only [keyedTexts, List.map_cons, List.cons.injEq, Prod.mk.injEq] at heq
      obtain ⟨⟨-, htext⟩, hrests⟩ := heq
      have hvalue : r.value = r'.value := by
        have h := hr.value
        rw [htext, hr'.value] at h
        exact (Except.ok.inj h).symm
      rw [List.map_cons, List.map_cons, ih resolved' hrests hrest, hr.name, hr'.name, hvalue]

end Bindings

section Pass

variable {σ : Type} {setup : Setup σ} {s : State σ} {key : Key} {e : Entry}

/-- What a pass leaves of an entry that was made from a binding. -/
theorem entry_after_reloadAll (hs : s.Sound) (he : (key, e) ∈ s.entries) (hw : e.watchable = true)
    (hleaves : s.LeavesSource setup key e)
    (hfailed : (s.reloadAll setup).1.failed = 0) :
    ∃ new e',
      (Resolution.resolve setup.out setup.locator (s.reloadAll setup).2.world
        (s.reloadAll setup).2.registry e.descriptor).1 = .ok new ∧ new.Of e.descriptor ∧
      State.entry? (s.reloadAll setup).2 key = some e' ∧
      (new.fingerprint = e.fingerprint → e' = e) ∧
      (new.fingerprint ≠ e.fingerprint → e'.inst.table.slots = slotsOf new) := by
  obtain ⟨before, rest, _, out, e', hcut, rfl, hout, he', hends⟩ :=
    State.ends_of_mem setup hs.nodup he hw
  obtain ⟨b, ho, hkept, hnew⟩ := hends.of_ne_failed (State.ne_failed_of_reloadAll hfailed hout)
    (hs.entries _ he).checked fun b hb => Resolution.of_resolve hb
  have hb := Resolution.of_resolve ho
  -- the source holds the same when the entry is looked at and after the pass
  have haccessors := Resolution.accessors_of_resolve ho
  rw [← hleaves before rest hcut] at haccessors
  obtain ⟨new, hresolve, hsame⟩ :=
    Resolution.exists_resolve (s.reloadAll setup).2.registry haccessors
  have hof := Resolution.of_resolve hresolve
  have hfingerprint : new.fingerprint = b.fingerprint := by
    rw [hof.fingerprint, hb.fingerprint, hsame]
  have hslots : slotsOf new = slotsOf b := by rw [slotsOf, slotsOf, hsame]
  refine ⟨new, e', hresolve, hof, he', ?_, ?_⟩
  · rw [hfingerprint]
    exact hkept
  · rw [hfingerprint, hslots]
    exact hnew

end Pass

/-- **Changes reach those who get, unless texts clash.** Take an entry with a source, and a pass alone in
which nothing fails and which leaves that source as it is; it does so if nothing is dumped, or nothing over
the source. After it a get of the contract answers an instance, and what the source holds is resolved.
The instance has the resolved values except if the texts clash with those that the entry was made from
and the values are others. For two bindings of one contract, a common fingerprint means common texts
except if the texts clash. -/
theorem get_after_reloadAll {σ : Type} (setup : Setup σ) :
    (∀ (s : State σ) (key : Key) (e : Entry) (declared : Declaration), s.Reachable setup →
      (key, e) ∈ s.entries → e.watchable = true → s.LeavesSource setup key e →
      (s.reloadAll setup).1.failed = 0 →
      ∃ old new i, e.MadeFrom old ∧
        (Resolution.resolve setup.out setup.locator (s.reloadAll setup).2.world
          (s.reloadAll setup).2.registry e.descriptor).1 = .ok new ∧
        ((s.reloadAll setup).2.get setup key declared).1 = .ok i ∧
        (i.table.slots = slotsOf new ↔
          ¬ (Clash (keyedTexts old.accessors) (keyedTexts new.accessors) ∧
            slotsOf old ≠ slotsOf new))) ∧
    (∀ (s : State σ) (key : Key) (e : Entry),
      setup.dumpDirectory = none ∨ s.DumpsAside setup e.descriptor.locator →
      s.LeavesSource setup key e) ∧
    ∀ (d : Descriptor) (o o' : Observation) (b b' : Binding),
      o.bind d = .ok b → o'.bind d = .ok b' →
      ((b.fingerprint = b'.fingerprint →
          b.accessors.map ResolvedAccessor.text = b'.accessors.map ResolvedAccessor.text) ↔
        ¬ Clash (keyedTexts b.accessors) (keyedTexts b'.accessors)) := by
  refine ⟨?_, fun _ key _ h => State.leavesSource_of h key, ?_⟩
  · intro s key e declared hs he hw hleaves hfailed
    obtain ⟨old, hold⟩ := hs.sound.entries _ he
    obtain ⟨new, e', hresolve, hnew, he', hkept, hmade⟩ :=
      entry_after_reloadAll hs.sound he hw hleaves hfailed
    refine ⟨old, new, e'.inst, hold, hresolve, ?_, ?_⟩
    · rw [State.get_of_entry declared he']
    have hseparates := hold.binding.fingerprint_separates_iff hnew
    rw [← Resolution.keyedTexts_eq_iff hold.binding.accessors hnew.accessors] at hseparates
    by_cases hf : new.fingerprint = e.fingerprint
    · -- the entry is kept, with the values that it was made with
      rw [hkept hf, hold.slots]
      rw [hold.fingerprint] at hf
      constructor
      · intro hslots hclash
        exact hclash.2 hslots
      · intro hno
        by_contra hslots
        have hclash : ¬ Clash (keyedTexts old.accessors) (keyedTexts new.accessors) :=
          fun hclash => hno ⟨hclash, hslots⟩
        exact hslots (slotsOf_eq_of_texts hold.binding hnew (hseparates.2 hclash hf.symm))
    · have hclash : ¬ Clash (keyedTexts old.accessors) (keyedTexts new.accessors) := by
        rw [← hseparates]
        intro heq
        rw [hold.fingerprint] at hf
        exact absurd heq.symm hf
      exact iff_of_true (hmade hf) fun h => hclash h.1
  · intro d o o' b b' hb hb'
    exact (Resolution.of_bind hb).fingerprint_separates_iff (Resolution.of_bind hb')

/-! ### Two texts -/

section Pair

/-- A world that is the text of one file, to which every path leads. -/
def wholeFile : Surroundings String where
  environment _ _ := none
  readText text _ := .ok text
  canonical _ _ := .ok ⟨[]⟩
  subscribe _ _ := .ok ()
  dump text _ _ _ := text

def pairSetup : Setup String := ⟨wholeFile, .default, .dispatch, none⟩

def pairDeclaration : Declaration :=
  ⟨"app::Pair", true, some "pair.properties",
    [⟨"a", "String", some "a", some "none", 0⟩, ⟨"b", "String", some "b", some "none", 0⟩]⟩

def pairDescriptor : Descriptor :=
  ⟨"app::Pair", "pair.properties", [⟨"a", .text, "a", "none"⟩, ⟨"b", .text, "b", "none"⟩]⟩

/-- What the contract is bound to when its file holds the two texts. -/
def pairBinding (a b fingerprint : String) : Binding :=
  ⟨"app::Pair", [⟨"a", .text, "a", a, .text a, false⟩, ⟨"b", .text, "b", b, .text b, false⟩],
    fingerprint, some ⟨"pair.properties"⟩, true, []⟩

def pairBefore : Binding := pairBinding "x" "y\nb=z" "a=x\nb=y\nb=z\n"

/-- The file has been edited so that the line break stands in the first text. -/
def pairAfter : Binding := pairBinding "x\nb=y" "z" "a=x\nb=y\nb=z\n"

def pairEntry : Entry :=
  .new pairDescriptor ⟨1, ⟨"app/Pair", "app::Pair", slotsOf pairBefore⟩⟩ pairBefore

/-- The contract has been got, and then its file has been edited. -/
def pairState (text : String) : State String :=
  (Machine.run pairSetup (.new "a=x\nb=y\\nb=z\n" true)
    [.get 0 pairDeclaration, .turn 0, .turn 0, .turn 0, .turn 0, .turn 0, .turn 0, .world text]).state

theorem reachable_pairState (text : String) : (pairState text).Reachable pairSetup :=
  ⟨_, _, _, rfl⟩

/-- A pass over one entry takes at most seven steps. -/
theorem reloadAll_pairState {text : String} {r : Report}
    (h : ((Reload.process pairSetup).steps 7 .start (pairState text)).1.getRight? = some r) :
    (pairState text).reloadAll pairSetup =
      (r, ((Reload.process pairSetup).steps 7 .start (pairState text)).2) :=
  Process.run_of_steps h

/-- A line break moves from one text to the other, and a pass keeps the values from before. -/
theorem stale_after_reloadAll :
    (pairState "a=x\\nb=y\nb=z\n").Reachable pairSetup ∧
    (0, pairEntry) ∈ (pairState "a=x\\nb=y\nb=z\n").entries ∧ pairEntry.watchable = true ∧
    ((pairState "a=x\\nb=y\nb=z\n").reloadAll pairSetup).1 = ⟨1, 0, 0, 0⟩ ∧
    (Resolution.resolve pairSetup.out pairSetup.locator
      ((pairState "a=x\\nb=y\nb=z\n").reloadAll pairSetup).2.world
      ((pairState "a=x\\nb=y\nb=z\n").reloadAll pairSetup).2.registry pairDescriptor).1 =
        .ok pairAfter ∧
    (((pairState "a=x\\nb=y\nb=z\n").reloadAll pairSetup).2.get pairSetup 0 pairDeclaration).1 =
      .ok pairEntry.inst ∧
    pairEntry.inst.table.slots ≠ slotsOf pairAfter ∧
    pairBefore.fingerprint = pairAfter.fingerprint ∧
    pairBefore.accessors.map ResolvedAccessor.text ≠
      pairAfter.accessors.map ResolvedAccessor.text := by
  rw [reloadAll_pairState (r := ⟨1, 0, 0, 0⟩) (by decide +kernel)]
  refine ⟨reachable_pairState _, by decide +kernel, rfl, rfl, by decide +kernel, ?_, by decide, rfl,
    by decide⟩
  rw [State.get_of_entry (e := pairEntry) pairDeclaration (by decide +kernel)]

theorem get_after_reloadAll_pair :
    (pairState "a=x\nb=z\n").Reachable pairSetup ∧
    (0, pairEntry) ∈ (pairState "a=x\nb=z\n").entries ∧ pairEntry.watchable = true ∧
    (pairState "a=x\nb=z\n").LeavesSource pairSetup 0 pairEntry ∧
    ((pairState "a=x\nb=z\n").reloadAll pairSetup).1.failed = 0 ∧
    (∃ old new i, pairEntry.MadeFrom old ∧
      (Resolution.resolve pairSetup.out pairSetup.locator
        ((pairState "a=x\nb=z\n").reloadAll pairSetup).2.world
        ((pairState "a=x\nb=z\n").reloadAll pairSetup).2.registry pairDescriptor).1 = .ok new ∧
      (((pairState "a=x\nb=z\n").reloadAll pairSetup).2.get pairSetup 0 pairDeclaration).1 =
        .ok i ∧
      (i.table.slots = slotsOf new ↔
        ¬ (Clash (keyedTexts old.accessors) (keyedTexts new.accessors) ∧
          slotsOf old ≠ slotsOf new))) ∧
    ((pairBefore.fingerprint = pairAfter.fingerprint →
        pairBefore.accessors.map ResolvedAccessor.text =
          pairAfter.accessors.map ResolvedAccessor.text) ↔
      ¬ Clash (keyedTexts pairBefore.accessors) (keyedTexts pairAfter.accessors)) := by
  have hmem : (0, pairEntry) ∈ (pairState "a=x\nb=z\n").entries := by decide +kernel
  have hfailed : ((pairState "a=x\nb=z\n").reloadAll pairSetup).1.failed = 0 := by
    rw [reloadAll_pairState (r := ⟨0, 1, 0, 0⟩) (by decide +kernel)]
  have hbefore : Observation.bind ⟨some ⟨"pair.properties"⟩, .read "a=x\nb=y\\nb=z\n", []⟩
      pairDescriptor = .ok pairBefore := by decide +kernel
  have hafter : Observation.bind ⟨some ⟨"pair.properties"⟩, .read "a=x\\nb=y\nb=z\n", []⟩
      pairDescriptor = .ok pairAfter := by decide +kernel
  have hreachable := reachable_pairState "a=x\nb=z\n"
  obtain ⟨hget, hleaves, hseparates⟩ := get_after_reloadAll pairSetup
  have hleaves' := hleaves (pairState "a=x\nb=z\n") 0 pairEntry (.inl rfl)
  exact ⟨hreachable, hmem, rfl, hleaves', hfailed,
    hget _ 0 pairEntry pairDeclaration hreachable hmem rfl hleaves' hfailed,
    hseparates _ _ _ _ _ hbefore hafter⟩

end Pair

end TypedConfig.Cache
