import TypedConfig.Proofs.Cache.Reports
import TypedConfig.Proofs.Watch.Registry

/-!
Passes treat contracts independently. What a pass that nobody disturbs makes of an entry follows from the
source of its contract and from the registry at the beginning (`State.ends_reloadAll`): other entries only
register directories that the subscriber accepts, and use up numbers of modules and identities of
instances. So it does not matter which other entries there are, in which order the pass comes to them, and
whether they fail (`reloadAll_independent`), as long as no module that the pass has dumped before it comes
to the entry lies over the source (`reused_after_dump`).
-/

namespace TypedConfig.Resolution

variable {σ : Type} {out : Surroundings σ} {settings : Source.Locator} {w w' w'' : σ}
  {registry registry' : Watch.Registry} {locator : String} {path : Path}

/-- Worlds in which a locator leads to the same file, with the same address and the same text. -/
structure SameSource (out : Surroundings σ) (settings : Source.Locator) (locator : String) (w w' : σ) :
    Prop where
  locate : settings.locate (out.environment w') locator = settings.locate (out.environment w) locator
  address : ∀ path, settings.locate (out.environment w) locator = .file path →
    Watch.Registry.address (out.canonical w') path = Watch.Registry.address (out.canonical w) path
  text : ∀ path, settings.locate (out.environment w) locator = .file path →
    out.readText w' path = out.readText w path

theorem SameSource.refl (out : Surroundings σ) (settings : Source.Locator) (locator : String) (w : σ) :
    SameSource out settings locator w w :=
  ⟨rfl, fun _ _ => rfl, fun _ _ => rfl⟩

theorem SameSource.trans (h : SameSource out settings locator w w')
    (h' : SameSource out settings locator w' w'') : SameSource out settings locator w w'' where
  locate := h'.locate.trans h.locate
  address path hpath := (h'.address path (h.locate.trans hpath)).trans (h.address path hpath)
  text path hpath := (h'.text path (h.locate.trans hpath)).trans (h.text path hpath)

theorem SameSource.overridesIn_eq (h : SameSource out settings locator w w') :
    overridesIn out settings w' locator = overridesIn out settings w locator := by
  unfold overridesIn
  rw [h.locate]
  cases hlocate : settings.locate (out.environment w) locator with
  | unresolved name => rfl
  | file path =>
    dsimp only
    rw [h.text path hlocate]

theorem grows_approach (out : Surroundings σ) (settings : Source.Locator) (w : σ)
    (registry : Watch.Registry) (locator : String) :
    registry.Grows (out.subscribe w) (approach out settings w registry locator).2 := by
  rcases registry_approach out settings w registry locator with h | ⟨path, h⟩
  · rw [h]
    exact .refl _ registry
  · rw [h]
    exact registry.grows_register (out.canonical w) (out.subscribe w) path

theorem locate_of_approach (h : (approach out settings w registry locator).1.path? = some path) :
    settings.locate (out.environment w) locator = .file path := by
  unfold approach at h
  split at h
  · cases h
  · rename_i path' hlocate
    have hpath : some path' = some path := by split at h <;> exact h
    rw [hlocate, Option.some.inj hpath]

/-- **A locator leads to the same, with the same failure**, after other registrations. -/
theorem approach_congr (hs : SameSource out settings locator w w')
    (hsubscribe : out.subscribe w' = out.subscribe w) (hg : registry.Grows (out.subscribe w) registry') :
    (approach out settings w' registry' locator).1 = (approach out settings w registry locator).1 := by
  unfold approach
  rw [hs.locate]
  cases hlocate : settings.locate (out.environment w) locator with
  | unresolved name => rfl
  | file path =>
    have herror : ∀ e, (registry'.register (out.canonical w') (out.subscribe w) path).1 = .error e ↔
        (registry.register (out.canonical w) (out.subscribe w) path).1 = .error e :=
      fun e => hg.register_eq_error_iff (hs.address path hlocate)
    rw [hsubscribe]
    dsimp only
    generalize registry'.register (out.canonical w') (out.subscribe w) path = later at herror ⊢
    generalize registry.register (out.canonical w) (out.subscribe w) path = first at herror ⊢
    obtain ⟨e | isNew, r⟩ := first
    · have h := (herror e).2 rfl
      obtain ⟨e' | isNew', r'⟩ := later
      · cases h
        rfl
      · cases h
    · obtain ⟨e' | isNew', r'⟩ := later
      · cases (herror e').1 rfl
      · rfl

/-- **A contract is bound to the same** after other registrations. -/
theorem resolve_congr {d : Contract.Descriptor} (hs : SameSource out settings d.locator w w')
    (hsubscribe : out.subscribe w' = out.subscribe w) (hg : registry.Grows (out.subscribe w) registry') :
    (resolve out settings w' registry' d).1 = (resolve out settings w registry d).1 := by
  have ha := approach_congr hs hsubscribe hg
  have hobserve : (approach out settings w registry d.locator).1.observe out w' =
      (approach out settings w registry d.locator).1.observe out w := by
    unfold Approach.observe
    cases hpath : (approach out settings w registry d.locator).1.path? with
    | none => rfl
    | some path =>
      dsimp only
      rw [hs.text path (locate_of_approach hpath)]
  show ((approach out settings w' registry' d.locator).1.observe out w').bind d =
    ((approach out settings w registry d.locator).1.observe out w).bind d
  rw [ha, hobserve]

end TypedConfig.Resolution

namespace TypedConfig.Cache

open Contract (Declaration Descriptor)
open Resolution (Binding ConversionFailure SameSource)
open TypedConfig.Module (Factory slotsOf)

variable {σ : Type} {setup : Setup σ} {s s' : State σ} {key : Key} {e x x' : Entry} {w w' : σ}
  {out out' : Except CacheError Verdict} {left : List (Key × Entry)} {locator : String}

/-! ### What entries share in a pass -/

/-- A pass finds the source of an entry as it was when the pass began. -/
def State.FindsSource (setup : Setup σ) (s : State σ) (key : Key) (e : Entry) : Prop :=
  ∀ before rest, Reload.snapshot s = before ++ (key, e) :: rest →
    SameSource setup.out setup.locator e.descriptor.locator s.world
      (Reload.settleAll setup before s.beginPass).2.world

/-- Until a pass comes to an entry the subscriber answers as it did when the pass began. -/
def State.FindsSubscriber (setup : Setup σ) (s : State σ) (key : Key) (e : Entry) : Prop :=
  ∀ before between rest, Reload.snapshot s = before ++ between ++ (key, e) :: rest →
    setup.out.subscribe (Reload.settleAll setup before s.beginPass).2.world =
      setup.out.subscribe s.world

/-- **A pass finds a source as it was if it dumps nothing or comes to no other entry.** -/
theorem State.finds_of (h : setup.dumpDirectory = none ∨ s.entries = [(key, e)]) :
    s.FindsSource setup key e ∧ s.FindsSubscriber setup key e := by
  -- in both cases the world is the same when the pass comes to the entry
  have hworld : ∀ before between rest, Reload.snapshot s = before ++ between ++ (key, e) :: rest →
      (Reload.settleAll setup before s.beginPass).2.world = s.world := by
    intro before between rest hcut
    rcases h with hnone | honly
    · exact (Reload.touches_settleAll setup before s.beginPass).eq_of_none hnone
    · have hlength : (Reload.snapshot s).length ≤ 1 := by
        rw [Reload.snapshot, honly]
        exact List.length_filter_le ..
      simp only [hcut, List.length_append, List.length_cons] at hlength
      obtain rfl : before = [] := List.length_eq_zero_iff.1 (by omega)
      rfl
  constructor
  · intro before rest hcut
    rw [hworld before [] rest (by simpa using hcut)]
    exact .refl ..
  · intro before between rest hcut
    rw [hworld before between rest hcut]

/-- **Entries that are settled only register directories that the subscriber accepts**, if its answers
stay the same. -/
theorem Reload.grows_settleAll (left : List (Key × Entry)) (s : State σ)
    (hsubscribe : ∀ before rest, left = before ++ rest →
      setup.out.subscribe (settleAll setup before s).2.world = setup.out.subscribe s.world) :
    s.registry.Grows (setup.out.subscribe s.world) (settleAll setup left s).2.registry := by
  induction left generalizing s with
  | nil => exact .refl ..
  | cons p rest ih =>
    obtain ⟨key, e⟩ := p
    have hfirst := Resolution.grows_approach setup.out setup.locator s.world s.registry
      e.descriptor.locator
    have hregistry : (settle setup key e s).2.registry =
        (Resolution.approach setup.out setup.locator s.world s.registry e.descriptor.locator).2 :=
      (settles setup key e s).registry
    rw [← hregistry] at hfirst
    have hsettled : setup.out.subscribe (settle setup key e s).2.world =
        setup.out.subscribe s.world := hsubscribe [(key, e)] rest rfl
    have hrest := ih (settle setup key e s).2 fun before rest' hcut => by
      rw [hsettled]
      exact hsubscribe ((key, e) :: before) rest' (by rw [hcut, List.cons_append])
    rw [hsettled] at hrest
    exact hfirst.trans hrest

/-- **What a pass that nobody disturbs makes of an entry follows from its beginning.** -/
theorem State.ends_reloadAll (hnodup : (s.entries.map Prod.fst).Nodup) (hmem : (key, e) ∈ s.entries)
    (hw : e.watchable = true) (hsource : s.FindsSource setup key e)
    (hsubscriber : s.FindsSubscriber setup key e) :
    ∃ out x, (s.outcomes setup).lookup key = some out ∧
      State.entry? (s.reloadAll setup).2 key = some x ∧
      Reload.Ends setup
        (Resolution.resolve setup.out setup.locator s.world s.registry e.descriptor).1 e out x := by
  obtain ⟨before, rest, _, out, x, hcut, rfl, hout, hx, hends⟩ := ends_of_mem setup hnodup hmem hw
  have hgrows : s.registry.Grows (setup.out.subscribe s.world)
      (Reload.settleAll setup before s.beginPass).2.registry := by
    refine Reload.grows_settleAll before s.beginPass fun left between hleft => ?_
    exact hsubscriber left between rest (by rw [hcut, hleft])
  have hsubscribe := hsubscriber before [] rest (by rw [hcut, List.append_nil])
  rw [Resolution.resolve_congr (hsource before rest hcut) hsubscribe hgrows] at hends
  exact ⟨out, x, hout, hx, hends⟩

/-- An entry that cannot change is not looked at. -/
theorem State.kept_reloadAll (setup : Setup σ) (hnodup : (s.entries.map Prod.fst).Nodup)
    (hmem : (key, e) ∈ s.entries) (hw : e.watchable = false) :
    (s.outcomes setup).lookup key = none ∧ State.entry? (s.reloadAll setup).2 key = some e := by
  have hin : s.entries.lookup key = some e := lookup_eq_some_of_mem hnodup hmem
  have hnot : key ∉ (Reload.snapshot s).map Prod.fst := by
    intro h
    obtain ⟨p, hp, rfl⟩ := List.mem_map.1 h
    obtain ⟨hp, hwatchable⟩ := List.mem_filter.1 hp
    rw [lookup_eq_some_of_mem hnodup hp] at hin
    rw [Option.some.inj hin, hw] at hwatchable
    cases hwatchable
  constructor
  · rw [List.lookup_eq_none_iff]
    rintro p hp
    rw [bne_iff_ne]
    rintro rfl
    rw [← Reload.keys_settleAll setup _ s.beginPass] at hnot
    exact hnot (List.mem_map_of_mem hp)
  · rw [reloadAll_eq]
    exact (Reload.lookup_settleAll setup s.beginPass hnot).trans hin

/-! ### Two passes -/

/-- Entries of one contract with the same values that differ in the identities of their instances and in
the numbers in the type names at most. -/
structure Entry.Alike (factory : Factory) (e e' : Entry) : Prop where
  descriptor : e'.descriptor = e.descriptor
  fingerprint : e'.fingerprint = e.fingerprint
  watchable : e'.watchable = e.watchable
  warnings : e'.warnings = e.warnings
  contract : e'.inst.table.contract = e.inst.table.contract
  slots : e'.inst.table.slots = e.inst.table.slots
  typeName : ∃ n n', e.inst.table.typeName = typeNameOf factory e.descriptor.typeName n ∧
    e'.inst.table.typeName = typeNameOf factory e.descriptor.typeName n'

theorem Entry.alike_new {d : Descriptor} {b : Binding} {i i' : Instance} {n n' : Nat} (hd : Checked d)
    (hb : b.Of d) (hi : (setup.factory.produce n d b).2 = .ok i.table)
    (hi' : (setup.factory.produce n' d b).2 = .ok i'.table) :
    (Entry.new d i b).Alike setup.factory (.new d i' b) := by
  have htable := table_of_produce hd hb hi
  have htable' := table_of_produce hd hb hi'
  refine ⟨rfl, rfl, rfl, rfl, ?_, ?_, n, n', ?_, ?_⟩
  · show i'.table.contract = i.table.contract
    rw [htable, htable']
  · show i'.table.slots = i.table.slots
    rw [htable, htable']
  · exact congrArg Module.Loaded.typeName htable
  · exact congrArg Module.Loaded.typeName htable'

/-- Two passes have come to one outcome on an entry and have left the same of it: entries that are alike
in its place, or the entry itself. -/
inductive Reload.Agree (factory : Factory) (e x x' : Entry) : Except CacheError Verdict → Prop
  | replaced (hd : x.descriptor = e.descriptor) (h : x.Alike factory x') :
      Agree factory e x x' (.ok .replaced)
  | reused (hx : x = e) (hx' : x' = e) : Agree factory e x x' (.ok .reused)
  | failed {cause} (hx : x = e) (hx' : x' = e) : Agree factory e x x' (.error cause)

/-- **An entry comes to one end for what its contract is bound to**, unless no instance can be made. -/
theorem Reload.Ends.agree {o : Except ConversionFailure Binding} (h : Ends setup o e out x)
    (h' : Ends setup o e out' x') (hd : Checked e.descriptor)
    (ho : ∀ b, o = .ok b → b.Of e.descriptor) (hmade : ∀ cause, out ≠ .error (.production cause))
    (hmade' : ∀ cause, out' ≠ .error (.production cause)) :
    out' = out ∧ Agree setup.factory e x x' out := by
  cases h with
  | unresolved hcause =>
    cases h' with
    | unresolved hcause' =>
      rw [hcause] at hcause'
      cases hcause'
      exact ⟨rfl, .failed rfl rfl⟩
    | reused hb' | unmade hb' | replaced hb' =>
      rw [hcause] at hb'
      cases hb'
  | unmade => exact absurd rfl (hmade _)
  | reused hb hf =>
    cases h' with
    | reused => exact ⟨rfl, .reused rfl rfl⟩
    | unmade => exact absurd rfl (hmade' _)
    | unresolved hcause' =>
      rw [hb] at hcause'
      cases hcause'
    | replaced hb' hf' =>
      rw [hb] at hb'
      cases hb'
      exact absurd hf hf'
  | @replaced b i n hb hf hi =>
    cases h' with
    | replaced hb' hf' hi' =>
      rw [hb] at hb'
      cases hb'
      exact ⟨rfl, .replaced rfl (Entry.alike_new hd (ho b hb) hi hi')⟩
    | unmade => exact absurd rfl (hmade' _)
    | unresolved hcause' =>
      rw [hb] at hcause'
      cases hcause'
    | reused hb' hf' =>
      rw [hb] at hb'
      cases hb'
      exact absurd hf' hf

/-- **Passes treat contracts independently.** The report of a pass that nobody disturbs counts one outcome
for each entry of its snapshot. Take an entry in two states of a cache that have their world and their
registry in common, for example in a state and in the one that has no other entry, or the same entries in
another order. If each of the two passes comes to the entry when its source and the subscriber are as they
were at the beginning, and none fails to make an instance for it, the outcome is the same in both: the
entry is not looked at if it cannot change, it fails for the same cause, it is kept, or entries are put in
its place that differ in the identities of the instances and the numbers in the type names at most. A pass
finds all as it was if nothing is dumped, or if there is no other entry; the subscriber is the same if its
answers depend on the directory only. -/
theorem reloadAll_independent (setup : Setup σ) :
    (∀ (s : State σ) (v : Verdict), (s.reloadAll setup).1.tally v =
      ((s.outcomes setup).map fun p => verdictOf p.2).count v) ∧
    (∀ s : State σ, (s.outcomes setup).map Prod.fst = (Reload.snapshot s).map Prod.fst) ∧
    (∀ (s : State σ) (key : Key) (e : Entry), setup.dumpDirectory = none ∨ s.entries = [(key, e)] →
      s.FindsSource setup key e ∧ s.FindsSubscriber setup key e) ∧
    (∀ (s : State σ) (key : Key) (e : Entry),
      (∀ w w', setup.out.subscribe w = setup.out.subscribe w') → s.FindsSubscriber setup key e) ∧
    ∀ (s s' : State σ) (key : Key) (e : Entry), s.Sound → s'.Sound → s'.world = s.world →
      s'.registry = s.registry → (key, e) ∈ s.entries → (key, e) ∈ s'.entries →
      s.FindsSource setup key e → s.FindsSubscriber setup key e →
      s'.FindsSource setup key e → s'.FindsSubscriber setup key e →
      (∀ cause, (s.outcomes setup).lookup key ≠ some (.error (.production cause))) →
      (∀ cause, (s'.outcomes setup).lookup key ≠ some (.error (.production cause))) →
      (s'.outcomes setup).lookup key = (s.outcomes setup).lookup key ∧
      ∃ x x', State.entry? (s.reloadAll setup).2 key = some x ∧
        State.entry? (s'.reloadAll setup).2 key = some x' ∧
        (e.watchable = false ∧ (s.outcomes setup).lookup key = none ∧ x = e ∧ x' = e ∨
          e.watchable = true ∧ ∃ out, (s.outcomes setup).lookup key = some out ∧
            Reload.Agree setup.factory e x x' out) := by
  refine ⟨fun s v => s.tally_reloadAll setup v, fun s => Reload.keys_settleAll setup _ s.beginPass,
    fun s key e h => State.finds_of h, fun s key e hsubscribe _ _ _ _ => hsubscribe _ _, ?_⟩
  intro s s' key e hs hs' hworld hregistry hmem hmem' hsource hsubscriber hsource' hsubscriber' hmade
    hmade'
  cases hw : e.watchable with
  | false =>
    obtain ⟨hnone, hx⟩ := State.kept_reloadAll setup hs.nodup hmem hw
    obtain ⟨hnone', hx'⟩ := State.kept_reloadAll setup hs'.nodup hmem' hw
    exact ⟨hnone'.trans hnone.symm, e, e, hx, hx', .inl ⟨rfl, hnone, rfl, rfl⟩⟩
  | true =>
    obtain ⟨out, x, hout, hx, hends⟩ := State.ends_reloadAll hs.nodup hmem hw hsource hsubscriber
    obtain ⟨out', x', hout', hx', hends'⟩ :=
      State.ends_reloadAll hs'.nodup hmem' hw hsource' hsubscriber'
    rw [hworld, hregistry] at hends'
    obtain ⟨rfl, hagree⟩ := hends.agree hends' (hs.entries _ hmem).checked
      (fun b hb => Resolution.of_resolve hb) (fun cause heq => hmade cause (by rw [hout, heq]))
      (fun cause heq => hmade' cause (by rw [hout', heq]))
    exact ⟨hout'.trans hout.symm, x, x', hx, hx', .inr ⟨rfl, out', hout, hagree⟩⟩

/-! ### Modules dumped over a source and apart from it -/

section Dumped

/-- A world that is one file, in the directory into which modules are dumped. The third module of the flag
is written over it, and is no text. -/
def dumpedOver : Surroundings (Except Files.Fault String) where
  environment _ _ := none
  readText file _ := file
  canonical _ _ := .ok ⟨["dump"]⟩
  subscribe _ _ := .ok ()
  dump file _ name _ := if name = "app.Flags$CG3.class" then .error .notUtf8 else file

def dumpedOverSetup : Setup (Except Files.Fault String) :=
  ⟨dumpedOver, .default, .bytecode, some ⟨"dump"⟩⟩

/-- The contract of the flag with that file. -/
def dumpedOverDeclaration : Declaration :=
  ⟨"app::Flags", true, some "dump/app.Flags$CG3.class",
    [⟨"flag", "bool", some "f", some "false", 0⟩]⟩

/-- Two types have that contract. Both have been got when there was no file, and now there is one. -/
def dumpedOverState : State (Except Files.Fault String) :=
  (Machine.run dumpedOverSetup (.new (.error .notFound) true)
    [.get 0 dumpedOverDeclaration, .turn 0, .turn 0, .turn 0, .turn 0, .turn 0, .turn 0,
      .get 1 dumpedOverDeclaration, .turn 1, .turn 1, .turn 1, .turn 1, .turn 1, .turn 1,
      .world (.ok "f=true\n")]).state

/-- The module that replaces the first entry is dumped over the source, and the second is kept. Alone, each
of them is replaced, and so is the second one if it comes first. -/
theorem reused_after_dump :
    dumpedOverState.Reachable dumpedOverSetup ∧
    dumpedOverState.outcomes dumpedOverSetup = [(0, .ok .replaced), (1, .ok .reused)] ∧
    State.outcomes dumpedOverSetup
      { dumpedOverState with entries := dumpedOverState.entries.drop 1 } = [(1, .ok .replaced)] ∧
    State.outcomes dumpedOverSetup
      { dumpedOverState with entries := dumpedOverState.entries.reverse } =
        [(1, .ok .replaced), (0, .ok .reused)] := by
  refine ⟨⟨_, _, _, rfl⟩, ?_⟩
  decide +kernel

/-- A world of files by their paths. Modules are dumped as files that hold no text. -/
def textFiles : Surroundings (List (String × Except Files.Fault String)) where
  environment _ _ := none
  readText files path := (files.lookup path.text).getD (.error .notFound)
  canonical _ _ := .ok ⟨[]⟩
  subscribe _ _ := .ok ()
  dump files directory name _ := ((directory.join ⟨name⟩).text, .error .notUtf8) :: files

/-- A cache whose modules are dumped into a directory of their own. -/
def apartSetup : Setup (List (String × Except Files.Fault String)) :=
  ⟨textFiles, .default, .bytecode, some ⟨"dump"⟩⟩

/-- The files when there is only that of the flag. -/
def flagsFile (text : String) : List (String × Except Files.Fault String) :=
  [("flags.properties", .ok text)]

theorem text_join_ne (path : Path) : (Path.join ⟨"dump"⟩ path).text ≠ "flags.properties" := by
  unfold Path.join
  split
  · rename_i hpath
    intro heq
    rw [Path.isAbsolute, heq] at hpath
    exact absurd hpath (by decide)
  · intro heq
    have hchars := congrArg String.toList heq
    simp at hchars

theorem locate_flags : Source.Locator.default.locate (fun _ => none) "flags.properties" =
    .file ⟨"flags.properties"⟩ := by
  decide +kernel

theorem sameSource_of_touches {files files' : List (String × Except Files.Fault String)}
    (h : apartSetup.Touches files files') :
    SameSource apartSetup.out apartSetup.locator "flags.properties" files files' := by
  induction h with
  | same => exact .refl ..
  | @dumped files' directory n d b m _ hdirectory hm ih =>
    obtain rfl : Path.mk "dump" = directory := Option.some.inj hdirectory
    refine ih.trans ⟨rfl, fun _ _ => rfl, fun path hpath => ?_⟩
    obtain rfl : Path.mk "flags.properties" = path :=
      Source.Located.file.inj (locate_flags.symm.trans hpath)
    have hne := beq_eq_false_iff_ne.2 (text_join_ne ⟨Module.dumpName m.typeName⟩).symm
    simp only [apartSetup, textFiles, List.lookup_cons, hne]

/-- No pass comes to the file when it has been changed. -/
theorem findsSource_apart (s : State (List (String × Except Files.Fault String))) (key : Key)
    (he : e.descriptor.locator = "flags.properties") : s.FindsSource apartSetup key e := by
  intro before rest _
  rw [he]
  exact sameSource_of_touches (Reload.touches_settleAll apartSetup before s.beginPass)

/-- The flag has been got for two types, with the mode in between, and then their file has been edited. -/
def apartState : State (List (String × Except Files.Fault String)) :=
  (Machine.run apartSetup (.new (flagsFile "f=true\nm=true\n") true)
    [.get 0 flagDeclaration, .turn 0, .turn 0, .turn 0, .turn 0, .turn 0, .turn 0,
      .get 1 modeDeclaration, .turn 1, .turn 1, .turn 1, .turn 1, .turn 1, .turn 1,
      .get 2 flagDeclaration, .turn 2, .turn 2, .turn 2, .turn 2, .turn 2, .turn 2,
      .world (flagsFile "f=false\nm=maybe\n")]).state

/-- The entry of the flag for the second type. -/
def flagModuleEntry : Entry :=
  .new flagDescriptor ⟨3, ⟨"app/Flags$CG3", "app::Flags", [⟨"flag", .bool true⟩]⟩⟩
    (flagBinding "true" true)

/-- It is the only entry, and more modules have been made before. -/
def aloneState : State (List (String × Except Files.Fault String)) :=
  { apartState with entries := [(2, flagModuleEntry)], begun := 41 }

/-- A module is dumped for the first type, and the mode does not convert. Then the flag is replaced for the
second type, as it is when that is alone. -/
theorem reloadAll_independent_apart :
    (apartState.reloadAll apartSetup).1.failed = 1 ∧
    (apartState.reloadAll apartSetup).2.world.map Prod.fst =
      ["dump/app.Flags$CG5.class", "dump/app.Flags$CG4.class", "flags.properties"] ∧
    (apartState.outcomes apartSetup).lookup 2 = some (.ok .replaced) ∧
    ∃ x x', State.entry? (apartState.reloadAll apartSetup).2 2 = some x ∧
      State.entry? (aloneState.reloadAll apartSetup).2 2 = some x' ∧
      x.Alike .bytecode x' := by
  obtain ⟨htally, -, hfinds, hsubscriber, hagree⟩ := reloadAll_independent apartSetup
  obtain ⟨houtcomes, hworld, halone, hmem⟩ : apartState.outcomes apartSetup =
        [(0, .ok .replaced), (1, .error (.resolution
          ⟨"app::Mode", "mode", "m", "maybe", .bool, .invalid "maybe" .bool .notBoolean⟩)),
          (2, .ok .replaced)] ∧
      (Reload.settleAll apartSetup (Reload.snapshot apartState) apartState.beginPass).2.world.map
          Prod.fst = ["dump/app.Flags$CG5.class", "dump/app.Flags$CG4.class", "flags.properties"] ∧
      aloneState.outcomes apartSetup = [(2, .ok .replaced)] ∧
      (2, flagModuleEntry) ∈ apartState.entries := by
    decide +kernel
  have hout : (apartState.outcomes apartSetup).lookup 2 = some (.ok .replaced) := by
    rw [houtcomes]
    rfl
  have hout' : (aloneState.outcomes apartSetup).lookup 2 = some (.ok .replaced) := by
    rw [halone]
    rfl
  have hreachable : apartState.Reachable apartSetup := ⟨_, _, _, rfl⟩
  have hs : apartState.Sound := hreachable.sound
  have hs' : aloneState.Sound := by
    refine ⟨by simp [aloneState], fun p hp => ?_⟩
    rw [List.mem_singleton.1 hp]
    exact hs.entries _ hmem
  have hsame : aloneState.world = apartState.world ∧ aloneState.registry = apartState.registry := by
    simp only [aloneState, and_self]
  have hsource : apartState.FindsSource apartSetup 2 flagModuleEntry := findsSource_apart _ 2 rfl
  obtain ⟨hsource', hsubscriber'⟩ := hfinds aloneState 2 flagModuleEntry (.inr rfl)
  have hfailed := htally apartState .failed
  rw [houtcomes] at hfailed
  obtain ⟨-, x, x', hx, hx', h⟩ := hagree _ _ 2 flagModuleEntry hs hs' hsame.1 hsame.2 hmem
    List.mem_cons_self hsource (hsubscriber _ _ _ fun _ _ => rfl) hsource' hsubscriber'
    (by simp [hout]) (by simp [hout'])
  rw [← State.state_reloadAll] at hworld
  refine ⟨hfailed, hworld, hout, x, x', hx, hx', ?_⟩
  rcases h with ⟨hw, -⟩ | ⟨-, out, heq, hsame⟩
  · cases hw
  · cases hout.symm.trans heq
    cases hsame with
    | replaced _ halike => exact halike

end Dumped

end TypedConfig.Cache
