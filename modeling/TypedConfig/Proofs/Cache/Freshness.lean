import TypedConfig.Proofs.Cache.Gets
import TypedConfig.Proofs.Module.Agreement

/-!
What a pass brings up to date. When a pass that has taken its snapshot after the last edit of a file has
ended, the instance of a contract with this source has the values that the file holds, or no instance can
be made of them, or the instance has come late: the call that has built it had read the file before the
edit, and put it in place after the snapshot (`fresh_of_covers`). Each of these happens, and both a first
build and another pass can come late (`stale_after_covers`).
-/

namespace TypedConfig.Cache

open Contract (Declaration Descriptor)
open Resolution (Binding Observation ResolvedAccessor Separates overridesIn)
open TypedConfig.Module (slotsOf)

/-- A step of a call changes the world only by dumping modules. -/
theorem Task.Steps.touches {σ : Type} {setup : Setup σ} {t u : Task} {s r : State σ}
    (hs : t.Steps setup s u r) : setup.Touches s.world r.world := by
  obtain ⟨s', hs', hworld, -⟩ := hs.exists_next
  rw [hworld]
  rcases hs' with rfl | ⟨d, p, o, hn⟩
  · exact .same
  · have htouches := setup.touches_next d s p
    rwa [hn] at htouches

/-- What is made of a binding depends on its values only. -/
theorem produce_congr {f : Module.Factory} {number : Nat} {d : Descriptor} {b b' : Binding}
    (h : b.accessors = b'.accessors) : f.produce number d b = f.produce number d b' := by
  have hslots : slotsOf b = slotsOf b' := by rw [slotsOf, slotsOf, h]
  simp only [Module.Factory.produce, Module.assembleFor, Module.contentsOf, Module.tableOf, hslots]

namespace History

variable {σ : Type} {h : History σ} {n m k L taken place q : Nat} {key : Key} {e : Entry}
  {d : Descriptor} {path : Path} {j : Job} {b new : Binding} {i : Instance}
  {began read made put : Nat} {report : Report}

/-- Until a moment a locator leads to one file. -/
def Leads (h : History σ) (n : Nat) (locator : String) (path : Path) : Prop :=
  ∀ m, m ≤ n → h.setup.locator.locate (h.setup.out.environment (h.state m).world) locator = .file path

/-- From one moment to another a file is not edited. -/
def Unedited (h : History σ) (L n : Nat) (path : Path) : Prop :=
  ∀ m, L ≤ m → m ≤ n →
    h.setup.out.readText (h.state m).world path = h.setup.out.readText (h.state n).world path

/-- A pass covers the last edit of the file that a contract is read from: the locator leads to the file
all the time, the pass at the place has taken its snapshot after the edit and has ended, and in the end
the contract resolves to a binding. The fingerprints of the contract tell its texts apart. -/
structure Covers (h : History σ) (n place L taken : Nat) (d : Descriptor) (path : Path)
    (new : Binding) : Prop where
  leads : h.Leads n d.locator path
  unedited : h.Unedited L n path
  snapshots : h.Snapshots taken place
  le : L ≤ taken
  ended : ∃ report, h.task? n place = some (.reloaded report)
  separates : Separates d
  resolves : (Resolution.resolve h.setup.out h.setup.locator (h.state n).world (h.state n).registry d).1 =
    .ok new

/-- An entry has come late: it was put in place after a pass has taken its snapshot, by a call that had
read the file before it was edited last. -/
def ComesLate (h : History σ) (key : Key) (e : Entry) (L taken : Nat) : Prop :=
  ∃ q j b i began read made put,
    h.Origin key e q j b i began read made put ∧ read < L ∧ taken < put

/-! ### What happens to a file -/

/-- A move changes the world when others change it or a call dumps a module. -/
theorem touches_succ (hn : ∀ w, h.moves[n]? ≠ some (.world w)) :
    h.setup.Touches (h.state n).world (h.state (n + 1)).world := by
  cases h.happens n with
  | turn ht => exact ht.steps.touches
  | invalidate _ hs =>
    rw [hs, State.invalidate]
    split <;> exact .same
  | world ha _ => exact absurd ha (hn _)
  | nothing hs | clear _ hs | registry _ hs =>
    rw [hs]
    exact .same

/-- Where nothing is dumped the world stays as long as others leave it alone. -/
theorem world_eq (hnone : h.setup.dumpDirectory = none)
    (hmoves : ∀ k w, L ≤ k → k < m → h.moves[k]? ≠ some (.world w)) (hm : L ≤ m) :
    (h.state m).world = (h.state L).world := by
  induction m, hm using Nat.le_induction with
  | base => rfl
  | succ m hm ih =>
    have hsame := (touches_succ fun w => hmoves m w hm (Nat.lt_succ_self m)).eq_of_none hnone
    rw [hsame, ih fun k w hk hkm => hmoves k w hk (hkm.trans (Nat.lt_succ_self m))]

theorem getElem?_ne_of_not_mem {a : Move σ} (ha : a ∉ (h.moves.take n).drop L) (hk : L ≤ k)
    (hkn : k < n) : h.moves[k]? ≠ some a := by
  intro hmove
  refine ha (List.mem_iff_getElem?.2 ⟨k - L, ?_⟩)
  rw [List.getElem?_drop, Nat.add_sub_cancel' hk, List.getElem?_take_of_lt hkn, hmove]

theorem unedited_of_moves (hnone : h.setup.dumpDirectory = none)
    (hmoves : ∀ w, .world w ∉ (h.moves.take n).drop L) (path : Path) : h.Unedited L n path := by
  have hne : ∀ k w, L ≤ k → k < n → h.moves[k]? ≠ some (.world w) :=
    fun k w hk hkn => getElem?_ne_of_not_mem (hmoves w) hk hkn
  intro m hm hmn
  rw [world_eq hnone (fun k w hk hkm => hne k w hk (hkm.trans_le hmn)) hm,
    world_eq hnone hne (hm.trans hmn)]

/-! ### What calls see of a file -/

theorem approachAt_of_leads (hl : h.Leads n d.locator path) (hn : began ≤ n) :
    ∃ failure, h.approachAt began d = .file path failure := by
  unfold approachAt Resolution.approach
  rw [hl began hn]
  dsimp only
  split
  · exact ⟨none, rfl⟩
  · exact ⟨_, rfl⟩

theorem source_seen (read : Nat) (hl : h.Leads n d.locator path) (hn : began ≤ n) :
    (h.seen began read d).source = some path := by
  obtain ⟨failure, ha⟩ := approachAt_of_leads hl hn
  rw [seen, ha]
  unfold Resolution.Approach.observe Resolution.observe
  dsimp only [Resolution.Approach.path?]
  split <;> rfl

theorem overrides_seen (hl : h.Leads n d.locator path) (hu : h.Unedited L n path)
    (hbegan : began ≤ n) (hread : L ≤ read) (hn : read ≤ n) :
    (h.seen began read d).overrides =
      overridesIn h.setup.out h.setup.locator (h.state n).world d.locator := by
  obtain ⟨failure, ha⟩ := approachAt_of_leads hl hbegan
  rw [seen, ha, overridesIn, hl n (Nat.le_refl n)]
  dsimp only [Resolution.Approach.observe, Resolution.Approach.path?]
  rw [Resolution.overrides_observe, hu read hread hn]

/-- What is resolved after the last edit is what is resolved in the end. -/
theorem bind_seen (hl : h.Leads n d.locator path) (hu : h.Unedited L n path)
    (hbegan : began ≤ n) (hread : L ≤ read) (hn : read ≤ n)
    (hnew : (Resolution.resolve h.setup.out h.setup.locator (h.state n).world (h.state n).registry d).1 =
      .ok new) :
    ∃ b, (h.seen began read d).bind d = .ok b ∧ b.accessors = new.accessors := by
  refine Resolution.bind_congr ?_ hnew
  rw [overrides_seen hl hu hbegan hread hn]
  exact Resolution.overrides_approach ..

/-! ### Installed values -/

theorem Origin.madeFrom (ho : h.Origin key e q j b i began read made put)
    (he : h.slot n key = some e) : e.MadeFrom b := by
  obtain ⟨l₁, l₂, hentries, -⟩ := List.lookup_eq_some_iff.1 he
  have hmem : (key, e) ∈ (h.state n).entries := by simp [hentries]
  have hd := ((h.sound n).state.entries _ hmem).checked
  have hof := Resolution.of_bind ho.builds.bind
  obtain ⟨number, htable⟩ := ho.builds.table
  rw [ho.entry_eq] at hd ⊢
  exact Entry.madeFrom_new hd hof (slots_of_produce hd hof htable)

theorem Origin.watchable (ho : h.Origin key e q j b i began read made put)
    (hl : h.Leads n e.descriptor.locator path) (hn : began ≤ n) : e.watchable = true := by
  have hsource := source_seen (d := j.descriptor) read (by rwa [ho.entry_eq] at hl) hn
  have hbind := ho.builds.bind
  unfold Observation.bind at hbind
  split at hbind
  · cases hbind
  · cases hbind
    rw [ho.entry_eq]
    simp only [Job.entry, Entry.new, hsource, Option.isSome_some]

theorem mem_snapshot (he : h.slot n key = some e) (hw : e.watchable = true) :
    (key, e) ∈ Reload.snapshot (h.state n) := by
  obtain ⟨l₁, l₂, hentries, -⟩ := List.lookup_eq_some_iff.1 he
  refine List.mem_filter.2 ⟨?_, hw⟩
  simp [hentries]

/-! ### After a pass -/

/-- What a pass that covers the last edit has seen is what the file holds in the end. -/
theorem Resolves.exists_bind {rest : List (Key × Entry)}
    (hr : h.Resolves place (.check report key e rest) began read)
    (hc : h.Covers n place L taken e.descriptor path new) (hread : read < n) :
    ∃ b, (h.seen began read e.descriptor).bind e.descriptor = .ok b ∧ b.accessors = new.accessors := by
  have htaken := hr.lt_of_snapshots hc.snapshots
  have hlt := hr.lt
  have hle := hc.le
  exact bind_seen hc.leads hc.unedited (by omega) (by omega) hread.le hc.resolves

/-- An entry that stays through the verdict of a pass has the values that the pass has seen, or no
instance can be made of these. -/
theorem Judges.fresh {v : Verdict} (hj : h.Judges k place key e v)
    (hc : h.Covers n place L taken e.descriptor path new) (hk : k < n)
    (hstay : ∀ m, taken ≤ m → m ≤ n → h.slot m key = some e) (hmade : e.MadeFrom b) :
    e.inst.table.slots = slotsOf new ∨ v = .failed ∧
      ∃ number cause, (h.setup.factory.produce number e.descriptor new).2 = .error cause := by
  obtain ⟨report, rest, hf⟩ := hj.finds
  cases hf with
  | unresolved hr hread hb =>
    obtain ⟨b', hb', -⟩ := hr.exists_bind hc (hread.trans hk)
    cases hb.symm.trans hb'
  | @unmade began read b'' number cause hr hread hb _ _ hmake =>
    obtain ⟨b', hb', hsame⟩ := hr.exists_bind hc (hread.trans hk)
    obtain rfl : b'' = b' := Except.ok.inj (hb.symm.trans hb')
    refine .inr ⟨rfl, number, cause, ?_⟩
    rw [← produce_congr hsame]
    exact hmake
  | @reused began read b'' hr hread hb hfingerprint =>
    obtain ⟨b', hb', hsame⟩ := hr.exists_bind hc (hread.trans hk)
    obtain rfl : b'' = b' := Except.ok.inj (hb.symm.trans hb')
    rw [hmade.fingerprint] at hfingerprint
    have hof := Resolution.of_bind hb'
    have htexts := hc.separates b b'' hmade.binding hof hfingerprint.symm
    rw [← Resolution.keyedTexts_eq_iff hmade.binding.accessors hof.accessors] at htexts
    left
    rw [hmade.slots, slotsOf_eq_of_texts hmade.binding hof htexts, slotsOf, slotsOf, hsame]
  | @replaced b' i' began read made hb hmade' hi =>
    -- the entry that was put in place would be the one that it has replaced
    have hslot : h.slot (k + 1) key = some (.new e.descriptor i' b') := by
      rw [hi.slot_eq]
      exact if_pos rfl
    have htaken := hb.resolves.lt_of_snapshots hc.snapshots
    have hread := hb.resolves.lt
    have hlt := hb.lt
    rw [hstay (k + 1) (by omega) hk] at hslot
    have hfingerprint : e.fingerprint = b'.fingerprint := by rw [Option.some.inj hslot]; rfl
    exact absurd hfingerprint.symm hb.fingerprint_ne
  | @skipped b' i' began read made hb hmade' hgone =>
    have htaken := hb.resolves.lt_of_snapshots hc.snapshots
    have hread := hb.resolves.lt
    have hlt := hb.lt
    exact absurd rfl (hgone e (hstay k (by omega) hk.le))

theorem Swaps.exists_produce {current e : Entry} (hs : h.Swaps k place key current e taken)
    (hc : h.Covers n place L taken current.descriptor path new) (hk : k < n) :
    ∃ number table, (h.setup.factory.produce number current.descriptor new).2 = .ok table := by
  obtain ⟨report, rest, b, i, began, read, made, hb, -, hmade, -⟩ := hs.built
  obtain ⟨b', hb', hsame⟩ := hb.resolves.exists_bind hc (hb.lt.trans (hmade.trans hk))
  obtain rfl : b = b' := Except.ok.inj (hb.bind.symm.trans hb')
  obtain ⟨number, htable⟩ := hb.table
  exact ⟨number, i.table, produce_congr hsame ▸ htable⟩

/-- **What a pass brings up to date.** Take a file that is not edited any more and a contract that is read
from it and whose fingerprints tell its texts apart. When a pass that has taken its snapshot after the last
edit has ended and the contract resolves, then an instance of it that is installed has the values that the
file holds, or the pass has failed on its entry because no instance can be made of these values, or the
entry has come late: a first build or another pass that had read the file before the edit has put it in
place after the snapshot. -/
theorem fresh_of_covers (h : History σ) {n place L taken : Nat} {key : Key} {e : Entry} {path : Path}
    {new : Binding} (hc : h.Covers n place L taken e.descriptor path new)
    (he : h.slot n key = some e) :
    e.inst.table.slots = slotsOf new ∨
      (∃ k number cause, h.Judges k place key e .failed ∧
        (h.setup.factory.produce number e.descriptor new).2 = .error cause) ∨
      h.ComesLate key e L taken := by
  obtain ⟨q, j, b, i, began, read, made, put, hput, ho, hstay⟩ := exists_origin he
  have hmade := ho.madeFrom he
  have hread : began < read ∧ read < made ∧ made < put :=
    ⟨ho.builds.resolves.lt, ho.builds.lt, ho.lt⟩
  rcases Nat.lt_or_ge read L with hearly | hlater
  · rcases Nat.lt_or_ge taken put with hlate | hle
    · exact .inr (.inr ⟨q, j, b, i, began, read, made, put, ho, hearly, hlate⟩)
    · -- the entry was there when the snapshot was taken, so the pass comes to a verdict on it
      have hlt : put < taken := by
        refine Nat.lt_of_le_of_ne hle ?_
        rintro rfl
        obtain ⟨u, ht⟩ := ho.installs.turn
        have htask := (ht.unique hc.snapshots).2.1
        cases j <;> cases htask
      obtain ⟨report, hend⟩ := hc.ended
      have hw := ho.watchable hc.leads (by omega)
      have hlast := hc.snapshots.lt_of_reloaded hend
      obtain ⟨k, v, -, hk, hj⟩ := exists_judges hc.snapshots hend
        (mem_snapshot (hstay taken hlt hlast.le) hw)
      rcases hj.fresh hc hk (fun m hm hmn => hstay m (by omega) hmn) hmade with
        hfresh | ⟨rfl, number, cause, hmake⟩
      · exact .inl hfresh
      · exact .inr (.inl ⟨k, number, cause, hj, hmake⟩)
  · -- what was read after the last edit is what the file holds in the end
    have hd : e.descriptor = j.descriptor := by rw [ho.entry_eq]; rfl
    have hresolves := hc.resolves
    have hleads := hc.leads
    rw [hd] at hresolves hleads
    obtain ⟨b', hb', hsame⟩ :=
      bind_seen hleads hc.unedited (by omega : began ≤ n) hlater (by omega) hresolves
    rw [ho.builds.bind] at hb'
    cases hb'
    exact .inl (by rw [hmade.slots, slotsOf, slotsOf, hsame])

/-- After all calls have ended and a pass has covered the last edit of a file, an instance is installed that
does not have the values that the file holds. -/
structure Stale (h : History σ) (n place L taken : Nat) (key : Key) (e : Entry) (path : Path)
    (new : Binding) : Prop where
  covers : h.Covers n place L taken e.descriptor path new
  finished : ∀ q t, h.task? n q = some t → t.Finished
  installed : h.slot n key = some e
  ne : e.inst.table.slots ≠ slotsOf new

end History

/-! ### Edits that are missed -/

section Flag

/-- The first call has read the file when it is edited, a pass finds nothing installed, and then the call
installs what it has read. -/
def lateBuild : History String where
  setup := pairSetup
  world := "f=true\n"
  metrics := true
  moves := [.get 0 flagDeclaration, .turn 0, .turn 0, .turn 0, .world "f=false\n",
    .reload, .turn 1, .turn 1, .turn 0, .turn 0, .turn 0]

/-- A pass has read the file when it is edited back. Another pass finds nothing changed, and then the
first puts in place what it has read. -/
def latePass : History String where
  setup := pairSetup
  world := "f=true\n"
  metrics := true
  moves := [.get 0 flagDeclaration, .turn 0, .turn 0, .turn 0, .turn 0, .turn 0, .turn 0,
    .world "f=false\n", .reload, .turn 1, .turn 1, .turn 1, .world "f=true\n",
    .reload, .turn 2, .turn 2, .turn 2, .turn 2, .turn 2, .turn 1, .turn 1, .turn 1, .turn 1]

theorem separates_flagDescriptor : Separates flagDescriptor :=
  Resolution.separates_of_length_le (by decide)

/-- In a world that is one file, a locator that names no variable leads to it. -/
theorem leads_of_wholeFile {h : History String} (hout : h.setup.out = wholeFile)
    (hsettings : h.setup.locator = .default) {locator : String} {path : Path}
    (hl : Source.Locator.default.locate (fun _ => none) locator = .file path) (n : Nat) :
    h.Leads n locator path := by
  intro m _
  rw [hout, hsettings]
  exact hl

theorem covers_lateBuild : lateBuild.Covers 11 1 5 6 flagDescriptor ⟨"flags.properties"⟩
    (flagBinding "false" false) where
  leads := leads_of_wholeFile rfl rfl (by decide) 11
  unedited := History.unedited_of_moves rfl (by simp [lateBuild]) _
  snapshots := by
    have ht : lateBuild.task? 6 1 = some (.reloading .start) := by decide +kernel
    exact History.turn_of_move rfl ht
  le := by omega
  ended := ⟨.zero, by decide +kernel⟩
  separates := separates_flagDescriptor
  resolves := by decide +kernel

theorem covers_latePass : latePass.Covers 23 2 13 14 flagDescriptor ⟨"flags.properties"⟩
    (flagBinding "true" true) where
  leads := leads_of_wholeFile rfl rfl (by decide) 23
  unedited := History.unedited_of_moves rfl (by simp [latePass]) _
  snapshots := by
    have ht : latePass.task? 14 2 = some (.reloading .start) := by decide +kernel
    exact History.turn_of_move rfl ht
  le := by omega
  ended := ⟨⟨1, 0, 0, 0⟩, by decide +kernel⟩
  separates := separates_flagDescriptor
  resolves := by decide +kernel

/-! ### A text that is too long for a module -/

def longText : String := String.ofList (List.replicate 65536 'x')

theorem length_longText : longText.toList.length = 65536 :=
  (congrArg List.length String.toList_ofList).trans List.length_replicate

/-- A contract with a text, which has the given default. -/
def noteDeclaration (text : String) : Declaration :=
  ⟨"app::Note", true, some "note.properties", [⟨"text", "String", some "t", some text, 0⟩]⟩

def noteDescriptor (text : String) : Descriptor :=
  ⟨"app::Note", "note.properties", [⟨"text", .text, "t", text⟩]⟩

/-- What the text is resolved to when it is not set. -/
def noteResolved (text : String) : ResolvedAccessor := ⟨"text", .text, "t", text, .text text, true⟩

theorem validate_noteDeclaration (text : String) :
    (noteDeclaration text).validate = .ok (noteDescriptor text) := by
  have hkind : Scalar.Kind.ofTypeName? "String" = some .text := by decide
  simp [noteDeclaration, noteDescriptor, Declaration.validate, Contract.checkAccessors,
    Contract.AccessorDeclaration.check, hkind]

theorem resolveAccessors_noteDescriptor (text : String) :
    Resolution.resolveAccessors (noteDescriptor text).typeName
      (overridesIn wholeFile .default "" (noteDescriptor text).locator)
        (noteDescriptor text).accessors = .ok [noteResolved text] := by
  have hnone : (overridesIn wholeFile .default "" "note.properties").get? "t" = none := by decide
  simp [noteDescriptor, noteResolved, Resolution.resolveAccessors, Resolution.resolveAccessor, hnone,
    Resolution.resolveText, Scalar.convert]

/-- The file sets a short text when the contract is got. Then it is emptied, and a pass finds the default,
of which no module can be assembled. -/
def swollen : History String where
  setup := { pairSetup with factory := .bytecode }
  world := "t=a\n"
  metrics := true
  moves := [.get 0 (noteDeclaration longText), .turn 0, .turn 0, .turn 0, .turn 0, .turn 0, .turn 0,
    .world "", .reload, .turn 1, .turn 1, .turn 1, .turn 1, .turn 1, .turn 1, .turn 1, .turn 1,
    .turn 1, .turn 1, .turn 1]

/-- What the run has come to at the first turn of the pass. -/
theorem run_swollen :
    swollen.task? 7 0 = some (.got 0 (.ok ⟨1, ⟨"app/Note$CG1", "app::Note", [⟨"text", .text "a"⟩]⟩⟩)) ∧
    (swollen.state 8).world = "" ∧ swollen.task? 9 1 = some (.reloading .start) ∧
    (swollen.after 9).tasks.length = 2 ∧ (Reload.snapshot (swollen.state 9)).length = 1 ∧
    (swollen.slot 9 0).map (fun e => e.inst.table.slots) = some [⟨"text", .text "a"⟩] := by
  decide +kernel

theorem world_swollen : (swollen.state 20).world = "" := by
  obtain ⟨-, hworld, -⟩ := run_swollen
  have hmoves : ∀ w, .world w ∉ (swollen.moves.take 20).drop 8 := by simp [swollen]
  rw [History.world_eq rfl (fun k w => History.getElem?_ne_of_not_mem (hmoves w)) (by omega), hworld]

theorem snapshots_swollen : swollen.Snapshots 9 1 := by
  obtain ⟨-, -, ht, -⟩ := run_swollen
  exact History.turn_of_move rfl ht

theorem reloaded_swollen : ∃ report, swollen.task? 20 1 = some (.reloaded report) := by
  obtain ⟨-, -, -, -, hone, -⟩ := run_swollen
  have hturns : swollen.turns 10 20 1 = 10 := by decide +kernel
  refine History.exists_reloaded snapshots_swollen.after (by omega) ?_
  rw [hone, hturns]
  decide

theorem covers_swollen : ∃ new, new.accessors = [noteResolved longText] ∧
    swollen.Covers 20 1 8 9 (noteDescriptor longText) ⟨"note.properties"⟩ new := by
  obtain ⟨new, hnew, haccessors⟩ := Resolution.exists_resolve (swollen.state 20).registry
    (resolveAccessors_noteDescriptor longText)
  exact ⟨new, haccessors,
    { leads := leads_of_wholeFile rfl rfl (by decide) 20
      unedited := History.unedited_of_moves rfl (by simp [swollen]) _
      snapshots := snapshots_swollen
      le := by omega
      ended := reloaded_swollen
      separates := Resolution.separates_of_length_le (by decide)
      resolves := by
        rw [world_swollen]
        exact hnew }⟩

theorem exists_slot_swollen : ∃ e, swollen.slot 9 0 = some e ∧
    e.descriptor = noteDescriptor longText ∧ e.inst.table.slots = [⟨"text", .text "a"⟩] := by
  obtain ⟨-, -, -, -, -, hslot⟩ := run_swollen
  obtain ⟨e, he, hslots⟩ := Option.map_eq_some_iff.1 hslot
  obtain ⟨m, declared, -, hmove, hd⟩ := History.exists_declared he
  have hmem := List.mem_of_getElem? hmove
  obtain rfl : declared = noteDeclaration longText := by simpa [swollen] using hmem
  rw [validate_noteDeclaration] at hd
  exact ⟨e, he, (Except.ok.inj hd).symm, hslots⟩

theorem slot_swollen {e : Entry} (he : swollen.slot 9 0 = some e)
    (hd : e.descriptor = noteDescriptor longText) : swollen.slot 20 0 = some e := by
  obtain ⟨new, haccessors, hc⟩ := covers_swollen
  refine History.slot_of_quiet he (by omega) fun k hk hkn => ⟨?_, ?_⟩
  · rintro (hmove | hmove) <;> exact absurd (List.mem_of_getElem? hmove) (by simp [swollen])
  · rintro ⟨place, t, u, ht, hne⟩
    rcases ht.slot_or_swaps 0 with heq | ⟨current, e', taken, hs⟩
    · exact hne heq
    · obtain rfl : place = 1 := by
        have hmem : Move.turn place ∈ (swollen.moves.take 20).drop 9 := by
          by_contra hmem
          exact History.getElem?_ne_of_not_mem hmem hk hkn ht.move
        simpa [swollen] using hmem
      obtain rfl := hs.snapshot.unique snapshots_swollen
      obtain rfl : e = current :=
        Option.some.inj (he.symm.trans (hs.installed 9 (Nat.le_refl 9) hs.lt.le))
      obtain ⟨number, table, hok⟩ := hs.exists_produce (hd ▸ hc) hkn
      -- no module has a text of this length
      have hof := Resolution.of_resolve hc.resolves
      obtain ⟨error, herror⟩ := Module.produce_bytecode_of_long hof (by simp [noteDescriptor])
        (by simp [haccessors] : noteResolved longText ∈ new.accessors) rfl
        (by rw [length_longText]; decide) number
      rw [hd] at hok
      change (Module.Factory.bytecode.produce number (noteDescriptor longText) new).2 = _ at hok
      rw [herror] at hok
      cases hok

/-- The calls are finished, and there are no others. -/
theorem finished_swollen {q : Nat} {t : Task} (ht : swollen.task? 20 q = some t) : t.Finished := by
  obtain ⟨report, hreloaded⟩ := reloaded_swollen
  obtain ⟨hi, -, -, htasks, -⟩ := run_swollen
  rcases q with _ | _ | q
  · rw [History.task?_of_finished (.got _ _) hi (by omega)] at ht
    cases ht
    exact .got _ _
  · rw [hreloaded] at ht
    cases ht
    exact .reloaded _
  · have hnone : swollen.task? 9 (q + 2) = none := List.getElem?_eq_none (by omega)
    rw [History.task?_eq_none hnone (by omega) fun k a t hk hkn ha hbegins => ?_] at ht
    · cases ht
    · refine History.getElem?_ne_of_not_mem ?_ hk hkn ha
      cases hbegins <;> simp [swollen]

/-- A first build, another pass and a text that is too long each leave an instance that does not have the
values that the file holds. -/
theorem stale_after_covers :
    lateBuild.Stale 11 1 5 6 0 (flagEntry 1 "true" true) ⟨"flags.properties"⟩
      (flagBinding "false" false) ∧
    latePass.Stale 23 2 13 14 0 (flagEntry 2 "false" false) ⟨"flags.properties"⟩
      (flagBinding "true" true) ∧
    ∃ new e, swollen.Stale 20 1 8 9 0 e ⟨"note.properties"⟩ new := by
  obtain ⟨new, haccessors, hc⟩ := covers_swollen
  obtain ⟨e, he, hd, hslots⟩ := exists_slot_swollen
  refine ⟨⟨covers_lateBuild, ?_, by decide +kernel, by decide⟩,
    ⟨covers_latePass, ?_, by decide +kernel, by decide⟩,
    new, e, hd ▸ hc, fun q t => finished_swollen, slot_swollen he hd, ?_⟩
  · have hfinished : ∀ t ∈ (lateBuild.after 11).tasks, t.Finished := by decide +kernel
    exact fun q t ht => hfinished t (List.mem_of_getElem? ht)
  · have hfinished : ∀ t ∈ (latePass.after 23).tasks, t.Finished := by decide +kernel
    exact fun q t ht => hfinished t (List.mem_of_getElem? ht)
  · rw [hslots, slotsOf, haccessors]
    intro heq
    have htext : "a" = longText := by simpa [noteResolved] using heq
    have hlength := congrArg (fun s => s.toList.length) htext
    rw [length_longText] at hlength
    cases hlength

theorem covers_passes : passes.Covers 23 2 15 16 flagDescriptor ⟨"flags.properties"⟩
    (flagBinding "false" false) where
  leads := leads_of_wholeFile rfl rfl (by decide) 23
  unedited := History.unedited_of_moves rfl (by simp [passes]) _
  snapshots := by
    have ht : passes.task? 16 2 = some (.reloading .start) := by decide +kernel
    exact History.turn_of_move rfl ht
  le := by omega
  ended := ⟨⟨0, 1, 0, 0⟩, by decide +kernel⟩
  separates := separates_flagDescriptor
  resolves := by decide +kernel

theorem fresh_of_covers_passes :
    passes.Covers 23 2 15 16 flagDescriptor ⟨"flags.properties"⟩ (flagBinding "false" false) ∧
    passes.slot 23 0 = some (flagEntry 3 "false" false) ∧
    ((flagEntry 3 "false" false).inst.table.slots = slotsOf (flagBinding "false" false) ∨
      (∃ k number cause, passes.Judges k 2 0 (flagEntry 3 "false" false) .failed ∧
        (passes.setup.factory.produce number flagDescriptor (flagBinding "false" false)).2 =
          .error cause) ∨
      passes.ComesLate 0 (flagEntry 3 "false" false) 15 16) := by
  have hslot : passes.slot 23 0 = some (flagEntry 3 "false" false) := by decide +kernel
  exact ⟨covers_passes, hslot, History.fresh_of_covers passes covers_passes hslot⟩

end Flag

end TypedConfig.Cache
