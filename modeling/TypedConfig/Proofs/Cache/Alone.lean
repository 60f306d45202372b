import TypedConfig.Proofs.Cache.Sound

/-!
Calls that run alone. A pass that nobody disturbs settles its entries one after the other
(`State.reloadAll_eq`), and under each key it leaves the entry that it has found there if the fingerprint
is unchanged or something fails, and otherwise an entry made from what the source holds then
(`State.ends_of_mem`).
-/

namespace TypedConfig.Cache

open Contract (Declaration Descriptor)
open Resolution (Binding ConversionFailure overridesIn)
open TypedConfig.Module (slotsOf)

/-! ### Processes -/

namespace Process

variable {τ ρ S : Type} {p : Process τ ρ S} {t u : τ} {s r : S} {result : ρ}

theorem run_of_inl (h : p.step t s = (.inl u, r)) : p.run t s = p.run u r := by
  rw [run]
  split
  · rename_i h'
    rw [h] at h'
    cases h'
  · rename_i h'
    rw [h] at h'
    cases h'
    rfl

theorem run_of_inr (h : p.step t s = (.inr result, r)) : p.run t s = (result, r) := by
  rw [run]
  split
  · rename_i h'
    rw [h] at h'
    cases h'
    rfl
  · rename_i h'
    rw [h] at h'
    cases h'

variable {halt : τ → Bool}

theorem runTo_of_inl (ht : halt t = false) (h : p.step t s = (.inl u, r)) :
    p.runTo halt t s = p.runTo halt u r := by
  rw [runTo, if_neg (by simp [ht])]
  split
  · rename_i h'
    rw [h] at h'
    cases h'
  · rename_i h'
    rw [h] at h'
    cases h'
    rfl

theorem runTo_of_inr (ht : halt t = false) (h : p.step t s = (.inr result, r)) :
    p.runTo halt t s = (.inr result, r) := by
  rw [runTo, if_neg (by simp [ht])]
  split
  · rename_i h'
    rw [h] at h'
    cases h'
    rfl
  · rename_i h'
    rw [h] at h'
    cases h'

/-- A number of steps, or fewer if the result is there before. -/
def steps (p : Process τ ρ S) : Nat → τ → S → (τ ⊕ ρ) × S
  | 0, t, s => (.inl t, s)
  | n + 1, t, s =>
    match p.step t s with
    | (.inl u, s) => p.steps n u s
    | (.inr result, s) => (.inr result, s)

theorem run_of_steps {n : Nat} (h : (p.steps n t s).1.getRight? = some result) :
    p.run t s = (result, (p.steps n t s).2) := by
  induction n generalizing t s with
  | zero => cases h
  | succ n ih =>
    unfold steps at h ⊢
    rcases hs : p.step t s with ⟨u | result', r⟩ <;> rw [hs] at h
    · rw [run_of_inl hs]
      exact ih h
    · cases h
      exact run_of_inr hs

end Process

/-- A get of a contract that has an entry answers its instance and changes nothing. -/
theorem State.get_of_entry {σ : Type} {setup : Setup σ} {s : State σ} {key : Key} {e : Entry}
    (declared : Declaration) (h : s.entry? key = some e) :
    s.get setup key declared = (.ok e.inst, s) := by
  refine Process.run_of_inr (p := Get.process setup) ?_
  show Get.step setup (.lookup key declared) s = _
  simp only [Get.step, h]

/-! ### Dumping -/

namespace Setup

variable {σ : Type} {setup : Setup σ} {d : Descriptor} {w w' : σ}

/-- Modules may have been dumped into a world, and nothing else has happened to it. -/
inductive Touches (setup : Setup σ) (w : σ) : σ → Prop
  | same : Touches setup w w
  | dumped {w' directory n d b m} (h : Touches setup w w')
      (hdirectory : setup.dumpDirectory = some directory)
      (hm : (setup.factory.produce n d b).1 = some m) :
      Touches setup w (setup.out.dump w' directory (Module.dumpName m.typeName) m.bytes)

theorem Touches.trans {w'' : σ} (h : setup.Touches w w') (h' : setup.Touches w' w'') :
    setup.Touches w w'' := by
  induction h' with
  | same => exact h
  | dumped _ hdirectory hm ih => exact .dumped ih hdirectory hm

theorem touches_make (setup : Setup σ) (d : Descriptor) (b : Binding) (s : State σ) :
    setup.Touches s.world (Phase.make setup d b s).2.world := by
  rcases hp : setup.factory.produce (s.begun + 1) d b with ⟨assembled, outcome⟩
  have hm : (setup.factory.produce (s.begun + 1) d b).1 = assembled := by rw [hp]
  cases hd : setup.dumpDirectory with
  | none =>
    cases outcome with
    | error e | ok table =>
      simp only [Phase.make, hp, hd]
      exact .same
  | some directory =>
    cases assembled with
    | none =>
      cases outcome with
      | error e | ok table =>
        simp only [Phase.make, hp, hd]
        exact .same
    | some m =>
      cases outcome with
      | error e | ok table =>
        simp only [Phase.make, hp, hd]
        exact .dumped .same hd hm

theorem touches_next (setup : Setup σ) (d : Descriptor) (s : State σ) (p : Phase) :
    setup.Touches s.world (p.next setup d s).2.world := by
  cases p with
  | bound b => exact touches_make setup d b s
  | observed o =>
    simp only [Phase.next]
    split <;> exact .same
  | fresh | approached | made => exact .same

theorem Touches.eq_of_none (h : setup.Touches w w') (hnone : setup.dumpDirectory = none) : w' = w := by
  cases h with
  | same => rfl
  | dumped _ hdirectory =>
    rw [hnone] at hdirectory
    cases hdirectory

end Setup

/-! ### Settling an entry -/

/-- How many entries have come to a verdict. -/
def Report.tally (r : Report) : Verdict → Nat
  | .reused => r.reused
  | .replaced => r.replaced
  | .skipped => r.skipped
  | .failed => r.failed

theorem Report.tally_add (r : Report) (v w : Verdict) :
    (r.add v).tally w = r.tally w + if v = w then 1 else 0 := by
  cases v <;> cases w <;> rfl

theorem Report.tally_foldl (vs : List Verdict) (r : Report) (v : Verdict) :
    (vs.foldl Report.add r).tally v = r.tally v + vs.count v := by
  induction vs generalizing r with
  | nil => rfl
  | cons w vs ih =>
    rw [List.foldl_cons, ih, tally_add, List.count_cons]
    simp only [beq_iff_eq]
    omega

/-- The verdict that an outcome counts as. -/
def verdictOf : Except CacheError Verdict → Verdict
  | .ok v => v
  | .error _ => .failed

section Make

variable {σ : Type} {setup : Setup σ} {d : Descriptor} {b : Binding} {s : State σ}

theorem Phase.make_of_error {cause : Module.ModuleError}
    (h : (setup.factory.produce (s.begun + 1) d b).2 = .error cause) :
    make setup d b s = (.error (.production cause), (make setup d b s).2) := by
  unfold make
  rcases hp : setup.factory.produce (s.begun + 1) d b with ⟨assembled, outcome⟩
  rw [hp] at h
  subst h
  rfl

theorem Phase.make_of_ok {table : Module.Loaded}
    (h : (setup.factory.produce (s.begun + 1) d b).2 = .ok table) :
    make setup d b s = (.ok (.made b ⟨s.activated + 1, table⟩), (make setup d b s).2) := by
  unfold make
  rcases hp : setup.factory.produce (s.begun + 1) d b with ⟨assembled, outcome⟩
  rw [hp] at h
  subst h
  rfl

theorem registry_make (setup : Setup σ) (d : Descriptor) (b : Binding) (s : State σ) :
    (Phase.make setup d b s).2.registry = s.registry := by
  unfold Phase.make
  rcases setup.factory.produce (s.begun + 1) d b with ⟨assembled, e | table⟩
  · rfl
  · rfl

end Make

namespace Reload

variable {σ : Type} {setup : Setup σ} {key k : Key} {e : Entry} {s r : State σ}
  {left : List (Key × Entry)}

/-- Looks at an entry while nothing else happens: what comes of it, and the state afterwards. -/
def settle (setup : Setup σ) (key : Key) (current : Entry) (s : State σ) :
    Except CacheError Verdict × State σ :=
  let d := current.descriptor
  match Resolution.resolve setup.out setup.locator s.world s.registry d with
  | (.error cause, registry) =>
    (.error (.resolution cause), State.count { s with registry } (.reloadErrors d.typeName))
  | (.ok b, registry) =>
    if b.fingerprint = current.fingerprint then
      (.ok .reused, State.count { s with registry } (.reuse d.typeName))
    else
      let made := (Phase.make setup d b { s with registry }).2
      match (setup.factory.produce (s.begun + 1) d b).2 with
      | .error cause => (.error (.production cause), made.count (.reloadErrors d.typeName))
      | .ok table =>
        let (v, r) := swap key current (.new d ⟨s.activated + 1, table⟩ b) made
        (.ok v, r)

/-- Looks at entries one after the other: what comes of each, and the state afterwards. -/
def settleAll (setup : Setup σ) :
    List (Key × Entry) → State σ → List (Key × Except CacheError Verdict) × State σ
  | [], s => ([], s)
  | (key, current) :: rest, s =>
    let (out, r) := settle setup key current s
    let (outs, r) := settleAll setup rest r
    ((key, out) :: outs, r)

theorem run_of_step {t u : Reload} (h : step setup t s = (.inl u, r)) :
    (process setup).run t s = (process setup).run u r :=
  Process.run_of_inl h

/-- **A pass that nobody disturbs settles its first entry and goes on with the others.** -/
theorem run_settle (setup : Setup σ) (report : Report) (key : Key) (current : Entry)
    (rest : List (Key × Entry)) (s : State σ) :
    (process setup).run (.checking report ((key, current) :: rest) .fresh) s =
      (process setup).run
        (.checking (report.add (verdictOf (settle setup key current s).1)) rest .fresh)
        (settle setup key current s).2 := by
  rcases ha : Resolution.approach setup.out setup.locator s.world s.registry
    current.descriptor.locator with ⟨a, registry⟩
  have hfresh : step setup (.checking report ((key, current) :: rest) .fresh) s =
      (.inl (.checking report ((key, current) :: rest) (.approached a)), { s with registry }) := by
    simp only [step, check, Phase.next]
    rw [ha]
  have hread : ∀ r : State σ,
      step setup (.checking report ((key, current) :: rest) (.approached a)) r =
        (.inl (.checking report ((key, current) :: rest)
          (.observed (a.observe setup.out r.world))), r) := fun _ => rfl
  rw [run_of_step hfresh, run_of_step (hread _)]
  simp only [settle, Resolution.resolve, ha]
  generalize a.observe setup.out s.world = o
  cases hb : o.bind current.descriptor with
  | error cause => exact run_of_step (by simp only [step, check, Phase.next, hb]; rfl)
  | ok b =>
    by_cases hf : b.fingerprint = current.fingerprint
    · simp only [hf, if_true]
      exact run_of_step (by simp only [step, check, Phase.next, hb, hf, if_true]; rfl)
    · simp only [hf, if_false]
      have hbound : step setup (.checking report ((key, current) :: rest) (.observed o))
          { s with registry } =
            (.inl (.checking report ((key, current) :: rest) (.bound b)), { s with registry }) := by
        simp only [step, check, Phase.next, hb, hf, if_false]
      rw [run_of_step hbound]
      cases hmake : (setup.factory.produce (s.begun + 1) current.descriptor b).2 with
      | error cause =>
        have hnext := Phase.make_of_error (s := { s with registry }) hmake
        refine run_of_step ?_
        simp only [step, check, Phase.next]
        rw [hnext]
        rfl
      | ok table =>
        have hnext := Phase.make_of_ok (s := { s with registry }) hmake
        have hmade : step setup (.checking report ((key, current) :: rest) (.bound b))
            { s with registry } =
              (.inl (.checking report ((key, current) :: rest) (.made b ⟨s.activated + 1, table⟩)),
                (Phase.make setup current.descriptor b { s with registry }).2) := by
          simp only [step, check, Phase.next]
          rw [hnext]
        rw [run_of_step hmade]
        exact run_of_step rfl

/-- What a pass that nobody disturbs makes of an installed entry, by what its contract is bound to: the
outcome and the entry that stands there afterwards. -/
inductive Ends (setup : Setup σ) (o : Except ConversionFailure Binding) (e : Entry) :
    Except CacheError Verdict → Entry → Prop
  | unresolved {cause} (ho : o = .error cause) : Ends setup o e (.error (.resolution cause)) e
  | reused {b} (ho : o = .ok b) (hf : b.fingerprint = e.fingerprint) : Ends setup o e (.ok .reused) e
  | unmade {b n cause} (ho : o = .ok b) (hf : b.fingerprint ≠ e.fingerprint)
      (hmake : (setup.factory.produce n e.descriptor b).2 = .error cause) :
      Ends setup o e (.error (.production cause)) e
  | replaced {b i n} (ho : o = .ok b) (hf : b.fingerprint ≠ e.fingerprint)
      (hmake : (setup.factory.produce n e.descriptor b).2 = .ok i.table) :
      Ends setup o e (.ok .replaced) (.new e.descriptor i b)

/-- An entry of a checked contract that has not failed is kept under an unchanged fingerprint, and
otherwise has the values that were resolved. -/
theorem Ends.of_ne_failed {o : Except ConversionFailure Binding} {out : Except CacheError Verdict}
    {x : Entry} (h : Ends setup o e out x) (hv : verdictOf out ≠ .failed)
    (hd : Checked e.descriptor) (ho : ∀ b, o = .ok b → b.Of e.descriptor) :
    ∃ b, o = .ok b ∧ (b.fingerprint = e.fingerprint → x = e) ∧
      (b.fingerprint ≠ e.fingerprint → x.inst.table.slots = slotsOf b) := by
  cases h with
  | unresolved => exact absurd rfl hv
  | unmade => exact absurd rfl hv
  | @reused b hb hf => exact ⟨b, hb, fun _ => rfl, fun hne => absurd hf hne⟩
  | @replaced b i n hb hf hmake =>
    refine ⟨b, hb, fun heq => absurd heq hf, fun _ => ?_⟩
    exact slots_of_produce hd (ho b hb) hmake

/-- What settling an entry does: it registers the source, may dump a module, leaves other entries alone,
and comes to an end with this one. -/
structure Settles (setup : Setup σ) (key : Key) (e : Entry) (s : State σ)
    (out : Except CacheError Verdict) (r : State σ) : Prop where
  registry : r.registry =
    (Resolution.resolve setup.out setup.locator s.world s.registry e.descriptor).2
  touches : setup.Touches s.world r.world
  keys : r.entries.map Prod.fst = s.entries.map Prod.fst
  others : ∀ k, k ≠ key → r.entries.lookup k = s.entries.lookup k
  ends : s.entries.lookup key = some e → ∃ x, r.entries.lookup key = some x ∧
    Ends setup (Resolution.resolve setup.out setup.locator s.world s.registry e.descriptor).1 e out x

theorem settles (setup : Setup σ) (key : Key) (e : Entry) (s : State σ) :
    Settles setup key e s (settle setup key e s).1 (settle setup key e s).2 := by
  unfold settle
  dsimp only
  rcases hresolve : Resolution.resolve setup.out setup.locator s.world s.registry e.descriptor with
    ⟨cause | b, registry⟩
  · refine ⟨(congrArg Prod.snd hresolve).symm, .same, rfl, fun k _ => rfl, fun hin => ⟨e, hin, ?_⟩⟩
    exact .unresolved (congrArg Prod.fst hresolve)
  have ho := congrArg Prod.fst hresolve
  by_cases hf : b.fingerprint = e.fingerprint
  · simp only [hf, if_true]
    refine ⟨(congrArg Prod.snd hresolve).symm, .same, rfl, fun k _ => rfl, fun hin => ⟨e, hin, ?_⟩⟩
    exact .reused ho hf
  simp only [hf, if_false]
  have hentries := entries_make setup e.descriptor b { s with registry }
  have hregistry := registry_make setup e.descriptor b { s with registry }
  have hworld := setup.touches_make e.descriptor b { s with registry }
  generalize (Phase.make setup e.descriptor b { s with registry }).2 = made at *
  have hkeys : made.entries.map Prod.fst = s.entries.map Prod.fst := congrArg _ hentries
  have hkept : ∀ k, made.entries.lookup k = s.entries.lookup k := by
    intro k
    rw [hentries]
  replace hregistry := hregistry.trans (congrArg Prod.snd hresolve).symm
  cases hmake : (setup.factory.produce (s.begun + 1) e.descriptor b).2 with
  | error cause =>
    refine ⟨hregistry, hworld, hkeys, fun k _ => hkept k, fun hin => ⟨e, (hkept key).trans hin, ?_⟩⟩
    exact .unmade ho hf hmake
  | ok table =>
    dsimp only [swap]
    cases he : made.entry? key with
    | none =>
      refine ⟨hregistry, hworld, hkeys, fun k _ => hkept k, fun hin => ?_⟩
      rw [← hkept key] at hin
      cases he.symm.trans hin
    | some e' =>
      by_cases hid : e'.inst.id = e.inst.id
      · simp only [hid, if_true]
        refine ⟨hregistry, hworld, (State.keys_swapEntry ..).trans hkeys, fun k hk => ?_, fun _ => ?_⟩
        · exact (State.lookup_swapEntry_of_ne hk).trans (hkept k)
        · have hends := Ends.replaced (i := ⟨s.activated + 1, table⟩) ho hf hmake
          exact ⟨_, State.lookup_swapEntry_self he, hends⟩
      · simp only [hid, if_false]
        refine ⟨hregistry, hworld, hkeys, fun k _ => hkept k, fun hin => ?_⟩
        rw [← hkept key] at hin
        cases he.symm.trans hin
        exact absurd rfl hid

/-! ### Passes alone -/

theorem settleAll_cons (setup : Setup σ) (key : Key) (e : Entry) (rest : List (Key × Entry))
    (s : State σ) :
    settleAll setup ((key, e) :: rest) s =
      ((key, (settle setup key e s).1) :: (settleAll setup rest (settle setup key e s).2).1,
        (settleAll setup rest (settle setup key e s).2).2) := rfl

theorem settleAll_append (setup : Setup σ) (left rest : List (Key × Entry)) (s : State σ) :
    settleAll setup (left ++ rest) s =
      ((settleAll setup left s).1 ++ (settleAll setup rest (settleAll setup left s).2).1,
        (settleAll setup rest (settleAll setup left s).2).2) := by
  induction left generalizing s with
  | nil => rfl
  | cons p left ih =>
    obtain ⟨key, e⟩ := p
    rw [List.cons_append, settleAll_cons, settleAll_cons, ih]
    rfl

theorem run_settleAll (setup : Setup σ) (report : Report) (left : List (Key × Entry)) (s : State σ) :
    (process setup).run (.checking report left .fresh) s =
      (((settleAll setup left s).1.map fun p => verdictOf p.2).foldl Report.add report,
        (settleAll setup left s).2) := by
  induction left generalizing report s with
  | nil => exact Process.run_of_inr rfl
  | cons p rest ih =>
    obtain ⟨key, current⟩ := p
    rw [run_settle, ih, settleAll_cons]
    rfl

theorem touches_settleAll (setup : Setup σ) (left : List (Key × Entry)) (s : State σ) :
    setup.Touches s.world (settleAll setup left s).2.world := by
  induction left generalizing s with
  | nil => exact .same
  | cons p rest ih => exact (settles setup p.1 p.2 s).touches.trans (ih _)

theorem keys_settleAll (setup : Setup σ) (left : List (Key × Entry)) (s : State σ) :
    (settleAll setup left s).1.map Prod.fst = left.map Prod.fst := by
  induction left generalizing s with
  | nil => rfl
  | cons p rest ih => exact congrArg (p.1 :: ·) (ih _)

theorem lookup_settleAll (setup : Setup σ) (s : State σ) (hk : k ∉ left.map Prod.fst) :
    (settleAll setup left s).2.entries.lookup k = s.entries.lookup k := by
  induction left generalizing s with
  | nil => rfl
  | cons p rest ih =>
    rw [List.map_cons, List.mem_cons, not_or] at hk
    exact (ih _ hk.2).trans ((settles setup p.1 p.2 s).others k hk.1)

/-- **Each entry is settled when its turn comes**, in a state that settling the entries before it has
brought about. -/
theorem exists_settled (setup : Setup σ) (hnodup : (left.map Prod.fst).Nodup)
    (hmem : (key, e) ∈ left) (hin : s.entries.lookup key = some e) :
    ∃ before rest r out x, left = before ++ (key, e) :: rest ∧ r = (settleAll setup before s).2 ∧
      (settleAll setup left s).1.lookup key = some out ∧
      (settleAll setup left s).2.entries.lookup key = some x ∧
      Ends setup (Resolution.resolve setup.out setup.locator r.world r.registry e.descriptor).1 e
        out x := by
  obtain ⟨before, rest, rfl⟩ := List.append_of_mem hmem
  rw [List.map_append, List.map_cons, List.nodup_middle, List.nodup_cons, List.mem_append,
    not_or] at hnodup
  obtain ⟨⟨hbefore, hrest⟩, -⟩ := hnodup
  obtain ⟨x, hx, hends⟩ := (settles setup key e (settleAll setup before s).2).ends
    ((lookup_settleAll setup s hbefore).trans hin)
  refine ⟨before, rest, _, _, x, rfl, rfl, ?_, ?_, hends⟩
  · have hnone : (settleAll setup before s).1.lookup key = none := by
      rw [List.lookup_eq_none_iff]
      rintro p hp
      rw [bne_iff_ne]
      rintro rfl
      rw [← keys_settleAll setup before s] at hbefore
      exact hbefore (List.mem_map_of_mem hp)
    rw [settleAll_append, settleAll_cons, List.lookup_append, hnone, Option.none_or,
      List.lookup_cons_self]
  · rw [settleAll_append, settleAll_cons, ← hx]
    exact lookup_settleAll setup _ hrest

end Reload

namespace State

variable {σ : Type} {setup : Setup σ} {s : State σ} {key : Key} {e : Entry}

/-- The state in which a pass that has just begun looks at its first entry. -/
def beginPass (s : State σ) : State σ := State.count { s with passes := s.passes + 1 } .reloadPasses

/-- What comes of each entry in a pass that nobody disturbs. -/
def outcomes (setup : Setup σ) (s : State σ) : List (Key × Except CacheError Verdict) :=
  (Reload.settleAll setup (Reload.snapshot s) s.beginPass).1

/-- **A pass that nobody disturbs settles its entries one after the other.** -/
theorem reloadAll_eq (setup : Setup σ) (s : State σ) :
    s.reloadAll setup = (((s.outcomes setup).map fun p => verdictOf p.2).foldl Report.add .zero,
      (Reload.settleAll setup (Reload.snapshot s) s.beginPass).2) := by
  refine (Reload.run_of_step ?_).trans (Reload.run_settleAll setup .zero (Reload.snapshot s) s.beginPass)
  rfl

theorem state_reloadAll (setup : Setup σ) (s : State σ) :
    (s.reloadAll setup).2 = (Reload.settleAll setup (Reload.snapshot s) s.beginPass).2 := by
  rw [reloadAll_eq]

theorem tally_reloadAll (setup : Setup σ) (s : State σ) (v : Verdict) :
    (s.reloadAll setup).1.tally v = ((s.outcomes setup).map fun p => verdictOf p.2).count v := by
  rw [reloadAll_eq, Report.tally_foldl]
  cases v <;> exact Nat.zero_add _

theorem ne_failed_of_reloadAll {out : Except CacheError Verdict}
    (hfailed : (s.reloadAll setup).1.failed = 0) (hout : (s.outcomes setup).lookup key = some out) :
    verdictOf out ≠ .failed := by
  intro hv
  obtain ⟨before, rest, heq, -⟩ := List.lookup_eq_some_iff.1 hout
  have hmem : .failed ∈ (s.outcomes setup).map fun p => verdictOf p.2 := by
    rw [heq]
    exact List.mem_map.2 ⟨(key, out), by simp, hv⟩
  have hpos := List.count_pos_iff.2 hmem
  rw [← tally_reloadAll] at hpos
  exact absurd hfailed (Nat.ne_of_gt hpos)

/-- **What a pass that nobody disturbs makes of an entry.** -/
theorem ends_of_mem (setup : Setup σ) (hnodup : (s.entries.map Prod.fst).Nodup)
    (hmem : (key, e) ∈ s.entries) (hw : e.watchable = true) :
    ∃ before rest r out x, Reload.snapshot s = before ++ (key, e) :: rest ∧
      r = (Reload.settleAll setup before s.beginPass).2 ∧
      (s.outcomes setup).lookup key = some out ∧
      (s.reloadAll setup).2.entries.lookup key = some x ∧
      Reload.Ends setup
        (Resolution.resolve setup.out setup.locator r.world r.registry e.descriptor).1 e out x := by
  rw [reloadAll_eq]
  refine Reload.exists_settled setup (hnodup.sublist (List.filter_sublist.map _))
    (List.mem_filter.2 ⟨hmem, hw⟩) ?_
  exact lookup_eq_some_of_mem hnodup hmem

/-! ### What a pass does to sources -/

/-- A pass leaves the source of an entry as it is: what the source holds when the pass comes to the entry
it holds after the pass. -/
def LeavesSource (setup : Setup σ) (s : State σ) (key : Key) (e : Entry) : Prop :=
  ∀ before rest, Reload.snapshot s = before ++ (key, e) :: rest →
    overridesIn setup.out setup.locator (s.reloadAll setup).2.world e.descriptor.locator =
      overridesIn setup.out setup.locator (Reload.settleAll setup before s.beginPass).2.world
        e.descriptor.locator

/-- A pass dumps its modules aside from a source: settling one of its entries does not change what the
source holds. -/
def DumpsAside (setup : Setup σ) (s : State σ) (locator : String) : Prop :=
  ∀ before p rest, Reload.snapshot s = before ++ p :: rest →
    overridesIn setup.out setup.locator
        (Reload.settleAll setup (before ++ [p]) s.beginPass).2.world locator =
      overridesIn setup.out setup.locator (Reload.settleAll setup before s.beginPass).2.world locator

theorem dumpsAside_of_none (hnone : setup.dumpDirectory = none) (s : State σ) (locator : String) :
    s.DumpsAside setup locator := by
  intro before p rest _
  have hworld : ∀ left, (Reload.settleAll setup left s.beginPass).2.world = s.world :=
    fun left => (Reload.touches_settleAll setup left s.beginPass).eq_of_none hnone
  rw [hworld, hworld]

/-- **A pass leaves a source alone if it dumps nothing, or nothing over the source.** -/
theorem leavesSource_of (h : setup.dumpDirectory = none ∨ s.DumpsAside setup e.descriptor.locator)
    (key : Key) : s.LeavesSource setup key e := by
  have haside : s.DumpsAside setup e.descriptor.locator :=
    h.elim (fun hnone => dumpsAside_of_none hnone s _) id
  intro before rest hcut
  rw [state_reloadAll, hcut]
  generalize (key, e) :: rest = after at hcut ⊢
  induction after generalizing before with
  | nil => rw [List.append_nil]
  | cons p after ih =>
    have hrest := ih (before ++ [p]) (by rw [hcut, List.append_assoc, List.singleton_append])
    rw [List.append_assoc, List.singleton_append] at hrest
    exact hrest.trans (haside before p after hcut)

end State

end TypedConfig.Cache
