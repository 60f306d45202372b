import TypedConfig.Proofs.Cache.Sound

/-!
The history of a run. After each of its moves every call on the cache is at some stage, and a call comes
to a stage only by a turn of its own (`exists_turn`). So each instance that a call holds has been built
by that call, in steps that lie behind it (`exists_builds`), and no other build has made an instance of
the same identity (`Builds.unique`).
-/

namespace TypedConfig.Cache

open Contract (Declaration Descriptor)
open Resolution (Approach Binding Observation)

/-! ### Steps of calls -/

/-- The stages at which calls begin. -/
inductive Task.Begins : Task → Prop
  | get (key : Key) (declared : Declaration) : Begins (.getting (.lookup key declared))
  | reload : Begins (.reloading .start)

/-- The stages of calls that are finished. -/
inductive Task.Finished : Task → Prop
  | got (key : Key) (result : Except CacheError Instance) : Finished (.got key result)
  | reloaded (report : Report) : Finished (.reloaded report)

instance : DecidablePred Task.Finished
  | .got _ _ => isTrue (.got _ _)
  | .reloaded _ => isTrue (.reloaded _)
  | .getting _ | .reloading _ => isFalse nofun

theorem Task.Finished.step_eq {σ : Type} {t : Task} (h : t.Finished) (setup : Setup σ) (s : State σ) :
    t.step setup s = (t, s) := by
  cases h <;> rfl

/-- The moves with which calls begin. -/
inductive Move.Begins {σ : Type} : Move σ → Task → Prop
  | get (key : Key) (declared : Declaration) :
      Begins (.get key declared) (.getting (.lookup key declared))
  | reload : Begins .reload (.reloading .start)

theorem Move.Begins.task {σ : Type} {a : Move σ} {t : Task} (h : a.Begins t) : t.Begins := by
  cases h with
  | get key declared => exact .get key declared
  | reload => exact .reload

/-- The steps of a call: those of a get or a pass, and none when it is finished. -/
inductive Task.Steps {σ : Type} (setup : Setup σ) : Task → State σ → Task → State σ → Prop
  | getting {g g' s r} (h : Get.Steps setup g s (.inl g') r) : Steps setup (.getting g) s (.getting g') r
  | got {g result s r} (h : Get.Steps setup g s (.inr result) r) :
      Steps setup (.getting g) s (.got g.key result) r
  | reloading {t t' s r} (h : Reload.Steps setup t s (.inl t') r) :
      Steps setup (.reloading t) s (.reloading t') r
  | reloaded {t report s r} (h : Reload.Steps setup t s (.inr report) r) :
      Steps setup (.reloading t) s (.reloaded report) r
  | gotStays {key result s} : Steps setup (.got key result) s (.got key result) s
  | reloadedStays {report s} : Steps setup (.reloaded report) s (.reloaded report) s

theorem Task.steps {σ : Type} {setup : Setup σ} {t u : Task} {s r : State σ}
    (h : t.step setup s = (u, r)) : Steps setup t s u r := by
  cases t with
  | getting g =>
    rcases hg : g.step setup s with ⟨g' | result, r'⟩ <;> simp only [step, hg] at h <;> cases h
    · exact .getting (Get.steps hg)
    · exact .got (Get.steps hg)
  | reloading t =>
    rcases ht : t.step setup s with ⟨t' | report, r'⟩ <;> simp only [step, ht] at h <;> cases h
    · exact .reloading (Reload.steps ht)
    · exact .reloaded (Reload.steps ht)
  | got key result =>
    cases h
    exact .gotStays
  | reloaded report =>
    cases h
    exact .reloadedStays

/-- A step of a call is a step of a build or none, with changes to the entries and to what is counted. -/
theorem Task.Steps.exists_next {σ : Type} {setup : Setup σ} {t u : Task} {s r : State σ}
    (hs : t.Steps setup s u r) :
    ∃ s', (s' = s ∨ ∃ (d : Descriptor) (p : Phase) (o : Except CacheError Phase),
        p.next setup d s = (o, s')) ∧
      r.world = s'.world ∧ r.activated = s'.activated := by
  cases hs with
  | getting hs =>
    cases hs with
    | begun => exact ⟨s, .inl rfl, rfl, rfl⟩
    | went _ hn =>
      refine ⟨_, .inr ⟨_, _, _, hn⟩, ?_⟩
      unfold Get.noteMade
      split <;> exact ⟨rfl, rfl⟩
  | got hs =>
    cases hs with
    | failed _ hn => exact ⟨_, .inr ⟨_, _, _, hn⟩, rfl, rfl⟩
    | hit | refused | dropped | installed => exact ⟨s, .inl rfl, rfl, rfl⟩
  | reloading hs =>
    cases hs with
    | failed _ hn | reused _ hn | went _ hn => exact ⟨_, .inr ⟨_, _, _, hn⟩, rfl, rfl⟩
    | begun | replaced | skipped => exact ⟨s, .inl rfl, rfl, rfl⟩
  | reloaded hs =>
    cases hs
    exact ⟨s, .inl rfl, rfl, rfl⟩
  | gotStays | reloadedStays => exact ⟨s, .inl rfl, rfl, rfl⟩

/-- The steps of a build that goes on. -/
inductive Phase.Steps {σ : Type} (setup : Setup σ) (d : Descriptor) :
    Phase → State σ → Phase → State σ → Prop
  | approached {s : State σ} {a registry}
      (h : Resolution.approach setup.out setup.locator s.world s.registry d.locator = (a, registry)) :
      Steps setup d .fresh s (.approached a) { s with registry }
  | observed {a s} : Steps setup d (.approached a) s (.observed (a.observe setup.out s.world)) s
  | bound {o b s} (h : o.bind d = .ok b) : Steps setup d (.observed o) s (.bound b) s
  | made {b s i r} (hid : i.id = s.activated + 1) (hactivated : r.activated = s.activated + 1)
      (htable : ∃ n, (setup.factory.produce n d b).2 = .ok i.table) :
      Steps setup d (.bound b) s (.made b i) r

theorem Phase.steps {σ : Type} {setup : Setup σ} {d : Descriptor} {p q : Phase} {s r : State σ}
    (hp : p.rank < 4) (h : p.next setup d s = (.ok q, r)) : Steps setup d p s q r := by
  cases p with
  | fresh =>
    simp only [next] at h
    cases h
    exact .approached rfl
  | approached a =>
    simp only [next] at h
    cases h
    exact .observed
  | observed o =>
    simp only [next] at h
    split at h
    · rename_i b hb
      cases h
      exact .bound hb
    · cases h
  | bound b =>
    simp only [next, make] at h
    split at h
    · cases h
    · rename_i table htable
      cases h
      exact .made rfl rfl ⟨_, htable⟩
  | made b i => simp [rank] at hp

/-! ### Jobs -/

/-- What a call builds an instance for: a get for the contract that was asked for, a pass for the entry
that it looks at. -/
inductive Job where
  | get (key : Key) (d : Descriptor)
  | check (report : Report) (key : Key) (current : Entry) (rest : List (Key × Entry))

namespace Job

variable {σ : Type} {setup : Setup σ} {s r : State σ} {j : Job} {b : Binding} {i : Instance}

/-- The contract type that the instance is for. -/
def key : Job → Key
  | get key _ => key
  | check _ key _ _ => key

/-- The contract that is resolved. -/
def descriptor : Job → Descriptor
  | get _ d => d
  | check _ _ current _ => current.descriptor

/-- The stage of a call that is at a phase of the job. -/
def task (j : Job) (p : Phase) : Task :=
  match j with
  | get key d => .getting (.building key d p)
  | check report key current rest => .reloading (.checking report ((key, current) :: rest) p)

/-- The entry that is put in place with the instance. -/
def entry (j : Job) (b : Binding) (i : Instance) : Entry := .new j.descriptor i b

/-- What has to stand in the place for the entry to be put there: nothing for a get, and for a pass the
entry that it looks at. -/
def Admits : Job → Option Entry → Prop
  | get _ _, place => place = none
  | check _ _ current _, place => ∃ e, place = some e ∧ e.inst.id = current.inst.id

/-- The entries with a new one put in place. -/
def put (j : Job) (e : Entry) (entries : List (Key × Entry)) : List (Key × Entry) :=
  match j with
  | get key _ => entries ++ [(key, e)]
  | check _ key _ _ => State.swapEntry key e entries

theorem task_inj {j' : Job} {p p' : Phase} (h : j.task p = j'.task p') : j = j' ∧ p = p' := by
  cases j <;> cases j' <;> simp_all [task]

theorem not_begins_task (j : Job) (p : Phase) : ¬ (j.task p).Begins := by
  cases j <;> rintro ⟨⟩

theorem lookup_put {entries : List (Key × Entry)} (h : j.Admits (entries.lookup j.key)) (e : Entry)
    (k : Key) : (j.put e entries).lookup k = if k = j.key then some e else entries.lookup k := by
  cases j with
  | get key d =>
    change entries.lookup key = none at h
    change (entries ++ [(key, e)]).lookup k = if k = key then some e else _
    rw [List.lookup_append]
    by_cases hk : k = key
    · subst hk
      simp [h]
    · have hne : (k == key) = false := beq_eq_false_iff_ne.2 hk
      simp [List.lookup_cons, hk, hne]
  | check report key current rest =>
    obtain ⟨e', he', -⟩ := h
    change entries.lookup key = some e' at he'
    change (State.swapEntry key e entries).lookup k = if k = key then some e else _
    by_cases hk : k = key
    · subst hk
      rw [if_pos rfl, State.lookup_swapEntry_self he']
    · rw [if_neg hk, State.lookup_swapEntry_of_ne hk]

/-- A build goes on from its phase before. -/
theorem exists_of_step {t : Task} {q : Phase} (hq : q ≠ .fresh)
    (h : t.step setup s = (j.task q, r)) :
    ∃ p r', t = j.task p ∧ p.Steps setup j.descriptor s q r' ∧ r.activated = r'.activated := by
  generalize hu : j.task q = u at h
  cases Task.steps h with
  | getting h =>
    cases h with
    | begun =>
      cases j <;> cases hu
      exact absurd rfl hq
    | @went key d _ r' _ phase hp hn =>
      cases j <;> cases hu
      refine ⟨phase, r', rfl, Phase.steps hp hn, ?_⟩
      unfold Get.noteMade
      split <;> rfl
  | reloading h =>
    cases h with
    | @went _ _ _ _ _ _ _ phase hp hn =>
      cases j <;> cases hu
      exact ⟨phase, r, rfl, Phase.steps hp hn, rfl⟩
    | begun | failed | reused | replaced | skipped =>
      cases j with
      | get key d => cases hu
      | check report key current rest =>
        simp only [task, Task.reloading.injEq, Reload.checking.injEq] at hu
        exact absurd hu.2.2 hq
  | got | reloaded | gotStays | reloadedStays => cases j <;> cases hu

end Job

/-! ### Histories -/

/-- A run of calls on a cache that is empty at first. -/
structure History (σ : Type) where
  setup : Setup σ
  world : σ
  metrics : Bool
  moves : List (Move σ)

namespace History

variable {σ : Type} (h : History σ)

/-- The machine after the first moves. -/
def after (n : Nat) : Machine σ :=
  Machine.run h.setup (.new h.world h.metrics) (h.moves.take n)

/-- The state of the cache after the first moves. -/
def state (n : Nat) : State σ := (h.after n).state

/-- The stage of the call at a place after the first moves, if it has begun. -/
def task? (n place : Nat) : Option Task := (h.after n).tasks[place]?

/-- The slot of a contract type after the first moves: its entry, if there is one. -/
def slot (n : Nat) (key : Key) : Option Entry := State.entry? (h.state n) key

/-- A move is a turn of the call at a place, which takes it from one stage to the next. -/
structure Turn (n place : Nat) (t u : Task) : Prop where
  move : h.moves[n]? = some (.turn place)
  before : h.task? n place = some t
  step : t.step h.setup (h.state n) = (u, h.state (n + 1))

variable {h} {n m k place : Nat} {t u : Task} {a : Move σ}

@[simp] theorem after_zero : h.after 0 = .new h.world h.metrics := rfl

theorem after_succ (ha : h.moves[n]? = some a) : h.after (n + 1) = (h.after n).move h.setup a := by
  rw [after, after, List.take_add_one, ha, Machine.run, List.foldl_append]
  rfl

theorem after_succ_of_none (ha : h.moves[n]? = none) : h.after (n + 1) = h.after n := by
  rw [after, List.take_add_one, ha, Option.toList_none, List.append_nil, after]

theorem sound (h : History σ) (n : Nat) : (h.after n).Sound := Machine.sound_run ..

theorem move_turn {setup : Setup σ} {m : Machine σ} (ht : m.tasks[place]? = some t) :
    m.move setup (.turn place) =
      ⟨(t.step setup m.state).2, m.tasks.set place (t.step setup m.state).1⟩ := by
  simp only [Machine.move, ht]

theorem turn_of_move (hm : h.moves[n]? = some (.turn place)) (ht : h.task? n place = some t) :
    h.Turn n place t (t.step h.setup (h.state n)).1 := by
  refine ⟨hm, ht, ?_⟩
  rw [state, state, after_succ hm, move_turn ht]

theorem Turn.after (ht : h.Turn n place t u) : h.task? (n + 1) place = some u := by
  have hlt : place < (h.after n).tasks.length := (List.getElem?_eq_some_iff.1 ht.before).1
  rw [task?, after_succ ht.move, move_turn ht.before]
  have hu : (t.step h.setup (h.after n).state).1 = u := congrArg Prod.fst ht.step
  simp [hu, hlt]

theorem Turn.steps (ht : h.Turn n place t u) : t.Steps h.setup (h.state n) u (h.state (n + 1)) :=
  Task.steps ht.step

/-- What a move does to the state of the cache: nothing, or it is the turn of a call, or entries are
dropped, or others change the world or the registry. -/
inductive Happens (h : History σ) (n : Nat) : Prop
  | nothing (hs : h.state (n + 1) = h.state n)
  | turn {place : Nat} {t u : Task} (ht : h.Turn n place t u)
  | invalidate {key : Key} (ha : h.moves[n]? = some (.invalidate key))
      (hs : h.state (n + 1) = ((h.state n).invalidate key).2)
  | clear (ha : h.moves[n]? = some .clear) (hs : h.state (n + 1) = (h.state n).clear)
  | world {w : σ} (ha : h.moves[n]? = some (.world w))
      (hs : h.state (n + 1) = { h.state n with world := w })
  | registry {r : Watch.Registry} (ha : h.moves[n]? = some (.registry r))
      (hs : h.state (n + 1) = { h.state n with registry := r })

theorem happens (h : History σ) (n : Nat) : h.Happens n := by
  cases ha : h.moves[n]? with
  | none => exact .nothing (by rw [state, after_succ_of_none ha, state])
  | some a =>
    have hs : h.state (n + 1) = ((h.after n).move h.setup a).state := by rw [state, after_succ ha]
    cases a with
    | get key declared => exact .nothing hs
    | reload => exact .nothing hs
    | turn place =>
      cases ht : h.task? n place with
      | none =>
        rw [task?] at ht
        exact .nothing (by rw [hs]; simp only [Machine.move, ht, state])
      | some t => exact .turn (turn_of_move ha ht)
    | invalidate key => exact .invalidate ha hs
    | clear => exact .clear ha hs
    | world w => exact .world ha hs
    | registry r => exact .registry ha hs

theorem Turn.unique {place' : Nat} {t' u' : Task} (ht : h.Turn n place t u)
    (ht' : h.Turn n place' t' u') : place = place' ∧ t = t' ∧ u = u' := by
  obtain rfl : place = place' := by simpa using ht.move.symm.trans ht'.move
  obtain rfl : t = t' := by simpa using ht.before.symm.trans ht'.before
  exact ⟨rfl, rfl, congrArg Prod.fst (ht.step.symm.trans ht'.step)⟩

/-- What a move does to a call: nothing, or it is its turn, or the call begins. -/
theorem task?_succ (h : History σ) (n place : Nat) :
    h.task? (n + 1) place = h.task? n place ∨ (∃ t u, h.Turn n place t u) ∨
      h.task? n place = none ∧ ∃ a t, h.moves[n]? = some a ∧ a.Begins t ∧
        h.task? (n + 1) place = some t := by
  have hbegin : ∀ (a : Move σ) (t : Task), h.moves[n]? = some a → a.Begins t →
      (h.after (n + 1)).tasks = (h.after n).tasks ++ [t] →
      h.task? (n + 1) place = h.task? n place ∨ (∃ t u, h.Turn n place t u) ∨
        h.task? n place = none ∧ ∃ a t, h.moves[n]? = some a ∧ a.Begins t ∧
          h.task? (n + 1) place = some t := by
    intro a t ha ht heq
    unfold task?
    rw [heq]
    rcases Nat.lt_trichotomy place (h.after n).tasks.length with hlt | heq' | hgt
    · exact .inl (List.getElem?_append_left hlt)
    · exact .inr (.inr ⟨by simp [heq'], a, t, ha, ht, by simp [heq']⟩)
    · refine .inl ?_
      rw [List.getElem?_eq_none hgt.le, List.getElem?_eq_none]
      rw [List.length_append, List.length_singleton]
      omega
  cases ha : h.moves[n]? with
  | none => exact .inl (by rw [task?, after_succ_of_none ha, task?])
  | some a =>
    rw [ha] at hbegin
    cases a with
    | get key declared =>
      exact hbegin _ _ rfl (.get key declared) (by rw [after_succ ha]; rfl)
    | reload => exact hbegin _ _ rfl .reload (by rw [after_succ ha]; rfl)
    | turn place' =>
      cases ht : h.task? n place' with
      | none =>
        rw [task?] at ht
        exact .inl (by simp only [task?, after_succ ha, Machine.move, ht])
      | some t =>
        by_cases hplace : place' = place
        · subst hplace
          exact .inr (.inl ⟨t, _, turn_of_move ha ht⟩)
        · refine .inl ?_
          rw [task?, after_succ ha, move_turn ht]
          exact List.getElem?_set_ne hplace
    | invalidate | clear | world | registry =>
      exact .inl (by rw [task?, after_succ ha]; rfl)

theorem task?_succ_of_some (ht : h.task? n place = some t) :
    h.task? (n + 1) place = some t ∨ ∃ u, h.Turn n place t u := by
  rcases h.task?_succ n place with heq | ⟨t', u, hturn⟩ | ⟨hnone, -⟩
  · exact .inl (heq.trans ht)
  · obtain rfl : t = t' := by simpa using ht.symm.trans hturn.before
    exact .inr ⟨u, hturn⟩
  · rw [ht] at hnone
    cases hnone

theorem task?_of_finished (hf : t.Finished) (ht : h.task? n place = some t) (hm : n ≤ m) :
    h.task? m place = some t := by
  induction m, hm using Nat.le_induction with
  | base => exact ht
  | succ m hm ih =>
    rcases task?_succ_of_some ih with hsame | ⟨u, hturn⟩
    · exact hsame
    · obtain rfl : t = u := congrArg Prod.fst ((hf.step_eq _ _).symm.trans hturn.step)
      exact hturn.after

theorem task?_eq_none (hn : h.task? n place = none) (hm : n ≤ m)
    (hmoves : ∀ k a t, n ≤ k → k < m → h.moves[k]? = some a → ¬ a.Begins t) :
    h.task? m place = none := by
  induction m, hm using Nat.le_induction with
  | base => exact hn
  | succ m hm ih =>
    have hnone := ih fun k a t hk hkm => hmoves k a t hk (hkm.trans (Nat.lt_succ_self m))
    rcases h.task?_succ m place with heq | ⟨t, u, hturn⟩ | ⟨-, a, t, ha, hbegins, -⟩
    · rw [heq, hnone]
    · rw [hturn.before] at hnone
      cases hnone
    · exact absurd hbegins (hmoves m a t hm (Nat.lt_succ_self m) ha)

/-- **A call has come to its stage by a turn from another stage**, and stays there since. -/
theorem exists_turn (hu : h.task? n place = some u) (hb : ¬ u.Begins) :
    ∃ k t, k < n ∧ h.Turn k place t u ∧ t ≠ u ∧
      ∀ m, k < m → m ≤ n → h.task? m place = some u := by
  induction n with
  | zero => simp [task?, Machine.new] at hu
  | succ n ih =>
    by_cases hn : h.task? n place = some u
    · obtain ⟨k, t, hk, hturn, hne, hstay⟩ := ih hn
      refine ⟨k, t, hk.trans (Nat.lt_succ_self n), hturn, hne, fun m hkm hm => ?_⟩
      rcases Nat.le_succ_iff.1 hm with hm | rfl
      · exact hstay m hkm hm
      · exact hu
    · rcases h.task?_succ n place with heq | ⟨t, u', hturn⟩ | ⟨-, a, t, -, ht, ht'⟩
      · exact absurd (heq.symm.trans hu) hn
      · obtain rfl : u' = u := by simpa using hturn.after.symm.trans hu
        refine ⟨n, t, Nat.lt_succ_self n, hturn, ?_, fun m hkm hm => ?_⟩
        · rintro rfl
          exact hn hturn.before
        · obtain rfl : m = n + 1 := by omega
          exact hu
      · obtain rfl : t = u := by simpa using ht'.symm.trans hu
        exact absurd ht.task hb

/-! ### Builds -/

/-- Where the locator of a contract is found to lead. -/
def approachAt (h : History σ) (n : Nat) (d : Descriptor) : Approach :=
  (Resolution.approach h.setup.out h.setup.locator (h.state n).world (h.state n).registry d.locator).1

/-- What is seen of the source of a contract when its locator is followed with one move and the file is
read with another. -/
def seen (h : History σ) (began read : Nat) (d : Descriptor) : Observation :=
  (h.approachAt began d).observe h.setup.out (h.state read).world

/-- The call at a place resolves for a job: it follows the locator with the move `began` and reads the
file with the move `read`. -/
structure Resolves (h : History σ) (place : Nat) (j : Job) (began read : Nat) : Prop where
  lt : began < read
  begins : h.Turn began place (j.task .fresh) (j.task (.approached (h.approachAt began j.descriptor)))
  reads : h.Turn read place (j.task (.approached (h.approachAt began j.descriptor)))
    (j.task (.observed (h.seen began read j.descriptor)))

/-- The call at a place builds an instance for a job from what it has resolved, and makes it with the
move `made`. -/
structure Builds (h : History σ) (place : Nat) (j : Job) (b : Binding) (i : Instance)
    (began read made : Nat) : Prop where
  resolves : h.Resolves place j began read
  bind : (h.seen began read j.descriptor).bind j.descriptor = .ok b
  lt : read < made
  makes : h.Turn made place (j.task (.bound b)) (j.task (.made b i))
  table : ∃ number, (h.setup.factory.produce number j.descriptor b).2 = .ok i.table
  id_eq : i.id = (h.state made).activated + 1
  activated : (h.state (made + 1)).activated = i.id

section Builds

variable {j : Job} {b : Binding} {i : Instance} {q : Phase}

theorem exists_phase_turn (ht : h.task? n place = some (j.task q)) (hq : q ≠ .fresh) :
    ∃ k p r, k < n ∧ h.Turn k place (j.task p) (j.task q) ∧
      p.Steps h.setup j.descriptor (h.state k) q r ∧ (h.state (k + 1)).activated = r.activated ∧
      ∀ m, k < m → m ≤ n → h.task? m place = some (j.task q) := by
  obtain ⟨k, t, hk, hturn, -, hstay⟩ := exists_turn ht (j.not_begins_task q)
  obtain ⟨p, r, rfl, hsteps, hactivated⟩ := Job.exists_of_step hq hturn.step
  exact ⟨k, p, r, hk, hturn, hsteps, hactivated, hstay⟩

theorem exists_approach {a : Approach} (ht : h.task? n place = some (j.task (.approached a))) :
    ∃ began, began < n ∧ a = h.approachAt began j.descriptor ∧
      h.Turn began place (j.task .fresh) (j.task (.approached a)) := by
  obtain ⟨k, p, r, hk, hturn, hsteps, -, -⟩ := exists_phase_turn ht (by simp)
  cases hsteps with
  | approached ha => exact ⟨k, hk, (congrArg Prod.fst ha).symm, hturn⟩

/-- What a call has seen it has read before. -/
theorem exists_resolves {o : Observation} (ht : h.task? n place = some (j.task (.observed o))) :
    ∃ began read, read < n ∧ h.Resolves place j began read ∧ o = h.seen began read j.descriptor := by
  obtain ⟨read, p, r, hread, hturn, hsteps, -, -⟩ := exists_phase_turn ht (by simp)
  cases hsteps with
  | observed =>
    obtain ⟨began, hbegan, rfl, hbegins⟩ := exists_approach hturn.before
    exact ⟨began, read, hread, ⟨hbegan, hbegins, hturn⟩, rfl⟩

theorem exists_bind (ht : h.task? n place = some (j.task (.bound b))) :
    ∃ began read, read < n ∧ h.Resolves place j began read ∧
      (h.seen began read j.descriptor).bind j.descriptor = .ok b := by
  obtain ⟨k, p, r, hk, hturn, hsteps, -, -⟩ := exists_phase_turn ht (by simp)
  cases hsteps with
  | bound hb =>
    obtain ⟨began, read, hread, hresolves, rfl⟩ := exists_resolves hturn.before
    exact ⟨began, read, hread.trans hk, hresolves, hb⟩

/-- **An instance that a call holds has been built by that call.** -/
theorem exists_builds (ht : h.task? n place = some (j.task (.made b i))) :
    ∃ began read made, made < n ∧ h.Builds place j b i began read made ∧
      ∀ m, made < m → m ≤ n → h.task? m place = some (j.task (.made b i)) := by
  obtain ⟨made, p, r, hmade, hturn, hsteps, hactivated, hstay⟩ := exists_phase_turn ht (by simp)
  cases hsteps with
  | made hid hr htable =>
    obtain ⟨began, read, hread, hresolves, hbind⟩ := exists_bind hturn.before
    refine ⟨began, read, made, hmade, ⟨hresolves, hbind, hread, hturn, htable, hid, ?_⟩, hstay⟩
    rw [hactivated, hr, hid]

end Builds

/-! ### Identities -/

section Identities

variable {j j' : Job} {b b' : Binding} {i i' : Instance}

theorem activated_next_le (setup : Setup σ) (d : Descriptor) (s : State σ) (p : Phase) :
    s.activated ≤ (p.next setup d s).2.activated := by
  cases p with
  | observed o =>
    simp only [Phase.next]
    split <;> exact Nat.le_refl _
  | bound b =>
    simp only [Phase.next, Phase.make]
    split
    · exact Nat.le_refl _
    · exact Nat.le_succ _
  | fresh | approached | made => exact Nat.le_refl _

theorem activated_step_le {setup : Setup σ} {s r : State σ} (ht : t.Steps setup s u r) :
    s.activated ≤ r.activated := by
  obtain ⟨s', hs', -, hactivated⟩ := ht.exists_next
  rw [hactivated]
  rcases hs' with rfl | ⟨d, p, o, hn⟩
  · exact Nat.le_refl _
  · have hle := activated_next_le setup d s p
    rwa [hn] at hle

theorem activated_succ_le (h : History σ) (n : Nat) :
    (h.state n).activated ≤ (h.state (n + 1)).activated := by
  cases h.happens n with
  | turn ht => exact activated_step_le ht.steps
  | invalidate _ hs =>
    rw [hs, State.invalidate]
    split <;> exact Nat.le_refl _
  | nothing hs | clear _ hs | world _ hs | registry _ hs => exact (congrArg State.activated hs).ge

theorem activated_mono (h : History σ) : Monotone fun n => (h.state n).activated :=
  monotone_nat_of_le_succ h.activated_succ_le

variable {began read made began' read' made' : Nat} {place' : Nat}

theorem Builds.made_le (hb : h.Builds place j b i began read made)
    (hb' : h.Builds place' j' b' i' began' read' made') (hid : i.id = i'.id) : made' ≤ made := by
  by_contra hlt
  have hle : (h.state (made + 1)).activated ≤ (h.state made').activated :=
    h.activated_mono (by omega)
  rw [hb.activated, hid, hb'.id_eq] at hle
  omega

/-- **An identity is that of one build.** -/
theorem Builds.unique (hb : h.Builds place j b i began read made)
    (hb' : h.Builds place' j' b' i' began' read' made') (hid : i.id = i'.id) :
    place = place' ∧ j = j' ∧ b = b' ∧ i = i' ∧ made = made' := by
  obtain rfl : made = made' := (hb'.made_le hb hid.symm).antisymm (hb.made_le hb' hid)
  obtain ⟨rfl, -, htask⟩ := hb.makes.unique hb'.makes
  obtain ⟨rfl, hphase⟩ := Job.task_inj htask
  cases hphase
  exact ⟨rfl, rfl, rfl, rfl, rfl⟩

theorem Turn.unique_of_made {u' : Task} (ht : h.Turn n place (j.task (.made b i)) u)
    (ht' : h.Turn m place (j.task (.made b i)) u') : n = m := by
  have hlt : ∀ {n m u u'}, h.Turn n place (j.task (.made b i)) u →
      h.Turn m place (j.task (.made b i)) u' → ¬ n < m := by
    intro n m u u' ht ht' hnm
    obtain ⟨began, read, made, hmade, hb, -⟩ := exists_builds ht.before
    obtain ⟨began', read', made', hmade', hb', hstay⟩ := exists_builds ht'.before
    obtain ⟨-, -, -, -, rfl⟩ := hb.unique hb' rfl
    have hu : u = j.task (.made b i) :=
      Option.some.inj (ht.after.symm.trans (hstay (n + 1) (by omega) hnm))
    subst hu
    obtain ⟨p, r, hp, hsteps, -⟩ := Job.exists_of_step (by simp) ht.step
    cases (Job.task_inj hp).2
    cases hsteps
  rcases Nat.lt_trichotomy n m with h1 | h2 | h3
  · exact absurd h1 (hlt ht ht')
  · exact h2
  · exact absurd h3 (hlt ht' ht)

end Identities

end History

end TypedConfig.Cache
