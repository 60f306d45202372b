import TypedConfig.Proofs.Service.Shutdown
import TypedConfig.Proofs.Watch.Loop

/-!
Services that are driven by one caller. In between the calls the watch loop runs until nothing is left for
it to do (`Service.stepLoop_rest`). What such a service does are moves of an operation in which each call has
all its turns at once, and the three moves of a shutdown come one after the other. So every session is a
course (`Session.exists_course`).
-/

namespace TypedConfig

open Cache (Does Machine Task)

/-! ### What services leave as it is -/

namespace Service

variable {σ : Type}

theorem loop_shutDown (s : Service σ) : s.shutDown.loop = s.loop := by
  unfold shutDown
  split <;> rfl

theorem shutdown_stepLoop (s : Service σ) : s.stepLoop.shutdown = s.shutdown := by
  unfold stepLoop
  split <;> rfl

theorem entries_stepLoop (s : Service σ) (hempty : s.state.entries = []) :
    s.stepLoop.state.entries = [] := by
  unfold stepLoop
  split
  · exact hempty
  · dsimp only
    split
    · exact Cache.State.entries_reloadAll_of_empty s.setup hempty
    · exact hempty

end Service

/-! ### Moves that follow each other -/

namespace Operation

variable {σ : Type} {closes closes' : Prop} {o r q : Operation σ} {s t : Service σ} {begun : List Task}

/-- The operation with another cache and other calls. -/
def withMachine (o : Operation σ) (m : Machine σ) : Operation σ :=
  { o.withState m.state with calls := m.tasks }

/-- Moves take an operation to another. Among them the service is shut down only if they close it. -/
def Reaches (closes : Prop) (o r : Operation σ) : Prop :=
  ∃ moves, o.run moves = r ∧ (Move.shutDown ∈ moves → closes)

theorem Reaches.refl (o : Operation σ) : o.Reaches closes o := ⟨[], rfl, by simp⟩

theorem Reaches.trans (h : o.Reaches closes r) (h' : r.Reaches closes q) : o.Reaches closes q := by
  obtain ⟨moves, rfl, hmoves⟩ := h
  obtain ⟨moves', rfl, hmoves'⟩ := h'
  exact ⟨moves ++ moves', List.foldl_append, fun hm => (List.mem_append.1 hm).elim hmoves hmoves'⟩

theorem Reaches.imp (h : o.Reaches closes r) (hc : closes → closes') : o.Reaches closes' r := by
  obtain ⟨moves, hr, hmoves⟩ := h
  exact ⟨moves, hr, hc ∘ hmoves⟩

theorem reaches_move (o : Operation σ) {a : Move σ} (ha : a ≠ .shutDown) :
    o.Reaches closes (o.move a) :=
  ⟨[a], rfl, fun hm => absurd (List.mem_singleton.1 hm).symm ha⟩

/-- As long as the service is in use, a move of its cache that leaves the registry to the calls is a move of
the operation. -/
theorem reaches_withMachine_move (o : Operation σ) (ho : o.service.shutdown.triggered = false)
    (a : Cache.Move σ) (ha : ∀ registry, a ≠ .registry registry) :
    o.Reaches closes (o.withMachine (o.machine.move o.service.setup a)) := by
  cases a with
  | get key declared =>
    have h : o.Reaches closes _ := o.reaches_move (a := .get key declared) (by simp)
    rw [move, ho] at h
    exact h
  | reload => exact o.reaches_move (a := .reload) (by simp)
  | turn place =>
    have h : o.Reaches closes _ := o.reaches_move (a := .turn place) (by simp)
    simp only [move, turn] at h
    simp only [Machine.move, machine]
    cases ht : o.calls[place]? with
    | none =>
      rw [ht] at h
      exact h
    | some t =>
      rw [ht] at h
      exact h
  | invalidate key => exact o.reaches_move (a := .invalidate key) (by simp)
  | clear => exact o.reaches_move (a := .clear) (by simp)
  | world w => exact o.reaches_move (a := .world w) (by simp)
  | registry registry => exact absurd rfl (ha registry)

theorem reaches_withMachine_run (o : Operation σ) (ho : o.service.shutdown.triggered = false)
    (moves : List (Cache.Move σ)) (hmoves : ∀ registry, .registry registry ∉ moves) :
    o.Reaches closes (o.withMachine (o.machine.run o.service.setup moves)) := by
  induction moves generalizing o with
  | nil => exact .refl o
  | cons a rest ih =>
    have hmove : o.Reaches closes _ := o.reaches_withMachine_move ho a fun registry ha =>
      hmoves registry (ha ▸ List.mem_cons_self)
    exact hmove.trans (ih (o.withMachine (o.machine.move o.service.setup a)) ho
      fun registry hrest => hmoves registry (List.mem_cons_of_mem a hrest))

theorem reaches_of_does {state : Cache.State σ} (ho : o.service.shutdown.triggered = false)
    (h : Does o.service.setup False o.service.state begun state) :
    o.Reaches closes { o.withState state with calls := o.calls ++ begun } := by
  obtain ⟨moves, hmoves, hshared⟩ := h o.calls
  have hrun : o.Reaches closes _ := o.reaches_withMachine_run ho moves fun registry hr =>
    hshared registry hr
  have hmachine : o.machine.run o.service.setup moves = ⟨state, o.calls ++ begun⟩ := hmoves
  rw [hmachine] at hrun
  exact hrun

theorem reaches_pass {place : Nat}
    (hdown : o.service.shutdown.triggered = true → o.service.state.entries = [])
    (hcall : o.calls[place]? = some (.reloading .start)) :
    ∃ report, o.Reaches closes { o.withState (o.service.state.reloadAll o.service.setup).2 with
      calls := o.calls.set place (.reloaded report) } := by
  have hlt := (List.getElem?_eq_some_iff.1 hcall).1
  cases htriggered : o.service.shutdown.triggered with
  | true =>
    -- the pass takes its snapshot of an empty cache, and ends
    have hempty := hdown htriggered
    have hbegin : (Task.reloading .start).step o.service.setup o.service.state =
        (.reloading (.checking .zero [] .fresh), (o.service.state.reloadAll o.service.setup).2) := by
      rw [Cache.State.reloadAll_of_empty _ hempty]
      simp only [Task.step, Cache.Reload.step, Cache.Reload.snapshot_of_empty hempty]
    have hfirst : o.move (.turn place) =
        { o.withState (o.service.state.reloadAll o.service.setup).2 with
          calls := o.calls.set place (.reloading (.checking .zero [] .fresh)) } := by
      simp only [move, turn, hcall, hbegin]
    refine ⟨.zero, [.turn place, .turn place], ?_, by simp⟩
    simp only [run, List.foldl_cons, List.foldl_nil, hfirst]
    simp only [move, turn, withState, List.getElem?_set_self hlt, Task.step, Cache.Reload.step,
      List.set_set]
  | false =>
    have hsplit : ∃ tasks later, o.calls = tasks ++ o.calls[place] :: later ∧ tasks.length = place ∧
        o.calls.set place (.reloaded (o.service.state.reloadAll o.service.setup).1) =
          tasks ++ .reloaded (o.service.state.reloadAll o.service.setup).1 :: later :=
      List.exists_of_set hlt
    obtain ⟨tasks, later, hcalls, rfl, hset⟩ := hsplit
    rw [(List.getElem?_eq_some_iff.1 hcall).2] at hcalls
    have hturns : Machine.Reaches o.service.setup False _ _ :=
      (Cache.plays_reload o.service.setup).reaches_run (t := .start) trivial o.service.state tasks later
    obtain ⟨moves, hmoves, hshared⟩ := hturns
    have hrun : o.Reaches closes _ := o.reaches_withMachine_run htriggered moves fun registry hr =>
      hshared registry hr
    have hmachine : o.machine = ⟨o.service.state, tasks ++ .reloading .start :: later⟩ := by
      rw [machine, hcalls]
    rw [hmachine, hmoves, ← Cache.State.reloadAll, ← hset] at hrun
    exact ⟨_, hrun⟩

/-! ### The operation behind a service -/

/-- An operation stands behind a service. If the watch loop is about to let a pass run, the pass has begun
and has had no turn. No shutdown is under way, and one that has returned has left nothing in the cache. -/
structure Behind (o : Operation σ) (s : Service σ) : Prop where
  service : o.service = s
  pass : ∀ l, s.loop = some l → l.stage = .reloading →
    ∃ place, o.pass = some place ∧ o.calls[place]? = some (.reloading .start)
  closing : o.closing = none
  entries : s.shutdown.triggered = true → s.state.entries = []

/-- The service goes on, and an operation behind it goes along. -/
def Follows (closes : Prop) (s t : Service σ) : Prop :=
  ∀ o : Operation σ, o.Behind s → ∃ r, o.Reaches closes r ∧ r.Behind t

theorem Follows.refl (s : Service σ) : Follows closes s s := fun o ho => ⟨o, .refl o, ho⟩

theorem Follows.trans {u : Service σ} (h : Follows closes s t) (h' : Follows closes t u) :
    Follows closes s u := by
  intro o ho
  obtain ⟨r, hr, hrt⟩ := h o ho
  obtain ⟨q, hq, hqu⟩ := h' r hrt
  exact ⟨q, hr.trans hq, hqu⟩

theorem Follows.imp (h : Follows closes s t) (hc : closes → closes') : Follows closes' s t := by
  intro o ho
  obtain ⟨r, hr, hrt⟩ := h o ho
  exact ⟨r, hr.imp hc, hrt⟩

/-- What the cache of a service that is in use does on its own. -/
theorem follows_of_does {state : Cache.State σ} (hs : s.shutdown.triggered = false)
    (h : Does s.setup False s.state begun state) : Follows closes s { s with state } := by
  intro o ho
  obtain rfl := ho.service
  refine ⟨_, reaches_of_does hs h, rfl, fun l hl hstage => ?_, ho.closing, fun htriggered => ?_⟩
  · obtain ⟨place, hpass, hcall⟩ := ho.pass l hl hstage
    exact ⟨place, hpass,
      (List.getElem?_append_left (List.getElem?_eq_some_iff.1 hcall).1).trans hcall⟩
  · rw [hs] at htriggered
    cases htriggered

/-- A move that concerns nothing but the cache, and puts nothing in it. -/
theorem follows_of_move {a : Move σ} {state : Cache.State σ} (ha : a ≠ .shutDown)
    (hmove : ∀ o : Operation σ, o.service = s → o.move a = o.withState state)
    (hempty : s.state.entries = [] → state.entries = []) : Follows closes s { s with state } := by
  intro o ho
  have h : o.Reaches closes _ := o.reaches_move ha
  rw [hmove o ho.service] at h
  obtain rfl := ho.service
  exact ⟨_, h, rfl, ho.pass, ho.closing, hempty ∘ ho.entries⟩

theorem follows_deliver (s : Service σ) (d : Watch.Delivery) : Follows closes s (s.deliver d) := by
  intro o ho
  obtain rfl := ho.service
  refine ⟨_, o.reaches_move (a := .deliver d) (by simp), rfl, fun l hl hstage => ?_, ho.closing,
    ho.entries⟩
  obtain ⟨l', hl', rfl⟩ := Option.map_eq_some_iff.1 hl
  exact ho.pass l' hl' hstage

theorem follows_reloadAll (s : Service σ) : Follows closes s s.reloadAll.2 := by
  intro o ho
  obtain rfl := ho.service
  have hbegun : (o.move .reload).calls[o.calls.length]? = some (.reloading .start) :=
    List.getElem?_concat_length
  obtain ⟨report, hreach⟩ := reaches_pass (o := o.move .reload) ho.entries hbegun
  refine ⟨_, (o.reaches_move (a := .reload) (by simp)).trans hreach, rfl, fun l hl hstage => ?_,
    ho.closing, fun htriggered =>
      Cache.State.entries_reloadAll_of_empty o.service.setup (ho.entries htriggered)⟩
  obtain ⟨place, hpass, hcall⟩ := ho.pass l hl hstage
  have hlt := (List.getElem?_eq_some_iff.1 hcall).1
  refine ⟨place, hpass, ?_⟩
  rw [List.getElem?_set_ne hlt.ne']
  exact (List.getElem?_append_left hlt).trans hcall

/-- A shutdown makes its three moves. -/
theorem follows_shutDown (s : Service σ) : Follows True s s.shutDown := by
  intro o ho
  obtain rfl := ho.service
  refine ⟨{ o with service := o.service.shutDown },
    ⟨[.shutDown, .close, .close], o.run_shutDown ho.closing, fun _ => trivial⟩, rfl, ?_, ho.closing, ?_⟩
  · rw [Service.loop_shutDown]
    exact ho.pass
  · intro _
    unfold Service.shutDown Shutdown.trigger
    cases htriggered : o.service.shutdown.triggered with
    | true => exact ho.entries htriggered
    | false => rfl

theorem stepLoop_of_passEnded {l : Watch.Loop} (hl : o.service.loop = some l)
    (hstage : l.stage = .reloading) (hended : o.passEnded = true) (hears : Bool) :
    o.stepLoop hears =
      { o with service := { o.service with loop := some { l with stage := .waiting } } } := by
  unfold stepLoop
  simp [hl, hended, Watch.Loop.next_of_reloading hstage]

theorem follows_stepLoop (s : Service σ) : Follows closes s s.stepLoop := by
  intro o ho
  obtain rfl := ho.service
  have hentries : o.service.stepLoop.shutdown.triggered = true →
      o.service.stepLoop.state.entries = [] := fun htriggered =>
    o.service.entries_stepLoop (ho.entries (o.service.shutdown_stepLoop ▸ htriggered))
  unfold Service.stepLoop at hentries ⊢
  cases hl : o.service.loop with
  | none => exact ⟨o, .refl o, ho⟩
  | some l =>
    rw [hl] at hentries
    dsimp only at hentries ⊢
    by_cases hstage : l.stage = .reloading
    · -- the pass that has begun has its turns, and the loop goes on
      obtain ⟨place, hpass, hcall⟩ := ho.pass l hl hstage
      obtain ⟨report, hreach⟩ := reaches_pass ho.entries hcall
      have hended : (o.calls.set place (.reloaded report))[place]? = some (.reloaded report) :=
        List.getElem?_set_self (List.getElem?_eq_some_iff.1 hcall).1
      have hloop := stepLoop_of_passEnded
        (o := { o.withState (o.service.state.reloadAll o.service.setup).2 with
          calls := o.calls.set place (.reloaded report) })
        hl hstage (by simp only [passEnded, withState, hpass, Option.bind_some, hended]) true
      have hreach' : o.Reaches closes _ := hreach.trans (reaches_move _ (a := .loop true) (by simp))
      rw [move, hloop] at hreach'
      rw [if_pos hstage] at hentries ⊢
      refine ⟨_, hreach', by rw [Watch.Loop.next_of_reloading hstage]; rfl,
        fun l' hl' hreloading => ?_, ho.closing, hentries⟩
      rw [Watch.Loop.next_of_reloading hstage] at hl'
      cases hl'
      cases hreloading
    · rw [if_neg hstage] at hentries ⊢
      refine ⟨_, o.reaches_move (a := .loop true) (by simp), ?_⟩
      have hsteps := o.loopSteps true
      simp only [move]
      generalize o.stepLoop true = r at hsteps
      cases hsteps with
      | absent hnone =>
        rw [hl] at hnone
        cases hnone
      | blocked hl' hreloading =>
        obtain rfl := Option.some.inj (hl.symm.trans hl')
        exact absurd hreloading hstage
      | goes hl' _ hnext hnot =>
        obtain rfl := Option.some.inj (hl.symm.trans hl')
        rw [Bool.true_and] at hnext
        refine ⟨by rw [hnext], fun l' hl' hreloading => ?_, ho.closing, hentries⟩
        cases hl'
        exact absurd (hnext ▸ hreloading) hnot
      | launches hl' _ hnext =>
        obtain rfl := Option.some.inj (hl.symm.trans hl')
        rw [Bool.true_and] at hnext
        exact ⟨by rw [hnext], fun l' _ _ => ⟨_, rfl, by simp⟩, ho.closing, hentries⟩

end Operation

/-! ### Services -/

namespace Service

open Operation (Follows)

variable {σ : Type} {closes : Prop}

/-- A step of the loop changes nothing, or leaves less to do. -/
theorem stepLoop_eq_or_lt (s : Service σ) {l : Watch.Loop} (hl : s.loop = some l) :
    s.stepLoop = s ∨ ∃ l', s.stepLoop.loop = some l' ∧ l'.work < l.work := by
  have hsteps := Watch.Loop.steps s.state.registry s.shutdown.triggered l
  unfold stepLoop
  rw [hl]
  dsimp only
  rcases hsteps.work_lt with heq | hlt
  · refine .inl ?_
    have hstage : l.stage ≠ .reloading := by
      intro hstage
      rw [Watch.Loop.next_of_reloading hstage] at heq
      rw [← heq] at hstage
      cases hstage
    rw [heq, if_neg hstage, ← hl]
  · exact .inr ⟨_, rfl, hlt⟩

theorem stepLoop_of_none {s : Service σ} (hl : s.loop = none) : s.stepLoop = s := by
  rw [stepLoop, hl]

theorem stepLoops_eq_self {s : Service σ} (h : s.stepLoop = s) (n : Nat) : stepLoops n s = s := by
  induction n with
  | zero => rfl
  | succ n ih => rw [stepLoops, h, ih]

theorem stepLoop_stepLoops (n : Nat) (s : Service σ) (hn : ∀ l, s.loop = some l → l.work ≤ n) :
    (stepLoops n s).stepLoop = stepLoops n s := by
  induction n generalizing s with
  | zero =>
    cases hl : s.loop with
    | none => exact stepLoop_of_none hl
    | some l =>
      refine (s.stepLoop_eq_or_lt hl).resolve_right ?_
      rintro ⟨l', -, hlt⟩
      have hle := hn l hl
      omega
  | succ n ih =>
    by_cases hstill : s.stepLoop = s
    · rw [stepLoops_eq_self hstill, hstill]
    · cases hl : s.loop with
      | none => exact absurd (stepLoop_of_none hl) hstill
      | some l =>
        obtain ⟨l', hl', hlt⟩ := (s.stepLoop_eq_or_lt hl).resolve_left hstill
        refine ih s.stepLoop fun l'' hl'' => ?_
        obtain rfl := Option.some.inj (hl'.symm.trans hl'')
        have hle := hn l hl
        omega

/-- **The loop comes to rest**: when it has run, another step changes nothing. -/
theorem stepLoop_rest (s : Service σ) : s.rest.stepLoop = s.rest := by
  unfold rest
  cases hl : s.loop with
  | none => exact stepLoop_of_none hl
  | some l =>
    refine stepLoop_stepLoops _ s fun l' hl' => ?_
    obtain rfl := Option.some.inj (hl.symm.trans hl')
    exact l.work_le

theorem shutdown_stepLoops (n : Nat) (s : Service σ) : (stepLoops n s).shutdown = s.shutdown := by
  induction n generalizing s with
  | zero => rfl
  | succ n ih => rw [stepLoops, ih, shutdown_stepLoop]

theorem shutdown_rest (s : Service σ) : s.rest.shutdown = s.shutdown := by
  unfold rest
  split
  · rfl
  · exact shutdown_stepLoops _ s

/-- When the loop of a service that has been shut down rests, it has stopped. -/
theorem stopped_rest (s : Service σ) (hs : s.shutdown.triggered = true) {l : Watch.Loop}
    (hl : s.rest.loop = some l) : l.stage = .stopped := by
  have hrest := congrArg Service.loop s.stepLoop_rest
  simp only [stepLoop, hl, shutdown_rest, hs] at hrest
  exact Watch.Loop.stage_of_next_eq (Option.some.inj hrest)

theorem follows_stepLoops (n : Nat) (s : Service σ) : Follows closes s (stepLoops n s) := by
  induction n generalizing s with
  | zero => exact .refl s
  | succ n ih => exact (Operation.follows_stepLoop s).trans (ih s.stepLoop)

theorem follows_rest (s : Service σ) : Follows closes s s.rest := by
  unfold rest
  split
  · exact .refl s
  · exact follows_stepLoops _ s

theorem follows_join (s : Service σ) : Follows closes s s.join := by
  refine s.follows_rest.trans ?_
  unfold join
  dsimp only
  cases hs : s.shutdown.triggered with
  | false =>
    rw [if_neg (by simp [shutdown_rest, hs])]
    exact .refl s.rest
  | true =>
    rw [if_pos (by simp [shutdown_rest, hs])]
    intro o ho
    obtain ⟨hservice, -, hclosing, hentries⟩ := ho
    refine ⟨_, o.reaches_move (a := .join) (by simp), ?_⟩
    simp only [Operation.move, Operation.join, hservice]
    split
    · exact ⟨rfl, by simp, hclosing, hentries⟩
    · rename_i hstopped
      cases hl : s.rest.loop with
      | none =>
        refine ⟨?_, by simp, hclosing, hentries⟩
        rw [hservice, ← hl]
      | some l =>
        obtain ⟨stage, queue⟩ := l
        obtain rfl : stage = .stopped := s.stopped_rest hs hl
        exact absurd hl (hstopped queue)

theorem follows_get (s : Service σ) (key : Cache.Key) (declared : Contract.Declaration) :
    Follows closes s (s.get key declared).2 := by
  unfold get
  split
  · exact .refl s
  · rename_i hs
    have h : Follows closes s { s with state := (s.state.get s.setup key declared).2 } :=
      Operation.follows_of_does (by simpa using hs) (Cache.does_get s.setup s.state key declared)
    rcases hget : s.state.get s.setup key declared with ⟨e | i, state⟩ <;> rw [hget] at h <;> exact h

theorem follows_invalidate (s : Service σ) (key : Cache.Key) :
    Follows closes s (s.invalidate key).2 := by
  refine Operation.follows_of_move (a := .invalidate key) (by simp) (fun o ho => ?_)
    (Cache.State.entries_invalidate_of_empty key)
  obtain rfl := ho
  rfl

end Service

/-! ### Sessions -/

namespace Session.State

open Operation (Follows)
open Files (Sandbox FileStep)

variable {closes : Prop}

theorem follows_changeFile (s : State) (change : FileStep) :
    Follows closes s.service (s.changeFile change).service := by
  have hworld : Follows closes s.service
      { s.service with state := changeWorld s.service.state change } :=
    Operation.follows_of_move (a := .world (s.service.state.world.apply change)) (by simp)
      (fun o ho => by rw [Operation.move, ho]; rfl) id
  cases hd : s.service.state.world.deliveryOf s.watchedDirectories change with
  | none =>
    simp only [changeFile, hd]
    exact hworld.trans (Service.follows_rest _)
  | some d =>
    simp only [changeFile, hd]
    exact hworld.trans ((Operation.follows_deliver _ d).trans (Service.follows_rest _))

theorem follows_getAround (s : State) (slot : Nat) (during : List Action) :
    Follows closes s.service (s.getAround slot during).2.2.service := by
  unfold getAround
  split
  · exact .refl _
  · rename_i hs
    obtain ⟨begun, h⟩ := Cache.does_getAround s.service.setup (s.actAll during)
      (s.does_actAll during) Cache.Get.readsNext s.service.state slot (s.declarationOf slot)
    exact Operation.follows_of_does (by simpa using hs) h

theorem follows_reloadAround (s : State) (during : List Action) :
    Follows closes s.service (s.reloadAround during).2.2.service := by
  cases hs : s.service.shutdown.triggered with
  | false =>
    obtain ⟨begun, h⟩ := Cache.does_reloadAround s.service.setup (s.actAll during)
      (s.does_actAll during) Cache.Reload.readsNext s.service.state
    exact Operation.follows_of_does hs h
  | true =>
    -- the cache is empty, so nothing is done while the pass reads
    intro o ho
    have hrun := Cache.Reload.runAround_of_empty s.service.setup (s.actAll during) (ho.entries hs)
    simp only [reloadAround, hrun]
    exact Operation.follows_reloadAll s.service o ho

theorem follows_step (s : State) (a : Step) :
    Follows (a = .shutDown) s.service (s.step a).2.2.service := by
  cases a with
  | get slot declared during =>
    have hdeclare : (s.declare slot declared).service = s.service := by
      cases declared <;> rfl
    have h : Follows False _ _ := (s.declare slot declared).follows_getAround slot during
    rw [hdeclare] at h
    simp only [step]
    rcases hrun : (s.declare slot declared).getAround slot during with ⟨e | i, answers, s'⟩ <;>
      rw [hrun] at h <;> exact h.imp False.elim
  | reload during => exact s.follows_reloadAround during
  | invalidate slot => exact s.service.follows_invalidate slot
  | clear =>
    exact Operation.follows_of_move (a := .clear) (by simp) (fun o ho => by rw [Operation.move, ho])
      fun _ => rfl
  | shutDown =>
    exact ((Operation.follows_shutDown s.service).imp fun _ => rfl).trans (Service.follows_rest _)
  | typed => exact s.service.follows_get everythingKey everything
  | file change => exact s.follows_changeFile change
  | awaitInstance slot => exact s.service.follows_get slot (s.declarationOf slot)
  | join => exact s.service.follows_join
  | held | entry | warnings | settings | read | awaitPass | quiet => exact .refl _

theorem follows_run (s : State) (steps : List Step) :
    Follows (.shutDown ∈ steps) s.service (s.run steps).2.service := by
  induction steps generalizing s with
  | nil => exact .refl _
  | cons a rest ih =>
    refine ((s.follows_step a).imp fun ha => ha ▸ List.mem_cons_self).trans
      ((ih { (s.step a).2.2 with held := (s.step a).2.2.held ++ [heldBy a (s.step a).1] }).imp
        fun hrest => List.mem_cons_of_mem a hrest)

end Session.State

/-- A service that has just started has sent no signal, and its loop waits if it has one. -/
theorem Session.Host.of_start {host : Session.Host} {settings : Settings} {world : Files.Sandbox}
    {service : Service Files.Sandbox} (hs : host.start settings world = .ok service) :
    service.shutdown.triggered = false ∧ ∀ l, service.loop = some l → l.stage = .waiting := by
  cases host with
  | cache =>
    cases hs
    exact ⟨rfl, fun l hl => by cases hl⟩
  | service | watched =>
    obtain ⟨htriggered, hloop⟩ := Service.loop_of_start hs
    refine ⟨htriggered, fun l hl => ?_⟩
    rw [hloop] at hl
    split at hl <;> cases hl
    rfl

/-- **Every session is a course.** A service that is started and driven through any steps stands where a
course of operation ends. As long as the steps do not shut it down, the course is open. -/
theorem Session.exists_course {host : Session.Host} {settings : Settings} {world : Files.Sandbox}
    {service : Service Files.Sandbox} (hs : host.start settings world = .ok service)
    (steps : List Session.Step) :
    ∃ c : Course Files.Sandbox, c.service = service ∧
      c.serviceAt c.moves.length = ((Session.State.new service).run steps).2.service ∧
      (.shutDown ∉ steps → c.Open c.moves.length) := by
  obtain ⟨htriggered, hloop⟩ := Session.Host.of_start hs
  have hbehind : (Operation.new service).Behind service :=
    ⟨rfl, fun l hl hstage => by simp [hloop l hl] at hstage, rfl, by simp [htriggered]⟩
  obtain ⟨r, ⟨moves, hmoves, hshutDown⟩, hr⟩ :=
    (Session.State.new service).follows_run steps _ hbehind
  refine ⟨⟨service, moves⟩, rfl, ?_, fun hnone k _ hk => hnone (hshutDown (List.mem_of_getElem? hk))⟩
  rw [Course.serviceAt, Course.after, List.take_length, hmoves, hr.service]

end TypedConfig
