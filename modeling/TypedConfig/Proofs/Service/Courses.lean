import TypedConfig.Proofs.Sessions
import TypedConfig.Service.Operation

/-!
Courses of operation. Whatever happens to a service, its cache goes through the moves of a history
(`Course.after_history`), so what holds of every history of a cache holds of every service in operation.
Until the shutdown begins nobody clears the registry (`Course.attended_history`).
-/

namespace TypedConfig

open Cache (History Machine Task)

namespace Operation

variable {σ : Type} {o : Operation σ} {a : Move σ} {hears : Bool}

/-! ### The cache of an operation -/

/-- The cache and the calls on it. -/
def machine (o : Operation σ) : Machine σ := ⟨o.service.state, o.calls⟩

/-- A move of the cache that changes nothing. -/
def pause (o : Operation σ) : Cache.Move σ := .world o.service.state.world

/-- What a move does to the cache. -/
def cacheMove (o : Operation σ) : Move σ → Cache.Move σ
  | .get key declared => if o.service.shutdown.triggered then o.pause else .get key declared
  | .reload => .reload
  | .turn place => .turn place
  | .invalidate key => .invalidate key
  | .clear => .clear
  | .close =>
    match o.closing with
    | none => o.pause
    | some .cache => .clear
    | some .registry => .registry o.service.state.registry.clear
  | .loop hears => if (o.stepLoop hears).calls.length = o.calls.length then o.pause else .reload
  | .shutDown | .deliver _ | .join => o.pause
  | .world w => .world w

/-- What a step of the watch loop is: none, where there is no loop or the pass that it has begun has not
ended; or its next step, and a pass begins if that leads to reloading. -/
inductive LoopSteps (o : Operation σ) (hears : Bool) : Operation σ → Prop
  | absent (h : o.service.loop = none) : LoopSteps o hears o
  | blocked {l} (h : o.service.loop = some l) (hstage : l.stage = .reloading)
      (hpass : o.passEnded = false) : LoopSteps o hears o
  | goes {l next} (h : o.service.loop = some l) (hpass : l.stage = .reloading → o.passEnded = true)
      (hnext : next = l.next o.service.state.registry (hears && o.service.shutdown.triggered))
      (hstage : next.stage ≠ .reloading) :
      LoopSteps o hears { o with service := { o.service with loop := some next } }
  | launches {l next} (h : o.service.loop = some l) (hpass : l.stage = .reloading → o.passEnded = true)
      (hnext : next = l.next o.service.state.registry (hears && o.service.shutdown.triggered))
      (hstage : next.stage = .reloading) :
      LoopSteps o hears ⟨{ o.service with loop := some next }, o.calls ++ [.reloading .start],
        some o.calls.length, o.closing⟩

theorem loopSteps (o : Operation σ) (hears : Bool) : LoopSteps o hears (o.stepLoop hears) := by
  unfold stepLoop
  cases hl : o.service.loop with
  | none => exact .absent hl
  | some l =>
    dsimp only
    split
    · rename_i h
      exact .blocked hl h.1 (by simpa using h.2)
    · rename_i h
      have hpass : l.stage = .reloading → o.passEnded = true := by simpa using h
      split
      · rename_i hstage
        exact .launches hl hpass rfl hstage
      · rename_i hstage
        exact .goes hl hpass rfl hstage

/-- What a move does. To the cache it is one of its moves. Only the shutdown sends the signal, and only after
that is anything closed; only deliveries and the steps of the loop concern the loop. -/
structure Moved (o : Operation σ) (a : Move σ) (r : Operation σ) : Prop where
  machine : r.machine = o.machine.move o.service.setup (o.cacheMove a)
  setup : r.service.setup = o.service.setup
  shutdown : a ≠ .shutDown → r.service.shutdown = o.service.shutdown
  closing : a ≠ .shutDown →
    r.closing = o.closing ∨ o.closing ≠ none ∧ r.closing ≠ some .cache
  loop : (∀ d, a ≠ .deliver d) → (∀ hears, a ≠ .loop hears) → a ≠ .join →
    r.service.loop = o.service.loop ∧ r.pass = o.pass

theorem Moved.of_machine {state : Cache.State σ} {calls : List Task}
    (h : ⟨state, calls⟩ = o.machine.move o.service.setup (o.cacheMove a)) :
    o.Moved a { o.withState state with calls } :=
  ⟨h, rfl, fun _ => rfl, fun _ => .inl rfl, fun _ _ _ => ⟨rfl, rfl⟩⟩

theorem moved (o : Operation σ) (a : Move σ) : o.Moved a (o.move a) := by
  cases a with
  | get key declared =>
    simp only [move]
    split
    · rename_i htriggered
      exact .of_machine (by simp only [cacheMove, if_pos htriggered]; rfl)
    · rename_i htriggered
      exact .of_machine (by simp only [cacheMove, if_neg htriggered]; rfl)
  | turn place =>
    simp only [move, turn]
    split
    · rename_i ht
      exact .of_machine (by simp only [cacheMove, Machine.move, machine, ht])
    · rename_i ht
      exact .of_machine (by simp only [cacheMove, Machine.move, machine, ht])
  | shutDown =>
    simp only [move, shutDown]
    split <;> exact ⟨rfl, rfl, absurd rfl, absurd rfl, fun _ _ _ => ⟨rfl, rfl⟩⟩
  | close =>
    simp only [move, close]
    split
    · rename_i hc
      exact .of_machine (by simp only [cacheMove, hc]; rfl)
    · rename_i hc
      exact ⟨by simp only [cacheMove, hc]; rfl, rfl, fun _ => rfl, fun _ => .inr ⟨by simp [hc], by simp⟩,
        fun _ _ _ => ⟨rfl, rfl⟩⟩
    · rename_i hc
      exact ⟨by simp only [cacheMove, hc]; rfl, rfl, fun _ => rfl, fun _ => .inr ⟨by simp [hc], by simp⟩,
        fun _ _ _ => ⟨rfl, rfl⟩⟩
  | loop hears =>
    have hsteps := o.loopSteps hears
    have hcache : o.cacheMove (.loop hears) =
      if (o.stepLoop hears).calls.length = o.calls.length then o.pause else .reload := rfl
    simp only [move]
    generalize o.stepLoop hears = r at hsteps hcache
    cases hsteps with
    | absent | blocked | goes =>
      rw [if_pos rfl] at hcache
      exact ⟨hcache ▸ rfl, rfl, fun _ => rfl, fun _ => .inl rfl, fun _ h => absurd rfl (h hears)⟩
    | launches =>
      rw [if_neg (by simp)] at hcache
      exact ⟨hcache ▸ rfl, rfl, fun _ => rfl, fun _ => .inl rfl, fun _ h => absurd rfl (h hears)⟩
  | deliver d => exact ⟨rfl, rfl, fun _ => rfl, fun _ => .inl rfl, fun h => absurd rfl (h d)⟩
  | join =>
    simp only [move, join]
    split <;> exact ⟨rfl, rfl, fun _ => rfl, fun _ => .inl rfl, fun _ _ h => absurd rfl h⟩
  | reload | invalidate | clear | world => exact .of_machine rfl

/-- What a move does to the calls: nothing, or one begins, or it is the turn of one. No get begins after the
signal. -/
inductive CallsMoved (o r : Operation σ) : Prop
  | same (h : r.calls = o.calls)
  | begun {t : Task} (h : r.calls = o.calls ++ [t]) (ht : t.Begins)
      (htriggered : ∀ g, t = .getting g → o.service.shutdown.triggered = false)
  | turn {place : Nat} {t u : Task} (ht : o.calls[place]? = some t)
      (hs : t.Steps o.service.setup o.service.state u r.service.state)
      (h : r.calls = o.calls.set place u)

theorem callsMoved (o : Operation σ) (a : Move σ) : o.CallsMoved (o.move a) := by
  cases a with
  | get key declared =>
    simp only [move]
    split
    · exact .same rfl
    · rename_i htriggered
      exact .begun rfl (.get key declared) fun _ _ => by simpa using htriggered
  | reload => exact .begun rfl .reload (by simp)
  | turn place =>
    simp only [move, turn]
    split
    · exact .same rfl
    · rename_i t ht
      exact .turn ht (Task.steps rfl) rfl
  | shutDown =>
    simp only [move, shutDown]
    split <;> exact .same rfl
  | close =>
    simp only [move, close]
    split <;> exact .same rfl
  | loop hears =>
    have hsteps := o.loopSteps hears
    simp only [move]
    generalize o.stepLoop hears = r at hsteps
    cases hsteps with
    | absent | blocked | goes => exact .same rfl
    | launches => exact .begun rfl .reload (by simp)
  | join =>
    simp only [move, join]
    split <;> exact .same rfl
  | invalidate | clear | deliver | world => exact .same rfl

/-- The three moves of a shutdown, one after the other, are the shutdown of a service that is used by one
caller. -/
theorem run_shutDown (o : Operation σ) (hclosing : o.closing = none) :
    o.run [.shutDown, .close, .close] = { o with service := o.service.shutDown } := by
  obtain ⟨service, calls, pass, closing⟩ := o
  obtain rfl : closing = none := hclosing
  simp only [run, List.foldl_cons, List.foldl_nil, move, shutDown, Service.shutDown]
  cases service.shutdown.trigger with
  | mk first shutdown => cases first <;> rfl

end Operation

/-! ### Courses -/

/-- A service and what happens to it. -/
structure Course (σ : Type) where
  service : Service σ
  moves : List (Operation.Move σ)

namespace Course

variable {σ : Type} {c : Course σ} {n m place : Nat} {a : Operation.Move σ}

/-- The operation after the first moves. -/
def after (c : Course σ) (n : Nat) : Operation σ := (Operation.new c.service).run (c.moves.take n)

/-- The service after the first moves. -/
def serviceAt (c : Course σ) (n : Nat) : Service σ := (c.after n).service

/-- The call at a place after the first moves, if it has begun. -/
def call? (c : Course σ) (n place : Nat) : Option Task := (c.after n).calls[place]?

@[simp] theorem after_zero : c.after 0 = .new c.service := rfl

theorem after_succ (ha : c.moves[n]? = some a) : c.after (n + 1) = (c.after n).move a := by
  rw [after, after, List.take_add_one, ha, Operation.run, List.foldl_append]
  rfl

theorem after_succ_of_none (ha : c.moves[n]? = none) : c.after (n + 1) = c.after n := by
  rw [after, List.take_add_one, ha, Option.toList_none, List.append_nil, after]

theorem setup_after (c : Course σ) (n : Nat) : (c.serviceAt n).setup = c.service.setup := by
  induction n with
  | zero => rfl
  | succ n ih =>
    rw [serviceAt]
    cases ha : c.moves[n]? with
    | none => rw [after_succ_of_none ha, ← serviceAt, ih]
    | some a => rw [after_succ ha, (Operation.moved _ a).setup, ← serviceAt, ih]

/-- The history of the cache: its registry may have a subscriber at first, and then it goes through its
moves. -/
def history (c : Course σ) (world : σ) (metrics : Bool) : History σ where
  setup := c.service.setup
  world := world
  metrics := metrics
  moves := .registry c.service.state.registry ::
    c.moves.mapIdx fun n a => (c.after n).cacheMove a

section History

variable {setup : Cache.Setup σ} {world : σ} {metrics : Bool}

/-- **The cache of a service in operation goes through a history.** -/
theorem after_history (hs : c.service.Starts setup world metrics) (n : Nat) :
    (c.history world metrics).after (n + 1) = (c.after n).machine := by
  induction n with
  | zero =>
    obtain ⟨registry, -, hstate⟩ := hs.state
    rw [History.after_succ (a := .registry c.service.state.registry) rfl, History.after_zero, after_zero,
      Operation.machine, Operation.new, hstate]
    rfl
  | succ n ih =>
    have hmoves : (c.history world metrics).moves[n + 1]? =
        (c.moves[n]?).map fun a => (c.after n).cacheMove a := by
      simp [history]
    cases ha : c.moves[n]? with
    | none =>
      rw [ha] at hmoves
      rw [History.after_succ_of_none hmoves, ih, after_succ_of_none ha]
    | some a =>
      rw [ha] at hmoves
      have hsetup : (c.history world metrics).setup = (c.after n).service.setup :=
        (c.setup_after n).symm
      rw [History.after_succ hmoves, ih, after_succ ha, (Operation.moved _ a).machine, hsetup]

theorem state_history (hs : c.service.Starts setup world metrics) (n : Nat) :
    (c.history world metrics).state (n + 1) = (c.serviceAt n).state :=
  congrArg Machine.state (after_history hs n)

theorem task?_history (hs : c.service.Starts setup world metrics) (n place : Nat) :
    (c.history world metrics).task? (n + 1) place = c.call? n place :=
  congrArg (fun m : Machine σ => m.tasks[place]?) (after_history hs n)

end History

/-! ### Before the shutdown -/

/-- Until a moment the service has not been told to shut down. -/
def Open (c : Course σ) (n : Nat) : Prop := ∀ k < n, c.moves[k]? ≠ some .shutDown

theorem Open.mono (ho : c.Open n) (hm : m ≤ n) : c.Open m := fun k hk => ho k (hk.trans_le hm)

theorem Open.triggered_eq (ho : c.Open n) (hs : c.service.shutdown.triggered = false) :
    (c.serviceAt n).shutdown.triggered = false ∧ (c.after n).closing = none := by
  induction n with
  | zero => exact ⟨hs, rfl⟩
  | succ n ih =>
    obtain ⟨htriggered, hclosing⟩ := ih (ho.mono (Nat.le_succ n))
    rw [serviceAt]
    cases ha : c.moves[n]? with
    | none =>
      rw [after_succ_of_none ha]
      exact ⟨htriggered, hclosing⟩
    | some a =>
      have hne : a ≠ .shutDown := by
        rintro rfl
        exact ho n (Nat.lt_succ_self n) ha
      have hmoved := (c.after n).moved a
      rw [after_succ ha, hmoved.shutdown hne]
      refine ⟨htriggered, ?_⟩
      rcases hmoved.closing hne with hsame | ⟨hnot, -⟩
      · exact hsame.trans hclosing
      · exact absurd hclosing hnot

/-- **Nobody clears the registry of a service that is in use.** -/
theorem Open.attended {setup : Cache.Setup σ} {world : σ} {metrics : Bool} (ho : c.Open n)
    (hs : c.service.Starts setup world metrics) (htriggered : c.service.shutdown.triggered = false) :
    (c.history world metrics).Attended (n + 1) := by
  intro k r hk hr
  cases k with
  | zero =>
    obtain ⟨registry, hused, hstate⟩ := hs.state
    cases hr
    rw [hstate]
    exact hused
  | succ k =>
    have hclosing := ((ho.mono (by omega : k ≤ n)).triggered_eq htriggered).2
    simp only [history, List.getElem?_cons_succ, List.getElem?_mapIdx, Option.map_eq_some_iff] at hr
    obtain ⟨a, -, ha⟩ := hr
    cases a with
    | get =>
      simp only [Operation.cacheMove] at ha
      split at ha <;> cases ha
    | close =>
      simp only [Operation.cacheMove, hclosing] at ha
      cases ha
    | loop =>
      simp only [Operation.cacheMove] at ha
      split at ha <;> cases ha
    | reload | turn | invalidate | clear | shutDown | deliver | join | world => cases ha

end Course

/-! ### Starts -/

/-- A service that has started has sent no signal, and has a loop if it is to watch files. -/
theorem Service.loop_of_start {σ : Type} {out : Surroundings σ} {world : σ} {runtime : Bool}
    {settings : Settings} {s : Service σ} (hs : start out world runtime settings = .ok s) :
    s.shutdown.triggered = false ∧ s.loop = if settings.watch.enabled then some .start else none := by
  unfold start at hs
  split at hs
  · cases hs
  · cases hw : settings.watch.enabled with
    | false =>
      rw [hw] at hs
      cases hs
      exact ⟨rfl, rfl⟩
    | true =>
      simp only [hw, Bool.not_true, Bool.false_eq_true, if_false] at hs
      split at hs
      · cases hs
      · unfold watched at hs
        split at hs <;> cases hs
        exact ⟨rfl, rfl⟩

/-! ### A service with a flag -/

section Flag

def flagSettings : Settings := { Settings.default with module := ⟨.dispatch, none⟩ }

/-- A service that watches files, when it has just started. -/
def flagService : Service String where
  settings := flagSettings
  setup := Cache.pairSetup
  state := { Cache.State.new "f=true\n" true with registry := ⟨[], [], some []⟩ }
  shutdown := ⟨false, [.listening]⟩
  loop := some .start

theorem start_flagSettings :
    Service.start Cache.wholeFile "f=true\n" true flagSettings = .ok flagService := by
  have hproblems : flagSettings.problems = [] := by decide +kernel
  simp only [Service.start, hproblems]
  rfl

end Flag

end TypedConfig
