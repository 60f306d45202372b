import TypedConfig.Proofs.Cache.Calls
import TypedConfig.Proofs.Cache.Coverage
import TypedConfig.Session.Run

/-!
Services and sessions as histories. Whatever a session does, its cache goes through the moves of a
history, and what its steps have got are the answers of calls of this history (`exists_history`). So what
holds of every history holds of every session. Only a service that is shut down clears its registry; until
then the registry is in use.
-/

namespace TypedConfig

open Cache (Does History Instance Machine Task)

/-! ### Services -/

namespace Service

variable {σ : Type} {shared : Prop} {s t u : Service σ} {begun begun' : List Task}

/-- A service goes from one state to another by moves of its cache. Calls have begun in the meantime and
stand as given. -/
structure Goes (shared : Prop) (s : Service σ) (begun : List Task) (t : Service σ) : Prop where
  setup : t.setup = s.setup
  does : Does s.setup shared s.state begun t.state

theorem Goes.of_state_eq (hsetup : t.setup = s.setup) (hstate : t.state = s.state) :
    s.Goes shared [] t :=
  ⟨hsetup, by rw [hstate]; exact .refl _ _⟩

theorem Goes.trans (h : s.Goes shared begun t) (h' : t.Goes shared begun' u) :
    s.Goes shared (begun ++ begun') u :=
  ⟨h'.setup.trans h.setup, h.does.trans (h.setup ▸ h'.does)⟩

theorem goes_get (s : Service σ) (key : Cache.Key) (declared : Contract.Declaration) :
    ∃ begun, s.Goes shared begun (s.get key declared).2 := by
  unfold get
  split
  · exact ⟨[], .of_state_eq rfl rfl⟩
  · have h : Does s.setup shared s.state _ _ := Cache.does_get s.setup s.state key declared
    rcases hget : s.state.get s.setup key declared with ⟨e | i, state⟩ <;> rw [hget] at h <;>
      exact ⟨_, rfl, h⟩

theorem goes_shutDown (s : Service σ) (h : shared) : s.Goes shared [] s.shutDown := by
  unfold shutDown
  split
  · exact .of_state_eq rfl rfl
  · exact ⟨rfl, (Cache.does_clear s.setup s.state).trans
      (Cache.does_registry s.setup s.state.clear s.state.registry.clear h)⟩

theorem goes_stepLoop (s : Service σ) : ∃ begun, s.Goes shared begun s.stepLoop := by
  unfold stepLoop
  split
  · exact ⟨[], .of_state_eq rfl rfl⟩
  · dsimp only
    split
    · exact ⟨_, rfl, Cache.does_reloadAll s.setup s.state⟩
    · exact ⟨[], .of_state_eq rfl rfl⟩

theorem goes_stepLoops (n : Nat) (s : Service σ) : ∃ begun, s.Goes shared begun (stepLoops n s) := by
  induction n generalizing s with
  | zero => exact ⟨[], .of_state_eq rfl rfl⟩
  | succ n ih =>
    obtain ⟨begun, h⟩ := s.goes_stepLoop
    obtain ⟨begun', h'⟩ := ih s.stepLoop
    exact ⟨begun ++ begun', h.trans h'⟩

theorem goes_rest (s : Service σ) : ∃ begun, s.Goes shared begun s.rest := by
  unfold rest
  split
  · exact ⟨[], .of_state_eq rfl rfl⟩
  · exact goes_stepLoops _ s

theorem goes_join (s : Service σ) : ∃ begun, s.Goes shared begun s.join := by
  obtain ⟨begun, h⟩ := s.goes_rest
  exact ⟨begun, h.setup, h.does⟩

end Service

/-! ### Sessions -/

namespace Session.State

open Files (Sandbox FileStep)

variable {shared : Prop}

theorem does_act (s : State) (c : Cache.State Sandbox) (a : Action) :
    ∃ begun, Does s.service.setup shared c begun (s.act c a).2 := by
  cases a with
  | get slot =>
    have h : Does s.service.setup shared c _ _ :=
      Cache.does_get s.service.setup c slot (s.declarationOf slot)
    simp only [act]
    rcases hget : c.get s.service.setup slot (s.declarationOf slot) with ⟨e | i, c'⟩ <;>
      rw [hget] at h <;> exact ⟨_, h⟩
  | invalidate slot => exact ⟨[], Cache.does_invalidate _ _ slot⟩
  | clear => exact ⟨[], Cache.does_clear _ _⟩
  | reload => exact ⟨_, Cache.does_reloadAll _ _⟩
  | file step => exact ⟨[], Cache.does_world _ _ _⟩

theorem does_actAll (s : State) (actions : List Action) (c : Cache.State Sandbox) :
    ∃ begun, Does s.service.setup shared c begun (s.actAll actions c).2 := by
  induction actions generalizing c with
  | nil => exact ⟨[], .refl _ _⟩
  | cons a rest ih =>
    obtain ⟨begun, h⟩ := s.does_act c a
    obtain ⟨begun', h'⟩ := ih (s.act c a).2
    exact ⟨begun ++ begun', h.trans h'⟩

/-- A get during which other actions run: if it answers an instance, a call has answered it. -/
theorem goes_getAround (s : State) (slot : Nat) (during : List Action) :
    ∃ begun, s.service.Goes shared begun (s.getAround slot during).2.2.service ∧
      ∀ i, (s.getAround slot during).1 = .ok i → Task.got slot (.ok i) ∈ begun := by
  unfold getAround
  split
  · exact ⟨[], .of_state_eq rfl rfl, by simp⟩
  · obtain ⟨begun, h⟩ := Cache.does_getAround s.service.setup (s.actAll during)
      (s.does_actAll during) Cache.Get.readsNext s.service.state slot (s.declarationOf slot)
    refine ⟨_, ⟨rfl, h⟩, fun i hi => ?_⟩
    dsimp only at hi
    generalize ((Cache.Get.process s.service.setup).runAround Cache.Get.readsNext (s.actAll during)
      (.lookup slot (s.declarationOf slot)) s.service.state).1 = result at hi
    cases result with
    | error e => cases hi
    | ok i' =>
      cases hi
      exact List.mem_cons_self

theorem goes_reloadAround (s : State) (during : List Action) :
    ∃ begun, s.service.Goes shared begun (s.reloadAround during).2.2.service := by
  obtain ⟨begun, h⟩ := Cache.does_reloadAround s.service.setup (s.actAll during)
    (s.does_actAll during) Cache.Reload.readsNext s.service.state
  exact ⟨_, rfl, h⟩

theorem goes_changeFile (s : State) (change : FileStep) :
    ∃ begun, s.service.Goes shared begun (s.changeFile change).service := by
  have hworld : s.service.Goes shared []
      { s.service with state := changeWorld s.service.state change } :=
    ⟨rfl, Cache.does_world _ _ _⟩
  cases hd : s.service.state.world.deliveryOf s.watchedDirectories change with
  | none =>
    simp only [changeFile, hd]
    obtain ⟨begun, h⟩ := Service.goes_rest { s.service with state := changeWorld s.service.state change }
    exact ⟨_, hworld.trans h⟩
  | some d =>
    simp only [changeFile, hd]
    obtain ⟨begun, h⟩ := Service.goes_rest
      (Service.deliver { s.service with state := changeWorld s.service.state change } d)
    have hdeliver : s.service.Goes shared []
        (Service.deliver { s.service with state := changeWorld s.service.state change } d) :=
      ⟨rfl, Cache.does_world _ _ _⟩
    exact ⟨_, hdeliver.trans h⟩

/-- A step goes on by moves of the cache, and what it holds on to a call has answered that has begun with
it. -/
theorem goes_step (s : State) (a : Step) (hshared : a = .shutDown → shared) :
    ∃ begun, s.service.Goes shared begun (s.step a).2.2.service ∧
      ∀ i, heldBy a (s.step a).1 = some i → ∃ key, Task.got key (.ok i) ∈ begun := by
  cases a with
  | get slot declared during =>
    have hdeclare : (s.declare slot declared).service = s.service := by
      cases declared <;> rfl
    obtain ⟨begun, h, hheld⟩ := (s.declare slot declared).goes_getAround slot during
    rw [hdeclare] at h
    refine ⟨begun, ?_⟩
    simp only [step]
    rcases hrun : (s.declare slot declared).getAround slot during with ⟨e | i, answers, s'⟩ <;>
      rw [hrun] at h hheld
    · exact ⟨h, by simp [heldBy]⟩
    · refine ⟨h, ?_⟩
      rintro i' ⟨⟩
      exact ⟨slot, hheld i rfl⟩
  | reload during =>
    obtain ⟨begun, h⟩ := s.goes_reloadAround during
    exact ⟨begun, h, by simp [heldBy]⟩
  | invalidate slot => exact ⟨[], ⟨rfl, Cache.does_invalidate _ _ slot⟩, by simp [heldBy]⟩
  | clear => exact ⟨[], ⟨rfl, Cache.does_clear _ _⟩, by simp [heldBy]⟩
  | shutDown =>
    obtain ⟨begun, h⟩ := s.service.shutDown.goes_rest
    exact ⟨begun, (s.service.goes_shutDown (hshared rfl)).trans h, by simp [heldBy]⟩
  | typed =>
    obtain ⟨begun, h⟩ := s.service.goes_get everythingKey everything
    exact ⟨begun, h, by simp [heldBy]⟩
  | file change =>
    obtain ⟨begun, h⟩ := s.goes_changeFile change
    exact ⟨begun, h, by simp [heldBy]⟩
  | awaitInstance slot =>
    obtain ⟨begun, h⟩ := s.service.goes_get slot (s.declarationOf slot)
    exact ⟨begun, h, by simp [heldBy]⟩
  | join =>
    obtain ⟨begun, h⟩ := s.service.goes_join
    exact ⟨begun, h, by simp [heldBy]⟩
  | held | entry | warnings | settings | read | awaitPass | quiet =>
    exact ⟨[], .of_state_eq rfl rfl, by simp [heldBy]⟩

theorem held_step (s : State) (a : Step) : (s.step a).2.2.held = s.held := by
  cases a with
  | get slot declared during =>
    have hdeclare : (s.declare slot declared).held = s.held := by
      cases declared <;> rfl
    have haround : ((s.declare slot declared).getAround slot during).2.2.held = s.held := by
      unfold getAround
      split <;> exact hdeclare
    simp only [step]
    rcases hrun : (s.declare slot declared).getAround slot during with ⟨e | i, answers, s'⟩ <;>
      rw [hrun] at haround <;> exact haround
  | held | reload | invalidate | entry | clear | warnings | settings | shutDown | typed | read | file
  | awaitInstance | awaitPass | quiet | join => rfl

/-- A run of steps goes on by moves of the cache, and what is held when it ends was held before or is the
answer of a call that has begun in it. -/
theorem goes_run (s : State) (steps : List Step) (hshared : .shutDown ∈ steps → shared) :
    ∃ begun, s.service.Goes shared begun (s.run steps).2.service ∧
      ∀ i, some i ∈ (s.run steps).2.held → some i ∈ s.held ∨ ∃ key, Task.got key (.ok i) ∈ begun := by
  induction steps generalizing s with
  | nil => exact ⟨[], .of_state_eq rfl rfl, fun i hi => .inl hi⟩
  | cons a rest ih =>
    obtain ⟨begun, h, hheld⟩ := s.goes_step a fun ha => hshared (ha ▸ List.mem_cons_self)
    obtain ⟨begun', h', hheld'⟩ :=
      ih { (s.step a).2.2 with held := (s.step a).2.2.held ++ [heldBy a (s.step a).1] }
        fun hrest => hshared (List.mem_cons_of_mem a hrest)
    refine ⟨begun ++ begun', h.trans h', fun i hi => ?_⟩
    rcases hheld' i hi with hi | ⟨key, hkey⟩
    · rcases List.mem_append.1 hi with hi | hi
      · rw [held_step] at hi
        exact .inl hi
      · obtain ⟨key, hkey⟩ := hheld i (List.mem_singleton.1 hi).symm
        exact .inr ⟨key, List.mem_append_left _ hkey⟩
    · exact .inr ⟨key, List.mem_append_right _ hkey⟩

end Session.State

/-! ### Starts -/

/-- A service that starts has an empty cache, and to its registry a subscriber may have been attached. -/
structure Service.Starts {σ : Type} (s : Service σ) (setup : Cache.Setup σ) (world : σ)
    (metrics : Bool) : Prop where
  setup : s.setup = setup
  state : ∃ registry, Watch.Registry.empty.Used registry ∧
    s.state = { Cache.State.new world metrics with registry }

theorem Service.starts_unchecked {σ : Type} (out : Surroundings σ) (world : σ) (settings : Settings) :
    (unchecked out world settings).Starts (settings.setup out) world settings.observability.metrics :=
  -- there is no subscriber to let go of
  ⟨rfl, _, .detached, rfl⟩

theorem Service.starts_of_start {σ : Type} {out : Surroundings σ} {world : σ} {runtime : Bool}
    {settings : Settings} {s : Service σ} (hs : start out world runtime settings = .ok s) :
    s.Starts (settings.setup out) world settings.observability.metrics := by
  unfold start at hs
  split at hs
  · cases hs
  · split at hs
    · cases hs
      exact starts_unchecked out world settings
    · split at hs
      · cases hs
      · unfold watched at hs
        split at hs
        · cases hs
        · rename_i registry hattach
          cases hs
          have hregistry : (Watch.Registry.empty.attach (out.subscribe world)).2 = registry :=
            congrArg Prod.snd hattach
          exact ⟨rfl, registry, hregistry ▸ .attached _, rfl⟩

theorem Session.Host.starts_of_start {host : Session.Host} {settings : Settings}
    {world : Files.Sandbox} {service : Service Files.Sandbox}
    (hs : host.start settings world = .ok service) :
    service.Starts (settings.setup Files.Sandbox.surroundings) world
      settings.observability.metrics := by
  cases host with
  | cache =>
    cases hs
    exact Service.starts_unchecked _ world settings
  | service | watched => exact Service.starts_of_start hs

/-- **Every session is a history.** A service that is started and driven through any steps has a cache that
has gone through the moves of a history, from an empty cache in the world at the start, and each instance
that a step has got is what a call of this history has answered. As long as the service has not been shut
down, its registry is in use. -/
theorem Session.exists_history {host : Session.Host} {settings : Settings} {world : Files.Sandbox}
    {service : Service Files.Sandbox} (hs : host.start settings world = .ok service)
    (steps : List Session.Step) :
    ∃ h : History Files.Sandbox, h.setup = settings.setup Files.Sandbox.surroundings ∧
      h.world = world ∧
      h.state h.moves.length = ((Session.State.new service).run steps).2.service.state ∧
      (∀ i, some i ∈ ((Session.State.new service).run steps).2.held →
        ∃ place key, h.task? h.moves.length place = some (.got key (.ok i))) ∧
      (.shutDown ∉ steps → h.Attended h.moves.length) := by
  obtain ⟨hsetup, registry, hused, hstate⟩ := Session.Host.starts_of_start hs
  obtain ⟨begun, hrun, hheld⟩ := (Session.State.new service).goes_run steps id
  obtain ⟨moves, hmoves, hshared⟩ := hrun.does []
  change Machine.run service.setup ⟨service.state, []⟩ moves = _ at hmoves
  have hafter : Machine.run (settings.setup Files.Sandbox.surroundings)
      (.new world settings.observability.metrics)
      ((.registry registry :: moves).take (Cache.Move.registry registry :: moves).length) =
        ⟨((Session.State.new service).run steps).2.service.state, begun⟩ := by
    rw [List.take_length, ← hsetup]
    rw [hstate] at hmoves
    exact hmoves
  refine ⟨⟨_, world, settings.observability.metrics, .registry registry :: moves⟩, rfl, rfl,
    congrArg Machine.state hafter, fun i hi => ?_, fun hnone k r _ hr => ?_⟩
  · rcases hheld i hi with hi | ⟨key, hkey⟩
    · cases hi
    · obtain ⟨place, hplace⟩ := List.mem_iff_getElem?.1 hkey
      exact ⟨place, key,
        (congrArg (fun m : Machine Files.Sandbox => m.tasks[place]?) hafter).trans hplace⟩
  · cases k with
    | zero =>
      cases hr
      exact hused
    | succ k => exact absurd (hshared r (List.mem_of_getElem? hr)) hnone

end TypedConfig
