import TypedConfig.Proofs.Service.Courses

/-!
After the shutdown. Once the signal has been sent no get begins, and a pass puts something in place only
where an entry stands. So a cache that has been cleared stays empty, whatever passes are still under way,
and all that a service answers is that it has been shut down (`shutdown_absorbing`). A pass that begins
after the signal, before the cache is cleared, still finds the entries, and it registers their files when
the registry has been cleared (`watches_after_shutdown`).
-/

namespace TypedConfig

open Cache (Task State)

/-! ### Calls on a cleared cache -/

namespace Cache

/-- The stages of a pass that finds nothing to look at. -/
inductive Task.Blank : Task → Prop
  | start : Blank (.reloading .start)
  | checking : Blank (.reloading (.checking .zero [] .fresh))
  | reloaded : Blank (.reloaded .zero)

/-- A call that is finished, or that is a pass that finds nothing to look at. -/
def Task.Quiet (t : Task) : Prop := t.Finished ∨ t.Blank

section Steps

variable {σ : Type} {setup : Setup σ} {s r : State σ} {t u : Task}

theorem Task.Steps.not_getting (hs : t.Steps setup s u r) (ht : ∀ g, t ≠ .getting g) (g : Get) :
    u ≠ .getting g := by
  rintro rfl
  cases hs with
  | getting => exact ht _ rfl

/-- Only a get puts something in place where nothing stands. -/
theorem Task.Steps.entries_eq_nil (hs : t.Steps setup s u r) (ht : ∀ g, t ≠ .getting g)
    (hempty : s.entries = []) : r.entries = [] := by
  rcases Job.entries_of_steps hs with heq | ⟨j, b, i, rfl, hadmits, -⟩
  · rw [heq, hempty]
  · cases j with
    | get key d => exact absurd rfl (ht _)
    | check report key current rest =>
      obtain ⟨e, he, -⟩ := hadmits
      rw [hempty] at he
      cases he

theorem Reload.snapshot_of_empty (hempty : s.entries = []) : Reload.snapshot s = [] := by
  rw [Reload.snapshot, hempty]
  rfl

theorem Task.Steps.blank (hs : t.Steps setup s u r) (ht : t.Blank) (hempty : s.entries = []) :
    u.Blank ∧ r.registry = s.registry := by
  cases ht with
  | start =>
    cases hs with
    | reloading hs =>
      cases hs with
      | begun =>
        rw [Reload.snapshot_of_empty hempty]
        exact ⟨.checking, rfl⟩
    | reloaded hs => cases hs
  | checking =>
    cases hs with
    | reloading hs => cases hs
    | reloaded hs =>
      cases hs
      exact ⟨.reloaded, rfl⟩
  | reloaded =>
    cases hs with
    | reloadedStays => exact ⟨.reloaded, rfl⟩

/-- A call that is finished, or a pass that finds nothing to look at, registers nothing. -/
theorem Task.Steps.quiet (hs : t.Steps setup s u r) (ht : t.Quiet) (hempty : s.entries = []) :
    u.Quiet ∧ r.registry = s.registry := by
  rcases ht with hf | hb
  · cases hf with
    | got key result =>
      cases hs
      exact ⟨.inl (.got key result), rfl⟩
    | reloaded report =>
      cases hs
      exact ⟨.inl (.reloaded report), rfl⟩
  · exact (hs.blank hb hempty).imp .inr id

theorem State.entry?_of_empty (key : Key) (hempty : s.entries = []) : s.entry? key = none := by
  rw [State.entry?, hempty]
  rfl

theorem State.entries_invalidate_of_empty (key : Key) (hempty : s.entries = []) :
    (s.invalidate key).2.entries = [] := by
  unfold State.invalidate
  split
  · exact hempty
  · simp [State.recordSize, hempty]

/-- A pass over an empty cache counts itself, and has nothing to report. -/
theorem State.reloadAll_of_empty (setup : Setup σ) (hempty : s.entries = []) :
    s.reloadAll setup = (.zero, { s with passes := s.passes + 1 }.count .reloadPasses) := by
  rw [State.reloadAll_eq, State.outcomes, Reload.snapshot_of_empty hempty]
  rfl

theorem State.entries_reloadAll_of_empty (setup : Setup σ) (hempty : s.entries = []) :
    (s.reloadAll setup).2.entries = [] := by
  rw [State.reloadAll_of_empty setup hempty]
  exact hempty

/-- Such a pass reads nothing, so nothing is done while it reads. -/
theorem Reload.runAround_of_empty {α : Type} (setup : Setup σ) (between : State σ → α × State σ)
    (hempty : s.entries = []) :
    (Reload.process setup).runAround Reload.readsNext between .start s =
      ((s.reloadAll setup).1, none, (s.reloadAll setup).2) := by
  have hto : (Reload.process setup).runTo Reload.readsNext .start s =
      (.inr .zero, { s with passes := s.passes + 1 }.count .reloadPasses) := by
    rw [Process.runTo_of_inl (p := Reload.process setup) (t := .start) (s := s) rfl rfl,
      Reload.snapshot_of_empty hempty]
    exact Process.runTo_of_inr (p := Reload.process setup) rfl rfl
  rw [Process.runAround, hto, State.reloadAll_of_empty setup hempty]

end Steps

end Cache

/-! ### Services that are shut down -/

namespace Service

variable {σ : Type} {s : Service σ}

theorem get_of_triggered (h : s.shutdown.triggered = true) (key : Cache.Key)
    (declared : Contract.Declaration) : s.get key declared = (.error .shutDown, s) := by
  rw [get, if_pos h]

theorem shutDown_of_triggered (h : s.shutdown.triggered = true) : s.shutDown = s := by
  simp only [shutDown, Shutdown.trigger, if_pos h]

section Empty

variable (hempty : s.state.entries = [])

include hempty

theorem invalidate_of_empty (key : Cache.Key) : s.invalidate key = (false, s) := by
  simp only [invalidate, State.invalidate, State.entry?_of_empty key hempty]

theorem warnings_of_empty (key : Cache.Key) : s.warnings key = [] := by
  simp only [warnings, State.entry?_of_empty key hempty]

theorem reloadAll_of_empty : s.reloadAll.1 = .zero :=
  congrArg Prod.fst (State.reloadAll_of_empty s.setup hempty)

end Empty

end Service

/-! ### Operations after the signal -/

namespace Operation

variable {σ : Type} {o : Operation σ}

/-- The signal has been sent, no get is under way, and the cache is empty or is to be cleared. -/
structure Down (o : Operation σ) : Prop where
  triggered : o.service.shutdown.triggered = true
  calls : ∀ g, Task.getting g ∉ o.calls
  entries : o.closing = some .cache ∨ o.service.state.entries = []

theorem Down.shutDown_eq (h : o.Down) : o.shutDown = o := by
  simp only [shutDown, Shutdown.trigger, if_pos h.triggered]

theorem Down.triggered_move (h : o.Down) (a : Move σ) :
    (o.move a).service.shutdown.triggered = true := by
  by_cases ha : a = .shutDown
  · rw [ha, move, h.shutDown_eq]
    exact h.triggered
  · rw [(o.moved a).shutdown ha]
    exact h.triggered

theorem Down.calls_move (h : o.Down) (a : Move σ) (g : Cache.Get) :
    Task.getting g ∉ (o.move a).calls := by
  cases o.callsMoved a with
  | same heq =>
    rw [heq]
    exact h.calls g
  | begun heq ht htriggered =>
    rw [heq, List.mem_append, List.mem_singleton]
    rintro (hg | hg)
    · exact h.calls g hg
    · have hnot := htriggered g hg.symm
      rw [h.triggered] at hnot
      cases hnot
  | turn ht hs heq =>
    rw [heq]
    intro hg
    rcases List.mem_or_eq_of_mem_set hg with hg | hg
    · exact h.calls g hg
    · refine hs.not_getting (fun g' hg' => ?_) g hg.symm
      exact h.calls g' (hg' ▸ List.mem_of_getElem? ht)

theorem Down.entries_move (h : o.Down) (a : Move σ) :
    (o.move a).closing = some .cache ∨ (o.move a).service.state.entries = [] := by
  cases a with
  | get key declared =>
    rw [move, if_pos h.triggered]
    exact h.entries
  | turn place =>
    simp only [move, turn]
    split
    · exact h.entries
    · rename_i t ht
      have hget : ∀ g, t ≠ .getting g := fun g hg => h.calls g (hg ▸ List.mem_of_getElem? ht)
      exact h.entries.imp id (Task.Steps.entries_eq_nil (Task.steps rfl) hget)
  | invalidate key => exact h.entries.imp id (State.entries_invalidate_of_empty key)
  | clear => exact .inr rfl
  | shutDown =>
    rw [move, h.shutDown_eq]
    exact h.entries
  | close =>
    simp only [move, close]
    split
    · exact h.entries
    · exact .inr rfl
    · rename_i hclosing
      exact .inr (h.entries.resolve_left (by simp [hclosing]))
  | loop hears =>
    have hsteps := o.loopSteps hears
    simp only [move]
    generalize o.stepLoop hears = r at hsteps
    cases hsteps <;> exact h.entries
  | join =>
    simp only [move, join]
    split <;> exact h.entries
  | reload | deliver | world => exact h.entries

/-- **What has gone down stays down.** -/
theorem Down.move (h : o.Down) (a : Move σ) : (o.move a).Down :=
  ⟨h.triggered_move a, h.calls_move a, h.entries_move a⟩

/-- What the steps of a call keep as long as the cache is empty, and what holds of a pass that begins. -/
structure Kept (P : Task → Prop) : Prop where
  start : P (.reloading .start)
  steps : ∀ {setup : Cache.Setup σ} {s r : State σ} {t u : Task}, t.Steps setup s u r → P t →
    s.entries = [] → P u

theorem kept_blank : Kept (σ := σ) Task.Blank := ⟨.start, fun hs ht hempty => (hs.blank ht hempty).1⟩

theorem kept_quiet : Kept (σ := σ) Task.Quiet :=
  ⟨.inr .start, fun hs ht hempty => (hs.quiet ht hempty).1⟩

/-- The cache has been cleared after the signal, and something holds of the calls from a place on. -/
structure Shut (o : Operation σ) (P : Task → Prop) (first : Nat) : Prop where
  down : o.Down
  closing : o.closing ≠ some .cache
  calls : ∀ place t, first ≤ place → o.calls[place]? = some t → P t

variable {P : Task → Prop} {first : Nat}

theorem Shut.entries_eq (h : o.Shut P first) : o.service.state.entries = [] :=
  h.down.entries.resolve_left h.closing

theorem Shut.closing_move (h : o.Shut P first) (a : Move σ) : (o.move a).closing ≠ some .cache := by
  by_cases ha : a = .shutDown
  · rw [ha, move, h.down.shutDown_eq]
    exact h.closing
  · rcases (o.moved a).closing ha with hsame | ⟨-, hnot⟩
    · rw [hsame]
      exact h.closing
    · exact hnot

theorem Shut.calls_move (h : o.Shut P first) (hP : Kept (σ := σ) P) (a : Move σ) (place : Nat)
    (t : Task) (hplace : first ≤ place) (hcall : (o.move a).calls[place]? = some t) : P t := by
  cases o.callsMoved a with
  | same heq => exact h.calls place t hplace (heq ▸ hcall)
  | begun heq ht htriggered =>
    rw [heq, List.getElem?_append] at hcall
    split at hcall
    · exact h.calls place t hplace hcall
    · obtain rfl := List.mem_singleton.1 (List.mem_of_getElem? hcall)
      cases ht with
      | get key declared =>
        have hnot := htriggered _ rfl
        rw [h.down.triggered] at hnot
        cases hnot
      | reload => exact hP.start
  | @turn place' t' u ht hs heq =>
    rw [heq] at hcall
    by_cases hne : place' = place
    · subst hne
      have hu : u = t := by
        rw [List.getElem?_set_self (List.getElem?_eq_some_iff.1 ht).1] at hcall
        exact Option.some.inj hcall
      exact hu ▸ hP.steps hs (h.calls place' t' hplace ht) h.entries_eq
    · rw [List.getElem?_set_ne hne] at hcall
      exact h.calls place t hplace hcall

theorem Shut.move (h : o.Shut P first) (hP : Kept (σ := σ) P) (a : Move σ) :
    (o.move a).Shut P first :=
  ⟨h.down.move a, h.closing_move a, h.calls_move hP a⟩

/-- Calls that are quiet leave a registry empty that has been cleared. -/
theorem Shut.registry_move (h : o.Shut Task.Quiet 0) (hempty : o.service.state.registry = .empty)
    (a : Move σ) : (o.move a).service.state.registry = .empty := by
  cases a with
  | get key declared =>
    rw [Operation.move, if_pos h.down.triggered]
    exact hempty
  | turn place =>
    simp only [Operation.move, turn]
    split
    · exact hempty
    · rename_i t ht
      exact ((Task.steps rfl).quiet (h.calls place t (Nat.zero_le place) ht) h.entries_eq).2.trans hempty
  | invalidate key =>
    simp only [Operation.move, Service.invalidate, State.invalidate]
    split <;> exact hempty
  | shutDown =>
    rw [Operation.move, h.down.shutDown_eq]
    exact hempty
  | close =>
    simp only [Operation.move, close]
    split
    · exact hempty
    · rename_i hclosing
      exact absurd hclosing h.closing
    · rfl
  | loop hears =>
    have hsteps := o.loopSteps hears
    simp only [Operation.move]
    generalize o.stepLoop hears = r at hsteps
    cases hsteps <;> exact hempty
  | join =>
    simp only [Operation.move, join]
    split <;> exact hempty
  | reload | clear | deliver | world => exact hempty

end Operation

/-! ### Courses after the shutdown -/

namespace Course

variable {σ : Type} {c : Course σ} {k m r n : Nat}

/-- The service is shut down for the first time: with one move the signal is sent, with a later one the cache
is cleared, and with the last one the registry is cleared and the shutdown returns. -/
structure ShutsDown (c : Course σ) (k m r : Nat) : Prop where
  call : c.moves[k]? = some .shutDown
  first : (c.serviceAt k).shutdown.triggered = false
  call_lt : k < m
  clears : c.moves[m]? = some .close ∧ (c.after m).closing = some .cache
  clears_lt : m < r
  returns : c.moves[r]? = some .close ∧ (c.after r).closing = some .registry

theorem lasts {I : Operation σ → Prop} (hmove : ∀ o a, I o → I (o.move a)) (hm : I (c.after m))
    (hmn : m ≤ n) : I (c.after n) := by
  induction n, hmn using Nat.le_induction with
  | base => exact hm
  | succ n _ ih =>
    cases ha : c.moves[n]? with
    | none =>
      rw [after_succ_of_none ha]
      exact ih
    | some a =>
      rw [after_succ ha]
      exact hmove _ a ih

/-- From the signal on the service goes down, if no get is under way. -/
theorem ShutsDown.down (hd : c.ShutsDown k m r) (hget : ∀ g, Task.getting g ∉ (c.after k).calls)
    (hn : k < n) : (c.after n).Down := by
  refine lasts (I := Operation.Down) (fun _ a h => h.move a) ?_ hn
  rw [after_succ hd.call]
  simp only [Operation.move, Operation.shutDown, Shutdown.trigger]
  rw [← serviceAt, hd.first]
  exact ⟨rfl, hget, .inl rfl⟩

theorem ShutsDown.after_clears (hd : c.ShutsDown k m r) :
    (c.after (m + 1)).calls = (c.after m).calls ∧ (c.after (m + 1)).closing ≠ some .cache := by
  rw [after_succ hd.clears.1]
  simp only [Operation.move, Operation.close, hd.clears.2]
  exact ⟨rfl, by simp⟩

/-- Once the cache has been cleared, the calls that begin find nothing. -/
theorem ShutsDown.shut (hd : c.ShutsDown k m r) (hget : ∀ g, Task.getting g ∉ (c.after k).calls)
    (hn : m < n) : (c.after n).Shut Task.Blank (c.after m).calls.length := by
  refine lasts (I := fun o => o.Shut Task.Blank (c.after m).calls.length)
    (fun _ a h => h.move Operation.kept_blank a) ?_ hn
  refine ⟨hd.down hget (Nat.lt_succ_of_lt hd.call_lt), hd.after_clears.2, fun place t hplace ht => ?_⟩
  rw [hd.after_clears.1, List.getElem?_eq_none hplace] at ht
  cases ht

/-- If no pass is under way either when the cache is cleared, all calls are quiet from then on. -/
theorem ShutsDown.quiet (hd : c.ShutsDown k m r) (hget : ∀ g, Task.getting g ∉ (c.after k).calls)
    (hpass : ∀ t, Task.reloading t ∉ (c.after m).calls) (hn : m < n) :
    (c.after n).Shut Task.Quiet 0 := by
  refine lasts (I := fun o => o.Shut Task.Quiet 0) (fun _ a h => h.move Operation.kept_quiet a) ?_ hn
  refine ⟨hd.down hget (Nat.lt_succ_of_lt hd.call_lt), hd.after_clears.2, fun place t _ ht => .inl ?_⟩
  rw [hd.after_clears.1] at ht
  have hmem := List.mem_of_getElem? ht
  cases t with
  | getting g => exact absurd hmem ((hd.down hget hd.call_lt).calls g)
  | reloading t => exact absurd hmem (hpass t)
  | got key result => exact .got key result
  | reloaded report => exact .reloaded report

/-- The registry stays empty if no pass was under way when the cache was cleared. -/
theorem ShutsDown.registry_eq (hd : c.ShutsDown k m r) (hget : ∀ g, Task.getting g ∉ (c.after k).calls)
    (hpass : ∀ t, Task.reloading t ∉ (c.after m).calls) (hn : r < n) :
    (c.serviceAt n).state.registry = .empty := by
  have hboth : (c.after n).Shut Task.Quiet 0 ∧ (c.after n).service.state.registry = .empty := by
    refine lasts (I := fun o => o.Shut Task.Quiet 0 ∧ o.service.state.registry = .empty)
      (fun _ a h => ⟨h.1.move Operation.kept_quiet a, h.1.registry_move h.2 a⟩)
      ⟨hd.quiet hget hpass (Nat.lt_succ_of_lt hd.clears_lt), ?_⟩ hn
    rw [after_succ hd.returns.1]
    simp only [Operation.move, Operation.close, hd.returns.2]
    rfl
  exact hboth.2

/-- **Shutdown is absorbing.** A service is shut down while no get is under way; passes may be. From the
signal on every get answers that the service has been shut down and leaves the service as it is, whatever
its declaration, and no call begins with it; and shutting down again changes nothing. Whatever happens after
the shutdown has cleared the cache, the cache stays empty: dropping an entry finds none, there are no
warnings, and a pass that begins now has nothing to report, alone or among other calls. If no pass is under
way when the cache is cleared, neither one that had begun before the service was shut down nor one that has
begun since, then nothing is registered and no path is watched ever again after the shutdown has
returned. -/
theorem shutdown_absorbing (c : Course σ) {k m r n : Nat} (hd : c.ShutsDown k m r)
    (hget : ∀ g, Task.getting g ∉ (c.after k).calls) (hn : k < n) :
    (∀ key declared, (c.serviceAt n).get key declared = (.error .shutDown, c.serviceAt n) ∧
      (c.after n).move (.get key declared) = c.after n) ∧
    ((c.serviceAt n).shutDown = c.serviceAt n ∧ (c.after n).move .shutDown = c.after n) ∧
    (m < n → (c.serviceAt n).state.size = 0 ∧
      (∀ key, (c.serviceAt n).invalidate key = (false, c.serviceAt n)) ∧
      (∀ key, (c.serviceAt n).warnings key = []) ∧
      (c.serviceAt n).reloadAll.1 = .zero ∧
      ∀ place report, (c.after m).calls.length ≤ place →
        c.call? n place = some (.reloaded report) → report = .zero) ∧
    (r < n → (∀ t, Task.reloading t ∉ (c.after m).calls) →
      (c.serviceAt n).state.registry = .empty ∧
        ∀ path, (c.serviceAt n).state.registry.watches path = false) := by
  have hdown := hd.down hget hn
  refine ⟨fun key declared => ⟨Service.get_of_triggered hdown.triggered key declared,
      if_pos hdown.triggered⟩,
    ⟨Service.shutDown_of_triggered hdown.triggered, hdown.shutDown_eq⟩, fun hmn => ?_,
    fun hrn hpass => ?_⟩
  · have hshut := hd.shut hget hmn
    have hempty : (c.serviceAt n).state.entries = [] := hshut.entries_eq
    refine ⟨by rw [State.size, hempty]; rfl, Service.invalidate_of_empty hempty,
      Service.warnings_of_empty hempty, Service.reloadAll_of_empty hempty,
      fun place report hplace hcall => ?_⟩
    cases hshut.calls place _ hplace hcall
    rfl
  · have hregistry := hd.registry_eq hget hpass hrn
    refine ⟨hregistry, fun path => ?_⟩
    rw [hregistry]
    exact Watch.Registry.watches_empty path

end Course

/-! ### Three shutdowns -/

section Flag

open Cache (flagDeclaration flagEntry flagInstance)

/-- The flag has been got. The service is shut down, and before the cache is cleared a pass begins, takes
its snapshot and waits. It goes on when the shutdown has returned. -/
def lateShutdown : Course String where
  service := flagService
  moves := [.get 0 flagDeclaration, .turn 0, .turn 0, .turn 0, .turn 0, .turn 0, .turn 0, .shutDown,
    .reload, .turn 1, .close, .close, .turn 1, .turn 1, .turn 1, .turn 1]

/-- No call is under way when the service is shut down. The pass that begins then finds an entry, and the
file is watched again after the registry has been cleared. -/
theorem watches_after_shutdown :
    lateShutdown.ShutsDown 7 10 11 ∧
    (lateShutdown.after 7).calls = [.got 0 (.ok (flagInstance 1 true))] ∧
    (lateShutdown.serviceAt 8).state.size = 1 ∧
    (lateShutdown.serviceAt 12).state.registry.watches ⟨"/flags.properties"⟩ = false ∧
    lateShutdown.call? 16 1 = some (.reloaded ⟨1, 0, 0, 0⟩) ∧
    (lateShutdown.serviceAt 16).state.registry.watches ⟨"/flags.properties"⟩ = true := by
  refine ⟨⟨rfl, rfl, by decide, ⟨rfl, rfl⟩, by decide, rfl, rfl⟩, ?_⟩
  decide +kernel

/-- A pass has taken its snapshot when the service is shut down, and goes on to its end. A get and another
pass come later. -/
def overtakenShutdown : Course String where
  service := flagService
  moves := [.get 0 flagDeclaration, .turn 0, .turn 0, .turn 0, .turn 0, .turn 0, .turn 0,
    .world "f=false\n", .reload, .turn 1, .shutDown, .close, .close, .turn 1, .turn 1, .turn 1, .turn 1,
    .turn 1, .turn 1, .get 0 flagDeclaration, .reload, .turn 2, .turn 2]

/-- The same service is shut down before the pass. -/
def quietShutdown : Course String where
  service := flagService
  moves := [.get 0 flagDeclaration, .turn 0, .turn 0, .turn 0, .turn 0, .turn 0, .turn 0, .shutDown, .close,
    .close, .reload, .turn 1, .turn 1]

theorem calls_overtakenShutdown : (overtakenShutdown.after 10).calls =
    [.got 0 (.ok (flagInstance 1 true)),
      .reloading (.checking .zero [(0, flagEntry 1 "true" true)] .fresh)] := by
  decide +kernel

theorem calls_quietShutdown :
    (quietShutdown.after 7).calls = [.got 0 (.ok (flagInstance 1 true))] ∧
      (quietShutdown.after 8).calls = [.got 0 (.ok (flagInstance 1 true))] := by
  decide +kernel

theorem shutsDown_overtakenShutdown : overtakenShutdown.ShutsDown 10 11 12 :=
  ⟨rfl, rfl, by decide, ⟨rfl, rfl⟩, by decide, rfl, rfl⟩

theorem shutsDown_quietShutdown : quietShutdown.ShutsDown 7 8 9 :=
  ⟨rfl, rfl, by decide, ⟨rfl, rfl⟩, by decide, rfl, rfl⟩

theorem shutdown_absorbing_flag :
    (overtakenShutdown.ShutsDown 10 11 12 ∧ (overtakenShutdown.serviceAt 10).state.size = 1 ∧
      overtakenShutdown.call? 19 1 = some (.reloaded ⟨0, 0, 1, 0⟩) ∧
      (overtakenShutdown.serviceAt 23).state.size = 0 ∧
      ((overtakenShutdown.serviceAt 23).get 0 flagDeclaration).1 = .error .shutDown ∧
      overtakenShutdown.call? 23 2 = some (.reloaded .zero) ∧
      (overtakenShutdown.serviceAt 23).state.registry.watches ⟨"/flags.properties"⟩ = true) ∧
    quietShutdown.ShutsDown 7 8 9 ∧
      (quietShutdown.serviceAt 7).state.registry.watches ⟨"/flags.properties"⟩ = true ∧
      (quietShutdown.serviceAt 13).state.registry.watches ⟨"/flags.properties"⟩ = false := by
  obtain ⟨hget, -, hcleared, -⟩ := Course.shutdown_absorbing overtakenShutdown
    shutsDown_overtakenShutdown (by simp [calls_overtakenShutdown]) (by decide : 10 < 23)
  obtain ⟨hsize, -⟩ := hcleared (by decide)
  obtain ⟨-, -, -, hregistry⟩ := Course.shutdown_absorbing quietShutdown
    shutsDown_quietShutdown (by simp [calls_quietShutdown]) (by decide : 7 < 13)
  have hpass : overtakenShutdown.call? 19 1 = some (.reloaded ⟨0, 0, 1, 0⟩) ∧
      overtakenShutdown.call? 23 2 = some (.reloaded .zero) := by decide +kernel
  have hwatched : (overtakenShutdown.serviceAt 23).state.registry.watches ⟨"/flags.properties"⟩ = true ∧
      (quietShutdown.serviceAt 7).state.registry.watches ⟨"/flags.properties"⟩ = true := by
    decide +kernel
  refine ⟨⟨shutsDown_overtakenShutdown, by decide +kernel, hpass.1, hsize, ?_, hpass.2, hwatched.1⟩,
    shutsDown_quietShutdown, hwatched.2, (hregistry (by decide) (by simp [calls_quietShutdown])).2 _⟩
  rw [(hget 0 flagDeclaration).1]

end Flag

end TypedConfig
