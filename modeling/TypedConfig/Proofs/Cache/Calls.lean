import TypedConfig.Proofs.Cache.Alone
import TypedConfig.Proofs.Cache.History

/-!
Calls that run to their end as moves of the machine. A call that runs alone is one that begins and then
has all the turns until it is finished; a call in the middle of which other things are done lets them have
their moves in between (`does_get`, `does_reloadAll`, `Plays.exists_runAround`).
-/

namespace TypedConfig.Cache

open Contract (Declaration)

section Reaches

variable {σ : Type} {setup : Setup σ} {shared : Prop} {m m' m'' : Machine σ}

namespace Machine

theorem run_append (m : Machine σ) (moves moves' : List (Move σ)) :
    m.run setup (moves ++ moves') = (m.run setup moves).run setup moves' := List.foldl_append

/-- Moves take the machine from one state to another. Among them others change the registry only if they
share it; else it is left to the calls. -/
def Reaches (setup : Setup σ) (shared : Prop) (m m' : Machine σ) : Prop :=
  ∃ moves, m.run setup moves = m' ∧ ∀ r, .registry r ∈ moves → shared

theorem Reaches.refl (m : Machine σ) : m.Reaches setup shared m := ⟨[], rfl, by simp⟩

theorem Reaches.trans (h : m.Reaches setup shared m') (h' : m'.Reaches setup shared m'') :
    m.Reaches setup shared m'' := by
  obtain ⟨moves, hmoves, hshared⟩ := h
  obtain ⟨moves', hmoves', hshared'⟩ := h'
  exact ⟨moves ++ moves', by rw [run_append, hmoves, hmoves'],
    fun r hr => (List.mem_append.1 hr).elim (hshared r) (hshared' r)⟩

theorem reaches_move (m : Machine σ) (a : Move σ) (h : ∀ r, a = .registry r → shared) :
    m.Reaches setup shared (m.move setup a) :=
  ⟨[a], rfl, fun r hr => h r (List.mem_singleton.1 hr).symm⟩

theorem reaches_turn (setup : Setup σ) (shared : Prop) (s : State σ) (tasks later : List Task)
    (t : Task) : Reaches setup shared ⟨s, tasks ++ t :: later⟩
      ⟨(t.step setup s).2, tasks ++ (t.step setup s).1 :: later⟩ := by
  have hmove : move setup ⟨s, tasks ++ t :: later⟩ (.turn tasks.length) =
      ⟨(t.step setup s).2, tasks ++ (t.step setup s).1 :: later⟩ := by
    simp [move]
  rw [← hmove]
  exact reaches_move _ (.turn tasks.length) (by simp)

end Machine

end Reaches

section Does

variable {σ : Type} {setup : Setup σ} {shared : Prop} {s r q : State σ} {begun begun' : List Task}

/-- Whatever calls there are, moves take the cache from one state to another. Calls have begun in the
meantime and stand as given. -/
def Does (setup : Setup σ) (shared : Prop) (s : State σ) (begun : List Task) (r : State σ) : Prop :=
  ∀ tasks, Machine.Reaches setup shared ⟨s, tasks⟩ ⟨r, tasks ++ begun⟩

theorem Does.refl (setup : Setup σ) (s : State σ) : Does setup shared s [] s := fun tasks => by
  rw [List.append_nil]
  exact .refl _

theorem Does.trans (h : Does setup shared s begun r) (h' : Does setup shared r begun' q) :
    Does setup shared s (begun ++ begun') q := fun tasks => by
  rw [← List.append_assoc]
  exact (h tasks).trans (h' (tasks ++ begun))

/-- A move after which no other call has begun. -/
theorem Does.of_move (a : Move σ) (ha : ∀ q, a = .registry q → shared)
    (h : ∀ tasks, Machine.move setup ⟨s, tasks⟩ a = ⟨r, tasks⟩) : Does setup shared s [] r :=
  fun tasks => by
    rw [List.append_nil, ← h tasks]
    exact Machine.reaches_move _ a ha

theorem does_world (setup : Setup σ) (s : State σ) (world : σ) :
    Does setup shared s [] { s with world } := .of_move (.world world) nofun fun _ => rfl

theorem does_registry (setup : Setup σ) (s : State σ) (registry : Watch.Registry) (h : shared) :
    Does setup shared s [] { s with registry } :=
  .of_move (.registry registry) (fun _ _ => h) fun _ => rfl

theorem does_invalidate (setup : Setup σ) (s : State σ) (key : Key) :
    Does setup shared s [] (s.invalidate key).2 := .of_move (.invalidate key) nofun fun _ => rfl

theorem does_clear (setup : Setup σ) (s : State σ) : Does setup shared s [] s.clear :=
  .of_move .clear nofun fun _ => rfl

end Does

/-! ### Processes as calls -/

section Plays

variable {σ τ ρ : Type} {setup : Setup σ} {shared : Prop} {p : Process τ ρ (State σ)}
  {stage : τ → Task} {done : ρ → Task} {I : τ → Prop} {t : τ}

/-- A call goes through the stages of a process, as long as these are of some kind, and is finished with
its result. -/
structure Plays (setup : Setup σ) (p : Process τ ρ (State σ)) (stage : τ → Task) (done : ρ → Task)
    (I : τ → Prop) : Prop where
  goes : ∀ {t s u r}, I t → p.step t s = (.inl u, r) → (stage t).step setup s = (stage u, r) ∧ I u
  ends : ∀ {t s x r}, I t → p.step t s = (.inr x, r) → (stage t).step setup s = (done x, r)

/-- The turns of a call until its process ends. -/
theorem Plays.reaches_run (hp : Plays setup p stage done I) (ht : I t) (s : State σ)
    (tasks later : List Task) :
    Machine.Reaches setup shared ⟨s, tasks ++ stage t :: later⟩
      ⟨(p.run t s).2, tasks ++ done (p.run t s).1 :: later⟩ := by
  fun_induction Process.run p t s with
  | case1 t s x r hstep =>
    have hturn := Machine.reaches_turn setup shared s tasks later (stage t)
    rw [hp.ends ht hstep] at hturn
    exact hturn
  | case2 t s u r hstep ih =>
    obtain ⟨hgoes, hu⟩ := hp.goes ht hstep
    have hturn := Machine.reaches_turn setup shared s tasks later (stage t)
    rw [hgoes] at hturn
    exact hturn.trans (ih hu)

/-- The stage of a call, under way or finished. -/
def Plays.task (stage : τ → Task) (done : ρ → Task) : τ ⊕ ρ → Task
  | .inl t => stage t
  | .inr x => done x

/-- The turns of a call until its process is halted. -/
theorem Plays.reaches_runTo (hp : Plays setup p stage done I) (halt : τ → Bool) (ht : I t)
    (s : State σ) (tasks later : List Task) :
    Machine.Reaches setup shared ⟨s, tasks ++ stage t :: later⟩
      ⟨(p.runTo halt t s).2, tasks ++ Plays.task stage done (p.runTo halt t s).1 :: later⟩ := by
  fun_induction Process.runTo p halt t s with
  | case1 t s hhalt => exact .refl _
  | case2 t s hhalt x r hstep =>
    have hturn := Machine.reaches_turn setup shared s tasks later (stage t)
    rw [hp.ends ht hstep] at hturn
    exact hturn
  | case3 t s hhalt u r hstep ih =>
    obtain ⟨hgoes, hu⟩ := hp.goes ht hstep
    have hturn := Machine.reaches_turn setup shared s tasks later (stage t)
    rw [hgoes] at hturn
    exact hturn.trans (ih hu)

theorem Plays.halted_runTo (hp : Plays setup p stage done I) (halt : τ → Bool) (ht : I t)
    (s : State σ) : ∀ u, (p.runTo halt t s).1 = .inl u → I u := by
  fun_induction Process.runTo p halt t s with
  | case1 t s hhalt =>
    rintro u ⟨⟩
    exact ht
  | case2 t s hhalt x r hstep => simp
  | case3 t s hhalt u r hstep ih => exact ih (hp.goes ht hstep).2

/-- A call during which other things are done, right after one of its steps. -/
theorem Plays.exists_runAround {α : Type} (hp : Plays setup p stage done I) (halt : τ → Bool)
    (between : State σ → α × State σ) (hb : ∀ s, ∃ begun, Does setup shared s begun (between s).2)
    (ht : I t) (s : State σ) :
    ∃ begun, ∀ tasks, Machine.Reaches setup shared ⟨s, tasks ++ [stage t]⟩
      ⟨(p.runAround halt between t s).2.2,
        tasks ++ done (p.runAround halt between t s).1 :: begun⟩ := by
  have hto : ∀ tasks, Machine.Reaches setup shared ⟨s, tasks ++ [stage t]⟩
      ⟨(p.runTo halt t s).2, tasks ++ [Plays.task stage done (p.runTo halt t s).1]⟩ :=
    fun tasks => hp.reaches_runTo halt ht s tasks []
  have hI := hp.halted_runTo halt ht s
  unfold Process.runAround
  rcases hrun : p.runTo halt t s with ⟨u | x, s'⟩ <;> rw [hrun] at hto hI
  · have hu := hI u rfl
    dsimp only [Plays.task] at hto ⊢
    have hturn := fun tasks => Machine.reaches_turn setup shared s' tasks [] (stage u)
    rcases hstep : p.step u s' with ⟨v | x, r⟩
    · obtain ⟨hgoes, hv⟩ := hp.goes hu hstep
      obtain ⟨begun, hbegun⟩ := hb r
      refine ⟨begun, fun tasks => ?_⟩
      have hbetween := hbegun (tasks ++ [stage v])
      rw [List.append_assoc, List.singleton_append] at hbetween
      rw [hgoes] at hturn
      exact (hto tasks).trans ((hturn tasks).trans
        (hbetween.trans (hp.reaches_run hv (between r).2 tasks begun)))
    · obtain ⟨begun, hbegun⟩ := hb r
      refine ⟨begun, fun tasks => ?_⟩
      have hbetween := hbegun (tasks ++ [done x])
      rw [List.append_assoc, List.singleton_append] at hbetween
      rw [hp.ends hu hstep] at hturn
      exact (hto tasks).trans ((hturn tasks).trans hbetween)
  · exact ⟨[], hto⟩

end Plays

/-! ### Gets and passes -/

section Calls

variable {σ : Type} {shared : Prop}

theorem plays_get (setup : Setup σ) (key : Key) :
    Plays setup (Get.process setup) .getting (.got key) (·.key = key) where
  goes := by
    intro g s g' r hg hstep
    change g.step setup s = _ at hstep
    refine ⟨by simp only [Task.step, hstep], ?_⟩
    cases Get.steps hstep with
    | begun | went => exact hg
  ends := by
    intro g s x r hg hstep
    change g.step setup s = _ at hstep
    simp only [Task.step, hstep, hg]

theorem plays_reload (setup : Setup σ) :
    Plays setup (Reload.process setup) .reloading .reloaded fun _ => True where
  goes := by
    intro t s u r _ hstep
    change t.step setup s = _ at hstep
    exact ⟨by simp only [Task.step, hstep], trivial⟩
  ends := by
    intro t s x r _ hstep
    change t.step setup s = _ at hstep
    simp only [Task.step, hstep]

theorem Does.of_begins {setup : Setup σ} {a : Move σ} {t : Task} {s r : State σ} {begun : List Task}
    (ha : a.Begins t)
    (h : ∀ tasks, Machine.Reaches setup shared ⟨s, tasks ++ [t]⟩ ⟨r, tasks ++ begun⟩) :
    Does setup shared s begun r := by
  intro tasks
  cases ha with
  | get key declared => exact (Machine.reaches_move _ (.get key declared) nofun).trans (h tasks)
  | reload => exact (Machine.reaches_move _ .reload nofun).trans (h tasks)

/-- **A get that runs alone is a call of the machine.** -/
theorem does_get (setup : Setup σ) (s : State σ) (key : Key) (declared : Declaration) :
    Does setup shared s [.got key (s.get setup key declared).1] (s.get setup key declared).2 :=
  .of_begins (.get key declared) fun tasks => (plays_get setup key).reaches_run rfl s tasks []

/-- **A pass that runs alone is a call of the machine.** -/
theorem does_reloadAll (setup : Setup σ) (s : State σ) :
    Does setup shared s [.reloaded (s.reloadAll setup).1] (s.reloadAll setup).2 :=
  .of_begins .reload fun tasks => (plays_reload setup).reaches_run trivial s tasks []

theorem does_getAround {α : Type} (setup : Setup σ) (between : State σ → α × State σ)
    (hb : ∀ s, ∃ begun, Does setup shared s begun (between s).2) (halt : Get → Bool) (s : State σ)
    (key : Key) (declared : Declaration) :
    ∃ begun, Does setup shared s
      (.got key ((Get.process setup).runAround halt between (.lookup key declared) s).1 :: begun)
      ((Get.process setup).runAround halt between (.lookup key declared) s).2.2 := by
  obtain ⟨begun, h⟩ :=
    (plays_get setup key).exists_runAround halt between hb (t := .lookup key declared) rfl s
  exact ⟨begun, .of_begins (.get key declared) h⟩

theorem does_reloadAround {α : Type} (setup : Setup σ) (between : State σ → α × State σ)
    (hb : ∀ s, ∃ begun, Does setup shared s begun (between s).2) (halt : Reload → Bool)
    (s : State σ) :
    ∃ begun, Does setup shared s
      (.reloaded ((Reload.process setup).runAround halt between .start s).1 :: begun)
      ((Reload.process setup).runAround halt between .start s).2.2 := by
  obtain ⟨begun, h⟩ :=
    (plays_reload setup).exists_runAround halt between hb (t := .start) trivial s
  exact ⟨begun, .of_begins .reload h⟩

end Calls

end TypedConfig.Cache
