import TypedConfig.Cache.Get
import TypedConfig.Cache.Reload

/-!
A cache in use. Any number of gets and reload passes are under way at once, each at some stage. Whoever
has the turn takes one step, and in between entries may be dropped and anything may happen to the world
and to the watch registry.
-/

namespace TypedConfig.Cache

open Contract (Declaration)

-- there is no general instance for `Except` without Mathlib, which what runs does not import
instance : DecidableEq (Except CacheError Instance)
  | .ok i, .ok j => decidable_of_iff (i = j) (by simp)
  | .error e, .error f => decidable_of_iff (e = f) (by simp)
  | .ok _, .error _ => .isFalse nofun
  | .error _, .ok _ => .isFalse nofun

/-- A call on a cache, under way or finished. -/
inductive Task where
  | getting (g : Get)
  | got (key : Key) (result : Except CacheError Instance)
  | reloading (r : Reload)
  | reloaded (report : Report)
  deriving DecidableEq

/-- One step of a call. A call that is finished stays so. -/
def Task.step {σ : Type} (setup : Setup σ) (t : Task) (s : State σ) : Task × State σ :=
  match t with
  | .getting g =>
    match g.step setup s with
    | (.inl g, s) => (.getting g, s)
    | (.inr result, s) => (.got g.key result, s)
  | .reloading r =>
    match r.step setup s with
    | (.inl r, s) => (.reloading r, s)
    | (.inr report, s) => (.reloaded report, s)
  | done => (done, s)

/-- A cache in a world, and the calls on it in the order in which they began. -/
structure Machine (σ : Type) where
  state : State σ
  tasks : List Task

/-- What may happen next: a call begins, the call at a place takes a step, entries are dropped, or the
world or the registry is changed by others. -/
inductive Move (σ : Type) where
  | get (key : Key) (declared : Declaration)
  | reload
  | turn (place : Nat)
  | invalidate (key : Key)
  | clear
  | world (w : σ)
  | registry (r : Watch.Registry)

namespace Machine

variable {σ : Type}

/-- An empty cache on which nothing has been called. -/
def new (world : σ) (metrics : Bool) : Machine σ := ⟨.new world metrics, []⟩

/-- The machine after a move. -/
def move (setup : Setup σ) (m : Machine σ) : Move σ → Machine σ
  | .get key declared => { m with tasks := m.tasks ++ [.getting (.lookup key declared)] }
  | .reload => { m with tasks := m.tasks ++ [.reloading .start] }
  | .turn place =>
    match m.tasks[place]? with
    | some t =>
      let (t, state) := t.step setup m.state
      ⟨state, m.tasks.set place t⟩
    | none => m
  | .invalidate key => { m with state := (m.state.invalidate key).2 }
  | .clear => { m with state := m.state.clear }
  | .world w => { m with state := { m.state with world := w } }
  | .registry r => { m with state := { m.state with registry := r } }

/-- The machine after moves. -/
def run (setup : Setup σ) (m : Machine σ) (moves : List (Move σ)) : Machine σ :=
  moves.foldl (move setup) m

end Machine

end TypedConfig.Cache
