import TypedConfig.Cache.Machine
import TypedConfig.Service

/-!
A service in operation. Any number of gets and reload passes are under way at once, each at some stage.
Among their turns files change, the watch loop takes its steps, and the service is shut down, which takes
three moves: the signal is sent, the cache is cleared, the registry is cleared.
-/

namespace TypedConfig

open Cache (Task)

/-- What a shutdown that is under way clears next. -/
inductive Closing where
  | cache
  | registry
  deriving DecidableEq, Repr

/-- A service, the calls on its cache in the order in which they began, and what else is under way. -/
structure Operation (σ : Type) where
  service : Service σ
  calls : List Task
  /-- The place of the pass that the watch loop has begun last. -/
  pass : Option Nat
  closing : Option Closing

namespace Operation

variable {σ : Type}

/-- A service on which nothing has been called. -/
def new (s : Service σ) : Operation σ := ⟨s, [], none, none⟩

/-- What may happen next: a get or a pass is called, the call at a place takes a step, entries are
dropped, the shutdown begins or goes on, the watch loop is given a delivery, takes a step or is let go
when it has stopped, or the world is changed by others. The loop may hear a signal that has been sent, or
something else first. -/
inductive Move (σ : Type) where
  | get (key : Cache.Key) (declared : Contract.Declaration)
  | reload
  | turn (place : Nat)
  | invalidate (key : Cache.Key)
  | clear
  | shutDown
  | close
  | deliver (d : Watch.Delivery)
  | loop (hears : Bool)
  | join
  | world (w : σ)

/-- The operation with another state of the cache. -/
def withState (o : Operation σ) (state : Cache.State σ) : Operation σ :=
  { o with service := { o.service with state } }

/-- A call begins. -/
def call (o : Operation σ) (t : Task) : Operation σ := { o with calls := o.calls ++ [t] }

/-- The call at a place takes a step. -/
def turn (o : Operation σ) (place : Nat) : Operation σ :=
  match o.calls[place]? with
  | none => o
  | some t =>
    let (t, state) := t.step o.service.setup o.service.state
    { o.withState state with calls := o.calls.set place t }

/-- The shutdown begins with the signal, which is sent once. -/
def shutDown (o : Operation σ) : Operation σ :=
  match o.service.shutdown.trigger with
  | (false, _) => o
  | (true, shutdown) => { o with service := { o.service with shutdown }, closing := some .cache }

/-- A shutdown that is under way goes on. -/
def close (o : Operation σ) : Operation σ :=
  match o.closing with
  | none => o
  | some .cache => { o.withState o.service.state.clear with closing := some .registry }
  | some .registry =>
    { o.withState { o.service.state with registry := o.service.state.registry.clear } with
      closing := none }

/-- Whether the pass that the watch loop has begun has ended. -/
def passEnded (o : Operation σ) : Bool :=
  match o.pass.bind fun place => o.calls[place]? with
  | some (.reloaded _) => true
  | _ => false

/-- The watch loop takes a step. When it comes to reload it begins a pass, and goes on when that pass has
ended. -/
def stepLoop (o : Operation σ) (hears : Bool) : Operation σ :=
  match o.service.loop with
  | none => o
  | some l =>
    if l.stage = .reloading ∧ !o.passEnded then o
    else
      let next := l.next o.service.state.registry (hears && o.service.shutdown.triggered)
      let after := { o with service := { o.service with loop := some next } }
      if next.stage = .reloading then { after.call (.reloading .start) with pass := some o.calls.length }
      else after

/-- A watch loop that has stopped is let go. -/
def join (o : Operation σ) : Operation σ :=
  match o.service.loop with
  | some ⟨.stopped, _⟩ => { o with service := { o.service with loop := none } }
  | _ => o

/-- The operation after a move. A get that is called after the signal is answered at once. -/
def move (o : Operation σ) : Move σ → Operation σ
  | .get key declared =>
    if o.service.shutdown.triggered then o else o.call (.getting (.lookup key declared))
  | .reload => o.call (.reloading .start)
  | .turn place => o.turn place
  | .invalidate key => { o with service := (o.service.invalidate key).2 }
  | .clear => o.withState o.service.state.clear
  | .shutDown => o.shutDown
  | .close => o.close
  | .deliver d => { o with service := o.service.deliver d }
  | .loop hears => o.stepLoop hears
  | .join => o.join
  | .world world => o.withState { o.service.state with world }

/-- The operation after moves. -/
def run (o : Operation σ) (moves : List (Move σ)) : Operation σ := moves.foldl move o

end Operation

end TypedConfig
