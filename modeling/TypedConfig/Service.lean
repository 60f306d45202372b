import TypedConfig.Cache.Get
import TypedConfig.Cache.Reload
import TypedConfig.Settings.Problem
import TypedConfig.Shutdown
import TypedConfig.Watch.Loop

/-!
A service: settings, a cache, the shutdown signal and, if files are watched, the watch loop. After
shutdown nothing can be got any more.
-/

namespace TypedConfig

open Cache (Setup State Instance Report CacheError)

/-- Why a service did not answer. -/
inductive ServiceError where
  | cache (cause : CacheError)
  | watch (cause : Watch.WatchError)
  | settings (found : List Problem)
  | shutDown
  deriving DecidableEq, Repr

/-- The error in words. -/
def ServiceError.message : ServiceError → String
  | .cache cause => cause.message
  | .watch cause => "watch setup failed: " ++ cause.message
  | .settings found => "service configuration: " ++ Problem.summary found
  | .shutDown => "configuration service has been shut down"

/-- What a cache is set up with. -/
def Settings.setup {σ : Type} (s : Settings) (out : Surroundings σ) : Setup σ :=
  ⟨out, s.resolver, s.module.factory, s.module.dumpDirectory⟩

/-- A service in a world. -/
structure Service (σ : Type) where
  settings : Settings
  setup : Setup σ
  state : State σ
  shutdown : Shutdown
  loop : Option Watch.Loop

namespace Service

variable {σ : Type}

/-- A service whose settings have not been checked and that watches nothing. -/
def unchecked (out : Surroundings σ) (world : σ) (s : Settings) : Service σ :=
  ⟨s, s.setup out, .new world s.observability.metrics, .new, none⟩

/-- Starts the watch loop. -/
def watched (s : Service σ) : Except ServiceError (Service σ) :=
  match s.state.registry.attach (s.setup.out.subscribe s.state.world) with
  | (.error e, _) => .error (.watch e)
  | (.ok (), registry) =>
    .ok { s with
      state := { s.state with registry }
      shutdown := s.shutdown.subscribe.2
      loop := some .start }

/-- Starts a service. Its settings have to be acceptable, and files can be watched only where there
is a runtime for the loop. -/
def start (out : Surroundings σ) (world : σ) (runtime : Bool) (s : Settings) :
    Except ServiceError (Service σ) :=
  match s.problems with
  | p :: ps => .error (.settings (p :: ps))
  | [] =>
    if !s.watch.enabled then .ok (unchecked out world s)
    else if !runtime then .error (.watch .noRuntime)
    else (unchecked out world s).watched

/-- Gets the instance of a contract type. -/
def get (s : Service σ) (key : Cache.Key) (declared : Contract.Declaration) :
    Except ServiceError Instance × Service σ :=
  if s.shutdown.triggered then (.error .shutDown, s)
  else
    match s.state.get s.setup key declared with
    | (.ok i, state) => (.ok i, { s with state })
    | (.error e, state) => (.error (.cache e), { s with state })

/-- Drops the entry of a contract type, and tells whether there was one. -/
def invalidate (s : Service σ) (key : Cache.Key) : Bool × Service σ :=
  let (dropped, state) := s.state.invalidate key
  (dropped, { s with state })

/-- Runs a reload pass. -/
def reloadAll (s : Service σ) : Report × Service σ :=
  let (report, state) := s.state.reloadAll s.setup
  (report, { s with state })

/-- The warnings that came with the current instance of a contract type. -/
def warnings (s : Service σ) (key : Cache.Key) : List Resolution.Warning :=
  match s.state.entry? key with
  | some e => e.warnings
  | none => []

/-- Whether the watch loop runs. -/
def isWatching (s : Service σ) : Bool :=
  match s.loop with
  | some l => l.stage != .stopped
  | none => false

/-- Shuts the service down; only the first time does anything. -/
def shutDown (s : Service σ) : Service σ :=
  match s.shutdown.trigger with
  | (false, _) => s
  | (true, shutdown) =>
    { s with
      shutdown
      state := { s.state.clear with registry := s.state.registry.clear } }

/-! ### The watch loop -/

/-- A delivery reaches the loop. -/
def deliver (s : Service σ) (d : Watch.Delivery) : Service σ :=
  { s with loop := s.loop.map fun l => l.deliver d }

/-- The next step of the loop. A pass runs to its end. -/
def stepLoop (s : Service σ) : Service σ :=
  match s.loop with
  | none => s
  | some l =>
    let state := if l.stage = .reloading then (s.state.reloadAll s.setup).2 else s.state
    { s with state, loop := some (l.next s.state.registry s.shutdown.triggered) }

/-- Lets the loop take a number of steps. -/
def stepLoops : Nat → Service σ → Service σ
  | 0, s => s
  | n + 1, s => stepLoops n s.stepLoop

/-- Lets the loop run until it waits. -/
def rest (s : Service σ) : Service σ :=
  match s.loop with
  | none => s
  | some l => stepLoops l.stepsToRest s

/-- Waits for the loop to end. -/
def join (s : Service σ) : Service σ :=
  let s := s.rest
  { s with loop := if s.shutdown.triggered then none else s.loop }

end Service

end TypedConfig
