import TypedConfig.Files.Sandbox
import TypedConfig.Service

/-!
Sessions: a service, or a bare cache, in a sandbox, driven step by step. Contract types are numbered,
and each number has a declaration that may change from step to step. While a get or a pass reads its
first file, other actions may run in between.
-/

namespace TypedConfig.Session

open Cache (Instance Entry Report)
open Contract (Declaration)
open Files (Sandbox FileStep)

/-- What is driven. -/
inductive Host where
  | cache
  | service
  | watched
  deriving DecidableEq, Repr

/-- What may happen while a file is being read. -/
inductive Action where
  | get (slot : Nat)
  | invalidate (slot : Nat)
  | clear
  | reload
  | file (step : FileStep)
  deriving Repr

/-- One step of a session. -/
inductive Step where
  | get (slot : Nat) (declared : Option Declaration) (during : List Action)
  | held (step : Nat)
  | reload (during : List Action)
  | invalidate (slot : Nat)
  | entry (slot : Nat)
  | clear
  | warnings (slot : Nat)
  | settings
  | shutDown
  | typed
  | read (step : Nat) (name : String) (kind : Scalar.Kind)
  | file (step : FileStep)
  | awaitInstance (slot : Nat)
  | awaitPass
  | quiet
  | join
  deriving Repr

/-- What a step or an action answers. -/
inductive Answer where
  | nothing
  | failed (e : ServiceError)
  | inst (i : Instance)
  | report (r : Report)
  | flag (b : Bool)
  | entry (e : Option Entry)
  | warnings (ws : List Resolution.Warning)
  | settings (s : Settings)
  | values (vs : List Scalar.Value)
  | value (v : Option Scalar.Value)
  deriving Repr

/-- A contract that has an accessor of every kind. -/
def everything : Declaration where
  typeName := "Everything"
  capability := true
  source := some "@EVERYTHING@"
  accessors := [
    ⟨"text", "String", some "text", some "F@€...-Döich!", 0⟩,
    ⟨"enabled", "bool", some "enabled", some "TRUE", 0⟩,
    ⟨"count", "i32", some "count", some "-42", 0⟩,
    ⟨"big", "i64", some "big", some "281474976710655", 0⟩,
    ⟨"ratio", "f64", some "ratio", some "123456.4444444", 0⟩,
    ⟨"scale", "f32", some "scale", some "1.5", 0⟩,
    ⟨"port", "i16", some "port", some "8080", 0⟩,
    ⟨"initial", "char", some "initial", some "ö", 0⟩,
    ⟨"level", "i8", some "level", some "-7", 0⟩]

/-- The number of the contract type `everything`, which no slot has. -/
def everythingKey : Cache.Key := 4

/-- A session between two steps. -/
structure State where
  service : Service Sandbox
  /-- What each slot declares. -/
  declared : List (Nat × Declaration)
  /-- What the gets among the steps so far have returned. -/
  held : List (Option Instance)
  /-- The instance that a slot has returned last. -/
  lastShown : List (Nat × Nat)
  /-- How many passes had begun at the last change of a file. -/
  passesBefore : Nat
  /-- Directories that were given to the watcher and are gone. -/
  lost : List Directory

/-- What can be seen after a step. -/
structure View where
  answer : Answer
  during : List Answer
  size : Nat
  passes : Nat
  watching : Bool

namespace State

/-- A session at its start. -/
def new (service : Service Sandbox) : State := ⟨service, [], [], [], 0, []⟩

/-- The declaration of a slot. One that has declared nothing has an empty contract. -/
def declarationOf (s : State) (slot : Nat) : Declaration :=
  (s.declared.lookup slot).getD default

/-- The instance that a step has got. -/
def heldAt (s : State) (step : Nat) : Option Instance := (s.held[step]?).join

/-- Sets what a slot declares. -/
def declare (s : State) (slot : Nat) : Option Declaration → State
  | some d => { s with declared := (slot, d) :: s.declared }
  | none => s

/-- The cache with its world changed. -/
def changeWorld (c : Cache.State Sandbox) (step : FileStep) : Cache.State Sandbox :=
  { c with world := c.world.apply step }

/-! ### Actions while a file is read -/

/-- An action on the cache. -/
def act (s : State) (c : Cache.State Sandbox) : Action → Answer × Cache.State Sandbox
  | .get slot =>
    match c.get s.service.setup slot (s.declarationOf slot) with
    | (.ok i, c) => (.inst i, c)
    | (.error e, c) => (.failed (.cache e), c)
  | .invalidate slot =>
    let (dropped, c) := c.invalidate slot
    (.flag dropped, c)
  | .clear => (.nothing, c.clear)
  | .reload =>
    let (report, c) := c.reloadAll s.service.setup
    (.report report, c)
  | .file step => (.nothing, changeWorld c step)

/-- Actions one after the other. -/
def actAll (s : State) : List Action → Cache.State Sandbox → List Answer × Cache.State Sandbox
  | [], c => ([], c)
  | a :: rest, c =>
    let (answer, c) := s.act c a
    let (answers, c) := actAll s rest c
    (answer :: answers, c)

/-! ### Steps -/

/-- The session with another state of its cache. -/
def withCache (s : State) (c : Cache.State Sandbox) : State :=
  { s with service := { s.service with state := c } }

/-- Gets an instance while other actions run. -/
def getAround (s : State) (slot : Nat) (during : List Action) :
    Except ServiceError Instance × List Answer × State :=
  if s.service.shutdown.triggered then (.error .shutDown, [], s)
  else
    let (result, answers, c) :=
      (Cache.Get.process s.service.setup).runAround Cache.Get.readsNext (s.actAll during)
        (.lookup slot (s.declarationOf slot)) s.service.state
    (result.mapError .cache, answers.getD [], s.withCache c)

/-- Runs a reload pass while other actions run. -/
def reloadAround (s : State) (during : List Action) : Report × List Answer × State :=
  let (report, answers, c) :=
    (Cache.Reload.process s.service.setup).runAround Cache.Reload.readsNext (s.actAll during)
      .start s.service.state
  (report, answers.getD [], s.withCache c)

/-- The directories in which a watcher sees changes. -/
def watchedDirectories (s : State) : List Directory :=
  (s.service.state.registry.subscriber.getD []).filter fun d => !s.lost.contains d

/-- Changes a file. The watcher delivers what it sees of that, and the loop comes to rest. -/
def changeFile (s : State) (step : FileStep) : State :=
  let world := s.service.state.world
  let given := s.watchedDirectories
  let service := { s.service with state := changeWorld s.service.state step }
  let service :=
    match world.deliveryOf given step with
    | some d => service.deliver d
    | none => service
  { s with
    service := service.rest
    passesBefore := s.service.state.passes
    lost := s.lost ++ world.lostWith given step }

/-- The answer of a get. -/
def answerOf : Except ServiceError Instance → Answer
  | .ok i => .inst i
  | .error e => .failed e

/-- Carries out a step: what it answers, what the actions in between answer, and the session after
it. -/
def step (s : State) : Step → Answer × List Answer × State
  | .get slot declared during =>
    let (result, answers, s) := (s.declare slot declared).getAround slot during
    match result with
    | .ok i => (.inst i, answers, { s with lastShown := (slot, i.id) :: s.lastShown })
    | .error e => (.failed e, answers, s)
  | .held n => (((s.heldAt n).map Answer.inst).getD .nothing, [], s)
  | .reload during =>
    let (report, answers, s) := s.reloadAround during
    (.report report, answers, s)
  | .invalidate slot =>
    let (dropped, service) := s.service.invalidate slot
    (.flag dropped, [], { s with service })
  | .entry slot => (.entry (s.service.state.entry? slot), [], s)
  | .clear => (.nothing, [], s.withCache s.service.state.clear)
  | .warnings slot => (.warnings (s.service.warnings slot), [], s)
  | .settings => (.settings s.service.settings, [], s)
  | .shutDown => (.nothing, [], { s with service := s.service.shutDown.rest })
  | .typed =>
    let (result, service) := s.service.get everythingKey everything
    let answer : Answer :=
      match result with
      | .ok i => .values (i.table.slots.map (·.value))
      | .error e => .failed e
    (answer, [], { s with service })
  | .read n name kind =>
    (.value ((s.heldAt n).bind fun i => (i.table.value? name).bind (·.ofKind? kind)), [], s)
  | .file change => (.nothing, [], s.changeFile change)
  | .awaitInstance slot =>
    let (result, service) := s.service.get slot (s.declarationOf slot)
    let other :=
      match result with
      | .ok i => s.lastShown.lookup slot != some i.id
      | .error _ => false
    (.flag other, [], { s with service })
  | .awaitPass => (.flag (s.passesBefore < s.service.state.passes), [], s)
  | .quiet => (.flag (s.service.state.passes == s.passesBefore), [], s)
  | .join =>
    let service := s.service.join
    (.flag service.isWatching, [], { s with service })

/-- What a get holds on to. -/
def heldBy : Step → Answer → Option Instance
  | .get .., .inst i => some i
  | _, _ => none

/-- Carries out steps and tells what could be seen after each. -/
def run (s : State) : List Step → List View × State
  | [] => ([], s)
  | next :: rest =>
    let (answer, during, s) := s.step next
    let s := { s with held := s.held ++ [heldBy next answer] }
    let view : View :=
      ⟨answer, during, s.service.state.size, s.service.state.passes, s.service.isWatching⟩
    let (views, s) := run s rest
    (view :: views, s)

end State

/-- Starts what is driven. -/
def Host.start (h : Host) (settings : Settings) (world : Sandbox) :
    Except ServiceError (Service Sandbox) :=
  match h with
  | .cache => .ok (.unchecked Sandbox.surroundings world settings)
  | .service => Service.start Sandbox.surroundings world false settings
  | .watched => Service.start Sandbox.surroundings world true settings

end TypedConfig.Session
