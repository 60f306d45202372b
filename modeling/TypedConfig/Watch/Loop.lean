import TypedConfig.Watch.Registry

/-!
The watch loop. While nothing is registered it sleeps from time to time. Otherwise it takes a
delivery, lets the burst settle, takes whatever else has arrived, and starts one reload pass if any of
it concerns a registered file. A watcher that reports an error concerns none.
-/

namespace TypedConfig.Watch

/-- What has happened to a file. -/
inductive Change where
  | create
  | modify
  | remove
  | access
  | other
  deriving DecidableEq, Repr

/-- A change of some paths. -/
structure Event where
  change : Change
  paths : List Path
  deriving DecidableEq, Repr

/-- What a file watcher delivers. -/
inductive Delivery where
  | event (e : Event)
  | failure
  deriving DecidableEq, Repr

/-- Whether a change may be one of contents. -/
def Change.touchesContents : Change → Bool
  | .create | .modify => true
  | .remove | .access | .other => false

/-- Whether a delivery concerns a registered file. -/
def Delivery.isRelevant (r : Registry) : Delivery → Bool
  | .event e => e.change.touchesContents && e.paths.any r.watches
  | .failure => false

/-- Where the loop stands: waiting for a delivery, letting the burst settle that begins with one, taking
what else has arrived into the batch, judging what is left of the batch with what has been found so far,
or letting a reload pass run. -/
inductive Stage where
  | waiting
  | settling (first : Delivery)
  | draining (batch : List Delivery)
  | judging (left : List Delivery) (relevant : Bool)
  | reloading
  | stopped
  deriving DecidableEq, Repr

/-- The deliveries that the loop has taken and has yet to judge. -/
def Stage.held : Stage → List Delivery
  | .settling first => [first]
  | .draining batch => batch
  | .judging left _ => left
  | .waiting | .reloading | .stopped => []

/-- The loop, with the deliveries that it has not taken yet. -/
structure Loop where
  stage : Stage
  queue : List Delivery
  deriving DecidableEq, Repr

namespace Loop

/-- The loop when it starts. -/
def start : Loop := ⟨.waiting, []⟩

/-- A delivery arrives. -/
def deliver (l : Loop) (d : Delivery) : Loop := { l with queue := l.queue ++ [d] }

/-- The next step of the loop. Shutdown is noticed at the waiting point only. In the stage
`reloading` the step is the end of the pass that has just run. -/
def next (r : Registry) (signal : Bool) (l : Loop) : Loop :=
  match l.stage with
  | .waiting =>
    if signal then { l with stage := .stopped }
    else if r.isEmpty then l
    else
      match l.queue with
      | [] => l
      | first :: rest => ⟨.settling first, rest⟩
  | .settling first => { l with stage := .draining [first] }
  | .draining batch =>
    match l.queue with
    | [] => { l with stage := .judging batch false }
    | d :: rest => ⟨.draining (batch ++ [d]), rest⟩
  | .judging (d :: left) relevant =>
    { l with stage := .judging left (relevant || d.isRelevant r) }
  | .judging [] relevant => { l with stage := if relevant then .reloading else .waiting }
  | .reloading => { l with stage := .waiting }
  | .stopped => l

/-- How many steps take the loop through all that it holds and all that has been delivered, at most. -/
def stepsToRest (l : Loop) : Nat := 2 * l.queue.length + l.stage.held.length + 8

end Loop

end TypedConfig.Watch
