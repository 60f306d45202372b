/-!
The shutdown signal. It is sent once, to every receiver that has subscribed by then; a receiver that
subscribes later hears nothing.
-/

namespace TypedConfig

/-- A receiver of the signal: one that waits, one that has a signal to take, or one that was
dropped. -/
inductive Receiver where
  | listening
  | signalled
  | dropped
  deriving DecidableEq, Repr

/-- The signal, with its receivers in the order in which they subscribed. -/
structure Shutdown where
  triggered : Bool
  receivers : List Receiver
  deriving DecidableEq, Repr

namespace Shutdown

/-- Nothing has been sent and nobody listens. -/
def new : Shutdown := ⟨false, []⟩

/-- A new receiver, by its number. -/
def subscribe (s : Shutdown) : Nat × Shutdown :=
  (s.receivers.length, { s with receivers := s.receivers ++ [.listening] })

/-- What sending the signal does to a receiver. -/
def deliver : Receiver → Receiver
  | .listening => .signalled
  | r => r

/-- Sends the signal, and tells whether this was the first time. -/
def trigger (s : Shutdown) : Bool × Shutdown :=
  if s.triggered then (false, s) else (true, ⟨true, s.receivers.map deliver⟩)

/-- Whether a receiver has a signal, which it takes. -/
def poll (s : Shutdown) (receiver : Nat) : Bool × Shutdown :=
  match s.receivers[receiver]? with
  | some .signalled => (true, { s with receivers := s.receivers.set receiver .listening })
  | _ => (false, s)

/-- Drops a receiver. -/
def drop (s : Shutdown) (receiver : Nat) : Shutdown :=
  { s with receivers := s.receivers.set receiver .dropped }

/-- How many receivers there are. -/
def receiverCount (s : Shutdown) : Nat := s.receivers.countP (· ≠ .dropped)

/-- The signal is sent at most once. -/
theorem trigger_trigger (s : Shutdown) : (s.trigger.2.trigger).1 = false := by
  unfold trigger
  split <;> simp_all

end Shutdown

end TypedConfig
