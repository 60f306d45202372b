/-!
Processes that work in steps on shared state. Each step takes a process to its next stage or to its
result, and stages get smaller, so a process that runs alone comes to its result. A process can be
halted at a stage, so that other things happen before it goes on.
-/

namespace TypedConfig.Cache

/-- How a kind of process works: its stages `τ`, its results `ρ`, and the state `S` that it shares
with others. -/
structure Process (τ ρ S : Type) where
  step : τ → S → (τ ⊕ ρ) × S
  size : τ → Nat × Nat
  shrinks : ∀ t s u r, step t s = (.inl u, r) →
    Prod.Lex (· < ·) (· < ·) (size u) (size t)

namespace Process

variable {τ ρ S : Type}

/-- The order in which stages get smaller. -/
theorem sizeOrder_wf : WellFounded (Prod.Lex (· < ·) (· < ·) : Nat × Nat → Nat × Nat → Prop) :=
  (Prod.lex ⟨(· < ·), Nat.lt_wfRel.wf⟩ ⟨(· < ·), Nat.lt_wfRel.wf⟩).wf

/-- Runs a process alone until a stage at which it is to be halted, or to its result. -/
def runTo (p : Process τ ρ S) (halt : τ → Bool) (t : τ) (s : S) : (τ ⊕ ρ) × S :=
  if halt t then (.inl t, s)
  else
    match _h : p.step t s with
    | (.inr result, s) => (.inr result, s)
    | (.inl u, r) => runTo p halt u r
termination_by p.size t
decreasing_by exact p.shrinks _ _ _ _ ‹_›

/-- Runs a process alone to its result. -/
def run (p : Process τ ρ S) (t : τ) (s : S) : ρ × S :=
  match _h : p.step t s with
  | (.inr result, s) => (result, s)
  | (.inl u, r) => run p u r
termination_by p.size t
decreasing_by exact p.shrinks _ _ _ _ ‹_›

/-- Runs a process to its result, and lets something else happen right after the first step that it
takes from a stage of the given kind. -/
def runAround {α : Type} (p : Process τ ρ S) (stage : τ → Bool) (between : S → α × S) (t : τ)
    (s : S) : ρ × Option α × S :=
  match p.runTo stage t s with
  | (.inr result, s) => (result, none, s)
  | (.inl t, s) =>
    match p.step t s with
    | (.inr result, s) =>
      let (a, s) := between s
      (result, some a, s)
    | (.inl t, s) =>
      let (a, s) := between s
      let (result, s) := p.run t s
      (result, some a, s)

end Process

end TypedConfig.Cache
