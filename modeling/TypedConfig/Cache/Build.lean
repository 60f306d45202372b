import TypedConfig.Cache.State

/-!
Building an instance, step by step: follow the locator and register the file, read the file, convert
the texts, make the instance. Only the first, the second and the last step touch what is shared.
-/

namespace TypedConfig.Cache

open Contract (Descriptor)
open Resolution (Approach Observation Binding)

/-- How far a build has come. -/
inductive Phase where
  | fresh
  | approached (a : Approach)
  | observed (o : Observation)
  | bound (b : Binding)
  | made (b : Binding) (i : Instance)
  deriving DecidableEq, Repr

namespace Phase

variable {σ : Type}

/-- How many steps a build has taken. -/
def rank : Phase → Nat
  | fresh => 0
  | approached _ => 1
  | observed _ => 2
  | bound _ => 3
  | made _ _ => 4

theorem rank_le (p : Phase) : p.rank ≤ 4 := by
  cases p <;> simp [rank]

/-- Whether the next step reads a file. -/
def readsNext : Phase → Bool
  | approached a => a.path?.isSome
  | _ => false

/-- Makes the instance for a binding, and dumps its module if that is asked for. -/
def make (setup : Setup σ) (d : Descriptor) (b : Binding) (s : State σ) :
    Except CacheError Phase × State σ :=
  let (assembled, outcome) := setup.factory.produce (s.begun + 1) d b
  let world :=
    match setup.dumpDirectory, assembled with
    | some directory, some m => setup.out.dump s.world directory (Module.dumpName m.typeName) m.bytes
    | _, _ => s.world
  let s := { s with world, begun := s.begun + 1 }
  match outcome with
  | .error e => (.error (.production e), s)
  | .ok table =>
    (.ok (.made b ⟨s.activated + 1, table⟩), { s with activated := s.activated + 1 })

/-- The next step of a build. A build that is finished stays so. -/
def next (setup : Setup σ) (d : Descriptor) (s : State σ) :
    Phase → Except CacheError Phase × State σ
  | fresh =>
    let (a, registry) :=
      Resolution.approach setup.out setup.locator s.world s.registry d.locator
    (.ok (.approached a), { s with registry })
  | approached a => (.ok (.observed (a.observe setup.out s.world)), s)
  | observed o =>
    match o.bind d with
    | .ok b => (.ok (.bound b), s)
    | .error e => (.error (.resolution e), s)
  | bound b => make setup d b s
  | made b i => (.ok (.made b i), s)

/-- A build that goes on has come one step further, unless it is finished. -/
theorem rank_next {setup : Setup σ} {d : Descriptor} {s r : State σ} {p q : Phase}
    (h : next setup d s p = (.ok q, r)) : q.rank = min (p.rank + 1) 4 := by
  cases p with
  | fresh =>
    simp only [next] at h
    cases h; rfl
  | approached a =>
    simp only [next] at h
    cases h; rfl
  | observed o =>
    simp only [next] at h
    split at h <;> cases h
    rfl
  | bound b =>
    simp only [next, make] at h
    split at h <;> cases h
    rfl
  | made b i =>
    simp only [next] at h
    cases h; rfl

end Phase

end TypedConfig.Cache
