import TypedConfig.Cache.Build
import TypedConfig.Cache.Process

/-!
Reloading. A pass takes the entries that may change as they stand when it starts, and resolves them
one after the other. An entry whose fingerprint is unchanged is kept; otherwise a new instance is made,
and it replaces the entry only if that very entry is still installed. A failure leaves the entry alone
and the pass goes on.
-/

namespace TypedConfig.Cache

/-- What a pass has done. -/
structure Report where
  reused : Nat
  replaced : Nat
  skipped : Nat
  failed : Nat
  deriving DecidableEq, Repr

/-- Nothing has been done. -/
def Report.zero : Report := ⟨0, 0, 0, 0⟩

/-- What became of an entry in a pass. -/
inductive Verdict where
  | reused
  | replaced
  | skipped
  | failed
  deriving DecidableEq, Repr

/-- The report with one more verdict. -/
def Report.add (r : Report) : Verdict → Report
  | .reused => { r with reused := r.reused + 1 }
  | .replaced => { r with replaced := r.replaced + 1 }
  | .skipped => { r with skipped := r.skipped + 1 }
  | .failed => { r with failed := r.failed + 1 }

/-- How far a pass has come: not begun, or with the first of the entries left in some phase. -/
inductive Reload where
  | start
  | checking (report : Report) (left : List (Key × Entry)) (phase : Phase)
  deriving DecidableEq, Repr

namespace Reload

variable {σ : Type}

/-- Whether the next step reads a file. -/
def readsNext : Reload → Bool
  | start => false
  | checking _ left phase => !left.isEmpty && phase.readsNext

/-- The entries that a pass looks at. -/
def snapshot (s : State σ) : List (Key × Entry) := s.entries.filter fun p => p.2.watchable

/-- Puts a new entry in the place of the one that the pass has looked at, if that one is still
there. -/
def swap (key : Key) (current replacement : Entry) (s : State σ) : Verdict × State σ :=
  match s.entry? key with
  | some installed =>
    if installed.inst.id = current.inst.id then
      (.replaced, { s with entries := State.swapEntry key replacement s.entries }.count
        (.builds current.descriptor.typeName .replaced))
    else (.skipped, s)
  | none => (.skipped, s)

/-- One step of looking at an entry: the next phase, or what became of the entry. -/
def check (setup : Setup σ) (key : Key) (current : Entry) (phase : Phase) (s : State σ) :
    (Phase ⊕ Verdict) × State σ :=
  match phase with
  | .made b i =>
    let (verdict, s) := swap key current (.new current.descriptor i b) s
    (.inr verdict, s)
  | phase =>
    match phase.next setup current.descriptor s with
    | (.error _, s) => (.inr .failed, s.count (.reloadErrors current.descriptor.typeName))
    | (.ok (.bound b), s) =>
      if b.fingerprint = current.fingerprint then
        (.inr .reused, s.count (.reuse current.descriptor.typeName))
      else (.inl (.bound b), s)
    | (.ok next, s) => (.inl next, s)

/-- One step of a pass. -/
def step (setup : Setup σ) (t : Reload) (s : State σ) : (Reload ⊕ Report) × State σ :=
  match t with
  | start =>
    (.inl (.checking .zero (snapshot s) .fresh),
      { s with passes := s.passes + 1 }.count .reloadPasses)
  | checking report [] _ => (.inr report, s)
  | checking report ((key, current) :: rest) phase =>
    match check setup key current phase s with
    | (.inl next, s) => (.inl (.checking report ((key, current) :: rest) next), s)
    | (.inr verdict, s) => (.inl (.checking (report.add verdict) rest .fresh), s)

/-- How many steps are left at most, once the entries are known. -/
def size : Reload → Nat × Nat
  | start => (1, 0)
  | checking _ left phase => (0, left.length * 5 + (4 - phase.rank))

theorem rank_check {setup : Setup σ} {key : Key} {current : Entry} {p q : Phase} {s r : State σ}
    (h : check setup key current p s = (.inl q, r)) : q.rank = p.rank + 1 ∧ p.rank < 4 := by
  have key : ∀ phase : Phase, phase.rank < 4 →
      q.rank = min (phase.rank + 1) 4 → q.rank = phase.rank + 1 ∧ phase.rank < 4 := by
    intro phase hp hq
    omega
  cases p with
  | made b i => simp [check] at h
  | _ =>
    refine key _ (by simp [Phase.rank]) ?_
    simp only [check] at h
    split at h
    · cases h
    · split at h <;> cases h
      exact Phase.rank_next ‹_›
    · cases h
      exact Phase.rank_next ‹_›

theorem size_step {setup : Setup σ} {t u : Reload} {s r : State σ}
    (e : step setup t s = (.inl u, r)) :
    Prod.Lex (· < ·) (· < ·) (size u) (size t) := by
  cases t with
  | start =>
    simp only [step] at e
    cases e
    exact Prod.Lex.left _ _ (by decide)
  | checking report left phase =>
    cases left with
    | nil => simp [step] at e
    | cons p rest =>
      simp only [step] at e
      split at e <;> cases e
      · obtain ⟨hr, hp⟩ := rank_check ‹_›
        refine Prod.Lex.right _ ?_
        simp only [List.length_cons]
        omega
      · refine Prod.Lex.right _ ?_
        have hp := phase.rank_le
        simp only [Phase.rank, List.length_cons]
        omega

/-- Reload passes as processes. -/
def process (setup : Setup σ) : Process Reload Report (State σ) :=
  ⟨step setup, size, fun _ _ _ _ => size_step⟩

end Reload

/-- Runs a reload pass while nothing else happens. -/
def State.reloadAll {σ : Type} (setup : Setup σ) (s : State σ) : Report × State σ :=
  (Reload.process setup).run .start s

end TypedConfig.Cache
