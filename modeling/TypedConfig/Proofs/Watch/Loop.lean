import TypedConfig.Proofs.Watch.Registry
import TypedConfig.Watch.Loop

/-!
What one step of the watch loop can do, case by case, and what a registry that forgets nothing means for
the deliveries that it is asked about.
-/

namespace TypedConfig.Watch

variable {r r' : Registry} {path : Path} {d : Delivery} {signal : Bool} {l l' : Loop}

/-! ### Relevance -/

theorem Registry.Extends.watches (h : r.Extends r') (hr : r.Sound) (hw : r.watches path = true) :
    r'.watches path = true := by
  unfold Registry.watches at hw ⊢
  split at hw
  · cases hw
  · split at hw
    · cases hw
    · rename_i dir _
      rw [hr.published] at hw
      rw [(h.sound hr).published]
      exact h.holds dir _ hw

/-- So a delivery that concerns a registered file when it arrives does when it is judged. -/
theorem Registry.Extends.isRelevant (h : r.Extends r') (hr : r.Sound) (hd : d.isRelevant r = true) :
    d.isRelevant r' = true := by
  cases d with
  | failure => cases hd
  | event e =>
    simp only [Delivery.isRelevant, Bool.and_eq_true, List.any_eq_true] at hd ⊢
    obtain ⟨hchange, path, hpath, hw⟩ := hd
    exact ⟨hchange, path, hpath, h.watches hr hw⟩

theorem isRelevant_event {e : Event} (hchange : e.change = .create ∨ e.change = .modify)
    (hpath : path ∈ e.paths) (hw : r.watches path = true) : (Delivery.event e).isRelevant r = true := by
  have htouches : e.change.touchesContents = true := by
    rcases hchange with h | h <;> rw [h] <;> rfl
  rw [Delivery.isRelevant, htouches, Bool.true_and, List.any_eq_true]
  exact ⟨path, hpath, hw⟩

/-! ### Steps -/

namespace Loop

/-- The steps of the loop: at the waiting point it stops, goes on waiting or takes a delivery; it takes the
rest of a batch and judges it; and it reloads or not. -/
inductive Steps (r : Registry) (signal : Bool) : Loop → Loop → Prop
  | stopped {q} (h : signal = true) : Steps r signal ⟨.waiting, q⟩ ⟨.stopped, q⟩
  | waited {q} (h : signal = false) (hnone : r.isEmpty = true ∨ q = []) :
      Steps r signal ⟨.waiting, q⟩ ⟨.waiting, q⟩
  | took {first q} (h : signal = false) (hsome : r.isEmpty = false) :
      Steps r signal ⟨.waiting, first :: q⟩ ⟨.settling first, q⟩
  | settled {first q} : Steps r signal ⟨.settling first, q⟩ ⟨.draining [first], q⟩
  | drained {batch d q} : Steps r signal ⟨.draining batch, d :: q⟩ ⟨.draining (batch ++ [d]), q⟩
  | batched {batch} : Steps r signal ⟨.draining batch, []⟩ ⟨.judging batch false, []⟩
  | judged {d left relevant q} :
      Steps r signal ⟨.judging (d :: left) relevant, q⟩ ⟨.judging left (relevant || d.isRelevant r), q⟩
  | launched {q} : Steps r signal ⟨.judging [] true, q⟩ ⟨.reloading, q⟩
  | dismissed {q} : Steps r signal ⟨.judging [] false, q⟩ ⟨.waiting, q⟩
  | reloaded {q} : Steps r signal ⟨.reloading, q⟩ ⟨.waiting, q⟩
  | ended {q} : Steps r signal ⟨.stopped, q⟩ ⟨.stopped, q⟩

theorem steps (r : Registry) (signal : Bool) (l : Loop) : Steps r signal l (l.next r signal) := by
  obtain ⟨stage, q⟩ := l
  cases stage with
  | waiting =>
    unfold next
    dsimp only
    split
    · exact .stopped ‹_›
    · rename_i hsignal
      simp only [Bool.not_eq_true] at hsignal
      split
      · exact .waited hsignal (.inl ‹_›)
      · rename_i hsome
        cases q with
        | nil => exact .waited hsignal (.inr rfl)
        | cons first q => exact .took hsignal (by simpa using hsome)
  | settling first => exact .settled
  | draining batch =>
    cases q with
    | nil => exact .batched
    | cons d q => exact .drained
  | judging left relevant =>
    cases left with
    | nil =>
      cases relevant with
      | true => exact .launched
      | false => exact .dismissed
    | cons d left => exact .judged
  | reloading => exact .reloaded
  | stopped => exact .ended

theorem next_of_reloading (h : l.stage = .reloading) (r : Registry) (signal : Bool) :
    l.next r signal = { l with stage := .waiting } := by
  simp only [next, h]

/-- A loop that has heard the signal comes to rest only when it has stopped. -/
theorem stage_of_next_eq (h : l.next r true = l) : l.stage = .stopped := by
  have hsteps := steps r true l
  generalize l.next r true = l' at h hsteps
  cases hsteps with
  | ended => rfl
  | waited hsignal | took hsignal => cases hsignal
  | stopped | settled | drained | batched | judged | launched | dismissed | reloaded => simp at h

/-- How many steps a queue leaves to do from the waiting point, at most. -/
def laterWork : List Delivery → Nat
  | [] => 1
  | _ :: rest => 2 * rest.length + 7

theorem laterWork_le (q : List Delivery) : 1 ≤ laterWork q ∧ laterWork q ≤ 2 * q.length + 5 := by
  cases q <;> simp only [laterWork, List.length_cons, List.length_nil] <;> omega

/-- How many steps the loop has to do until it waits with nothing left, at most. -/
def work (l : Loop) : Nat :=
  match l.stage with
  | .waiting => laterWork l.queue
  | .settling _ => 2 * l.queue.length + 6
  | .draining batch => 2 * l.queue.length + batch.length + 4
  | .judging left _ => left.length + 2 + laterWork l.queue
  | .reloading => 1 + laterWork l.queue
  | .stopped => 0

theorem work_le (l : Loop) : l.work ≤ l.stepsToRest := by
  obtain ⟨stage, q⟩ := l
  have hlater := laterWork_le q
  cases stage <;> simp only [work, stepsToRest, Stage.held, List.length_singleton] <;> omega

/-- A step that changes anything leaves less to do. -/
theorem Steps.work_lt (h : Steps r signal l l') : l' = l ∨ l'.work < l.work := by
  have hlater := laterWork_le l.queue
  cases h with
  | waited | ended => exact .inl rfl
  | stopped | took | settled | drained | batched | judged | launched | dismissed | reloaded =>
    refine .inr ?_
    simp only [work, laterWork, List.length_cons, List.length_append, List.length_nil] at hlater ⊢
    omega

end Loop

end TypedConfig.Watch
