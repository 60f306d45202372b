import TypedConfig.Proofs.Service.Courses
import TypedConfig.Proofs.Watch.Loop

/-!
The watch loop of a service in operation. A delivery that concerns a registered file is in the queue, or held
by the loop, or it has been judged and the loop is going to reload, or a pass has begun since
(`exists_awaits`). So whenever the loop waits and nothing is left in its queue, a pass has come after every
such delivery (`no_delivery_lost`).
-/

namespace TypedConfig

open Cache (Task)
open Watch (Delivery Loop Registry)

namespace Course

variable {σ : Type} {c : Course σ} {n m k p place place' : Nat} {l l' : Loop} {d : Delivery}

/-! ### Moves of the loop -/

/-- The watch loop after the first moves, if there is one. -/
def loopAt (c : Course σ) (n : Nat) : Option Loop := (c.serviceAt n).loop

/-- The registry after the first moves. -/
def registryAt (c : Course σ) (n : Nat) : Registry := (c.serviceAt n).state.registry

/-- With a move the loop takes the first delivery of a batch. -/
def Takes (c : Course σ) (n : Nat) : Prop :=
  ∃ hears first q, c.moves[n]? = some (.loop hears) ∧ c.loopAt n = some ⟨.waiting, first :: q⟩ ∧
    c.loopAt (n + 1) = some ⟨.settling first, q⟩

/-- With a move the loop judges a delivery of its batch. -/
def Judges (c : Course σ) (n : Nat) (d : Delivery) : Prop :=
  ∃ hears left relevant q, c.moves[n]? = some (.loop hears) ∧
    c.loopAt n = some ⟨.judging (d :: left) relevant, q⟩

/-- With a move the loop begins a pass, at a place among the calls. -/
def Launches (c : Course σ) (n place : Nat) : Prop :=
  ∃ hears, c.moves[n]? = some (.loop hears) ∧ (c.after n).calls.length = place ∧
    (c.after (n + 1)).calls = (c.after n).calls ++ [.reloading .start]

theorem Launches.unique (h : c.Launches n place) (h' : c.Launches n place') : place = place' := by
  obtain ⟨_, -, hplace, -⟩ := h
  obtain ⟨_, -, hplace', -⟩ := h'
  exact hplace.symm.trans hplace'

theorem not_launches (h : (c.after (n + 1)).calls = (c.after n).calls) (place : Nat) :
    ¬ c.Launches n place := by
  rintro ⟨_, -, -, hcalls⟩
  have hlength := congrArg List.length (h.symm.trans hcalls)
  simp at hlength

/-- What a move does to a loop that has not stopped, before the service is shut down: nothing, or a delivery
arrives, or the loop takes a step. It begins a pass with one step only, and goes on after a pass only when
that has ended. -/
inductive LoopMoves (c : Course σ) (n : Nat) (l : Loop) : Prop
  | rests (h : c.loopAt (n + 1) = some l) (hpass : (c.after (n + 1)).pass = (c.after n).pass)
      (hnot : ∀ place, ¬ c.Launches n place) (hgiven : ∀ d, c.moves[n]? ≠ some (.deliver d))
  | given {d : Delivery} (hgiven : c.moves[n]? = some (.deliver d))
      (h : c.loopAt (n + 1) = some (l.deliver d)) (hpass : (c.after (n + 1)).pass = (c.after n).pass)
      (hnot : ∀ place, ¬ c.Launches n place)
  | goes {hears : Bool} {l' : Loop} (ha : c.moves[n]? = some (.loop hears))
      (h : c.loopAt (n + 1) = some l') (hsteps : Loop.Steps (c.registryAt n) false l l')
      (hstage : l'.stage ≠ .reloading) (hpass : (c.after (n + 1)).pass = (c.after n).pass)
      (hnot : ∀ place, ¬ c.Launches n place)
      (hended : l.stage = .reloading → (c.after n).passEnded = true)
  | launches {q : List Delivery} (hl : l = ⟨.judging [] true, q⟩)
      (h : c.loopAt (n + 1) = some ⟨.reloading, q⟩)
      (hpass : (c.after (n + 1)).pass = some (c.after n).calls.length)
      (hlaunch : c.Launches n (c.after n).calls.length)

theorem loopMoves (ho : c.Open (n + 1)) (hs : c.service.shutdown.triggered = false)
    (hl : c.loopAt n = some l) (hstage : l.stage ≠ .stopped) : c.LoopMoves n l := by
  have htriggered : (c.after n).service.shutdown.triggered = false :=
    ((ho.mono (Nat.le_succ n)).triggered_eq hs).1
  have hloop : (c.after n).service.loop = some l := hl
  -- moves after which all is as before
  have hrests : c.after (n + 1) = c.after n → (∀ d, c.moves[n]? ≠ some (.deliver d)) →
      c.LoopMoves n l := fun hsame hgiven =>
    .rests (by rw [loopAt, serviceAt, hsame]; exact hl) (by rw [hsame])
      (not_launches (by rw [hsame])) hgiven
  cases ha : c.moves[n]? with
  | none => exact hrests (after_succ_of_none ha) (by simp [ha])
  | some a =>
    have hafter : c.after (n + 1) = (c.after n).move a := after_succ ha
    -- moves that do not concern the loop
    have hapart : (∀ d, a ≠ .deliver d) → (∀ hears, a ≠ .loop hears) → a ≠ .join →
        c.LoopMoves n l := by
      intro hgiven hstep hjoin
      obtain ⟨hsame, hpass⟩ := ((c.after n).moved a).loop hgiven hstep hjoin
      rw [← hafter] at hsame hpass
      refine .rests (hsame.trans hl) hpass ?_ (by simpa [ha] using hgiven)
      rintro place ⟨hears, hmove, -⟩
      exact hstep hears (Option.some.inj (ha.symm.trans hmove))
    cases a with
    | deliver d =>
      refine .given ha ?_ (by rw [hafter]; rfl) (not_launches (by rw [hafter]; rfl))
      rw [loopAt, serviceAt, hafter]
      simp only [Operation.move, Service.deliver, hloop]
      rfl
    | loop hears =>
      have hsteps := (c.after n).loopSteps hears
      rw [Operation.move] at hafter
      rw [← hafter] at hsteps
      generalize hr : c.after (n + 1) = r at hsteps
      have hnext := Loop.steps (c.registryAt n) false l
      cases hsteps with
      | absent hnone =>
        rw [hnone] at hloop
        cases hloop
      | blocked => exact hrests hr (by simp [ha])
      | goes h hended hl' hnot =>
        obtain rfl := Option.some.inj (hloop.symm.trans h)
        rw [htriggered, Bool.and_false] at hl'
        refine .goes ha (by rw [loopAt, serviceAt, hr]) (hl' ▸ hnext) hnot (by rw [hr])
          (not_launches (by rw [hr])) hended
      | launches h hended hl' hreloading =>
        obtain rfl := Option.some.inj (hloop.symm.trans h)
        rw [htriggered, Bool.and_false] at hl'
        rw [registryAt, serviceAt, ← hl'] at hnext
        cases hnext with
        | launched =>
          exact .launches rfl (by rw [loopAt, serviceAt, hr]) (by rw [hr]) ⟨hears, ha, rfl, by rw [hr]⟩
        | stopped | waited | took | settled | drained | batched | judged | dismissed | reloaded
        | ended => cases hreloading
    | join =>
      have hsame : (c.after n).join = c.after n := by
        unfold Operation.join
        split
        · rename_i hstopped
          rw [hloop] at hstopped
          cases hstopped
          exact absurd rfl hstage
        · rfl
      exact hrests (hafter.trans hsame) (by simp [ha])
    | shutDown => exact absurd ha (ho n (Nat.lt_succ_self n))
    | get | reload | turn | invalidate | clear | close | world =>
      exact hapart (by simp) (by simp) (by simp)

/-! ### The loop goes on -/

section Open

variable {setup : Cache.Setup σ} {world : σ} {metrics : Bool}

/-- The service watches files when it starts. -/
structure Watches (c : Course σ) (setup : Cache.Setup σ) (world : σ) (metrics : Bool) : Prop where
  starts : c.service.Starts setup world metrics
  triggered : c.service.shutdown.triggered = false
  loop : c.service.loop = some .start

/-- **Only a shutdown ends the loop.** -/
theorem Watches.exists_loopAt (hw : c.Watches setup world metrics) (ho : c.Open n) :
    ∃ l, c.loopAt n = some l ∧ l.stage ≠ .stopped := by
  induction n with
  | zero => exact ⟨.start, hw.loop, by simp [Loop.start]⟩
  | succ n ih =>
    obtain ⟨l, hl, hstage⟩ := ih (ho.mono (Nat.le_succ n))
    cases loopMoves ho hw.triggered hl hstage with
    | rests h => exact ⟨l, h, hstage⟩
    | given _ h => exact ⟨_, h, hstage⟩
    | goes _ h hsteps =>
      refine ⟨_, h, ?_⟩
      cases hsteps with
      | stopped hsignal => cases hsignal
      | ended => exact hstage
      | waited | took | settled | drained | batched | judged | launched | dismissed | reloaded => simp
    | launches _ h => exact ⟨_, h, by simp⟩

/-- A registered file is not forgotten until the service is shut down. -/
theorem Watches.extends (hw : c.Watches setup world metrics) (ho : c.Open n) (hm : m ≤ n) :
    (c.registryAt m).Sound ∧ (c.registryAt m).Extends (c.registryAt n) := by
  have hm' := (ho.mono hm).attended hw.starts hw.triggered
  have hn := (ho.attended hw.starts hw.triggered).extends (Nat.succ_le_succ hm)
  have hsound := hm'.sound
  rw [state_history hw.starts] at hn hsound
  rw [state_history hw.starts] at hn
  exact ⟨hsound, hn⟩

/-- Where a delivery is that concerned a registered file when it arrived: it is in the queue, or the loop
holds it, or the loop is going to reload, or a pass has begun since. -/
inductive Awaits (c : Course σ) (n k : Nat) (d : Delivery) (l : Loop) : Prop
  | queued (h : d ∈ l.queue)
  | held (h : d ∈ l.stage.held)
  | alarmed (left : List Delivery) (h : l.stage = .judging left true)
  | launched (p place : Nat) (hk : k < p) (hp : p < n) (h : c.Launches p place)

theorem Awaits.mono (h : c.Awaits n k d l) : c.Awaits (n + 1) k d l := by
  cases h with
  | queued h => exact .queued h
  | held h => exact .held h
  | alarmed left h => exact .alarmed left h
  | launched p place hk hp h => exact .launched p place hk (hp.trans (Nat.lt_succ_self n)) h

/-- A step of the loop loses no delivery that is relevant when it is judged. -/
theorem Awaits.steps (h : c.Awaits n k d l) (hs : Loop.Steps (c.registryAt n) false l l')
    (hd : d.isRelevant (c.registryAt n) = true) (hstage : l'.stage ≠ .reloading) :
    c.Awaits (n + 1) k d l' := by
  cases h.mono with
  | launched p place hk hp h => exact .launched p place hk hp h
  | queued h =>
    cases hs with
    | stopped hsignal => cases hsignal
    | took =>
      rcases List.mem_cons.1 h with rfl | h
      · exact .held List.mem_cons_self
      · exact .queued h
    | drained =>
      rcases List.mem_cons.1 h with rfl | h
      · exact .held (by simp [Watch.Stage.held])
      · exact .queued h
    | batched => cases h
    | waited | settled | judged | launched | dismissed | reloaded | ended => exact .queued h
  | held h =>
    cases hs with
    | stopped hsignal => cases hsignal
    | settled | batched => exact .held h
    | drained => exact .held (List.mem_append_left _ h)
    | @judged _ left relevant =>
      rcases List.mem_cons.1 h with heq | h
      · refine .alarmed left ?_
        rw [← heq, hd, Bool.or_true]
      · exact .held h
    | waited | took | launched | dismissed | reloaded | ended => cases h
  | alarmed left h =>
    cases hs with
    | judged =>
      cases h
      exact .alarmed _ rfl
    | launched => exact absurd rfl hstage
    | stopped | waited | took | settled | drained | batched | dismissed | reloaded | ended => cases h

/-- **No delivery that concerns a registered file is lost.** -/
theorem Watches.exists_awaits (hw : c.Watches setup world metrics) (ho : c.Open n) (hk : k < n)
    (hgiven : c.moves[k]? = some (.deliver d)) (hd : d.isRelevant (c.registryAt k) = true) :
    ∃ l, c.loopAt n = some l ∧ c.Awaits n k d l := by
  induction n, hk using Nat.le_induction with
  | base =>
    obtain ⟨l, hl, hstage⟩ := hw.exists_loopAt (ho.mono (Nat.le_succ k))
    cases loopMoves ho hw.triggered hl hstage with
    | given hgiven' h =>
      rw [hgiven] at hgiven'
      cases hgiven'
      exact ⟨_, h, .queued (by simp [Loop.deliver])⟩
    | rests _ _ _ hnone => exact absurd hgiven (hnone d)
    | goes ha =>
      rw [hgiven] at ha
      cases ha
    | launches _ _ _ hlaunch =>
      obtain ⟨_, ha, -⟩ := hlaunch
      rw [hgiven] at ha
      cases ha
  | succ n hkn ih =>
    obtain ⟨l, hl, hawaits⟩ := ih (ho.mono (Nat.le_succ n))
    obtain ⟨l', hl', hstage⟩ := hw.exists_loopAt (ho.mono (Nat.le_succ n))
    obtain rfl : l = l' := Option.some.inj (hl.symm.trans hl')
    cases loopMoves ho hw.triggered hl hstage with
    | rests h => exact ⟨l, h, hawaits.mono⟩
    | given _ h =>
      refine ⟨_, h, ?_⟩
      cases hawaits.mono with
      | queued h => exact .queued (List.mem_append_left _ h)
      | held h => exact .held h
      | alarmed left h => exact .alarmed left h
      | launched p place hk hp h => exact .launched p place hk hp h
    | goes _ h hsteps hreloading =>
      obtain ⟨hsound, hextends⟩ := hw.extends (ho.mono (Nat.le_succ n)) (Nat.le_of_succ_le hkn)
      exact ⟨_, h, hawaits.steps hsteps (hextends.isRelevant hsound hd) hreloading⟩
    | launches _ h _ hlaunch =>
      exact ⟨_, h, .launched n _ hkn (Nat.lt_succ_self n) hlaunch⟩

theorem Watches.call?_of_finished (hw : c.Watches setup world metrics) {t : Task} (ht : t.Finished)
    (hm : c.call? m place = some t) (hmn : m ≤ n) : c.call? n place = some t := by
  rw [← task?_history hw.starts] at hm ⊢
  exact Cache.History.task?_of_finished ht hm (Nat.succ_le_succ hmn)

/-- **A pass that the loop has begun has ended when the loop goes on.** -/
theorem Watches.launched (hw : c.Watches setup world metrics) (ho : c.Open n) (hp : p < n)
    (hlaunch : c.Launches p place) :
    (∃ report, c.call? n place = some (.reloaded report)) ∨
      (∃ q, c.loopAt n = some ⟨.reloading, q⟩) ∧ (c.after n).pass = some place := by
  induction n, hp using Nat.le_induction with
  | base =>
    obtain ⟨l, hl, hstage⟩ := hw.exists_loopAt (ho.mono (Nat.le_succ p))
    cases loopMoves ho hw.triggered hl hstage with
    | rests _ _ hnot | given _ _ _ hnot | goes _ _ _ _ _ hnot => exact absurd hlaunch (hnot place)
    | launches _ h hpass hlaunch' =>
      obtain rfl := hlaunch.unique hlaunch'
      exact .inr ⟨⟨_, h⟩, hpass⟩
  | succ n _ ih =>
    rcases ih (ho.mono (Nat.le_succ n)) with ⟨report, hcall⟩ | ⟨⟨q, hl⟩, hpass⟩
    · exact .inl ⟨report, hw.call?_of_finished (.reloaded report) hcall (Nat.le_succ n)⟩
    · cases loopMoves ho hw.triggered hl (by simp) with
      | rests h hpass' => exact .inr ⟨⟨_, h⟩, hpass'.trans hpass⟩
      | given _ h hpass' => exact .inr ⟨⟨_, h⟩, hpass'.trans hpass⟩
      | goes _ _ _ _ _ _ hended =>
        have hended := hended rfl
        simp only [Operation.passEnded, hpass, Option.bind_some] at hended
        split at hended
        · rename_i report hcall
          exact .inl ⟨report, hw.call?_of_finished (.reloaded report) hcall (Nat.le_succ n)⟩
        · cases hended
      | launches heq => cases heq

/-- Since a move the loop has been at work on the batch that it has taken with it: it has not come back to
the waiting point, it has begun no pass unless it is reloading now, and if it is going to reload, or does so,
it has judged a delivery that concerned a registered file. -/
structure Working (c : Course σ) (n t : Nat) (l : Loop) : Prop where
  lt : t < n
  takes : c.Takes t
  away : ∀ m l, t < m → m ≤ n → c.loopAt m = some l → l.stage ≠ .waiting
  none : l.stage ≠ .reloading → ∀ p place, t ≤ p → p < n → ¬ c.Launches p place
  relevant : l.stage = .reloading ∨ (∃ left, l.stage = .judging left true) →
    ∃ j d, t < j ∧ j < n ∧ c.Judges j d ∧ d.isRelevant (c.registryAt j) = true

variable {t : Nat}

/-- The loop is still at work if a move does not take it to the waiting point. -/
theorem Working.succ (h : c.Working n t l) (hl : c.loopAt (n + 1) = some l') (hstage : l'.stage ≠ .waiting)
    (hnone : l'.stage ≠ .reloading → l.stage ≠ .reloading ∧ ∀ place, ¬ c.Launches n place)
    (hrelevant : l'.stage = .reloading ∨ (∃ left, l'.stage = .judging left true) →
      (l.stage = .reloading ∨ ∃ left, l.stage = .judging left true) ∨
        ∃ d, c.Judges n d ∧ d.isRelevant (c.registryAt n) = true) :
    c.Working (n + 1) t l' where
  lt := h.lt.trans (Nat.lt_succ_self n)
  takes := h.takes
  away m l'' hm hmn hl'' := by
    rcases Nat.le_succ_iff.1 hmn with hmn | rfl
    · exact h.away m l'' hm hmn hl''
    · rw [hl] at hl''
      exact Option.some.inj hl'' ▸ hstage
  none hl' p place hp hpn hlaunch := by
    obtain ⟨hreloading, hnot⟩ := hnone hl'
    rcases Nat.lt_succ_iff_lt_or_eq.1 hpn with hpn | rfl
    · exact h.none hreloading p place hp hpn hlaunch
    · exact hnot place hlaunch
  relevant hl' := by
    rcases hrelevant hl' with hbefore | ⟨d, hjudges, hd⟩
    · obtain ⟨j, d, hj, hjn, hjudges, hd⟩ := h.relevant hbefore
      exact ⟨j, d, hj, hjn.trans (Nat.lt_succ_self n), hjudges, hd⟩
    · exact ⟨n, d, h.lt, Nat.lt_succ_self n, hjudges, hd⟩

/-- **Away from the waiting point the loop is at work on one batch.** -/
theorem Watches.exists_working (hw : c.Watches setup world metrics) (ho : c.Open n)
    (hl : c.loopAt n = some l) (hstage : l.stage ≠ .waiting) : ∃ t, c.Working n t l := by
  induction n generalizing l with
  | zero =>
    obtain rfl : Loop.start = l := Option.some.inj (hw.loop.symm.trans hl)
    exact absurd rfl hstage
  | succ n ih =>
    obtain ⟨l₀, hl₀, hstop⟩ := hw.exists_loopAt (ho.mono (Nat.le_succ n))
    have ih := ih (ho.mono (Nat.le_succ n)) hl₀
    cases loopMoves ho hw.triggered hl₀ hstop with
    | rests h _ hnot =>
      obtain rfl := Option.some.inj (hl.symm.trans h)
      obtain ⟨t, ht⟩ := ih hstage
      exact ⟨t, ht.succ hl hstage (fun hr => ⟨hr, hnot⟩) .inl⟩
    | given _ h _ hnot =>
      obtain rfl := Option.some.inj (hl.symm.trans h)
      obtain ⟨t, ht⟩ := ih hstage
      exact ⟨t, ht.succ hl hstage (fun hr => ⟨hr, hnot⟩) .inl⟩
    | goes ha h hsteps hreloading _ hnot =>
      obtain rfl := Option.some.inj (hl.symm.trans h)
      cases hsteps with
      | stopped hsignal => cases hsignal
      | waited | dismissed | reloaded => exact absurd rfl hstage
      | ended => exact absurd rfl hstop
      | launched => exact absurd rfl hreloading
      | took =>
        refine ⟨n, Nat.lt_succ_self n, ⟨_, _, _, ha, hl₀, hl⟩, fun m l hm hmn hm' => ?_,
          fun _ p place hp hpn => ?_, by simp⟩
        · obtain rfl : m = n + 1 := by omega
          rw [hl] at hm'
          exact Option.some.inj hm' ▸ hstage
        · obtain rfl : p = n := by omega
          exact hnot place
      | settled | drained | batched =>
        obtain ⟨t, ht⟩ := ih (by simp)
        exact ⟨t, ht.succ hl hstage (fun _ => ⟨by simp, hnot⟩) (by simp)⟩
      | @judged d left relevant q =>
        obtain ⟨t, ht⟩ := ih (by simp)
        refine ⟨t, ht.succ hl hstage (fun _ => ⟨by simp, hnot⟩) fun halarmed => ?_⟩
        cases relevant with
        | true => exact .inl (.inr ⟨_, rfl⟩)
        | false => exact .inr ⟨d, ⟨_, _, _, _, ha, hl₀⟩, by simpa using halarmed⟩
    | launches heq h _ hlaunch =>
      obtain rfl := Option.some.inj (hl.symm.trans h)
      subst heq
      obtain ⟨t, ht⟩ := ih (by simp)
      exact ⟨t, ht.succ hl hstage (absurd rfl) fun _ => .inl (.inr ⟨_, rfl⟩)⟩

/-- A pass is begun at the end of a batch. -/
theorem Watches.exists_working_of_launches (hw : c.Watches setup world metrics) (ho : c.Open n)
    (hp : p < n) (hlaunch : c.Launches p place) :
    ∃ l t, l.stage = .judging [] true ∧ c.Working p t l := by
  obtain ⟨l, hl, hstop⟩ := hw.exists_loopAt (ho.mono hp.le)
  cases loopMoves (ho.mono hp) hw.triggered hl hstop with
  | rests _ _ hnot | given _ _ _ hnot | goes _ _ _ _ _ hnot => exact absurd hlaunch (hnot place)
  | launches heq =>
    subst heq
    obtain ⟨t, ht⟩ := hw.exists_working (ho.mono hp.le) hl (by simp)
    exact ⟨_, t, rfl, ht⟩

end Open

theorem watches_of_start {out : Surroundings σ} {world : σ} {runtime : Bool} {settings : Settings}
    (hs : Service.start out world runtime settings = .ok c.service) (hw : settings.watch.enabled = true) :
    c.Watches (settings.setup out) world settings.observability.metrics := by
  obtain ⟨htriggered, hloop⟩ := Service.loop_of_start hs
  exact ⟨Service.starts_of_start hs, htriggered, by rw [hloop, if_pos hw]⟩

/-- **The watch loop loses no relevant delivery.** Take a service that has started with a watch loop, and
anything that happens to it before it is shut down: deliveries and errors of the watcher, files that are
registered by the calls under way, and steps of the loop. The loop has not ended. Whenever it waits and its
queue is empty, every delivery of a create or modify event on a path that was registered when the event was
delivered has been followed by a pass that the loop has begun after it and that has ended. A pass is begun
at the end of a batch in which a delivery has been judged to concern a registered file, and between two
passes a new batch has been taken. -/
theorem no_delivery_lost (c : Course σ) {out : Surroundings σ} {world : σ} {runtime : Bool}
    {settings : Settings} (hs : Service.start out world runtime settings = .ok c.service)
    (hw : settings.watch.enabled = true) {n : Nat} (ho : c.Open n) :
    (∃ l, c.loopAt n = some l ∧ l.stage ≠ .stopped) ∧
    (c.loopAt n = some ⟨.waiting, []⟩ → ∀ k e path, k < n → c.moves[k]? = some (.deliver (.event e)) →
      e.change = .create ∨ e.change = .modify → path ∈ e.paths → (c.registryAt k).watches path = true →
      ∃ p place report, k < p ∧ p < n ∧ c.Launches p place ∧
        c.call? n place = some (.reloaded report)) ∧
    (∀ p place, p < n → c.Launches p place → ∃ t j d, t < j ∧ j < p ∧ c.Takes t ∧
      (∀ m l, t < m → m ≤ p → c.loopAt m = some l → l.stage ≠ .waiting) ∧
      c.Judges j d ∧ d.isRelevant (c.registryAt j) = true) ∧
    ∀ p p' place place', p < p' → p' < n → c.Launches p place → c.Launches p' place' →
      ∃ t, p < t ∧ t < p' ∧ c.Takes t := by
  have hwatches := watches_of_start hs hw
  refine ⟨hwatches.exists_loopAt ho, ?_, ?_, ?_⟩
  · intro hl k e path hk hgiven hchange hpath hpathWatched
    obtain ⟨l, hl', hawaits⟩ := hwatches.exists_awaits ho hk hgiven
      (Watch.isRelevant_event hchange hpath hpathWatched)
    obtain rfl : ⟨.waiting, []⟩ = l := Option.some.inj (hl.symm.trans hl')
    cases hawaits with
    | queued h => cases h
    | held h => cases h
    | alarmed left h => cases h
    | launched p place hkp hp hlaunch =>
      rcases hwatches.launched ho hp hlaunch with ⟨report, hcall⟩ | ⟨⟨q, hreloading⟩, -⟩
      · exact ⟨p, place, report, hkp, hp, hlaunch, hcall⟩
      · rw [hl] at hreloading
        cases hreloading
  · intro p place hp hlaunch
    obtain ⟨l, t, hstage, hworking⟩ := hwatches.exists_working_of_launches ho hp hlaunch
    obtain ⟨j, d, htj, hjp, hjudges, hd⟩ := hworking.relevant (.inr ⟨[], hstage⟩)
    exact ⟨t, j, d, htj, hjp, hworking.takes, hworking.away, hjudges, hd⟩
  · intro p p' place place' hpp hp' hlaunch hlaunch'
    obtain ⟨l, t, hstage, hworking⟩ := hwatches.exists_working_of_launches ho hp' hlaunch'
    refine ⟨t, ?_, hworking.lt, hworking.takes⟩
    by_contra hle
    exact hworking.none (by simp [hstage]) p place (Nat.le_of_not_lt hle) hpp hlaunch

end Course

/-! ### Two batches -/

section Flag

open Cache (flagDeclaration)
open Watch (Change)

/-- The file of the flag, as the watcher names it. -/
def flagPath : Path := ⟨"/flags.properties"⟩

def flagChanged (change : Change) : Delivery := .event ⟨change, [flagPath]⟩

/-- The file is edited after a get, and the watcher reports an error and the edit. While the pass runs that
the edit leads to, the file is made anew. -/
def twoBatches : Course String where
  service := flagService
  moves := [.get 0 flagDeclaration, .turn 0, .turn 0, .turn 0, .turn 0, .turn 0, .turn 0,
    .world "f=false\n", .deliver .failure, .deliver (flagChanged .modify), .loop true, .loop true,
    .loop true, .loop true, .loop true, .loop true, .loop true, .turn 1, .turn 1,
    .deliver (flagChanged .create), .loop true, .turn 1, .turn 1, .turn 1, .turn 1, .turn 1, .loop true,
    .loop true, .loop true, .loop true, .loop true, .loop true, .turn 2, .turn 2, .turn 2, .turn 2,
    .turn 2, .loop true]

theorem open_twoBatches : twoBatches.Open 38 := fun k _ hk => by
  have hmem := List.mem_of_getElem? hk
  simp [twoBatches] at hmem

theorem launches_twoBatches : twoBatches.Launches 16 1 ∧ twoBatches.Launches 31 2 :=
  ⟨⟨true, rfl, by decide +kernel, by decide +kernel⟩, true, rfl, by decide +kernel, by decide +kernel⟩

theorem no_delivery_lost_flag :
    twoBatches.Open 38 ∧ twoBatches.loopAt 38 = some ⟨.waiting, []⟩ ∧
    (∃ p place report, 9 < p ∧ p < 38 ∧ twoBatches.Launches p place ∧
      twoBatches.call? 38 place = some (.reloaded report)) ∧
    (∃ p place report, 19 < p ∧ p < 38 ∧ twoBatches.Launches p place ∧
      twoBatches.call? 38 place = some (.reloaded report)) ∧
    (∃ t j d, t < j ∧ j < 16 ∧ twoBatches.Takes t ∧ twoBatches.Judges j d ∧
      d.isRelevant (twoBatches.registryAt j) = true) ∧
    ∃ t, 16 < t ∧ t < 31 ∧ twoBatches.Takes t := by
  have hloop : twoBatches.loopAt 38 = some ⟨.waiting, []⟩ := by decide +kernel
  have hwatched : (twoBatches.registryAt 9).watches flagPath = true ∧
      (twoBatches.registryAt 19).watches flagPath = true := by decide +kernel
  obtain ⟨-, hlost, hbatch, hbatches⟩ :=
    Course.no_delivery_lost twoBatches start_flagSettings rfl open_twoBatches
  obtain ⟨t, j, d, htj, hj, ht, -, hjudges, hd⟩ := hbatch 16 1 (by decide) launches_twoBatches.1
  exact ⟨open_twoBatches, hloop,
    hlost hloop 9 _ flagPath (by decide) rfl (.inr rfl) List.mem_cons_self hwatched.1,
    hlost hloop 19 _ flagPath (by decide) rfl (.inl rfl) List.mem_cons_self hwatched.2,
    ⟨t, j, d, htj, hj, ht, hjudges, hd⟩,
    hbatches 16 31 1 2 (by decide) (by decide) launches_twoBatches.1 launches_twoBatches.2⟩

end Flag

end TypedConfig
