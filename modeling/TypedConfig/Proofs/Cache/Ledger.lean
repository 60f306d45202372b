import Mathlib.Algebra.BigOperators.Finprod
import Mathlib.Data.Nat.Count
import TypedConfig.Proofs.Cache.Gets
import TypedConfig.Proofs.Contract.Declared

/-!
What the metrics say of a run. A step of a call counts once at most, by what it does (`Task.Counts`), and
the gauge is set whenever the number of entries changes. So in every run each counter is the number of
the events that it is named for, and the gauge, once it has been set, is the size of the cache
(`ledger_exact`).
-/

namespace TypedConfig.Cache

open Contract (Declaration Descriptor)
open Resolution (Binding)

/-! ### Ledgers -/

namespace Ledger

variable {l : Ledger} {c d : Counter}

theorem lookup_bumpIn (c d : Counter) (counts : List (Counter × Nat)) :
    ((bumpIn c counts).lookup d).getD 0 = (counts.lookup d).getD 0 + if c = d then 1 else 0 := by
  induction counts with
  | nil =>
    by_cases h : c = d
    · subst h
      simp [bumpIn]
    · have hne : (d == c) = false := beq_eq_false_iff_ne.2 (Ne.symm h)
      simp [bumpIn, List.lookup_cons, h, hne]
  | cons p rest ih =>
    obtain ⟨e, n⟩ := p
    by_cases he : e = c
    · subst he
      by_cases h : e = d
      · subst h
        simp [bumpIn]
      · have hne : (d == e) = false := beq_eq_false_iff_ne.2 (Ne.symm h)
        simp [bumpIn, List.lookup_cons, h, hne]
    · by_cases h : d = e
      · subst h
        simp [bumpIn, he, Ne.symm he]
      · have hne : (d == e) = false := beq_eq_false_iff_ne.2 h
        simp only [bumpIn, if_neg he, List.lookup_cons, hne, ih]

theorem total_bump (h : l.enabled = true) (c d : Counter) :
    (l.bump c).total d = l.total d + if c = d then 1 else 0 := by
  rw [bump, if_pos h]
  exact lookup_bumpIn c d l.counts

theorem bump_of_disabled (h : l.enabled = false) (c : Counter) : l.bump c = l := by
  simp [bump, h]

theorem setGauge_of_disabled (h : l.enabled = false) (size : Nat) : l.setGauge size = l := by
  simp [setGauge, h]

@[simp] theorem enabled_bump (l : Ledger) (c : Counter) : (l.bump c).enabled = l.enabled := by
  unfold bump
  split <;> rfl

@[simp] theorem enabled_setGauge (l : Ledger) (size : Nat) :
    (l.setGauge size).enabled = l.enabled := by
  unfold setGauge
  split <;> rfl

@[simp] theorem gauge_bump (l : Ledger) (c : Counter) : (l.bump c).gauge = l.gauge := by
  unfold bump
  split <;> rfl

@[simp] theorem total_setGauge (l : Ledger) (size : Nat) (c : Counter) :
    (l.setGauge size).total c = l.total c := by
  unfold setGauge
  split <;> rfl

theorem gauge_setGauge (h : l.enabled = true) (size : Nat) : (l.setGauge size).gauge = some size := by
  simp [setGauge, h]

theorem finite_support_total (l : Ledger) {kind : String → Counter} (hkind : Function.Injective kind) :
    (Function.support fun c => l.total (kind c)).Finite := by
  refine ((List.finite_toSet (l.counts.map Prod.fst)).preimage hkind.injOn).subset fun c hc => ?_
  simp only [Function.mem_support, total] at hc
  cases hlookup : l.counts.lookup (kind c) with
  | none => simp [hlookup] at hc
  | some n =>
    obtain ⟨l₁, l₂, hcounts, -⟩ := List.lookup_eq_some_iff.1 hlookup
    rw [Set.mem_preimage, hcounts]
    simp

end Ledger

/-! ### What a step counts -/

/-- The counter of a verdict on an entry of a contract. A swap that is skipped is not counted. -/
def Verdict.counter? (contract : String) : Verdict → Option Counter
  | .reused => some (.reuse contract)
  | .replaced => some (.builds contract .replaced)
  | .skipped => none
  | .failed => some (.reloadErrors contract)

theorem Verdict.counter?_inj {v w : Verdict} {c d : String} {k : Counter}
    (hv : v.counter? c = some k) (hw : w.counter? d = some k) : v = w ∧ c = d := by
  cases v <;> cases hv <;> cases w <;> cases hw <;> exact ⟨rfl, rfl⟩

theorem CacheError.outcome_ne_replaced (e : CacheError) : e.outcome ≠ .replaced := by
  cases e <;> nofun

/-- The report of a pass so far. Other calls have nothing to report. -/
def Task.report : Task → Report
  | .reloading (.checking report _ _) | .reloaded report => report
  | _ => .zero

/-- How many instances of a contract a get has made and has yet to install. -/
def Task.holding (c : String) : Task → Nat
  | .getting (.building _ d (.made _ _)) => if d.typeName = c then 1 else 0
  | _ => 0

@[simp] theorem Task.holding_made (c : String) (key : Key) (d : Descriptor) (b : Binding) (i : Instance) :
    Task.holding c (.getting (.building key d (.made b i))) = if d.typeName = c then 1 else 0 := rfl

@[simp] theorem Task.holding_got (c : String) (key : Key) (result : Except CacheError Instance) :
    Task.holding c (.got key result) = 0 := rfl

theorem Task.holding_of_rank_lt {phase : Phase} (hp : phase.rank < 4) (c : String) (key : Key)
    (d : Descriptor) : Task.holding c (.getting (.building key d phase)) = 0 := by
  cases phase with
  | made => simp [Phase.rank] at hp
  | fresh | approached | observed | bound => rfl

/-- What a call counts when it goes from one stage to another. A get counts an instance when it has made
it, and a failure when it ends in it; a pass counts itself when it takes its snapshot, and then its
verdicts. -/
inductive Task.Counts : Task → Task → Option Counter → Prop
  | hit {key declared i} : Counts (.getting (.lookup key declared)) (.got key (.ok i)) none
  | refused {key e} {declared : Declaration} :
      Counts (.getting (.lookup key declared)) (.got key (.error e))
        (some (.builds declared.typeName e.outcome))
  | begun {key declared d} :
      Counts (.getting (.lookup key declared)) (.getting (.building key d .fresh)) none
  | went {key d phase phase'} (hp : phase.rank < 4) (hp' : phase'.rank < 4) :
      Counts (.getting (.building key d phase)) (.getting (.building key d phase')) none
  | made {key d phase b i} (hp : phase.rank < 4) :
      Counts (.getting (.building key d phase)) (.getting (.building key d (.made b i)))
        (some (.builds d.typeName .built))
  | failed {key d phase e} (hp : phase.rank < 4) :
      Counts (.getting (.building key d phase)) (.got key (.error e))
        (some (.builds d.typeName e.outcome))
  | installed {key d b i i'} :
      Counts (.getting (.building key d (.made b i))) (.got key (.ok i')) none
  | taken {left} :
      Counts (.reloading .start) (.reloading (.checking .zero left .fresh)) (some .reloadPasses)
  | looked {report left phase phase'} :
      Counts (.reloading (.checking report left phase)) (.reloading (.checking report left phase')) none
  | judged {report key current rest phase} (v : Verdict) :
      Counts (.reloading (.checking report ((key, current) :: rest) phase))
        (.reloading (.checking (report.add v) rest .fresh)) (v.counter? current.descriptor.typeName)
  | ended {report phase} : Counts (.reloading (.checking report [] phase)) (.reloaded report) none
  | stays {t} (ht : t.Finished) : Counts t t none

/-- What a verdict counts is counted when a pass comes to it, for the contract of the entry. -/
theorem Task.Counts.verdict_iff {t u : Task} {counted : Option Counter} {v : Verdict} {c : String}
    {k : Counter} (hc : t.Counts u counted) (hv : v.counter? c = some k) :
    counted = some k ↔ ∃ report key current rest phase,
      t = .reloading (.checking report ((key, current) :: rest) phase) ∧
        u = .reloading (.checking (report.add v) rest .fresh) ∧ current.descriptor.typeName = c := by
  constructor
  · have hbuilds : ∀ c' o, o ≠ .replaced → some (Counter.builds c' o) ≠ some k := by
      rintro c' o ho ⟨⟩
      cases v <;> cases hv
      exact ho rfl
    intro hk
    cases hc with
    | judged v' =>
      obtain ⟨rfl, rfl⟩ := Verdict.counter?_inj hk hv
      exact ⟨_, _, _, _, _, rfl, rfl, rfl⟩
    | refused | failed => exact absurd hk (hbuilds _ _ (CacheError.outcome_ne_replaced _))
    | made => exact absurd hk (hbuilds _ .built nofun)
    | taken =>
      cases hk
      cases v <;> cases hv
    | hit | begun | went | installed | looked | ended | stays => cases hk
  · rintro ⟨report, key, current, rest, phase, rfl, hu, rfl⟩
    cases hc with
    | judged v' =>
      simp only [Task.reloading.injEq, Reload.checking.injEq] at hu
      obtain rfl := Report.add_inj hu.1
      exact hv
    | looked => simp at hu
    | stays hf => cases hf

/-- The reports grow with what is counted of a verdict. -/
theorem Task.Counts.tally {t u : Task} {counted : Option Counter} {v : Verdict}
    {kind : String → Counter} (hc : t.Counts u counted) (hv : ∀ c, v.counter? c = some (kind c)) :
    (∃ c, counted = some (kind c) ∧ u.report.tally v = t.report.tally v + 1) ∨
      (∀ c, counted ≠ some (kind c)) ∧ u.report.tally v = t.report.tally v := by
  by_cases hk : ∃ c, counted = some (kind c)
  · obtain ⟨c, hk⟩ := hk
    obtain ⟨report, key, current, rest, phase, rfl, rfl, -⟩ := (hc.verdict_iff (hv c)).1 hk
    exact .inl ⟨c, hk, by simp [Task.report, Report.tally_add]⟩
  · simp only [not_exists] at hk
    refine .inr ⟨hk, ?_⟩
    cases hc with
    | @judged report key current rest phase v' =>
      have hne : v' ≠ v := by
        rintro rfl
        exact hk _ (hv _)
      simp [Task.report, Report.tally_add, hne]
    | hit | refused | begun | went | made | failed | installed | taken | looked | ended | stays => rfl

section Books

variable {σ : Type} {setup : Setup σ} {s r : State σ} {t u : Task} {counted : Option Counter}

/-- The books of two states between which at most one thing has been counted: those of a ledger that is
switched off stay as they are, and in one that is in use the gauge shows the new size unless the size is
the same. -/
structure Books (s r : State σ) (counted : Option Counter) : Prop where
  enabled : r.ledger.enabled = s.ledger.enabled
  passes : r.passes = s.passes + if counted = some .reloadPasses then 1 else 0
  disabled : s.ledger.enabled = false → r.ledger = s.ledger
  total : s.ledger.enabled = true → ∀ c,
    r.ledger.total c = s.ledger.total c + if counted = some c then 1 else 0
  gauge : s.ledger.enabled = true →
    r.ledger.gauge = some r.size ∨ r.ledger.gauge = s.ledger.gauge ∧ r.size = s.size

theorem Books.of_eq (hledger : r.ledger = s.ledger) (hpasses : r.passes = s.passes)
    (hsize : r.size = s.size) : Books s r none where
  enabled := by rw [hledger]
  passes := by simp [hpasses]
  disabled _ := hledger
  total _ c := by simp [hledger]
  gauge _ := .inr ⟨by rw [hledger], hsize⟩

theorem Books.count (hb : Books s r none) {c : Counter} (hc : c ≠ .reloadPasses) :
    Books s (r.count c) (some c) where
  enabled := by simp [State.count, hb.enabled]
  passes := by simp [State.count, hb.passes, hc]
  disabled hs := by
    rw [State.count, Ledger.bump_of_disabled (hb.enabled.trans hs), hb.disabled hs]
  total hs d := by
    rw [State.count, Ledger.total_bump (hb.enabled.trans hs), hb.total hs d]
    simp
  gauge hs := by simpa [State.count, State.size] using hb.gauge hs

theorem books_pass (s : State σ) :
    Books s (State.count { s with passes := s.passes + 1 } .reloadPasses) (some .reloadPasses) where
  enabled := by simp [State.count]
  passes := by simp [State.count]
  disabled hs := by rw [State.count, Ledger.bump_of_disabled hs]
  total hs d := by
    rw [State.count, Ledger.total_bump hs]
    simp
  gauge _ := .inr ⟨by simp [State.count], rfl⟩

/-- Whatever has become of the entries, the gauge shows how many there are. -/
theorem books_recordSize (s : State σ) (entries : List (Key × Entry)) :
    Books s (State.recordSize { s with entries }) none where
  enabled := by simp [State.recordSize]
  passes := by simp [State.recordSize]
  disabled hs := by rw [State.recordSize, Ledger.setGauge_of_disabled hs]
  total _ c := by simp [State.recordSize]
  gauge hs := .inl (by rw [State.recordSize, Ledger.gauge_setGauge hs]; rfl)

theorem books_invalidate (s : State σ) (key : Key) : Books s (s.invalidate key).2 none := by
  unfold State.invalidate
  split
  · exact .of_eq rfl rfl rfl
  · exact books_recordSize s _

theorem books_next {d : Descriptor} {p : Phase} {o : Except CacheError Phase}
    (hn : p.next setup d s = (o, r)) : Books s r none := by
  have hsize : r.size = s.size := by
    have h := entries_next setup d s p
    rw [hn] at h
    rw [State.size, State.size, h]
  have hrest : r.ledger = s.ledger ∧ r.passes = s.passes := by
    cases p with
    | observed o =>
      simp only [Phase.next] at hn
      split at hn <;> cases hn <;> exact ⟨rfl, rfl⟩
    | bound b =>
      simp only [Phase.next, Phase.make] at hn
      split at hn <;> cases hn <;> exact ⟨rfl, rfl⟩
    | fresh | approached | made =>
      cases hn
      exact ⟨rfl, rfl⟩
  exact .of_eq hrest.1 hrest.2 hsize

/-- **A step of a call counts once at most**, by the stages that it leads from and to. -/
theorem Task.Steps.counts (hs : t.Steps setup s u r) :
    ∃ counted, t.Counts u counted ∧ Books s r counted := by
  cases hs with
  | getting hs =>
    cases hs with
    | begun => exact ⟨_, .begun, .of_eq rfl rfl rfl⟩
    | @went key d _ r' next phase hp hn =>
      by_cases hnext : next.rank < 4
      · refine ⟨_, .went hp hnext, ?_⟩
        cases next with
        | made => simp [Phase.rank] at hnext
        | fresh | approached | observed | bound => exact books_next hn
      · obtain ⟨b, i, rfl⟩ := Phase.exists_made hnext
        exact ⟨_, .made hp, (books_next hn).count (by simp)⟩
  | got hs =>
    cases hs with
    | hit => exact ⟨_, .hit, .of_eq rfl rfl rfl⟩
    | refused => exact ⟨_, .refused, (Books.of_eq rfl rfl rfl).count (by simp)⟩
    | failed hp hn => exact ⟨_, .failed hp, (books_next hn).count (by simp)⟩
    | dropped => exact ⟨_, .installed, books_recordSize s s.entries⟩
    | installed => exact ⟨_, .installed, books_recordSize s _⟩
  | reloading hs =>
    cases hs with
    | begun => exact ⟨_, .taken, books_pass s⟩
    | failed hp hn => exact ⟨_, .judged .failed, (books_next hn).count (by simp)⟩
    | reused hp hn => exact ⟨_, .judged .reused, (books_next hn).count (by simp)⟩
    | went hp hn => exact ⟨_, .looked, books_next hn⟩
    | @replaced _ key _ b i _ current =>
      have hswap : Books s { s with
          entries := State.swapEntry key (.new current.descriptor i b) s.entries } none :=
        .of_eq rfl rfl (List.length_map _)
      exact ⟨_, .judged .replaced, hswap.count (by simp)⟩
    | skipped => exact ⟨_, .judged .skipped, .of_eq rfl rfl rfl⟩
  | reloaded hs =>
    cases hs
    exact ⟨_, .ended, .of_eq rfl rfl rfl⟩
  | gotStays => exact ⟨_, .stays (.got _ _), .of_eq rfl rfl rfl⟩
  | reloadedStays => exact ⟨_, .stays (.reloaded _), .of_eq rfl rfl rfl⟩

end Books

namespace History

variable {σ : Type} {h : History σ} {n m k l place : Nat} {key key' : Key} {g : Get} {d : Descriptor}
  {declared declared' : Declaration} {phase : Phase} {t u : Task} {c : String} {o : BuildOutcome}
  {result : Except CacheError Instance} {v : Verdict}

/-- With a move no call has its turn. -/
def Idle (h : History σ) (n : Nat) : Prop := ∀ place t u, ¬ h.Turn n place t u

/-- What a move counts is what the call counts whose turn it is. -/
theorem books (h : History σ) (n : Nat) :
    (∃ place t u counted, h.Turn n place t u ∧ t.Counts u counted ∧
        Books (h.state n) (h.state (n + 1)) counted) ∨
      h.Idle n ∧ Books (h.state n) (h.state (n + 1)) none := by
  by_cases hidle : h.Idle n
  · refine .inr ⟨hidle, ?_⟩
    cases h.happens n with
    | turn ht => exact absurd ht (hidle _ _ _)
    | invalidate _ hs =>
      rw [hs]
      exact books_invalidate _ _
    | clear _ hs =>
      rw [hs]
      exact books_recordSize _ []
    | nothing hs | world _ hs | registry _ hs =>
      rw [hs]
      exact .of_eq rfl rfl rfl
  · simp only [Idle, not_forall, not_not] at hidle
    obtain ⟨place, t, u, ht⟩ := hidle
    obtain ⟨counted, hcounts, hbooks⟩ := ht.steps.counts
    exact .inl ⟨place, t, u, counted, ht, hcounts, hbooks⟩

theorem exists_books (h : History σ) (n : Nat) :
    ∃ counted, Books (h.state n) (h.state (n + 1)) counted := by
  rcases h.books n with ⟨_, _, _, counted, -, -, hb⟩ | ⟨-, hb⟩
  · exact ⟨counted, hb⟩
  · exact ⟨none, hb⟩

theorem enabled_eq (h : History σ) (n : Nat) : (h.state n).ledger.enabled = h.metrics := by
  induction n with
  | zero => rfl
  | succ n ih =>
    obtain ⟨counted, hb⟩ := h.exists_books n
    rw [hb.enabled, ih]

theorem total_of_idle (hm : h.metrics = true) (hn : h.Idle n) (k : Counter) :
    (h.state (n + 1)).ledger.total k = (h.state n).ledger.total k := by
  rcases h.books n with ⟨_, _, _, _, ht, -⟩ | ⟨-, hb⟩
  · exact absurd ht (hn _ _ _)
  · simp [hb.total ((h.enabled_eq n).trans hm)]

/-- **A ledger that is switched off stays blank.** -/
theorem ledger_of_disabled (hm : h.metrics = false) (n : Nat) : (h.state n).ledger = .new false := by
  induction n with
  | zero =>
    rw [← hm]
    rfl
  | succ n ih =>
    obtain ⟨counted, hb⟩ := h.exists_books n
    rw [hb.disabled ((h.enabled_eq n).trans hm), ih]

/-- **Each pass that begins is counted once.** -/
theorem total_reloadPasses (hm : h.metrics = true) (n : Nat) :
    (h.state n).ledger.total .reloadPasses = (h.state n).passes := by
  induction n with
  | zero => rfl
  | succ n ih =>
    obtain ⟨counted, hb⟩ := h.exists_books n
    rw [hb.total ((h.enabled_eq n).trans hm), hb.passes, ih]

/-- **The gauge shows the size of the cache** once it has been set. -/
theorem gauge_eq (hm : h.metrics = true) (hk : (h.state k).ledger.gauge ≠ none) (hkn : k ≤ n) :
    (h.state n).ledger.gauge = some (h.state n).size := by
  have hset : ∀ n, (h.state n).ledger.gauge = none ∨
      (h.state n).ledger.gauge = some (h.state n).size := by
    intro n
    induction n with
    | zero => exact .inl rfl
    | succ n ih =>
      obtain ⟨counted, hb⟩ := h.exists_books n
      rcases hb.gauge ((h.enabled_eq n).trans hm) with hset | ⟨hgauge, hsize⟩
      · exact .inr hset
      · rw [hgauge, hsize]
        exact ih
  induction n, hkn using Nat.le_induction with
  | base => exact (hset k).resolve_left hk
  | succ n hkn ih =>
    obtain ⟨counted, hb⟩ := h.exists_books n
    rcases hb.gauge ((h.enabled_eq n).trans hm) with hset | ⟨hgauge, hsize⟩
    · exact hset
    · rw [hgauge, hsize, ih]

/-! ### What is accounted for -/

/-- What all calls weigh together. -/
def load (h : History σ) (w : Task → Nat) (n : Nat) : Nat := ((h.after n).tasks.map w).sum

/-- A turn changes the weight of the call whose turn it is. -/
theorem load_of_turn (w : Task → Nat) (ht : h.Turn n place t u) :
    h.load w (n + 1) + w t = h.load w n + w u := by
  obtain ⟨hlt, hbefore⟩ := List.getElem?_eq_some_iff.1 ht.before
  obtain ⟨l₁, l₂, hl, -, hset⟩ := List.exists_of_set hlt
  have hu : (t.step h.setup (h.after n).state).1 = u := congrArg Prod.fst ht.step
  have hafter : (h.after (n + 1)).tasks = l₁ ++ u :: l₂ := by
    rw [after_succ ht.move, move_turn ht.before, ← hset, hu]
  rw [load, load, hafter, hl, hbefore]
  simp only [List.map_append, List.map_cons, List.sum_append, List.sum_cons]
  omega

theorem load_of_idle {w : Task → Nat} (hw : ∀ t, t.Begins → w t = 0) (hidle : h.Idle n) :
    h.load w (n + 1) = h.load w n := by
  have hbegin : ∀ (a : Move σ) (t : Task), h.moves[n]? = some a → a.Begins t →
      (h.after (n + 1)).tasks = (h.after n).tasks ++ [t] → h.load w (n + 1) = h.load w n := by
    intro a t _ ht htasks
    rw [load, load, htasks]
    simp [hw t ht.task]
  cases ha : h.moves[n]? with
  | none => rw [load, load, after_succ_of_none ha]
  | some a =>
    cases a with
    | get key declared => exact hbegin _ _ ha (.get key declared) (by rw [after_succ ha]; rfl)
    | reload => exact hbegin _ _ ha .reload (by rw [after_succ ha]; rfl)
    | turn place =>
      cases ht : h.task? n place with
      | none =>
        rw [task?] at ht
        rw [load, load, after_succ ha]
        simp only [Machine.move, ht]
      | some t => exact absurd (turn_of_move ha ht) (hidle _ _ _)
    | invalidate | clear | world | registry =>
      rw [load, load, after_succ ha]
      rfl

open Classical in
/-- **An account is exact** if with each turn it grows by what the call has come to weigh, and by one for
each event. -/
theorem eq_count_add_load {T : Nat → Nat} {w : Task → Nat} {E : Nat → Prop} (hzero : T 0 = 0)
    (hw : ∀ t, t.Begins → w t = 0) (hidle : ∀ n, h.Idle n → T (n + 1) = T n ∧ ¬ E n)
    (hturn : ∀ n place t u, h.Turn n place t u →
      T (n + 1) + w t = T n + w u + if E n then 1 else 0) (n : Nat) :
    T n = Nat.count E n + h.load w n := by
  induction n with
  | zero => simp [hzero, load, Machine.new]
  | succ n ih =>
    rw [Nat.count_succ]
    by_cases hn : h.Idle n
    · rw [(hidle n hn).1, load_of_idle hw hn, if_neg (hidle n hn).2, ih, Nat.add_zero]
    · simp only [Idle, not_forall, not_not] at hn
      obtain ⟨place, t, u, ht⟩ := hn
      have hT := hturn n place t u ht
      have hload := load_of_turn w ht
      omega

/-! ### Builds of gets -/

/-- How the build of a get has ended: its declaration has been refused, a text of its source has not been
converted, no module could be made, or there is an instance. -/
def outcomeOf : Except CacheError Instance → BuildOutcome
  | .ok _ => .built
  | .error (.declaration _) => .declarationError
  | .error (.resolution _) => .conversionError
  | .error (.production _) => .moduleError

/-- A failure is counted under the label that is meant for it. -/
theorem outcomeOf_error (e : CacheError) : outcomeOf (.error e) = e.outcome := by
  cases e <;> rfl

/-- With a move the get at a place looks up with its declaration and misses. -/
def Misses (h : History σ) (n place : Nat) (declared : Declaration) : Prop :=
  ∃ key u, h.Turn n place (.getting (.lookup key declared)) u ∧ h.slot n key = none

/-- With a move a get of a contract that has missed the cache completes, with an outcome. -/
def Completes (h : History σ) (c : String) (o : BuildOutcome) (n : Nat) : Prop :=
  ∃ place declared k g key result, k ≤ n ∧ h.Misses k place declared ∧ declared.typeName = c ∧
    h.Turn n place (.getting g) (.got key result) ∧ outcomeOf result = o

/-- With a move a pass comes to a verdict on an entry of a contract. -/
def JudgesOf (h : History σ) (c : String) (v : Verdict) (n : Nat) : Prop :=
  ∃ place key current, h.Judges n place key current v ∧ current.descriptor.typeName = c

theorem Turn.lookup_unique {u' : Task} (ht : h.Turn k place (.getting (.lookup key declared)) u)
    (ht' : h.Turn l place (.getting (.lookup key' declared')) u') : k = l := by
  have hlt : ∀ {k l key key' declared declared' u u'},
      h.Turn k place (.getting (.lookup key declared)) u →
      h.Turn l place (.getting (.lookup key' declared')) u' → ¬ k < l := by
    intro k l key key' declared declared' u u' ht ht' hkl
    have hafter := ht.after
    rcases ht.steps.hit_or_missed rfl with ⟨e, -, rfl⟩ | ⟨-, ⟨d, -, rfl⟩ | ⟨cause, -, rfl⟩⟩
    · have hl := task?_of_finished (.got _ _) hafter hkl
      rw [ht'.before] at hl
      cases hl
    · rcases building_or_got hafter hkl with ⟨_, hl, -⟩ | ⟨_, hl⟩ <;> rw [ht'.before] at hl <;> cases hl
    · have hl := task?_of_finished (.got _ _) hafter hkl
      rw [ht'.before] at hl
      cases hl
  exact (Nat.le_of_not_lt (hlt ht' ht)).antisymm (Nat.le_of_not_lt (hlt ht ht'))

/-- A get that builds has missed, with a declaration of the contract that it builds. -/
theorem exists_misses (ht : h.task? n place = some (.getting (.building key d phase))) :
    ∃ k declared, k < n ∧ h.Misses k place declared ∧ declared.typeName = d.typeName := by
  obtain ⟨k, declared, hk, hturn⟩ := exists_lookup ht
  rcases hturn.steps.hit_or_missed rfl with ⟨e, -, hu⟩ | ⟨hnone, ⟨d', hd, hu⟩ | ⟨cause, -, hu⟩⟩ <;>
    cases hu
  exact ⟨k, declared, hk, ⟨key, _, hturn, hnone⟩, (Contract.of_validate hd).typeName.symm⟩

theorem Misses.unique (hk : h.Misses k place declared) (hl : h.Misses l place declared') :
    k = l ∧ declared = declared' := by
  obtain ⟨_, _, hk, -⟩ := hk
  obtain ⟨_, _, hl, -⟩ := hl
  obtain rfl := hk.lookup_unique hl
  obtain ⟨-, htask, -⟩ := hk.unique hl
  cases htask
  exact ⟨rfl, rfl⟩

/-- A get completes with the move that is its end. -/
theorem completes_iff (ht : h.Turn n place (.getting g) (.got key result)) :
    h.Completes c o n ↔
      (∃ k declared, k ≤ n ∧ h.Misses k place declared ∧ declared.typeName = c) ∧
        outcomeOf result = o := by
  constructor
  · rintro ⟨place', declared, k, g', key', result', hk, hmisses, hc, ht', ho⟩
    obtain ⟨rfl, -, hu⟩ := ht.unique ht'
    cases hu
    exact ⟨⟨k, declared, hk, hmisses, hc⟩, ho⟩
  · rintro ⟨⟨k, declared, hk, hmisses, hc⟩, ho⟩
    exact ⟨place, declared, k, g, key, result, hk, hmisses, hc, ht, ho⟩

theorem not_completes (ht : h.Turn n place t u)
    (hu : ∀ g key result, t = .getting g → u ≠ .got key result) : ¬ h.Completes c o n := by
  rintro ⟨place', declared, k, g, key, result, -, -, -, ht', -⟩
  obtain ⟨-, rfl, rfl⟩ := ht.unique ht'
  exact hu g key result rfl rfl

theorem not_completes_of_hit {i : Instance}
    (ht : h.Turn n place (.getting (.lookup key declared)) (.got key (.ok i))) :
    ¬ h.Completes c o n := by
  rw [completes_iff ht]
  rintro ⟨⟨k, declared', -, ⟨key', u, hk, hnone⟩, -⟩, -⟩
  obtain rfl := hk.lookup_unique ht
  obtain ⟨-, htask, -⟩ := hk.unique ht
  cases htask
  rcases ht.steps.hit_or_missed rfl with ⟨e, he, -⟩ | ⟨-, ⟨d, -, hu⟩ | ⟨cause, -, hu⟩⟩
  · rw [slot, he] at hnone
    cases hnone
  · cases hu
  · cases hu

theorem completes_of_refused {e : CacheError}
    (ht : h.Turn n place (.getting (.lookup key declared)) (.got key (.error e))) :
    h.Completes c o n ↔ declared.typeName = c ∧ outcomeOf (.error e) = o := by
  have hmisses : h.Misses n place declared := by
    rcases ht.steps.hit_or_missed rfl with ⟨e, -, hu⟩ | ⟨hnone, -⟩
    · cases hu
    · exact ⟨key, _, ht, hnone⟩
  rw [completes_iff ht]
  constructor
  · rintro ⟨⟨k, declared', -, hk, hc⟩, ho⟩
    obtain ⟨-, rfl⟩ := hk.unique hmisses
    exact ⟨hc, ho⟩
  · rintro ⟨hc, ho⟩
    exact ⟨⟨n, declared, Nat.le_refl n, hmisses, hc⟩, ho⟩

theorem completes_of_building
    (ht : h.Turn n place (.getting (.building key d phase)) (.got key result)) :
    h.Completes c o n ↔ d.typeName = c ∧ outcomeOf result = o := by
  obtain ⟨k, declared, hk, hmisses, hname⟩ := exists_misses ht.before
  rw [completes_iff ht]
  constructor
  · rintro ⟨⟨k', declared', -, hk', hc⟩, ho⟩
    obtain ⟨-, rfl⟩ := hk'.unique hmisses
    exact ⟨hname ▸ hc, ho⟩
  · rintro ⟨hc, ho⟩
    exact ⟨⟨k, declared, hk.le, hmisses, hname.trans hc⟩, ho⟩

open Classical in
/-- **Each get that misses is counted once**, when it has made its instance or when it ends in an error. -/
theorem total_builds (hm : h.metrics = true) (ho : o ≠ .replaced) (n : Nat) :
    (h.state n).ledger.total (.builds c o) =
      Nat.count (h.Completes c o) n + if o = .built then h.load (Task.holding c) n else 0 := by
  let w : Task → Nat := fun t => if o = .built then t.holding c else 0
  have hw : ∀ t : Task, t.Begins → w t = 0 := by
    rintro t (_ | _) <;> simp [w, Task.holding]
  have hload : h.load w n = if o = .built then h.load (Task.holding c) n else 0 := by
    by_cases hbuilt : o = .built <;> simp [load, w, hbuilt]
  rw [← hload]
  refine eq_count_add_load (T := fun n => (h.state n).ledger.total (.builds c o)) rfl hw
    (fun n hn => ?_) (fun n place t u ht => ?_) n
  · refine ⟨total_of_idle hm hn _, ?_⟩
    rintro ⟨_, _, _, _, _, _, -, -, -, ht, -⟩
    exact hn _ _ _ ht
  · obtain ⟨counted, hcounts, hb⟩ := ht.steps.counts
    rw [hb.total ((h.enabled_eq n).trans hm)]
    cases hcounts with
    | hit => simp [w, Task.holding, not_completes_of_hit ht]
    | refused => simp [w, Task.holding, completes_of_refused ht, outcomeOf_error]
    | begun => simp [w, Task.holding, not_completes ht]
    | went hp hp' =>
      simp [w, Task.holding_of_rank_lt hp, Task.holding_of_rank_lt hp', not_completes ht]
    | made hp =>
      by_cases hbuilt : o = .built
      · simp [w, Task.holding_of_rank_lt hp, not_completes ht, hbuilt]
      · simp [w, not_completes ht, hbuilt, Ne.symm hbuilt]
    | failed hp => simp [w, Task.holding_of_rank_lt hp, completes_of_building ht, outcomeOf_error]
    | installed =>
      by_cases hbuilt : o = .built
      · simp [w, completes_of_building ht, outcomeOf, hbuilt]
      · simp [w, completes_of_building ht, outcomeOf, hbuilt, Ne.symm hbuilt]
    | taken | looked | ended => simp [w, Task.holding, not_completes ht]
    | judged v =>
      cases v <;> simp [w, Task.holding, not_completes ht, Verdict.counter?, Ne.symm ho]
    | stays hf =>
      have hnot : ¬ h.Completes c o n := not_completes ht fun g _ _ hg => by
        subst hg
        cases hf
      simp [hnot]

theorem judgesOf_iff {counted : Option Counter} {k : Counter} (ht : h.Turn n place t u)
    (hcounts : t.Counts u counted) (hv : v.counter? c = some k) :
    h.JudgesOf c v n ↔ counted = some k := by
  rw [hcounts.verdict_iff hv]
  constructor
  · rintro ⟨place', key, current, ⟨report, rest, phase, ht'⟩, hc⟩
    obtain ⟨-, htask, hu⟩ := ht.unique ht'
    exact ⟨report, key, current, rest, phase, htask, hu, hc⟩
  · rintro ⟨report, key, current, rest, phase, rfl, rfl, hc⟩
    exact ⟨place, key, current, ⟨report, rest, phase, ht⟩, hc⟩

open Classical in
/-- **Each verdict is counted once**, for the contract of the entry. -/
theorem total_verdicts (hm : h.metrics = true) {k : Counter} (hv : v.counter? c = some k) (n : Nat) :
    (h.state n).ledger.total k = Nat.count (h.JudgesOf c v) n := by
  have hload : h.load (fun _ => 0) n = 0 := by simp [load]
  rw [← Nat.add_zero (Nat.count _ n), ← hload]
  refine eq_count_add_load (T := fun n => (h.state n).ledger.total k) rfl (fun _ _ => rfl)
    (fun n hn => ?_) (fun n place t u ht => ?_) n
  · refine ⟨total_of_idle hm hn k, ?_⟩
    rintro ⟨_, _, _, ⟨_, _, _, ht⟩, -⟩
    exact hn _ _ _ ht
  · obtain ⟨counted, hcounts, hb⟩ := ht.steps.counts
    simp [hb.total ((h.enabled_eq n).trans hm), judgesOf_iff ht hcounts hv]

/-! ### Sums over contracts -/

theorem finsum_add_one {f g : String → Nat} {a : String} (hf : (Function.support f).Finite)
    (hg : ∀ c, g c = f c + if a = c then 1 else 0) : ∑ᶠ c, g c = ∑ᶠ c, f c + 1 := by
  have hone : (Function.support fun c : String => if a = c then 1 else 0).Finite :=
    (Set.finite_singleton a).subset fun c hc => by
      by_contra hne
      exact hc (if_neg fun heq => hne heq.symm)
  rw [finsum_congr hg, finsum_add_distrib hf hone,
    finsum_eq_single _ a fun c hc => if_neg (Ne.symm hc), if_pos rfl]

/-- **Summed over the contracts, the counters of a verdict are the sum of the reports.** -/
theorem finsum_verdicts (hm : h.metrics = true) {kind : String → Counter}
    (hv : ∀ c, v.counter? c = some (kind c)) (n : Nat) :
    ∑ᶠ c, (h.state n).ledger.total (kind c) = h.load (fun t => t.report.tally v) n := by
  have hkind : Function.Injective kind := fun c d hcd =>
    (Verdict.counter?_inj (hv c) (hcd ▸ hv d)).2
  induction n with
  | zero => simp [load, Machine.new, State.new, Ledger.new, Ledger.total, state]
  | succ n ih =>
    have henabled := (h.enabled_eq n).trans hm
    rcases h.books n with ⟨place, t, u, counted, ht, hcounts, hb⟩ | ⟨hidle, hb⟩
    · have hload := load_of_turn (fun t => t.report.tally v) ht
      have hsupport := (h.state n).ledger.finite_support_total hkind
      rcases hcounts.tally hv with ⟨a, rfl, htally⟩ | ⟨hne, htally⟩
      · have hsum := finsum_add_one hsupport fun c => by
          simpa [hkind.eq_iff] using hb.total henabled (kind c)
        omega
      · have hsum : ∑ᶠ c, (h.state (n + 1)).ledger.total (kind c) =
            ∑ᶠ c, (h.state n).ledger.total (kind c) :=
          finsum_congr fun c => by simp [hb.total henabled, hne]
        omega
    · rw [load_of_idle _ hidle, ← ih]
      · simp [hb.total henabled]
      · rintro t (_ | _) <;> cases v <;> rfl

open Classical in
/-- **The metrics are an exact ledger.** In every run with metrics, whatever happens while files are read,
the passes that have begun are counted, and for every contract and every way in which a build of a get can
end, the gets that have missed the cache and completed so, together with those that have made an instance
and have yet to install it or lose the race. The replaced, reused and failed outcomes of a contract are
those that passes have come to for its entries, and summed over the contracts they are the sums of the
reports. Once the gauge has been set it is the size of the cache. Without metrics nothing is recorded. -/
theorem ledger_exact (h : History σ) (n : Nat) :
    (h.metrics = true →
      (h.state n).ledger.total .reloadPasses = (h.state n).passes ∧
      (∀ c o, o ≠ .replaced → (h.state n).ledger.total (.builds c o) =
        Nat.count (h.Completes c o) n + if o = .built then h.load (Task.holding c) n else 0) ∧
      (∀ c, (h.state n).ledger.total (.builds c .replaced) = Nat.count (h.JudgesOf c .replaced) n ∧
        (h.state n).ledger.total (.reuse c) = Nat.count (h.JudgesOf c .reused) n ∧
        (h.state n).ledger.total (.reloadErrors c) = Nat.count (h.JudgesOf c .failed) n) ∧
      (∑ᶠ c, (h.state n).ledger.total (.builds c .replaced) = h.load (fun t => t.report.replaced) n ∧
        ∑ᶠ c, (h.state n).ledger.total (.reuse c) = h.load (fun t => t.report.reused) n ∧
        ∑ᶠ c, (h.state n).ledger.total (.reloadErrors c) = h.load (fun t => t.report.failed) n) ∧
      ∀ k ≤ n, (h.state k).ledger.gauge ≠ none →
        (h.state n).ledger.gauge = some (h.state n).size) ∧
    (h.metrics = false → (h.state n).ledger = .new false) :=
  ⟨fun hm => ⟨total_reloadPasses hm n, fun _ _ ho => total_builds hm ho n,
    fun _ => ⟨total_verdicts hm rfl n, total_verdicts hm rfl n, total_verdicts hm rfl n⟩,
    ⟨finsum_verdicts (v := .replaced) hm (fun _ => rfl) n,
      finsum_verdicts (v := .reused) hm (fun _ => rfl) n,
      finsum_verdicts (v := .failed) hm (fun _ => rfl) n⟩,
    fun _ hk hset => gauge_eq hm hset hk⟩, fun hm => ledger_of_disabled hm n⟩

end History

/-! ### The books of three passes and of three failures -/

section Flag

/-- The run of three passes without metrics. -/
def passesUncounted : History String := { passes with metrics := false }

/-- A contract that is not marked as a capability. -/
def plainDeclaration : Declaration :=
  ⟨"app::Plain", false, some "flags.properties", [⟨"flag", "bool", some "f", some "false", 0⟩]⟩

/-- A contract of which no module can be made, because an accessor has the name of an initializer. -/
def unmadeDeclaration : Declaration :=
  ⟨"app::Unmade", true, some "flags.properties", [⟨"<init>", "bool", some "g", some "false", 0⟩]⟩

/-- The first get is refused for its declaration, the second for the text of the flag, and the third for
its module. -/
def faults : History String where
  setup := ⟨wholeFile, .default, .bytecode, none⟩
  world := "f=maybe\n"
  metrics := true
  moves := [.get 0 plainDeclaration, .turn 0,
    .get 1 flagDeclaration, .turn 1, .turn 1, .turn 1, .turn 1,
    .get 2 unmadeDeclaration, .turn 2, .turn 2, .turn 2, .turn 2, .turn 2]

theorem ledger_faults : (faults.state 13).ledger = ⟨true,
    [(.builds "app::Plain" .declarationError, 1), (.builds "app::Flags" .conversionError, 1),
      (.builds "app::Unmade" .moduleError, 1)], none⟩ := by
  decide +kernel

open Classical in
theorem ledger_exact_passes :
    (passes.state 45).ledger.listing =
      [("capconf_builds_total\x7bcontract=app::Flags,outcome=built\x7d", 2),
        ("capconf_builds_total\x7bcontract=app::Fixed,outcome=built\x7d", 1),
        ("capconf_reload_passes_total", 3),
        ("capconf_builds_total\x7bcontract=app::Flags,outcome=replaced\x7d", 1),
        ("capconf_reload_errors_total\x7bcontract=app::Flags\x7d", 1),
        ("capconf_cached_contracts", 2)] ∧
    (passes.state 45).passes = 3 ∧ Nat.count (passes.Completes "app::Flags" .built) 45 = 2 ∧
    Nat.count (passes.JudgesOf "app::Flags" .replaced) 45 = 1 ∧
    ∑ᶠ c, (passes.state 45).ledger.total (.reloadErrors c) = 1 ∧ (passes.state 45).size = 2 ∧
    (passesUncounted.state 45).ledger = .new false ∧
    (faults.state 13).ledger.listing =
      [("capconf_builds_total\x7bcontract=app::Plain,outcome=declaration_error\x7d", 1),
        ("capconf_builds_total\x7bcontract=app::Flags,outcome=conversion_error\x7d", 1),
        ("capconf_builds_total\x7bcontract=app::Unmade,outcome=module_error\x7d", 1)] ∧
    Nat.count (faults.Completes "app::Plain" .declarationError) 13 = 1 ∧
    Nat.count (faults.Completes "app::Flags" .conversionError) 13 = 1 ∧
    Nat.count (faults.Completes "app::Unmade" .moduleError) 13 = 1 := by
  have hledger : (passes.state 45).ledger = ⟨true,
      [(.builds "app::Flags" .built, 2), (.builds "app::Fixed" .built, 1), (.reloadPasses, 3),
        (.builds "app::Flags" .replaced, 1), (.reloadErrors "app::Flags", 1)], some 2⟩ := by
    decide +kernel
  have hholding : passes.load (Task.holding "app::Flags") 45 = 0 := by decide +kernel
  have hfailed : passes.load (fun t => t.report.failed) 45 = 1 := by decide +kernel
  obtain ⟨hpasses, hgets, hverdicts, ⟨-, -, herrors⟩, hgauge⟩ :=
    (History.ledger_exact passes 45).1 rfl
  have hbuilt := hgets "app::Flags" .built nofun
  have hreplaced := (hverdicts "app::Flags").1
  rw [if_pos rfl, hholding] at hbuilt
  have hsize := hgauge 45 (Nat.le_refl 45) (by simp [hledger])
  rw [hledger] at hpasses hbuilt hreplaced hsize
  rw [hfailed] at herrors
  -- a failure is counted when the get ends in it, so nothing is held back
  obtain ⟨-, hrefused, -⟩ := (History.ledger_exact faults 13).1 rfl
  have hplain := hrefused "app::Plain" .declarationError nofun
  have hflags := hrefused "app::Flags" .conversionError nofun
  have hunmade := hrefused "app::Unmade" .moduleError nofun
  rw [ledger_faults, if_neg nofun] at hplain hflags hunmade
  refine ⟨by rw [hledger]; decide, hpasses.symm, hbuilt.symm, hreplaced.symm, herrors,
    (Option.some.inj hsize).symm, (History.ledger_exact passesUncounted 45).2 rfl,
    by rw [ledger_faults]; decide, hplain.symm, hflags.symm, hunmade.symm⟩

end Flag

end TypedConfig.Cache
