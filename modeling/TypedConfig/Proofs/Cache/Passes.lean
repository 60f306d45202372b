import TypedConfig.Proofs.Cache.Linearizable

/-!
Reload passes among other calls. A pass goes through its snapshot from the first entry to the last and
comes to one verdict on each (`tallies_snapshot`, `Judges.unique`). Whatever happens in the meantime, all that
it does to the entries is to replace one that it has taken in its snapshot and that has been installed all
the time since, by one that it has built itself (`pass_swaps_snapshot`).
-/

namespace TypedConfig.Cache

open Contract (Declaration Descriptor)
open Resolution (Binding ConversionFailure)
open TypedConfig.Module (ModuleError)

/-! ### Steps of a pass -/

section Steps

variable {σ : Type} {setup : Setup σ} {t u : Task} {s r : State σ} {report report' : Report}
  {left rest : List (Key × Entry)} {phase : Phase} {key : Key} {current : Entry}

/-- A pass that has a list of entries left has just begun, or it had them left before. -/
theorem Task.Steps.exists_of_checking
    (hs : t.Steps setup s (.reloading (.checking report left phase)) r) :
    (t = .reloading .start ∧ report = .zero ∧ left = Reload.snapshot s ∧ phase = .fresh) ∨
      ∃ report' left' phase', t = .reloading (.checking report' left' phase') ∧ left <:+ left' := by
  cases hs with
  | reloading hs =>
    cases hs with
    | begun => exact .inl ⟨rfl, rfl, rfl, rfl⟩
    | went => exact .inr ⟨_, _, _, rfl, List.suffix_refl _⟩
    | failed | reused | replaced | skipped => exact .inr ⟨_, _, _, rfl, List.suffix_cons _ _⟩

/-- A pass that looks at an entry comes to a verdict, or to a later phase of looking at it. -/
theorem Task.Steps.verdict_or_phase
    (hs : t.Steps setup s u r)
    (ht : t = .reloading (.checking report ((key, current) :: rest) phase)) :
    (∃ v, u = .reloading (.checking (report.add v) rest .fresh)) ∨
      ∃ phase', u = .reloading (.checking report ((key, current) :: rest) phase') ∧
        phase.rank < phase'.rank := by
  subst ht
  cases hs with
  | reloading hs =>
    cases hs with
    | failed => exact .inl ⟨.failed, rfl⟩
    | reused => exact .inl ⟨.reused, rfl⟩
    | replaced => exact .inl ⟨.replaced, rfl⟩
    | skipped => exact .inl ⟨.skipped, rfl⟩
    | went hp hn =>
      have hrank := Phase.rank_next hn
      exact .inr ⟨_, rfl, by omega⟩
  | reloaded hs => cases hs

theorem Task.Steps.reloaded_of_nil (hs : t.Steps setup s u r)
    (ht : t = .reloading (.checking report [] phase)) : u = .reloaded report := by
  subst ht
  cases hs with
  | reloading hs => cases hs
  | reloaded hs =>
    cases hs
    rfl

theorem Task.Steps.fingerprint_ne {b : Binding}
    (hs : t.Steps setup s (.reloading (.checking report ((key, current) :: rest) (.bound b))) r) :
    b.fingerprint ≠ current.fingerprint := by
  cases hs with
  | reloading hs =>
    generalize hleft : (key, current) :: rest = left at hs
    cases hs with
    | went _ _ hf =>
      cases hleft
      exact hf b rfl

theorem Phase.next_eq_error {d : Descriptor} {p : Phase} {e : CacheError}
    (hn : p.next setup d s = (.error e, r)) :
    (∃ o cause, p = .observed o ∧ o.bind d = .error cause) ∨
      ∃ b cause, p = .bound b ∧ (setup.factory.produce (s.begun + 1) d b).2 = .error cause := by
  cases p with
  | observed o =>
    simp only [next] at hn
    split at hn
    · cases hn
    · rename_i cause hcause
      exact .inl ⟨o, cause, rfl, hcause⟩
  | bound b =>
    simp only [next, make] at hn
    split at hn
    · rename_i cause hcause
      exact .inr ⟨b, cause, rfl, hcause⟩
    · cases hn
  | fresh | approached | made => cases hn

end Steps

theorem Report.add_inj {report : Report} {v v' : Verdict} (h : report.add v = report.add v') :
    v = v' := by
  cases v <;> cases v' <;> simp [add] at h <;> rfl

/-- Whether a move is a turn of the call at a place. -/
def Move.isTurn {σ : Type} (place : Nat) : Move σ → Bool
  | .turn p => p == place
  | _ => false

namespace History

variable {σ : Type} {h : History σ} {n m k taken taken' place : Nat} {key : Key}
  {current current' e : Entry} {v v' : Verdict} {report : Report} {left rest : List (Key × Entry)}
  {phase : Phase} {t u : Task}

/-- With a move the pass at a place takes its snapshot. -/
def Snapshots (h : History σ) (n place : Nat) : Prop :=
  h.Turn n place (.reloading .start)
    (.reloading (.checking .zero (Reload.snapshot (h.state n)) .fresh))

/-- With a move the pass at a place comes to a verdict on an entry. -/
def Judges (h : History σ) (n place : Nat) (key : Key) (current : Entry) (v : Verdict) : Prop :=
  ∃ report rest phase, h.Turn n place (.reloading (.checking report ((key, current) :: rest) phase))
    (.reloading (.checking (report.add v) rest .fresh))

/-- Why a pass comes to its verdict on the entry that it looks at: what it has resolved does not convert,
or no instance can be made of it, or the fingerprint is the same; or the instance that it has built is put
in the place of the entry, or another entry or none stands there. -/
inductive Finds (h : History σ) (n place : Nat) (j : Job) (current : Entry) : Verdict → Prop
  | unresolved {began read cause} (hr : h.Resolves place j began read) (hlt : read < n)
      (hb : (h.seen began read j.descriptor).bind j.descriptor = .error cause) :
      Finds h n place j current .failed
  | unmade {began read b number cause} (hr : h.Resolves place j began read) (hlt : read < n)
      (hb : (h.seen began read j.descriptor).bind j.descriptor = .ok b)
      (hf : b.fingerprint ≠ current.fingerprint) (hnumber : number = (h.state n).begun + 1)
      (hmake : (h.setup.factory.produce number j.descriptor b).2 = .error cause) :
      Finds h n place j current .failed
  | reused {began read b} (hr : h.Resolves place j began read) (hlt : read < n)
      (hb : (h.seen began read j.descriptor).bind j.descriptor = .ok b)
      (hf : b.fingerprint = current.fingerprint) : Finds h n place j current .reused
  | replaced {b i began read made} (hb : h.Builds place j b i began read made) (hlt : made < n)
      (hi : h.Installs n place j b i) : Finds h n place j current .replaced
  | skipped {b i began read made} (hb : h.Builds place j b i began read made) (hlt : made < n)
      (hs : ∀ e, h.slot n j.key = some e → e.inst.id ≠ current.inst.id) :
      Finds h n place j current .skipped

/-! ### The order of a pass -/

/-- A pass goes on to the end of its list, and never begins again. -/
theorem suffix_or_reloaded (ht : h.task? n place = some (.reloading (.checking report left phase)))
    (hm : n ≤ m) :
    (∃ report' left' phase', h.task? m place = some (.reloading (.checking report' left' phase')) ∧
        left' <:+ left) ∨
      ∃ report', h.task? m place = some (.reloaded report') := by
  induction m, hm using Nat.le_induction with
  | base => exact .inl ⟨report, left, phase, ht, List.suffix_refl _⟩
  | succ m hm ih =>
    rcases ih with ⟨report', left', phase', hm', hsuffix⟩ | ⟨report', hm'⟩
    · rcases task?_succ_of_some hm' with hsame | ⟨u, hturn⟩
      · exact .inl ⟨report', left', phase', hsame, hsuffix⟩
      · cases left' with
        | nil =>
          obtain rfl := hturn.steps.reloaded_of_nil rfl
          exact .inr ⟨report', hturn.after⟩
        | cons p rest =>
          rcases hturn.steps.verdict_or_phase rfl with ⟨v, rfl⟩ | ⟨phase'', rfl, -⟩
          · exact .inl ⟨_, rest, _, hturn.after, (List.suffix_cons p rest).trans hsuffix⟩
          · exact .inl ⟨_, p :: rest, _, hturn.after, hsuffix⟩
    · exact .inr ⟨report', task?_of_finished (.reloaded _) hm' (Nat.le_succ m)⟩

/-- **The entries that a pass has left are the last ones of its snapshot.** -/
theorem exists_snapshot (ht : h.task? n place = some (.reloading (.checking report left phase))) :
    ∃ taken, taken < n ∧ h.Snapshots taken place ∧ left <:+ Reload.snapshot (h.state taken) := by
  induction n using Nat.strong_induction_on generalizing report left phase with
  | _ n ih =>
    obtain ⟨k, t, hk, hturn, -, -⟩ := exists_turn ht (by rintro ⟨⟩)
    rcases hturn.steps.exists_of_checking with ⟨rfl, rfl, rfl, rfl⟩ | ⟨report', left', phase', rfl, hs⟩
    · exact ⟨k, hk, hturn, List.suffix_refl _⟩
    · obtain ⟨taken, htaken, hsnapshot, hs'⟩ := ih k hk hturn.before
      exact ⟨taken, htaken.trans hk, hsnapshot, hs.trans hs'⟩

theorem Snapshots.unique (ht : h.Snapshots taken place) (ht' : h.Snapshots taken' place) :
    taken = taken' := by
  have hlt : ∀ {n m}, h.Snapshots n place → h.Snapshots m place → ¬ n < m := by
    intro n m hn hm hnm
    have hbefore : h.task? m place = some (.reloading .start) := Turn.before hm
    rcases suffix_or_reloaded (Turn.after hn) hnm with ⟨report, left, phase, hm', -⟩ | ⟨report, hm'⟩
    · rw [hbefore] at hm'
      cases hm'
    · rw [hbefore] at hm'
      cases hm'
  exact (Nat.le_of_not_lt (hlt ht' ht)).antisymm (Nat.le_of_not_lt (hlt ht ht'))

theorem Resolves.lt_of_snapshots {began read : Nat}
    (hr : h.Resolves place (.check report key current rest) began read)
    (ht : h.Snapshots taken place) : taken < began := by
  obtain ⟨taken', hlt, hsnapshot, -⟩ := exists_snapshot hr.begins.before
  obtain rfl := hsnapshot.unique ht
  exact hlt

theorem Snapshots.lt_of_reloaded (ht : h.Snapshots taken place)
    (hn : h.task? n place = some (.reloaded report)) : taken < n := by
  by_contra hle
  have hbefore : h.task? taken place = some (.reloading .start) := Turn.before ht
  rw [task?_of_finished (.reloaded _) hn (Nat.le_of_not_lt hle)] at hbefore
  cases hbefore

theorem nodup_snapshot (h : History σ) (n : Nat) :
    ((Reload.snapshot (h.state n)).map Prod.fst).Nodup :=
  (h.sound n).state.nodup.sublist (List.filter_sublist.map _)

theorem slot_of_mem_snapshot (hmem : (key, e) ∈ Reload.snapshot (h.state n)) :
    h.slot n key = some e ∧ e.watchable = true := by
  obtain ⟨hmem, hw⟩ := List.mem_filter.1 hmem
  exact ⟨State.lookup_eq_some_of_mem (h.sound n).state.nodup hmem, hw⟩

/-- **A pass comes to one verdict on an entry.** -/
theorem Judges.unique (hj : h.Judges n place key current v) (hj' : h.Judges m place key current' v') :
    n = m ∧ v = v' := by
  have hlt : ∀ {n m current current' v v'}, h.Judges n place key current v →
      h.Judges m place key current' v' → ¬ n < m := by
    rintro n m current current' v v' ⟨report, rest, phase, hj⟩ ⟨report', rest', phase', hj'⟩ hnm
    -- what is left after the first verdict has no entry under the key
    obtain ⟨taken, -, -, hsuffix⟩ := exists_snapshot hj.before
    have hnodup := (h.nodup_snapshot taken).sublist (hsuffix.sublist.map _)
    rw [List.map_cons, List.nodup_cons] at hnodup
    rcases suffix_or_reloaded hj.after hnm with ⟨_, left, _, hm, hleft⟩ | ⟨_, hm⟩
    · rw [hj'.before] at hm
      cases hm
      exact hnodup.1 (List.mem_map.2 ⟨(key, current'), hleft.mem List.mem_cons_self, rfl⟩)
    · rw [hj'.before] at hm
      cases hm
  obtain rfl : n = m :=
    (Nat.le_of_not_lt (hlt hj' hj)).antisymm (Nat.le_of_not_lt (hlt hj hj'))
  obtain ⟨report, rest, phase, hj⟩ := hj
  obtain ⟨report', rest', phase', hj'⟩ := hj'
  obtain ⟨-, ht, hu⟩ := hj.unique hj'
  cases ht
  simp only [Task.reloading.injEq, Reload.checking.injEq] at hu
  exact ⟨rfl, Report.add_inj hu.1⟩

theorem fingerprint_ne_of_bound {b : Binding}
    (ht : h.task? n place = some ((Job.check report key current rest).task (.bound b))) :
    b.fingerprint ≠ current.fingerprint := by
  obtain ⟨k, t, -, hturn, -, -⟩ := exists_turn ht (by rintro ⟨⟩)
  exact hturn.steps.fingerprint_ne

theorem Judges.finds (hj : h.Judges n place key current v) :
    ∃ report rest, h.Finds n place (.check report key current rest) current v := by
  obtain ⟨report, rest, phase, ht⟩ := hj
  refine ⟨report, rest, ?_⟩
  have hat : h.task? n place = some ((Job.check report key current rest).task phase) := ht.before
  have hs := ht.steps
  generalize hu : Task.reloading (.checking (report.add v) rest .fresh) = u at hs ht
  generalize hstate : h.state n = s at hs
  generalize hr : h.state (n + 1) = r at hs
  cases hs with
  | reloading hs =>
    cases hs with
    | failed _ hn =>
      simp only [Task.reloading.injEq, Reload.checking.injEq] at hu
      obtain rfl := Report.add_inj hu.1
      rcases Phase.next_eq_error hn with ⟨o, cause, rfl, hb⟩ | ⟨b, cause, rfl, hmake⟩
      · obtain ⟨began, read, hread, hr, rfl⟩ := exists_resolves hat
        exact .unresolved hr hread hb
      · obtain ⟨began, read, hread, hr, hb⟩ := exists_bind hat
        exact .unmade hr hread hb (fingerprint_ne_of_bound hat) (by rw [hstate]) hmake
    | reused hp hn hf =>
      simp only [Task.reloading.injEq, Reload.checking.injEq] at hu
      obtain rfl := Report.add_inj hu.1
      cases Phase.steps hp hn with
      | bound hb =>
        obtain ⟨began, read, hread, hr, rfl⟩ := exists_resolves hat
        exact .reused hr hread hb hf
    | went => simp [Task.reloading.injEq, Reload.checking.injEq] at hu
    | @replaced _ _ _ b i _ _ e he hid =>
      simp only [Task.reloading.injEq, Reload.checking.injEq] at hu
      obtain rfl := Report.add_inj hu.1
      obtain ⟨began, read, made, hmade, hb, -⟩ := exists_builds hat
      refine .replaced hb hmade ⟨⟨_, ht⟩, ⟨e, ?_, hid⟩, ?_⟩
      · rw [slot, hstate]
        exact he
      · rw [hr, hstate]
        rfl
    | @skipped _ _ _ b i _ _ hid =>
      simp only [Task.reloading.injEq, Reload.checking.injEq] at hu
      obtain rfl := Report.add_inj hu.1
      obtain ⟨began, read, made, hmade, hb, -⟩ := exists_builds hat
      refine .skipped hb hmade fun e he => hid e ?_
      rw [slot, hstate] at he
      exact he
  | reloaded hs => cases hs

/-- The report of the pass at a place counts its verdicts, one on each of the entries and in their order,
all come to after one moment and before another. -/
def Tallies (h : History σ) (taken n place : Nat) (judged : List (Key × Entry)) (report : Report) :
    Prop :=
  ∃ verdicts,
    List.Forall₂ (fun p v => ∃ k, taken < k ∧ k < n ∧ h.Judges k place p.1 p.2 v) judged verdicts ∧
      ∀ v, report.tally v = verdicts.count v

theorem tallies_nil (h : History σ) (taken n place : Nat) : h.Tallies taken n place [] .zero :=
  ⟨[], .nil, fun v => by cases v <;> rfl⟩

theorem Tallies.mono {judged : List (Key × Entry)} (ha : h.Tallies taken n place judged report)
    (hm : n ≤ m) : h.Tallies taken m place judged report := by
  obtain ⟨verdicts, hjudges, hcount⟩ := ha
  refine ⟨verdicts, hjudges.imp fun p v => ?_, hcount⟩
  rintro ⟨k, hk, hkn, hj⟩
  exact ⟨k, hk, by omega, hj⟩

theorem Tallies.concat {judged : List (Key × Entry)} (ha : h.Tallies taken n place judged report)
    (hlt : taken < n) (hj : h.Judges n place key current v) :
    h.Tallies taken (n + 1) place (judged ++ [(key, current)]) (report.add v) := by
  obtain ⟨verdicts, hjudges, hcount⟩ := ha.mono (Nat.le_succ n)
  refine ⟨verdicts ++ [v], ?_, fun w => ?_⟩
  · exact List.rel_append hjudges (.cons ⟨n, hlt, Nat.lt_succ_self n, hj⟩ .nil)
  · rw [Report.tally_add, hcount, List.count_append, List.count_singleton]
    simp only [beq_iff_eq]

/-- **The report of a pass that has ended counts one verdict on each entry of its snapshot.** -/
theorem tallies_snapshot (ht : h.Snapshots taken place)
    (hn : h.task? n place = some (.reloaded report)) :
    h.Tallies taken n place (Reload.snapshot (h.state taken)) report := by
  have hlt := ht.lt_of_reloaded hn
  -- the snapshot is what the pass has judged, and then what it has left
  have hgoes : ∀ m, taken < m →
      (∃ report judged left phase,
        h.task? m place = some (.reloading (.checking report left phase)) ∧
          Reload.snapshot (h.state taken) = judged ++ left ∧ h.Tallies taken m place judged report) ∨
      ∃ report, h.task? m place = some (.reloaded report) ∧
        h.Tallies taken m place (Reload.snapshot (h.state taken)) report := by
    intro m hm
    induction m, hm using Nat.le_induction with
    | base => exact .inl ⟨_, [], _, _, Turn.after ht, rfl, h.tallies_nil ..⟩
    | succ m hm ih =>
      rcases ih with ⟨report, judged, left, phase, hm', hs, ha⟩ | ⟨report, hm', ha⟩
      · have ha' := ha.mono (Nat.le_succ m)
        rcases task?_succ_of_some hm' with hsame | ⟨u, hturn⟩
        · exact .inl ⟨report, judged, left, phase, hsame, hs, ha'⟩
        · cases left with
          | nil =>
            obtain rfl := hturn.steps.reloaded_of_nil rfl
            rw [List.append_nil] at hs
            exact .inr ⟨report, hturn.after, hs ▸ ha'⟩
          | cons p rest =>
            obtain ⟨key, current⟩ := p
            rcases hturn.steps.verdict_or_phase rfl with ⟨v, rfl⟩ | ⟨phase', rfl, -⟩
            · have hj : h.Judges m place key current v := ⟨report, rest, phase, hturn⟩
              refine .inl ⟨_, _, rest, _, hturn.after, ?_, ha.concat hm hj⟩
              rw [hs, List.append_assoc, List.singleton_append]
            · exact .inl ⟨report, judged, _, _, hturn.after, hs, ha'⟩
      · exact .inr ⟨report, task?_of_finished (.reloaded _) hm' (Nat.le_succ m),
          ha.mono (Nat.le_succ m)⟩
  rcases hgoes n hlt with ⟨report', judged, left, phase, hn', -⟩ | ⟨report', hn', ha⟩
  · rw [hn] at hn'
    cases hn'
  · rw [hn] at hn'
    cases hn'
    exact ha

/-- A pass that has ended has come to a verdict on every entry of its snapshot. -/
theorem exists_judges (ht : h.Snapshots taken place) (hn : h.task? n place = some (.reloaded report))
    (hmem : (key, e) ∈ Reload.snapshot (h.state taken)) :
    ∃ k v, taken < k ∧ k < n ∧ h.Judges k place key e v := by
  obtain ⟨verdicts, hjudges, -⟩ := tallies_snapshot ht hn
  obtain ⟨i, hi, heq⟩ := List.getElem_of_mem hmem
  obtain ⟨k, hk, hkn, hj⟩ := hjudges.get hi (hjudges.length_eq ▸ hi)
  rw [List.get_eq_getElem, heq] at hj
  exact ⟨k, _, hk, hkn, hj⟩

/-! ### The end of a pass -/

/-- How many of the moves from one moment to another are turns of the call at a place. -/
def turns (h : History σ) (k n place : Nat) : Nat :=
  ((h.moves.take n).drop k).countP (Move.isTurn place)

theorem turns_succ (h : History σ) (hkn : k ≤ n) (place : Nat) :
    h.turns k (n + 1) place =
      h.turns k n place + (h.moves[n]?.toList).countP (Move.isTurn place) := by
  rw [turns, turns, List.take_add_one, List.drop_append, List.countP_append]
  cases ha : h.moves[n]? with
  | none => simp
  | some a =>
    have hlt : n < h.moves.length := (List.getElem?_eq_some_iff.1 ha).1
    rw [List.length_take, Nat.min_eq_left hlt.le, Nat.sub_eq_zero_of_le hkn, List.drop_zero]

theorem turns_succ_of_turn (hkn : k ≤ n) (hmove : h.moves[n]? = some (.turn place)) :
    h.turns k (n + 1) place = h.turns k n place + 1 := by
  rw [h.turns_succ hkn, hmove]
  simp [Move.isTurn]

theorem turns_succ_of_ne (hkn : k ≤ n) (hmove : h.moves[n]? ≠ some (.turn place)) :
    h.turns k (n + 1) place = h.turns k n place := by
  rw [h.turns_succ hkn]
  cases ha : h.moves[n]? with
  | none => rfl
  | some a =>
    cases a with
    | turn p =>
      have hp : p ≠ place := by
        rintro rfl
        exact hmove ha
      simp [Move.isTurn, hp]
    | get | reload | invalidate | clear | world | registry => rfl

/-- **A pass ends when it gets its turns**: five for each entry that it has left, and one. -/
theorem exists_reloaded (ht : h.task? k place = some (.reloading (.checking report left phase)))
    (hkn : k ≤ n) (hturns : left.length * 5 + (4 - phase.rank) < h.turns k n place) :
    ∃ report', h.task? n place = some (.reloaded report') := by
  -- each turn leaves less to do
  have hgoes : ∀ m, k ≤ m → (∃ report', h.task? m place = some (.reloaded report')) ∨
      ∃ report' left' phase', h.task? m place = some (.reloading (.checking report' left' phase')) ∧
        left'.length * 5 + (4 - phase'.rank) + h.turns k m place ≤
          left.length * 5 + (4 - phase.rank) := by
    intro m hm
    induction m, hm using Nat.le_induction with
    | base =>
      have hzero : h.turns k k place = 0 := by simp [turns]
      exact .inr ⟨report, left, phase, ht, by omega⟩
    | succ m hm ih =>
      rcases ih with ⟨report', hm'⟩ | ⟨report', left', phase', hm', hle⟩
      · exact .inl ⟨report', task?_of_finished (.reloaded _) hm' (Nat.le_succ m)⟩
      · by_cases hmove : h.moves[m]? = some (.turn place)
        · obtain ⟨u, hturn⟩ : ∃ u, h.Turn m place (.reloading (.checking report' left' phase')) u :=
            ⟨_, turn_of_move hmove hm'⟩
          rw [turns_succ_of_turn hm hmove]
          cases left' with
          | nil =>
            obtain rfl := hturn.steps.reloaded_of_nil rfl
            exact .inl ⟨_, hturn.after⟩
          | cons p rest =>
            have hrank := phase'.rank_le
            rw [List.length_cons] at hle
            rcases hturn.steps.verdict_or_phase rfl with ⟨v, rfl⟩ | ⟨phase'', rfl, hlt⟩
            · refine .inr ⟨_, rest, .fresh, hturn.after, ?_⟩
              rw [Phase.rank]
              omega
            · refine .inr ⟨_, p :: rest, phase'', hturn.after, ?_⟩
              have hrank' := phase''.rank_le
              rw [List.length_cons]
              omega
        · rw [turns_succ_of_ne hm hmove]
          rcases task?_succ_of_some hm' with hsame | ⟨u, hturn⟩
          · exact .inr ⟨report', left', phase', hsame, hle⟩
          · exact absurd hturn.move hmove
  rcases hgoes n hkn with hend | ⟨report', left', phase', -, hle⟩
  · exact hend
  · omega

/-! ### What a pass changes -/

/-- With a move the pass at a place, which has taken its snapshot before, swaps an entry for a new one: it
has taken the entry in its snapshot, the entry may change and has been installed ever since, and the new
one is built from what the pass itself has resolved for the contract of the entry, with another
fingerprint. -/
structure Swaps (h : History σ) (n place : Nat) (key : Key) (current new : Entry) (taken : Nat) :
    Prop where
  snapshot : h.Snapshots taken place
  lt : taken < n
  mem : (key, current) ∈ (h.state taken).entries
  watchable : current.watchable = true
  installed : ∀ m, taken ≤ m → m ≤ n → h.slot m key = some current
  built : ∃ report rest b i began read made,
    h.Builds place (.check report key current rest) b i began read made ∧ taken < began ∧ made < n ∧
      new = .new current.descriptor i b
  fingerprint : new.fingerprint ≠ current.fingerprint
  entries : (h.state (n + 1)).entries = State.swapEntry key new (h.state n).entries
  judges : h.Judges n place key current .replaced

theorem Builds.fingerprint_ne {i : Instance} {b : Binding} {began read made : Nat}
    (hb : h.Builds place (.check report key current rest) b i began read made) :
    b.fingerprint ≠ current.fingerprint :=
  fingerprint_ne_of_bound hb.makes.before

theorem Installs.judges {i : Instance} {b : Binding}
    (hi : h.Installs n place (.check report key current rest) b i) :
    h.Judges n place key current .replaced := by
  obtain ⟨u, ht⟩ := hi.turn
  obtain ⟨e, he, hid⟩ := hi.admits
  refine ⟨report, rest, .made b i, ?_⟩
  have hu : u = .reloading (.checking (report.add .replaced) rest .fresh) := by
    have hs := ht.steps
    generalize h.state (n + 1) = r at hs
    cases hs with
    | reloading hs =>
      cases hs with
      | failed hp | reused hp | went hp => simp [Phase.rank] at hp
      | replaced => rfl
      | skipped hne => exact absurd hid (hne e he)
    | reloaded hs => cases hs
  exact hu ▸ ht

theorem Builds.exists_snapshot {i : Instance} {b : Binding} {began read made : Nat}
    (hb : h.Builds place (.check report key current rest) b i began read made) :
    ∃ taken, taken < began ∧ h.Snapshots taken place ∧
      (key, current) ∈ Reload.snapshot (h.state taken) := by
  obtain ⟨taken, htaken, hsnapshot, hsuffix⟩ :=
    History.exists_snapshot hb.resolves.begins.before
  exact ⟨taken, htaken, hsnapshot, hsuffix.mem List.mem_cons_self⟩

/-- An entry that a pass replaces has been installed since the snapshot: the one that stands there has its
identity. -/
theorem Installs.slot_since {i : Instance} {b : Binding}
    (hi : h.Installs n place (.check report key current rest) b i)
    (hmem : (key, current) ∈ Reload.snapshot (h.state taken)) (hm : taken ≤ m) (hmn : m ≤ n) :
    h.slot m key = some current := by
  obtain ⟨e, he, hid⟩ := hi.admits
  exact (slot_between (slot_of_mem_snapshot hmem).1 he hid.symm).2.2 m hm hmn

/-- What a pass puts in place takes the place of an entry of its snapshot. -/
theorem Installs.swaps {i : Instance} {b : Binding}
    (hi : h.Installs n place (.check report key current rest) b i) :
    ∃ taken, h.Swaps n place key current (.new current.descriptor i b) taken := by
  obtain ⟨u, ht⟩ := hi.turn
  obtain ⟨began, read, made, hmade, hb, -⟩ := exists_builds ht.before
  obtain ⟨taken, htaken, hsnapshot, hmem⟩ := hb.exists_snapshot
  have hlt : taken < n := by
    have := hb.resolves.lt
    have := hb.lt
    omega
  exact ⟨taken, hsnapshot, hlt, (List.mem_filter.1 hmem).1, (slot_of_mem_snapshot hmem).2,
    fun m hm hmn => hi.slot_since hmem hm hmn,
    ⟨report, rest, b, i, began, read, made, hb, htaken, hmade, rfl⟩, hb.fingerprint_ne, hi.entries,
    hi.judges⟩

/-- **All that a pass does to the entries is to swap entries of its snapshot.** -/
theorem Turn.entries_or_swaps {t : Reload} (ht : h.Turn n place (.reloading t) u) :
    (h.state (n + 1)).entries = (h.state n).entries ∨
      ∃ key current new taken, h.Swaps n place key current new taken := by
  rcases ht.entries with heq | ⟨j, b, i, hj, hi⟩
  · exact .inl heq
  · cases j with
    | get key d => cases hj
    | check report key current rest =>
      obtain ⟨taken, hs⟩ := hi.swaps
      exact .inr ⟨key, current, _, taken, hs⟩

theorem Swaps.slot_eq {new : Entry} (hs : h.Swaps n place key current new taken) (k : Key) :
    h.slot (n + 1) k = if k = key then some new else h.slot n k := by
  rw [slot, State.entry?, hs.entries]
  by_cases hk : k = key
  · subst hk
    rw [if_pos rfl, State.lookup_swapEntry_self (hs.installed n hs.lt.le (Nat.le_refl n))]
  · rw [if_neg hk, State.lookup_swapEntry_of_ne hk]
    rfl

/-- A pass changes the slot of a contract type only when it swaps the entry that stands there. -/
theorem Turn.slot_or_swaps {t : Reload} (ht : h.Turn n place (.reloading t) u) (key : Key) :
    h.slot (n + 1) key = h.slot n key ∨
      ∃ current new taken, h.Swaps n place key current new taken := by
  rcases ht.entries_or_swaps with heq | ⟨key', current, new, taken, hs⟩
  · exact .inl (by rw [slot, State.entry?, heq]; rfl)
  · by_cases hkey : key = key'
    · subst hkey
      exact .inr ⟨current, new, taken, hs⟩
    · exact .inl (by rw [hs.slot_eq, if_neg hkey])

/-- With a move the pass at a place cannot resolve what it looks at, or cannot make an instance of it. -/
def Fails (h : History σ) (n place : Nat) (key : Key) : Prop :=
  ∃ report current rest phase cause u,
    h.Turn n place (.reloading (.checking report ((key, current) :: rest) phase)) u ∧
      (phase.next h.setup current.descriptor (h.state n)).1 = .error cause

theorem Fails.judges (hf : h.Fails n place key) : ∃ current, h.Judges n place key current .failed := by
  obtain ⟨report, current, rest, phase, cause, u, ht, hcause⟩ := hf
  refine ⟨current, report, rest, phase, ?_⟩
  have hu : u = .reloading (.checking (report.add .failed) rest .fresh) := by
    have hs := ht.steps
    generalize h.state (n + 1) = r at hs
    cases hs with
    | reloading hs =>
      cases hs with
      | failed => rfl
      | reused _ hn | went _ hn =>
        rw [hn] at hcause
        cases hcause
      | replaced | skipped => cases hcause
    | reloaded hs => cases hs
  exact hu ▸ ht

/-- **A pass swaps only what it looked at.** In every run, a pass leaves the entries alone with each of
its moves or swaps an entry of its snapshot, which is still installed, for a new one (`Swaps`). It adds no
key and takes none away; an entry that cannot change stays, and so does one that was not installed under
its key when the snapshot was taken. And a pass that fails to resolve what it looks at, or to make an
instance of it, changes nothing under this key with any of its moves. -/
theorem pass_swaps_snapshot (h : History σ) :
    (∀ n place t u, h.Turn n place (.reloading t) u →
      (h.state (n + 1)).entries = (h.state n).entries ∨
        ∃ key current new taken, h.Swaps n place key current new taken) ∧
    (∀ n place t u, h.Turn n place (.reloading t) u →
      (h.state (n + 1)).entries.map Prod.fst = (h.state n).entries.map Prod.fst) ∧
    (∀ n place t u key e, h.Turn n place (.reloading t) u → h.slot n key = some e →
      e.watchable = false → h.slot (n + 1) key = some e) ∧
    (∀ n place t u key e taken, h.Turn n place (.reloading t) u → h.Snapshots taken place →
      h.slot n key = some e → h.slot taken key ≠ some e → h.slot (n + 1) key = some e) ∧
    ∀ n m place key t u, h.Fails n place key → h.Turn m place (.reloading t) u →
      h.slot (m + 1) key = h.slot m key := by
  refine ⟨fun n place t u ht => ht.entries_or_swaps, ?_, ?_, ?_, ?_⟩
  · intro n place t u ht
    rcases ht.entries_or_swaps with heq | ⟨key, current, new, taken, hs⟩
    · rw [heq]
    · rw [hs.entries, State.keys_swapEntry]
  · intro n place t u key e ht he hw
    rcases ht.slot_or_swaps key with heq | ⟨current, new, taken, hs⟩
    · rw [heq, he]
    · obtain rfl : e = current :=
        Option.some.inj (he.symm.trans (hs.installed n hs.lt.le (Nat.le_refl n)))
      rw [hs.watchable] at hw
      cases hw
  · intro n place t u key e taken ht hsnapshot he hne
    rcases ht.slot_or_swaps key with heq | ⟨current, new, taken', hs⟩
    · rw [heq, he]
    · obtain rfl : taken' = taken := hs.snapshot.unique hsnapshot
      obtain rfl : e = current :=
        Option.some.inj (he.symm.trans (hs.installed n hs.lt.le (Nat.le_refl n)))
      exact absurd (hs.installed taken' (Nat.le_refl _) hs.lt.le) hne
  · intro n m place key t u hf ht
    rcases ht.slot_or_swaps key with heq | ⟨current, new, taken, hs⟩
    · exact heq
    · -- one verdict on the entry cannot be both that it failed and that it was replaced
      obtain ⟨current', hj⟩ := hf.judges
      cases (hj.unique hs.judges).2

end History

/-! ### Three passes over a flag -/

section Flag

/-- A contract whose locator names a variable that is not set. -/
def fixedDeclaration : Declaration :=
  ⟨"app::Fixed", true, some "@FLAGS@", [⟨"flag", "bool", some "f", some "false", 0⟩]⟩

def fixedEntry : Entry :=
  .new ⟨"app::Fixed", "@FLAGS@", [⟨"flag", .bool, "f", "false"⟩]⟩
    ⟨2, ⟨"app/Fixed", "app::Fixed", [⟨"flag", .bool false⟩]⟩⟩
    ⟨"app::Fixed", [⟨"flag", .bool, "f", "false", .bool false, true⟩], "f=false\n", none, false,
      [.unresolvedVariable "@FLAGS@" "FLAGS"]⟩

/-- The entry of the flag, by the identity of its instance. -/
def flagEntry (id : Nat) (text : String) (flag : Bool) : Entry :=
  .new flagDescriptor (flagInstance id flag) (flagBinding text flag)

/-- The first pass finds the file edited. While the second is under way, the entry that it looks at is
dropped and another get installs a new one. The third finds a text that is no flag. -/
def passes : History String where
  setup := pairSetup
  world := "f=true\n"
  metrics := true
  moves := [.get 0 flagDeclaration, .turn 0, .turn 0, .turn 0, .turn 0, .turn 0, .turn 0,
    .get 1 fixedDeclaration, .turn 1, .turn 1, .turn 1, .turn 1, .turn 1, .turn 1,
    .world "f=false\n", .reload, .turn 2, .turn 2, .turn 2, .turn 2, .turn 2, .turn 2, .turn 2,
    .world "f=true\n", .reload, .turn 3, .turn 3, .turn 3, .turn 3, .invalidate 0,
    .get 0 flagDeclaration, .turn 4, .turn 4, .turn 4, .turn 4, .turn 4, .turn 4, .turn 3, .turn 3,
    .world "f=maybe\n", .reload, .turn 5, .turn 5, .turn 5, .turn 5]

theorem turn_passes :
    (∃ t u, passes.Turn 21 2 (.reloading t) u) ∧ ∃ t u, passes.Turn 38 3 (.reloading t) u := by
  have h21 : passes.task? 21 2 = some (.reloading (.checking .zero [(0, flagEntry 1 "true" true)]
      (.made (flagBinding "false" false) (flagInstance 3 false)))) := by decide +kernel
  have h38 : passes.task? 38 3 = some (.reloading (.checking .zero [(0, flagEntry 3 "false" false)]
      (.made (flagBinding "true" true) (flagInstance 5 true)))) := by decide +kernel
  exact ⟨⟨_, _, History.turn_of_move rfl h21⟩, _, _, History.turn_of_move rfl h38⟩

theorem snapshots_passes : passes.Snapshots 25 3 := by
  have ht : passes.task? 25 3 = some (.reloading .start) := by decide +kernel
  exact History.turn_of_move rfl ht

theorem fails_passes : passes.Fails 44 5 0 := by
  have ht : passes.task? 44 5 = some (.reloading (.checking .zero [(0, flagEntry 4 "true" true)]
      (.observed ⟨some ⟨"flags.properties"⟩, .read "f=maybe\n", []⟩))) := by decide +kernel
  have hnext : (Phase.next passes.setup flagDescriptor (passes.state 44)
      (.observed ⟨some ⟨"flags.properties"⟩, .read "f=maybe\n", []⟩)).1 =
      .error (.resolution ⟨"app::Flags", "flag", "f", "maybe", .bool, .invalid "maybe" .bool .notBoolean⟩) := by
    decide +kernel
  exact ⟨_, _, _, _, _, _, History.turn_of_move rfl ht, hnext⟩

theorem pass_swaps_snapshot_passes :
    (∃ current new taken, passes.Swaps 21 2 0 current new taken) ∧
    (passes.state 22).entries.map Prod.fst = (passes.state 21).entries.map Prod.fst ∧
    fixedEntry.watchable = false ∧ passes.slot 22 1 = some fixedEntry ∧
    passes.Snapshots 25 3 ∧ passes.slot 25 0 ≠ some (flagEntry 4 "true" true) ∧
    passes.slot 39 0 = some (flagEntry 4 "true" true) ∧
    passes.Fails 44 5 0 ∧ passes.slot 45 0 = passes.slot 44 0 := by
  obtain ⟨h1, h2, h3, h4, h5⟩ := History.pass_swaps_snapshot passes
  obtain ⟨⟨t, u, ht⟩, t', u', ht'⟩ := turn_passes
  have hslots : passes.slot 21 1 = some fixedEntry ∧
      passes.slot 38 0 = some (flagEntry 4 "true" true) ∧
      passes.slot 25 0 ≠ some (flagEntry 4 "true" true) := by decide +kernel
  obtain ⟨_, _, _, _, _, _, hfails, -⟩ := fails_passes
  have hchanged : passes.slot 22 0 ≠ passes.slot 21 0 := by decide +kernel
  refine ⟨?_, h2 _ _ _ _ ht, rfl, h3 _ _ _ _ _ _ ht hslots.1 rfl, snapshots_passes, hslots.2.2,
    h4 _ _ _ _ _ _ _ ht' snapshots_passes hslots.2.1 hslots.2.2, fails_passes,
    h5 _ _ _ _ _ _ fails_passes hfails⟩
  rcases h1 _ _ _ _ ht with heq | ⟨key, current, new, taken, hs⟩
  · exact absurd (congrArg (fun entries => entries.lookup 0) heq) hchanged
  · obtain rfl : key = 0 := by
      by_contra hkey
      exact hchanged (by rw [hs.slot_eq, if_neg (Ne.symm hkey)])
    exact ⟨current, new, taken, hs⟩

end Flag

end TypedConfig.Cache
