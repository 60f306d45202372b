import TypedConfig.Proofs.Cache.Gets

/-!
What an invalidation holds back. A pass never brings back what has been dropped, and a get that looks up
later finds nothing unless another get has installed in the meantime. But a get that has begun to resolve
before may still install what it has resolved, and later gets answer it (`invalidate_barrier`).
-/

namespace TypedConfig.Cache

open Contract (Declaration Descriptor)
open Resolution (Binding)

namespace History

variable {σ : Type} {h : History σ} {n k place q : Nat} {key : Key} {e : Entry} {d : Descriptor}
  {t : Task} {b : Binding} {i : Instance} {began read made put : Nat}

/-! ### What is installed where nothing was -/

theorem exists_get_installs (hk : h.slot k key = none) (he : h.slot n key = some e) (hkn : k ≤ n) :
    ∃ put q d b i, k ≤ put ∧ put < n ∧ h.Installs put q (.get key d) b i := by
  induction n, hkn using Nat.le_induction generalizing e with
  | base =>
    rw [hk] at he
    cases he
  | succ n hkn ih =>
    have hearlier : ∀ {e}, h.slot n key = some e →
        ∃ put q d b i, k ≤ put ∧ put < n + 1 ∧ h.Installs put q (.get key d) b i := by
      intro e he
      obtain ⟨put, q, d, b, i, hput, hlt, hi⟩ := ih he
      exact ⟨put, q, d, b, i, hput, hlt.trans (Nat.lt_succ_self n), hi⟩
    rcases h.slot_succ n key with heq | hd | ⟨place, j, b, i, hi, rfl⟩
    · exact hearlier (heq.symm.trans he)
    · rw [hd.slot_eq] at he
      cases he
    · cases j with
      | get key d => exact ⟨n, place, d, b, i, hkn, Nat.lt_succ_self n, hi⟩
      | check report key current rest =>
        obtain ⟨e', he', -⟩ := hi.admits
        exact hearlier he'

/-- What is installed after a moment at which nothing was has been put in place since. -/
theorem exists_origin_since (hk : h.slot k key = none) (he : h.slot n key = some e) (hkn : k ≤ n) :
    ∃ place j b i began read made put, k ≤ put ∧ put < n ∧
      h.Origin key e place j b i began read made put := by
  obtain ⟨place, j, b, i, began, read, made, put, hput, ho, hstay⟩ := exists_origin he
  refine ⟨place, j, b, i, began, read, made, put, ?_, hput, ho⟩
  by_contra hlt
  rw [hstay k (Nat.lt_of_not_le hlt) hkn] at hk
  cases hk

/-- What a pass puts in place it has resolved since the last moment at which nothing was there. -/
theorem Origin.le_began_of_check {report : Report} {current : Entry} {rest : List (Key × Entry)}
    (ho : h.Origin key e q (.check report key current rest) b i began read made put)
    (hk : h.slot k key = none) (hput : k ≤ put) : k ≤ began := by
  obtain ⟨taken, htaken, -, hmem⟩ := ho.builds.exists_snapshot
  by_contra hlt
  have hslot := ho.installs.slot_since hmem (m := k) (by omega) hput
  rw [hk] at hslot
  cases hslot

/-! ### After an invalidation -/

theorem slot_of_invalidate (hk : h.moves[k]? = some (.invalidate key)) : h.slot (k + 1) key = none :=
  Drops.slot_eq (.inl hk)

theorem Turn.ne_of_invalidate {u : Task} (hk : h.moves[k]? = some (.invalidate key))
    (ht : h.Turn n place t u) : n ≠ k := by
  rintro rfl
  rw [ht.move] at hk
  cases hk

/-- A get that looks up after an invalidation begins to build or refuses the declaration, unless another
get has installed since. -/
theorem Turn.lookup_after_invalidate {declared : Declaration} {u : Task}
    (hk : h.moves[k]? = some (.invalidate key))
    (ht : h.Turn n place (.getting (.lookup key declared)) u) (hkn : k < n) :
    (∃ d, declared.validate = .ok d ∧ u = .getting (.building key d .fresh)) ∨
      (∃ e, declared.validate = .error e ∧ u = .got key (.error (.declaration e))) ∨
      ∃ put q d b i, k < put ∧ put < n ∧ h.Installs put q (.get key d) b i := by
  have hs := ht.steps
  generalize hr : h.state (n + 1) = r at hs
  generalize hstate : h.state n = s at hs
  cases hs with
  | getting hs =>
    cases hs with
    | begun _ hd => exact .inl ⟨_, hd, rfl⟩
  | got hs =>
    cases hs with
    | refused _ hd => exact .inr (.inl ⟨_, hd, rfl⟩)
    | @hit _ _ _ e he =>
      have hslot : h.slot n key = some e := by rw [slot, hstate, he]
      obtain ⟨put, q, d, b, i, hput, hlt, hi⟩ :=
        exists_get_installs (slot_of_invalidate hk) hslot hkn
      exact .inr (.inr ⟨put, q, d, b, i, hput, hlt, hi⟩)

/-- A get that installs after an invalidation was building then, or has looked up since. -/
theorem Installs.building_or_lookup (hk : h.moves[k]? = some (.invalidate key))
    (hi : h.Installs put q (.get key d) b i) (hput : k < put) :
    (∃ phase, h.task? k q = some (.getting (.building key d phase))) ∨
      ∃ l declared, k < l ∧ l < put ∧ h.Turn l q (.getting (.lookup key declared))
        (.getting (.building key d .fresh)) := by
  obtain ⟨u, ht⟩ := hi.turn
  obtain ⟨l, declared, hl, hlookup⟩ := exists_lookup ht.before
  rcases Nat.lt_or_ge k l with hkl | hlk
  · exact .inr ⟨l, declared, hkl, hl, hlookup⟩
  · have hlt : l < k := Nat.lt_of_le_of_ne hlk (hlookup.ne_of_invalidate hk)
    obtain ⟨phase, hphase, -⟩ := building_between hlookup.after ht.before hlt hput.le
    exact .inl ⟨phase, hphase⟩

/-- **What an invalidation holds back.** A get that begins after a contract type was invalidated answers an
instance that was put in place after it. The instance was resolved from before the invalidation exactly if
a get has built it that was resolving or further on when the invalidation came; so a pass never brings
back what was read before. And a get that looks up after the invalidation rebuilds from scratch, or its
declaration is refused, unless another get has installed in the meantime, which was building when the
invalidation came or has looked up since. -/
theorem invalidate_barrier (h : History σ) {k : Nat} {key : Key}
    (hk : h.moves[k]? = some (.invalidate key)) :
    (∀ n place i, h.task? (k + 1) place = none → h.task? n place = some (.got key (.ok i)) →
      ∃ e q j b began read made put, h.Origin key e q j b i began read made put ∧
        k < put ∧ put < n ∧
        (began < k ↔ ∃ d phase, j = .get key d ∧ phase ≠ .fresh ∧
          h.task? k q = some (.getting (.building key d phase)))) ∧
    ∀ n place declared u, k < n → h.Turn n place (.getting (.lookup key declared)) u →
      (∃ d, declared.validate = .ok d ∧ u = .getting (.building key d .fresh)) ∨
      (∃ e, declared.validate = .error e ∧ u = .got key (.error (.declaration e))) ∨
      ∃ put q d b i, k < put ∧ put < n ∧ h.Installs put q (.get key d) b i ∧
        ((∃ phase, h.task? k q = some (.getting (.building key d phase))) ∨
          ∃ l declared', k < l ∧ l < put ∧ h.Turn l q (.getting (.lookup key declared'))
            (.getting (.building key d .fresh))) := by
  constructor
  · intro n place i hnone hn
    -- the instance is installed when the call ends, which is after the invalidation
    obtain ⟨m, t, hm, hturn, hne, -⟩ := exists_turn hn (by rintro ⟨⟩)
    obtain ⟨g, rfl, -, e, he, rfl⟩ := hturn.steps.exists_entry hne
    have hkm : k + 1 ≤ m := by
      by_contra hlt
      obtain ⟨u, hu⟩ := exists_task?_of_le hturn.before (Nat.le_of_lt (Nat.lt_of_not_le hlt))
      rw [hnone] at hu
      cases hu
    obtain ⟨q, j, b, i, began, read, made, put, hput, hlt, ho⟩ :=
      exists_origin_since (slot_of_invalidate hk) he (hkm.trans (Nat.le_succ m))
    obtain rfl : e.inst = i := by rw [ho.entry_eq]; rfl
    refine ⟨e, q, j, b, began, read, made, put, ho, hput, by omega, ?_⟩
    cases j with
    | get key' d =>
      obtain rfl : key' = key := ho.key_eq
      obtain ⟨u, ht⟩ := ho.installs.turn
      rw [ho.builds.began_lt_iff ht.before (Nat.le_of_lt hput)]
      constructor
      · rintro ⟨phase, hne, hphase⟩
        exact ⟨d, phase, rfl, hne, hphase⟩
      · rintro ⟨d', phase, hd, hne, hphase⟩
        cases hd
        exact ⟨phase, hne, hphase⟩
    | check report key' current rest =>
      obtain rfl : key' = key := ho.key_eq
      have hle := ho.le_began_of_check (slot_of_invalidate hk) hput
      refine iff_of_false (by omega) ?_
      rintro ⟨d, phase, hj, -⟩
      cases hj
  · intro n place declared u hkn ht
    rcases ht.lookup_after_invalidate hk hkn with hbuild | hrefuse | ⟨put, q, d, b, i, hput, hlt, hi⟩
    · exact .inl hbuild
    · exact .inr (.inl hrefuse)
    · exact .inr (.inr ⟨put, q, d, b, i, hput, hlt, hi, hi.building_or_lookup hk hput⟩)

end History

/-! ### A get that an invalidation overtakes -/

section Flag

/-- The first call has read the file when the second installs its instance, the file is edited and the
contract is invalidated. The first call installs what it has read, and a third answers it. After another
invalidation a fourth call builds anew. -/
def overtaken : History String where
  setup := pairSetup
  world := "f=true\n"
  metrics := true
  moves := [.get 0 flagDeclaration, .turn 0, .turn 0, .turn 0,
    .get 0 flagDeclaration, .turn 1, .turn 1, .turn 1, .turn 1, .turn 1, .turn 1,
    .world "f=false\n", .invalidate 0, .turn 0, .turn 0, .turn 0, .get 0 flagDeclaration, .turn 2,
    .invalidate 0, .get 0 flagDeclaration, .turn 3, .turn 3, .turn 3, .turn 3, .turn 3, .turn 3]

theorem observed_overtaken : overtaken.task? 12 0 = some (.getting (.building 0 flagDescriptor
    (.observed ⟨some ⟨"flags.properties"⟩, .read "f=true\n", []⟩))) := by decide +kernel

theorem made_overtaken : overtaken.task? 15 0 = some (.getting (.building 0 flagDescriptor
    (.made (flagBinding "true" true) (flagInstance 2 true)))) := by decide +kernel

/-- A get that begins after the contract is invalidated finds an instance from before, with a value that
the source does not hold any more. -/
theorem stale_after_invalidate :
    overtaken.moves[12]? = some (.invalidate 0) ∧ overtaken.task? 13 2 = none ∧
    overtaken.Turn 17 2 (.getting (.lookup 0 flagDeclaration)) (.got 0 (.ok (flagInstance 2 true))) ∧
    (∃ began read made, overtaken.Builds 0 (.get 0 flagDescriptor) (flagBinding "true" true)
      (flagInstance 2 true) began read made ∧ began < 12) ∧
    (Resolution.resolve pairSetup.out pairSetup.locator (overtaken.state 13).world
      (overtaken.state 13).registry flagDescriptor).1 = .ok (flagBinding "false" false) := by
  have hlookup : overtaken.task? 17 2 = some (.getting (.lookup 0 flagDeclaration)) := by
    decide +kernel
  have hgot : (Task.step overtaken.setup (.getting (.lookup 0 flagDeclaration))
      (overtaken.state 17)).1 = .got 0 (.ok (flagInstance 2 true)) := by decide +kernel
  obtain ⟨began, read, made, -, hb, -⟩ := History.exists_builds (j := .get 0 flagDescriptor) made_overtaken
  refine ⟨rfl, by decide +kernel, hgot ▸ History.turn_of_move rfl hlookup,
    ⟨began, read, made, hb, ?_⟩, by decide +kernel⟩
  exact (hb.began_lt_iff made_overtaken (by omega)).2 ⟨_, by simp, observed_overtaken⟩

theorem quiet_overtaken (q : Nat) (d : Descriptor) (phase : Phase) :
    overtaken.task? 18 q ≠ some (.getting (.building 0 d phase)) := by
  intro hq
  have hall : ∀ t ∈ (overtaken.after 18).tasks, ∃ i, t = .got 0 (.ok i) := by
    have htasks : (overtaken.after 18).tasks = [.got 0 (.ok (flagInstance 2 true)),
        .got 0 (.ok (flagInstance 1 true)), .got 0 (.ok (flagInstance 2 true))] := by decide +kernel
    simp [htasks]
  obtain ⟨i, hi⟩ := hall _ (List.mem_of_getElem? hq)
  cases hi

theorem invalidate_barrier_overtaken :
    (overtaken.moves[12]? = some (.invalidate 0) ∧ overtaken.task? 13 2 = none ∧
      ∃ e q j b began read made put,
        overtaken.Origin 0 e q j b (flagInstance 2 true) began read made put ∧
        12 < put ∧ put < 18 ∧ began < 12) ∧
    (overtaken.moves[18]? = some (.invalidate 0) ∧ overtaken.task? 19 3 = none ∧
      ∃ e q j b began read made put,
        overtaken.Origin 0 e q j b (flagInstance 3 false) began read made put ∧
        18 < put ∧ put < 26 ∧ ¬ began < 18) ∧
    ∃ u, overtaken.Turn 20 3 (.getting (.lookup 0 flagDeclaration)) u ∧
      ∃ d, u = .getting (.building 0 d .fresh) := by
  have h12 : overtaken.moves[12]? = some (.invalidate 0) := rfl
  have h18 : overtaken.moves[18]? = some (.invalidate 0) := rfl
  have hgot : overtaken.task? 13 2 = none ∧
      overtaken.task? 18 2 = some (.got 0 (.ok (flagInstance 2 true))) ∧
      overtaken.task? 19 3 = none ∧
      overtaken.task? 26 3 = some (.got 0 (.ok (flagInstance 3 false))) ∧
      overtaken.task? 20 3 = some (.getting (.lookup 0 flagDeclaration)) := by decide +kernel
  obtain ⟨hnone, hgot2, hnone', hgot3, hlookup⟩ := hgot
  obtain ⟨e, q, j, b, began, read, made, put, ho, hput, hlt, hiff⟩ :=
    (History.invalidate_barrier overtaken h12).1 _ _ _ hnone hgot2
  obtain ⟨e', q', j', b', began', read', made', put', ho', hput', hlt', hiff'⟩ :=
    (History.invalidate_barrier overtaken h18).1 _ _ _ hnone' hgot3
  have hturn := History.turn_of_move (h := overtaken) (n := 20) rfl hlookup
  refine ⟨⟨h12, hnone, e, q, j, b, began, read, made, put, ho, hput, hlt, ?_⟩,
    ⟨h18, hnone', e', q', j', b', began', read', made', put', ho', hput', hlt', ?_⟩, _, hturn, ?_⟩
  · obtain ⟨_, _, _, -, hb, -⟩ := History.exists_builds (j := .get 0 flagDescriptor) made_overtaken
    obtain ⟨rfl, rfl, -⟩ := ho.builds.unique hb rfl
    exact hiff.2 ⟨_, _, rfl, by simp, observed_overtaken⟩
  · rw [hiff']
    rintro ⟨d, phase, -, -, hphase⟩
    exact quiet_overtaken _ _ _ hphase
  · rcases (History.invalidate_barrier overtaken h18).2 _ _ _ _ (by omega) hturn with
      ⟨d, -, hu⟩ | ⟨e, he, -⟩ | ⟨put, q, d, b, i, hput, hlt, hi, -⟩
    · exact ⟨d, hu⟩
    · have hd : flagDeclaration.validate = .ok flagDescriptor := by decide +kernel
      rw [hd] at he
      cases he
    · -- between the two moves nothing is installed
      obtain ⟨u, ht⟩ := hi.turn
      obtain rfl : put = 19 := by omega
      cases ht.move

end Flag

end TypedConfig.Cache
