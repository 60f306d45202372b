import TypedConfig.Proofs.Cache.Passes

/-!
Gets among other calls. A get looks up, and if it finds nothing it builds from the declaration with which
it has begun and goes on to its end. So every installed entry is one of a contract that was declared
(`exists_declared`).
-/

namespace TypedConfig.Cache

open Contract (Declaration Descriptor)
open Resolution (Binding)

/-! ### Steps of a get -/

section Steps

variable {σ : Type} {setup : Setup σ} {t u : Task} {s r : State σ} {key : Key} {d : Descriptor}
  {phase : Phase} {declared : Declaration}

/-- A get that looks up finds an entry and is answered; or it misses, and its declaration is checked. -/
theorem Task.Steps.hit_or_missed (hs : t.Steps setup s u r)
    (ht : t = .getting (.lookup key declared)) :
    (∃ e, s.entry? key = some e ∧ u = .got key (.ok e.inst)) ∨ s.entry? key = none ∧
      ((∃ d, declared.validate = .ok d ∧ u = .getting (.building key d .fresh)) ∨
        ∃ cause, declared.validate = .error cause ∧ u = .got key (.error (.declaration cause))) := by
  subst ht
  cases hs with
  | getting hs =>
    cases hs with
    | begun hnone hd => exact .inr ⟨hnone, .inl ⟨_, hd, rfl⟩⟩
  | got hs =>
    cases hs with
    | hit he => exact .inl ⟨_, he, rfl⟩
    | refused hnone hd => exact .inr ⟨hnone, .inr ⟨_, hd, rfl⟩⟩

theorem Task.Steps.building_or_got (hs : t.Steps setup s u r)
    (ht : t = .getting (.building key d phase)) :
    (∃ phase', u = .getting (.building key d phase') ∧ phase.rank < phase'.rank) ∨
      ∃ result, u = .got key result := by
  subst ht
  cases hs with
  | getting hs =>
    cases hs with
    | went hp hn =>
      have hrank := Phase.rank_next hn
      exact .inl ⟨_, rfl, by omega⟩
  | got => exact .inr ⟨_, rfl⟩

/-- A get that builds has just found nothing, or it was building before. -/
theorem Task.Steps.exists_of_building (hs : t.Steps setup s (.getting (.building key d phase)) r) :
    (∃ declared, t = .getting (.lookup key declared) ∧ phase = .fresh) ∨
      ∃ phase', t = .getting (.building key d phase') := by
  cases hs with
  | getting hs =>
    cases hs with
    | begun => exact .inl ⟨_, rfl, rfl⟩
    | went => exact .inr ⟨_, rfl⟩

end Steps

namespace History

variable {σ : Type} {h : History σ} {n m k place : Nat} {key : Key} {e : Entry} {d : Descriptor}
  {declared : Declaration} {phase : Phase} {t : Task} {b : Binding} {i : Instance}
  {began read made : Nat}

/-! ### The order of a get -/

theorem exists_task?_of_le (ht : h.task? n place = some t) (hm : n ≤ m) :
    ∃ u, h.task? m place = some u := by
  induction m, hm using Nat.le_induction with
  | base => exact ⟨t, ht⟩
  | succ m hm ih =>
    obtain ⟨u, hu⟩ := ih
    rcases task?_succ_of_some hu with hsame | ⟨u', hturn⟩
    · exact ⟨u, hsame⟩
    · exact ⟨u', hturn.after⟩

/-- A get that builds goes on to its end. -/
theorem building_or_got (ht : h.task? n place = some (.getting (.building key d phase)))
    (hm : n ≤ m) :
    (∃ phase', h.task? m place = some (.getting (.building key d phase')) ∧
        phase.rank ≤ phase'.rank) ∨
      ∃ result, h.task? m place = some (.got key result) := by
  induction m, hm using Nat.le_induction with
  | base => exact .inl ⟨phase, ht, Nat.le_refl _⟩
  | succ m hm ih =>
    rcases ih with ⟨phase', hm', hrank⟩ | ⟨result, hm'⟩
    · rcases task?_succ_of_some hm' with hsame | ⟨u, hturn⟩
      · exact .inl ⟨phase', hsame, hrank⟩
      · rcases hturn.steps.building_or_got rfl with ⟨phase'', rfl, hlt⟩ | ⟨result, rfl⟩
        · exact .inl ⟨phase'', hturn.after, hrank.trans hlt.le⟩
        · exact .inr ⟨result, hturn.after⟩
    · exact .inr ⟨result, task?_of_finished (.got _ _) hm' (Nat.le_succ m)⟩

theorem building_between {phase' : Phase} {d' : Descriptor}
    (hn : h.task? n place = some (.getting (.building key d phase)))
    (hm : h.task? m place = some (.getting (.building key d' phase'))) (hk : n ≤ k) (hkm : k ≤ m) :
    ∃ phase'', h.task? k place = some (.getting (.building key d phase'')) ∧
      phase.rank ≤ phase''.rank := by
  rcases building_or_got hn hk with hbuilding | ⟨result, hgot⟩
  · exact hbuilding
  · rw [task?_of_finished (.got _ _) hgot hkm] at hm
    cases hm

theorem exists_lookup (ht : h.task? n place = some (.getting (.building key d phase))) :
    ∃ l declared, l < n ∧ h.Turn l place (.getting (.lookup key declared))
      (.getting (.building key d .fresh)) := by
  induction n using Nat.strong_induction_on generalizing phase with
  | _ n ih =>
    obtain ⟨k, t, hk, hturn, -, -⟩ := exists_turn ht (by rintro ⟨⟩)
    rcases hturn.steps.exists_of_building with ⟨declared, rfl, rfl⟩ | ⟨phase', rfl⟩
    · exact ⟨k, declared, hk, hturn⟩
    · obtain ⟨l, declared, hl, hlookup⟩ := ih k hk hturn.before
      exact ⟨l, declared, hl.trans hk, hlookup⟩

/-- **What a get has built it began to resolve before a moment exactly if it was resolving or further on
at that moment.** -/
theorem Builds.began_lt_iff (hb : h.Builds place (.get key d) b i began read made)
    (hn : h.task? n place = some (.getting (.building key d (.made b i)))) (hk : k ≤ n) :
    began < k ↔ ∃ phase, phase ≠ .fresh ∧
      h.task? k place = some (.getting (.building key d phase)) := by
  constructor
  · intro hlt
    obtain ⟨phase, hphase, hrank⟩ := building_between hb.resolves.begins.after hn hlt hk
    refine ⟨phase, ?_, hphase⟩
    rintro rfl
    simp [Phase.rank] at hrank
  · rintro ⟨phase, hne, hphase⟩
    by_contra hle
    -- at its first step it would be behind the phase that it has at the moment
    rcases building_or_got hphase (Nat.le_of_not_lt hle) with ⟨phase', hbegan, hrank⟩ | ⟨_, hgot⟩
    · rw [hb.resolves.begins.before] at hbegan
      cases hbegan
      cases phase <;> simp [Phase.rank] at hrank
      exact hne rfl
    · rw [hb.resolves.begins.before] at hgot
      cases hgot

/-! ### Declarations -/

theorem exists_get_of_lookup
    (ht : h.task? n place = some (.getting (.lookup key declared))) :
    ∃ m, m < n ∧ h.moves[m]? = some (.get key declared) := by
  induction n with
  | zero => simp [task?, Machine.new] at ht
  | succ n ih =>
    rcases h.task?_succ n place with heq | ⟨t, u, hturn⟩ | ⟨-, a, t, ha, hbegins, ht'⟩
    · obtain ⟨m, hm, hmove⟩ := ih (heq.symm.trans ht)
      exact ⟨m, hm.trans (Nat.lt_succ_self n), hmove⟩
    · -- no step of a call leads to a look-up
      have hs := hturn.steps
      obtain rfl : u = _ := Option.some.inj (hturn.after.symm.trans ht)
      cases hs with
      | getting hs => cases hs
    · rw [ht] at ht'
      cases ht'
      cases hbegins
      exact ⟨n, Nat.lt_succ_self n, ha⟩

/-- What a get builds has been declared with it. -/
theorem exists_get_of_building (ht : h.task? n place = some (.getting (.building key d phase))) :
    ∃ m declared, m < n ∧ h.moves[m]? = some (.get key declared) ∧ declared.validate = .ok d := by
  obtain ⟨l, declared, hl, hturn⟩ := exists_lookup ht
  obtain ⟨m, hm, hmove⟩ := exists_get_of_lookup hturn.before
  refine ⟨m, declared, hm.trans hl, hmove, ?_⟩
  have hs := hturn.steps
  generalize h.state l = s at hs
  generalize h.state (l + 1) = r at hs
  cases hs with
  | getting hs =>
    cases hs with
    | begun _ hd => exact hd

/-- **Every installed entry is one of a contract that a get has declared.** -/
theorem exists_declared (he : h.slot n key = some e) :
    ∃ m declared, m < n ∧ h.moves[m]? = some (.get key declared) ∧
      declared.validate = .ok e.descriptor := by
  induction n using Nat.strong_induction_on generalizing e with
  | _ n ih =>
    obtain ⟨place, j, b, i, began, read, made, put, hput, ho, -⟩ := exists_origin he
    obtain ⟨u, ht⟩ := ho.installs.turn
    cases j with
    | get key' d =>
      obtain rfl : key' = key := ho.key_eq
      obtain ⟨m, declared, hm, hmove, hd⟩ := exists_get_of_building ht.before
      exact ⟨m, declared, hm.trans hput, hmove, by rw [ho.entry_eq]; exact hd⟩
    | check report key' current rest =>
      -- the entry that was replaced is of the same contract
      obtain rfl : key' = key := ho.key_eq
      obtain ⟨taken, hs⟩ := ho.installs.swaps
      obtain ⟨m, declared, hm, hmove, hd⟩ :=
        ih taken (hs.lt.trans hput) (hs.installed taken (Nat.le_refl taken) hs.lt.le)
      refine ⟨m, declared, hm.trans (hs.lt.trans hput), hmove, ?_⟩
      rw [ho.entry_eq]
      exact hd

end History

end TypedConfig.Cache
