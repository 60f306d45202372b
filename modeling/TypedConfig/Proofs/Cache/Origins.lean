import TypedConfig.Proofs.Cache.History

/-!
Where installed entries come from. In every run an entry comes under a key only when a call that has
built it puts it there (`exists_origin`), so an instance that has gone never comes back
(`slot_between`).
-/

namespace TypedConfig.Cache

open Contract (Declaration Descriptor)
open Resolution (Binding)

namespace Job

variable {σ : Type} {setup : Setup σ} {s r : State σ} {t u : Task}

/-- A step of a call leaves the entries alone, or puts in place what the call has built. -/
theorem entries_of_steps (h : t.Steps setup s u r) :
    r.entries = s.entries ∨ ∃ (j : Job) (b : Binding) (i : Instance), t = j.task (.made b i) ∧
      j.Admits (s.entries.lookup j.key) ∧ r.entries = j.put (j.entry b i) s.entries := by
  have hnext : ∀ {d : Descriptor} {p : Phase} {o r'}, p.next setup d s = (o, r') →
      r'.entries = s.entries := by
    intro d p o r' hn
    have := entries_next setup d s p
    rwa [hn] at this
  cases h with
  | getting h =>
    cases h with
    | begun => exact .inl rfl
    | went _ hn =>
      refine .inl ?_
      rw [← hnext hn]
      unfold Get.noteMade
      split <;> rfl
  | got h =>
    cases h with
    | @installed key d b i _ hnone => exact .inr ⟨.get key d, b, i, rfl, hnone, rfl⟩
    | failed _ hn =>
      have heq := hnext hn
      exact .inl heq
    | hit | refused | dropped => exact .inl rfl
  | reloading h =>
    cases h with
    | @replaced report key rest b i _ current e he hid =>
      exact .inr ⟨.check report key current rest, b, i, rfl, ⟨e, he, hid⟩, rfl⟩
    | failed _ hn | reused _ hn | went _ hn =>
      have heq := hnext hn
      exact .inl heq
    | begun | skipped => exact .inl rfl
  | reloaded h =>
    cases h
    exact .inl rfl
  | gotStays | reloadedStays => exact .inl rfl

end Job

namespace History

variable {σ : Type} {h : History σ} {n m k place place' : Nat} {key key' : Key} {e e' : Entry}
  {t u : Task} {j j' : Job} {b b' : Binding} {i i' : Instance}
  {began read made put began' read' made' put' : Nat}

/-- With a move the call at a place puts in place what it has built. -/
structure Installs (h : History σ) (n place : Nat) (j : Job) (b : Binding) (i : Instance) :
    Prop where
  turn : ∃ u, h.Turn n place (j.task (.made b i)) u
  admits : j.Admits (h.slot n j.key)
  entries : (h.state (n + 1)).entries = j.put (j.entry b i) (h.state n).entries

/-- With a move entries of a contract type are dropped. -/
def Drops (h : History σ) (n : Nat) (key : Key) : Prop :=
  h.moves[n]? = some (.invalidate key) ∨ h.moves[n]? = some .clear

theorem Turn.entries (ht : h.Turn n place t u) :
    (h.state (n + 1)).entries = (h.state n).entries ∨
      ∃ (j : Job) (b : Binding) (i : Instance), t = j.task (.made b i) ∧ h.Installs n place j b i := by
  rcases Job.entries_of_steps ht.steps with heq | ⟨j, b, i, rfl, hadmits, hput⟩
  · exact .inl heq
  · exact .inr ⟨j, b, i, rfl, ⟨u, ht⟩, hadmits, hput⟩

theorem Installs.slot_eq (hi : h.Installs n place j b i) (k : Key) :
    h.slot (n + 1) k = if k = j.key then some (j.entry b i) else h.slot n k := by
  rw [slot, State.entry?, hi.entries]
  exact Job.lookup_put hi.admits _ k

theorem Drops.slot_eq (hd : h.Drops n key) : h.slot (n + 1) key = none := by
  rcases hd with ha | ha
  · rw [History.slot, state, after_succ ha]
    exact State.entry?_invalidate_self _ _
  · rw [History.slot, state, after_succ ha]
    rfl

/-- What a move does to the entry of a contract type: nothing, or the entry is dropped, or a call puts
in place what it has built. -/
theorem slot_succ (h : History σ) (n : Nat) (key : Key) :
    h.slot (n + 1) key = h.slot n key ∨ h.Drops n key ∨
      ∃ place j b i, h.Installs n place j b i ∧ j.key = key := by
  cases h.happens n with
  | @turn place _ _ ht =>
    rcases ht.entries with heq | ⟨j, b, i, -, hi⟩
    · exact .inl (by rw [slot, State.entry?, heq]; rfl)
    · by_cases hkey : key = j.key
      · exact .inr (.inr ⟨place, j, b, i, hi, hkey.symm⟩)
      · exact .inl (by rw [hi.slot_eq, if_neg hkey])
  | @invalidate key' ha hs =>
    by_cases hkey : key = key'
    · subst hkey
      exact .inr (.inl (.inl ha))
    · exact .inl (by rw [slot, hs, State.entry?_invalidate_of_ne _ hkey]; rfl)
  | clear ha _ => exact .inr (.inl (.inr ha))
  | nothing hs | world _ hs | registry _ hs => exact .inl (by rw [slot, hs]; rfl)

/-! ### Origins -/

/-- Where an entry comes from: the call at a place has built it, and has put it under its key with the
move `put`. -/
structure Origin (h : History σ) (key : Key) (e : Entry) (place : Nat) (j : Job) (b : Binding)
    (i : Instance) (began read made put : Nat) : Prop where
  builds : h.Builds place j b i began read made
  lt : made < put
  installs : h.Installs put place j b i
  key_eq : j.key = key
  entry_eq : e = j.entry b i

/-- **Every installed entry was put in place by the call that has built it**, and has been installed ever
since. -/
theorem exists_origin (he : h.slot n key = some e) :
    ∃ place j b i began read made put, put < n ∧ h.Origin key e place j b i began read made put ∧
      ∀ m, put < m → m ≤ n → h.slot m key = some e := by
  induction n with
  | zero => simp [slot, state, Machine.new, State.new, State.entry?] at he
  | succ n ih =>
    rcases h.slot_succ n key with heq | hd | ⟨place, j, b, i, hi, rfl⟩
    · obtain ⟨place, j, b, i, began, read, made, put, hput, ho, hstay⟩ := ih (heq.symm.trans he)
      refine ⟨place, j, b, i, began, read, made, put, hput.trans (Nat.lt_succ_self n), ho, ?_⟩
      intro m hm hmn
      rcases Nat.le_succ_iff.1 hmn with hmn | rfl
      · exact hstay m hm hmn
      · exact he
    · rw [hd.slot_eq] at he
      cases he
    · obtain ⟨u, ht⟩ := hi.turn
      obtain ⟨began, read, made, hmade, hb, -⟩ := exists_builds ht.before
      rw [hi.slot_eq, if_pos rfl] at he
      cases he
      refine ⟨place, j, b, i, began, read, made, n, Nat.lt_succ_self n, ⟨hb, hmade, hi, rfl, rfl⟩, ?_⟩
      intro m hm hmn
      obtain rfl : m = n + 1 := by omega
      rw [hi.slot_eq, if_pos rfl]

theorem Origin.unique (ho : h.Origin key e place j b i began read made put)
    (ho' : h.Origin key' e' place' j' b' i' began' read' made' put')
    (hid : e.inst.id = e'.inst.id) : key = key' ∧ e = e' ∧ put = put' ∧ place = place' ∧ j = j' := by
  obtain ⟨u, ht⟩ := ho.installs.turn
  obtain ⟨u', ht'⟩ := ho'.installs.turn
  have hi : i.id = i'.id := by
    rw [ho.entry_eq, ho'.entry_eq] at hid
    exact hid
  obtain ⟨rfl, rfl, rfl, rfl, -⟩ := ho.builds.unique ho'.builds hi
  exact ⟨ho.key_eq.symm.trans ho'.key_eq, ho.entry_eq.trans ho'.entry_eq.symm,
    ht.unique_of_made ht', rfl, rfl⟩

/-- **An instance that has gone never comes back.** If instances of one identity are installed at two
moments, they belong to one entry, which is installed all the time in between. -/
theorem slot_between (he : h.slot n key = some e) (he' : h.slot m key' = some e')
    (hid : e.inst.id = e'.inst.id) :
    key = key' ∧ e = e' ∧ ∀ k, n ≤ k → k ≤ m → h.slot k key = some e := by
  obtain ⟨place, j, b, i, began, read, made, put, hput, ho, -⟩ := exists_origin he
  obtain ⟨place', j', b', i', began', read', made', put', hput', ho', hstay⟩ := exists_origin he'
  obtain ⟨rfl, rfl, rfl, -, -⟩ := ho.unique ho' hid
  exact ⟨rfl, rfl, fun k hk hkm => hstay k (by omega) hkm⟩

end History

end TypedConfig.Cache
