import TypedConfig.Proofs.Cache.Entries
import TypedConfig.Proofs.Cache.Steps
import TypedConfig.Proofs.Module.Agreement

/-!
What every entry comes from. Whatever calls are made on a cache and however their steps are mixed, each
contract type has one entry at most, and each entry was made from one binding of its checked contract:
its instance has that binding's values and its fingerprint is that binding's (`sound_run`).
-/

namespace TypedConfig.Cache

open Contract (Declaration Descriptor)
open Resolution (Binding)
open TypedConfig.Module (Factory Loaded slotsOf)

/-! ### Entries -/

/-- A contract that has passed its check. -/
def Checked (d : Descriptor) : Prop := ∃ declared : Declaration, declared.validate = .ok d

/-- The type name of the instance that a factory makes as number `n`. -/
def typeNameOf (f : Factory) (contract : String) (n : Nat) : String :=
  match f with
  | .bytecode => Module.synthesizedName contract n
  | .dispatch => Module.internalName contract

/-- An instance that is made has the contract and the values of its binding, whichever factory makes it. -/
theorem table_of_produce {f : Factory} {n : Nat} {d : Descriptor} {b : Binding} {table : Loaded}
    (hd : Checked d) (hb : b.Of d) (h : (f.produce n d b).2 = .ok table) :
    table = ⟨typeNameOf f d.typeName n, d.typeName, slotsOf b⟩ := by
  obtain ⟨declared, hd⟩ := hd
  cases f with
  | dispatch =>
    cases h
    rfl
  | bytecode =>
    rcases Module.produce_bytecode_cases hb (Contract.nodup_names_of_validate hd) n with
      ⟨-, hok⟩ | ⟨-, e, herror, -⟩
    · rw [hok] at h
      cases h
      rfl
    · rw [herror] at h
      cases h

theorem slots_of_produce {f : Factory} {n : Nat} {d : Descriptor} {b : Binding} {table : Loaded}
    (hd : Checked d) (hb : b.Of d) (h : (f.produce n d b).2 = .ok table) :
    table.slots = slotsOf b := by
  rw [table_of_produce hd hb h]

/-- An entry that was made from a binding of its contract. -/
structure Entry.MadeFrom (e : Entry) (b : Binding) : Prop where
  checked : Checked e.descriptor
  binding : b.Of e.descriptor
  slots : e.inst.table.slots = slotsOf b
  fingerprint : e.fingerprint = b.fingerprint
  watchable : e.watchable = b.watchable
  warnings : e.warnings = b.warnings

/-- An entry that was made from some binding. -/
def Entry.Sound (e : Entry) : Prop := ∃ b, e.MadeFrom b

theorem Entry.madeFrom_new {d : Descriptor} {i : Instance} {b : Binding} (hd : Checked d)
    (hb : b.Of d) (hi : i.table.slots = slotsOf b) : (Entry.new d i b).MadeFrom b :=
  ⟨hd, hb, hi, rfl, rfl, rfl⟩

/-! ### Builds -/

/-- A build that works on a binding of its contract. -/
def Phase.Sound (d : Descriptor) : Phase → Prop
  | .bound b => b.Of d
  | .made b i => b.Of d ∧ i.table.slots = slotsOf b
  | _ => True

section Phase

variable {σ : Type} {setup : Setup σ} {d : Descriptor} {s r : State σ} {p q : Phase}

theorem entries_make (setup : Setup σ) (d : Descriptor) (b : Binding) (s : State σ) :
    (Phase.make setup d b s).2.entries = s.entries := by
  unfold Phase.make
  rcases setup.factory.produce (s.begun + 1) d b with ⟨assembled, e | table⟩
  · rfl
  · rfl

theorem entries_next (setup : Setup σ) (d : Descriptor) (s : State σ) (p : Phase) :
    (p.next setup d s).2.entries = s.entries := by
  cases p with
  | observed o =>
    simp only [Phase.next]
    split <;> rfl
  | bound b => exact entries_make setup d b s
  | _ => rfl

theorem Phase.exists_of_make {b : Binding} (h : Phase.make setup d b s = (.ok q, r)) :
    ∃ i, q = .made b i ∧ (setup.factory.produce (s.begun + 1) d b).2 = .ok i.table := by
  simp only [Phase.make] at h
  split at h
  · cases h
  · rename_i table htable
    cases h
    exact ⟨_, rfl, htable⟩

theorem Phase.sound_next (hd : Checked d) (hp : p.Sound d)
    (h : p.next setup d s = (.ok q, r)) : q.Sound d := by
  cases p with
  | fresh =>
    simp only [Phase.next] at h
    cases h
    trivial
  | approached a =>
    simp only [Phase.next] at h
    cases h
    trivial
  | observed o =>
    simp only [Phase.next] at h
    split at h
    · rename_i b hb
      cases h
      exact Resolution.of_bind hb
    · cases h
  | bound b =>
    obtain ⟨i, rfl, htable⟩ := Phase.exists_of_make h
    exact ⟨hp, slots_of_produce hd hp htable⟩
  | made b i =>
    simp only [Phase.next] at h
    cases h
    exact hp

end Phase

/-! ### States -/

/-- A state with one entry at most for each contract type, each of which was made from a binding. -/
structure State.Sound {σ : Type} (s : State σ) : Prop where
  nodup : (s.entries.map Prod.fst).Nodup
  entries : ∀ p ∈ s.entries, p.2.Sound

namespace State

variable {σ : Type} {s r : State σ}

theorem sound_new (world : σ) (metrics : Bool) : (new world metrics).Sound :=
  ⟨List.nodup_nil, by simp [new]⟩

theorem Sound.of_entries_eq (h : s.Sound) (he : r.entries = s.entries) : r.Sound :=
  ⟨he ▸ h.nodup, he ▸ h.entries⟩

theorem Sound.invalidate (h : s.Sound) (key : Key) : (s.invalidate key).2.Sound := by
  unfold State.invalidate
  split
  · exact h
  · refine ⟨?_, fun p hp => h.entries p (List.mem_of_mem_filter hp)⟩
    exact h.nodup.sublist (List.filter_sublist.map _)

theorem Sound.clear (_ : s.Sound) : s.clear.Sound :=
  ⟨List.nodup_nil, by simp [State.clear, recordSize]⟩

/-- A step of a build keeps what entries come from. -/
theorem Sound.of_next (h : s.Sound) {setup : Setup σ} {d : Descriptor} {p : Phase}
    {o : Except CacheError Phase} (hn : p.next setup d s = (o, r)) : r.Sound := by
  have he := entries_next setup d s p
  rw [hn] at he
  exact h.of_entries_eq he

theorem Sound.swap (h : s.Sound) (key : Key) {new : Entry} (hnew : new.Sound) :
    Sound { s with entries := swapEntry key new s.entries } := by
  refine ⟨(keys_swapEntry key new s.entries).symm ▸ h.nodup, fun p hp => ?_⟩
  rcases mem_swapEntry hp with rfl | hp
  · exact hnew
  · exact h.entries p hp

theorem Sound.install (h : s.Sound) {key : Key} {new : Entry} (hnone : s.entry? key = none)
    (hnew : new.Sound) : (recordSize { s with entries := s.entries ++ [(key, new)] }).Sound := by
  have hkey : key ∉ s.entries.map Prod.fst := by
    intro hmem
    obtain ⟨p, hp, rfl⟩ := List.mem_map.1 hmem
    have := List.lookup_eq_none_iff.1 hnone p hp
    simp at this
  refine ⟨?_, fun p hp => ?_⟩
  · show ((s.entries ++ [(key, new)]).map Prod.fst).Nodup
    rw [List.map_append, List.nodup_append]
    refine ⟨h.nodup, by simp, ?_⟩
    rintro k hk k' hk' rfl
    rw [List.map_singleton, List.mem_singleton] at hk'
    rw [hk'] at hk
    exact hkey hk
  · rcases List.mem_append.1 hp with hp | hp
    · exact h.entries p hp
    · rw [List.mem_singleton.1 hp]
      exact hnew

end State

/-! ### Calls -/

/-- A get that works on a checked contract. -/
def Get.Sound : Get → Prop
  | .lookup _ _ => True
  | .building _ d phase => Checked d ∧ phase.Sound d

/-- A pass that looks at entries that were made from bindings. -/
def Reload.Sound : Reload → Prop
  | .start => True
  | .checking _ left phase =>
    (∀ p ∈ left, p.2.Sound) ∧ ∀ p ∈ left.head?, phase.Sound p.2.descriptor

/-- The pass without the entry that it looks at. -/
theorem Reload.Sound.rest {report report' : Report} {p : Key × Entry} {rest : List (Key × Entry)}
    {phase : Phase} (h : (checking report (p :: rest) phase).Sound) :
    (checking report' rest .fresh).Sound :=
  ⟨fun q hq => h.1 q (List.mem_cons_of_mem _ hq), fun _ _ => trivial⟩

def Task.Sound : Task → Prop
  | .getting g => g.Sound
  | .reloading r => r.Sound
  | _ => True

section Step

variable {σ : Type} {setup : Setup σ} {s : State σ}

theorem Entry.Sound.checked {e : Entry} (h : e.Sound) : Checked e.descriptor := by
  obtain ⟨b, hb⟩ := h
  exact hb.checked

theorem sound_noteMade (hs : s.Sound) (d : Descriptor) (phase : Phase) :
    (Get.noteMade d phase s).Sound := by
  unfold Get.noteMade
  split
  · exact hs.of_entries_eq rfl
  · exact hs

theorem Get.sound_step {g : Get} {o : Get ⊕ Except CacheError Instance} {r : State σ} (hs : s.Sound)
    (hg : g.Sound) (h : g.step setup s = (o, r)) : r.Sound ∧ ∀ g', o = .inl g' → g'.Sound := by
  cases steps h with
  | hit => exact ⟨hs, by simp⟩
  | refused => exact ⟨hs.of_entries_eq rfl, by simp⟩
  | begun _ hd =>
    refine ⟨hs, ?_⟩
    rintro g' ⟨⟩
    exact ⟨⟨_, hd⟩, trivial⟩
  | failed _ hn => exact ⟨(hs.of_next hn).of_entries_eq rfl, by simp⟩
  | @went key d _ _ next phase _ hn =>
    refine ⟨sound_noteMade (hs.of_next hn) d next, ?_⟩
    rintro g' ⟨⟩
    exact ⟨hg.1, Phase.sound_next hg.1 hg.2 hn⟩
  | dropped => exact ⟨hs.of_entries_eq rfl, by simp⟩
  | @installed key d b i _ hnone =>
    obtain ⟨hd, hb, hi⟩ := hg
    exact ⟨hs.install hnone ⟨b, Entry.madeFrom_new hd hb hi⟩, by simp⟩

theorem Reload.sound_step {t : Reload} {o : Reload ⊕ Report} {r : State σ} (hs : s.Sound)
    (ht : t.Sound) (h : t.step setup s = (o, r)) : r.Sound ∧ ∀ u, o = .inl u → u.Sound := by
  cases steps h with
  | begun =>
    refine ⟨hs.of_entries_eq rfl, ?_⟩
    rintro u ⟨⟩
    exact ⟨fun p hp => hs.entries p (List.mem_of_mem_filter hp), fun p _ => trivial⟩
  | ended => exact ⟨hs, by simp⟩
  | failed _ hn =>
    refine ⟨(hs.of_next hn).of_entries_eq rfl, ?_⟩
    rintro u ⟨⟩
    exact ht.rest
  | reused _ hn =>
    refine ⟨(hs.of_next hn).of_entries_eq rfl, ?_⟩
    rintro u ⟨⟩
    exact ht.rest
  | went _ hn =>
    refine ⟨hs.of_next hn, ?_⟩
    rintro u ⟨⟩
    refine ⟨ht.1, ?_⟩
    rintro p ⟨⟩
    exact Phase.sound_next (ht.1 _ List.mem_cons_self).checked (ht.2 _ rfl) hn
  | @replaced report key rest b i =>
    obtain ⟨hb, hi⟩ := ht.2 _ rfl
    have hd := (ht.1 _ List.mem_cons_self).checked
    refine ⟨(hs.swap key ⟨b, Entry.madeFrom_new hd hb hi⟩).of_entries_eq rfl, ?_⟩
    rintro u ⟨⟩
    exact ht.rest
  | skipped =>
    refine ⟨hs, ?_⟩
    rintro u ⟨⟩
    exact ht.rest

theorem Task.sound_step (setup : Setup σ) {t : Task} (hs : s.Sound) (ht : t.Sound) :
    (t.step setup s).2.Sound ∧ (t.step setup s).1.Sound := by
  cases t with
  | getting g =>
    rcases h : g.step setup s with ⟨g' | result, r⟩ <;> simp only [step, h]
    · obtain ⟨hr, hg'⟩ := Get.sound_step hs ht h
      exact ⟨hr, hg' g' rfl⟩
    · exact ⟨(Get.sound_step hs ht h).1, trivial⟩
  | reloading u =>
    rcases h : u.step setup s with ⟨u' | report, r⟩ <;> simp only [step, h]
    · obtain ⟨hr, hu'⟩ := Reload.sound_step hs ht h
      exact ⟨hr, hu' u' rfl⟩
    · exact ⟨(Reload.sound_step hs ht h).1, trivial⟩
  | got | reloaded => exact ⟨hs, trivial⟩

end Step

/-! ### Runs -/

/-- A machine all of whose entries come from bindings, those that are still to be installed as well. -/
structure Machine.Sound {σ : Type} (m : Machine σ) : Prop where
  state : m.state.Sound
  tasks : ∀ t ∈ m.tasks, t.Sound

namespace Machine

variable {σ : Type} {setup : Setup σ} {m : Machine σ}

theorem Sound.turn (h : m.Sound) (place : Nat) : (m.move setup (.turn place)).Sound := by
  cases ht : m.tasks[place]? with
  | none =>
    simp only [move, ht]
    exact h
  | some t =>
    obtain ⟨hstate, htask⟩ := Task.sound_step setup h.state
      (h.tasks t (List.mem_of_getElem? ht))
    simp only [move, ht]
    refine ⟨hstate, fun u hu => ?_⟩
    rcases List.mem_or_eq_of_mem_set hu with hu | rfl
    · exact h.tasks u hu
    · exact htask

theorem Sound.move (h : m.Sound) (a : Move σ) : (m.move setup a).Sound := by
  have hbegin : ∀ t : Task, t.Sound → ∀ u ∈ m.tasks ++ [t], u.Sound := by
    intro t ht u hu
    rcases List.mem_append.1 hu with hu | hu
    · exact h.tasks u hu
    · rw [List.mem_singleton.1 hu]
      exact ht
  cases a with
  | get key declared => exact ⟨h.state, hbegin _ trivial⟩
  | reload => exact ⟨h.state, hbegin _ trivial⟩
  | turn place => exact h.turn place
  | invalidate key => exact ⟨h.state.invalidate key, h.tasks⟩
  | clear => exact ⟨h.state.clear, h.tasks⟩
  | world w => exact ⟨h.state.of_entries_eq rfl, h.tasks⟩
  | registry r => exact ⟨h.state.of_entries_eq rfl, h.tasks⟩

/-- **Every entry of a cache was made from one binding of its checked contract**, in every run. -/
theorem sound_run (setup : Setup σ) (world : σ) (metrics : Bool) (moves : List (Move σ)) :
    (run setup (new world metrics) moves).Sound := by
  have h : (new world metrics).Sound := ⟨State.sound_new world metrics, by simp [new]⟩
  generalize new world metrics = m at h
  unfold run
  induction moves generalizing m with
  | nil => exact h
  | cons a moves ih => exact ih _ (h.move a)

end Machine

/-- A state that a cache is in after some run. -/
def State.Reachable {σ : Type} (setup : Setup σ) (s : State σ) : Prop :=
  ∃ world metrics moves, (Machine.run setup (.new world metrics) moves).state = s

theorem State.Reachable.sound {σ : Type} {setup : Setup σ} {s : State σ} (h : s.Reachable setup) :
    s.Sound := by
  obtain ⟨world, metrics, moves, rfl⟩ := h
  exact (Machine.sound_run setup world metrics moves).state

end TypedConfig.Cache
