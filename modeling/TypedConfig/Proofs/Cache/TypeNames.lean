import TypedConfig.Proofs.Cache.Alone
import TypedConfig.Proofs.Cache.Origins
import TypedConfig.Proofs.Module.TypeNames

/-!
The type names of the modules that a cache assembles. The steps with which calls make instances count the
modules, and no other steps do (`begun_eq`). So what the calls on a cache make, in the order of these steps,
is what one factory makes of the same descriptors and bindings (`exists_production`), and a type name is that
of one instance (`Builds.unique_of_typeName`, `entry_eq_of_typeName`).
-/

namespace TypedConfig.Cache

open Contract (Descriptor)
open Resolution (Binding)
open TypedConfig.Module (Assembled Production Sequence production)

/-! ### Steps that make instances -/

/-- What the next step of a call makes an instance from, if it makes one. -/
def Task.making? : Task → Option (Descriptor × Binding)
  | .getting (.building _ d (.bound b)) => some (d, b)
  | .reloading (.checking _ ((_, current) :: _) (.bound b)) => some (current.descriptor, b)
  | _ => none

/-- A world into which a module has been dumped, if there is one and dumps are asked for. -/
def Setup.dumped {σ : Type} (setup : Setup σ) (w : σ) (assembled : Option Assembled) : σ :=
  match setup.dumpDirectory, assembled with
  | some directory, some m => setup.out.dump w directory (Module.dumpName m.typeName) m.bytes
  | _, _ => w

section Steps

variable {σ : Type} {setup : Setup σ} {s r : State σ} {t u : Task} {d : Descriptor} {b : Binding}
  {i : Instance} {j : Job} {p : Phase}

theorem Task.making?_eq_some_iff {b : Binding} :
    t.making? = some (d, b) ↔ ∃ j : Job, t = j.task (.bound b) ∧ j.descriptor = d := by
  constructor
  · intro h
    unfold making? at h
    split at h
    · rename_i key d b
      cases h
      exact ⟨.get key d, rfl, rfl⟩
    · rename_i report key current rest b
      cases h
      exact ⟨.check report key current rest, rfl, rfl⟩
    · cases h
  · rintro ⟨j, rfl, rfl⟩
    cases j <;> rfl

theorem Phase.begun_next (setup : Setup σ) (d : Descriptor) (s : State σ) (hp : ∀ b, p ≠ .bound b) :
    (p.next setup d s).2.begun = s.begun := by
  cases p with
  | bound b => exact absurd rfl (hp b)
  | observed o =>
    simp only [next]
    split <;> rfl
  | fresh | approached | made => rfl

theorem Task.Steps.begun_eq (hs : t.Steps setup s u r) (hnone : t.making? = none) :
    r.begun = s.begun := by
  have hnext : ∀ {d p o r'}, p.next setup d s = (o, r') → (∀ b, p ≠ Phase.bound b) →
      r'.begun = s.begun := by
    intro d p o r' hn hp
    have hbegun := Phase.begun_next setup d s hp
    rwa [hn] at hbegun
  cases hs with
  | getting hs =>
    cases hs with
    | begun => rfl
    | @went _ _ _ r' _ phase _ hn =>
      rw [← hnext hn (by rintro b rfl; cases hnone)]
      unfold Get.noteMade
      split <;> rfl
  | got hs =>
    cases hs with
    | failed _ hn =>
      have heq := hnext hn (by rintro b rfl; cases hnone)
      exact heq
    | hit | refused | dropped | installed => rfl
  | reloading hs =>
    cases hs with
    | failed _ hn | reused _ hn | went _ hn =>
      have heq := hnext hn (by rintro b rfl; cases hnone)
      exact heq
    | begun | replaced | skipped => rfl
  | reloaded hs =>
    cases hs
    rfl
  | gotStays | reloadedStays => rfl

/-- What a step of a call makes: it takes the next number, the module of that number is dumped if one was
assembled, and an instance that the call holds then has the table that was loaded. -/
structure Makes (setup : Setup σ) (s : State σ) (d : Descriptor) (b : Binding) (u : Task) (r : State σ) :
    Prop where
  begun : r.begun = s.begun + 1
  world : r.world = setup.dumped s.world (setup.factory.produce (s.begun + 1) d b).1
  table : ∀ (j : Job) (b' : Binding) (i : Instance), u = j.task (.made b' i) →
    (setup.factory.produce (s.begun + 1) d b).2 = .ok i.table

theorem Phase.begun_make (setup : Setup σ) (d : Descriptor) (b : Binding) (s : State σ) :
    (make setup d b s).2.begun = s.begun + 1 := by
  unfold make
  rcases setup.factory.produce (s.begun + 1) d b with ⟨assembled, e | table⟩
  · rfl
  · rfl

theorem Phase.world_make (setup : Setup σ) (d : Descriptor) (b : Binding) (s : State σ) :
    (make setup d b s).2.world =
      setup.dumped s.world (setup.factory.produce (s.begun + 1) d b).1 := by
  unfold make
  rcases setup.factory.produce (s.begun + 1) d b with ⟨assembled, e | table⟩
  · rfl
  · rfl

theorem Job.makes_step (setup : Setup σ) (j : Job) (b : Binding) (s : State σ) :
    Makes setup s j.descriptor b ((j.task (.bound b)).step setup s).1
      ((j.task (.bound b)).step setup s).2 := by
  have hrank : (Phase.bound b).rank < 4 := (by decide : 3 < 4)
  have hbegun := Phase.begun_make setup j.descriptor b s
  have hworld := Phase.world_make setup j.descriptor b s
  cases houtcome : (setup.factory.produce (s.begun + 1) j.descriptor b).2 with
  | error e =>
    have hnext : (Phase.bound b).next setup j.descriptor s =
        (.error (.production e), (Phase.make setup j.descriptor b s).2) :=
      Phase.make_of_error houtcome
    cases j with
    | get key d =>
      simp only [descriptor] at hnext
      simp only [task, Task.step, Get.step_building s hrank, hnext]
      refine ⟨hbegun, hworld, fun j' b' i hu => ?_⟩
      cases j' <;> cases hu
    | check report key current rest =>
      simp only [descriptor] at hnext
      simp only [task, Task.step, Reload.step, Reload.check_eq s hrank, hnext]
      refine ⟨hbegun, hworld, fun j' b' i hu => ?_⟩
      cases j' <;> cases hu
  | ok table =>
    have hnext : (Phase.bound b).next setup j.descriptor s =
        (.ok (.made b ⟨s.activated + 1, table⟩), (Phase.make setup j.descriptor b s).2) :=
      Phase.make_of_ok houtcome
    have hmade : ∀ (j' : Job) (b' : Binding) (i : Instance),
        j.task (.made b ⟨s.activated + 1, table⟩) = j'.task (.made b' i) →
          (setup.factory.produce (s.begun + 1) j.descriptor b).2 = .ok i.table := by
      intro j' b' i hu
      obtain ⟨-, hphase⟩ := Job.task_inj hu
      cases hphase
      exact houtcome
    cases j with
    | get key d =>
      simp only [descriptor] at hnext
      simp only [task, Task.step, Get.step_building s hrank, hnext]
      exact ⟨hbegun, hworld, hmade⟩
    | check report key current rest =>
      simp only [descriptor] at hnext
      simp only [task, Task.step, Reload.step, Reload.check_eq s hrank, hnext]
      exact ⟨hbegun, hworld, hmade⟩

end Steps

/-! ### Histories -/

namespace History

variable {σ : Type} {h : History σ} {n m place place' : Nat} {key key' : Key} {e e' : Entry}
  {d : Descriptor} {j j' : Job} {b b' : Binding} {i i' : Instance} {t u : Task}
  {began read made began' read' made' : Nat}

/-- What the call that has its turn with a move makes an instance from, if it makes one. -/
def making? (h : History σ) (n : Nat) : Option (Descriptor × Binding) :=
  match h.moves[n]? with
  | some (.turn place) => (h.task? n place).bind Task.making?
  | _ => none

/-- What instances are made from with the first moves, in the order of the moves. -/
def makings (h : History σ) (n : Nat) : List (Descriptor × Binding) :=
  (List.range n).filterMap h.making?

theorem makings_succ (h : History σ) (n : Nat) :
    h.makings (n + 1) = h.makings n ++ (h.making? n).toList := by
  rw [makings, List.range_succ, List.filterMap_append]
  cases hn : h.making? n <;> simp [makings, hn]

theorem Turn.making?_eq (ht : h.Turn n place t u) : h.making? n = t.making? := by
  simp only [making?, ht.move, ht.before, Option.bind_some]

theorem Turn.making?_eq_some (ht : h.Turn n place (j.task (.bound b)) u) :
    h.making? n = some (j.descriptor, b) :=
  ht.making?_eq.trans (Task.making?_eq_some_iff.2 ⟨j, rfl, rfl⟩)

theorem exists_turn_of_making? (hn : h.making? n = some (d, b)) :
    ∃ (place : Nat) (j : Job) (u : Task), h.Turn n place (j.task (.bound b)) u ∧ j.descriptor = d := by
  unfold making? at hn
  split at hn
  · rename_i place hmove
    cases htask : h.task? n place with
    | none => simp [htask] at hn
    | some t =>
      rw [htask, Option.bind_some] at hn
      obtain ⟨j, rfl, rfl⟩ := Task.making?_eq_some_iff.1 hn
      exact ⟨place, j, _, turn_of_move hmove htask, rfl⟩
  · cases hn

theorem Turn.makes (ht : h.Turn n place (j.task (.bound b)) u) :
    Makes h.setup (h.state n) j.descriptor b u (h.state (n + 1)) := by
  have hmakes := j.makes_step h.setup b (h.state n)
  rwa [ht.step] at hmakes

/-- **A move counts the module that it begins.** -/
theorem begun_succ (h : History σ) (n : Nat) :
    (h.state (n + 1)).begun = (h.state n).begun + (h.making? n).toList.length := by
  cases hn : h.making? n with
  | some c =>
    obtain ⟨place, j, u, ht, -⟩ := exists_turn_of_making? hn
    exact ht.makes.begun
  | none =>
    cases h.happens n with
    | turn ht => exact ht.steps.begun_eq (ht.making?_eq ▸ hn)
    | invalidate _ hs =>
      rw [hs, State.invalidate]
      split <;> rfl
    | nothing hs | clear _ hs | world _ hs | registry _ hs =>
      rw [hs]
      rfl

/-- As many modules have been begun as instances have been made or attempted. -/
theorem begun_eq (h : History σ) (n : Nat) : (h.state n).begun = (h.makings n).length := by
  induction n with
  | zero => rfl
  | succ n ih => rw [begun_succ, ih, makings_succ, List.length_append]

theorem makings_prefix (h : History σ) (hm : n ≤ m) : h.makings n <+: h.makings m := by
  induction m, hm using Nat.le_induction with
  | base => exact List.prefix_rfl
  | succ m _ ih => exact ih.trans (makings_succ h m ▸ List.prefix_append ..)

/-- What a move makes an instance from stands at the place of its number. -/
theorem getElem?_makings (hn : h.making? n = some (d, b)) (hm : n < m) :
    (h.makings m)[(h.state n).begun]? = some (d, b) := by
  -- it is the last with its own move, and later moves only append to the list
  have hsucc : (h.makings (n + 1))[(h.state n).begun]? = some (d, b) := by
    rw [begun_eq, makings_succ, hn, Option.toList_some]
    exact List.getElem?_concat_length
  obtain ⟨rest, hrest⟩ := makings_prefix h hm
  rw [← hrest, List.getElem?_append_left (List.getElem?_eq_some_iff.1 hsucc).1, hsucc]

theorem begun_lt (hn : h.making? n = some (d, b)) (hm : n < m) :
    (h.state n).begun < (h.state m).begun := by
  have hlt := (List.getElem?_eq_some_iff.1 (getElem?_makings hn hm)).1
  rwa [← begun_eq] at hlt

/-- **Moves of one number are one move.** -/
theorem eq_of_begun_eq {c c' : Descriptor × Binding} (hn : h.making? n = some c)
    (hm : h.making? m = some c') (heq : (h.state n).begun = (h.state m).begun) : n = m := by
  rcases Nat.lt_trichotomy n m with hlt | heq' | hlt
  · exact absurd heq (begun_lt hn hlt).ne
  · exact heq'
  · exact absurd heq (begun_lt hm hlt).ne'

/-- **What the calls on a cache make is what one factory makes** of the same descriptors and bindings in the
order of the moves: its module is dumped, and its table is that of the instance that the call holds then. -/
theorem exists_production (hfactory : h.setup.factory = .bytecode)
    (ht : h.Turn n place (j.task (.bound b)) u) (hm : n < m) (hcount : (h.makings m).length < 2 ^ 64) :
    ∃ p, (Sequence.new.produceAll (h.makings m))[(h.state n).begun]? = some p ∧
      (h.state (n + 1)).world = h.setup.dumped (h.state n).world p.assembled ∧
      ∀ i, u = j.task (.made b i) → p.outcome = .ok i.table := by
  have hmakes := ht.makes
  refine ⟨production ((h.state n).begun + 1) j.descriptor b, ?_, ?_, fun i hi => ?_⟩
  · rw [Sequence.produceAll_new hcount, List.getElem?_map, List.getElem?_zipIdx,
      getElem?_makings ht.making?_eq_some hm]
    simp [Nat.add_comm]
  · rw [hmakes.world, hfactory]
    rfl
  · have htable := hmakes.table j b i hi
    rw [hfactory] at htable
    exact htable

/-! ### Type names of instances -/

/-- The table of an instance has the name of the number that was taken for it. -/
theorem Builds.typeName_eq (hfactory : h.setup.factory = .bytecode)
    (hb : h.Builds place j b i began read made) :
    i.table.typeName = Module.synthesizedName j.descriptor.typeName ((h.state made).begun + 1) := by
  have htable := hb.makes.makes.table j b i rfl
  rw [hfactory] at htable
  exact Module.typeName_of_outcome htable

/-- **A type name is that of one build.** -/
theorem Builds.unique_of_typeName (hfactory : h.setup.factory = .bytecode)
    (hb : h.Builds place j b i began read made) (hb' : h.Builds place' j' b' i' began' read' made')
    (htype : i.table.typeName = i'.table.typeName) :
    place = place' ∧ j = j' ∧ b = b' ∧ i = i' ∧ made = made' := by
  rw [hb.typeName_eq hfactory, hb'.typeName_eq hfactory] at htype
  have hnumber := Nat.succ.inj (Module.synthesizedName_inj htype)
  obtain rfl : made = made' :=
    eq_of_begun_eq hb.makes.making?_eq_some hb'.makes.making?_eq_some hnumber
  exact hb.unique hb' (hb.id_eq.trans hb'.id_eq.symm)

/-- **Two installed instances have different type names**, whichever contracts they are for and whenever they
are installed. -/
theorem entry_eq_of_typeName (hfactory : h.setup.factory = .bytecode) (he : h.slot n key = some e)
    (he' : h.slot m key' = some e') (htype : e.inst.table.typeName = e'.inst.table.typeName) :
    key = key' ∧ e = e' := by
  obtain ⟨place, j, b, i, began, read, made, put, -, ho, -⟩ := exists_origin he
  obtain ⟨place', j', b', i', began', read', made', put', -, ho', -⟩ := exists_origin he'
  have hi : i.table.typeName = i'.table.typeName := by
    rw [ho.entry_eq, ho'.entry_eq] at htype
    exact htype
  obtain ⟨-, -, -, rfl, -⟩ := ho.builds.unique_of_typeName hfactory ho'.builds hi
  obtain ⟨hkey, hentry, -⟩ := ho.unique ho' (by rw [ho.entry_eq, ho'.entry_eq]; rfl)
  exact ⟨hkey, hentry⟩

end History

end TypedConfig.Cache
