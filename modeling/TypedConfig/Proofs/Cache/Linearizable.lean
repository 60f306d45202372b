import TypedConfig.Proofs.Cache.Origins
import TypedConfig.Proofs.Cache.Propagation

/-!
Gets as if they happened at one moment each. The instance that a get answers is installed when the call
ends, what a get has built and did not install is never answered by anyone, and as long as an entry is
neither dropped nor replaced all gets answer the same instance (`get_linearizable`).
-/

namespace TypedConfig.Cache

open Contract (Declaration Descriptor)
open Resolution (Binding)

/-- The last step of a get that answers an instance: it is installed then. -/
theorem Task.Steps.exists_entry {σ : Type} {setup : Setup σ} {t : Task} {s r : State σ} {key : Key}
    {i : Instance} (h : t.Steps setup s (.got key (.ok i)) r) (hne : t ≠ .got key (.ok i)) :
    ∃ g, t = .getting g ∧ g.key = key ∧ ∃ e, State.entry? r key = some e ∧ e.inst = i := by
  cases h with
  | @got g _ _ _ h =>
    refine ⟨g, rfl, rfl, ?_⟩
    cases h with
    | @hit _ _ _ e he => exact ⟨e, he, rfl⟩
    | @dropped _ _ _ _ _ e he => exact ⟨e, he, rfl⟩
    | @installed key d b i s hnone =>
      refine ⟨.new d i b, ?_, rfl⟩
      change (s.entries ++ [(key, Entry.new d i b)]).lookup key = _
      rw [List.lookup_append, show s.entries.lookup key = none from hnone]
      simp
  | gotStays => exact absurd rfl hne

namespace History

variable {σ : Type} {h : History σ} {n m k place place' : Nat} {key : Key} {e : Entry}
  {i i' : Instance}

/-- The get of a contract type at a place answers an instance, and after `m` moves this is installed;
the call is under way then, or has ended with the last of these moves. -/
structure AnswersAt (h : History σ) (place : Nat) (key : Key) (i : Instance) (m : Nat) : Prop where
  during : ∃ k g, h.task? k place = some (.getting g) ∧ g.key = key ∧ (m = k ∨ m = k + 1)
  installed : ∃ e, h.slot m key = some e ∧ e.inst = i
  answers : ∃ n, h.task? n place = some (.got key (.ok i))

/-- With a move the get at a place, which has built an instance, finds another one installed. -/
def LosesRace (h : History σ) (n place : Nat) (i : Instance) : Prop :=
  ∃ key d b u, h.Turn n place (.getting (.building key d (.made b i))) u ∧ h.slot n key ≠ none

/-- With a move a pass changes the slot of a contract type. -/
def Replaces (h : History σ) (n : Nat) (key : Key) : Prop :=
  ∃ place t u, h.Turn n place (.reloading t) u ∧ h.slot (n + 1) key ≠ h.slot n key

theorem slot_of_quiet (he : h.slot m key = some e) (hm : m ≤ n)
    (hquiet : ∀ k, m ≤ k → k < n → ¬ h.Drops k key ∧ ¬ h.Replaces k key) :
    h.slot n key = some e := by
  induction n, hm using Nat.le_induction with
  | base => exact he
  | succ n hm ih =>
    have hn := ih fun k hk hkn => hquiet k hk (hkn.trans (Nat.lt_succ_self n))
    obtain ⟨hdrops, hreplaces⟩ := hquiet n hm (Nat.lt_succ_self n)
    rcases h.slot_succ n key with heq | hd | ⟨place, j, b, i, hi, hkey⟩
    · rw [heq, hn]
    · exact absurd hd hdrops
    · obtain ⟨u, ht⟩ := hi.turn
      cases j with
      | get key' d =>
        -- a get installs only where nothing is
        obtain rfl : key' = key := hkey
        have hnone : h.slot n key' = none := hi.admits
        rw [hn] at hnone
        cases hnone
      | check report key' current rest =>
        by_contra hne
        exact hreplaces ⟨place, _, u, ht, by rwa [hn]⟩

theorem exists_answersAt (hn : h.task? n place = some (.got key (.ok i))) :
    ∃ m, m ≤ n ∧ h.AnswersAt place key i m := by
  obtain ⟨k, t, hk, hturn, hne, -⟩ := exists_turn hn (by rintro ⟨⟩)
  obtain ⟨g, rfl, hkey, he⟩ := hturn.steps.exists_entry hne
  exact ⟨k + 1, hk, ⟨k, g, hturn.before, hkey, .inr rfl⟩, he, n, hn⟩

theorem LosesRace.ne_of_slot (hl : h.LosesRace n place i) (he : h.slot m key = some e) :
    e.inst.id ≠ i.id := by
  intro hid
  obtain ⟨key', d, b, u, ht, hslot⟩ := hl
  obtain ⟨began, read, made, -, hb, -⟩ := exists_builds (j := .get key' d) ht.before
  obtain ⟨place', j', b', i', began', read', made', put, -, ho, -⟩ := exists_origin he
  rw [ho.entry_eq] at hid
  obtain ⟨rfl, rfl, rfl, rfl, -⟩ := ho.builds.unique hb hid
  obtain ⟨u', ht'⟩ := ho.installs.turn
  obtain rfl := ht'.unique_of_made ht
  exact hslot ho.installs.admits

/-- **Gets are linearizable, and races of first builds end with one instance.** In every run, an
instance that a get answers is installed at some moment of the call. An instance with which a get has
lost a race is answered by no call. And two gets of one contract type answer the same instance if
between moments at which their answers are installed the entry is not dropped and not replaced by a
pass. -/
theorem get_linearizable (h : History σ) :
    (∀ n place key i, h.task? n place = some (.got key (.ok i)) →
      ∃ m, m ≤ n ∧ h.AnswersAt place key i m) ∧
    (∀ n place i, h.LosesRace n place i → ∀ m place' key i',
      h.task? m place' = some (.got key (.ok i')) → i'.id ≠ i.id) ∧
    ∀ place place' key i i' m m', h.AnswersAt place key i m → h.AnswersAt place' key i' m' →
      m ≤ m' → (∀ k, m ≤ k → k < m' → ¬ h.Drops k key ∧ ¬ h.Replaces k key) → i = i' := by
  refine ⟨fun n place key i hn => exists_answersAt hn, ?_, ?_⟩
  · intro n place i hl m place' key i' hm
    obtain ⟨m', -, hat⟩ := exists_answersAt hm
    obtain ⟨e, he, rfl⟩ := hat.installed
    exact hl.ne_of_slot he
  · intro place place' key i i' m m' hi hi' hm hquiet
    obtain ⟨e, he, rfl⟩ := hi.installed
    obtain ⟨e', he', rfl⟩ := hi'.installed
    rw [slot_of_quiet he hm hquiet] at he'
    cases he'
    rfl

end History

/-! ### One flag -/

section Flag

def flagDeclaration : Declaration :=
  ⟨"app::Flags", true, some "flags.properties", [⟨"flag", "bool", some "f", some "false", 0⟩]⟩

def flagDescriptor : Descriptor :=
  ⟨"app::Flags", "flags.properties", [⟨"flag", .bool, "f", "false"⟩]⟩

/-- What the contract is bound to when its file holds the text. -/
def flagBinding (text : String) (flag : Bool) : Binding :=
  ⟨"app::Flags", [⟨"flag", .bool, "f", text, .bool flag, false⟩], "f=" ++ text ++ "\n",
    some ⟨"flags.properties"⟩, true, []⟩

/-- An instance of the contract, by its identity. -/
def flagInstance (id : Nat) (flag : Bool) : Instance :=
  ⟨id, ⟨"app/Flags", "app::Flags", [⟨"flag", .bool flag⟩]⟩⟩

/-- The first call has read the file when the second installs its instance; the third comes later. -/
def race : History String where
  setup := pairSetup
  world := "f=true\n"
  metrics := true
  moves := [.get 0 flagDeclaration, .turn 0, .turn 0, .turn 0,
    .get 0 flagDeclaration, .turn 1, .turn 1, .turn 1, .turn 1, .turn 1, .turn 1,
    .turn 0, .turn 0, .turn 0, .get 0 flagDeclaration, .turn 2]

theorem losesRace_race : race.LosesRace 13 0 (flagInstance 2 true) := by
  have ht : race.task? 13 0 = some (.getting (.building 0 flagDescriptor
      (.made (flagBinding "true" true) (flagInstance 2 true)))) := by decide +kernel
  exact ⟨0, flagDescriptor, _, _, History.turn_of_move rfl ht, by decide +kernel⟩

theorem answersAt_race :
    race.AnswersAt 0 0 (flagInstance 1 true) 14 ∧ race.AnswersAt 2 0 (flagInstance 1 true) 16 := by
  have hslot : ∀ m ∈ [14, 16], race.slot m 0 =
      some (.new flagDescriptor (flagInstance 1 true) (flagBinding "true" true)) := by decide +kernel
  refine ⟨⟨⟨13, .building 0 flagDescriptor (.made (flagBinding "true" true) (flagInstance 2 true)),
      by decide +kernel, rfl, .inr rfl⟩, ⟨_, hslot 14 (by simp), rfl⟩, 16, by decide +kernel⟩,
    ⟨15, .lookup 0 flagDeclaration, by decide +kernel, rfl, .inr rfl⟩, ⟨_, hslot 16 (by simp), rfl⟩,
    16, by decide +kernel⟩

theorem quiet_race (k : Nat) (hk : 14 ≤ k) (hk' : k < 16) :
    ¬ race.Drops k 0 ∧ ¬ race.Replaces k 0 := by
  obtain rfl | rfl : k = 14 ∨ k = 15 := by omega
  · refine ⟨by simp [History.Drops, race], fun ⟨_, _, _, _, hne⟩ => hne ?_⟩
    decide +kernel
  · refine ⟨by simp [History.Drops, race], fun ⟨_, _, _, _, hne⟩ => hne ?_⟩
    decide +kernel

theorem get_linearizable_race :
    race.task? 16 0 = some (.got 0 (.ok (flagInstance 1 true))) ∧
    (∃ m, m ≤ 16 ∧ race.AnswersAt 0 0 (flagInstance 1 true) m) ∧
    race.LosesRace 13 0 (flagInstance 2 true) ∧ (flagInstance 1 true).id ≠ (flagInstance 2 true).id ∧
    ∃ i i', race.AnswersAt 0 0 i 14 ∧ race.AnswersAt 2 0 i' 16 ∧
      (∀ k, 14 ≤ k → k < 16 → ¬ race.Drops k 0 ∧ ¬ race.Replaces k 0) ∧ i = i' := by
  have hgot : race.task? 16 0 = some (.got 0 (.ok (flagInstance 1 true))) := by decide +kernel
  obtain ⟨h1, h2, h3⟩ := History.get_linearizable race
  obtain ⟨hat, hat'⟩ := answersAt_race
  exact ⟨hgot, h1 _ _ _ _ hgot, losesRace_race, h2 _ _ _ losesRace_race _ _ _ _ hgot,
    _, _, hat, hat', quiet_race, h3 _ _ _ _ _ _ _ hat hat' (by omega) quiet_race⟩

end Flag

end TypedConfig.Cache
