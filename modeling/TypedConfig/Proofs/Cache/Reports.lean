import TypedConfig.Proofs.Cache.Passes

/-!
What a report tells. A pass comes to one verdict on each entry of its snapshot, and which one it is
follows from what it has seen of the source and from whether the entry has been lost to another operation
in the meantime (`report_tells`). Only an entry that has to be swapped is looked for: one that has been
lost while its fingerprint is the same is counted as reused all the same (`reused_after_invalidate`).
-/

namespace TypedConfig.Cache

open Contract (Declaration Descriptor)
open Resolution (Binding Observation)

/-- The verdict on an entry by what has been seen of its source, by the number that a module would get,
and by whether the entry has been lost. -/
inductive Verdict.Tells {σ : Type} (setup : Setup σ) (e : Entry) (o : Observation) (number : Nat)
    (lost : Prop) : Verdict → Prop
  | unresolved {cause} (hb : o.bind e.descriptor = .error cause) : Tells setup e o number lost .failed
  | reused {b} (hb : o.bind e.descriptor = .ok b) (hf : b.fingerprint = e.fingerprint) :
      Tells setup e o number lost .reused
  | unmade {b cause} (hb : o.bind e.descriptor = .ok b) (hf : b.fingerprint ≠ e.fingerprint)
      (hmake : (setup.factory.produce number e.descriptor b).2 = .error cause) :
      Tells setup e o number lost .failed
  | replaced {b table} (hb : o.bind e.descriptor = .ok b) (hf : b.fingerprint ≠ e.fingerprint)
      (hmake : (setup.factory.produce number e.descriptor b).2 = .ok table) (hl : ¬ lost) :
      Tells setup e o number lost .replaced
  | skipped {b table} (hb : o.bind e.descriptor = .ok b) (hf : b.fingerprint ≠ e.fingerprint)
      (hmake : (setup.factory.produce number e.descriptor b).2 = .ok table) (hl : lost) :
      Tells setup e o number lost .skipped

namespace History

variable {σ : Type} {h : History σ} {n m k taken place : Nat} {key : Key} {e new : Entry}
  {v : Verdict} {report : Report} {rest : List (Key × Entry)}

/-- After the snapshot of the pass at a place and before a later move, the entry has been dropped, or
another pass has swapped it. -/
def Loses (h : History σ) (taken n place : Nat) (key : Key) (e : Entry) : Prop :=
  ∃ m, taken ≤ m ∧ m < n ∧ h.slot m key = some e ∧
    (h.Drops m key ∨ ∃ place' new taken', place' ≠ place ∧ h.Swaps m place' key e new taken')

/-- What the pass at a place has seen of the source of an entry and in which state of the cache it would
have made an instance, with moves after its snapshot and before it came to its verdict. -/
def Examines (h : History σ) (taken n place : Nat) (key : Key) (e : Entry) (o : Observation)
    (made : Nat) : Prop :=
  ∃ report rest began read, h.Resolves place (.check report key e rest) began read ∧
    taken < began ∧ read < made ∧ made ≤ n ∧ o = h.seen began read e.descriptor

/-! ### Entries that stay and entries that are lost -/

theorem Swaps.entry_ne (hs : h.Swaps n place key e new taken) : new ≠ e := by
  rintro rfl
  exact hs.fingerprint rfl

theorem Swaps.slot_ne (hs : h.Swaps n place key e new taken) : h.slot (n + 1) key ≠ some e := by
  rw [hs.slot_eq, if_pos rfl]
  intro heq
  exact hs.entry_ne (Option.some.inj heq)

theorem Judges.mem_snapshot (hj : h.Judges n place key e v) (ht : h.Snapshots taken place) :
    taken < n ∧ (key, e) ∈ Reload.snapshot (h.state taken) := by
  obtain ⟨report, rest, phase, hturn⟩ := hj
  obtain ⟨taken', hlt, ht', hsuffix⟩ := History.exists_snapshot hturn.before
  obtain rfl := ht'.unique ht
  exact ⟨hlt, hsuffix.mem List.mem_cons_self⟩

/-- **An entry that a pass comes to a verdict on is still installed unless it has been lost.** -/
theorem Judges.slot_iff (hj : h.Judges n place key e v) (ht : h.Snapshots taken place) :
    h.slot n key = some e ↔ ¬ h.Loses taken n place key e := by
  obtain ⟨hlt, hmem⟩ := hj.mem_snapshot ht
  have hfirst : h.slot taken key = some e := (slot_of_mem_snapshot hmem).1
  constructor
  · rintro hn ⟨m, hm, hmn, he, hdrops | ⟨place', new, taken', -, hs⟩⟩
    · have hstays : h.slot (m + 1) key = some e := (slot_between he hn rfl).2.2 _ (by omega) hmn
      rw [hdrops.slot_eq] at hstays
      cases hstays
    · exact hs.slot_ne ((slot_between he hn rfl).2.2 _ (by omega) hmn)
  · intro hkept
    -- the induction is on the moves between the snapshot and the verdict
    have hstays : ∀ m, taken ≤ m → m ≤ n → h.slot m key = some e := by
      intro m hm
      induction m, hm using Nat.le_induction with
      | base => exact fun _ => hfirst
      | succ m hm ih =>
        intro hmn
        have he : h.slot m key = some e := ih (by omega)
        rcases h.slot_succ m key with heq | hdrops | ⟨place', j, b, i, hi, rfl⟩
        · exact heq.trans he
        · exact absurd ⟨m, hm, hmn, he, .inl hdrops⟩ hkept
        · cases j with
          | get key d =>
            have hnone : h.slot m key = none := hi.admits
            exact absurd (hnone.symm.trans he) (by simp)
          | check report key current rest =>
            obtain ⟨taken', hs⟩ := hi.swaps
            obtain rfl : current = e :=
              Option.some.inj ((hs.installed m hs.lt.le (Nat.le_refl m)).symm.trans he)
            by_cases hplace : place' = place
            · -- the pass itself has come to no verdict on the entry before
              subst hplace
              have : m = n := (hs.judges.unique hj).1
              omega
            · exact absurd ⟨m, hm, hmn, he, .inr ⟨place', _, taken', hplace, hs⟩⟩ hkept
    exact hstays n hlt.le (Nat.le_refl n)

/-- With its verdict a pass takes the entry away only if it replaces it. -/
theorem Judges.slot_succ_iff (hj : h.Judges n place key e v) :
    h.slot (n + 1) key = some e ↔ h.slot n key = some e ∧ v ≠ .replaced := by
  obtain ⟨report, rest, phase, hturn⟩ := id hj
  by_cases hv : v = .replaced
  · subst hv
    obtain ⟨report', rest', hfinds⟩ := hj.finds
    cases hfinds with
    | replaced _ _ hi =>
      obtain ⟨taken, hs⟩ := hi.swaps
      exact iff_of_false hs.slot_ne fun hkept => hkept.2 rfl
  · have heq : h.slot (n + 1) key = h.slot n key := by
      rcases hturn.slot_or_swaps key with heq | ⟨current, new, taken, hs⟩
      · exact heq
      · exact absurd (hj.unique hs.judges).2 hv
    rw [heq]
    exact ⟨fun he => ⟨he, hv⟩, And.left⟩

/-! ### What a verdict follows from -/

theorem Builds.produce_eq {b : Binding} {i : Instance} {began read made : Nat}
    (hb : h.Builds place (.check report key e rest) b i began read made) :
    (h.setup.factory.produce ((h.state made).begun + 1) e.descriptor b).2 = .ok i.table := by
  have hs := hb.makes.steps
  generalize hu : (Job.check report key e rest).task (.made b i) = u at hs
  generalize h.state (made + 1) = r at hs
  cases hs with
  | reloading hs =>
    cases hs with
    | went _ hn =>
      obtain ⟨i', rfl, htable⟩ := Phase.exists_of_make hn
      cases hu
      exact htable
    | failed => simp [Job.task] at hu
    | reused => simp [Job.task] at hu
  | reloaded hs => cases hs

theorem Resolves.examines {began read made : Nat}
    (hr : h.Resolves place (.check report key e rest) began read) (ht : h.Snapshots taken place)
    (hread : read < made) (hmade : made ≤ n) :
    h.Examines taken n place key e (h.seen began read e.descriptor) made :=
  ⟨report, rest, began, read, hr, hr.lt_of_snapshots ht, hread, hmade, rfl⟩

/-- **A verdict follows from what the pass has seen and from whether the entry has been lost.** -/
theorem Judges.tells (hj : h.Judges n place key e v) (ht : h.Snapshots taken place) :
    ∃ o made, h.Examines taken n place key e o made ∧
      v.Tells h.setup e o ((h.state made).begun + 1) (h.Loses taken n place key e) := by
  have hslot := hj.slot_iff ht
  obtain ⟨hlt, hmem⟩ := hj.mem_snapshot ht
  obtain ⟨report, rest, hfinds⟩ := hj.finds
  cases hfinds with
  | unresolved hr hread hb => exact ⟨_, n, hr.examines ht hread (Nat.le_refl n), .unresolved hb⟩
  | unmade hr hread hb hf hnumber hmake =>
    subst hnumber
    exact ⟨_, n, hr.examines ht hread (Nat.le_refl n), .unmade hb hf hmake⟩
  | reused hr hread hb hf => exact ⟨_, n, hr.examines ht hread (Nat.le_refl n), .reused hb hf⟩
  | @replaced b i began read made hb hmade hi =>
    obtain ⟨e', he', hid⟩ := hi.admits
    have hkept : h.slot n key = some e :=
      (slot_between (slot_of_mem_snapshot hmem).1 he' hid.symm).2.2 n hlt.le (Nat.le_refl n)
    exact ⟨_, made, hb.resolves.examines ht hb.lt hmade.le,
      .replaced hb.bind hb.fingerprint_ne hb.produce_eq (hslot.1 hkept)⟩
  | @skipped b i began read made hb hmade hs =>
    have hgone : h.slot n key ≠ some e := fun he => hs e he rfl
    have hlost : h.Loses taken n place key e := by
      by_contra hkept
      exact hgone (hslot.2 hkept)
    exact ⟨_, made, hb.resolves.examines ht hb.lt hmade.le,
      .skipped hb.bind hb.fingerprint_ne hb.produce_eq hlost⟩

/-- **A report tells what has become of the entries.** In every run, a pass that gets its turns ends, and
its report counts one verdict on each entry that may change and was installed when its snapshot was taken.
The verdict follows from what the pass has seen of the source and from whether the entry has been lost,
that is, dropped or swapped by another pass after the snapshot (`Verdict.Tells`): an entry whose
resolution or production fails counts as failed, one with the same fingerprint as reused, lost or not, and
of the others those that have been lost count as skipped and the rest as replaced. When the pass is done
with an entry, the entry is still installed just if it has not been lost and is not replaced. -/
theorem report_tells (ht : h.Snapshots taken place) :
    (∀ n, taken < n →
      (Reload.snapshot (h.state taken)).length * 5 + 4 < h.turns (taken + 1) n place →
        ∃ report, h.task? n place = some (.reloaded report)) ∧
    (∀ n report, h.task? n place = some (.reloaded report) →
      h.Tallies taken n place (Reload.snapshot (h.state taken)) report) ∧
    (∀ k k' key e e' v v', h.Judges k place key e v → h.Judges k' place key e' v' →
      k = k' ∧ v = v') ∧
    ∀ k key e v, h.Judges k place key e v →
      (∃ o made, h.Examines taken k place key e o made ∧
        v.Tells h.setup e o ((h.state made).begun + 1) (h.Loses taken k place key e)) ∧
      (h.slot (k + 1) key = some e ↔ ¬ h.Loses taken k place key e ∧ v ≠ .replaced) := by
  refine ⟨fun n hn hturns => ?_, fun n report hn => tallies_snapshot ht hn, ?_, ?_⟩
  · exact exists_reloaded (Turn.after ht) hn hturns
  · intro k k' key e e' v v' hj hj'
    exact hj.unique hj'
  · intro k key e v hj
    refine ⟨hj.tells ht, ?_⟩
    rw [hj.slot_succ_iff, hj.slot_iff ht]

end History

/-! ### A pass that loses two entries -/

section Lost

/-- Another contract with the file of the flag. -/
def modeDeclaration : Declaration :=
  ⟨"app::Mode", true, some "flags.properties", [⟨"mode", "bool", some "m", some "false", 0⟩]⟩

def modeDescriptor : Descriptor :=
  ⟨"app::Mode", "flags.properties", [⟨"mode", .bool, "m", "false"⟩]⟩

def modeBinding : Binding :=
  ⟨"app::Mode", [⟨"mode", .bool, "m", "true", .bool true, false⟩], "m=true\n",
    some ⟨"flags.properties"⟩, true, []⟩

def modeEntry : Entry :=
  .new modeDescriptor ⟨2, ⟨"app/Mode", "app::Mode", [⟨"mode", .bool true⟩]⟩⟩ modeBinding

/-- What is seen of the file of the two. -/
def flagsSeen (text : String) : Observation := ⟨some ⟨"flags.properties"⟩, .read text, []⟩

/-- The flag is edited, and a pass is under way. Each of the entries is invalidated when the pass has read
the file for it. -/
def lost : History String where
  setup := pairSetup
  world := "f=true\nm=true\n"
  metrics := true
  moves := [.get 0 flagDeclaration, .turn 0, .turn 0, .turn 0, .turn 0, .turn 0, .turn 0,
    .get 1 modeDeclaration, .turn 1, .turn 1, .turn 1, .turn 1, .turn 1, .turn 1,
    .world "f=false\nm=true\n", .reload, .turn 2, .turn 2, .turn 2, .invalidate 0, .turn 2, .turn 2,
    .turn 2, .turn 2, .turn 2, .invalidate 1, .turn 2, .turn 2]

theorem snapshots_lost : lost.Snapshots 16 2 := by
  have ht : lost.task? 16 2 = some (.reloading .start) := by decide +kernel
  exact History.turn_of_move rfl ht

theorem judges_lost : lost.Judges 22 2 0 (flagEntry 1 "true" true) .skipped ∧
    lost.Judges 26 2 1 modeEntry .reused := by
  have h22 : lost.task? 22 2 = some (.reloading (.checking .zero
      [(0, flagEntry 1 "true" true), (1, modeEntry)]
      (.made (flagBinding "false" false) (flagInstance 3 false)))) := by decide +kernel
  have h23 : lost.task? 23 2 =
      some (.reloading (.checking ⟨0, 0, 1, 0⟩ [(1, modeEntry)] .fresh)) := by decide +kernel
  have h26 : lost.task? 26 2 = some (.reloading (.checking ⟨0, 0, 1, 0⟩ [(1, modeEntry)]
      (.observed (flagsSeen "f=false\nm=true\n")))) := by decide +kernel
  have h27 : lost.task? 27 2 =
      some (.reloading (.checking ⟨1, 0, 1, 0⟩ [] .fresh)) := by decide +kernel
  have hskipped := History.turn_of_move rfl h22
  have hreused := History.turn_of_move rfl h26
  rw [← Option.some.inj (h23.symm.trans hskipped.after)] at hskipped
  rw [← Option.some.inj (h27.symm.trans hreused.after)] at hreused
  exact ⟨⟨_, _, _, hskipped⟩, ⟨_, _, _, hreused⟩⟩

theorem reloaded_lost : lost.task? 28 2 = some (.reloaded ⟨1, 0, 1, 0⟩) := by decide +kernel

/-- The entry of the mode is invalidated when the pass has read its file and not yet come to its verdict.
What has been read converts, and an instance can be made of it. The entry is counted as reused, although
none is installed. -/
theorem reused_after_invalidate :
    (1, modeEntry) ∈ Reload.snapshot (lost.state 16) ∧ lost.Snapshots 16 2 ∧
    lost.task? 25 2 = some (.reloading (.checking ⟨0, 0, 1, 0⟩ [(1, modeEntry)]
      (.observed (flagsSeen "f=false\nm=true\n")))) ∧
    lost.slot 25 1 = some modeEntry ∧ lost.Drops 25 1 ∧
    (flagsSeen "f=false\nm=true\n").bind modeEntry.descriptor = .ok modeBinding ∧
    (lost.setup.factory.produce 4 modeEntry.descriptor modeBinding).2 = .ok modeEntry.inst.table ∧
    lost.Judges 26 2 1 modeEntry .reused ∧ lost.slot 27 1 = none ∧
    lost.task? 28 2 = some (.reloaded ⟨1, 0, 1, 0⟩) := by
  have hsnapshot : Reload.snapshot (lost.state 16) =
      [(0, flagEntry 1 "true" true), (1, modeEntry)] := by decide +kernel
  refine ⟨by simp [hsnapshot], snapshots_lost, by decide +kernel, by decide +kernel, .inl rfl,
    by decide +kernel, rfl, judges_lost.2, by decide +kernel, reloaded_lost⟩

theorem report_tells_lost :
    lost.Snapshots 16 2 ∧ lost.task? 28 2 = some (.reloaded ⟨1, 0, 1, 0⟩) ∧
    lost.Tallies 16 28 2 (Reload.snapshot (lost.state 16)) ⟨1, 0, 1, 0⟩ ∧
    (∃ o made, lost.Examines 16 22 2 0 (flagEntry 1 "true" true) o made ∧
      Verdict.skipped.Tells lost.setup (flagEntry 1 "true" true) o ((lost.state made).begun + 1)
        (lost.Loses 16 22 2 0 (flagEntry 1 "true" true))) ∧
    (lost.slot 27 1 = some modeEntry ↔
      ¬ lost.Loses 16 26 2 1 modeEntry ∧ Verdict.reused ≠ .replaced) := by
  obtain ⟨-, htallies, -, htells⟩ := History.report_tells snapshots_lost
  obtain ⟨hskipped, hreused⟩ := judges_lost
  exact ⟨snapshots_lost, reloaded_lost, htallies _ _ reloaded_lost, (htells _ _ _ _ hskipped).1,
    (htells _ _ _ _ hreused).2⟩

end Lost

end TypedConfig.Cache
