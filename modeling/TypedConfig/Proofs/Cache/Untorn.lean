import TypedConfig.Proofs.Cache.Freshness
import TypedConfig.Proofs.Resolution.Choice

/-!
Entries in one piece. Whatever a cache has gone through, all that an entry consists of comes from what one
call has seen of its source, in a world that may have changed a moment before and a moment after
(`Entry.SeenAs`). And a call fails with a conversion failure exactly if the text that some accessor takes
from what it has seen does not convert; it reports the first such accessor and changes no entry
(`entries_untorn`).
-/

namespace TypedConfig.Cache

open Contract (Accessor Descriptor)
open Resolution (Binding ConversionFailure FailsFirst Observation Takes chosenText fingerprintLine)
open TypedConfig.Module (Loaded Slot slotsOf)

/-! ### Entries -/

/-- The slot of an accessor: it has its name and the value of the text that the accessor takes. -/
structure Fills (overrides : Source.Properties) (a : Accessor) (s : Slot) : Prop where
  name : s.name = a.name
  value : Scalar.convert (chosenText overrides a) a.kind = .ok s.value

/-- An entry that comes from what has been seen of its source: a slot for each accessor of the contract, in
the same order, and so the value of each accessor by its name; the fingerprint, a line for each accessor;
whether there is a source at all; and what went wrong on the way. -/
structure Entry.SeenAs (e : Entry) (o : Observation) : Prop where
  slots : List.Forall₂ (Fills o.overrides) e.descriptor.accessors e.inst.table.slots
  values : ∀ a ∈ e.descriptor.accessors, ∃ v, e.inst.table.value? a.name = some v ∧
    Scalar.convert (chosenText o.overrides a) a.kind = .ok v
  fingerprint : e.fingerprint = String.join
    (e.descriptor.accessors.map fun a => fingerprintLine a.key (chosenText o.overrides a))
  watchable : e.watchable = o.source.isSome
  warnings : e.warnings = o.warnings

section Entries

variable {overrides : Source.Properties} {accessors : List Accessor} {slots : List Slot}
  {e : Entry} {b : Binding} {o : Observation}

theorem fills_of_takes {b : Binding} (h : List.Forall₂ (Takes overrides) accessors b.accessors) :
    List.Forall₂ (Fills overrides) accessors (slotsOf b) := by
  rw [slotsOf, List.forall₂_map_right_iff]
  exact h.imp fun a r hr => ⟨hr.resolves.name, hr.text ▸ hr.resolves.value⟩

theorem find?_of_fills (h : List.Forall₂ (Fills overrides) accessors slots)
    (hnodup : (accessors.map Accessor.name).Nodup) :
    ∀ a ∈ accessors, ∃ s, slots.find? (fun s => s.name == a.name) = some s ∧ Fills overrides a s := by
  induction h with
  | nil => simp
  | @cons a s accessors slots hs _ ih =>
    rw [List.map_cons, List.nodup_cons] at hnodup
    refine List.forall_mem_cons.2 ⟨⟨s, List.find?_cons_of_pos (beq_iff_eq.2 hs.name), hs⟩, ?_⟩
    intro c hc
    obtain ⟨t, ht, hfills⟩ := ih hnodup.2 c hc
    have hne : s.name ≠ c.name := by
      rw [hs.name]
      exact fun heq => hnodup.1 (heq ▸ List.mem_map_of_mem hc)
    exact ⟨t, by rw [List.find?_cons_of_neg (by simpa using hne), ht], hfills⟩

theorem Entry.MadeFrom.seenAs (h : e.MadeFrom b) (hb : o.bind e.descriptor = .ok b) : e.SeenAs o := by
  obtain ⟨htakes, -, hwatchable, hwarnings⟩ := Resolution.bind_eq_ok hb
  obtain ⟨declared, hd⟩ := h.checked
  have hfills := fills_of_takes htakes
  refine ⟨h.slots ▸ hfills, fun a ha => ?_, ?_, h.watchable.trans hwatchable,
    h.warnings.trans hwarnings⟩
  · obtain ⟨s, hs, hfills⟩ := find?_of_fills hfills (Contract.nodup_names_of_validate hd) a ha
    exact ⟨s.value, by rw [Loaded.value?, h.slots, hs]; rfl, hfills.value⟩
  · rw [h.fingerprint, h.binding.fingerprint, Resolution.fingerprint_of_takes htakes]

end Entries

/-! ### Failures -/

/-- The stage of a call when a job has failed: a get answers the error, a pass counts a failure and goes on
to the next entry. -/
def Job.failed (j : Job) (cause : CacheError) : Task :=
  match j with
  | get key _ => .got key (.error cause)
  | check report _ _ rest => .reloading (.checking (report.add .failed) rest .fresh)

section Steps

variable {σ : Type} {setup : Setup σ} {s : State σ} {d : Descriptor} {p : Phase} {j : Job} {u : Task}
  {r : State σ} {cause : CacheError} {f : ConversionFailure}

/-- A build fails with a conversion failure only when it is about to bind what it has seen. -/
theorem Phase.next_eq_resolution_iff :
    (p.next setup d s).1 = .error (.resolution f) ↔ ∃ o, p = .observed o ∧ o.bind d = .error f := by
  cases p with
  | observed o =>
    simp only [next, observed.injEq, exists_eq_left']
    cases o.bind d <;> simp
  | bound b =>
    simp only [next, make]
    refine iff_of_false ?_ (by simp)
    split <;> simp
  | fresh | approached | made => simp [next]

theorem Job.eq_failed (hs : (j.task p).Steps setup s u r)
    (hn : (p.next setup j.descriptor s).1 = .error cause) : u = j.failed cause := by
  cases j with
  | get key d =>
    simp only [task] at hs
    cases hs with
    | getting hs =>
      cases hs with
      | went _ h =>
        rw [descriptor, h] at hn
        cases hn
    | got hs =>
      cases hs with
      | failed _ h =>
        rw [descriptor, h] at hn
        cases hn
        rfl
      | dropped | installed => cases hn
  | check report key current rest =>
    simp only [task] at hs
    cases hs with
    | reloading hs =>
      cases hs with
      | failed => rfl
      | reused _ h | went _ h =>
        rw [descriptor, h] at hn
        cases hn
      | replaced | skipped => cases hn
    | reloaded hs => cases hs

end Steps

namespace History

variable {σ : Type} {h : History σ} {n place : Nat} {key : Key} {e : Entry} {d : Descriptor} {j : Job}
  {cause : CacheError} {f : ConversionFailure} {u : Task} {o : Observation} {began read : Nat}

/-- With a move the call at a place fails in a job, with an error. -/
def FailsWith (h : History σ) (n place : Nat) (j : Job) (cause : CacheError) : Prop :=
  ∃ p, h.Turn n place (j.task p) (j.failed cause) ∧
    (p.next h.setup j.descriptor (h.state n)).1 = .error cause

/-- What a source holds when its locator is followed after some moves and the file is read after others. A
variable that is not set leads nowhere, and a file that cannot be read holds nothing. -/
def content (h : History σ) (began read : Nat) (locator : String) : Source.Properties :=
  match h.setup.locator.locate (h.setup.out.environment (h.state began).world) locator with
  | .unresolved _ => .empty
  | .file path =>
    match h.setup.out.readText (h.state read).world path with
    | .ok text => .read text
    | .error _ => .empty

theorem overrides_eq_content (h : History σ) (began read : Nat) (d : Descriptor) :
    (h.seen began read d).overrides = h.content began read d.locator := by
  unfold seen approachAt Resolution.approach content
  cases h.setup.locator.locate (h.setup.out.environment (h.state began).world) d.locator with
  | unresolved name => rfl
  | file path =>
    dsimp only
    split <;> exact Resolution.overrides_observe path _ _

/-! ### Calls that fail -/

theorem failsWith_of_turn {p : Phase} (ht : h.Turn n place (j.task p) u)
    (hn : (p.next h.setup j.descriptor (h.state n)).1 = .error cause) : h.FailsWith n place j cause :=
  ⟨p, Job.eq_failed ht.steps hn ▸ ht, hn⟩

/-- A call that has seen something fails when it does not convert. -/
theorem Turn.failsWith_iff (ht : h.Turn n place (j.task (.observed o)) u) :
    h.FailsWith n place j (.resolution f) ↔
      FailsFirst j.descriptor.typeName o.overrides j.descriptor.accessors f := by
  rw [← Resolution.bind_eq_error_iff]
  constructor
  · rintro ⟨p, ht', hn⟩
    obtain ⟨-, rfl⟩ := Job.task_inj (ht'.unique ht).2.1
    obtain ⟨o', ho, hf⟩ := Phase.next_eq_resolution_iff.1 hn
    cases ho
    exact hf
  · exact fun hf => failsWith_of_turn ht (Phase.next_eq_resolution_iff.2 ⟨o, rfl, hf⟩)

/-- **A conversion failure is that of the first accessor whose text does not convert.** -/
theorem failsWith_resolution_iff :
    h.FailsWith n place j (.resolution f) ↔
      ∃ began read u, h.Resolves place j began read ∧
        h.Turn n place (j.task (.observed (h.seen began read j.descriptor))) u ∧
        FailsFirst j.descriptor.typeName (h.content began read j.descriptor.locator)
          j.descriptor.accessors f := by
  constructor
  · intro hf
    have ⟨p, ht, hn⟩ := hf
    obtain ⟨o, rfl, -⟩ := Phase.next_eq_resolution_iff.1 hn
    obtain ⟨began, read, -, hr, rfl⟩ := exists_resolves ht.before
    rw [ht.failsWith_iff, overrides_eq_content] at hf
    exact ⟨began, read, _, hr, ht, hf⟩
  · rintro ⟨began, read, u, -, ht, hf⟩
    rw [ht.failsWith_iff, overrides_eq_content]
    exact hf

/-- A get that answers a conversion failure has failed with it. -/
theorem exists_failsWith (hn : h.task? n place = some (.got key (.error (.resolution f)))) :
    ∃ k d, k < n ∧ h.FailsWith k place (.get key d) (.resolution f) := by
  obtain ⟨k, t, hk, ht, hne, -⟩ := exists_turn hn (by rintro ⟨⟩)
  have hs := ht.steps
  generalize hu : Task.got key (.error (.resolution f)) = u at hs ht hne
  generalize hr : h.state (k + 1) = r at hs
  generalize hstate : h.state k = s at hs
  cases hs with
  | got hs =>
    cases hs with
    | @failed key' d _ _ _ phase _ hn =>
      cases hu
      exact ⟨k, d, hk, failsWith_of_turn (j := .get key' d) ht (by rw [hstate, Job.descriptor, hn])⟩
    | hit | refused | dropped | installed => cases hu
  | gotStays => exact absurd rfl hne
  | getting | reloading | reloaded | reloadedStays => cases hu

theorem FailsWith.entries (hf : h.FailsWith n place j cause) :
    (h.state (n + 1)).entries = (h.state n).entries := by
  obtain ⟨p, ht, hn⟩ := hf
  rcases ht.entries with heq | ⟨j', b, i, htask, -⟩
  · exact heq
  · obtain ⟨-, rfl⟩ := Job.task_inj htask
    cases hn

/-- An installed entry comes from what the call that has built it has seen. -/
theorem Origin.seenAs {b : Binding} {i : Instance} {made put : Nat}
    (ho : h.Origin key e place j b i began read made put) (he : h.slot n key = some e) :
    e.SeenAs (h.seen began read e.descriptor) := by
  have hd : e.descriptor = j.descriptor := by rw [ho.entry_eq]; rfl
  exact (ho.madeFrom he).seenAs (hd ▸ ho.builds.bind)

/-- **Every installed entry is one untorn resolution.** In every run, whatever happens while files are
read, an installed entry was put in place by a call that has followed the locator once and read the file
once; the fingerprint, the values, the warnings and whether there is a source all come from what this call
has seen (`SeenAs`), and what it has seen set is what the source held then. A call fails with a conversion
failure exactly if it has seen texts of which one does not convert, and it reports the first of them. A get
that answers a conversion failure has failed so, and a call that fails changes no entry. -/
theorem entries_untorn (h : History σ) :
    (∀ n key e, h.slot n key = some e → ∃ place j b i began read made put, put < n ∧
      h.Origin key e place j b i began read made put ∧ e.SeenAs (h.seen began read e.descriptor) ∧
      (h.seen began read e.descriptor).overrides = h.content began read e.descriptor.locator ∧
      ∃ m declared, m < n ∧ h.moves[m]? = some (.get key declared) ∧
        declared.validate = .ok e.descriptor) ∧
    (∀ n place j f, h.FailsWith n place j (.resolution f) ↔
      ∃ began read u, h.Resolves place j began read ∧
        h.Turn n place (j.task (.observed (h.seen began read j.descriptor))) u ∧
        FailsFirst j.descriptor.typeName (h.content began read j.descriptor.locator)
          j.descriptor.accessors f) ∧
    (∀ n place j began read u,
      h.Turn n place (j.task (.observed (h.seen began read j.descriptor))) u →
      ((∃ f, h.FailsWith n place j (.resolution f)) ↔
        ∃ a ∈ j.descriptor.accessors, ∃ cause,
          Scalar.convert (chosenText (h.content began read j.descriptor.locator) a) a.kind =
            .error cause)) ∧
    (∀ n place key f, h.task? n place = some (.got key (.error (.resolution f))) →
      ∃ k d, k < n ∧ h.FailsWith k place (.get key d) (.resolution f)) ∧
    ∀ n place j cause, h.FailsWith n place j cause →
      (h.state (n + 1)).entries = (h.state n).entries := by
  refine ⟨?_, fun n place j f => failsWith_resolution_iff, ?_,
    fun n place key f => exists_failsWith, fun n place j cause hf => hf.entries⟩
  · intro n key e he
    obtain ⟨place, j, b, i, began, read, made, put, hput, ho, -⟩ := exists_origin he
    exact ⟨place, j, b, i, began, read, made, put, hput, ho, ho.seenAs he,
      overrides_eq_content h began read e.descriptor, exists_declared he⟩
  · intro n place j began read u ht
    simp only [ht.failsWith_iff, overrides_eq_content]
    exact Resolution.exists_failsFirst_iff

end History

/-! ### Edits around a read -/

section Flag

/-- The file is edited right before and right after the first call reads it. What it holds then is no flag,
and so another get fails, and so does a pass. -/
def edits : History String where
  setup := pairSetup
  world := "f=true\n"
  metrics := true
  moves := [.get 0 flagDeclaration, .turn 0, .turn 0, .world "f=false\n", .turn 0,
    .world "f=maybe\n", .turn 0, .turn 0, .turn 0, .get 1 flagDeclaration, .turn 1, .turn 1, .turn 1,
    .turn 1, .reload, .turn 2, .turn 2, .turn 2, .turn 2]

/-- The failure of the flag to convert. -/
def maybeFailure : ConversionFailure :=
  ⟨"app::Flags", "flag", "f", "maybe", .bool, .invalid "maybe" .bool .notBoolean⟩

theorem turn_edits : ∃ u, edits.Turn 18 2
    ((Job.check .zero 0 (flagEntry 1 "false" false) []).task
      (.observed (edits.seen 16 17 flagDescriptor))) u := by
  have ht : edits.task? 18 2 = some ((Job.check .zero 0 (flagEntry 1 "false" false) []).task
      (.observed (edits.seen 16 17 flagDescriptor))) := by decide +kernel
  exact ⟨_, History.turn_of_move rfl ht⟩

theorem entries_untorn_edits :
    edits.slot 19 0 = some (flagEntry 1 "false" false) ∧
    (∃ place j b i began read made put, put < 19 ∧
      edits.Origin 0 (flagEntry 1 "false" false) place j b i began read made put ∧
      (flagEntry 1 "false" false).SeenAs (edits.seen began read flagDescriptor) ∧
      (edits.seen began read flagDescriptor).overrides = edits.content began read "flags.properties" ∧
      ∃ m declared, m < 19 ∧ edits.moves[m]? = some (.get 0 declared) ∧
        declared.validate = .ok flagDescriptor) ∧
    edits.task? 19 1 = some (.got 1 (.error (.resolution maybeFailure))) ∧
    (∃ k d, k < 19 ∧ edits.FailsWith k 1 (.get 1 d) (.resolution maybeFailure)) ∧
    (∃ f, edits.FailsWith 18 2 (.check .zero 0 (flagEntry 1 "false" false) []) (.resolution f) ∧
      (edits.state 19).entries = (edits.state 18).entries ∧
      ∃ began read u, edits.Resolves 2 (.check .zero 0 (flagEntry 1 "false" false) []) began read ∧
        edits.Turn 18 2 ((Job.check .zero 0 (flagEntry 1 "false" false) []).task
          (.observed (edits.seen began read flagDescriptor))) u ∧
        FailsFirst "app::Flags" (edits.content began read "flags.properties")
          flagDescriptor.accessors f) := by
  obtain ⟨h1, h2, h3, h4, h5⟩ := History.entries_untorn edits
  have hslot : edits.slot 19 0 = some (flagEntry 1 "false" false) := by decide +kernel
  have hgot : edits.task? 19 1 = some (.got 1 (.error (.resolution maybeFailure))) := by
    decide +kernel
  have hconvert : Scalar.convert (chosenText (edits.content 16 17 "flags.properties")
      ⟨"flag", .bool, "f", "false"⟩) .bool = .error (.invalid "maybe" .bool .notBoolean) := by
    decide +kernel
  obtain ⟨u, ht⟩ := turn_edits
  obtain ⟨f, hf⟩ := (h3 _ _ _ 16 17 u ht).2 ⟨_, List.mem_singleton_self _, _, hconvert⟩
  exact ⟨hslot, h1 _ _ _ hslot, hgot, h4 _ _ _ _ hgot, f, hf, h5 _ _ _ _ hf, (h2 _ _ _ _).1 hf⟩

end Flag

end TypedConfig.Cache
