import TypedConfig.Proofs.Cache.Untorn

/-!
Instances that stay. A fingerprint is made of the texts that the accessors take, so a pass that reads
another content of the source replaces an entry only if some accessor takes another text from it. As long
as no pass reads such a content, and the entry is not dropped, all gets answer its instance
(`identity_stable`).
-/

namespace TypedConfig.Cache

open Contract (Declaration Descriptor)
open Resolution (Binding chosenText)

/-! ### Contents -/

/-- A content of a source from which some accessor of a contract takes a text that does not convert. -/
def Unconvertible (d : Descriptor) (content : Source.Properties) : Prop :=
  ∃ a ∈ d.accessors, ∃ cause, Scalar.convert (chosenText content a) a.kind = .error cause

/-- Two contents of a source from which each accessor of a contract takes the same text. -/
def SameTexts (d : Descriptor) (content content' : Source.Properties) : Prop :=
  ∀ a ∈ d.accessors, chosenText content a = chosenText content' a

section Contents

variable {e : Entry} {o o' : Resolution.Observation} {b : Binding}

theorem not_unconvertible (h : o.bind e.descriptor = .ok b) :
    ¬ Unconvertible e.descriptor o.overrides := by
  rintro ⟨a, ha, cause, hcause⟩
  obtain ⟨v, hv⟩ := Resolution.converts_of_takes (Resolution.bind_eq_ok h).1 a ha
  rw [hcause] at hv
  cases hv

theorem Entry.SeenAs.fingerprint_eq (h : e.SeenAs o) (hb : o'.bind e.descriptor = .ok b)
    (hsame : SameTexts e.descriptor o'.overrides o.overrides) : b.fingerprint = e.fingerprint := by
  rw [h.fingerprint, (Resolution.of_bind hb).fingerprint,
    Resolution.fingerprint_of_takes (Resolution.bind_eq_ok hb).1]
  exact congrArg String.join (List.map_congr_left fun a ha => by rw [hsame a ha])

end Contents

namespace History

variable {σ : Type} {h : History σ} {n m k place : Nat} {key : Key} {e : Entry} {j : Job}
  {b : Binding} {i : Instance} {began read made put : Nat} {built : Source.Properties} {v : Verdict}

/-- From one moment to another an entry is left alone: it is not dropped, and from what a pass that looks
at it has read, each accessor takes the same text as from what it was built from, or some text does not
convert. A pass that is under way at the first moment counts as long as it has not come to its verdict on
the entry. -/
structure LeftAlone (h : History σ) (key : Key) (e : Entry) (built : Source.Properties) (m n : Nat) :
    Prop where
  kept : ∀ k, m ≤ k → k < n → ¬ h.Drops k key
  reads : ∀ place report rest began read,
    h.Resolves place (.check report key e rest) began read → read < n →
    (∀ k v, k < m → ¬ h.Judges k place key e v) →
      Unconvertible e.descriptor (h.content began read e.descriptor.locator) ∨
        SameTexts e.descriptor (h.content began read e.descriptor.locator) built

theorem LeftAlone.mono (hl : h.LeftAlone key e built m n) (hk : k ≤ n) :
    h.LeftAlone key e built m k where
  kept l hm hlt := hl.kept l hm (hlt.trans_le hk)
  reads place report rest began read hr hread := hl.reads place report rest began read hr
    (hread.trans_le hk)

theorem LeftAlone.not_judges_replaced
    (hl : h.LeftAlone key e (h.content began read e.descriptor.locator) m n)
    (hseen : e.SeenAs (h.seen began read e.descriptor)) (hm : m ≤ k) (hk : k < n) :
    ¬ h.Judges k place key e .replaced := by
  intro hj
  obtain ⟨report, rest, hf⟩ := hj.finds
  cases hf with
  | @replaced b i began' read' made hb hmade hi =>
    have hread := hb.lt
    have hbefore : ∀ k' v, k' < m → ¬ h.Judges k' place key e v := by
      intro k' v hk' hj'
      obtain ⟨rfl, -⟩ := hj.unique hj'
      omega
    have hreads := hl.reads place report rest began' read' hb.resolves (by omega) hbefore
    rw [← overrides_eq_content, ← overrides_eq_content] at hreads
    rcases hreads with hunconvertible | hsame
    · exact not_unconvertible hb.bind hunconvertible
    · exact hb.fingerprint_ne (hseen.fingerprint_eq hb.bind hsame)

/-- **An entry that is left alone stays.** -/
theorem LeftAlone.slot_eq
    (hl : h.LeftAlone key e (h.content began read e.descriptor.locator) m n)
    (hseen : e.SeenAs (h.seen began read e.descriptor)) (he : h.slot m key = some e) (hmn : m ≤ n) :
    h.slot n key = some e := by
  induction n, hmn using Nat.le_induction with
  | base => exact he
  | succ n hm ih =>
    have hn := ih (hl.mono (Nat.le_succ n))
    refine slot_of_quiet hn (Nat.le_succ n) fun k hk hkn => ?_
    obtain rfl : k = n := by omega
    refine ⟨hl.kept k hm hkn, fun ⟨place, t, u, ht, hne⟩ => ?_⟩
    rcases ht.slot_or_swaps key with heq | ⟨current, new, taken, hs⟩
    · exact hne heq
    · obtain rfl : e = current :=
        Option.some.inj (hn.symm.trans (hs.installed k hs.lt.le (Nat.le_refl k)))
      exact hl.not_judges_replaced hseen hm hkn hs.judges

theorem Turn.lookup_eq {declared : Declaration} {u : Task}
    (ht : h.Turn n place (.getting (.lookup key declared)) u) (he : h.slot n key = some e) :
    u = .got key (.ok e.inst) := by
  have hs := ht.step
  rw [slot] at he
  simp only [Task.step, Get.step, he, Get.key] at hs
  exact (congrArg Prod.fst hs).symm

/-- A pass that has left an entry behind has come to the verdict that it has counted. -/
theorem judges_of_task? {report : Report} {rest : List (Key × Entry)} {phase : Phase}
    (hmove : h.moves[n]? = some (.turn place))
    (ht : h.task? n place = some (.reloading (.checking report ((key, e) :: rest) phase)))
    (hu : h.task? (n + 1) place = some (.reloading (.checking (report.add v) rest .fresh))) :
    h.Judges n place key e v := by
  have hturn := turn_of_move hmove ht
  have hafter := hturn.after
  rw [hu] at hafter
  exact ⟨report, rest, phase, Option.some.inj hafter ▸ hturn⟩

/-- **An instance stays as long as nothing that matters to it changes.** Take an entry and a stretch of a
run in which it is left alone: it is installed when the stretch begins, it is not dropped, and whenever a
pass reads the source for it, some text does not convert or every accessor takes the same text as from the
content that the entry was built from. Then the entry is installed all the time, every get that begins in
the stretch answers its instance at once, a get that has begun before answers no other instance, and a pass
finds that the entry can be used again or that it cannot be replaced. -/
theorem identity_stable (h : History σ) {m n place : Nat} {key : Key} {e : Entry} {j : Job}
    {b : Binding} {i : Instance} {began read made put : Nat}
    (ho : h.Origin key e place j b i began read made put) (he : h.slot m key = some e)
    (hl : h.LeftAlone key e (h.content began read e.descriptor.locator) m n) :
    (∀ k, m ≤ k → k ≤ n → h.slot k key = some e) ∧
    (∀ k q declared u, m ≤ k → k < n → h.Turn k q (.getting (.lookup key declared)) u →
      u = .got key (.ok e.inst)) ∧
    (∀ k q g i', m ≤ k → k < n → h.Turn k q (.getting g) (.got key (.ok i')) → i' = e.inst) ∧
    ∀ k q v, m ≤ k → k < n → h.Judges k q key e v → v = .reused ∨ v = .failed := by
  have hseen := ho.seenAs he
  have hslot : ∀ k, m ≤ k → k ≤ n → h.slot k key = some e := fun k hm hk =>
    (hl.mono hk).slot_eq hseen he hm
  refine ⟨hslot, fun k q declared u hm hk ht => ht.lookup_eq (hslot k hm hk.le), ?_, ?_⟩
  · intro k q g i' hm hk ht
    obtain ⟨g', -, -, e', he', rfl⟩ := ht.steps.exists_entry (by rintro ⟨⟩)
    have heq : h.slot (k + 1) key = some e' := he'
    rw [hslot (k + 1) (by omega) hk] at heq
    rw [Option.some.inj heq]
  · intro k q v hm hk hj
    cases v with
    | reused => exact .inl rfl
    | failed => exact .inr rfl
    | replaced => exact absurd hj (hl.not_judges_replaced hseen hm hk)
    | skipped =>
      obtain ⟨report, rest, hf⟩ := hj.finds
      cases hf with
      | skipped _ _ hs => exact absurd rfl (hs e (hslot k hm hk.le))

end History

/-! ### A file that is rewritten -/

section Flag

/-- In a world that is one file, a locator that leads to it leads to what it holds. -/
theorem content_of_wholeFile {h : History String} (hout : h.setup.out = wholeFile)
    (hsettings : h.setup.locator = .default) {locator : String} {path : Path}
    (hl : Source.Locator.default.locate (fun _ => none) locator = .file path) (began read : Nat) :
    h.content began read locator = .read (h.state read).world := by
  have hlocate : Source.Locator.default.locate
      (wholeFile.environment (h.state began).world) locator = .file path := hl
  simp only [History.content, hout, hsettings, hlocate]
  rfl

/-- One pass finds the file written in another way, the next finds no flag in it, and a get comes after
that. -/
def rewrites : History String where
  setup := pairSetup
  world := "f=true\n"
  metrics := true
  moves := [.get 0 flagDeclaration, .turn 0, .turn 0, .turn 0, .turn 0, .turn 0, .turn 0,
    .world "# on\n\ng=1\nf : true", .reload, .turn 1, .turn 1, .turn 1, .turn 1, .turn 1,
    .world "f=maybe\n", .reload, .turn 2, .turn 2, .turn 2, .turn 2, .turn 2,
    .get 0 flagDeclaration, .turn 3]

theorem content_rewrites (began read : Nat) :
    rewrites.content began read "flags.properties" = .read (rewrites.state read).world :=
  content_of_wholeFile rfl rfl (by decide : _ = Source.Located.file ⟨"flags.properties"⟩) began read

/-- Whether a call is about to read a file. -/
def Task.readsNext : Task → Bool
  | .getting (.building _ _ (.approached _)) => true
  | .reloading (.checking _ _ (.approached _)) => true
  | _ => false

theorem read_rewrites {place : Nat} {j : Job} {began read : Nat}
    (hr : rewrites.Resolves place j began read) (hread : read < 23) :
    read = 3 ∨ read = 11 ∨ read = 18 := by
  have hplace : place < 4 := by
    have hmem := List.mem_of_getElem? hr.reads.move
    simp [rewrites] at hmem
    omega
  have hreads : ∀ read < 23, ∀ place < 4, (rewrites.moves[read]?).any (Move.isTurn place) = true →
      (rewrites.task? read place).any Task.readsNext = true → read = 3 ∨ read = 11 ∨ read = 18 := by
    decide +kernel
  refine hreads read hread place hplace ?_ ?_
  · simp [hr.reads.move, Move.isTurn]
  · rw [hr.reads.before]
    cases j <;> rfl

theorem leftAlone_rewrites (began : Nat) {read : Nat} (hread : read < 7) :
    rewrites.LeftAlone 0 (flagEntry 1 "true" true) (rewrites.content began read "flags.properties")
      7 23 where
  kept k _ _ := by
    rintro (hmove | hmove) <;> exact absurd (List.mem_of_getElem? hmove) (by simp [rewrites])
  reads place report rest began' read' hr hread' _ := by
    have hbuilt : (rewrites.state read).world = "f=true\n" := by
      have hworlds : ∀ read < 7, (rewrites.state read).world = "f=true\n" := by decide +kernel
      exact hworlds read hread
    change Unconvertible flagDescriptor (rewrites.content began' read' "flags.properties") ∨
      SameTexts flagDescriptor (rewrites.content began' read' "flags.properties") _
    rw [content_rewrites, content_rewrites, hbuilt]
    rcases read_rewrites hr hread' with rfl | rfl | rfl
    · have hworld : (rewrites.state 3).world = "f=true\n" := by decide +kernel
      rw [hworld]
      exact .inr fun a _ => rfl
    · have hworld : (rewrites.state 11).world = "# on\n\ng=1\nf : true" := by decide +kernel
      rw [hworld]
      refine .inr fun a ha => ?_
      obtain rfl := List.mem_singleton.1 ha
      decide +kernel
    · have hworld : (rewrites.state 18).world = "f=maybe\n" := by decide +kernel
      rw [hworld]
      exact .inl ⟨_, List.mem_singleton_self _, .invalid "maybe" .bool .notBoolean, by decide +kernel⟩

theorem judges_rewrites :
    rewrites.Judges 12 1 0 (flagEntry 1 "true" true) .reused ∧
    rewrites.Judges 19 2 0 (flagEntry 1 "true" true) .failed := by
  have h12 : rewrites.task? 12 1 = some (.reloading (.checking .zero
      [(0, flagEntry 1 "true" true)]
      (.observed ⟨some ⟨"flags.properties"⟩, .read "# on\n\ng=1\nf : true", []⟩))) ∧
      rewrites.task? 13 1 = some (.reloading (.checking ⟨1, 0, 0, 0⟩ [] .fresh)) := by
    decide +kernel
  have h19 : rewrites.task? 19 2 = some (.reloading (.checking .zero [(0, flagEntry 1 "true" true)]
      (.observed ⟨some ⟨"flags.properties"⟩, .read "f=maybe\n", []⟩))) ∧
      rewrites.task? 20 2 = some (.reloading (.checking ⟨0, 0, 0, 1⟩ [] .fresh)) := by
    decide +kernel
  exact ⟨History.judges_of_task? rfl h12.1 h12.2, History.judges_of_task? rfl h19.1 h19.2⟩

theorem identity_stable_rewrites :
    (∃ place j b i began read made put,
      rewrites.Origin 0 (flagEntry 1 "true" true) place j b i began read made put ∧
      rewrites.slot 7 0 = some (flagEntry 1 "true" true) ∧
      rewrites.LeftAlone 0 (flagEntry 1 "true" true) (rewrites.content began read "flags.properties")
        7 23) ∧
    rewrites.slot 23 0 = some (flagEntry 1 "true" true) ∧
    (∃ u, rewrites.Turn 22 3 (.getting (.lookup 0 flagDeclaration)) u ∧
      u = .got 0 (.ok (flagInstance 1 true))) ∧
    ∃ v v', rewrites.Judges 12 1 0 (flagEntry 1 "true" true) v ∧
      rewrites.Judges 19 2 0 (flagEntry 1 "true" true) v' ∧ (v = .reused ∨ v = .failed) ∧
      (v' = .reused ∨ v' = .failed) := by
  have he : rewrites.slot 7 0 = some (flagEntry 1 "true" true) := by decide +kernel
  obtain ⟨place, j, b, i, began, read, made, put, hput, ho, -⟩ := History.exists_origin he
  have hlt : read < made ∧ made < put := ⟨ho.builds.lt, ho.lt⟩
  have hl := leftAlone_rewrites began (by omega : read < 7)
  obtain ⟨hslot, hlookup, -, hjudges⟩ := History.identity_stable rewrites ho he hl
  have hturn : rewrites.task? 22 3 = some (.getting (.lookup 0 flagDeclaration)) := by decide +kernel
  have ht := History.turn_of_move rfl hturn
  obtain ⟨hreused, hfailed⟩ := judges_rewrites
  exact ⟨⟨place, j, b, i, began, read, made, put, ho, he, hl⟩, hslot 23 (by omega) (by omega),
    ⟨_, ht, hlookup 22 3 _ _ (by omega) (by omega) ht⟩, _, _, hreused, hfailed,
    hjudges 12 1 _ (by omega) (by omega) hreused, hjudges 19 2 _ (by omega) (by omega) hfailed⟩

end Flag

end TypedConfig.Cache
