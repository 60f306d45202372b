import TypedConfig.Proofs.Cache.Untorn
import TypedConfig.Proofs.Watch.Registry

/-!
Which sources are watched. A call registers the file that its locator leads to before it reads it, and a
registry forgets nothing until it is cleared. So as long as a cache is in use, the source of every entry
that may change is registered and its directory has been given to the subscriber, unless the entry warns
that this has failed (`source_watched`).
-/

namespace TypedConfig.Resolution

variable {σ : Type} {out : Surroundings σ} {settings : Source.Locator} {world : σ}
  {registry : Watch.Registry} {locator : String} {path : Path} {a : Approach} {w : Warning}

theorem extends_approach (out : Surroundings σ) (settings : Source.Locator) (world : σ)
    (registry : Watch.Registry) (locator : String) :
    registry.Extends (approach out settings world registry locator).2 := by
  rcases registry_approach out settings world registry locator with h | ⟨path, h⟩
  · rw [h]
    exact .refl registry
  · rw [h]
    exact registry.extends_register (out.canonical world) (out.subscribe world) path

/-- A locator that has led to a file without a failure has registered it. -/
theorem exists_register (h : (approach out settings world registry locator).1 = .file path none) :
    ∃ first, registry.register (out.canonical world) (out.subscribe world) path =
      (.ok first, (approach out settings world registry locator).2) := by
  unfold approach at h ⊢
  split at h
  · cases h
  · split at h
    · rename_i first registry' heq
      cases h
      exact ⟨first, by rw [heq]⟩
    · cases h

theorem mem_warnings_observe (h : w ∈ a.warnings) : w ∈ (a.observe out world).warnings := by
  unfold Approach.observe
  split
  · unfold observe
    split <;> simp [h]
  · exact h

/-- What has been seen of a file without a failure to watch it was registered. -/
theorem approach_of_seen (hsource : (a.observe out world).source.isSome = true)
    (hw : ∀ path error, .watchFailed path error ∉ (a.observe out world).warnings) :
    ∃ path, a = .file path none ∧ (a.observe out world).source = some path := by
  cases a with
  | unresolved locator name => cases hsource
  | file path failure =>
    cases failure with
    | some error => exact absurd (mem_warnings_observe (by simp [Approach.warnings])) (hw path error)
    | none =>
      refine ⟨path, rfl, ?_⟩
      unfold Approach.observe observe
      dsimp only [Approach.path?]
      split <;> rfl

end TypedConfig.Resolution

namespace TypedConfig.Cache

open Contract (Declaration Descriptor)
open Resolution (Binding)
open Watch (directoryText)

/-! ### Steps and the registry -/

section Steps

variable {σ : Type} {setup : Setup σ} {t u : Task} {s r : State σ}

theorem Phase.registry_next (setup : Setup σ) (d : Descriptor) (s : State σ) (p : Phase) :
    (p.next setup d s).2.registry =
      if p = .fresh then
        (Resolution.approach setup.out setup.locator s.world s.registry d.locator).2
      else s.registry := by
  cases p with
  | fresh => rfl
  | observed o =>
    simp only [next]
    split <;> rfl
  | bound b => exact registry_make setup d b s
  | approached | made => rfl

/-- A call leaves the registry alone, or it follows the locator of the contract that it builds for. -/
theorem Task.Steps.registry (hs : t.Steps setup s u r) :
    (r.registry = s.registry ∧ ∀ j : Job, t ≠ j.task .fresh) ∨
      ∃ j : Job, t = j.task .fresh ∧ r.registry =
        (Resolution.approach setup.out setup.locator s.world s.registry j.descriptor.locator).2 := by
  have hnext : ∀ {j : Job} {p : Phase} {o : Except CacheError Phase} {r' : State σ},
      p.next setup j.descriptor s = (o, r') → t = j.task p → r.registry = r'.registry →
      (r.registry = s.registry ∧ ∀ j : Job, t ≠ j.task .fresh) ∨
        ∃ j : Job, t = j.task .fresh ∧ r.registry =
          (Resolution.approach setup.out setup.locator s.world s.registry j.descriptor.locator).2 := by
    intro j p o r' hn ht hr
    have hp := p.registry_next setup j.descriptor s
    rw [hn, ← hr] at hp
    by_cases hfresh : p = .fresh
    · rw [if_pos hfresh] at hp
      exact .inr ⟨j, hfresh ▸ ht, hp⟩
    · rw [if_neg hfresh] at hp
      exact .inl ⟨hp, fun j' hj' => hfresh (Job.task_inj (ht.symm.trans hj')).2⟩
  have hmade : ∀ {j : Job} {b : Binding} {i : Instance}, t = j.task (.made b i) →
      ∀ j' : Job, t ≠ j'.task .fresh := by
    rintro j b i rfl j' hj'
    cases (Job.task_inj hj').2
  cases hs with
  | getting hs =>
    cases hs with
    | begun => exact .inl ⟨rfl, by rintro (_ | _) ⟨⟩⟩
    | @went key d _ _ _ phase _ hn =>
      refine hnext (j := .get key d) hn rfl ?_
      unfold Get.noteMade
      split <;> rfl
  | got hs =>
    cases hs with
    | hit | refused => exact .inl ⟨rfl, by rintro (_ | _) ⟨⟩⟩
    | @failed key d _ _ _ phase _ hn => exact hnext (j := .get key d) hn rfl rfl
    | @dropped key d => exact .inl ⟨rfl, hmade (j := .get key d) rfl⟩
    | @installed key d => exact .inl ⟨rfl, hmade (j := .get key d) rfl⟩
  | reloading hs =>
    cases hs with
    | begun => exact .inl ⟨rfl, by rintro (_ | _) ⟨⟩⟩
    | @failed report key rest _ _ _ current _ _ hn =>
      exact hnext (j := .check report key current rest) hn rfl rfl
    | @reused report key rest _ _ _ current _ _ hn =>
      exact hnext (j := .check report key current rest) hn rfl rfl
    | @went report key rest _ _ _ current _ _ hn =>
      exact hnext (j := .check report key current rest) hn rfl rfl
    | @replaced report key rest _ _ _ current =>
      exact .inl ⟨rfl, hmade (j := .check report key current rest) rfl⟩
    | @skipped report key rest _ _ _ current =>
      exact .inl ⟨rfl, hmade (j := .check report key current rest) rfl⟩
  | reloaded hs =>
    cases hs
    exact .inl ⟨rfl, by rintro (_ | _) ⟨⟩⟩
  | gotStays | reloadedStays => exact .inl ⟨rfl, by rintro (_ | _) ⟨⟩⟩

theorem Task.Steps.extends (hs : t.Steps setup s u r) : s.registry.Extends r.registry := by
  rcases hs.registry with ⟨heq, -⟩ | ⟨j, -, heq⟩
  · rw [heq]
    exact .refl _
  · rw [heq]
    exact Resolution.extends_approach ..

end Steps

namespace History

variable {σ : Type} {h : History σ} {n m place : Nat} {key : Key} {e : Entry} {j : Job} {began read : Nat}

/-- Until a moment the registry is in use: whatever others do to it, they do not clear it, as a service
does that is shut down. -/
def Attended (h : History σ) (n : Nat) : Prop :=
  ∀ k r, k < n → h.moves[k]? = some (.registry r) → (h.state k).registry.Used r

theorem Attended.extends_succ (ha : h.Attended n) (hm : m < n) :
    (h.state m).registry.Extends (h.state (m + 1)).registry := by
  cases h.happens m with
  | turn ht => exact ht.steps.extends
  | invalidate _ hs =>
    rw [hs, State.invalidate]
    split <;> exact .refl _
  | registry hmove hs =>
    rw [hs]
    exact (ha m _ hm hmove).extends
  | nothing hs | clear _ hs | world _ hs =>
    rw [hs]
    exact .refl _

theorem Attended.extends (ha : h.Attended n) (hm : m ≤ n) :
    (h.state m).registry.Extends (h.state n).registry := by
  induction n, hm using Nat.le_induction with
  | base => exact .refl _
  | succ n hm ih =>
    have hbefore : h.Attended n := fun k r hk => ha k r (hk.trans (Nat.lt_succ_self n))
    exact (ih hbefore).trans (ha.extends_succ (Nat.lt_succ_self n))

/-- **Readers and subscribers know what is registered**, in every run in which the registry is in use. -/
theorem Attended.sound (ha : h.Attended n) : (h.state n).registry.Sound :=
  (ha.extends (Nat.zero_le n)).sound Watch.Registry.sound_empty

/-- A call that resolves uses the registry when it begins. -/
theorem Resolves.registry_eq (hr : h.Resolves place j began read) :
    (h.state (began + 1)).registry =
      (Resolution.approach h.setup.out h.setup.locator (h.state began).world
        (h.state began).registry j.descriptor.locator).2 := by
  rcases hr.begins.steps.registry with ⟨-, hne⟩ | ⟨j', htask, heq⟩
  · exact absurd rfl (hne j)
  · obtain ⟨rfl, -⟩ := Job.task_inj htask
    exact heq

/-- **The source of an entry that may change is watched.** In every run in which the registry is not
cleared, whatever happens while files are read and whichever calls of a subscriber fail, take an entry that
may change and does not warn that its source is not watched. The binding that it was built from names a
file. The registry matches the path of this file in the directory that was found for it when the locator was
followed, and if a subscriber is attached it has been given the directory. -/
theorem source_watched (h : History σ) {n : Nat} {key : Key} {e : Entry}
    (hproper : ∀ w path d, h.setup.out.canonical w path = .ok d → d.Proper) (ha : h.Attended n)
    (he : h.slot n key = some e) (hw : e.watchable = true)
    (hwarnings : ∀ path error, .watchFailed path error ∉ e.warnings) :
    ∃ place j b i began read made put, put < n ∧
      h.Origin key e place j b i began read made put ∧
      ∃ path parent name dir, b.source = some path ∧ path.split? = some (parent, name) ∧
        h.setup.out.canonical (h.state began).world (if parent.text == "" then ⟨"."⟩ else parent) =
          .ok dir ∧
        (h.state n).registry.watches (Path.join ⟨directoryText dir⟩ ⟨name⟩) = true ∧
        ∀ given, (h.state n).registry.subscriber = some given → dir ∈ given := by
  obtain ⟨place, j, b, i, began, read, made, put, hput, ho, -⟩ := exists_origin he
  have hseen := ho.seenAs he
  have hd : e.descriptor = j.descriptor := by rw [ho.entry_eq]; rfl
  rw [hseen.watchable] at hw
  rw [hseen.warnings] at hwarnings
  obtain ⟨path, hpath, hsource⟩ := Resolution.approach_of_seen hw hwarnings
  rw [hd] at hpath hsource
  -- the file was registered when the locator was followed
  obtain ⟨first, hregister⟩ := Resolution.exists_register hpath
  obtain ⟨parent, name, dir, hsplit, hdir, hholds⟩ :=
    Watch.Registry.exists_of_register (congrArg Prod.fst hregister)
  rw [hregister, ← ho.builds.resolves.registry_eq] at hholds
  -- and it has not been forgotten since
  have hlt : began < read ∧ read < made ∧ made < put :=
    ⟨ho.builds.resolves.lt, ho.builds.lt, ho.lt⟩
  have hcovers := ha.sound.covers ((ha.extends (by omega : began + 1 ≤ n)).holds dir name hholds)
  refine ⟨place, j, b, i, began, read, made, put, hput, ho, path, parent, name, dir,
    (Resolution.bind_eq_ok ho.builds.bind).2.1.trans hsource, hsplit, hdir, ?_, hcovers.given⟩
  rw [Path.watches_join _ (hproper _ _ _ hdir) (Path.isName_of_split? hsplit)]
  exact hcovers.published

end History

/-! ### A source that moves -/

section Flag

/-- A world in which a variable names the file that is read, and directories are subscribed or not. -/
def pointed : Surroundings (String × Bool) where
  environment w name := if name == "FLAGS" then some w.1 else none
  readText _ path := .ok (if path.text == "/a/flags.properties" then "f=true\n" else "f=false\n")
  canonical _ path := .ok (if path.text == "/a" then ⟨["real", "a"]⟩ else ⟨["real", "b"]⟩)
  subscribe w d := if w.2 then .ok () else .error (.subscribe d "refused")
  dump w _ _ _ := w

def pointedDeclaration : Declaration :=
  ⟨"app::Flags", true, some "@FLAGS@", [⟨"flag", "bool", some "f", some "false", 0⟩]⟩

/-- The subscriber refuses the directory of the first build. A second build is accepted, and then the
variable names a file in another directory and a pass puts its entry in place. -/
def moved : History (String × Bool) where
  setup := ⟨pointed, .default, .dispatch, none⟩
  world := ("/a/flags.properties", false)
  metrics := true
  moves := [.registry ⟨[], [], some []⟩, .get 0 pointedDeclaration, .turn 0, .turn 0, .turn 0, .turn 0,
    .turn 0, .turn 0, .world ("/a/flags.properties", true), .invalidate 0, .get 0 pointedDeclaration,
    .turn 1, .turn 1, .turn 1, .turn 1, .turn 1, .turn 1, .world ("/b/flags.properties", true), .reload,
    .turn 2, .turn 2, .turn 2, .turn 2, .turn 2, .turn 2, .turn 2]

def movedEntry : Entry :=
  .new ⟨"app::Flags", "@FLAGS@", [⟨"flag", .bool, "f", "false"⟩]⟩ (flagInstance 3 false)
    ⟨"app::Flags", [⟨"flag", .bool, "f", "false", .bool false, false⟩], "f=false\n",
      some ⟨"/b/flags.properties"⟩, true, []⟩

theorem proper_pointed (w : String × Bool) (path : Path) (d : Directory)
    (h : pointed.canonical w path = .ok d) : d.Proper := by
  have hd : d = ⟨["real", "a"]⟩ ∨ d = ⟨["real", "b"]⟩ := by
    simp only [pointed] at h
    split at h <;> cases h <;> simp
  intro s hs
  have hs : s = "real" ∨ s = "a" ∨ s = "b" := by
    rcases hd with rfl | rfl <;> simp at hs <;> tauto
  rcases hs with rfl | rfl | rfl <;> exact ⟨by decide, by decide, by decide⟩

theorem attended_moved : moved.Attended 26 := by
  intro k r hk hmove
  cases k with
  | zero =>
    cases hmove
    exact .attached fun _ => .ok ()
  | succ k => exact absurd (List.mem_of_getElem? (l := moved.moves.tail) hmove) (by simp [moved])

theorem source_watched_moved :
    (moved.slot 8 0).map (·.warnings) =
      some [.watchFailed ⟨"/a/flags.properties"⟩ (.subscribe ⟨["real", "a"]⟩ "refused")] ∧
    (moved.state 26).registry.subscriber = some [⟨["real", "a"]⟩, ⟨["real", "b"]⟩] ∧
    moved.Attended 26 ∧ moved.slot 26 0 = some movedEntry ∧ movedEntry.watchable = true ∧
    ∃ place j b i began read made put, put < 26 ∧
      moved.Origin 0 movedEntry place j b i began read made put ∧
      ∃ path parent name dir, b.source = some path ∧ path.split? = some (parent, name) ∧
        pointed.canonical (moved.state began).world (if parent.text == "" then ⟨"."⟩ else parent) =
          .ok dir ∧
        (moved.state 26).registry.watches (Path.join ⟨directoryText dir⟩ ⟨name⟩) = true ∧
        ∀ given, (moved.state 26).registry.subscriber = some given → dir ∈ given := by
  have hrefused : (moved.slot 8 0).map (·.warnings) =
      some [.watchFailed ⟨"/a/flags.properties"⟩ (.subscribe ⟨["real", "a"]⟩ "refused")] := by
    decide +kernel
  have hgiven : (moved.state 26).registry.subscriber =
      some [⟨["real", "a"]⟩, ⟨["real", "b"]⟩] := by
    decide +kernel
  have hslot : moved.slot 26 0 = some movedEntry := by decide +kernel
  exact ⟨hrefused, hgiven, attended_moved, hslot, rfl, History.source_watched moved proper_pointed
    attended_moved hslot rfl (by simp [movedEntry, Entry.new])⟩

end Flag

end TypedConfig.Cache
