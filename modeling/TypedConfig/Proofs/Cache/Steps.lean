import TypedConfig.Cache.Machine

/-!
What one step of a call can do, case by case. Proofs about calls take a step apart by these cases and
never by the definition of the step.
-/

namespace TypedConfig.Cache

open Contract (Declaration Descriptor)
open Resolution (Binding)

variable {σ : Type} {setup : Setup σ}

theorem Phase.exists_made {phase : Phase} (h : ¬ phase.rank < 4) :
    ∃ b i, phase = .made b i := by
  cases phase with
  | made b i => exact ⟨b, i, rfl⟩
  | fresh | approached | observed | bound => simp [rank] at h

/-- The steps of a get: an entry is found, the declaration is refused, or a build begins; the build goes
on or fails; and its instance is dropped for an installed one or installed itself. -/
inductive Get.Steps (setup : Setup σ) :
    Get → State σ → Get ⊕ Except CacheError Instance → State σ → Prop
  | hit {key declared s} {e : Entry} (h : s.entry? key = some e) :
      Steps setup (.lookup key declared) s (.inr (.ok e.inst)) s
  | refused {key s e} {declared : Declaration} (h : s.entry? key = none)
      (hd : declared.validate = .error e) :
      Steps setup (.lookup key declared) s (.inr (.error (.declaration e)))
        (s.count (.builds declared.typeName .declarationError))
  | begun {key s d} {declared : Declaration} (h : s.entry? key = none)
      (hd : declared.validate = .ok d) :
      Steps setup (.lookup key declared) s (.inl (.building key d .fresh)) s
  | failed {key d s r e} {phase : Phase} (hp : phase.rank < 4)
      (h : phase.next setup d s = (.error e, r)) :
      Steps setup (.building key d phase) s (.inr (.error e)) (r.count (.builds d.typeName e.outcome))
  | went {key d s r next} {phase : Phase} (hp : phase.rank < 4)
      (h : phase.next setup d s = (.ok next, r)) :
      Steps setup (.building key d phase) s (.inl (.building key d next)) (noteMade d next r)
  | dropped {key d b i s} {e : Entry} (h : s.entry? key = some e) :
      Steps setup (.building key d (.made b i)) s (.inr (.ok e.inst)) s.recordSize
  | installed {key d b i} {s : State σ} (h : s.entry? key = none) :
      Steps setup (.building key d (.made b i)) s (.inr (.ok i))
        (State.recordSize { s with entries := s.entries ++ [(key, Entry.new d i b)] })

theorem Get.step_building {key : Key} {d : Descriptor} {phase : Phase} (s : State σ)
    (hp : phase.rank < 4) :
    (Get.building key d phase).step setup s =
      match phase.next setup d s with
      | (.ok next, s) => (.inl (.building key d next), noteMade d next s)
      | (.error e, s) => (.inr (.error e), s.count (.builds d.typeName e.outcome)) := by
  cases phase with
  | made b i => simp [Phase.rank] at hp
  | fresh | approached | observed | bound => rfl

theorem Get.steps {g : Get} {s r : State σ} {o : Get ⊕ Except CacheError Instance}
    (h : g.step setup s = (o, r)) : Steps setup g s o r := by
  cases g with
  | lookup key declared =>
    cases he : s.entry? key with
    | some e =>
      simp only [step, he] at h
      cases h
      exact .hit he
    | none =>
      cases hd : declared.validate with
      | error e =>
        simp only [step, he, hd] at h
        cases h
        exact .refused he hd
      | ok d =>
        simp only [step, he, hd] at h
        cases h
        exact .begun he hd
  | building key d phase =>
    by_cases hp : phase.rank < 4
    · rw [step_building s hp] at h
      rcases hn : phase.next setup d s with ⟨e | next, r'⟩
      · rw [hn] at h
        cases h
        exact .failed hp hn
      · rw [hn] at h
        cases h
        exact .went hp hn
    · obtain ⟨b, i, rfl⟩ := Phase.exists_made hp
      cases he : s.entry? key with
      | some e =>
        simp only [step, install, he] at h
        cases h
        exact .dropped he
      | none =>
        simp only [step, install, he] at h
        cases h
        exact .installed he

/-- The steps of a pass: it begins with the entries that may change and ends when none is left; the check
of an entry fails, goes on, or finds its fingerprint unchanged; and a new entry replaces the one that was
looked at, or is dropped if that one is gone. -/
inductive Reload.Steps (setup : Setup σ) : Reload → State σ → Reload ⊕ Report → State σ → Prop
  | begun {s : State σ} :
      Steps setup .start s (.inl (.checking .zero (snapshot s) .fresh))
        (State.count { s with passes := s.passes + 1 } .reloadPasses)
  | ended {report phase s} : Steps setup (.checking report [] phase) s (.inr report) s
  | failed {report key rest s r e} {current : Entry} {phase : Phase} (hp : phase.rank < 4)
      (h : phase.next setup current.descriptor s = (.error e, r)) :
      Steps setup (.checking report ((key, current) :: rest) phase) s
        (.inl (.checking (report.add .failed) rest .fresh))
        (r.count (.reloadErrors current.descriptor.typeName))
  | reused {report key rest s r b} {current : Entry} {phase : Phase} (hp : phase.rank < 4)
      (h : phase.next setup current.descriptor s = (.ok (.bound b), r))
      (hf : b.fingerprint = current.fingerprint) :
      Steps setup (.checking report ((key, current) :: rest) phase) s
        (.inl (.checking (report.add .reused) rest .fresh))
        (r.count (.reuse current.descriptor.typeName))
  | went {report key rest s r next} {current : Entry} {phase : Phase} (hp : phase.rank < 4)
      (h : phase.next setup current.descriptor s = (.ok next, r))
      (hf : ∀ b, next = .bound b → b.fingerprint ≠ current.fingerprint) :
      Steps setup (.checking report ((key, current) :: rest) phase) s
        (.inl (.checking report ((key, current) :: rest) next)) r
  | replaced {report key rest b i} {s : State σ} {current e : Entry} (h : s.entry? key = some e)
      (hid : e.inst.id = current.inst.id) :
      Steps setup (.checking report ((key, current) :: rest) (.made b i)) s
        (.inl (.checking (report.add .replaced) rest .fresh))
        (State.count
          { s with entries := State.swapEntry key (.new current.descriptor i b) s.entries }
          (.builds current.descriptor.typeName .replaced))
  | skipped {report key rest b i} {s : State σ} {current : Entry}
      (h : ∀ e, s.entry? key = some e → e.inst.id ≠ current.inst.id) :
      Steps setup (.checking report ((key, current) :: rest) (.made b i)) s
        (.inl (.checking (report.add .skipped) rest .fresh)) s

theorem Reload.check_eq {key : Key} {current : Entry} {phase : Phase} (s : State σ)
    (hp : phase.rank < 4) :
    check setup key current phase s =
      match phase.next setup current.descriptor s with
      | (.error _, s) => (.inr .failed, s.count (.reloadErrors current.descriptor.typeName))
      | (.ok (.bound b), s) =>
        if b.fingerprint = current.fingerprint then
          (.inr .reused, s.count (.reuse current.descriptor.typeName))
        else (.inl (.bound b), s)
      | (.ok next, s) => (.inl next, s) := by
  cases phase with
  | made b i => simp [Phase.rank] at hp
  | fresh | approached | observed | bound => rfl

theorem Reload.steps {t : Reload} {s r : State σ} {o : Reload ⊕ Report}
    (h : t.step setup s = (o, r)) : Steps setup t s o r := by
  cases t with
  | start =>
    simp only [step] at h
    cases h
    exact .begun
  | checking report left phase =>
    cases left with
    | nil =>
      simp only [step] at h
      cases h
      exact .ended
    | cons p rest =>
      obtain ⟨key, current⟩ := p
      by_cases hp : phase.rank < 4
      · simp only [step, check_eq s hp] at h
        rcases hn : phase.next setup current.descriptor s with ⟨e | next, r'⟩
        · rw [hn] at h
          cases h
          exact .failed hp hn
        · rw [hn] at h
          cases next with
          | bound b =>
            by_cases hf : b.fingerprint = current.fingerprint
            · simp only [hf, if_true] at h
              cases h
              exact .reused hp hn hf
            · simp only [hf, if_false] at h
              cases h
              refine .went hp hn ?_
              rintro b ⟨⟩
              exact hf
          | fresh | approached | observed | made =>
            cases h
            exact .went hp hn (by simp)
      · obtain ⟨b, i, rfl⟩ := Phase.exists_made hp
        cases he : s.entry? key with
        | none =>
          simp only [step, check, swap, he] at h
          cases h
          exact .skipped (by simp [he])
        | some e =>
          by_cases hid : e.inst.id = current.inst.id
          · simp only [step, check, swap, he, hid, if_true] at h
            cases h
            exact .replaced he hid
          · simp only [step, check, swap, he, hid, if_false] at h
            cases h
            exact .skipped (by simpa [he] using hid)

end TypedConfig.Cache
