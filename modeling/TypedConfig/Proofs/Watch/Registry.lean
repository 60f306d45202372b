import TypedConfig.Proofs.Watch.Paths

/-!
What a registry keeps. Registering files, attaching subscribers and letting them go never forgets a file,
readers always find what is registered, and an attached subscriber has been given every registered
directory, whichever of its calls have failed (`Registry.Extends`, `Registry.Sound.covers`).
-/

namespace TypedConfig.Watch.Registry

variable {r r' : Registry} {entries : Interests} {d d' : Directory} {name name' : String}
  {subscribe : Directory → Except WatchError Unit} {canonical : Path → Except Files.Fault Directory}
  {path parent : Path} {first : Bool}

/-! ### Adding a name -/

theorem lookup_addName_of_ne (h : d' ≠ d) :
    (addName entries d name).lookup d' = entries.lookup d' := by
  induction entries with
  | nil =>
    have hne : (d' == d) = false := beq_eq_false_iff_ne.2 h
    simp [addName, List.lookup_cons, hne]
  | cons p rest ih =>
    obtain ⟨c, names⟩ := p
    by_cases hc : c = d
    · subst hc
      have hne : (d' == c) = false := beq_eq_false_iff_ne.2 h
      rw [addName, if_pos rfl, List.lookup_cons, List.lookup_cons, hne]
    · rw [addName, if_neg hc, List.lookup_cons, List.lookup_cons, ih]

theorem holds_iff :
    holds entries d name = true ↔ ∃ names, entries.lookup d = some names ∧ name ∈ names := by
  unfold holds
  split
  · rename_i names hnames
    simp [hnames]
  · rename_i hnone
    simp [hnone]

theorem lookup_addName_self (entries : Interests) (d : Directory) (name : String) :
    (addName entries d name).lookup d = some (match entries.lookup d with
      | some names => if names.contains name then names else names ++ [name]
      | none => [name]) := by
  induction entries with
  | nil => simp [addName]
  | cons p rest ih =>
    obtain ⟨c, names⟩ := p
    by_cases hc : c = d
    · subst hc
      rw [addName, if_pos rfl, List.lookup_cons_self, List.lookup_cons_self]
    · have hne : (d == c) = false := beq_eq_false_iff_ne.2 (Ne.symm hc)
      rw [addName, if_neg hc, List.lookup_cons, List.lookup_cons, hne]
      exact ih

/-- **Adding a name** adds it and nothing else. -/
theorem holds_addName_iff : holds (addName entries d name) d' name' = true ↔
    d' = d ∧ name' = name ∨ holds entries d' name' = true := by
  by_cases hd : d' = d
  · subst hd
    unfold holds
    rw [lookup_addName_self]
    cases hlookup : entries.lookup d' with
    | none => simp
    | some names =>
      dsimp only
      split
      · rename_i hmem
        constructor
        · exact .inr
        · rintro (⟨-, rfl⟩ | hin)
          · exact hmem
          · exact hin
      · rw [List.contains_iff_mem, List.contains_iff_mem, List.mem_append, List.mem_singleton]
        constructor
        · rintro (hin | rfl)
          · exact .inr hin
          · exact .inl ⟨rfl, rfl⟩
        · rintro (⟨-, rfl⟩ | hin)
          · exact .inr rfl
          · exact .inl hin
  · unfold holds
    rw [lookup_addName_of_ne hd]
    constructor
    · exact .inr
    · rintro (⟨rfl, -⟩ | hin)
      · exact absurd rfl hd
      · exact hin

theorem addName_eq_self (h : holds entries d name = true) : addName entries d name = entries := by
  unfold holds at h
  induction entries with
  | nil => cases h
  | cons p rest ih =>
    obtain ⟨c, names⟩ := p
    by_cases hc : c = d
    · subst hc
      rw [List.lookup_cons_self] at h
      rw [addName, if_pos rfl, if_pos h]
    · have hne : (d == c) = false := beq_eq_false_iff_ne.2 (Ne.symm hc)
      rw [List.lookup_cons, hne] at h
      rw [addName, if_neg hc, ih h]

/-- The directories after a name has been added: a new one is the last. -/
theorem keys_addName (entries : Interests) (d : Directory) (name : String) :
    (addName entries d name).map Prod.fst =
      entries.map Prod.fst ++ if (entries.lookup d).isNone then [d] else [] := by
  induction entries with
  | nil => simp [addName]
  | cons p rest ih =>
    obtain ⟨c, names⟩ := p
    by_cases hc : c = d
    · subst hc
      rw [addName, if_pos rfl, List.lookup_cons_self]
      simp
    · have hne : (d == c) = false := beq_eq_false_iff_ne.2 (Ne.symm hc)
      rw [addName, if_neg hc, List.lookup_cons, hne, List.map_cons, ih]
      rfl

/-! ### Sound registries -/

/-- A registry whose readers find what is registered, and whose subscriber, if one is attached, has been
given all directories. -/
structure Sound (r : Registry) : Prop where
  published : r.published = r.entries
  given : ∀ given, r.subscriber = some given → ∀ d, r.entries.lookup d ≠ none → d ∈ given

/-- A file name of a directory is covered: readers find it, and an attached subscriber has been given the
directory. -/
structure Covers (r : Registry) (d : Directory) (name : String) : Prop where
  published : holds r.published d name = true
  given : ∀ given, r.subscriber = some given → d ∈ given

/-- **What is registered is covered.** -/
theorem Sound.covers (hr : r.Sound) (h : holds r.entries d name = true) : r.Covers d name where
  published := hr.published ▸ h
  given given hgiven := by
    obtain ⟨names, hnames, -⟩ := holds_iff.1 h
    exact hr.given given hgiven d (by simp [hnames])

theorem sound_empty : empty.Sound := ⟨rfl, nofun⟩

theorem watches_empty (path : Path) : empty.watches path = false := by
  unfold watches
  split
  · rfl
  · split <;> rfl

/-- A registry that comes from another and has forgotten nothing. -/
structure Extends (r r' : Registry) : Prop where
  sound : r.Sound → r'.Sound
  holds : ∀ d name, holds r.entries d name = true → Registry.holds r'.entries d name = true

theorem Extends.refl (r : Registry) : r.Extends r := ⟨id, fun _ _ => id⟩

theorem Extends.trans {q : Registry} (h : r.Extends r') (h' : r'.Extends q) : r.Extends q :=
  ⟨fun hr => h'.sound (h.sound hr), fun d name hd => h'.holds d name (h.holds d name hd)⟩

/-- A new directory is refused and nothing changes, or the name is added, and an attached subscriber has accepted the
directory if it is new. -/
theorem insert_cases (r : Registry) (subscribe : Directory → Except WatchError Unit) (d : Directory)
    (name : String) :
    (∃ e, r.subscriber ≠ none ∧ r.entries.lookup d = none ∧ subscribe d = .error e ∧
      r.insert subscribe d name = (.error e, r)) ∨
    (r.subscriber ≠ none → r.entries.lookup d = none → subscribe d = .ok ()) ∧
      r.insert subscribe d name = (.ok (r.entries.lookup d).isNone, ⟨addName r.entries d name,
        if holds r.entries d name then r.published else addName r.entries d name,
        r.subscriber.map (· ++ if (r.entries.lookup d).isNone then [d] else [])⟩) := by
  unfold insert
  dsimp only
  cases hsubscriber : r.subscriber with
  | none => exact .inr ⟨fun h => absurd rfl h, rfl⟩
  | some given =>
    cases hlookup : r.entries.lookup d with
    | some names => exact .inr ⟨fun _ h => absurd h (by simp), by simp⟩
    | none =>
      cases hsubscribe : subscribe d with
      | error e => exact .inl ⟨e, by simp, rfl, rfl, rfl⟩
      | ok => exact .inr ⟨fun _ _ => rfl, rfl⟩

theorem extends_insert (r : Registry) (subscribe : Directory → Except WatchError Unit) (d : Directory)
    (name : String) : r.Extends (r.insert subscribe d name).2 := by
  rcases r.insert_cases subscribe d name with ⟨e, -, -, -, h⟩ | ⟨-, h⟩
  · rw [h]
    exact .refl r
  · rw [h]
    refine ⟨fun hr => ⟨?_, fun given hgiven d' hd' => ?_⟩, fun _ _ h => holds_addName_iff.2 (.inr h)⟩
    · dsimp only
      split
      · rename_i hholds
        rw [addName_eq_self hholds, hr.published]
      · rfl
    · obtain ⟨before, hbefore, rfl⟩ := Option.map_eq_some_iff.1 hgiven
      by_cases hold : r.entries.lookup d' = none
      · -- a directory that was not there is the one that has been added
        obtain rfl : d' = d := by
          by_contra hne
          exact hd' (by rw [lookup_addName_of_ne hne, hold])
        simp [hold]
      · exact List.mem_append_left _ (hr.given before hbefore d' hold)

/-- **Registering a file forgets nothing**, whether it succeeds or fails. -/
theorem extends_register (r : Registry) (canonical : Path → Except Files.Fault Directory)
    (subscribe : Directory → Except WatchError Unit) (path : Path) :
    r.Extends (r.register canonical subscribe path).2 := by
  unfold register
  split
  · exact .refl r
  · exact r.extends_insert subscribe _ _

/-! ### Answers after other registrations -/

/-- A registry that comes from another by registrations: no directory is gone, and an attached subscriber
has accepted those that are new. -/
structure Grows (subscribe : Directory → Except WatchError Unit) (r r' : Registry) : Prop where
  attached : r'.subscriber = none ↔ r.subscriber = none
  kept : ∀ d, r.entries.lookup d ≠ none → r'.entries.lookup d ≠ none
  accepted : r.subscriber ≠ none → ∀ d, r.entries.lookup d = none → r'.entries.lookup d ≠ none →
    subscribe d = .ok ()

theorem Grows.refl (subscribe : Directory → Except WatchError Unit) (r : Registry) :
    Grows subscribe r r :=
  ⟨Iff.rfl, fun _ h => h, fun _ _ hnone hsome => absurd hnone hsome⟩

theorem Grows.trans {q : Registry} (h : Grows subscribe r r') (h' : Grows subscribe r' q) :
    Grows subscribe r q := by
  refine ⟨h'.attached.trans h.attached, fun d hd => h'.kept d (h.kept d hd), ?_⟩
  intro hattached d hnone hsome
  by_cases hd : r'.entries.lookup d = none
  · exact h'.accepted (fun hn => hattached (h.attached.1 hn)) d hd hsome
  · exact h.accepted hattached d hnone hd

theorem grows_insert (r : Registry) (subscribe : Directory → Except WatchError Unit) (d : Directory)
    (name : String) : Grows subscribe r (r.insert subscribe d name).2 := by
  rcases r.insert_cases subscribe d name with ⟨e, -, -, -, h⟩ | ⟨hok, h⟩
  · rw [h]
    exact .refl subscribe r
  · rw [h]
    refine ⟨Option.map_eq_none_iff, fun d' hd' => ?_, fun hattached d' hnone hsome => ?_⟩
    · by_cases hd : d' = d
      · rw [hd, lookup_addName_self]
        exact Option.some_ne_none _
      · rwa [lookup_addName_of_ne hd]
    · obtain rfl : d' = d := by
        by_contra hd
        exact hsome (by rw [lookup_addName_of_ne hd, hnone])
      exact hok hattached hnone

theorem grows_register (r : Registry) (canonical : Path → Except Files.Fault Directory)
    (subscribe : Directory → Except WatchError Unit) (path : Path) :
    Grows subscribe r (r.register canonical subscribe path).2 := by
  unfold register
  split
  · exact .refl subscribe r
  · exact r.grows_insert subscribe _ _

theorem insert_eq_error_iff {e : WatchError} : (r.insert subscribe d name).1 = .error e ↔
    r.subscriber ≠ none ∧ r.entries.lookup d = none ∧ subscribe d = .error e := by
  rcases r.insert_cases subscribe d name with ⟨e', hattached, hnone, herror, h⟩ | ⟨hok, h⟩
  · rw [h, herror]
    constructor
    · intro heq
      cases heq
      exact ⟨hattached, hnone, rfl⟩
    · rintro ⟨-, -, heq⟩
      cases heq
      rfl
  · rw [h]
    constructor
    · intro heq
      cases heq
    · rintro ⟨hattached, hnone, herror⟩
      rw [hok hattached hnone] at herror
      cases herror

/-- **Other registrations do not change why a file is refused.** -/
theorem Grows.register_eq_error_iff {canonical' : Path → Except Files.Fault Directory} {e : WatchError}
    (h : Grows subscribe r r') (haddress : address canonical' path = address canonical path) :
    (r'.register canonical' subscribe path).1 = .error e ↔
      (r.register canonical subscribe path).1 = .error e := by
  unfold register
  rw [haddress]
  split
  · exact Iff.rfl
  · rw [insert_eq_error_iff, insert_eq_error_iff]
    constructor
    · rintro ⟨hattached, hnone, herror⟩
      refine ⟨fun hn => hattached (h.attached.2 hn), ?_, herror⟩
      by_contra hsome
      exact h.kept _ hsome hnone
    · rintro ⟨hattached, hnone, herror⟩
      refine ⟨fun hn => hattached (h.attached.1 hn), ?_, herror⟩
      by_contra hsome
      rw [h.accepted hattached _ hnone hsome] at herror
      cases herror

/-! ### Files that have been registered -/

/-- The directory and the name of a file that has been registered. -/
theorem exists_of_register (h : (r.register canonical subscribe path).1 = .ok first) :
    ∃ parent name d, path.split? = some (parent, name) ∧
      canonical (if parent.text == "" then ⟨"."⟩ else parent) = .ok d ∧
      holds (r.register canonical subscribe path).2.entries d name = true := by
  unfold register at h ⊢
  cases haddress : address canonical path with
  | error e =>
    rw [haddress] at h
    cases h
  | ok p =>
    obtain ⟨d, name⟩ := p
    rw [haddress] at h
    dsimp only at h ⊢
    have hholds : holds (r.insert subscribe d name).2.entries d name = true := by
      rcases r.insert_cases subscribe d name with ⟨e, -, -, -, heq⟩ | ⟨-, heq⟩
      · rw [heq] at h
        cases h
      · rw [heq]
        exact holds_addName_iff.2 (.inl ⟨rfl, rfl⟩)
    unfold address at haddress
    split at haddress
    · cases haddress
    · rename_i parent name' hsplit
      dsimp only at haddress
      split at haddress
      · cases haddress
      · rename_i directory hdirectory
        cases haddress
        exact ⟨parent, name, d, hsplit, hdirectory, hholds⟩

theorem extends_attach (r : Registry) (subscribe : Directory → Except WatchError Unit) :
    r.Extends (r.attach subscribe).2 := by
  unfold attach
  dsimp only
  split
  · exact .refl r
  · refine ⟨fun hr => ⟨hr.published, ?_⟩, fun _ _ => id⟩
    rintro given ⟨⟩ d hd
    obtain ⟨names, hnames⟩ := Option.ne_none_iff_exists'.1 hd
    obtain ⟨l₁, l₂, hentries, -⟩ := List.lookup_eq_some_iff.1 hnames
    have hmem : (d, names) ∈ r.entries := by
      rw [hentries]
      exact List.mem_append_right _ List.mem_cons_self
    exact List.mem_map_of_mem hmem

/-- What a call makes of a registry, unless it clears it. -/
inductive Used (r : Registry) : Registry → Prop
  | registered (canonical : Path → Except Files.Fault Directory)
      (subscribe : Directory → Except WatchError Unit) (path : Path) :
      Used r (r.register canonical subscribe path).2
  | attached (subscribe : Directory → Except WatchError Unit) : Used r (r.attach subscribe).2
  | detached : Used r r.detach

/-- **A registry that is used forgets nothing unless it is cleared.** -/
theorem Used.extends (h : r.Used r') : r.Extends r' := by
  cases h with
  | registered canonical subscribe path => exact r.extends_register canonical subscribe path
  | attached subscribe => exact r.extends_attach subscribe
  | detached => exact ⟨fun hr => ⟨hr.published, nofun⟩, fun _ _ => id⟩

end TypedConfig.Watch.Registry
