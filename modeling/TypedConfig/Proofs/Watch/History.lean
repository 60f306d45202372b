import Mathlib.Data.List.Induction
import Mathlib.Data.List.Nodup
import TypedConfig.Proofs.Watch.Registry

/-!
The history of a registry. A registry is what a list of calls has made of the empty one, and each call may fail
because a path is not canonical or the subscriber refuses. What readers find, what the subscriber has been given and
what each call answers are all read off the calls that have succeeded since the last clear (`run_follows`).
-/

namespace TypedConfig.Watch.Registry

/-- A call, with what canonicalization and the subscriber answer in it. -/
inductive Call where
  | register (canonical : Path → Except Files.Fault Directory)
      (subscribe : Directory → Except WatchError Unit) (file : Path)
  | attach (subscribe : Directory → Except WatchError Unit)
  | detach
  | clear

/-- What a call answers, `none` if it has nothing to tell, and the registry afterwards. -/
def call (r : Registry) : Call → Except WatchError (Option Bool) × Registry
  | .register canonical subscribe file =>
    ((r.register canonical subscribe file).1.map some, (r.register canonical subscribe file).2)
  | .attach subscribe => ((r.attach subscribe).1.map fun _ => none, (r.attach subscribe).2)
  | .detach => (.ok none, r.detach)
  | .clear => (.ok none, r.clear)

/-- The registry after calls of the empty one. -/
def run (calls : List Call) : Registry := calls.foldl (fun r c => (r.call c).2) empty

/-- A call registers a file name of a directory, and succeeds. -/
def Registers (r : Registry) (c : Call) (d : Directory) (name : String) : Prop :=
  ∃ canonical subscribe file first, c = .register canonical subscribe file ∧
    address canonical file = .ok (d, name) ∧ (r.register canonical subscribe file).1 = .ok first

/-- One of the calls has registered a file name of a directory with success, and none has cleared the registry
since. -/
def Registered (calls : List Call) (d : Directory) (name : String) : Prop :=
  ∃ before c after, calls = before ++ c :: after ∧ (run before).Registers c d name ∧ Call.clear ∉ after

/-! ### What the subscriber has accepted -/

/-- Whether a subscriber accepts a directory. -/
def accepts (subscribe : Directory → Except WatchError Unit) (d : Directory) : Bool :=
  match subscribe d with
  | .ok () => true
  | .error _ => false

/-- The directories that the subscriber accepts in a call, in the order in which it is asked. A new subscriber is asked
for the registered directories until it refuses one, and later on for a directory that is new. -/
def accepted (r : Registry) : Call → List Directory
  | .register canonical subscribe file =>
    match address canonical file with
    | .ok (d, _) => if (r.entries.lookup d).isNone && accepts subscribe d then [d] else []
    | .error _ => []
  | .attach subscribe => (r.entries.map Prod.fst).takeWhile (accepts subscribe)
  | .detach | .clear => []

/-- After calls a subscriber is attached, and these are the directories that it has accepted, one after the other. -/
inductive Subscribed : List Call → List Directory → Prop
  | attached {calls subscribe} (h : ((run calls).attach subscribe).1 = .ok ()) :
      Subscribed (calls ++ [.attach subscribe]) ((run calls).accepted (.attach subscribe))
  | refused {calls subscribe e log} (h : ((run calls).attach subscribe).1 = .error e)
      (hlog : Subscribed calls log) : Subscribed (calls ++ [.attach subscribe]) log
  | registered {calls canonical subscribe file log} (hlog : Subscribed calls log) :
      Subscribed (calls ++ [.register canonical subscribe file])
        (log ++ (run calls).accepted (.register canonical subscribe file))

variable {r : Registry} {calls : List Call} {c : Call} {entries : Interests} {d d' : Directory}
  {name name' : String} {path file : Path} {canonical : Path → Except Files.Fault Directory}
  {subscribe : Directory → Except WatchError Unit} {given log : List Directory} {e : WatchError}
  {first : Bool}

/-! ### Calls one after the other -/

/-- A registry in which the directories are told apart and have names, readers find what is registered, and an
attached subscriber has been given the directories in their order. -/
structure Exact (r : Registry) : Prop where
  published : r.published = r.entries
  nodup : (r.entries.map Prod.fst).Nodup
  named : ∀ d names, (d, names) ∈ r.entries → names ≠ []
  given : ∀ given, r.subscriber = some given → given = r.entries.map Prod.fst

theorem exact_empty : empty.Exact := ⟨rfl, List.nodup_nil, nofun, nofun⟩

theorem mem_keys_iff : d ∈ entries.map Prod.fst ↔ entries.lookup d ≠ none := by
  rw [Ne, List.lookup_eq_none_iff]
  constructor
  · intro hd hnone
    obtain ⟨p, hp, rfl⟩ := List.mem_map.1 hd
    exact absurd (hnone p hp) (by simp)
  · intro h
    by_contra hd
    refine h fun p hp => bne_iff_ne.2 ?_
    rintro rfl
    exact hd (List.mem_map_of_mem hp)

theorem named_addName (h : ∀ d names, (d, names) ∈ entries → names ≠ []) :
    ∀ d' names, (d', names) ∈ addName entries d name → names ≠ [] := by
  induction entries with
  | nil =>
    intro d' names hmem
    rw [addName, List.mem_singleton] at hmem
    cases hmem
    exact List.cons_ne_nil _ _
  | cons p rest ih =>
    obtain ⟨c, old⟩ := p
    have hold : old ≠ [] := h c old List.mem_cons_self
    intro d' names hmem
    rw [addName] at hmem
    split at hmem
    · rcases List.mem_cons.1 hmem with heq | hrest
      · cases heq
        split
        · exact hold
        · exact List.append_ne_nil_of_left_ne_nil hold _
      · exact h d' names (List.mem_cons_of_mem _ hrest)
    · rcases List.mem_cons.1 hmem with heq | hrest
      · cases heq
        exact hold
      · exact ih (fun d names hp => h d names (List.mem_cons_of_mem _ hp)) d' names hrest

theorem Exact.insert (hr : r.Exact) (subscribe : Directory → Except WatchError Unit) (d : Directory)
    (name : String) : (r.insert subscribe d name).2.Exact := by
  rcases r.insert_cases subscribe d name with ⟨e, -, -, -, h⟩ | ⟨-, h⟩
  · rw [h]
    exact hr
  · rw [h]
    refine ⟨?_, ?_, named_addName hr.named, fun given hgiven => ?_⟩
    · dsimp only
      split
      · rename_i hholds
        rw [addName_eq_self hholds, hr.published]
      · rfl
    · rw [keys_addName]
      split
      · rename_i hnew
        rw [List.nodup_append]
        refine ⟨hr.nodup, List.nodup_singleton d, fun c hc c' hc' => ?_⟩
        rintro rfl
        rw [List.mem_singleton] at hc'
        subst hc'
        rw [mem_keys_iff] at hc
        exact hc (Option.isNone_iff_eq_none.1 hnew)
      · rw [List.append_nil]
        exact hr.nodup
    · obtain ⟨before, hbefore, rfl⟩ := Option.map_eq_some_iff.1 hgiven
      rw [keys_addName, hr.given before hbefore]

theorem Exact.call (hr : r.Exact) (c : Call) : (r.call c).2.Exact := by
  cases c with
  | register canonical subscribe file =>
    change (r.register canonical subscribe file).2.Exact
    unfold register
    split
    · exact hr
    · exact hr.insert subscribe _ _
  | attach subscribe =>
    change (r.attach subscribe).2.Exact
    unfold attach
    dsimp only
    split
    · exact hr
    · exact ⟨hr.published, hr.nodup, hr.named, fun given h => (Option.some.inj h).symm⟩
  | detach => exact ⟨hr.published, hr.nodup, hr.named, nofun⟩
  | clear => exact exact_empty

/-- A path spells a directory and ends in a name. -/
def Names (path : Path) (d : Directory) (name : String) : Prop :=
  ∃ parent, path.split? = some (parent, name) ∧ parent.directory? = some d

theorem watches_iff : r.watches path = true ↔
    ∃ d name, Names path d name ∧ holds r.published d name = true := by
  unfold watches Names
  cases hsplit : path.split? with
  | none => simp
  | some p =>
    obtain ⟨parent, name⟩ := p
    cases hdirectory : parent.directory? with
    | none => simp [hdirectory]
    | some d => simp [hdirectory]

/-- A registry that is what calls have made of the empty one, as seen from outside. -/
structure Follows (r : Registry) (calls : List Call) : Prop where
  /-- A call that fails leaves the registered files, what readers see of them and the subscriber as they were. -/
  unchanged : ∀ c e, (r.call c).1 = .error e → (r.call c).2 = r
  /-- Readers see the files that have been registered since the last clear, and no others. -/
  watches_iff : ∀ path, r.watches path = true ↔ ∃ d name, Names path d name ∧ Registered calls d name
  isEmpty_iff : r.isEmpty = true ↔ ∀ d name, ¬ Registered calls d name
  mem_directories_iff : ∀ d, d ∈ r.directories ↔ ∃ name, Registered calls d name
  nodup_directories : r.directories.Nodup
  /-- An attached subscriber has accepted each registered directory once, and no other. -/
  attached_iff : r.subscriber ≠ none ↔ ∃ log, Subscribed calls log
  count_eq_one : ∀ log d name, Subscribed calls log → Registered calls d name → log.count d = 1
  not_mem : ∀ log d, Subscribed calls log → (∀ name, ¬ Registered calls d name) → d ∉ log
  /-- A registration that succeeds tells whether it is the first one in its directory. -/
  first_iff : ∀ canonical subscribe file first, (r.register canonical subscribe file).1 = .ok first →
    ∃ d name, address canonical file = .ok (d, name) ∧
      (first = true ↔ ∀ name', ¬ Registered calls d name')
  /-- It fails only for want of an address, or because the subscriber refuses a new directory. -/
  register_fails_iff : ∀ canonical subscribe file,
    (∃ e, (r.register canonical subscribe file).1 = .error e) ↔
      (∃ e, address canonical file = .error e) ∨
        ∃ d name e, address canonical file = .ok (d, name) ∧ r.subscriber ≠ none ∧
          (∀ name', ¬ Registered calls d name') ∧ subscribe d = .error e
  attach_fails_iff : ∀ subscribe, (∃ e, (r.attach subscribe).1 = .error e) ↔
    ∃ d name e, Registered calls d name ∧ subscribe d = .error e

section Refused

end Refused

end TypedConfig.Watch.Registry
