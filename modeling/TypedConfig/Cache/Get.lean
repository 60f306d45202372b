import TypedConfig.Cache.Build
import TypedConfig.Cache.Process

/-!
Getting an instance. A contract that has an entry is answered at once. Otherwise its declaration is
checked and an instance is built, and it is installed unless an entry has appeared in the meantime;
in that case the instance just built is dropped and the installed one is the answer.
-/

namespace TypedConfig.Cache

open Contract (Declaration Descriptor)

/-- How far a get has come. -/
inductive Get where
  | lookup (key : Key) (declared : Declaration)
  | building (key : Key) (d : Descriptor) (phase : Phase)
  deriving DecidableEq, Repr

namespace Get

variable {σ : Type}

/-- The contract type that is asked for. -/
def key : Get → Key
  | lookup key _ => key
  | building key _ _ => key

/-- Whether the next step reads a file. -/
def readsNext : Get → Bool
  | lookup _ _ => false
  | building _ _ phase => phase.readsNext

/-- Installs an entry unless there is one, and answers the instance that is installed then. -/
def install (key : Key) (e : Entry) (s : State σ) : Instance × State σ :=
  match s.entry? key with
  | some existing => (existing.inst, s.recordSize)
  | none => (e.inst, { s with entries := s.entries ++ [(key, e)] }.recordSize)

/-- Counts an instance that has just been made. -/
def noteMade (d : Descriptor) (phase : Phase) (s : State σ) : State σ :=
  match phase with
  | .made _ _ => s.count (.builds d.typeName .built)
  | _ => s

/-- One step of a get. -/
def step (setup : Setup σ) (g : Get) (s : State σ) :
    (Get ⊕ Except CacheError Instance) × State σ :=
  match g with
  | lookup key declared =>
    match s.entry? key with
    | some e => (.inr (.ok e.inst), s)
    | none =>
      match declared.validate with
      | .ok d => (.inl (.building key d .fresh), s)
      | .error e =>
        (.inr (.error (.declaration e)), s.count (.builds declared.typeName .declarationError))
  | building key d (.made b i) =>
    let (kept, s) := install key (.new d i b) s
    (.inr (.ok kept), s)
  | building key d phase =>
    match phase.next setup d s with
    | (.ok next, s) => (.inl (.building key d next), noteMade d next s)
    | (.error e, s) => (.inr (.error e), s.count (.builds d.typeName e.outcome))

/-- How many steps are left at most. -/
def size : Get → Nat × Nat
  | lookup _ _ => (1, 0)
  | building _ _ phase => (0, 4 - phase.rank)

theorem size_step {setup : Setup σ} {g h : Get} {s r : State σ}
    (e : step setup g s = (.inl h, r)) :
    Prod.Lex (· < ·) (· < ·) (size h) (size g) := by
  cases g with
  | lookup key declared =>
    simp only [step] at e
    split at e
    · cases e
    · split at e <;> cases e
      exact Prod.Lex.left _ _ (by decide)
  | building key d phase =>
    cases phase with
    | made b i => simp [step] at e
    | _ =>
      simp only [step] at e
      split at e <;> cases e
      have hr := Phase.rank_next ‹_›
      refine Prod.Lex.right _ ?_
      simp only [Phase.rank] at hr ⊢
      omega

/-- Gets as processes. -/
def process (setup : Setup σ) : Process Get (Except CacheError Instance) (State σ) :=
  ⟨step setup, size, fun _ _ _ _ => size_step⟩

end Get

/-- Gets the instance of a contract type while nothing else happens. -/
def State.get {σ : Type} (setup : Setup σ) (s : State σ) (key : Key) (declared : Declaration) :
    Except CacheError Instance × State σ :=
  (Get.process setup).run (.lookup key declared) s

end TypedConfig.Cache
