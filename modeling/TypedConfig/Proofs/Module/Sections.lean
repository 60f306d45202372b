import Mathlib.Data.List.Perm.Basic
import TypedConfig.Proofs.Module.Prefixes
import TypedConfig.Proofs.Module.RoundTrip

/-!
The sections of a module: up to the pool, from there to the number of methods, the methods, and the ending. All
that follows the pool is read against the table that the pool comes to (`parse_eq_parseAgainst`). A method is
read alike wherever it stands, so the bytes of the methods may be put into another order
(`MethodCut.exists_read`).
-/

namespace TypedConfig.Module

/-! ### Sections -/

/-- What stands between the pool of a module and its methods. -/
structure Heading where
  typeName : String
  superIndex : Nat
  interface : Option String
  methodCount : Nat

/-- Reads a module up to the end of its pool. -/
def Skeleton.readTable : Reader PoolTable := do
  let found ← Reader.u32
  Reader.ensure (found = magic) (.badMagic found)
  let _minor ← Reader.u16
  let major ← Reader.u16
  Reader.ensure (major = majorVersion) (.unsupportedVersion major)
  PoolTable.read

/-- Reads what stands between the pool and the methods. -/
def Heading.read (t : PoolTable) : Reader Heading := do
  let _access ← Reader.u16
  let typeName ← Reader.look (t.className (← Reader.u16))
  let superIndex ← Reader.u16
  let superType ← Reader.look (t.className superIndex)
  Reader.ensure (superType = superName) (.malformed (.superType superType))
  let interface ← readInterface t
  let fields ← Reader.u16
  Reader.ensure (fields = 0) (.malformed (.fields fields))
  return ⟨typeName, superIndex, interface, ← Reader.u16⟩

/-- Reads what stands after the methods: no attributes. -/
def readEnding : Reader Unit := do
  let attributes ← Reader.u16
  Reader.ensure (attributes = 0) (.malformed (.attributes attributes))

/-- Reads the methods and the ending. -/
def Heading.readRest (h : Heading) (t : PoolTable) : Reader Skeleton := do
  let methods ← readMethods t h.methodCount []
  readEnding
  return ⟨t, h.typeName, h.superIndex, h.interface, methods⟩

/-- Reads what follows the pool. -/
def Skeleton.readAfter (t : PoolTable) : Reader Skeleton := do
  let h ← Heading.read t
  h.readRest t

theorem Skeleton.readParts_eq : Skeleton.readParts = Skeleton.readTable >>= Skeleton.readAfter := by
  show _ = Skeleton.readTable >>= fun t => Skeleton.readAfter t
  simp only [readParts, readTable, readAfter, Heading.read, Heading.readRest, readEnding, bind_assoc,
    pure_bind]

theorem Skeleton.read_eq_ok_iff {sk : Skeleton} {c d : Cursor} :
    Skeleton.read c = .ok sk d ↔ Skeleton.readParts c = .ok sk d ∧ d.rest = [] := by
  unfold Skeleton.read
  cases h : Skeleton.readParts c with
  | error e c₁ => simp
  | ok sk₁ d₁ =>
    by_cases hrest : d₁.rest = []
    · simp only [if_pos hrest]
      constructor
      · intro heq
        cases heq
        exact ⟨rfl, hrest⟩
      · exact fun heq => heq.1
    · simp only [if_neg hrest]
      constructor
      · intro heq
        cases heq
      · rintro ⟨heq, hnil⟩
        cases heq
        exact absurd hnil hrest

/-- Decodes the methods of a module whose structure has been read. -/
def Skeleton.decode (sk : Skeleton) : Except ActivationError Contents :=
  (decodeMethods sk.table sk.superIndex sk.methods .empty [] false).map fun slots =>
    ⟨sk.typeName, sk.interface, slots⟩

theorem Contents.parse_eq_decode (bytes : List UInt8) :
    parse bytes =
      match Skeleton.read (.start bytes) with
      | .error e _ => .error e
      | .ok sk _ => sk.decode := by
  rw [parse]
  cases Skeleton.read (.start bytes) with
  | error e c => rfl
  | ok sk c =>
    simp only [Skeleton.decode]
    cases decodeMethods sk.table sk.superIndex sk.methods .empty [] false <;> rfl

/-- Parses what follows the pool against a table. -/
def Contents.parseAgainst (t : PoolTable) (c : Cursor) : Except ActivationError Contents :=
  match Skeleton.readAfter t c with
  | .error e _ => .error e
  | .ok sk d => if d.rest = [] then sk.decode else .error (.trailingBytes d.rest.length)

/-- Parsing is reading the pool, and parsing what follows against it. -/
theorem Contents.parse_eq_parseAgainst (bytes : List UInt8) :
    parse bytes =
      match Skeleton.readTable (.start bytes) with
      | .error e _ => .error e
      | .ok t c => parseAgainst t c := by
  have hbind : (Skeleton.readTable >>= Skeleton.readAfter) (.start bytes) =
      EStateM.bind Skeleton.readTable Skeleton.readAfter (.start bytes) := rfl
  rw [parse_eq_decode, Skeleton.read, Skeleton.readParts_eq, hbind, EStateM.bind]
  cases Skeleton.readTable (.start bytes) with
  | error e c => rfl
  | ok t c =>
    simp only [parseAgainst]
    cases Skeleton.readAfter t c with
    | error e d => rfl
    | ok sk d =>
      by_cases hrest : d.rest = []
      · simp only [if_pos hrest]
      · simp only [if_neg hrest]

/-! ### Steps that come to the same anywhere -/

/-- A step that, where it succeeds, takes some bytes and comes to the same on them anywhere. -/
def Steady {α : Type} (r : Reader α) : Prop :=
  ∀ c a d, r c = .ok a d → ∃ bs, c.rest = bs ++ d.rest ∧ Reads r bs a

section Steady

variable {α β : Type} {r : Reader α} {f : α → Reader β}

theorem Steady.bind (h : Steady r) (k : ∀ a, Steady (f a)) : Steady (r >>= f) := by
  intro c b d hb
  obtain ⟨a, e, ha, hf⟩ := Reader.bind_eq_ok.1 hb
  obtain ⟨bs, hbs, hr⟩ := h c a e ha
  obtain ⟨cs, hcs, hk⟩ := k a e b d hf
  exact ⟨bs ++ cs, by rw [hbs, hcs, List.append_assoc], hr.bind hk⟩

theorem steady_pure (a : α) : Steady (pure a : Reader α) := by
  intro c a' d h
  obtain ⟨rfl, rfl⟩ := Reader.pure_eq_ok.1 h
  exact ⟨[], rfl, .pure a⟩

theorem steady_look (x : Except ActivationError α) : Steady (Reader.look x) := by
  intro c a d h
  obtain ⟨hx, rfl⟩ := Reader.look_eq_ok.1 h
  exact ⟨[], rfl, .look hx⟩

theorem steady_ensure (condition : Bool) (e : ActivationError) :
    Steady (Reader.ensure condition e) := by
  intro c a d h
  obtain ⟨hcondition, rfl⟩ := Reader.ensure_eq_ok.1 h
  exact ⟨[], rfl, .ensure hcondition e⟩

theorem steady_take (n : Nat) : Steady (Reader.take n) := by
  intro c bs d h
  obtain ⟨hle, rfl, rfl⟩ := Reader.take_eq_ok.1 h
  have hlen : (c.rest.take n).length = n := by simpa using hle
  exact ⟨c.rest.take n, (List.take_append_drop n c.rest).symm, .take_of_length hlen⟩

theorem steady_u16 : Steady Reader.u16 := (steady_take 2).bind fun _ => steady_pure _

theorem steady_u32 : Steady Reader.u32 := (steady_take 4).bind fun _ => steady_pure _

end Steady

theorem RawMethod.steady_read (t : PoolTable) : Steady (RawMethod.read t) :=
  steady_u16.bind fun _ => steady_u16.bind fun _ => (steady_look _).bind fun _ =>
  steady_u16.bind fun _ => (steady_look _).bind fun _ =>
  steady_u16.bind fun _ => (steady_ensure _ _).bind fun _ =>
  steady_u16.bind fun _ => (steady_look _).bind fun _ => (steady_ensure _ _).bind fun _ =>
  steady_u32.bind fun _ => steady_u16.bind fun _ => steady_u16.bind fun _ =>
  steady_u32.bind fun _ => (steady_ensure _ _).bind fun _ => (steady_take _).bind fun _ =>
  steady_u16.bind fun _ => steady_u16.bind fun _ => (steady_ensure _ _).bind fun _ =>
  steady_pure _

theorem steady_readEnding : Steady readEnding := steady_u16.bind fun _ => steady_ensure _ _

theorem exists_blocks {t : PoolTable} {n : Nat} {acc ms : List RawMethod} {c d : Cursor}
    (h : readMethods t n acc c = .ok ms d) :
    ∃ blocks raws, ms = acc.reverse ++ raws ∧ raws.length = n ∧
      c.rest = blocks.flatten ++ d.rest ∧ List.Forall₂ (Reads (RawMethod.read t)) blocks raws := by
  induction n generalizing acc c with
  | zero =>
    obtain ⟨rfl, rfl⟩ := Reader.pure_eq_ok.1 h
    exact ⟨[], [], by simp, rfl, rfl, .nil⟩
  | succ n ih =>
    rw [readMethods_succ] at h
    obtain ⟨raw, e, hraw, h⟩ := Reader.bind_eq_ok.1 h
    obtain ⟨b, hb, hread⟩ := RawMethod.steady_read t c raw e hraw
    obtain ⟨blocks, raws, rfl, rfl, hblocks, hreads⟩ := ih h
    exact ⟨b :: blocks, raw :: raws, by simp, rfl, by simp [hb, hblocks], .cons hread hreads⟩

/-! ### The bytes of the methods -/

/-- Reads a module up to its methods. -/
def Heading.readFront : Reader (PoolTable × Heading) := do
  let t ← Skeleton.readTable
  return (t, ← Heading.read t)

theorem Heading.frugal_readFront : Frugal Heading.readFront := by
  have htable : Frugal Skeleton.readTable :=
    frugal_u32.bind fun _ => (frugal_ensure _ _).bind fun _ =>
    frugal_u16.bind fun _ => frugal_u16.bind fun _ => (frugal_ensure _ _).bind fun _ =>
    PoolTable.frugal_read
  have hheading : ∀ t, Frugal (Heading.read t) := fun t =>
    frugal_u16.bind fun _ => frugal_u16.bind fun _ => (frugal_look _).bind fun _ =>
    frugal_u16.bind fun _ => (frugal_look _).bind fun _ => (frugal_ensure _ _).bind fun _ =>
    (frugal_readInterface t).bind fun _ =>
    frugal_u16.bind fun _ => (frugal_ensure _ _).bind fun _ =>
    frugal_u16.bind fun _ => frugal_pure _
  exact htable.bind fun t => (hheading t).bind fun _ => frugal_pure _

theorem Skeleton.readParts_eq_readFront :
    Skeleton.readParts = Heading.readFront >>= fun x => x.2.readRest x.1 := by
  rw [Skeleton.readParts_eq]
  show Skeleton.readTable >>= (fun t => Skeleton.readAfter t) = _
  simp only [readAfter, Heading.readFront, bind_assoc, pure_bind]

/-- The bytes of a module, cut before, between and after the methods of its table. -/
structure MethodCut (sk : Skeleton) (front : List UInt8) (blocks : List (List UInt8))
    (back : List UInt8) : Prop where
  front : ∀ rest, Heading.readFront ⟨front ++ rest, 0⟩ =
    .ok (sk.table, ⟨sk.typeName, sk.superIndex, sk.interface, sk.methods.length⟩)
      ⟨rest, front.length⟩
  blocks : List.Forall₂ (Reads (RawMethod.read sk.table)) blocks sk.methods
  back : Reads readEnding back ()

section MethodCut

variable {sk : Skeleton} {bytes front back : List UInt8} {blocks blocks' : List (List UInt8)}
  {c : Cursor}

/-- Bytes that are put together as a cut says are read as its module. -/
theorem MethodCut.exists_read (h : MethodCut sk front blocks back) :
    ∃ d, Skeleton.read (.start (front ++ (blocks.flatten ++ back))) = .ok sk d := by
  have hmethods : Reads (readMethods sk.table sk.methods.length []) blocks.flatten sk.methods :=
    reads_readMethods h.blocks []
  have hrest : Reads
      (Heading.readRest ⟨sk.typeName, sk.superIndex, sk.interface, sk.methods.length⟩ sk.table)
      (blocks.flatten ++ back) sk :=
    hmethods.bind (h.back.map rfl)
  have hread := hrest [] front.length
  rw [List.append_nil] at hread
  have hparts : Skeleton.readParts (.start (front ++ (blocks.flatten ++ back))) =
      .ok sk ⟨[], front.length + (blocks.flatten ++ back).length⟩ := by
    rw [Skeleton.readParts_eq_readFront]
    exact Reader.bind_eq_ok.2 ⟨_, _, h.front (blocks.flatten ++ back), hread⟩
  exact ⟨_, Skeleton.read_eq_ok_iff.2 ⟨hparts, rfl⟩⟩

theorem exists_methodCut (h : Skeleton.read (.start bytes) = .ok sk c) :
    ∃ front blocks back, bytes = front ++ (blocks.flatten ++ back) ∧
      MethodCut sk front blocks back := by
  obtain ⟨hparts, hnil⟩ := Skeleton.read_eq_ok_iff.1 h
  rw [Skeleton.readParts_eq_readFront] at hparts
  obtain ⟨⟨t, heading⟩, c₁, hfront, hrest⟩ := Reader.bind_eq_ok.1 hparts
  obtain ⟨ms, c₂, hmethods, hrest⟩ := Reader.bind_eq_ok.1 hrest
  obtain ⟨_, c₃, hending, hpure⟩ := Reader.bind_eq_ok.1 hrest
  obtain ⟨rfl, rfl⟩ := Reader.pure_eq_ok.1 hpure
  obtain ⟨front, hbytes, htakes⟩ := Heading.frugal_readFront _ _ _ hfront
  obtain ⟨blocks, raws, rfl, hlen, hblocks, hreads⟩ := exists_blocks hmethods
  obtain ⟨back, hback, hreadsBack⟩ := steady_readEnding _ _ _ hending
  refine ⟨front, blocks, back, ?_, ?_, hreads, hreadsBack⟩
  · have hstart : (Cursor.start bytes).rest = bytes := rfl
    rw [← hstart, hbytes, hblocks, hback, hnil, List.append_nil]
  · intro rest
    have hwhole := htakes.whole rest
    have hstart : (Cursor.start bytes).position = 0 := rfl
    rw [hstart, Nat.zero_add] at hwhole
    simpa [hlen] using hwhole

theorem MethodCut.exists_of_perm (h : MethodCut sk front blocks back) (hp : blocks'.Perm blocks) :
    ∃ raws, raws.Perm sk.methods ∧
      MethodCut ⟨sk.table, sk.typeName, sk.superIndex, sk.interface, raws⟩ front blocks' back := by
  obtain ⟨raws, hreads, hraws⟩ := List.perm_comp_forall₂ hp h.blocks
  refine ⟨raws, hraws, ?_, hreads, h.back⟩
  intro rest
  rw [h.front, ← hraws.length_eq]

end MethodCut

end TypedConfig.Module
