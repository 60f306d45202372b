import Mathlib.Data.List.Induction
import Mathlib.Tactic.Ring
import TypedConfig.Module.Parse
import TypedConfig.Proofs.Module.ModifiedUtf8

/-!
Reading what has been written. `Reads r bs a` says that a step of reading takes exactly the bytes
`bs`, whatever follows them, and comes to `a`; the fields of a module are put together by
`Reads.bind`. The other way round, a step that has succeeded is taken apart by `bind_eq_ok` and by
what each field says about the cursor before and after it.
-/

namespace TypedConfig.Module

/-! ### Big-endian numbers -/

theorem ofBytes_append (as bs : List UInt8) :
    ofBytes (as ++ bs) = ofBytes as * 256 ^ bs.length + ofBytes bs := by
  have key : ∀ (bs : List UInt8) (n : Nat), bs.foldl (fun n b => n * 256 + b.toNat) n =
      n * 256 ^ bs.length + ofBytes bs := by
    intro bs
    induction bs with
    | nil => intro n; simp [ofBytes]
    | cons b bs ih =>
      intro n
      have h0 : ofBytes (b :: bs) = b.toNat * 256 ^ bs.length + ofBytes bs := by
        rw [ofBytes, List.foldl_cons, ih, Nat.zero_mul, Nat.zero_add]
      rw [List.foldl_cons, ih, h0, List.length_cons]
      ring
  rw [ofBytes, List.foldl_append, key]
  rfl

theorem ofBytes_lt (bs : List UInt8) : ofBytes bs < 256 ^ bs.length := by
  induction bs using List.reverseRecOn with
  | nil => simp [ofBytes]
  | append_singleton bs b ih =>
    have hb := b.toNat_lt
    have hone : ofBytes [b] = b.toNat := by simp [ofBytes]
    rw [ofBytes_append, hone, List.length_append, List.length_singleton, Nat.pow_add, Nat.pow_one]
    omega

theorem ofBytes_be8 (n : Nat) : ofBytes (be8 n) = n % 256 := by
  simp [ofBytes, be8, Nat.toUInt8]

theorem ofBytes_be16 (n : Nat) : ofBytes (be16 n) = n % 65536 := by
  simp only [ofBytes, be16, Nat.toUInt8, List.foldl_cons, List.foldl_nil, UInt8.toNat_ofNat']
  omega

theorem ofBytes_be32 (n : Nat) : ofBytes (be32 n) = n % 4294967296 := by
  rw [be32, ofBytes_append, ofBytes_be16, ofBytes_be16, length_be16]
  omega

/-! ### Steps that read back what was written -/

/-- The step reads exactly these bytes, whatever follows them, and comes to `a`. -/
def Reads {α : Type} (r : Reader α) (bs : List UInt8) (a : α) : Prop :=
  ∀ rest position, r ⟨bs ++ rest, position⟩ = .ok a ⟨rest, position + bs.length⟩

namespace Reads

variable {α β : Type} {r : Reader α} {f : α → Reader β} {bs cs : List UInt8} {a : α} {b : β}

theorem pure (a : α) : Reads (pure a) [] a := by
  intro rest position
  rfl

theorem bind (h : Reads r bs a) (k : Reads (f a) cs b) : Reads (r >>= f) (bs ++ cs) b := by
  intro rest position
  show EStateM.bind r f _ = _
  rw [EStateM.bind, List.append_assoc, h]
  show f a _ = _
  rw [k, List.length_append, Nat.add_assoc]

theorem bind_nil (h : Reads r [] a) (k : Reads (f a) cs b) : Reads (r >>= f) cs b := h.bind k

theorem bind_last (h : Reads r bs a) (k : Reads (f a) [] b) : Reads (r >>= f) bs b := by
  simpa using h.bind k

theorem map {g : α → β} (h : Reads r bs a) (hb : g a = b) :
    Reads (r >>= fun x => Pure.pure (g x)) bs b :=
  h.bind_last (hb ▸ Reads.pure (g a))

theorem take (bs : List UInt8) : Reads (Reader.take bs.length) bs bs := by
  intro rest position
  have h : hasAtLeast bs.length (bs ++ rest) = true := hasAtLeast_iff.2 (by simp)
  simp [Reader.take, h]

theorem take_of_length {n : Nat} (h : bs.length = n) : Reads (Reader.take n) bs bs :=
  h ▸ Reads.take bs

theorem u8 {n : Nat} (h : n < 256) : Reads Reader.u8 (be8 n) n := by
  have hlen : (be8 n).length = 1 := rfl
  have := (take_of_length hlen).map (g := ofBytes) rfl
  rwa [ofBytes_be8, Nat.mod_eq_of_lt h] at this

theorem u16 {n : Nat} (h : n < 65536) : Reads Reader.u16 (be16 n) n := by
  have := (take_of_length (length_be16 n)).map (g := ofBytes) rfl
  rwa [ofBytes_be16, Nat.mod_eq_of_lt h] at this

theorem u32 {n : Nat} (h : n < 4294967296) : Reads Reader.u32 (be32 n) n := by
  have := (take_of_length (length_be32 n)).map (g := ofBytes) rfl
  rwa [ofBytes_be32, Nat.mod_eq_of_lt h] at this

theorem u64 {n : Nat} (h : n < 18446744073709551616) : Reads Reader.u64 (be64 n) n := by
  have hlow : Reads Reader.u32 (be32 n) (n % 4294967296) := by
    have := (take_of_length (length_be32 n)).map (g := ofBytes) rfl
    rwa [ofBytes_be32] at this
  have := (u32 (n := n / 4294967296) (by omega)).bind
    (f := fun high => do return high * 4294967296 + (← Reader.u32))
    (hlow.map (g := fun low => n / 4294967296 * 4294967296 + low) rfl)
  rwa [Nat.div_add_mod'] at this

theorem look {x : Except ActivationError α} (h : x = .ok a) : Reads (Reader.look x) [] a := by
  subst h
  exact Reads.pure a

theorem ensure {condition : Bool} (h : condition = true) (e : ActivationError) :
    Reads (Reader.ensure condition e) [] () := by
  subst h
  exact Reads.pure ()

/-- The outcome of a step on all of its bytes. -/
theorem start (h : Reads r bs a) : r (.start bs) = .ok a ⟨[], bs.length⟩ := by
  have := h [] 0
  simpa [Cursor.start] using this

end Reads

/-! ### Steps that have succeeded -/

namespace Reader

variable {α β : Type} {r : Reader α} {f : α → Reader β} {a : α} {b : β} {c d : Cursor}

theorem bind_eq_ok :
    (r >>= f) c = .ok b d ↔ ∃ a e, r c = .ok a e ∧ f a e = .ok b d := by
  show EStateM.bind r f c = _ ↔ _
  unfold EStateM.bind
  cases h : r c with
  | ok a e =>
    constructor
    · intro hf
      exact ⟨a, e, rfl, hf⟩
    · rintro ⟨a', e', he, hf⟩
      cases he
      exact hf
  | error e d => simp

theorem pure_eq_ok {a' : α} : (pure a : Reader α) c = .ok a' d ↔ a = a' ∧ c = d := by
  show EStateM.Result.ok a c = .ok a' d ↔ _
  simp

theorem throw_ne_ok {e : ActivationError} : (throw e : Reader α) c ≠ .ok a d := by
  intro h
  cases h

theorem look_eq_ok {x : Except ActivationError α} : look x c = .ok a d ↔ x = .ok a ∧ c = d := by
  cases x with
  | ok x => rw [look, pure_eq_ok]; simp
  | error e => simp [look, throw_ne_ok]

theorem ensure_eq_ok {condition : Bool} {e : ActivationError} {u : Unit} :
    ensure condition e c = .ok u d ↔ condition = true ∧ c = d := by
  cases condition with
  | true => simp [ensure, pure_eq_ok]
  | false => simp [ensure, throw_ne_ok]

theorem take_eq_ok {n : Nat} {bs : List UInt8} :
    take n c = .ok bs d ↔
      n ≤ c.rest.length ∧ c.rest.take n = bs ∧ ⟨c.rest.drop n, c.position + n⟩ = d := by
  unfold take
  split
  · rename_i h
    simp [hasAtLeast_iff.1 h]
  · rename_i h
    rw [hasAtLeast_iff] at h
    simp [h]

/-- A number of `width` bytes has been read. -/
theorem number_eq_ok {width n : Nat} :
    (do return ofBytes (← take width) : Reader Nat) c = .ok n d ↔
      width ≤ c.rest.length ∧ ofBytes (c.rest.take width) = n ∧
        ⟨c.rest.drop width, c.position + width⟩ = d := by
  rw [bind_eq_ok]
  constructor
  · rintro ⟨bs, e, h, hp⟩
    obtain ⟨hle, rfl, rfl⟩ := take_eq_ok.1 h
    obtain ⟨rfl, rfl⟩ := pure_eq_ok.1 hp
    exact ⟨hle, rfl, rfl⟩
  · rintro ⟨hle, rfl, rfl⟩
    exact ⟨_, _, take_eq_ok.2 ⟨hle, rfl, rfl⟩, rfl⟩

theorem number_lt (width : Nat) {n : Nat}
    (h : (do return ofBytes (← take width) : Reader Nat) c = .ok n d) : n < 256 ^ width := by
  obtain ⟨hle, rfl, -⟩ := number_eq_ok.1 h
  have := ofBytes_lt (c.rest.take width)
  rwa [List.length_take, Nat.min_eq_left hle] at this

theorem u16_lt {n : Nat} (h : u16 c = .ok n d) : n < 65536 := number_lt 2 h

end Reader

end TypedConfig.Module
