/-!
Big-endian bytes. Numbers wider than their field are cut to it. Main statements: a field has its
width, and patching two bytes keeps everything around them.
-/

namespace TypedConfig.Module

/-- The last eight bits of a number. -/
def be8 (n : Nat) : List UInt8 := [n.toUInt8]

/-- The last sixteen bits of a number, high byte first. -/
def be16 (n : Nat) : List UInt8 := [(n / 256).toUInt8, n.toUInt8]

/-- The last thirty-two bits of a number, high byte first. -/
def be32 (n : Nat) : List UInt8 := be16 (n / 65536) ++ be16 n

/-- The last sixty-four bits of a number, high byte first. -/
def be64 (n : Nat) : List UInt8 := be32 (n / 4294967296) ++ be32 n

/-- Overwrites the two bytes at an offset. -/
def patch16 (bytes : List UInt8) (offset n : Nat) : List UInt8 :=
  bytes.take offset ++ be16 n ++ bytes.drop (offset + 2)

/-- The number that big-endian bytes spell. -/
def ofBytes (bytes : List UInt8) : Nat := bytes.foldl (fun n b => n * 256 + b.toNat) 0

@[simp] theorem length_be16 (n : Nat) : (be16 n).length = 2 := rfl

@[simp] theorem length_be32 (n : Nat) : (be32 n).length = 4 := rfl

@[simp] theorem length_be64 (n : Nat) : (be64 n).length = 8 := rfl

theorem patch16_append {before after : List UInt8} {field : List UInt8} (h : field.length = 2)
    (n : Nat) :
    patch16 (before ++ field ++ after) before.length n = before ++ be16 n ++ after := by
  simp [patch16, ← h]

/-- One step of writing a buffer. -/
inductive Emission where
  | u8 (n : Nat)
  | u16 (n : Nat)
  | u32 (n : Nat)
  | raw (bytes : List UInt8)
  | patch (offset n : Nat)
  deriving DecidableEq, Repr

/-- The buffer after one step. -/
def Emission.apply (buffer : List UInt8) : Emission → List UInt8
  | u8 n => buffer ++ be8 n
  | u16 n => buffer ++ be16 n
  | u32 n => buffer ++ be32 n
  | raw bytes => buffer ++ bytes
  | patch offset n => patch16 buffer offset n

end TypedConfig.Module
