import TypedConfig.Module.Bytes
import TypedConfig.Scalar.Kind

/-!
Reading a module from front to back. A cursor holds the bytes that are left and the offset reached; a
read that needs more bytes than are left fails at that offset and leaves the cursor alone.
-/

namespace TypedConfig.Module

open Scalar (Kind)

/-- What an index of the pool was expected to lead to. -/
inductive EntrySort where
  | text
  | classRef
  | methodRef
  | nameAndType
  | constant (kind : Kind)
  deriving DecidableEq, Repr

/-- The sort in words. -/
def EntrySort.description : EntrySort → String
  | .text => "utf8"
  | .classRef => "class"
  | .methodRef => "method reference"
  | .nameAndType => "name and type"
  | .constant kind => kind.typeName

/-- How the structure of a module departs from the format. -/
inductive Malformation where
  | wideOverrun
  | superType (name : String)
  | interfaces (count : Nat)
  | fields (count : Nat)
  | attributes (count : Nat)
  | methodAttributes (method : String) (count : Nat)
  | attributeName (method label : String)
  | codeLength (method : String) (attributeLength codeLength : Nat)
  | nestedCode (method : String)
  | methodTwice (method : String)
  deriving DecidableEq, Repr

/-- Why a module cannot be activated. -/
inductive ActivationError where
  | truncated (offset : Nat)
  | badMagic (found : Nat)
  | unsupportedVersion (found : Nat)
  | unknownTag (tag offset : Nat)
  | badUtf8 (offset : Nat)
  | badIndex (index : Nat)
  | wrongEntry (index : Nat) (expected : EntrySort)
  | interfaceMismatch (expected : String) (found : Option String)
  | missingInitializer
  | unpatchedInitializer
  | badInitializer (code : List UInt8)
  | unsupportedDescriptor (method type : String)
  | badInstructions (method : String) (code : List UInt8)
  | constantOutOfRange (method : String) (kind : Kind) (raw : Int)
  | kindMismatch (method : String) (expected found : Kind)
  | missingAccessor (name : String)
  | unexpectedAccessor (name : String)
  | trailingBytes (count : Nat)
  | malformed (how : Malformation)
  deriving DecidableEq, Repr

/-- The bytes that are left and the offset of the first of them. -/
structure Cursor where
  rest : List UInt8
  position : Nat
  deriving DecidableEq, Repr

/-- A step of reading. -/
abbrev Reader := EStateM ActivationError Cursor

/-- The cursor before the first byte. -/
def Cursor.start (bytes : List UInt8) : Cursor := ⟨bytes, 0⟩

/-- Whether a list has at least `n` members. -/
def hasAtLeast {α : Type} : Nat → List α → Bool
  | 0, _ => true
  | _ + 1, [] => false
  | n + 1, _ :: xs => hasAtLeast n xs

theorem hasAtLeast_iff {α : Type} {n : Nat} {xs : List α} :
    hasAtLeast n xs = true ↔ n ≤ xs.length := by
  induction n generalizing xs with
  | zero => simp [hasAtLeast]
  | succ n ih => cases xs <;> simp [hasAtLeast, ih]

namespace Reader

/-- The next `n` bytes. -/
def take (n : Nat) : Reader (List UInt8) := fun c =>
  if hasAtLeast n c.rest then .ok (c.rest.take n) ⟨c.rest.drop n, c.position + n⟩
  else .error (.truncated c.position) c

/-- The next byte as a number. -/
def u8 : Reader Nat := do return ofBytes (← take 1)

/-- The next two bytes as a number. -/
def u16 : Reader Nat := do return ofBytes (← take 2)

/-- The next four bytes as a number. -/
def u32 : Reader Nat := do return ofBytes (← take 4)

/-- The next eight bytes as a number, in two halves. -/
def u64 : Reader Nat := do
  let high ← u32
  let low ← u32
  return high * 4294967296 + low

end Reader

end TypedConfig.Module
