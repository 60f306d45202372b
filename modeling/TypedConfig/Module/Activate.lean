import TypedConfig.Contract.Declaration
import TypedConfig.Module.Parse

/-!
Activation. A module is accepted for a contract if it implements the contract's interface and has an
accessor of the declared kind for every declaration and no other; its accessors are put into the
order of the declarations.
-/

namespace TypedConfig.Module

open Scalar (Kind Value)
open Contract (Accessor Descriptor)

/-- A dispatch table: a type that implements a contract, and the constant of each accessor. -/
structure Loaded where
  typeName : String
  contract : String
  slots : List Slot
  deriving DecidableEq, Repr, Inhabited

namespace Loaded

/-- The constant of an accessor. -/
def value? (m : Loaded) (name : String) : Option Value :=
  (m.slots.find? fun s => s.name == name).map (·.value)

/-- The kind of an accessor. -/
def kind? (m : Loaded) (name : String) : Option Kind := (m.value? name).map Value.kind

end Loaded

/-- Takes the member at a place out of a list; the last member moves into the gap. -/
def swapRemove {α : Type} (xs : List α) (i : Nat) : List α :=
  match xs.getLast? with
  | none => []
  | some last => (xs.set i last).dropLast

/-- The slots in the order of the declared accessors. The first accessor that is absent or has
another kind is reported, and a slot left over only when there is none. -/
def matchSlots : List Slot → List Accessor → Except ActivationError (List Slot)
  | [], [] => .ok []
  | extra :: _, [] => .error (.unexpectedAccessor extra.name)
  | slots, a :: rest =>
    match slots.findIdx? fun s => s.name == a.name with
    | none => .error (.missingAccessor a.name)
    | some i =>
      match slots[i]? with
      | none => .error (.missingAccessor a.name)
      | some s =>
        if s.value.kind ≠ a.kind then .error (.kindMismatch s.name a.kind s.value.kind)
        else
          match matchSlots (swapRemove slots i) rest with
          | .ok others => .ok (s :: others)
          | .error e => .error e

/-- Activates module bytes as an implementation of a contract. -/
def activate (bytes : List UInt8) (d : Descriptor) : Except ActivationError Loaded := do
  let m ← Contents.parse bytes
  let expected := internalName d.typeName
  if m.interface ≠ some expected then .error (.interfaceMismatch expected m.interface)
  else return ⟨m.typeName, d.typeName, ← matchSlots m.slots d.accessors⟩

/-- Activates module bytes without a contract, named after the interface that they implement. -/
def inspect (bytes : List UInt8) : Except ActivationError Loaded := do
  let m ← Contents.parse bytes
  return ⟨m.typeName, contractName (m.interface.getD ""), m.slots⟩

end TypedConfig.Module
