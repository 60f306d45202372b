import TypedConfig.Module.Activate
import TypedConfig.Module.Assemble
import TypedConfig.Module.Message
import TypedConfig.Resolution.Binding

/-!
Making instances. One factory assembles a module and activates it, the other fills the dispatch
table directly; where both succeed they differ in the type name only.
-/

namespace TypedConfig.Module

open Contract (Descriptor)
open Resolution (Binding)

/-- How instances are made. -/
inductive Factory where
  | bytecode
  | dispatch
  deriving DecidableEq, Repr, Inhabited

/-- The type name of the module that is built as number `n`. -/
def synthesizedName (contract : String) (n : Nat) : String :=
  internalName contract ++ "$CG" ++ String.ofList (Decimal.ofNat n)

/-- The file name under which a module is dumped. -/
def dumpName (typeName : String) : String :=
  String.ofList (typeName.toList.map fun c => if c = '/' then '.' else c) ++ ".class"

/-- The slots that a binding fills. -/
def slotsOf (b : Binding) : List Slot := b.accessors.map fun a => ⟨a.name, a.value⟩

/-- The contents of the module for a binding. -/
def contentsOf (typeName : String) (d : Descriptor) (b : Binding) : Contents :=
  ⟨typeName, some (internalName d.typeName), slotsOf b⟩

/-- The dispatch table of a binding. -/
def tableOf (d : Descriptor) (b : Binding) : Loaded :=
  ⟨internalName d.typeName, d.typeName, slotsOf b⟩

/-- A module that has been assembled, before it is activated. -/
structure Assembled where
  typeName : String
  bytes : List UInt8
  deriving DecidableEq, Repr

/-- Assembles the module for a binding as number `n`. -/
def assembleFor (n : Nat) (d : Descriptor) (b : Binding) : Except ModuleError Assembled :=
  let typeName := synthesizedName d.typeName n
  match (contentsOf typeName d b).assemble with
  | .ok bytes => .ok ⟨typeName, bytes⟩
  | .error e => .error (.build e)

/-- Activates an assembled module. -/
def Assembled.load (m : Assembled) (d : Descriptor) : Except ModuleError Loaded :=
  match activate m.bytes d with
  | .ok loaded => .ok loaded
  | .error e => .error (.activation e)

/-- What making an instance comes to: the module to be dumped, if one was assembled, and the
outcome. The number counts the modules of the factory. -/
def Factory.produce (f : Factory) (n : Nat) (d : Descriptor) (b : Binding) :
    Option Assembled × Except ModuleError Loaded :=
  match f with
  | .dispatch => (none, .ok (tableOf d b))
  | .bytecode =>
    match assembleFor n d b with
    | .error e => (none, .error e)
    | .ok m => (some m, m.load d)

end TypedConfig.Module
