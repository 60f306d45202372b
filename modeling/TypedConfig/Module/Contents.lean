import TypedConfig.Module.Format
import TypedConfig.Scalar.Value

/-!
What a module holds: its type, the interface it implements, and one constant for each accessor.
Assembling turns contents into bytes and parsing turns bytes into contents.
-/

namespace TypedConfig.Module

open Scalar (Kind Value)

/-- An accessor and the constant that it returns. -/
structure Slot where
  name : String
  value : Value
  deriving DecidableEq, Repr, Inhabited

/-- The contents of a module, with the accessors in module order. -/
structure Contents where
  typeName : String
  interface : Option String
  slots : List Slot
  deriving DecidableEq, Repr, Inhabited

/-- What a constant pool may hold. -/
inductive Constant where
  | text (s : String)
  | classRef (name : String)
  | string (s : String)
  | int (n : Int32)
  | double (bits : UInt64)
  | long (n : Int64)
  deriving DecidableEq, Repr

/-- The constant that a value is loaded from; the two booleans need none. Narrow numbers are widened
with their sign, single-precision numbers and characters by their pattern. -/
def constantOf? : Value → Option Constant
  | .text s => some (.string s)
  | .bool _ => none
  | .int32 n => some (.int n)
  | .int64 n => some (.long n)
  | .float64 bits => some (.double bits)
  | .float32 bits => some (.int bits.toInt32)
  | .int16 n => some (.int n.toInt32)
  | .char c => some (.int (Int32.ofNat c.toNat))
  | .byte n => some (.int n.toInt32)

/-- The constants that an accessor needs: its name, its descriptor and its value. -/
def Slot.constants (s : Slot) : List Constant :=
  [.text s.name, .text (descriptor s.value.kind)] ++ (constantOf? s.value).toList

/-- Every constant of a module in the order in which it is met. -/
def Contents.constants (m : Contents) : List Constant :=
  [.text codeName, .classRef m.typeName, .classRef superName] ++
    m.interface.toList.map .classRef ++ [.text initName, .text initDescriptor] ++
    m.slots.flatMap Slot.constants

end TypedConfig.Module
