import TypedConfig.Module.Pool

/-!
Assembling a module. Every accessor becomes a method that loads its constant and returns it, by the
shortest instruction that reaches the constant's index. The initializer is written with an open
reference, which is filled in at the end.
-/

namespace TypedConfig.Module

open Scalar (Kind Value)

namespace Layout

/-- The instructions that return a value. -/
def accessorCode (l : Layout) (v : Value) : Except BuildError (List UInt8) :=
  let last := [returnOpcode v.kind]
  match v, constantOf? v with
  | .bool true, _ => .ok (opTrue :: last)
  | _, none => .ok (opFalse :: last)
  | _, some c =>
    (l.require c v.display).map fun i =>
      if v.kind.isWide then opLoadWide :: (be16 i ++ last)
      else if i < 256 then opLoad :: (be8 i ++ last)
      else opLoadLong :: (be16 i ++ last)

/-- What stands before the instructions of a method. -/
def methodHead (l : Layout) (name type : String) (codeLength : Nat) :
    Except BuildError (List UInt8) := do
  let nameIndex ← l.require (.text name) name
  let typeIndex ← l.require (.text type) type
  let codeIndex ← l.require (.text codeName) codeName
  return be16 publicAccess ++ be16 nameIndex ++ be16 typeIndex ++ be16 1 ++ be16 codeIndex ++
    be32 (codeLength + codeOverhead) ++ be16 maxStack ++ be16 maxLocals ++ be32 codeLength

/-- What stands after the instructions of a method: no handlers and no attributes. -/
def methodTail : List UInt8 := be16 0 ++ be16 0

/-- The method of an accessor. -/
def method (l : Layout) (s : Slot) : Except BuildError (List UInt8) := do
  let code ← l.accessorCode s.value
  let head ← l.methodHead s.name (descriptor s.value.kind) code.length
  return head ++ code ++ methodTail

end Layout

/-- The layout of the constants of a module. -/
def Contents.layout (m : Contents) : Except BuildError Layout := (Pool.ofList m.constants).freeze

/-- The field that names the interfaces: none or one. -/
def Contents.interfaceField (m : Contents) (l : Layout) : Except BuildError (List UInt8) :=
  match m.interface with
  | none => .ok (be16 0)
  | some name => (l.require (.classRef name) name).map fun i => be16 1 ++ be16 i

/-- The bytes of a module. -/
def Contents.assemble (m : Contents) : Except BuildError (List UInt8) := do
  let l ← m.layout
  let pool ← l.bytes superName
  let thisIndex ← l.require (.classRef m.typeName) m.typeName
  let superIndex ← l.require (.classRef superName) superName
  let interfaces ← m.interfaceField l
  if maxShort < m.slots.length + 1 then .error (.tooManyMethods m.slots.length)
  let before := be32 magic ++ be16 minorVersion ++ be16 majorVersion ++ pool ++
    be16 moduleAccess ++ be16 thisIndex ++ be16 superIndex ++ interfaces ++ be16 0 ++
    be16 (m.slots.length + 1)
  let initHead ← l.methodHead initName initDescriptor initializerCode.length
  let methods ← m.slots.mapM l.method
  let unpatched := before ++ initHead ++ initializerCode ++ Layout.methodTail ++
    methods.flatten ++ be16 0
  return patch16 unpatched (before.length + initHead.length + initPatchOffset) l.methodRefIndex

end TypedConfig.Module
