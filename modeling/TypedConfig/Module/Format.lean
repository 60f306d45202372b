import TypedConfig.Module.Bytes
import TypedConfig.Scalar.Kind

/-!
The fixed parts of the module format: a class file with one code block per method, each returning a
constant.
-/

namespace TypedConfig.Module

open Scalar (Kind)

def magic : Nat := 0xCAFEBABE
def minorVersion : Nat := 0
def majorVersion : Nat := 52

/-- Access flags of a method. -/
def publicAccess : Nat := 0x0001

/-- Access flags of a module: public and final. -/
def moduleAccess : Nat := 0x0011

/-! ### Tags of pool entries -/

@[match_pattern] def tagText : Nat := 1
@[match_pattern] def tagInt : Nat := 3
@[match_pattern] def tagLong : Nat := 5
@[match_pattern] def tagDouble : Nat := 6
@[match_pattern] def tagClass : Nat := 7
@[match_pattern] def tagString : Nat := 8
@[match_pattern] def tagMethodRef : Nat := 10
@[match_pattern] def tagNameAndType : Nat := 12

/-! ### Instructions -/

def opFalse : UInt8 := 0x03
def opTrue : UInt8 := 0x04
def opLoad : UInt8 := 0x12
def opLoadLong : UInt8 := 0x13
def opLoadWide : UInt8 := 0x14
def opSelf : UInt8 := 0x2A
def opReturn : UInt8 := 0xB1
def opInvoke : UInt8 := 0xB7

/-! ### Names -/

def codeName : String := "Code"
def superName : String := "java/lang/Object"
def initName : String := "<init>"
def initDescriptor : String := "()V"

/-! ### Code blocks -/

def maxStack : Nat := 2
def maxLocals : Nat := 1

/-- The bytes of a code attribute besides its instructions. -/
def codeOverhead : Nat := 12

/-- The method reference of an initializer that has not been filled in. -/
def unpatchedIndex : Nat := 0xFFFF

/-- Where the method reference stands in the initializer. -/
def initPatchOffset : Nat := 2

/-- The initializer, with its method reference still open. -/
def initializerCode : List UInt8 := [opSelf, opInvoke] ++ be16 unpatchedIndex ++ [opReturn]

/-- The descriptor of an accessor. -/
def descriptor : Kind → String
  | .text => "()Ljava/lang/String;"
  | .bool => "()Z"
  | .int32 => "()I"
  | .int64 => "()J"
  | .float64 => "()D"
  | .float32 => "()F"
  | .int16 => "()S"
  | .char => "()C"
  | .byte => "()B"

/-- The kind that a descriptor belongs to. -/
def kindOfDescriptor? (d : String) : Option Kind :=
  Kind.all.find? fun k => descriptor k == d

/-- The instruction that returns a value of the kind. -/
def returnOpcode : Kind → UInt8
  | .text => 0xB0
  | .int64 => 0xAD
  | .float64 => 0xAF
  | .float32 => 0xAE
  | .bool | .int32 | .int16 | .char | .byte => 0xAC

theorem kindOfDescriptor?_descriptor (k : Kind) : kindOfDescriptor? (descriptor k) = some k := by
  cases k <;> decide

/-- A type name in module form: double colons and points become slashes, the double colons first and
from the left. -/
def internalChars : List Char → List Char
  | ':' :: ':' :: cs => '/' :: internalChars cs
  | '.' :: cs => '/' :: internalChars cs
  | c :: cs => c :: internalChars cs
  | [] => []

/-- A type name in module form. -/
def internalName (typeName : String) : String := String.ofList (internalChars typeName.toList)

/-- A module type name in contract form: slashes become double colons. -/
def contractName (internal : String) : String :=
  String.ofList (internal.toList.flatMap fun c => if c = '/' then [':', ':'] else [c])

end TypedConfig.Module
