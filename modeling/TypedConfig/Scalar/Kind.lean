import TypedConfig.Text.Blank

/-!
The nine kinds of value that an accessor may return, and the names by which declarations refer to
them. Main statement: every kind is named by its own type name.
-/

namespace TypedConfig.Scalar

/-- A kind of value. -/
inductive Kind where
  | text
  | bool
  | int32
  | int64
  | float64
  | float32
  | int16
  | char
  | byte
  deriving DecidableEq, Repr, Inhabited

namespace Kind

/-- Every kind, in the fixed order. -/
def all : List Kind := [text, bool, int32, int64, float64, float32, int16, char, byte]

/-- The name of the type of the values. -/
def typeName : Kind → String
  | text => "String"
  | bool => "bool"
  | int32 => "i32"
  | int64 => "i64"
  | float64 => "f64"
  | float32 => "f32"
  | int16 => "i16"
  | char => "char"
  | byte => "i8"

/-- The name of the kind itself. -/
def label : Kind → String
  | text => "String"
  | bool => "Bool"
  | int32 => "Int32"
  | int64 => "Int64"
  | float64 => "Float64"
  | float32 => "Float32"
  | int16 => "Int16"
  | char => "Char"
  | byte => "Byte"

/-- Whether a value takes two places in a constant pool. -/
def isWide : Kind → Bool
  | int64 | float64 => true
  | _ => false

/-- The kind that a declared return type names. White space in the type does not count, and text
may be declared by its owned or its borrowed type. -/
def ofTypeName? (name : String) : Option Kind :=
  match String.ofList (name.toList.filter fun c => !Text.isBlank c) with
  | "String" | "std::string::String" | "str" | "&str" | "&\x27staticstr" => some text
  | "bool" => some bool
  | "i32" => some int32
  | "i64" => some int64
  | "f64" => some float64
  | "f32" => some float32
  | "i16" => some int16
  | "char" => some char
  | "i8" => some byte
  | _ => none

theorem mem_all (k : Kind) : k ∈ all := by
  cases k <;> decide

end Kind

end TypedConfig.Scalar
