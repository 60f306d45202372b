import TypedConfig.Decimal.Layout
import TypedConfig.Scalar.Kind

/-!
Typed values. A floating-point value is its pattern of bits, so that equality of values is equality
bit for bit, with every payload of not-a-number and both zeros told apart.
-/

namespace TypedConfig.Scalar

/-- A typed value. -/
inductive Value where
  | text (s : String)
  | bool (b : Bool)
  | int32 (n : Int32)
  | int64 (n : Int64)
  | float64 (bits : UInt64)
  | float32 (bits : UInt32)
  | int16 (n : Int16)
  | char (c : Char)
  | byte (n : Int8)
  deriving DecidableEq, Repr, Inhabited

namespace Value

/-- The kind of a value. -/
def kind : Value → Kind
  | text _ => .text
  | bool _ => .bool
  | int32 _ => .int32
  | int64 _ => .int64
  | float64 _ => .float64
  | float32 _ => .float32
  | int16 _ => .int16
  | char _ => .char
  | byte _ => .byte

/-- The value as it is shown. -/
def display : Value → String
  | text s => s
  | bool b => if b then "true" else "false"
  | int32 n => String.ofList (Decimal.ofInt n.toInt)
  | int64 n => String.ofList (Decimal.ofInt n.toInt)
  | float64 bits => String.ofList (Decimal.plainText Decimal.binary64 bits.toNat)
  | float32 bits => String.ofList (Decimal.plainText Decimal.binary32 bits.toNat)
  | int16 n => String.ofList (Decimal.ofInt n.toInt)
  | char c => String.ofList [c]
  | byte n => String.ofList (Decimal.ofInt n.toInt)

/-- The value if it is of the given kind. -/
def ofKind? (v : Value) (k : Kind) : Option Value :=
  if v.kind = k then some v else none

theorem ofKind?_eq_some_iff {v w : Value} {k : Kind} :
    v.ofKind? k = some w ↔ v.kind = k ∧ v = w := by
  simp [ofKind?]

end Value

end TypedConfig.Scalar
