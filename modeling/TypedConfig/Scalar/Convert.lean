import TypedConfig.Decimal.Numeral
import TypedConfig.Scalar.Value
import TypedConfig.Text.Quoted

/-!
Conversion of configuration text into typed values. Text is taken exactly as given; only numerals
with a fraction tolerate surrounding white space and one suffix letter.
-/

namespace TypedConfig.Scalar

/-- Why a text does not parse as a kind. -/
inductive InvalidReason where
  | notBoolean
  | integer (fault : Decimal.IntegerFault)
  | numeral (fault : Decimal.NumeralFault)
  deriving DecidableEq, Repr

/-- The reason in words. -/
def InvalidReason.message : InvalidReason → String
  | .notBoolean => "expected true or false"
  | .integer fault => fault.message
  | .numeral fault => fault.message

/-- Why a text has no value of a kind: it is not written as one, or it is empty and the kind has no
empty value. -/
inductive ConversionError where
  | invalid (text : String) (kind : Kind) (reason : InvalidReason)
  | absent (kind : Kind)
  deriving DecidableEq, Repr

/-- The error in words. -/
def ConversionError.message : ConversionError → String
  | .invalid text kind reason =>
    "cannot convert " ++ Text.quoted text ++ " to " ++ kind.typeName ++ ": " ++ reason.message
  | .absent kind => "empty text carries no " ++ kind.typeName ++ " value"

/-- Whether a text is the given lower-case word in some mixture of cases. -/
def isWord (word : String) (cs : List Char) : Bool :=
  String.ofList (cs.map Char.toLower) = word

/-- A letter that may follow a numeral as its type suffix. -/
def isSuffix (c : Char) : Bool := c = 'f' || c = 'F' || c = 'd' || c = 'D'

/-- A character after which a suffix may stand. -/
def endsNumeral (c : Char) : Bool := c.isDigit || c = '.'

/-- The numeral in a text: without surrounding white space, and without one suffix letter if a
digit or a point stands before it. -/
def numeralText (cs : List Char) : List Char :=
  let trimmed := Text.trim cs
  match trimmed.reverse with
  | s :: c :: _ => if isSuffix s && endsNumeral c then trimmed.dropLast else trimmed
  | _ => trimmed

/-- Reads an integer of a kind. -/
def convertInteger (kind : Kind) (lo hi : Int) (make : Int → Value) (text : String) :
    Except ConversionError Value :=
  match Decimal.readInteger lo hi text.toList with
  | .ok n => .ok (make n)
  | .error fault => .error (.invalid text kind (.integer fault))

/-- Reads a numeral of a kind. -/
def convertNumeral (kind : Kind) (f : Decimal.Format) (make : Nat → Value) (text : String) :
    Except ConversionError Value :=
  match Decimal.Numeral.read (numeralText text.toList) with
  | .ok n => .ok (make (n.toBits f))
  | .error fault => .error (.invalid text kind (.numeral fault))

/-- The value of a kind that a text carries. Of a text for a single character only the first
character counts. -/
def convert (text : String) : Kind → Except ConversionError Value
  | .text => .ok (.text text)
  | .bool =>
    if isWord "true" text.toList then .ok (.bool true)
    else if isWord "false" text.toList then .ok (.bool false)
    else .error (.invalid text .bool .notBoolean)
  | .int32 =>
    convertInteger .int32 (-2147483648) 2147483647 (fun n => .int32 (Int32.ofInt n)) text
  | .int64 =>
    convertInteger .int64 (-9223372036854775808) 9223372036854775807
      (fun n => .int64 (Int64.ofInt n)) text
  | .float64 => convertNumeral .float64 Decimal.binary64 (fun n => .float64 n.toUInt64) text
  | .float32 => convertNumeral .float32 Decimal.binary32 (fun n => .float32 n.toUInt32) text
  | .int16 => convertInteger .int16 (-32768) 32767 (fun n => .int16 (Int16.ofInt n)) text
  | .byte => convertInteger .byte (-128) 127 (fun n => .byte (Int8.ofInt n)) text
  | .char =>
    match text.toList with
    | c :: _ => .ok (.char c)
    | [] => .error (.absent .char)

end TypedConfig.Scalar
