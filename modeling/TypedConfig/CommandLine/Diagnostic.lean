import TypedConfig.Module.Message
import TypedConfig.Resolution.Binding
import TypedConfig.Settings.Text

/-!
Errors in full. Where a message says what went wrong, the full form names the case and lists all that
is known of it, as `Case { field: value }` or `Case(value)`.
-/

namespace TypedConfig.CommandLine

/-- A case with named values. -/
def record (label : String) (fields : List (String × String)) : String :=
  label ++ " \x7b " ++ ", ".intercalate (fields.map fun (name, v) => name ++ ": " ++ v) ++ " \x7d"

/-- A case with one value. -/
def wrapped (label value : String) : String := label ++ "(" ++ value ++ ")"

def numeral (n : Nat) : String := String.ofList (Decimal.ofNat n)

def listed (items : List String) : String := "[" ++ ", ".intercalate items ++ "]"

def byteList (bytes : List UInt8) : String := listed (bytes.map fun b => numeral b.toNat)

/-- The error in full. -/
def declarationDetail : Contract.DeclarationError → String
  | .notACapability contract => record "NotACapability" [("contract", Text.quoted contract)]
  | .missingSource contract => record "MissingSource" [("contract", Text.quoted contract)]
  | .missingAccessorMetadata contract accessor what =>
    record "MissingAccessorMetadata" [("contract", Text.quoted contract),
      ("accessor", Text.quoted accessor), ("what", Text.quoted what.description)]
  | .hasParameters contract accessor count =>
    record "HasParameters" [("contract", Text.quoted contract),
      ("accessor", Text.quoted accessor), ("count", numeral count)]
  | .unsupportedReturnType contract accessor returnType =>
    record "UnsupportedReturnType" [("contract", Text.quoted contract),
      ("accessor", Text.quoted accessor), ("return_type", Text.quoted returnType)]
  | .duplicateAccessor contract accessor =>
    record "DuplicateAccessor" [("contract", Text.quoted contract),
      ("accessor", Text.quoted accessor)]

/-- The error in full. -/
def conversionDetail : Scalar.ConversionError → String
  | .invalid text kind reason =>
    record "Invalid" [("text", Text.quoted text), ("kind", kind.label),
      ("reason", Text.quoted reason.message)]
  | .absent kind => record "Absent" [("kind", kind.label)]

/-- The failure in full. -/
def resolutionDetail (f : Resolution.ConversionFailure) : String :=
  record "Conversion" [("contract", Text.quoted f.contract), ("accessor", Text.quoted f.accessor),
    ("key", Text.quoted f.key), ("value", Text.quoted f.text), ("kind", f.kind.label),
    ("source", conversionDetail f.cause)]

/-- The error in full. -/
def buildDetail : Module.BuildError → String
  | .poolOverflow entries => record "PoolOverflow" [("entries", numeral entries)]
  | .textTooLong length => record "TextTooLong" [("len", numeral length)]
  | .missingConstant what => wrapped "MissingConstant" (Text.quoted what)
  | .tooManyMethods count => wrapped "TooManyMethods" (numeral count)

/-- The error in full. -/
def activationDetail : Module.ActivationError → String
  | .truncated offset => record "Truncated" [("offset", numeral offset)]
  | .badMagic found => wrapped "BadMagic" (numeral found)
  | .unsupportedVersion found => wrapped "UnsupportedVersion" (numeral found)
  | .unknownTag tag offset =>
    record "UnknownTag" [("tag", numeral tag), ("offset", numeral offset)]
  | .badUtf8 offset => record "BadUtf8" [("offset", numeral offset)]
  | .badIndex index => wrapped "BadIndex" (numeral index)
  | .wrongEntry index expected =>
    record "WrongEntry" [("index", numeral index), ("expected", Text.quoted expected.description)]
  | .interfaceMismatch expected found =>
    record "InterfaceMismatch" [("expected", Text.quoted expected),
      ("found", Module.quotedOption found)]
  | .missingInitializer => "MissingInitializer"
  | .unpatchedInitializer => "UnpatchedInitializer"
  | .badInitializer code => wrapped "BadInitializer" (byteList code)
  | .unsupportedDescriptor method type =>
    record "UnsupportedDescriptor" [("method", Text.quoted method), ("descriptor", Text.quoted type)]
  | .badInstructions method code =>
    record "BadInstructions" [("method", Text.quoted method), ("code", byteList code)]
  | .constantOutOfRange method kind raw =>
    record "ConstantOutOfRange" [("method", Text.quoted method), ("kind", kind.label),
      ("raw", String.ofList (Decimal.ofInt raw))]
  | .kindMismatch method expected found =>
    record "KindMismatch" [("method", Text.quoted method), ("expected", expected.label),
      ("found", found.label)]
  | .missingAccessor name => wrapped "MissingAccessor" (Text.quoted name)
  | .unexpectedAccessor name => wrapped "UnexpectedAccessor" (Text.quoted name)
  | .trailingBytes count => wrapped "TrailingBytes" (numeral count)
  | .malformed how => wrapped "Malformed" (Text.quoted how.message)

/-- The fault in full: with its number if the operating system has one for it. -/
def faultDetail (f : Files.Fault) : String :=
  match f.code? with
  | some code =>
    record "Os" [("code", numeral code), ("kind", f.label), ("message", Text.quoted f.description)]
  | none => record "Error" [("kind", f.label), ("message", Text.quoted f.description)]

/-- The error in full. -/
def settingsDetail : SettingsError → String
  | .unreadable => "Parse"
  | .problems found =>
    wrapped "Validation" (listed (found.map fun p =>
      record "ValidationError" [("field", Text.quoted p.field), ("message", Text.quoted p.message)]))

end TypedConfig.CommandLine
