import TypedConfig.Module.Activate
import TypedConfig.Module.Assemble
import TypedConfig.Text.Quoted

/-!
The wording of module errors.
-/

namespace TypedConfig.Module

/-- Why a module could not be produced. -/
inductive ModuleError where
  | build (cause : BuildError)
  | activation (cause : ActivationError)
  deriving DecidableEq, Repr

/-- A number in hexadecimal digits, with zeros in front up to a width. -/
def hexText (width n : Nat) : String :=
  let ds := Nat.toDigits 16 n
  String.ofList (List.replicate (width - ds.length) '0' ++ ds)

/-- Bytes in brackets, two hexadecimal digits each. -/
def hexList (bytes : List UInt8) : String :=
  "[" ++ ", ".intercalate (bytes.map fun b => hexText 2 b.toNat) ++ "]"

/-- A text that may be missing, quoted. -/
def quotedOption : Option String → String
  | none => "None"
  | some s => "Some(" ++ Text.quoted s ++ ")"

/-- The error in words. -/
def BuildError.message : BuildError → String
  | .poolOverflow entries =>
    "constant pool needs " ++ toString entries ++ " entries, more than 16-bit indices allow"
  | .textTooLong length =>
    "text constant of " ++ toString length ++ " encoded bytes exceeds the 65535 byte limit"
  | .missingConstant what => "constant " ++ Text.quoted what ++ " missing from the pool"
  | .tooManyMethods count => toString count ++ " methods do not fit in one module"

/-- The departure in words. -/
def Malformation.message : Malformation → String
  | .wideOverrun => "wide constant overruns the pool"
  | .superType name => "unexpected super type " ++ name
  | .interfaces count => toString count ++ " interfaces, expected at most one"
  | .fields count => toString count ++ " fields, expected none"
  | .attributes count => toString count ++ " module attributes"
  | .methodAttributes method count =>
    "method " ++ method ++ " has " ++ toString count ++ " attributes, expected one code block"
  | .attributeName method label => "method " ++ method ++ " carries attribute " ++ label
  | .codeLength method outer inner =>
    "method " ++ method ++ ": code attribute length " ++ toString outer ++
      " does not match code length " ++ toString inner
  | .nestedCode method => "method " ++ method ++ " has exception handlers or nested attributes"
  | .methodTwice method => "method " ++ method ++ " defined twice"

/-- The error in words. -/
def ActivationError.message : ActivationError → String
  | .truncated offset => "module truncated at offset " ++ toString offset
  | .badMagic found => "bad magic 0x" ++ hexText 8 found
  | .unsupportedVersion found => "unsupported format version " ++ toString found
  | .unknownTag tag offset =>
    "unknown pool tag " ++ toString tag ++ " at offset " ++ toString offset
  | .badUtf8 offset => "invalid modified UTF-8 at offset " ++ toString offset
  | .badIndex index => "pool index " ++ toString index ++ " is out of range"
  | .wrongEntry index expected =>
    "pool index " ++ toString index ++ " is not a " ++ expected.description ++ " entry"
  | .interfaceMismatch expected found =>
    "module implements " ++ quotedOption found ++ ", expected " ++ expected
  | .missingInitializer => "module has no initializer"
  | .unpatchedInitializer => "initializer method reference was never patched"
  | .badInitializer code => "unexpected initializer code " ++ hexList code
  | .unsupportedDescriptor method type =>
    "method " ++ method ++ " has unsupported descriptor " ++ type
  | .badInstructions method code =>
    "method " ++ method ++ " has unsupported code " ++ hexList code
  | .constantOutOfRange method kind raw =>
    "method " ++ method ++ ": constant " ++ String.ofList (Decimal.ofInt raw) ++
      " is out of range for " ++ kind.typeName
  | .kindMismatch method expected found =>
    "method " ++ method ++ " returns " ++ found.typeName ++ ", contract declares " ++
      expected.typeName
  | .missingAccessor name => "module lacks accessor " ++ name
  | .unexpectedAccessor name =>
    "module defines accessor " ++ name ++ " the contract does not declare"
  | .trailingBytes count => toString count ++ " trailing bytes after module end"
  | .malformed how => "malformed module: " ++ how.message

/-- The error in words. -/
def ModuleError.message : ModuleError → String
  | .build cause => "build failed: " ++ cause.message
  | .activation cause => "activation failed: " ++ cause.message

end TypedConfig.Module
