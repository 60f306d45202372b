import TypedConfig.Contract.Declaration
import TypedConfig.Scalar.Convert
import TypedConfig.Watch.Registry

/-!
Bindings: the text and the value that each accessor of a contract has been given, with what went
wrong on the way. The fingerprint lists keys and texts, so it changes only when some text does.
-/

namespace TypedConfig.Resolution

open Scalar (Kind Value ConversionError)

/-- An accessor with its text and value. -/
structure ResolvedAccessor where
  name : String
  kind : Kind
  key : String
  text : String
  value : Value
  fromDefault : Bool
  deriving DecidableEq, Repr

/-- A problem that does not stop a build. -/
inductive Warning where
  | unresolvedVariable (locator name : String)
  | missingSource (path : Path)
  | unreadableSource (path : Path) (fault : Files.Fault)
  | watchFailed (path : Path) (error : Watch.WatchError)
  deriving DecidableEq, Repr

/-- Why a source could not be read, in words. -/
def unreadableReason (path : Path) (fault : Files.Fault) : String :=
  "failed to read " ++ path.text ++ ": " ++ fault.message

/-- The warning in words. -/
def Warning.message : Warning → String
  | .unresolvedVariable locator name =>
    "variable " ++ name ++ " in locator " ++ locator ++ " is not set, using defaults"
  | .missingSource path => "configuration source " ++ path.text ++ " not found, using defaults"
  | .unreadableSource path fault =>
    "configuration source " ++ path.text ++ " unreadable (" ++ unreadableReason path fault ++
      "), using defaults"
  | .watchFailed path error =>
    "changes to " ++ path.text ++ " will not be picked up: " ++ error.message

/-- Everything that is needed to build an instance of a contract. -/
structure Binding where
  contract : String
  accessors : List ResolvedAccessor
  fingerprint : String
  source : Option Path
  watchable : Bool
  warnings : List Warning
  deriving DecidableEq, Repr

/-- The value of an accessor. -/
def Binding.value? (b : Binding) (name : String) : Option Value :=
  (b.accessors.find? fun a => a.name == name).map (·.value)

/-- One line of a fingerprint. -/
def fingerprintLine (key text : String) : String := key ++ "=" ++ text ++ "\n"

/-- The keys and texts of accessors, a line each. -/
def fingerprint (accessors : List ResolvedAccessor) : String :=
  String.join (accessors.map fun a => fingerprintLine a.key a.text)

/-- A text that does not convert, and where it was found. -/
structure ConversionFailure where
  contract : String
  accessor : String
  key : String
  text : String
  kind : Kind
  cause : ConversionError
  deriving DecidableEq, Repr

/-- The failure in words. -/
def ConversionFailure.message (f : ConversionFailure) : String :=
  f.contract ++ ": key " ++ f.key ++ " has value " ++ Text.quoted f.text ++
    " which is not a valid " ++ f.kind.typeName ++ " (" ++ f.cause.message ++ ")"

end TypedConfig.Resolution
