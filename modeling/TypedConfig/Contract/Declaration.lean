import TypedConfig.Scalar.Kind

/-!
Declared contracts. A contract names a configuration source and accessors, each with a key and a
default text. A declaration is what was written down, with anything possibly missing; a descriptor is
a declaration that has been checked.
-/

namespace TypedConfig.Contract

/-- An accessor as declared. -/
structure AccessorDeclaration where
  name : String
  returnType : String
  key : Option String
  default : Option String
  parameters : Nat
  deriving DecidableEq, Repr, Inhabited

/-- A contract as declared. -/
structure Declaration where
  typeName : String
  capability : Bool
  source : Option String
  accessors : List AccessorDeclaration
  deriving DecidableEq, Repr, Inhabited

/-- A checked accessor. -/
structure Accessor where
  name : String
  kind : Scalar.Kind
  key : String
  default : String
  deriving DecidableEq, Repr, Inhabited

/-- A checked contract. -/
structure Descriptor where
  typeName : String
  locator : String
  accessors : List Accessor
  deriving DecidableEq, Repr, Inhabited

/-- The accessor of a name. -/
def Descriptor.accessor? (d : Descriptor) (name : String) : Option Accessor :=
  d.accessors.find? fun a => a.name == name

/-- What an accessor may lack. -/
inductive Metadata where
  | key
  | default
  deriving DecidableEq, Repr

/-- The missing thing in words. -/
def Metadata.description : Metadata → String
  | .key => "configuration key"
  | .default => "default value"

/-- What is wrong with a declaration. -/
inductive DeclarationError where
  | notACapability (contract : String)
  | missingSource (contract : String)
  | missingAccessorMetadata (contract accessor : String) (what : Metadata)
  | hasParameters (contract accessor : String) (count : Nat)
  | unsupportedReturnType (contract accessor returnType : String)
  | duplicateAccessor (contract accessor : String)
  deriving DecidableEq, Repr

/-- The error in words. -/
def DeclarationError.message : DeclarationError → String
  | .notACapability contract => contract ++ " is not a capability contract"
  | .missingSource contract => contract ++ " declares no configuration source"
  | .missingAccessorMetadata contract accessor what =>
    "accessor " ++ contract ++ "::" ++ accessor ++ " has no " ++ what.description ++ " declared"
  | .hasParameters contract accessor count =>
    "accessor " ++ contract ++ "::" ++ accessor ++ " has parameters (" ++ toString count ++ ")"
  | .unsupportedReturnType contract accessor returnType =>
    "accessor " ++ contract ++ "::" ++ accessor ++ " has wrong return type: " ++ returnType
  | .duplicateAccessor contract accessor =>
    "accessor " ++ contract ++ "::" ++ accessor ++ " is declared more than once"

/-- Checks one accessor against the names before it. -/
def AccessorDeclaration.check (contract : String) (seen : List String) (a : AccessorDeclaration) :
    Except DeclarationError Accessor :=
  if seen.contains a.name then .error (.duplicateAccessor contract a.name)
  else if a.parameters ≠ 0 then .error (.hasParameters contract a.name a.parameters)
  else
    match Scalar.Kind.ofTypeName? a.returnType, a.key, a.default with
    | none, _, _ => .error (.unsupportedReturnType contract a.name a.returnType)
    | some _, none, _ => .error (.missingAccessorMetadata contract a.name .key)
    | some _, some _, none => .error (.missingAccessorMetadata contract a.name .default)
    | some kind, some key, some default => .ok ⟨a.name, kind, key, default⟩

/-- Checks accessors from left to right, given the names before them. -/
def checkAccessors (contract : String) :
    List String → List AccessorDeclaration → Except DeclarationError (List Accessor)
  | _, [] => .ok []
  | seen, a :: rest =>
    match a.check contract seen with
    | .error e => .error e
    | .ok checked =>
      match checkAccessors contract (a.name :: seen) rest with
      | .error e => .error e
      | .ok others => .ok (checked :: others)

/-- Checks a declaration. The first problem found is reported. -/
def Declaration.validate (d : Declaration) : Except DeclarationError Descriptor :=
  if !d.capability then .error (.notACapability d.typeName)
  else
    match d.source with
    | none => .error (.missingSource d.typeName)
    | some locator =>
      match checkAccessors d.typeName [] d.accessors with
      | .error e => .error e
      | .ok accessors => .ok ⟨d.typeName, locator, accessors⟩

end TypedConfig.Contract
