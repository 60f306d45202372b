import TypedConfig.Resolution.Binding
import TypedConfig.Source.Locator
import TypedConfig.Source.Properties
import TypedConfig.Surroundings

/-!
Resolution: from the declared accessors of a contract to their values. It goes in three steps. The
locator is followed and the file is registered for watching; the file is read; and every accessor
takes the text of its key or else its default, and converts it.
-/

namespace TypedConfig.Resolution

open Contract (Accessor Descriptor)
open Scalar (ConversionError)

/-! ### Following the locator -/

/-- Where a locator has led, and whether the file could be registered. -/
inductive Approach where
  | file (path : Path) (watchFailure : Option Watch.WatchError)
  | unresolved (locator name : String)
  deriving DecidableEq, Repr

/-- The path that will be read. -/
def Approach.path? : Approach → Option Path
  | .file path _ => some path
  | .unresolved .. => none

/-- What is known before the file is read. -/
def Approach.warnings : Approach → List Warning
  | .file path (some error) => [.watchFailed path error]
  | .file _ none => []
  | .unresolved locator name => [.unresolvedVariable locator name]

/-- Follows a locator and registers the file that it leads to. -/
def approach {σ : Type} (out : Surroundings σ) (settings : Source.Locator) (world : σ)
    (registry : Watch.Registry) (locator : String) : Approach × Watch.Registry :=
  match settings.locate (out.environment world) locator with
  | .unresolved name => (.unresolved locator name, registry)
  | .file path =>
    match registry.register (out.canonical world) (out.subscribe world) path with
    | (.ok _, registry) => (.file path none, registry)
    | (.error e, registry) => (.file path (some e), registry)

/-! ### Reading the source -/

/-- What a contract's source was seen to hold. -/
structure Observation where
  source : Option Path
  overrides : Source.Properties
  warnings : List Warning
  deriving DecidableEq, Repr

/-- The observation of a file that answered a read in some way. A file that cannot be read
overrides nothing. -/
def observe (path : Path) (warnings : List Warning) : Except Files.Fault String → Observation
  | .ok text => ⟨some path, .read text, warnings⟩
  | .error .notFound => ⟨some path, .empty, warnings ++ [.missingSource path]⟩
  | .error fault => ⟨some path, .empty, warnings ++ [.unreadableSource path fault]⟩

/-- Reads the source that the locator has led to. -/
def Approach.observe {σ : Type} (out : Surroundings σ) (world : σ) (a : Approach) : Observation :=
  match a.path? with
  | some path => Resolution.observe path a.warnings (out.readText world path)
  | none => ⟨none, .empty, a.warnings⟩

/-! ### Choosing and converting texts -/

/-- The accessor with the given text. -/
def resolveText (contract : String) (a : Accessor) (text : String) (fromDefault : Bool) :
    Except ConversionFailure ResolvedAccessor :=
  match Scalar.convert text a.kind with
  | .ok value => .ok ⟨a.name, a.kind, a.key, text, value, fromDefault⟩
  | .error cause => .error ⟨contract, a.name, a.key, text, a.kind, cause⟩

/-- The accessor with the text of its key, or with its default if the key is absent or its text
carries no value. -/
def resolveAccessor (contract : String) (overrides : Source.Properties) (a : Accessor) :
    Except ConversionFailure ResolvedAccessor :=
  match overrides.get? a.key with
  | none => resolveText contract a a.default true
  | some text =>
    match Scalar.convert text a.kind with
    | .error (.absent _) => resolveText contract a a.default true
    | _ => resolveText contract a text false

/-- The accessors from first to last; the first that does not convert is reported. -/
def resolveAccessors (contract : String) (overrides : Source.Properties) :
    List Accessor → Except ConversionFailure (List ResolvedAccessor)
  | [] => .ok []
  | a :: rest =>
    match resolveAccessor contract overrides a with
    | .error e => .error e
    | .ok resolved =>
      match resolveAccessors contract overrides rest with
      | .error e => .error e
      | .ok others => .ok (resolved :: others)

/-- The binding of a contract to what its source was seen to hold. -/
def Observation.bind (o : Observation) (d : Descriptor) : Except ConversionFailure Binding :=
  match resolveAccessors d.typeName o.overrides d.accessors with
  | .error e => .error e
  | .ok accessors =>
    .ok ⟨d.typeName, accessors, fingerprint accessors, o.source, o.source.isSome, o.warnings⟩

/-- The three steps in a row. -/
def resolve {σ : Type} (out : Surroundings σ) (settings : Source.Locator) (world : σ)
    (registry : Watch.Registry) (d : Descriptor) :
    Except ConversionFailure Binding × Watch.Registry :=
  let (a, registry) := approach out settings world registry d.locator
  ((a.observe out world).bind d, registry)

end TypedConfig.Resolution
