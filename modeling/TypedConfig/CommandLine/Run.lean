import TypedConfig.CommandLine.Arguments
import TypedConfig.CommandLine.Diagnostic
import TypedConfig.CommandLine.Help
import TypedConfig.CommandLine.Listing
import TypedConfig.Module.Factory
import TypedConfig.Resolution.Resolve

/-!
What the commands do. A command sees the world through a few questions, and it ends in a text to be
printed, in a file to be written, or in a failure.
-/

namespace TypedConfig.CommandLine

open Contract (Declaration AccessorDeclaration Descriptor)
open TypedConfig.Module (Loaded ModuleError)
open Resolution (Warning Binding)

/-- What a command may ask. -/
structure Outside where
  environment : String → Option String
  canonical : Path → Except Files.Fault Directory
  readText : Path → Except Files.Fault String
  readBytes : Path → Except Files.Fault (List UInt8)

/-- The world of a command as one in which nothing ever changes. -/
def Outside.surroundings (o : Outside) : Surroundings Unit where
  environment _ := o.environment
  readText _ := o.readText
  canonical _ := o.canonical
  subscribe _ _ := .ok ()
  dump _ _ _ _ := ()

/-- Why a command failed. -/
inductive Failure where
  | accessor (spec : String)
  | declaration (cause : Contract.DeclarationError)
  | resolution (cause : Resolution.ConversionFailure)
  | build (cause : Module.BuildError)
  | activation (cause : Module.ActivationError)
  | wrongContract (found expected : String)
  | fault (cause : Files.Fault)
  | settingsFile (cause : Files.Fault)
  | settings (cause : SettingsError)
  deriving DecidableEq, Repr

/-- The failure in full. -/
def Failure.detail : Failure → String
  | .accessor spec =>
    Text.quoted ("accessor " ++ Text.quoted spec ++ " is not name:kind:key:default")
  | .declaration cause => declarationDetail cause
  | .resolution cause => resolutionDetail cause
  | .build cause => buildDetail cause
  | .activation cause => activationDetail cause
  | .wrongContract found expected =>
    Text.quoted ("module implements " ++ Text.quoted found ++ ", not " ++ expected)
  | .fault cause => faultDetail cause
  | .settingsFile cause => wrapped "Io" (faultDetail cause)
  | .settings cause => settingsDetail cause

/-- The failure of making a module. -/
def Failure.ofModule : ModuleError → Failure
  | .build cause => .build cause
  | .activation cause => .activation cause

/-! ### Emitting -/

/-- A text cut at its first colon. -/
def cutAtColon (cs : List Char) : Option (List Char × List Char) :=
  match cs.dropWhile (· ≠ ':') with
  | _ :: rest => some (cs.takeWhile (· ≠ ':'), rest)
  | [] => none

/-- An accessor from its short form `name:kind:key:default`. The default may hold colons, and the
name is not empty. -/
def accessorOf? (spec : String) : Option AccessorDeclaration := do
  let (name, rest) ← cutAtColon spec.toList
  let (kind, rest) ← cutAtColon rest
  let (key, default) ← cutAtColon rest
  if name.isEmpty then none
  else
    some ⟨String.ofList name, String.ofList kind, some (String.ofList key),
      some (String.ofList default), 0⟩

/-- The accessors of short forms; the first that is none is reported. -/
def accessorsOf : List String → Except Failure (List AccessorDeclaration)
  | [] => .ok []
  | spec :: rest =>
    match accessorOf? spec with
    | none => .error (.accessor spec)
    | some a => (accessorsOf rest).map (a :: ·)

/-- The locator that stands for no source at all. -/
def noSource : String := "defaults.properties"

/-- The contract that is emitted. -/
def contractOf (contract : String) (source : Option Path) (specs : List String) :
    Except Failure Descriptor :=
  match accessorsOf specs with
  | .error e => .error e
  | .ok accessors =>
    match (Declaration.mk contract true (some ((source.map Path.text).getD noSource))
      accessors).validate with
    | .ok d => .ok d
    | .error e => .error (.declaration e)

/-- The values of a contract. Without a source nothing is read, and every accessor has its
default. -/
def bindingOf (o : Outside) (source : Option Path) (d : Descriptor) : Except Failure Binding :=
  let o := if source.isNone then { o with readText := fun _ => .ok "" } else o
  match (Resolution.resolve o.surroundings .default () .empty d).1 with
  | .ok b => .ok b
  | .error e => .error (.resolution e)

/-- The bytes of a module that activates for its contract. -/
def moduleOf (d : Descriptor) (b : Binding) : Except Failure (List UInt8) :=
  match Module.assembleFor 1 d b with
  | .error e => .error (.ofModule e)
  | .ok m =>
    match m.load d with
    | .error e => .error (.ofModule e)
    | .ok _ => .ok m.bytes

/-! ### Decoding -/

/-- The module in some bytes, which has to implement a contract if one is given. -/
def loadedOf (bytes : List UInt8) (contract : Option String) : Except Failure Loaded :=
  match Module.inspect bytes with
  | .error e => .error (.activation e)
  | .ok m =>
    match contract with
    | some expected => if m.contract = expected then .ok m else .error (.wrongContract m.contract expected)
    | none => .ok m

/-! ### Outcomes -/

/-- What is left to be done when all has been computed. -/
inductive Effect where
  | print (text : String)
  | write (path : Path) (bytes : List UInt8)
  deriving DecidableEq, Repr

/-- How a command ends, with the warnings on the way. -/
structure Outcome where
  warnings : List Warning
  result : Except Failure Effect

/-- Emits a module. -/
def emit (o : Outside) (contract : String) (source : Option Path) (specs : List String)
    (out : Option Path) : Outcome :=
  match contractOf contract source specs with
  | .error e => ⟨[], .error e⟩
  | .ok d =>
    match bindingOf o source d with
    | .error e => ⟨[], .error e⟩
    | .ok b =>
      ⟨b.warnings, (moduleOf d b).map fun bytes =>
        match out with
        | some path => .write path bytes
        | none => .print (hexDump bytes)⟩

/-- Lists the accessors of a module file. -/
def decode (o : Outside) (file : Path) (contract : Option String) (json : Bool) : Outcome :=
  match o.readBytes file with
  | .error e => ⟨[], .error (.fault e)⟩
  | .ok bytes =>
    ⟨[], (loadedOf bytes contract).map fun m =>
      .print (if json then jsonListing m else listing m)⟩

/-- Shows the settings in a file. -/
def check (o : Outside) (file : Path) : Outcome :=
  match o.readText file with
  | .error e => ⟨[], .error (.settingsFile e)⟩
  | .ok text =>
    match Settings.ofText text with
    | .error e => ⟨[], .error (.settings e)⟩
    | .ok s => ⟨[], .ok (.print (s.toText ++ "\n"))⟩

/-- Carries out a command but for its effect. -/
def Command.run (o : Outside) : Command → Outcome
  | .emit contract source specs out => CommandLine.emit o contract source specs out
  | .decode file contract json => CommandLine.decode o file contract json
  | .check file => CommandLine.check o file

/-- What can be seen of a run. -/
structure Shown where
  exit : Nat
  output : String
  errors : String
  deriving DecidableEq, Repr

/-- What is shown of a failure. -/
def Failure.shown (warnings : String) (e : Failure) : Shown :=
  ⟨1, "", warnings ++ "Error: " ++ e.detail ++ "\n"⟩

/-- What is shown of an outcome, given how writing its file went. -/
def Outcome.shown (out : Outcome) (written : Except Files.Fault Unit) : Shown :=
  let warnings := String.join (out.warnings.map fun w => "warning: " ++ w.message ++ "\n")
  match out.result with
  | .error e => e.shown warnings
  | .ok (.print text) => ⟨0, text, warnings⟩
  | .ok (.write path bytes) =>
    match written with
    | .error e => (Failure.fault e).shown warnings
    | .ok () =>
      ⟨0, "", warnings ++ "wrote " ++ numeral bytes.length ++ " bytes to " ++ path.text ++ "\n"⟩

/-- The file that an outcome leaves to be written. -/
def Outcome.file? (out : Outcome) : Option (Path × List UInt8) :=
  match out.result with
  | .ok (.write path bytes) => some (path, bytes)
  | _ => none

/-- What is shown if there is no command to run. -/
def Halt.shown : Halt → Shown
  | .usage => ⟨2, "", usageHint⟩
  | .help topic => ⟨0, helpText topic, ""⟩

end TypedConfig.CommandLine
