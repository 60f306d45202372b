import TypedConfig.Module.Factory
import TypedConfig.Source.Locator

/-!
The settings of a service, and what they are when nothing is said.
-/

namespace TypedConfig

/-- How files are watched; times are in milliseconds. -/
structure WatchSettings where
  enabled : Bool
  idlePoll : Nat
  debounce : Nat
  pollInterval : Nat
  deriving DecidableEq, Repr

/-- How instances are made, and where their modules are dumped. -/
structure ModuleSettings where
  factory : Module.Factory
  dumpDirectory : Option Path
  deriving DecidableEq, Repr

/-- What is logged and counted. -/
structure ObservabilitySettings where
  logLevel : String
  metrics : Bool
  deriving DecidableEq, Repr

/-- The settings of a service. -/
structure Settings where
  watch : WatchSettings
  resolver : Source.Locator
  module : ModuleSettings
  observability : ObservabilitySettings
  deriving DecidableEq, Repr

/-- The name of a factory. -/
def Module.Factory.name : Module.Factory → String
  | .bytecode => "bytecode"
  | .dispatch => "dispatch"

/-- The factory of a name. -/
def Module.Factory.ofName? (name : String) : Option Module.Factory :=
  [.bytecode, .dispatch].find? fun f => f.name == name

theorem Module.Factory.ofName?_name (f : Module.Factory) : ofName? f.name = some f := by
  cases f <;> decide

namespace Settings

/-- What holds when nothing is said. -/
def default : Settings where
  watch := ⟨true, 100, 50, 2000⟩
  resolver := .default
  module := ⟨.bytecode, none⟩
  observability := ⟨"info", true⟩

/-- The settings with file watching switched off. -/
def unwatched (s : Settings) : Settings := { s with watch := { s.watch with enabled := false } }

end Settings

end TypedConfig
