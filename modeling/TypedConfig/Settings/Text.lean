import TypedConfig.Settings.Decode
import TypedConfig.Settings.Problem
import TypedConfig.Toml.Read
import TypedConfig.Toml.Write

/-!
Settings as text: reading a TOML text into settings that are acceptable, and writing them out with
nothing left to a default.
-/

namespace TypedConfig

/-- Why a text gives no settings. -/
inductive SettingsError where
  | unreadable
  | problems (found : List Problem)
  deriving DecidableEq, Repr

namespace Settings

/-- The settings if nothing is wrong with them. -/
def checked (s : Settings) : Except SettingsError Settings :=
  match s.problems with
  | [] => .ok s
  | found => .error (.problems found)

/-- Reads settings from a TOML text. -/
def ofText (text : String) : Except SettingsError Settings :=
  match (Toml.read? text).bind Dialect.toml.settings? with
  | some s => s.checked
  | none => .error .unreadable

/-- Writes a number. -/
def numberText (n : Nat) : String := String.ofList (Decimal.ofNat n)

/-- Writes an entry for a path unless it is left open. -/
def pathEntry (name : String) : Option Path → String
  | some p => Toml.writeEntry name (Toml.writeText p.text)
  | none => ""

/-- Writes the sections with an empty line between them. -/
def toText (s : Settings) : String :=
  "\n".intercalate [
    Toml.writeHeader ["watch"] ++
      Toml.writeEntry "enabled" (Toml.writeBool s.watch.enabled) ++
      Toml.writeEntry "idle_poll_ms" (numberText s.watch.idlePoll) ++
      Toml.writeEntry "debounce_ms" (numberText s.watch.debounce) ++
      Toml.writeEntry "poll_interval_ms" (numberText s.watch.pollInterval),
    Toml.writeHeader ["resolver"] ++
      pathEntry "base_dir" s.resolver.base ++
      Toml.writeEntry "marker" (Toml.writeText (String.ofList [s.resolver.marker])),
    Toml.writeHeader ["resolver", "variables"] ++
      String.join (s.resolver.defined.map fun (name, value) =>
        Toml.writeEntry name (Toml.writeText value)),
    Toml.writeHeader ["module"] ++
      Toml.writeEntry "factory" (Toml.writeText s.module.factory.name) ++
      pathEntry "dump_dir" s.module.dumpDirectory,
    Toml.writeHeader ["observability"] ++
      Toml.writeEntry "log_level" (Toml.writeText s.observability.logLevel) ++
      Toml.writeEntry "metrics_enabled" (Toml.writeBool s.observability.metrics)]

end Settings

end TypedConfig
