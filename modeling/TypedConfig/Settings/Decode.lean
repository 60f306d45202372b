import TypedConfig.Document
import TypedConfig.Settings.Basic

/-!
Reading settings from a document. A section that is missing, or a setting that is missing in its
section, keeps its default, and names that mean nothing are passed over; a value of the wrong type is
refused. A section may also be a list of its settings in their fixed order.
-/

namespace TypedConfig

/-- What differs between notations. -/
structure Dialect where
  /-- Whether a list may go on after the last setting of a section. -/
  longLists : Bool
  /-- Whether a document says nothing. -/
  isNothing : Document → Bool

namespace Dialect

/-- JSON, in which null says nothing. -/
def json : Dialect where
  longLists := false
  isNothing
    | .null => true
    | _ => false

/-- TOML, in which an empty list or table says nothing. -/
def toml : Dialect where
  longLists := true
  isNothing
    | .list [] => true
    | .table [] => true
    | _ => false

/-- The settings of a section by name. -/
def members (l : Dialect) (names : List String) : Document → Option (List (String × Document))
  | .table entries => some entries
  | .list items =>
    if l.longLists || items.length ≤ names.length then some (names.zip items) else none
  | _ => none

/-- Reads one setting of a section. -/
def member {α : Type} (entries : List (String × Document)) (name : String) (default : α)
    (read : Document → Option α) : Option α :=
  match entries.lookup name with
  | some d => read d
  | none => some default

/-- A path that may be left open. -/
def path? : Document → Option (Option Path)
  | .null => some none
  | .text s => some (some ⟨s⟩)
  | _ => none

/-- A factory: its name, or a table that gives its name nothing. -/
def factory? (l : Dialect) : Document → Option Module.Factory
  | .text s => Module.Factory.ofName? s
  | .table [(name, d)] => if l.isNothing d then Module.Factory.ofName? name else none
  | _ => none

def watch? (l : Dialect) (d : Document) : Option WatchSettings := do
  let initial := Settings.default.watch
  let entries ← l.members ["enabled", "idle_poll_ms", "debounce_ms", "poll_interval_ms"] d
  return ⟨← member entries "enabled" initial.enabled Document.bool?,
    ← member entries "idle_poll_ms" initial.idlePoll Document.word?,
    ← member entries "debounce_ms" initial.debounce Document.word?,
    ← member entries "poll_interval_ms" initial.pollInterval Document.word?⟩

def resolver? (l : Dialect) (d : Document) : Option Source.Locator := do
  let initial := Settings.default.resolver
  let entries ← l.members ["base_dir", "marker", "variables"] d
  let base ← member entries "base_dir" initial.base path?
  let marker ← member entries "marker" initial.marker Document.char?
  return ⟨marker, ← member entries "variables" initial.defined Document.texts?, base⟩

def module? (l : Dialect) (d : Document) : Option ModuleSettings := do
  let initial := Settings.default.module
  let entries ← l.members ["factory", "dump_dir"] d
  return ⟨← member entries "factory" initial.factory l.factory?,
    ← member entries "dump_dir" initial.dumpDirectory path?⟩

def observability? (l : Dialect) (d : Document) : Option ObservabilitySettings := do
  let initial := Settings.default.observability
  let entries ← l.members ["log_level", "metrics_enabled"] d
  return ⟨← member entries "log_level" initial.logLevel Document.text?,
    ← member entries "metrics_enabled" initial.metrics Document.bool?⟩

/-- Reads settings. -/
def settings? (l : Dialect) (d : Document) : Option Settings := do
  let initial := Settings.default
  let entries ← l.members ["watch", "resolver", "module", "observability"] d
  return ⟨← member entries "watch" initial.watch l.watch?,
    ← member entries "resolver" initial.resolver l.resolver?,
    ← member entries "module" initial.module l.module?,
    ← member entries "observability" initial.observability l.observability?⟩

end Dialect

end TypedConfig
