/-!
The metrics of a service: counters that only grow, and a gauge that is set. A ledger that is switched
off records nothing.
-/

namespace TypedConfig.Cache

/-- How a build ended. -/
inductive BuildOutcome where
  | built
  | replaced
  | declarationError
  | conversionError
  | moduleError
  deriving DecidableEq, Repr

/-- The label of an outcome. -/
def BuildOutcome.label : BuildOutcome → String
  | .built => "built"
  | .replaced => "replaced"
  | .declarationError => "declaration_error"
  | .conversionError => "conversion_error"
  | .moduleError => "module_error"

/-- What is counted. -/
inductive Counter where
  | builds (contract : String) (outcome : BuildOutcome)
  | reuse (contract : String)
  | reloadPasses
  | reloadErrors (contract : String)
  deriving DecidableEq, Repr

/-- The name of a counter, with its labels in braces. -/
def Counter.name : Counter → String
  | .builds contract outcome =>
    "capconf_builds_total\x7bcontract=" ++ contract ++ ",outcome=" ++ outcome.label ++ "\x7d"
  | .reuse contract => "capconf_reuse_total\x7bcontract=" ++ contract ++ "\x7d"
  | .reloadPasses => "capconf_reload_passes_total"
  | .reloadErrors contract =>
    "capconf_reload_errors_total\x7bcontract=" ++ contract ++ "\x7d"

/-- The name of the gauge of cached contracts. -/
def gaugeName : String := "capconf_cached_contracts"

/-- The counters that have been touched, and the gauge if it has been set. -/
structure Ledger where
  enabled : Bool
  counts : List (Counter × Nat)
  gauge : Option Nat
  deriving DecidableEq, Repr

namespace Ledger

/-- A ledger in which nothing has been recorded. -/
def new (enabled : Bool) : Ledger := ⟨enabled, [], none⟩

/-- How often something has been counted. -/
def total (l : Ledger) (c : Counter) : Nat := (l.counts.lookup c).getD 0

/-- Counts once more in a list of counts. -/
def bumpIn (c : Counter) : List (Counter × Nat) → List (Counter × Nat)
  | [] => [(c, 1)]
  | (d, n) :: rest => if d = c then (d, n + 1) :: rest else (d, n) :: bumpIn c rest

/-- Counts once more. -/
def bump (l : Ledger) (c : Counter) : Ledger :=
  if l.enabled then { l with counts := bumpIn c l.counts } else l

/-- Sets the gauge. -/
def setGauge (l : Ledger) (size : Nat) : Ledger :=
  if l.enabled then { l with gauge := some size } else l

/-- Every metric touched, by name. -/
def listing (l : Ledger) : List (String × Nat) :=
  l.counts.map (fun (c, n) => (c.name, n)) ++ (l.gauge.map fun n => (gaugeName, n)).toList

end Ledger

end TypedConfig.Cache
