import TypedConfig.Cache.Ledger
import TypedConfig.Module.Factory
import TypedConfig.Resolution.Resolve

/-!
The state of a cache: one entry at most for each contract type, the watch registry, and what has been
counted. An entry is never changed, only replaced by another; it is known by its instance, and no two
instances have one identity.
-/

namespace TypedConfig.Cache

open Contract (Descriptor DeclarationError)
open Resolution (Binding Warning ConversionFailure)
open TypedConfig.Module (Loaded ModuleError Factory)

/-- Contract types are told apart by number. -/
abbrev Key := Nat

/-- An activated dispatch table with its identity. -/
structure Instance where
  id : Nat
  table : Loaded
  deriving DecidableEq, Repr, Inhabited

/-- An installed instance and what it was built from. -/
structure Entry where
  descriptor : Descriptor
  inst : Instance
  fingerprint : String
  watchable : Bool
  warnings : List Warning
  deriving DecidableEq, Repr

/-- The entry for an instance made from a binding. -/
def Entry.new (d : Descriptor) (i : Instance) (b : Binding) : Entry :=
  ⟨d, i, b.fingerprint, b.watchable, b.warnings⟩

/-- Why an instance could not be had. -/
inductive CacheError where
  | declaration (cause : DeclarationError)
  | resolution (cause : ConversionFailure)
  | production (cause : ModuleError)
  deriving DecidableEq, Repr

/-- The error in words. -/
def CacheError.message : CacheError → String
  | .declaration cause => "invalid contract: " ++ cause.message
  | .resolution cause => "resolution failed: " ++ cause.message
  | .production cause => "instance production failed: " ++ cause.message

/-- How a build that ended in the error is counted. -/
def CacheError.outcome : CacheError → BuildOutcome
  | .declaration _ => .declarationError
  | .resolution _ => .conversionError
  | .production _ => .moduleError

/-- What does not change while a cache is in use. -/
structure Setup (σ : Type) where
  out : Surroundings σ
  locator : Source.Locator
  factory : Factory
  dumpDirectory : Option Path

/-- The state of a cache in a world. -/
structure State (σ : Type) where
  world : σ
  registry : Watch.Registry
  entries : List (Key × Entry)
  /-- How many modules have been begun. -/
  begun : Nat
  /-- How many instances have been activated. -/
  activated : Nat
  /-- How many reload passes have been begun. -/
  passes : Nat
  ledger : Ledger

namespace State

variable {σ : Type}

/-- An empty cache. -/
def new (world : σ) (metrics : Bool) : State σ :=
  ⟨world, .empty, [], 0, 0, 0, .new metrics⟩

/-- The entry of a contract type. -/
def entry? (s : State σ) (key : Key) : Option Entry := s.entries.lookup key

/-- How many entries there are. -/
def size (s : State σ) : Nat := s.entries.length

/-- Counts once more. -/
def count (s : State σ) (c : Counter) : State σ := { s with ledger := s.ledger.bump c }

/-- Shows the number of entries in the gauge. -/
def recordSize (s : State σ) : State σ := { s with ledger := s.ledger.setGauge s.size }

/-- Replaces the entry of a contract type that has one. -/
def swapEntry (key : Key) (e : Entry) (entries : List (Key × Entry)) : List (Key × Entry) :=
  entries.map fun p => if p.1 = key then (key, e) else p

/-- Drops the entry of a contract type, and tells whether there was one. -/
def invalidate (s : State σ) (key : Key) : Bool × State σ :=
  match s.entry? key with
  | none => (false, s)
  | some _ => (true, { s with entries := s.entries.filter fun p => p.1 ≠ key }.recordSize)

/-- Drops every entry. -/
def clear (s : State σ) : State σ := { s with entries := [] }.recordSize

end State

end TypedConfig.Cache
