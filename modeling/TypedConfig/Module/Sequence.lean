import TypedConfig.Module.Factory

/-!
The factory that assembles modules, in use. It counts its calls in 64 bits, and every call takes the next
number for its type name, whether or not a module comes of it. A number is taken in one step and the rest
of a call depends on it alone, so calls at the same time come to what they would come to one after the
other, in the order in which they have taken their numbers.
-/

namespace TypedConfig.Module

open Contract (Descriptor)
open Resolution (Binding)

/-- What a call of the factory comes to: the type name that it has chosen, the module if one was
assembled, and the outcome. -/
structure Production where
  typeName : String
  assembled : Option Assembled
  outcome : Except ModuleError Loaded

/-- What the call of a number comes to. -/
def production (n : Nat) (d : Descriptor) (b : Binding) : Production :=
  let (assembled, outcome) := Factory.bytecode.produce n d b
  ⟨synthesizedName d.typeName n, assembled, outcome⟩

/-- How far a factory has counted. -/
structure Sequence where
  taken : UInt64
  deriving DecidableEq, Repr

namespace Sequence

/-- A factory on which nothing has been called. -/
def new : Sequence := ⟨0⟩

/-- Takes the next number. -/
def next (s : Sequence) : UInt64 × Sequence := (s.taken + 1, ⟨s.taken + 1⟩)

/-- Makes an instance under the next number. -/
def produce (s : Sequence) (d : Descriptor) (b : Binding) : Production × Sequence :=
  let (n, s) := s.next
  (production n.toNat d b, s)

/-- Makes instances one after the other. -/
def produceAll (s : Sequence) : List (Descriptor × Binding) → List Production
  | [] => []
  | (d, b) :: rest =>
    let (p, s) := s.produce d b
    p :: s.produceAll rest

end Sequence

end TypedConfig.Module
