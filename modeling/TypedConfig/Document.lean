/-!
Documents: the values that settings are read from, whichever notation they were written in. A number
is kept only if it was written as an integer.
-/

namespace TypedConfig

/-- A value of a document. The entries of a table have different names. -/
inductive Document where
  | null
  | bool (b : Bool)
  | integer (n : Int)
  | fraction
  | text (s : String)
  | list (items : List Document)
  | table (entries : List (String × Document))
  deriving Repr, Inhabited

namespace Document

/-- The truth value that a document is. -/
def bool? : Document → Option Bool
  | bool b => some b
  | _ => none

/-- The text that a document is. -/
def text? : Document → Option String
  | text s => some s
  | _ => none

/-- The unsigned 64-bit number that a document is. -/
def word? : Document → Option Nat
  | integer (.ofNat n) => if n < 18446744073709551616 then some n else none
  | _ => none

/-- The character that a document is: a text of just one. -/
def char? : Document → Option Char
  | text s =>
    match s.toList with
    | [c] => some c
    | _ => none
  | _ => none

/-- The named texts that a document is. -/
def texts? : Document → Option (List (String × String))
  | table entries => entries.mapM fun (name, d) => d.text?.map fun s => (name, s)
  | _ => none

end Document

end TypedConfig
