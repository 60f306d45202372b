import TypedConfig.Decimal.Binary
import TypedConfig.Decimal.Integer

/-!
Numerals with a fraction and an exponent: digits with at most one point and at least one digit,
then an optional exponent, and the words for infinity and not-a-number in any case, each after an
optional sign. A numeral is read exactly and rounded once.
-/

namespace TypedConfig.Decimal

/-- What stands after the sign of a numeral. -/
inductive Magnitude where
  | finite (digits : Nat) (exponent : Int)
  | infinite
  | notANumber
  deriving DecidableEq, Repr

/-- A numeral. -/
structure Numeral where
  negative : Bool
  magnitude : Magnitude
  deriving DecidableEq, Repr

/-- Why a text is no numeral. -/
inductive NumeralFault where
  | empty
  | invalid
  deriving DecidableEq, Repr

/-- The fault in words. -/
def NumeralFault.message : NumeralFault → String
  | .empty => "cannot parse float from empty string"
  | .invalid => "invalid float literal"

/-- The number that a run of digits spells. -/
def digitsValue (cs : List Char) : Nat := Nat.ofDigitChars 10 cs 0

/-- Reads what may follow the digits: nothing, or a mark, an optional sign and digits. -/
def readExponent : List Char → Option Int
  | [] => some 0
  | mark :: cs =>
    if mark = 'e' || mark = 'E' then
      let (negative, ds) :=
        match cs with
        | '-' :: ds => (true, ds)
        | '+' :: ds => (false, ds)
        | ds => (false, ds)
      if !ds.isEmpty && ds.all Char.isDigit then
        let n : Int := digitsValue ds
        some (if negative then -n else n)
      else none
    else none

/-- Reads digits with at most one point and an optional exponent. -/
def readFinite (cs : List Char) : Option Magnitude :=
  let whole := cs.takeWhile Char.isDigit
  let rest := cs.dropWhile Char.isDigit
  let (fraction, rest) :=
    match rest with
    | '.' :: cs => (cs.takeWhile Char.isDigit, cs.dropWhile Char.isDigit)
    | cs => ([], cs)
  if whole.isEmpty && fraction.isEmpty then none
  else
    (readExponent rest).map fun e =>
      .finite (digitsValue (whole ++ fraction)) (e - fraction.length)

/-- Reads one of the words that stand for a magnitude. -/
def readWord (cs : List Char) : Option Magnitude :=
  match String.ofList (cs.map Char.toLower) with
  | "inf" => some .infinite
  | "infinity" => some .infinite
  | "nan" => some .notANumber
  | _ => none

/-- Reads a numeral. -/
def Numeral.read (cs : List Char) : Except NumeralFault Numeral :=
  if cs.isEmpty then .error .empty
  else
    let (negative, rest) :=
      match cs with
      | '-' :: rest => (true, rest)
      | '+' :: rest => (false, rest)
      | rest => (false, rest)
    match (readFinite rest).or (readWord rest) with
    | some magnitude => .ok ⟨negative, magnitude⟩
    | none => .error .invalid

/-- The pattern nearest to the numeral. -/
def Numeral.toBits (f : Format) (n : Numeral) : Nat :=
  let pattern :=
    match n.magnitude with
    | .finite m e => f.nearestDecimal m e
    | .infinite => f.infinity
    | .notANumber => f.quietNaN
  if n.negative then f.signBit + pattern else pattern

end TypedConfig.Decimal
