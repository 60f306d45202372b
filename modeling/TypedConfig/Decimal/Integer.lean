/-!
Integers in decimal notation: an optional sign and at least one ASCII digit, read from left to right
into a range. The first obstacle wins, so a number that leaves the range is reported before a
character further right that is no digit.
-/

namespace TypedConfig.Decimal

/-- The value of an ASCII digit. -/
def digit? (c : Char) : Option Nat :=
  if c.isDigit then some (c.toNat - 48) else none

/-- Why a text is no integer of the range. -/
inductive IntegerFault where
  | empty
  | invalidDigit
  | tooLarge
  | tooSmall
  deriving DecidableEq, Repr

/-- The fault in words. -/
def IntegerFault.message : IntegerFault → String
  | .empty => "cannot parse integer from empty string"
  | .invalidDigit => "invalid digit found in string"
  | .tooLarge => "number too large to fit in target type"
  | .tooSmall => "number too small to fit in target type"

/-- Reads digits onto a number already read; after a minus sign they count downwards. -/
def readDigits (lo hi : Int) (negative : Bool) : Int → List Char → Except IntegerFault Int
  | acc, [] => .ok acc
  | acc, c :: cs =>
    match digit? c with
    | none => .error .invalidDigit
    | some d =>
      let next := if negative then acc * 10 - d else acc * 10 + d
      if next < lo then .error .tooSmall
      else if hi < next then .error .tooLarge
      else readDigits lo hi negative next cs

/-- Reads an integer between `lo` and `hi`. A sign needs a digit after it. -/
def readInteger (lo hi : Int) : List Char → Except IntegerFault Int
  | [] => .error .empty
  | '+' :: [] => .error .invalidDigit
  | '-' :: [] => .error .invalidDigit
  | '+' :: cs => readDigits lo hi false 0 cs
  | '-' :: cs => readDigits lo hi true 0 cs
  | cs => readDigits lo hi false 0 cs

/-- The digits of a natural number. -/
def ofNat (n : Nat) : List Char := Nat.toDigits 10 n

/-- The digits of an integer, after a minus sign if it is negative. -/
def ofInt (i : Int) : List Char :=
  if i < 0 then '-' :: ofNat i.natAbs else ofNat i.natAbs

end TypedConfig.Decimal
