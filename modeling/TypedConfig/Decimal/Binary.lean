/-!
Binary floating point as patterns of bits, in exact arithmetic on natural numbers. A format is given
by its fraction width and its least exponent; the pattern of a magnitude is the number of magnitudes
below it, so rounding to the nearest magnitude is rounding to a pattern.
-/

namespace TypedConfig.Decimal

/-- A binary interchange format. Magnitudes are `m * 2 ^ k` with `k` at least `minExponent`. -/
structure Format where
  fractionBits : Nat
  minExponent : Int
  exponentCodes : Nat
  deriving DecidableEq, Repr

/-- The format of 64 bits. -/
def binary64 : Format := ⟨52, -1074, 2047⟩

/-- The format of 32 bits. -/
def binary32 : Format := ⟨23, -149, 255⟩

namespace Format

/-- How many magnitudes share one exponent. -/
def radix (f : Format) : Nat := Nat.pow 2 f.fractionBits

/-- The pattern of infinity. -/
def infinity (f : Format) : Nat := f.exponentCodes * f.radix

/-- The pattern of the quiet not-a-number. -/
def quietNaN (f : Format) : Nat := f.infinity + f.radix / 2

/-- The weight of the sign bit. -/
def signBit (f : Format) : Nat := (f.exponentCodes + 1) * f.radix

/-- The significand and the exponent of a finite magnitude. -/
def decompose (f : Format) (pattern : Nat) : Nat × Int :=
  let code := pattern / f.radix
  let fraction := pattern % f.radix
  if code = 0 then (fraction, f.minExponent)
  else (fraction + f.radix, f.minExponent + (code - 1 : Nat))

/-- The nearest integer to a quotient; a half goes to the even neighbour. -/
def roundDiv (num den : Nat) : Nat :=
  let q := num / den
  let r := num % den
  if 2 * r < den then q
  else if den < 2 * r then q + 1
  else if q % 2 = 0 then q else q + 1

/-- The quotient `num / den` divided by a power of two. -/
def scale (num den : Nat) (k : Int) : Nat × Nat :=
  if 0 ≤ k then (num, den * Nat.pow 2 k.toNat) else (num * Nat.pow 2 (-k).toNat, den)

/-- The exponent with which `num / den` has a significand of full width, or the least one. -/
def exponentOf (f : Format) (num den : Nat) : Int :=
  let k : Int := (num.log2 : Int) - den.log2 - f.fractionBits
  let (n, d) := scale num den k
  let k := if n < d * f.radix then k - 1 else k
  max k f.minExponent

/-- The pattern of the magnitude nearest to `num / den`. -/
def nearest (f : Format) (num den : Nat) : Nat :=
  if num = 0 then 0
  else
    let k := f.exponentOf num den
    let (n, d) := scale num den k
    min ((k - f.minExponent).toNat * f.radix + roundDiv n d) f.infinity

/-- The pattern of the magnitude nearest to `m * 10 ^ e`. Far outside the format the answer is
infinity or zero, and the power is not computed. -/
def nearestDecimal (f : Format) (m : Nat) (e : Int) : Nat :=
  if m = 0 then 0
  else if 0 ≤ e then
    if 400 < e then f.infinity else f.nearest (m * Nat.pow 10 e.toNat) 1
  else
    let n := (-e).toNat
    if m.log2 + 1200 < 3 * n then 0 else f.nearest m (Nat.pow 10 n)

end Format

end TypedConfig.Decimal
