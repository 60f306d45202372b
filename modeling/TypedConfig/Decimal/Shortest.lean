import TypedConfig.Decimal.Binary

/-!
The fewest digits that read back. For one digit, two digits and so on, the two neighbours of the
value among the decimals with that many digits are tried, and the first count for which a neighbour
reads back to the same pattern wins; of two such neighbours the nearer one.
-/

namespace TypedConfig.Decimal

/-- Which neighbour wins when the value lies half way between two. -/
inductive Tie where
  | up
  | toEven
  deriving DecidableEq, Repr

/-- The same decimal without final zeros in its digits. -/
def dropZeros (c : Nat) (e : Int) : Nat × Int :=
  if h : c ≠ 0 ∧ c % 10 = 0 then dropZeros (c / 10) (e + 1) else (c, e)
termination_by c
decreasing_by omega

/-- Whether `10 ^ e ≤ num / den`. -/
def reachesPower (num den : Nat) (e : Int) : Bool :=
  if 0 ≤ e then den * Nat.pow 10 e.toNat ≤ num else den ≤ num * Nat.pow 10 (-e).toNat

/-- The exponent of the greatest power of ten that is not above `num / den`. -/
def leadingExponent (num den : Nat) : Int :=
  let guess := ((num.log2 : Int) - den.log2) * 30103 / 100000
  if reachesPower num den (guess + 1) then guess + 1
  else if reachesPower num den guess then guess
  else guess - 1

/-- The neighbour of `num / den` among the multiples of `10 ^ e` that reads back to `pattern`. -/
def neighbour? (f : Format) (tie : Tie) (pattern num den : Nat) (e : Int) : Option (Nat × Int) :=
  let (n, d) := if 0 ≤ e then (num, den * Nat.pow 10 e.toNat) else (num * Nat.pow 10 (-e).toNat, den)
  let q := n / d
  let r := n % d
  let below := dropZeros q e
  let above := dropZeros (q + 1) e
  let readsBack (c : Nat × Int) : Bool := f.nearestDecimal c.1 c.2 = pattern
  let nearer :=
    if 2 * r < d then below
    else if d < 2 * r then above
    else
      match tie with
      | .up => above
      | .toEven => if q % 2 = 0 then below else above
  if readsBack below && readsBack above then some nearer
  else if readsBack below then some below
  else if readsBack above then some above
  else none

/-- All digits of the magnitude `m * 2 ^ k`. -/
def exactDecimal (m : Nat) (k : Int) : Nat × Int :=
  if 0 ≤ k then (m * Nat.pow 2 k.toNat, 0) else (m * Nat.pow 5 (-k).toNat, k)

/-- The shortest decimal `c * 10 ^ e` that reads back to a finite pattern. -/
def shortest (f : Format) (tie : Tie) (pattern : Nat) : Nat × Int :=
  let (m, k) := f.decompose pattern
  if m = 0 then (0, 0)
  else
    let (num, den) := if 0 ≤ k then (m * Nat.pow 2 k.toNat, 1) else (m, Nat.pow 2 (-k).toNat)
    let top := leadingExponent num den
    let found := (List.range 17).findSome? fun (i : Nat) => neighbour? f tie pattern num den (top - i)
    found.getD (exactDecimal m k)

end TypedConfig.Decimal
