import TypedConfig.Decimal.Integer
import TypedConfig.Decimal.Shortest

/-!
How the digits of a floating-point number are laid out. The plain layout never has an exponent; the
marked layout has a point in every plain number and an exponent outside a span of magnitudes.
-/

namespace TypedConfig.Decimal

/-- The decimal `c * 10 ^ e` without an exponent; a whole number has no point. -/
def positional (c : Nat) (e : Int) : List Char :=
  let ds := ofNat c
  if 0 ≤ e then (if c = 0 then ds else ds ++ List.replicate e.toNat '0')
  else
    let n := (-e).toNat
    if n < ds.length then ds.take (ds.length - n) ++ '.' :: ds.drop (ds.length - n)
    else '0' :: '.' :: (List.replicate (n - ds.length) '0' ++ ds)

/-- The sign and the magnitude of a pattern. -/
def splitSign (f : Format) (bits : Nat) : Bool × Nat :=
  if f.signBit ≤ bits then (true, bits - f.signBit) else (false, bits)

/-- A floating-point number in the plain layout. A half goes up, and not-a-number has no sign. -/
def plainText (f : Format) (bits : Nat) : List Char :=
  let (negative, pattern) := splitSign f bits
  if f.infinity < pattern then ['N', 'a', 'N']
  else
    let body :=
      if pattern = f.infinity then ['i', 'n', 'f']
      else
        let (c, e) := shortest f .up pattern
        positional c e
    if negative then '-' :: body else body

/-- The span of magnitudes that the marked layout writes without an exponent: from
`10 ^ firstPlain` up to but excluding `10 ^ firstMarked`. -/
structure Span where
  firstPlain : Int
  firstMarked : Int

/-- The span for 64 bits. -/
def span64 : Span := ⟨-5, 16⟩

/-- The span for 32 bits. -/
def span32 : Span := ⟨-6, 13⟩

/-- The decimal `c * 10 ^ e` with a point or an exponent. -/
def marked (span : Span) (c : Nat) (e : Int) : List Char :=
  let ds := ofNat c
  let lead : Int := e + ds.length - 1
  if c = 0 then ['0', '.', '0']
  else if span.firstPlain ≤ lead && lead < span.firstMarked then
    if 0 ≤ e then positional c e ++ ['.', '0'] else positional c e
  else
    let exponent := (if 0 ≤ lead then '+' else '-') :: ofNat lead.natAbs
    match ds with
    | d :: [] => d :: 'e' :: exponent
    | d :: rest => d :: '.' :: (rest ++ 'e' :: exponent)
    | [] => []

/-- A finite floating-point number in the marked layout; a half goes to the even digit. -/
def markedText? (f : Format) (span : Span) (bits : Nat) : Option (List Char) :=
  let (negative, pattern) := splitSign f bits
  if f.infinity ≤ pattern then none
  else
    let (c, e) := shortest f .toEven pattern
    let body := marked span c e
    some (if negative then '-' :: body else body)

end TypedConfig.Decimal
