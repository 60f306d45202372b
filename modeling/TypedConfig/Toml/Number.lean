import TypedConfig.Decimal.Numeral
import TypedConfig.Toml.Text

/-!
Numbers of TOML. Digits may have single underscores between them; a decimal number has no zero in
front; an integer has to fit into 64 bits, and a number with a point or an exponent must not grow
beyond all bounds.
-/

namespace TypedConfig.Toml

/-- Reads digits of a kind with single underscores between them, which are dropped. -/
def digitsWith (isDigit : Char → Bool) : Scan (List Char)
  | [] => none
  | c :: cs =>
    if isDigit c then
      match cs with
      | '_' :: rest => push c (digitsWith isDigit rest)
      | cs =>
        match digitsWith isDigit cs with
        | some (ds, rest) => some (c :: ds, rest)
        | none => if cs.head?.any isDigit then none else some ([c], cs)
    else none

/-- Reads an optional sign. -/
def sign : List Char → List Char × List Char
  | '+' :: cs => (['+'], cs)
  | '-' :: cs => (['-'], cs)
  | cs => ([], cs)

/-- Reads digits without a sign and without a zero in front of others. -/
def wholeDigits : Scan (List Char)
  | '0' :: cs => some (['0'], cs)
  | cs => digitsWith Char.isDigit cs

/-- Reads a decimal integer with its sign. -/
def decimalDigits : Scan (List Char) := fun cs =>
  let (s, cs) := sign cs
  Scan.map (s ++ ·) wholeDigits cs

/-- The least and the greatest integer. -/
def minInteger : Int := -9223372036854775808
def maxInteger : Int := 9223372036854775807

/-- Reads digits of a base, given the kind of its digits. -/
def basedInteger (base : Nat) (isDigit : Char → Bool) : Scan Int := fun cs => do
  let (ds, rest) ← digitsWith isDigit cs
  let n := ds.foldl (fun n c => n * base + (hexDigit? c).getD 0) 0
  if (n : Int) ≤ maxInteger then some (n, rest) else none

/-- Reads an integer. -/
def integer : Scan Int
  | '0' :: 'x' :: cs => basedInteger 16 (fun c => (hexDigit? c).isSome) cs
  | '0' :: 'o' :: cs => basedInteger 8 (fun c => '0' ≤ c && c ≤ '7') cs
  | '0' :: 'b' :: cs => basedInteger 2 (fun c => c = '0' || c = '1') cs
  | cs => do
    let (ds, rest) ← decimalDigits cs
    match Decimal.readInteger minInteger maxInteger ds with
    | .ok n => some (n, rest)
    | .error _ => none

/-- Reads a point and the digits after it. -/
def fraction : Scan (List Char)
  | '.' :: cs => push '.' (digitsWith Char.isDigit cs)
  | _ => none

/-- Reads an exponent. -/
def exponent : Scan (List Char)
  | c :: cs =>
    if c = 'e' || c = 'E' then
      let (s, cs) := sign cs
      Scan.map (c :: s ++ ·) (digitsWith Char.isDigit) cs
    else none
  | [] => none

/-- Reads something that may be missing. -/
def optional (scan : Scan (List Char)) : Scan (List Char) := fun cs =>
  (scan cs).or (some ([], cs))

/-- Whether a character begins an exponent. -/
def beginsExponent (cs : List Char) : Bool := cs.head? == some 'e' || cs.head? == some 'E'

/-- Reads a number with a point or an exponent, and checks that it is not infinite. -/
def float : Scan Unit := fun cs => do
  let (whole, cs) ← decimalDigits cs
  let (part, cs) ← optional fraction cs
  let (power, cs) ← if part.isEmpty || beginsExponent cs then exponent cs else some ([], cs)
  match Decimal.Numeral.read (whole ++ part ++ power) with
  | .ok n =>
    if n.toBits Decimal.binary64 = Decimal.binary64.infinity then none else some ((), cs)
  | .error _ => none

/-- Reads one of the words for what is no finite number, with its sign. -/
def notFinite : Scan Unit := fun cs =>
  match (sign cs).2 with
  | 'i' :: 'n' :: 'f' :: rest => some ((), rest)
  | 'n' :: 'a' :: 'n' :: rest => some ((), rest)
  | _ => none

end TypedConfig.Toml
