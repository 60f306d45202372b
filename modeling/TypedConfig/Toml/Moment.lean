import TypedConfig.Decimal.Integer
import TypedConfig.Toml.Text

/-!
Dates and times of TOML: a date, a time, or both with an optional offset. A moment is given as one
text, in which a `T` stands between date and time, the fraction of a second has no zeros at its end,
and no offset is negative zero.
-/

namespace TypedConfig.Toml

/-- Reads a number of exactly so many digits in a range. -/
def fixedNumber (width lo hi : Nat) : Scan (List Char) := fun cs =>
  let ds := cs.take width
  let n := Nat.ofDigitChars 10 ds 0
  if ds.length = width && ds.all Char.isDigit && lo ≤ n && n ≤ hi then some (ds, cs.drop width)
  else none

/-- Reads a character, one of some that mean the same. -/
def mark (accepted : List Char) (shown : Char) : Scan (List Char)
  | c :: cs => if accepted.contains c then some ([shown], cs) else none
  | [] => none

/-- Reads one thing after the other. -/
def inTurn : List (Scan (List Char)) → Scan (List Char)
  | [], cs => some ([], cs)
  | scan :: scans, cs => do
    let (first, cs) ← scan cs
    let (others, cs) ← inTurn scans cs
    return (first ++ others, cs)

/-- The number of days in a month. -/
def daysIn (year month : Nat) : Nat :=
  if month = 2 then
    if year % 4 = 0 && (year % 100 ≠ 0 || year % 400 = 0) then 29 else 28
  else if [4, 6, 9, 11].contains month then 30 else 31

/-- Reads a date. -/
def date : Scan (List Char) := fun cs => do
  let (year, cs) ← fixedNumber 4 0 9999 cs
  let (_, cs) ← mark ['-'] '-' cs
  let (month, cs) ← fixedNumber 2 1 12 cs
  let (_, cs) ← mark ['-'] '-' cs
  let last := daysIn (Nat.ofDigitChars 10 year 0) (Nat.ofDigitChars 10 month 0)
  let (day, cs) ← fixedNumber 2 1 last cs
  return (year ++ '-' :: month ++ '-' :: day, cs)

/-- Reads the fraction of a second, of which nine digits count. -/
def secondFraction : Scan (List Char)
  | '.' :: cs =>
    match cs.takeWhile Char.isDigit with
    | [] => none
    | ds =>
      let kept := ((ds.take 9).reverse.dropWhile (· = '0')).reverse
      some (if kept.isEmpty then [] else '.' :: kept, cs.drop ds.length)
  | _ => none

/-- Reads a time of day. -/
def time : Scan (List Char) :=
  inTurn [fixedNumber 2 0 23, mark [':'] ':', fixedNumber 2 0 59, mark [':'] ':',
    fixedNumber 2 0 60, fun cs => (secondFraction cs).or (some ([], cs))]

/-- Reads an offset from universal time. -/
def offset : Scan (List Char)
  | c :: cs =>
    if c = 'Z' || c = 'z' then some (['Z'], cs)
    else if c = '+' || c = '-' then
      (inTurn [fixedNumber 2 0 23, mark [':'] ':', fixedNumber 2 0 59] cs).map fun (s, rest) =>
        ((if s = "00:00".toList then '+' else c) :: s, rest)
    else none
  | [] => none

/-- Reads a moment. -/
def moment : Scan (List Char) := fun cs =>
  match date cs with
  | some (d, cs) =>
    match inTurn [mark ['T', 't', ' '] 'T', time] cs with
    | some (t, cs) =>
      match offset cs with
      | some (o, cs) => some (d ++ t ++ o, cs)
      | none => some (d ++ t, cs)
    | none => some (d, cs)
  | none => time cs

end TypedConfig.Toml
