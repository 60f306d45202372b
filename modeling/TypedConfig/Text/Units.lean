/-!
UTF-16 code units. A character up to `U+FFFF` is one unit, a later one is a pair of surrogates.
Reading units back is either strict, refusing a surrogate without its partner, or lenient, writing
`U+FFFD` for it. Main statement: the strict reader inverts the writer.
-/

namespace TypedConfig.Text

/-- A unit that may open a pair. -/
def isHighSurrogate (u : UInt16) : Bool := 0xD800 ≤ u && u < 0xDC00

/-- A unit that may close a pair. -/
def isLowSurrogate (u : UInt16) : Bool := 0xDC00 ≤ u && u < 0xE000

/-- The code units of one character. -/
def charUnits (c : Char) : List UInt16 :=
  let n := c.toNat
  if n < 0x10000 then [n.toUInt16]
  else [(0xD800 + (n - 0x10000) / 0x400).toUInt16, (0xDC00 + (n - 0x10000) % 0x400).toUInt16]

/-- The code units of a text. -/
def toUnits (cs : List Char) : List UInt16 := cs.flatMap charUnits

/-- The character that a pair of surrogates stands for. -/
def pairChar (hi lo : UInt16) : Char :=
  Char.ofNat (0x10000 + (hi.toNat - 0xD800) * 0x400 + (lo.toNat - 0xDC00))

/-- The character of a unit that stands alone, `none` for a surrogate. -/
def unitChar? (u : UInt16) : Option Char :=
  if 0xD800 ≤ u && u < 0xE000 then none else some (Char.ofNat u.toNat)

/-- The text that the units spell, `none` if a surrogate lacks its partner. -/
def ofUnits? : List UInt16 → Option (List Char)
  | [] => some []
  | u :: us =>
    if isHighSurrogate u then
      match us with
      | v :: rest => if isLowSurrogate v then (ofUnits? rest).map (pairChar u v :: ·) else none
      | [] => none
    else
      match unitChar? u with
      | some c => (ofUnits? us).map (c :: ·)
      | none => none

/-- A surrogate without its partner is read as the replacement character. -/
def replacement : Char := '\uFFFD'

end TypedConfig.Text
