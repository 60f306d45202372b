import TypedConfig.Text.Units

/-!
Modified UTF-8. Each UTF-16 unit is written by itself in one to three bytes, and the unit zero in
two, so that an encoding holds no zero byte. The reader also takes longer groups than needed.
-/

namespace TypedConfig.Module

/-- The group of bytes of one unit. -/
def encodeUnit (u : UInt16) : List UInt8 :=
  let n := u.toNat
  if 1 ≤ n ∧ n < 0x80 then [n.toUInt8]
  else if n < 0x800 then [(0xC0 + n / 64).toUInt8, (0x80 + n % 64).toUInt8]
  else [(0xE0 + n / 4096).toUInt8, (0x80 + n / 64 % 64).toUInt8, (0x80 + n % 64).toUInt8]

/-- The encoding of a text. -/
def encodeText (s : String) : List UInt8 := (Text.toUnits s.toList).flatMap encodeUnit

/-- Whether a byte stands alone. -/
def isSingle (b : UInt8) : Bool := 0 < b && b < 0x80

/-- Whether a byte opens a group of two. -/
def opensTwo (b : UInt8) : Bool := 0xC0 ≤ b && b < 0xE0

/-- Whether a byte opens a group of three. -/
def opensThree (b : UInt8) : Bool := 0xE0 ≤ b && b < 0xF0

/-- Whether a byte continues a group. -/
def continues (b : UInt8) : Bool := 0x80 ≤ b && b < 0xC0

/-- The units of an encoding, put in front of those already read in reverse. -/
def decodeUnits (acc : List UInt16) : List UInt8 → Option (List UInt16)
  | [] => some acc.reverse
  | a :: rest =>
    if isSingle a then decodeUnits (a.toUInt16 :: acc) rest
    else if opensTwo a then
      match rest with
      | b :: rest =>
        if continues b then
          decodeUnits (((a.toNat - 0xC0) * 64 + (b.toNat - 0x80)).toUInt16 :: acc) rest
        else none
      | [] => none
    else if opensThree a then
      match rest with
      | b :: c :: rest =>
        if continues b && continues c then
          let n := (a.toNat - 0xE0) * 4096 + (b.toNat - 0x80) * 64 + (c.toNat - 0x80)
          decodeUnits (n.toUInt16 :: acc) rest
        else none
      | _ => none
    else none

/-- The text of an encoding, `none` if the bytes are not grouped or the units not paired. -/
def decodeText? (bytes : List UInt8) : Option String :=
  match decodeUnits [] bytes with
  | some units => (Text.ofUnits? units).map String.ofList
  | none => none

end TypedConfig.Module
