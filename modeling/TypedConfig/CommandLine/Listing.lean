import TypedConfig.Decimal.Layout
import TypedConfig.Module.Activate
import TypedConfig.Module.Message

/-!
Modules as text: their bytes, their accessors line by line, and their accessors as JSON.
-/

namespace TypedConfig.CommandLine

open TypedConfig.Module (Loaded Slot hexText)
open Scalar (Value)

/-! ### Bytes -/

/-- How many bytes stand on a line. -/
def lineWidth : Nat := 16

/-- A list cut into pieces of sixteen; the bound is on the number of pieces. -/
def inLines (bytes : List UInt8) : Nat → List (List UInt8)
  | 0 => []
  | bound + 1 =>
    if bytes.isEmpty then []
    else bytes.take lineWidth :: inLines (bytes.drop lineWidth) bound

/-- Bytes in hexadecimal digits, sixteen a line. -/
def hexDump (bytes : List UInt8) : String :=
  String.join ((inLines bytes (bytes.length / lineWidth + 1)).map fun line =>
    " ".intercalate (line.map fun b => hexText 2 b.toNat) ++ "\n")

/-! ### Accessors -/

/-- The accessors of a module, a line each. -/
def listing (m : Loaded) : String :=
  m.typeName ++ " implements " ++ m.contract ++ "\n" ++
    String.join (m.slots.map fun s =>
      "  " ++ s.name ++ "() -> " ++ s.value.kind.typeName ++ " = " ++ s.value.display ++ "\n")

/-- A character of a JSON text. -/
def jsonChar (c : Char) : List Char :=
  if c = '\x22' || c = '\\' then ['\\', c]
  else if c = '\x08' then ['\\', 'b']
  else if c = '\t' then ['\\', 't']
  else if c = '\n' then ['\\', 'n']
  else if c = '\x0c' then ['\\', 'f']
  else if c = '\r' then ['\\', 'r']
  else if c.toNat < 0x20 then ['\\', 'u'] ++ (hexText 4 c.toNat).toList
  else [c]

/-- A text in JSON. -/
def jsonText (s : String) : String :=
  String.ofList ('\x22' :: s.toList.flatMap jsonChar ++ ['\x22'])

/-- A value in JSON. A number that is not finite is null. -/
def jsonValue : Value → String
  | .text s => jsonText s
  | .bool b => if b then "true" else "false"
  | .int32 n => String.ofList (Decimal.ofInt n.toInt)
  | .int64 n => String.ofList (Decimal.ofInt n.toInt)
  | .float64 bits =>
    ((Decimal.markedText? Decimal.binary64 Decimal.span64 bits.toNat).map String.ofList).getD "null"
  | .float32 bits =>
    ((Decimal.markedText? Decimal.binary32 Decimal.span32 bits.toNat).map String.ofList).getD "null"
  | .int16 n => String.ofList (Decimal.ofInt n.toInt)
  | .char c => jsonText (String.ofList [c])
  | .byte n => String.ofList (Decimal.ofInt n.toInt)

/-- The lines of a JSON block: a bracket, members with commas between them, and a bracket. A block
without members is on one line. -/
def block (opened closed : String) (members : List (List String)) : List String :=
  let rec inside : List (List String) → List String
    | [] => []
    | [last] => last
    | m :: rest =>
      (m.dropLast ++ (m.getLast?.map (· ++ ",")).toList) ++ inside rest
  if members.isEmpty then [opened ++ closed]
  else opened :: (inside members).map ("  " ++ ·) ++ [closed]

/-- A member of an object, whose value takes some lines. -/
def named (name : String) : List String → List String
  | [] => []
  | first :: rest => (jsonText name ++ ": " ++ first) :: rest

/-- The lines of an object. -/
def object (members : List (String × List String)) : List String :=
  block "\x7b" "\x7d" (members.map fun (name, value) => named name value)

/-- An accessor in JSON. -/
def slotLines (s : Slot) : List String :=
  object [("name", [jsonText s.name]),
    ("value", object [(s.value.kind.label, [jsonValue s.value])])]

/-- A module in JSON. It is the first and only instance. -/
def jsonListing (m : Loaded) : String :=
  "\n".intercalate (object [("id", ["1"]), ("type_name", [jsonText m.typeName]),
    ("contract", [jsonText m.contract]), ("slots", block "[" "]" (m.slots.map slotLines))]) ++ "\n"

end TypedConfig.CommandLine
