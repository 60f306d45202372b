import TypedConfig.Text.Units

/-!
Escapes in properties text. A backslash gives the next character a meaning of its own; `\u` and four
hexadecimal digits give a UTF-16 unit, and units that stand side by side join into characters.
-/

namespace TypedConfig.Source

/-- One decoded item of escaped text. -/
inductive Piece where
  | char (c : Char)
  | unit (u : UInt16)
  deriving DecidableEq, Repr

/-- The value of a hexadecimal digit of either case. -/
def hexDigit? (c : Char) : Option Nat :=
  if c.isDigit then some (c.toNat - 48)
  else if 'a' ≤ c && c ≤ 'f' then some (c.toNat - 87)
  else if 'A' ≤ c && c ≤ 'F' then some (c.toNat - 55)
  else none

/-- The unit that four hexadecimal digits name. -/
def hexUnit? (a b c d : Char) : Option UInt16 := do
  let a ← hexDigit? a
  let b ← hexDigit? b
  let c ← hexDigit? c
  let d ← hexDigit? d
  return (((a * 16 + b) * 16 + c) * 16 + d).toUInt16

/-- The character that a backslash before `c` stands for. -/
def escapedChar (c : Char) : Char :=
  match c with
  | 't' => '\t'
  | 'n' => '\n'
  | 'r' => '\r'
  | 'f' => '\x0c'
  | c => c

/-- The items of an escaped text. A `\u` without four digits is kept as written, and a backslash at
the very end is dropped. -/
def pieces : List Char → List Piece
  | [] => []
  | '\\' :: 'u' :: a :: b :: c :: d :: rest =>
    match hexUnit? a b c d with
    | some u => .unit u :: pieces rest
    | none => .char '\\' :: .char 'u' :: pieces (a :: b :: c :: d :: rest)
  | '\\' :: 'u' :: rest => .char '\\' :: .char 'u' :: pieces rest
  | '\\' :: c :: rest => .char (escapedChar c) :: pieces rest
  | ['\\'] => []
  | c :: rest => .char c :: pieces rest

/-- The text of the items. A surrogate without its partner becomes `U+FFFD`. -/
def joinPieces : List Piece → List Char
  | [] => []
  | .char c :: rest => c :: joinPieces rest
  | .unit u :: .unit v :: rest =>
    if Text.isHighSurrogate u && Text.isLowSurrogate v then
      Text.pairChar u v :: joinPieces rest
    else (Text.unitChar? u).getD Text.replacement :: joinPieces (.unit v :: rest)
  | .unit u :: rest => (Text.unitChar? u).getD Text.replacement :: joinPieces rest

/-- The text that an escaped text stands for. -/
def unescape (cs : List Char) : List Char := joinPieces (pieces cs)

end TypedConfig.Source
