import TypedConfig.Text.Escaped

/-!
Quoted text for messages. The enclosing quote, the backslash and four controls have short escapes;
every other character that is not plainly visible is written by its number, in lower-case
hexadecimal digits between braces, so that a message shows exactly which characters a text holds.
-/

namespace TypedConfig.Text

/-- A character by its number, such as `\u{a0}`. -/
def numberEscape (c : Char) : List Char :=
  ['\\', 'u', '\x7b'] ++ Nat.toDigits 16 c.toNat ++ ['\x7d']

/-- A character as it stands between two marks of the given kind. -/
def quotedChar (mark c : Char) : List Char :=
  if c = mark || c = '\\' then ['\\', c]
  else if c = '\n' then ['\\', 'n']
  else if c = '\r' then ['\\', 'r']
  else if c = '\t' then ['\\', 't']
  else if c.toNat = 0 then ['\\', '0']
  else if isEscaped c then numberEscape c
  else [c]

/-- A text between double quotes. -/
def quoted (s : String) : String :=
  String.ofList ('\x22' :: s.toList.flatMap (quotedChar '\x22') ++ ['\x22'])

/-- A character between single quotes. -/
def quotedMark (c : Char) : String :=
  String.ofList ('\x27' :: quotedChar '\x27' c ++ ['\x27'])

end TypedConfig.Text
