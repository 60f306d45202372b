import TypedConfig.Module.Message
import TypedConfig.Toml.Text

/-!
Writing TOML texts and keys. Of the forms that can hold a text, the plainest is taken: a basic text
without escapes, then a literal one, then either over several lines, and a basic text with escapes
only if nothing else will do.
-/

namespace TypedConfig.Toml

/-- Whether a control other than a tab and a line feed occurs, which only an escape can write. -/
def needsEscapes (cs : List Char) : Bool := cs.any fun c => c ≠ '\n' && !isPlain c

/-- The length of the longest run of a character, given the length of the run before. -/
def longestRun (c : Char) (run : Nat) : List Char → Nat
  | [] => run
  | d :: cs => if d = c then longestRun c (run + 1) cs else max run (longestRun c 0 cs)

/-- The form of a text. -/
inductive Form where
  | basic
  | literal
  | basicLines
  | literalLines
  deriving DecidableEq, Repr

/-- The plainest form of a text. -/
def Form.of (cs : List Char) : Form :=
  let escapes := needsEscapes cs
  let lines := cs.contains '\n'
  let backslash := cs.contains '\\'
  if !escapes && !backslash && !lines && longestRun '\x22' 0 cs = 0 then .basic
  else if !escapes && !lines && longestRun '\x27' 0 cs = 0 then .literal
  else if !escapes && !backslash && longestRun '\x22' 0 cs ≤ 2 then .basicLines
  else if !escapes && longestRun '\x27' 0 cs ≤ 2 then .literalLines
  else if lines then .basicLines
  else .basic

/-- Writes a character of a basic text, in which so many quotes have come just before and so many may
stand in a row. -/
def basicChar (lines : Bool) (quotes : Nat) (c : Char) : List Char :=
  if c = '\x22' then if quotes < (if lines then 2 else 0) then [c] else ['\\', c]
  else if c = '\\' then ['\\', '\\']
  else if c = '\x08' then ['\\', 'b']
  else if c = '\t' then ['\\', 't']
  else if c = '\n' then if lines then [c] else ['\\', 'n']
  else if c = '\x0c' then ['\\', 'f']
  else if c = '\r' then ['\\', 'r']
  else if isPlain c then [c]
  else ['\\', 'u'] ++ (Module.hexText 4 c.toNat).toList.map Char.toUpper

/-- Writes the characters of a basic text. -/
def basicChars (lines : Bool) (quotes : Nat) : List Char → List Char
  | [] => []
  | c :: cs =>
    let written := basicChar lines quotes c
    written ++ basicChars lines (if written = ['\x22'] then quotes + 1 else 0) cs

/-- The line feed that begins a text over several lines, if it holds one itself. -/
def opening (cs : List Char) : List Char := if cs.contains '\n' then ['\n'] else []

/-- Writes a text in a form. -/
def Form.write (f : Form) (cs : List Char) : List Char :=
  let double := List.replicate 3 '\x22'
  let single := List.replicate 3 '\x27'
  match f with
  | .basic => '\x22' :: basicChars false 0 cs ++ ['\x22']
  | .literal => '\x27' :: cs ++ ['\x27']
  | .basicLines => double ++ opening cs ++ basicChars true 0 cs ++ double
  | .literalLines => single ++ opening cs ++ cs ++ single

/-- Writes a text. -/
def writeText (s : String) : String := String.ofList ((Form.of s.toList).write s.toList)

/-- Writes a part of a key: bare, as a basic text without escapes, as a literal text, or as a basic
text. -/
def writeKey (s : String) : String :=
  let cs := s.toList
  if !cs.isEmpty && cs.all isKeyChar then s
  else
    match Form.of cs with
    | .literal => String.ofList (Form.literal.write cs)
    | _ => String.ofList (Form.basic.write cs)

/-- Writes an entry whose value has been written. -/
def writeEntry (name value : String) : String := writeKey name ++ " = " ++ value ++ "\n"

/-- Writes a truth value. -/
def writeBool (b : Bool) : String := if b then "true" else "false"

/-- Writes a header. -/
def writeHeader (path : List String) : String := "[" ++ ".".intercalate (path.map writeKey) ++ "]\n"

end TypedConfig.Toml
