import TypedConfig.Toml.Scan

/-!
Texts and keys of TOML: basic texts with escapes, literal texts without, and both over several lines.
The readers begin after the opening quotes.
-/

namespace TypedConfig.Toml

/-- The value of a hexadecimal digit. -/
def hexDigit? (c : Char) : Option Nat :=
  if c.isDigit then some (c.toNat - 48)
  else if 'a' ≤ c && c ≤ 'f' then some (c.toNat - 87)
  else if 'A' ≤ c && c ≤ 'F' then some (c.toNat - 55)
  else none

/-- The character with the number that hexadecimal digits spell. -/
def numberedChar? (digits : List Char) : Option Char := do
  let n ← digits.foldlM (fun n c => (hexDigit? c).map fun d => n * 16 + d) 0
  if n.isValidChar then some (Char.ofNat n) else none

/-- The character that a short escape stands for. -/
def shortEscape? : Char → Option Char
  | 'b' => some '\x08'
  | 't' => some '\t'
  | 'n' => some '\n'
  | 'f' => some '\x0c'
  | 'r' => some '\r'
  | '\x22' => some '\x22'
  | '\\' => some '\\'
  | _ => none

/-- Puts a character in front of what has been read. -/
def push (c : Char) (r : Option (List Char × List Char)) : Option (List Char × List Char) :=
  r.map fun (text, rest) => (c :: text, rest)

/-- Puts a character that may be refused in front of what has been read. -/
def push? (c : Option Char) (r : Option (List Char × List Char)) :
    Option (List Char × List Char) :=
  match c with
  | some c => push c r
  | none => none

/-- Reads a basic text to its end. -/
def basicText : Scan (List Char)
  | [] => none
  | '\\' :: 'u' :: a :: b :: c :: d :: cs => push? (numberedChar? [a, b, c, d]) (basicText cs)
  | '\\' :: 'U' :: a :: b :: c :: d :: e :: f :: g :: h :: cs =>
    push? (numberedChar? [a, b, c, d, e, f, g, h]) (basicText cs)
  | '\\' :: c :: cs => push? (shortEscape? c) (basicText cs)
  | c :: cs =>
    if c = '\x22' then some ([], cs)
    else if c ≠ '\\' && isPlain c then push c (basicText cs)
    else none

/-- Reads a literal text to its end. -/
def literalText : Scan (List Char)
  | [] => none
  | c :: cs =>
    if c = '\x27' then some ([], cs)
    else if isPlain c then push c (literalText cs)
    else none

/-- The quotes that belong to a text over several lines although they stand at its end, after three
quotes have been read: two at most. -/
def closing (quote : Char) (cs : List Char) : List Char × List Char :=
  let extra := (cs.takeWhile (· = quote)).take 2
  (extra, cs.drop extra.length)

/-- Whether only spaces are left on the line. -/
def endsAhead : List Char → Bool
  | [] => false
  | c :: cs => isLineEnd c cs || (isSpace c && endsAhead cs)

/-- Reads a basic text over several lines to its end. A backslash at the end of a line drops all
blanks that follow; they are being dropped while `dropping` is set. -/
def basicLines (dropping : Bool) : Scan (List Char)
  | [] => none
  | c :: cs =>
    if dropping && (isSpace c || isLineEnd c cs) then basicLines true cs
    else if c = '\x22' then
      match cs with
      | '\x22' :: '\x22' :: rest => some (closing '\x22' rest)
      | cs => push c (basicLines false cs)
    else if c = '\\' then
      match cs with
      | 'u' :: a :: b :: c :: d :: rest =>
        push? (numberedChar? [a, b, c, d]) (basicLines false rest)
      | 'U' :: a :: b :: c :: d :: e :: f :: g :: h :: rest =>
        push? (numberedChar? [a, b, c, d, e, f, g, h]) (basicLines false rest)
      | e :: rest =>
        if endsAhead (e :: rest) then basicLines true (e :: rest)
        else push? (shortEscape? e) (basicLines false rest)
      | [] => none
    else if c = '\n' then push c (basicLines false cs)
    else if isLineEnd c cs then basicLines false cs
    else if isPlain c then push c (basicLines false cs)
    else none

/-- Reads a literal text over several lines to its end. -/
def literalLines : Scan (List Char)
  | [] => none
  | c :: cs =>
    if c = '\x27' then
      match cs with
      | '\x27' :: '\x27' :: rest => some (closing '\x27' rest)
      | cs => push c (literalLines cs)
    else if c = '\n' then push c (literalLines cs)
    else if isLineEnd c cs then literalLines cs
    else if isPlain c then push c (literalLines cs)
    else none

/-- What follows one end of a line, if there is one. -/
def dropLineEnd : List Char → List Char
  | '\r' :: '\n' :: cs => cs
  | '\n' :: cs => cs
  | cs => cs

/-- Reads a text of any form, with its quotes. -/
def quotedText : Scan (List Char)
  | '\x22' :: '\x22' :: '\x22' :: cs => basicLines false (dropLineEnd cs)
  | '\x22' :: cs => basicText cs
  | '\x27' :: '\x27' :: '\x27' :: cs => literalLines (dropLineEnd cs)
  | '\x27' :: cs => literalText cs
  | _ => none

/-! ### Keys -/

/-- Whether a character may stand in a key without quotes. -/
def isKeyChar (c : Char) : Bool := c.isAlphanum || c = '-' || c = '_'

/-- Reads one part of a key. -/
def keyPart : Scan String
  | '\x22' :: cs => Scan.map String.ofList basicText cs
  | '\x27' :: cs => Scan.map String.ofList literalText cs
  | cs =>
    match cs.takeWhile isKeyChar with
    | [] => none
    | part => some (String.ofList part, cs.dropWhile isKeyChar)

/-- How many parts a key has at most. -/
def maxParts : Nat := 79

/-- Reads a key of at most so many parts, with points between them. -/
def keyOfAtMost : Nat → Scan (List String)
  | 0, _ => none
  | n + 1, cs => do
    let (part, cs) ← keyPart (skipSpaces cs)
    match skipSpaces cs with
    | '.' :: cs =>
      let (parts, cs) ← keyOfAtMost n cs
      return (part :: parts, cs)
    | cs => return ([part], cs)

/-- Reads a key with the spaces around it. -/
def key : Scan (List String) := keyOfAtMost maxParts

end TypedConfig.Toml
