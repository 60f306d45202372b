/-!
Reading TOML from left to right: blanks, comments and the ends of lines.
-/

namespace TypedConfig.Toml

/-- Reads something off the front of a text and gives what is left. -/
abbrev Scan (α : Type) := List Char → Option (α × List Char)

/-- Reads something and gives another form of it. -/
def Scan.map {α β : Type} (f : α → β) (scan : Scan α) : Scan β := fun cs =>
  (scan cs).map fun (a, rest) => (f a, rest)

/-- Reads in the first way that works. -/
def Scan.or {α : Type} (first second : Scan α) : Scan α := fun cs => (first cs).or (second cs)

/-- Whether a character is a space or a tab. -/
def isSpace (c : Char) : Bool := c = ' ' || c = '\t'

/-- Whether a character may stand in a comment: a tab, or anything but a control. -/
def isPlain (c : Char) : Bool := c = '\t' || (0x20 ≤ c.toNat && c.toNat ≠ 0x7F)

/-- What follows spaces and tabs. -/
def skipSpaces (cs : List Char) : List Char := cs.dropWhile isSpace

/-- Whether a line ends here: at a line feed, or at a carriage return that one follows. -/
def isLineEnd (c : Char) (rest : List Char) : Bool :=
  c = '\n' || (c = '\r' && rest.head? == some '\n')

/-- What follows the end of a line, before which only spaces and a comment may stand. -/
def restOfLine (comment : Bool) : List Char → Option (List Char)
  | [] => some []
  | c :: cs =>
    if c = '\n' then some cs
    else if isLineEnd c cs || isSpace c then restOfLine comment cs
    else if comment then if isPlain c then restOfLine true cs else none
    else if c = '#' then restOfLine true cs
    else none

/-- What follows spaces, comments and ends of lines. A comment has to end with its line. -/
def skipFiller (comment : Bool) : List Char → Option (List Char)
  | [] => if comment then none else some []
  | c :: cs =>
    if c = '\n' then skipFiller false cs
    else if isLineEnd c cs || isSpace c then skipFiller comment cs
    else if comment then if isPlain c then skipFiller true cs else none
    else if c = '#' then skipFiller true cs
    else some (c :: cs)

end TypedConfig.Toml
