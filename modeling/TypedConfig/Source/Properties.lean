import TypedConfig.Source.Escape
import TypedConfig.Text.Blank
import TypedConfig.Text.Lines

/-!
Properties files: one `key=value` entry a line. Lines that are blank or begin with `#` or `!` are
skipped, a backslash at the end of a line joins the next line to it, and of two entries with one key
the later counts.
-/

namespace TypedConfig.Source

/-- The entries of a properties file, in file order. -/
structure Properties where
  entries : List (String × String)
  deriving DecidableEq, Repr, Inhabited

namespace Properties

/-- No entries. -/
def empty : Properties := ⟨[]⟩

/-- The value of a key: that of its last entry. -/
def get? (p : Properties) (key : String) : Option String :=
  (p.entries.reverse.find? fun e => e.1 == key).map (·.2)

/-- The entries that count, in the order of their keys. -/
def sorted (p : Properties) : List (String × String) :=
  let keys := (p.entries.map (·.1)).eraseDups
  let listed := keys.filterMap fun key => (p.get? key).map fun value => (key, value)
  listed.mergeSort fun a b => !(b.1 < a.1)

end Properties

/-- Whether a line without its leading white space holds no entry. -/
def isSkipped : List Char → Bool
  | [] => true
  | c :: _ => c = '#' || c = '!'

/-- Whether a line, given backwards, ends in an odd number of backslashes, so that the last one
escapes the line end. -/
def isContinued (backwards : List Char) : Bool :=
  (backwards.takeWhile (· = '\\')).length % 2 = 1

/-- The logical lines. The first argument is what earlier lines have left open, backwards; its last
backslash has been dropped. -/
def logicalLines : Option (List Char) → List (List Char) → List (List Char)
  | none, [] => []
  | some opened, [] => [opened.reverse]
  | none, line :: rest =>
    let line := Text.trimStart line
    if isSkipped line then logicalLines none rest
    else if isContinued line.reverse then logicalLines (some line.reverse.tail) rest
    else line :: logicalLines none rest
  | some opened, line :: rest =>
    let joined := (Text.trimStart line).reverse ++ opened
    if isContinued joined then logicalLines (some joined.tail) rest
    else joined.reverse :: logicalLines none rest

/-- Whether a character ends a key. -/
def endsKey (c : Char) : Bool := c = '=' || c = ':' || Text.isBlank c

/-- A logical line cut before the first unescaped character that ends a key. -/
def cutKey : List Char → List Char × List Char
  | [] => ([], [])
  | '\\' :: c :: rest =>
    let (key, after) := cutKey rest
    ('\\' :: c :: key, after)
  | c :: rest =>
    if endsKey c then ([], c :: rest)
    else
      let (key, after) := cutKey rest
      (c :: key, after)

/-- The raw value in what follows a key: one separator with white space around it is dropped. -/
def rawValue (after : List Char) : List Char :=
  match Text.trimStart after with
  | [] => []
  | c :: rest => if c = '=' || c = ':' then Text.trimStart rest else c :: rest

/-- The entry of a logical line. -/
def entry (line : List Char) : String × String :=
  let (key, after) := cutKey line
  (String.ofList (unescape key), String.ofList (unescape (rawValue after)))

/-- The entries of a properties text. -/
def Properties.ofLines (ls : List (List Char)) : Properties :=
  ⟨(logicalLines none ls).map entry⟩

/-- Reads a properties text. -/
def Properties.read (s : String) : Properties := .ofLines (Text.lines s.toList)

end TypedConfig.Source
