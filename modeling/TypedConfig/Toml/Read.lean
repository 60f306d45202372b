import TypedConfig.Toml.Value

/-!
Reading a TOML text. A text is a list of statements, one a line: a header opens a table, a double
header opens one more table of an array, and an assignment adds to the table opened last.
-/

namespace TypedConfig.Toml

/-- What a line says. -/
inductive Statement where
  | header (path : List String)
  | element (path : List String)
  | assignment (path : List String) (d : Document)
  deriving Inhabited

/-- Reads what a line says, without the end of the line. -/
def statement (bound : Nat) : Scan Statement
  | '[' :: '[' :: cs => do
    match ← key cs with
    | (path, ']' :: ']' :: rest) => return (.element path, rest)
    | _ => none
  | '[' :: cs => do
    match ← key cs with
    | (path, ']' :: rest) => return (.header path, rest)
    | _ => none
  | cs => Scan.map (fun (path, d) => .assignment path d) (assignment (value bound)) cs

/-- Reads the statements of a text of at most so many lines. -/
def statements (bound : Nat) : Nat → List Char → Option (List Statement)
  | 0, _ => none
  | lines + 1, cs =>
    match skipSpaces cs with
    | [] => some []
    | cs =>
      match restOfLine false cs with
      | some rest => statements bound lines rest
      | none => do
        let (s, cs) ← statement bound cs
        return s :: (← statements bound lines (← restOfLine false cs))

/-- The entries read so far, and the header of the table that is open. -/
structure Reading where
  opened : List String
  entries : Entries

/-- Changes the table above the last part of a path. -/
def Reading.atParent (r : Reading) (path : List String)
    (change : String → Entries → Option Entries) : Option Reading := do
  let name ← path.getLast?
  return ⟨path, ← r.entries.under path.dropLast (change name)⟩

/-- Does what a statement says. -/
def Reading.follow (r : Reading) : Statement → Option Reading
  | .header path => r.atParent path Entries.openTable
  | .element path => r.atParent path Entries.openElement
  | .assignment path d => do
    return { r with entries := ← r.entries.under r.opened (Entries.assign path d) }

/-- The text without a mark of byte order in front. -/
def dropMark : List Char → List Char
  | '\ufeff' :: cs => cs
  | cs => cs

/-- Reads a text as a table. -/
def read? (s : String) : Option Document := do
  let cs := dropMark s.toList
  let bound := cs.length + 1
  let r ← (← statements bound bound cs).foldlM Reading.follow ⟨[], []⟩
  return .table (Entries.toDocuments r.entries)

end TypedConfig.Toml
