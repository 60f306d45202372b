import TypedConfig.Toml.Moment
import TypedConfig.Toml.Number
import TypedConfig.Toml.Table

/-!
Values of TOML. Arrays may spread over lines and hold comments; inline tables stay on their line.
-/

namespace TypedConfig.Toml

/-- The key under which a moment stands in a document, as a table of one entry. -/
def momentKey : String := "$__toml_private_datetime"

/-- Reads a truth value. -/
def bool : Scan Bool
  | 't' :: 'r' :: 'u' :: 'e' :: cs => some (true, cs)
  | 'f' :: 'a' :: 'l' :: 's' :: 'e' :: cs => some (false, cs)
  | _ => none

/-- Reads a value that holds no others. -/
def scalar : Scan Document :=
  (Scan.map (fun s => .text (String.ofList s)) quotedText).or <|
  (Scan.map .bool bool).or <|
  (Scan.map (fun s => .table [(momentKey, .text (String.ofList s))]) moment).or <|
  (Scan.map (fun _ => .fraction) float).or <|
  (Scan.map (fun _ => .fraction) notFinite).or <|
  Scan.map .integer integer

/-- Reads the members of an array and its closing bracket; a comma may follow the last one. The bound
is on the number of members. -/
def arrayItems (read : Scan Document) : Nat → Scan (List Document)
  | 0, _ => none
  | bound + 1, cs =>
    match skipFiller false cs with
    | none => none
    | some (']' :: rest) => some ([], rest)
    | some cs => do
      let (d, cs) ← read cs
      match ← skipFiller false cs with
      | ',' :: rest =>
        let (ds, rest) ← arrayItems read bound rest
        return (d :: ds, rest)
      | ']' :: rest => return ([d], rest)
      | _ => none

/-- Reads a key and its value. -/
def assignment (read : Scan Document) : Scan (List String × Document) := fun cs => do
  match ← key cs with
  | (path, '=' :: cs) =>
    let (d, cs) ← read (skipSpaces cs)
    return ((path, d), cs)
  | _ => none

/-- Reads the entries of an inline table and its closing brace, onto the entries before them. -/
def inlineEntries (read : Scan Document) : Nat → Entries → Scan Entries
  | 0, _, _ => none
  | bound + 1, entries, cs => do
    let ((path, d), cs) ← assignment read cs
    let entries ← entries.assign path d
    match skipSpaces cs with
    | ',' :: rest => inlineEntries read bound entries rest
    | '\x7d' :: rest => return (entries, rest)
    | _ => none

/-- Reads an inline table after its opening brace. -/
def inlineTable (read : Scan Document) (bound : Nat) : Scan Document := fun cs =>
  match skipSpaces cs with
  | '\x7d' :: rest => some (.table [], rest)
  | cs =>
    Scan.map (fun entries => .table (Entries.toDocuments entries)) (inlineEntries read bound [])
      cs

/-- How deep arrays and inline tables may be nested. -/
def maxDepth : Nat := 79

/-- Reads a value that is nested at most so deep. -/
def valueWithin (bound : Nat) : Nat → Scan Document
  | 0, cs => scalar cs
  | depth + 1, cs =>
    match cs with
    | '[' :: rest => Scan.map .list (arrayItems (valueWithin bound depth) bound) rest
    | '\x7b' :: rest => inlineTable (valueWithin bound depth) bound rest
    | cs => scalar cs

/-- Reads a value. -/
def value (bound : Nat) : Scan Document := valueWithin bound maxDepth

end TypedConfig.Toml
