import TypedConfig.Document

/-!
Tables of TOML while they are being read. A table knows how it came about, since that decides
whether it may still be added to: by its own header, on the way to the header of another table, or by
a key of several parts.
-/

namespace TypedConfig.Toml

/-- How a table came about. -/
inductive Origin where
  | header
  | passage
  | dotted
  deriving DecidableEq, Repr

/-- What a key stands for. -/
inductive Node where
  | value (d : Document)
  | table (origin : Origin) (entries : List (String × Node))
  | tables (elements : List (List (String × Node)))
  deriving Inhabited

/-- The entries of a table. -/
abbrev Entries := List (String × Node)

namespace Entries

/-- The entries with another node under a key. -/
def put (key : String) (n : Node) : Entries → Entries
  | [] => [(key, n)]
  | (k, m) :: rest => if k = key then (k, n) :: rest else (k, m) :: put key n rest

/-- Changes the table that a header leads to, and makes the tables that are missing on the way. Of an
array of tables the last is meant. -/
def under (entries : Entries) (path : List String) (change : Entries → Option Entries) :
    Option Entries :=
  match path with
  | [] => change entries
  | key :: rest =>
    match entries.lookup key with
    | none => (under [] rest change).map fun es => put key (.table .passage es) entries
    | some (.table origin es) =>
      (under es rest change).map fun es => put key (.table origin es) entries
    | some (.tables elements) =>
      match elements.getLast? with
      | none => none
      | some es =>
        (under es rest change).map fun es => put key (.tables (elements.dropLast ++ [es])) entries
    | some (.value _) => none

/-- Opens a table under a key. A table that has been opened before cannot be opened again. -/
def openTable (key : String) (entries : Entries) : Option Entries :=
  match entries.lookup key with
  | none => some (put key (.table .header []) entries)
  | some (.table .passage es) => some (put key (.table .header es) entries)
  | some _ => none

/-- Opens one more table in an array of tables. -/
def openElement (key : String) (entries : Entries) : Option Entries :=
  match entries.lookup key with
  | none => some (put key (.tables [[]]) entries)
  | some (.tables elements) => some (put key (.tables (elements ++ [[]])) entries)
  | some _ => none

/-- Adds a value under a key that is free. -/
def add (key : String) (d : Document) (entries : Entries) : Option Entries :=
  match entries.lookup key with
  | none => some (entries ++ [(key, .value d)])
  | some _ => none

/-- Gives a value to a key of several parts. The table that it goes to has to be one that such keys
have made. -/
def assign (path : List String) (d : Document) (entries : Entries) : Option Entries :=
  match path with
  | [] => none
  | [key] => add key d entries
  | key :: (next :: rest) =>
    let last := rest.isEmpty
    match entries.lookup key with
    | none =>
      (assign (next :: rest) d []).map fun es => put key (.table .dotted es) entries
    | some (.table .header _) => none
    | some (.table origin es) =>
      if last && origin != .dotted then none
      else (assign (next :: rest) d es).map fun es => put key (.table origin es) entries
    | some (.tables elements) =>
      match elements.getLast? with
      | none => none
      | some es =>
        if last then none
        else
          (assign (next :: rest) d es).map fun es =>
            put key (.tables (elements.dropLast ++ [es])) entries
    | some (.value _) => none

end Entries

mutual

/-- The document that a node is. -/
def Node.toDocument : Node → Document
  | .value d => d
  | .table _ entries => .table (Entries.toDocuments entries)
  | .tables elements => .list (Entries.listToDocuments elements)

/-- The entries of a table as documents. -/
def Entries.toDocuments : List (String × Node) → List (String × Document)
  | [] => []
  | (key, n) :: rest => (key, n.toDocument) :: Entries.toDocuments rest

/-- The tables of an array as documents. -/
def Entries.listToDocuments : List (List (String × Node)) → List Document
  | [] => []
  | entries :: rest => .table (Entries.toDocuments entries) :: Entries.listToDocuments rest

end

end TypedConfig.Toml
