/-!
Paths as text. Segments are separated by slashes; empty segments and single dots count for nothing,
except a dot at the head of a relative path. Taking a path apart keeps the spelling of its parent.
-/

namespace TypedConfig

/-- A path, spelled as it was given. -/
structure Path where
  text : String
  deriving DecidableEq, Repr, Inhabited

/-- A directory by its one absolute path without links: the names on the way from the root. -/
structure Directory where
  names : List String
  deriving DecidableEq, Repr, Inhabited

namespace Path

/-- The pieces of a text between slashes. -/
def pieces : List Char → List (List Char)
  | [] => [[]]
  | c :: cs =>
    if c = '/' then [] :: pieces cs
    else
      match pieces cs with
      | [] => [[c]]
      | p :: ps => (c :: p) :: ps

/-- The segments of a text. -/
def segments (s : String) : List String := (pieces s.toList).map String.ofList

/-- Whether the path begins at the root. -/
def isAbsolute (p : Path) : Bool := p.text.toList.head? == some '/'

/-- The segments after the root, if the path begins there. -/
def body (p : Path) : List String :=
  if p.isAbsolute then (segments p.text).drop 1 else segments p.text

/-- Whether a segment counts for nothing. -/
def isIdle (segment : String) : Bool := segment == "" || segment == "."

/-- Segments without the idle ones at their end. The head of a relative path is kept if it is a
dot. -/
def dropIdle (absolute : Bool) (segs : List String) : List String :=
  match (segs.reverse.dropWhile isIdle).reverse with
  | [] => if !absolute && segs.head? == some "." then ["."] else []
  | kept => kept

/-- The path with the given segments. -/
def ofSegments (absolute : Bool) (segs : List String) : Path :=
  ⟨(if absolute then "/" else "") ++ "/".intercalate segs⟩

/-- The parent and the name of a path that ends in a name, `none` if it ends in the root, in a dot
or in two dots. -/
def split? (p : Path) : Option (Path × String) :=
  let segs := dropIdle p.isAbsolute p.body
  match segs.getLast? with
  | none => none
  | some last =>
    if last == ".." || last == "." then none
    else some (ofSegments p.isAbsolute (dropIdle p.isAbsolute segs.dropLast), last)

/-- The segments that count. -/
def components (p : Path) : List String :=
  match p.isAbsolute, p.body with
  | false, "." :: rest => "." :: rest.filter fun s => !isIdle s
  | _, segs => segs.filter fun s => !isIdle s

/-- The path without the last of its components, `none` if it has none. -/
def parent? (p : Path) : Option Path :=
  match p.components with
  | [] => none
  | segs => some (ofSegments p.isAbsolute segs.dropLast)

/-- The directory that an absolute path spells if no segment of it leads upwards. -/
def directory? (p : Path) : Option Directory :=
  let names := p.body.filter fun s => !isIdle s
  if p.isAbsolute && !names.contains ".." then some ⟨names⟩ else none

/-- A path taken relative to a base. An absolute path replaces the base; otherwise a slash is put
between the two unless the base is empty or ends in one. -/
def join (base path : Path) : Path :=
  if path.isAbsolute then path
  else if base.text == "" || base.text.toList.getLast? == some '/' then ⟨base.text ++ path.text⟩
  else ⟨base.text ++ "/" ++ path.text⟩

end Path

end TypedConfig
