import TypedConfig.Files.Fault
import TypedConfig.Path

/-!
A tree of files. Every item is stored under the names that lead to it from the root; a path is
followed name by name, through links, and every step but the last has to end in a directory.
-/

namespace TypedConfig.Files

/-- What stands at a place of the tree. -/
inductive Item where
  | file (bytes : List UInt8)
  | directory
  | link (target : Path)
  deriving DecidableEq, Repr

/-- A tree of files with a working directory. -/
structure Tree where
  items : List (List String × Item)
  home : List String
  deriving Repr

/-- The text that bytes in UTF-8 spell. -/
def textOfUtf8? (bytes : List UInt8) : Option String := String.fromUTF8? ⟨bytes.toArray⟩

namespace Tree

/-- A tree with an empty working directory below the root. -/
def ofHome (name : String) : Tree := ⟨[([name], .directory)], [name]⟩

/-- What stands at a place. -/
def find? (t : Tree) (place : List String) : Option Item :=
  if place.isEmpty then some .directory else t.items.lookup place

/-- The tree with an item at a place. -/
def put (t : Tree) (place : List String) (item : Item) : Tree :=
  { t with items := (t.items.filter fun e => e.1 != place) ++ [(place, item)] }

/-- The tree without a place and all that stands below it. -/
def erase (t : Tree) (place : List String) : Tree :=
  { t with items := t.items.filter fun e => !place.isPrefixOf e.1 }

/-- How many links a path may lead through. -/
def maxLinks : Nat := 40

/-- Where an absolute path starts, and where a relative one does. -/
def startOf (current : List String) (p : Path) : List String :=
  if p.isAbsolute then [] else current

/-- Follows segments from a place. Links are replaced by their targets, as long as there are not too
many. -/
def follow (t : Tree) (links : Nat) (current : List String) (todo : List String) :
    Except Fault (List String) :=
  match todo with
  | [] => .ok current
  | segment :: rest =>
    if t.find? current != some .directory then .error .notADirectory
    else if Path.isIdle segment then follow t links current rest
    else if segment == ".." then follow t links current.dropLast rest
    else if 255 < segment.utf8ByteSize then .error .nameTooLong
    else
      match t.find? (current ++ [segment]) with
      | none => .error .notFound
      | some (.link target) =>
        match links with
        | 0 => .error .tooManyLinks
        | n + 1 => follow t n (startOf current target) (target.body ++ rest)
      | some _ => follow t links (current ++ [segment]) rest
termination_by (links, todo.length)

/-- How long a path may be that the operating system is asked about. -/
def maxLength : Nat := 4095

/-- Refuses a path that cannot be asked about. -/
def askable (p : Path) : Except Fault Unit :=
  if p.text.contains (Char.ofNat 0) then .error .nulByte
  else if p.text.isEmpty then .error .notFound
  else if maxLength < p.text.utf8ByteSize then .error .nameTooLong
  else .ok ()

/-- The place that a path leads to. -/
def resolve (t : Tree) (p : Path) : Except Fault (List String) := do
  askable p
  t.follow maxLinks (startOf t.home p) p.body

/-- The one absolute path without links of what a path leads to. The path is taken apart before
anything is asked about it, so its length does not matter. -/
def canonical (t : Tree) (p : Path) : Except Fault Directory :=
  match askable p with
  | .error .nameTooLong | .ok () =>
    (t.follow maxLinks (startOf t.home p) p.body).map Directory.mk
  | .error e => .error e

/-- Whether a path leads to a directory. -/
def isDirectory (t : Tree) (p : Path) : Bool :=
  match t.resolve p with
  | .ok place => t.find? place == some .directory
  | .error _ => false

/-- The content of a file. -/
def read (t : Tree) (p : Path) : Except Fault (List UInt8) := do
  match t.find? (← t.resolve p) with
  | some (.file bytes) => .ok bytes
  | some .directory => .error .isADirectory
  | _ => .error .notFound

/-- The content of a file as text. -/
def readText (t : Tree) (p : Path) : Except Fault String := do
  match textOfUtf8? (← t.read p) with
  | some s => .ok s
  | none => .error .notUtf8

/-! ### The end of a path -/

/-- Where a path ends: in a directory that exists, or in a name that is sought in a directory,
perhaps with a slash after it. -/
inductive Ending where
  | directory (place : List String)
  | name (parent : List String) (name : String) (slash : Bool)
  deriving DecidableEq, Repr

/-- Follows segments from a place up to the last name, which may not exist. A link that the last name
stands for is followed if that is asked for and no slash comes after the name. -/
def ending (t : Tree) (through : Bool) (links : Nat) (current : List String) (todo : List String) :
    Except Fault Ending :=
  match todo with
  | [] => .ok (.directory current)
  | segment :: rest =>
    if t.find? current != some .directory then .error .notADirectory
    else if Path.isIdle segment then ending t through links current rest
    else if segment == ".." then ending t through links current.dropLast rest
    else if rest.all (· == "") then
      match t.find? (current ++ [segment]) with
      | some (.link target) =>
        if through && rest.isEmpty then
          match links with
          | 0 => .error .tooManyLinks
          | n + 1 => ending t through n (startOf current target) target.body
        else .ok (.name current segment (!rest.isEmpty))
      | _ => .ok (.name current segment (!rest.isEmpty))
    else if 255 < segment.utf8ByteSize then .error .nameTooLong
    else
      match t.find? (current ++ [segment]) with
      | none => .error .notFound
      | some (.link target) =>
        match links with
        | 0 => .error .tooManyLinks
        | n + 1 => ending t through n (startOf current target) (target.body ++ rest)
      | some _ => ending t through links (current ++ [segment]) rest
termination_by (links, todo.length)

/-- Where a path ends. -/
def endOf (t : Tree) (through : Bool) (p : Path) : Except Fault Ending := do
  askable p
  t.ending through maxLinks (startOf t.home p) p.body

/-! ### Changes -/

/-- Writes a file whose directory exists. -/
def write (t : Tree) (p : Path) (bytes : List UInt8) : Except Fault Tree := do
  match ← t.endOf true p with
  | .directory _ => .error .isADirectory
  | .name parent name slash =>
    if slash then .error .isADirectory
    else if 255 < name.utf8ByteSize then .error .nameTooLong
    else if t.find? (parent ++ [name]) == some .directory then .error .isADirectory
    else .ok (t.put (parent ++ [name]) (.file bytes))

/-- Makes a directory whose parent exists. -/
def makeDirectory (t : Tree) (p : Path) : Except Fault Tree := do
  match ← t.endOf false p with
  | .directory _ => .error .alreadyExists
  | .name parent name _ =>
    if 255 < name.utf8ByteSize then .error .nameTooLong
    else if (t.find? (parent ++ [name])).isSome then .error .alreadyExists
    else .ok (t.put (parent ++ [name]) .directory)

/-- Makes a directory unless it is there, after something else has been made if its parent is
missing. What has been made stays, whether or not all of it could be made. -/
def ensure (t : Tree) (p : Path) (before : Tree → Except Fault Unit × Tree) :
    Except Fault Unit × Tree :=
  let make (t : Tree) : Except Fault Unit × Tree :=
    match t.makeDirectory p with
    | .ok made => (.ok (), made)
    | .error e => (if t.isDirectory p then .ok () else .error e, t)
  match make t with
  | (.error .notFound, t) =>
    match before t with
    | (.ok (), t) => make t
    | failed => failed
  | done => done

/-- Makes the missing ones among the directories on a way, which is given by its segments from the
last to the first. -/
def ensureWay (absolute : Bool) (t : Tree) : List String → Except Fault Unit × Tree
  | [] => (.ok (), t)
  | segment :: above =>
    t.ensure (Path.ofSegments absolute (segment :: above).reverse) fun t =>
      ensureWay absolute t above

/-- Makes a directory and its missing parents. The empty path asks for nothing. -/
def makeDirectories (t : Tree) (p : Path) : Except Fault Unit × Tree :=
  match p.components.reverse with
  | [] => (.ok (), t)
  | _ :: above => t.ensure p fun t => ensureWay p.isAbsolute t above

/-- Makes the missing parents of a path. -/
def makeParents (t : Tree) (p : Path) : Except Fault Unit × Tree :=
  match p.parent? with
  | some parent => t.makeDirectories parent
  | none => (.ok (), t)

/-- Writes a file and makes its missing directories. -/
def writeDeep (t : Tree) (p : Path) (bytes : List UInt8) : Except Fault Tree :=
  let (result, t) := t.makeParents p
  result.bind fun _ => t.write p bytes

/-- Puts an item in the place of what a path names, unless that is a directory; a link is not
followed. -/
def replace (t : Tree) (p : Path) (item : Item) : Except Fault Tree := do
  let (result, t) := t.makeParents p
  result
  match ← t.endOf false p with
  | .directory _ => .error .isADirectory
  | .name parent name _ =>
    if t.find? (parent ++ [name]) == some .directory then .error .isADirectory
    else .ok (t.put (parent ++ [name]) item)

/-- The directory and the name that a path ends in. -/
def split (t : Tree) (p : Path) : Except Fault (List String × String) := do
  match ← t.endOf false p with
  | .directory _ => .error .isADirectory
  | .name parent name _ => .ok (parent, name)

/-- Takes away what a path names, with all that stands below it; a link is not followed. -/
def remove (t : Tree) (p : Path) : Except Fault Tree := do
  let (directory, name) ← t.split p
  return t.erase (directory ++ [name])

/-- The names and contents of the files in a directory. -/
def filesIn (t : Tree) (p : Path) : Except Fault (List (String × List UInt8)) := do
  let place ← t.resolve p
  if t.find? place != some .directory then .error .notADirectory
  return t.items.filterMap fun (names, item) =>
    match item, names.getLast? with
    | .file bytes, some name => if names.dropLast = place then some (name, bytes) else none
    | _, _ => none

end Tree

end TypedConfig.Files
