import TypedConfig.Path

/-!
Source locators. A locator between two marker characters names a variable whose value is the real
path; any other locator is the path itself. Relative paths are taken from a base directory.
-/

namespace TypedConfig.Source

/-- The character that marks a variable unless a configuration says otherwise. -/
def defaultMarker : Char := '@'

/-- How locators are turned into paths. -/
structure Locator where
  marker : Char
  defined : List (String × String)
  base : Option Path
  deriving DecidableEq, Repr

/-- The locator settings without variables and without a base directory. -/
def Locator.default : Locator := ⟨defaultMarker, [], none⟩

/-- Where a locator leads. -/
inductive Located where
  | file (path : Path)
  | unresolved (variableName : String)
  deriving DecidableEq, Repr

namespace Locator

/-- The variable that a locator names, if the marker stands at both of its ends. -/
def namedVariable? (l : Locator) (locator : String) : Option String :=
  match locator.toList with
  | first :: rest =>
    if first = l.marker && rest.getLast? == some l.marker then
      some (String.ofList rest.dropLast)
    else none
  | [] => none

/-- The value of a variable: from the settings first, then from the environment. The empty name has
none. -/
def lookup (l : Locator) (environment : String → Option String) (name : String) : Option String :=
  if name == "" then none
  else (l.defined.lookup name).or (environment name)

/-- A path taken from the base directory, if there is one. -/
def anchor (l : Locator) (path : Path) : Path :=
  match l.base with
  | some base => base.join path
  | none => path

/-- Where a locator leads. -/
def locate (l : Locator) (environment : String → Option String) (locator : String) : Located :=
  match l.namedVariable? locator with
  | none => .file (l.anchor ⟨locator⟩)
  | some name =>
    match l.lookup environment name with
    | some value => .file (l.anchor ⟨value⟩)
    | none => .unresolved name

end Locator

end TypedConfig.Source
