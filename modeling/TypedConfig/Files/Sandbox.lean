import TypedConfig.Files.Tree
import TypedConfig.Surroundings
import TypedConfig.Watch.Loop

/-!
A sandbox: a tree of files with its working directory, environment variables, and a directory that
cannot be watched. It is a world for a service, and it is changed step by step.
-/

namespace TypedConfig.Files

/-- A world that holds all a service can see. -/
structure Sandbox where
  tree : Tree
  environment : List (String × String)
  refused : Option Directory
  deriving Repr

/-- A change from outside. -/
inductive FileStep where
  | write (path : Path) (bytes : List UInt8)
  | replace (path : Path) (bytes : List UInt8)
  | moveOut (path : Path)
  | remove (path : Path)
  | makeDirectory (path : Path)
  | link (path target : Path)
  | assign (name : String) (value : Option String)
  deriving DecidableEq, Repr

namespace Sandbox

/-- An empty sandbox with environment variables. -/
def new (environment : List (String × String)) : Sandbox :=
  ⟨.ofHome "sandbox", environment, none⟩

/-- What follows a text at the start of another. -/
def afterPrefix? : List Char → List Char → Option (List Char)
  | [], cs => some cs
  | _, [] => none
  | p :: ps, c :: cs => if p = c then afterPrefix? ps cs else none

/-- The value of an environment variable. Variables are stored as lines `name=value`, and a name is
sought at the start of a line up to an equals sign. -/
def valueOf? (b : Sandbox) (name : String) : Option String :=
  if name == "" || name.contains (Char.ofNat 0) then none
  else
    b.environment.findSome? fun (n, value) =>
      (afterPrefix? (name ++ "=").toList (n ++ "=" ++ value).toList).map String.ofList

/-- The variables with one of them set, or taken away. -/
def assigned (environment : List (String × String)) (name : String) (value : Option String) :
    List (String × String) :=
  let others := environment.filter fun v => v.1 != name
  match value with
  | some value => others ++ [(name, value)]
  | none => others

/-- The tree if a change of it worked, else as it was. -/
def keep (b : Sandbox) : Except Fault Tree → Sandbox
  | .ok tree => { b with tree }
  | .error _ => b

/-- Carries out a step. A step that cannot be carried out changes nothing. -/
def apply (b : Sandbox) : FileStep → Sandbox
  | .write path bytes => b.keep (b.tree.writeDeep path bytes)
  | .replace path bytes => b.keep (b.tree.replace path (.file bytes))
  | .moveOut path => b.keep (b.tree.remove path)
  | .remove path => b.keep (b.tree.remove path)
  | .makeDirectory path => { b with tree := (b.tree.makeDirectories path).2 }
  | .link path target => b.keep (b.tree.replace path (.link target))
  | .assign name value => { b with environment := assigned b.environment name value }

/-- The world of a service that runs in a sandbox. -/
def surroundings : Surroundings Sandbox where
  environment b name := b.valueOf? name
  readText b path := b.tree.readText path
  canonical b path := b.tree.canonical path
  subscribe b d := if b.refused = some d then .error (.create "refused") else .ok ()
  dump b directory name bytes :=
    let (result, tree) := b.tree.makeDirectories directory
    let b := { b with tree }
    match result with
    | .ok () => b.keep (tree.write (directory.join ⟨name⟩) bytes)
    | .error _ => b

/-! ### What a watcher reports -/

/-- What a step does to the name at the end of its path. -/
def changeOf (b : Sandbox) : FileStep → Option (Watch.Change × Path)
  | .write path _ => some (if (b.tree.read path).isOk then .modify else .create, path)
  | .replace path _ => some (.modify, path)
  | .moveOut path => some (.modify, path)
  | .remove path => some (.remove, path)
  | .makeDirectory path => some (.create, path)
  | .link path _ => some (.create, path)
  | .assign .. => none

/-- The directory and the name that a step changes, once it has been carried out. -/
def placeOf (b : Sandbox) (path : Path) : Option (Directory × String) :=
  match b.tree.split path with
  | .ok (directory, name) => some (⟨directory⟩, name)
  | .error _ => none

/-- What a watcher of some directories delivers for a step. -/
def deliveryOf (b : Sandbox) (given : List Directory) (step : FileStep) : Option Watch.Delivery := do
  let (change, path) ← b.changeOf step
  let (directory, name) ← (b.apply step).placeOf path
  if given.contains directory then
    some (.event ⟨change, [⟨Watch.directoryText directory ++ "/" ++ name⟩]⟩)
  else none

/-- The directories that a step takes away. -/
def lostWith (b : Sandbox) (given : List Directory) (step : FileStep) : List Directory :=
  match step with
  | .moveOut path | .remove path =>
    match b.placeOf path with
    | some (directory, name) =>
      given.filter fun d => (directory.names ++ [name]).isPrefixOf d.names
    | none => []
  | _ => []

/-- A directory as seen from the sandbox. -/
def shown (b : Sandbox) (d : Directory) : String :=
  if b.tree.home.isPrefixOf d.names then
    match d.names.drop b.tree.home.length with
    | [] => "."
    | names => "/".intercalate names
  else Watch.directoryText d

end Sandbox

end TypedConfig.Files
