import TypedConfig.Files.Fault
import TypedConfig.Path

/-!
The watch registry: which file names matter in which directories, and which directories the attached
subscriber has been given. A directory is subscribed when it is first registered or when a subscriber
is attached; a call that fails changes nothing.
-/

namespace TypedConfig.Watch

/-- Why files cannot be watched. -/
inductive WatchError where
  | notAFile (path : Path)
  | directory (path : Path) (fault : Files.Fault)
  | subscribe (directory : Directory) (reason : String)
  | create (reason : String)
  | noRuntime
  deriving DecidableEq, Repr

/-- A directory as an absolute path. -/
def directoryText (d : Directory) : String := "/" ++ "/".intercalate d.names

/-- The error in words. -/
def WatchError.message : WatchError → String
  | .notAFile path => path.text ++ " does not name a file"
  | .directory path fault => "cannot watch directory " ++ path.text ++ ": " ++ fault.message
  | .subscribe d reason => "failed to subscribe " ++ directoryText d ++ ": " ++ reason
  | .create reason => "failed to create file watcher: " ++ reason
  | .noRuntime => "file watching needs a Tokio runtime"

/-- The file names of interest in each directory, the directory registered first at the front. -/
abbrev Interests := List (Directory × List String)

/-- The registry. Readers see what has been published; the subscriber is known by the directories
that it has been given. -/
structure Registry where
  entries : Interests
  published : Interests
  subscriber : Option (List Directory)
  deriving DecidableEq, Repr

namespace Registry

/-- Nothing is registered and no subscriber is attached. -/
def empty : Registry := ⟨[], [], none⟩

/-- Adds a name to the names of a directory. -/
def addName (entries : Interests) (d : Directory) (name : String) : Interests :=
  match entries with
  | [] => [(d, [name])]
  | (e, names) :: rest =>
    if e = d then (e, if names.contains name then names else names ++ [name]) :: rest
    else (e, names) :: addName rest d name

/-- Whether a file name of a directory is among the entries. -/
def holds (entries : Interests) (d : Directory) (name : String) : Bool :=
  match entries.lookup d with
  | some names => names.contains name
  | none => false

/-- The directory and the name under which a file is registered. -/
def address (canonical : Path → Except Files.Fault Directory) (file : Path) :
    Except WatchError (Directory × String) :=
  match file.split? with
  | none => .error (.notAFile file)
  | some (parent, name) =>
    let parent : Path := if parent.text == "" then ⟨"."⟩ else parent
    match canonical parent with
    | .error fault => .error (.directory parent fault)
    | .ok directory => .ok (directory, name)

/-- Registers a file name of a directory, and tells whether the directory is new. A new directory is
given to the subscriber first, and nothing is registered if it refuses. -/
def insert (r : Registry) (subscribe : Directory → Except WatchError Unit) (d : Directory)
    (name : String) : Except WatchError Bool × Registry :=
  let first := (r.entries.lookup d).isNone
  let entries := addName r.entries d name
  let published := if holds r.entries d name then r.published else entries
  match r.subscriber with
  | some given =>
    if first then
      match subscribe d with
      | .error e => (.error e, r)
      | .ok () => (.ok true, ⟨entries, published, some (given ++ [d])⟩)
    else (.ok false, ⟨entries, published, some given⟩)
  | none => (.ok first, ⟨entries, published, none⟩)

/-- Registers a file, and tells whether its directory is new. -/
def register (r : Registry) (canonical : Path → Except Files.Fault Directory)
    (subscribe : Directory → Except WatchError Unit) (file : Path) :
    Except WatchError Bool × Registry :=
  match address canonical file with
  | .error e => (.error e, r)
  | .ok (d, name) => r.insert subscribe d name

/-- Gives directories to a new subscriber until it refuses one. -/
def subscribeAll (subscribe : Directory → Except WatchError Unit) :
    List Directory → Except WatchError Unit
  | [] => .ok ()
  | d :: rest =>
    match subscribe d with
    | .error e => .error e
    | .ok () => subscribeAll subscribe rest

/-- Attaches a new subscriber, which is given every directory registered so far. If it refuses one,
the old subscriber stays. -/
def attach (r : Registry) (subscribe : Directory → Except WatchError Unit) :
    Except WatchError Unit × Registry :=
  let directories := r.entries.map (·.1)
  match subscribeAll subscribe directories with
  | .error e => (.error e, r)
  | .ok () => (.ok (), { r with subscriber := some directories })

/-- Lets the subscriber go. -/
def detach (r : Registry) : Registry := { r with subscriber := none }

/-- Forgets every file and lets the subscriber go. -/
def clear (_ : Registry) : Registry := empty

/-- Whether nothing is registered. -/
def isEmpty (r : Registry) : Bool := r.published.isEmpty

/-- The registered directories. -/
def directories (r : Registry) : List Directory := r.published.map (·.1)

/-- Whether a path names a registered file in a registered directory. -/
def watches (r : Registry) (path : Path) : Bool :=
  match path.split? with
  | none => false
  | some (parent, name) =>
    match parent.directory? with
    | none => false
    | some d => holds r.published d name

end Registry

end TypedConfig.Watch
