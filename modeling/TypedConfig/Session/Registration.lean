import TypedConfig.Files.Sandbox

/-!
Sessions with a watch registry alone: calls of it in a sandbox, one after the other.
-/

namespace TypedConfig.Session

open Files (Sandbox FileStep)
open Watch (Registry WatchError)

/-- One call. -/
inductive Call where
  | register (path : Path)
  | attach
  | detach
  | clear
  | watches (path : Path) (rooted : Bool)
  | refuse (path : Option Path)
  | file (step : FileStep)
  deriving Repr

/-- What a call answers. -/
inductive CallAnswer where
  | nothing
  | flag (b : Bool)
  | failed (e : WatchError)
  deriving Repr

/-- A registry in a sandbox. -/
structure Registration where
  registry : Registry
  world : Sandbox

namespace Registration

/-- An empty registry. -/
def new (world : Sandbox) : Registration := ⟨.empty, world⟩

/-- A path in the sandbox as an absolute one. -/
def rootedPath (world : Sandbox) (path : Path) : Path :=
  Path.join ⟨Watch.directoryText ⟨world.tree.home⟩⟩ path

/-- Carries out a call: its answer, the directories that the subscriber has been given in it, and
what comes of the registry. -/
def call (r : Registration) : Call → CallAnswer × List Directory × Registration
  | .register path =>
    let before := (r.registry.subscriber.getD []).length
    let (result, registry) := r.registry.register (Sandbox.surroundings.canonical r.world)
      (Sandbox.surroundings.subscribe r.world) path
    let given := (registry.subscriber.getD []).drop before
    match result with
    | .ok first => (.flag first, given, { r with registry })
    | .error e => (.failed e, given, { r with registry })
  | .attach =>
    match r.registry.attach (Sandbox.surroundings.subscribe r.world) with
    | (.ok (), registry) => (.nothing, registry.subscriber.getD [], { r with registry })
    | (.error e, registry) => (.failed e, [], { r with registry })
  | .detach => (.nothing, [], { r with registry := r.registry.detach })
  | .clear => (.nothing, [], { r with registry := r.registry.clear })
  | .watches path rooted =>
    (.flag (r.registry.watches (if rooted then rootedPath r.world path else path)), [], r)
  | .refuse path =>
    let refused := path.bind fun p =>
      (r.world.tree.canonical p).toOption.or (rootedPath r.world p).directory?
    (.nothing, [], { r with world := { r.world with refused } })
  | .file step => (.nothing, [], { r with world := r.world.apply step })

end Registration

end TypedConfig.Session
