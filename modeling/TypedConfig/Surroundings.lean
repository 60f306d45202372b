import TypedConfig.Watch.Registry

/-!
What a service asks of the world around it. The world is a value of any type; the service looks at
it and changes it only through these operations, and everything else may change it in between.
-/

namespace TypedConfig

/-- The operations on a world. -/
structure Surroundings (σ : Type) where
  /-- The value of an environment variable. -/
  environment : σ → String → Option String
  /-- The text of a file. -/
  readText : σ → Path → Except Files.Fault String
  /-- The absolute path without links of something that exists. -/
  canonical : σ → Path → Except Files.Fault Directory
  /-- Asks for the file events of a directory. -/
  subscribe : σ → Directory → Except Watch.WatchError Unit
  /-- Writes a file into a directory that is made if it is missing; a failure is not reported. -/
  dump : σ → Path → String → List UInt8 → σ

end TypedConfig
