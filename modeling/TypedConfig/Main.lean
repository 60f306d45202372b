import TypedConfig.CommandLine.Run
import TypedConfig.Files.Tree

/-!
The program. It looks up what a command may ask, runs the command, and carries out its effect.
-/

namespace TypedConfig.CommandLine

/-- The fault behind a failed operation. -/
def faultOf (e : IO.Error) : Files.Fault :=
  match e with
  | .noFileOrDirectory .. => .notFound
  | .alreadyExists .. => .alreadyExists
  | .permissionDenied .. => .permissionDenied
  | .inappropriateType _ code details | .invalidArgument _ code details
  | .resourceExhausted _ code details =>
    if code = 20 then .notADirectory
    else if code = 21 then .isADirectory
    else if code = 36 then .nameTooLong
    else if code = 40 then .tooManyLinks
    else .other code.toNat details
  | e => .other 0 (toString e)

/-- The answer of an operation, or the fault behind its failure. -/
def answerOf {α : Type} (action : IO α) : IO (Except Files.Fault α) :=
  try return .ok (← action) catch e => return .error (faultOf e)

/-- The bytes of a file. -/
def bytesOf (path : Path) : IO (Except Files.Fault (List UInt8)) :=
  answerOf do return (← IO.FS.readBinFile path.text).toList

/-- The text in bytes. -/
def textIn (bytes : List UInt8) : Except Files.Fault String :=
  match Files.textOfUtf8? bytes with
  | some s => .ok s
  | none => .error .notUtf8

/-- The directory that a path leads to. -/
def directoryOf (path : Path) : IO (Except Files.Fault Directory) :=
  answerOf do
    let real ← IO.FS.realPath path.text
    return ((Path.mk real.toString).directory?).getD ⟨[]⟩

/-- Nothing but files that are not there. -/
def nowhere : Outside where
  environment _ := none
  canonical _ := .error .notFound
  readText _ := .error .notFound
  readBytes _ := .error .notFound

/-- What can be asked about a file. -/
def aboutFile (environment : String → Option String) (file : Path) : IO Outside := do
  let bytes ← bytesOf file
  let directory ←
    match file.split? with
    | some (parent, _) => directoryOf (if parent.text == "" then ⟨"."⟩ else parent)
    | none => pure (.error .notFound)
  return ⟨environment, fun _ => directory, fun _ => bytes.bind textIn, fun _ => bytes⟩

/-- Looks up what a command may ask. -/
def lookUp : Command → IO Outside
  | .emit _ source _ _ => do
    let locator := (source.map Path.text).getD noSource
    let value ←
      match Source.Locator.default.namedVariable? locator with
      | some name => IO.getEnv name
      | none => pure none
    match Source.Locator.default.locate (fun _ => value) locator with
    | .file path => aboutFile (fun _ => value) path
    | .unresolved _ => return nowhere
  | .decode file _ _ => aboutFile (fun _ => none) file
  | .check file => aboutFile (fun _ => none) file

/-- Shows a run and gives its exit code. -/
def Shown.present (s : Shown) : IO UInt32 := do
  (← IO.getStdout).putStr s.output
  (← IO.getStderr).putStr s.errors
  return s.exit.toUInt32

/-- Runs the program. -/
def runProgram (args : List String) : IO UInt32 := do
  match Command.read args with
  | .error h => h.shown.present
  | .ok c =>
    let out := c.run (← lookUp c)
    let written ←
      match out.file? with
      | some (path, bytes) => answerOf (IO.FS.writeBinFile path.text ⟨bytes.toArray⟩)
      | none => pure (.ok ())
    (out.shown written).present

end TypedConfig.CommandLine

def main (args : List String) : IO UInt32 := TypedConfig.CommandLine.runProgram args
