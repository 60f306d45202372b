import TypedConfig.CommandLine.Arguments

/-!
The help texts.
-/

namespace TypedConfig.CommandLine

/-- What is said after a command line that cannot be read. -/
def usageHint : String := "error: unexpected or missing arguments\n\nFor more information, try '--help'.\n"

/-- Lines of two columns, the second aligned. -/
def columns (rows : List (String × String)) : String :=
  let width := (rows.map fun r => r.1.length).foldl max 0
  String.join (rows.map fun (name, about) =>
    "  " ++ name ++ String.ofList (List.replicate (width - name.length + 2) ' ') ++ about ++ "\n")

def logLevelRow : String × String :=
  ("    --log-level <LOG_LEVEL>", "Log filter (overridden by RUST_LOG)")

def helpRow : String × String := ("-h, --help", "Print help")

/-- What a command is for. -/
def CommandName.about : CommandName → String
  | .emit => "Resolve a contract against a source file and emit its module"
  | .decode => "Verify a module file and print its dispatch table"
  | .check => "Validate a service configuration file"

/-- What the command `help` is for. -/
def helpAbout : String := "Print this message or the help of the given subcommand(s)"

def programHelp : String :=
  "Emit and inspect configuration capability modules\n\n" ++
  "Usage: capconf [OPTIONS] <COMMAND>\n\nCommands:\n" ++
  columns [("emit", CommandName.emit.about), ("decode", CommandName.decode.about),
    ("check", CommandName.check.about),
    ("help", helpAbout)] ++
  "\nOptions:\n" ++ columns [logLevelRow, helpRow]

/-- The help for a command. -/
def CommandName.help (name : CommandName) : String :=
  name.about ++ "\n\n" ++
  match name with
  | .emit =>
    "Usage: capconf emit [OPTIONS] --contract <CONTRACT> --accessor <ACCESSORS>\n\nOptions:\n" ++
    columns [
      ("    --contract <CONTRACT>", "Contract type name, e.g. app::FeatureFlags"),
      logLevelRow,
      ("    --source <SOURCE>", "Properties file to resolve against (defaults only when omitted)"),
      ("    --accessor <ACCESSORS>", "Accessor as name:kind:key:default, e.g. flag:bool:f:false"),
      ("    --out <OUT>", "Write module bytes here instead of hex to stdout"), helpRow]
  | .decode =>
    "Usage: capconf decode [OPTIONS] <FILE>\n\nArguments:\n" ++ columns [("<FILE>", "")] ++
    "\nOptions:\n" ++
    columns [
      ("    --contract <CONTRACT>", "Require the module to implement this contract"),
      logLevelRow, ("    --json", ""), helpRow]
  | .check =>
    "Usage: capconf check [OPTIONS] <CONFIG>\n\nArguments:\n" ++ columns [("<CONFIG>", "")] ++
    "\nOptions:\n" ++ columns [logLevelRow, helpRow]

/-- The help for the command `help`. -/
def helpHelp : String :=
  helpAbout ++ "\n\nUsage: capconf help [COMMAND]...\n\nArguments:\n" ++
  columns [("[COMMAND]...", "Print help for the subcommand(s)")]

/-- The help for a topic. -/
def helpText : Topic → String
  | .program => programHelp
  | .command name => name.help
  | .help => helpHelp

end TypedConfig.CommandLine
