import TypedConfig.Path

/-!
Command lines. A command takes options, which have a name with two dashes and a value after it or
after an equals sign, switches without a value, and perhaps the path of a file. After two dashes
alone everything is a path.
-/

namespace TypedConfig.CommandLine

/-- The commands by name. -/
inductive CommandName where
  | emit
  | decode
  | check
  deriving DecidableEq, Repr

/-- What is asked for. -/
inductive Command where
  | emit (contract : String) (source : Option Path) (accessors : List String) (out : Option Path)
  | decode (file : Path) (contract : Option String) (json : Bool)
  | check (file : Path)
  deriving DecidableEq, Repr

/-- What help may be asked about: the program, a command, or the command `help` itself. -/
inductive Topic where
  | program
  | command (name : CommandName)
  | help
  deriving DecidableEq, Repr

/-- Why there is nothing to do. -/
inductive Halt where
  | usage
  | help (topic : Topic)
  deriving DecidableEq, Repr

/-- What an option takes. -/
inductive Takes where
  | nothing
  | text
  | texts
  | path
  deriving DecidableEq, Repr

/-- The options of a command, and whether it takes the path of a file. -/
structure Grammar where
  topic : Topic
  options : List (String × Takes)
  file : Bool

/-- The option that every command takes. -/
def logLevel : String × Takes := ("log-level", .text)

def Grammar.program : Grammar := ⟨.program, [logLevel], false⟩

def CommandName.grammar : CommandName → Grammar
  | .emit =>
    ⟨.command .emit,
      [logLevel, ("contract", .text), ("source", .path), ("accessor", .texts), ("out", .path)],
      false⟩
  | .decode => ⟨.command .decode, [logLevel, ("contract", .text), ("json", .nothing)], true⟩
  | .check => ⟨.command .check, [logLevel], true⟩

def CommandName.ofText? : String → Option CommandName
  | "emit" => some .emit
  | "decode" => some .decode
  | "check" => some .check
  | _ => none

/-- What has been read. -/
structure Given where
  options : List (String × String)
  files : List String
  deriving Repr

namespace Given

def none : Given := ⟨[], []⟩

/-- The value of an option. -/
def value? (g : Given) (name : String) : Option String := g.options.lookup name

/-- The values of an option that may be repeated. -/
def values (g : Given) (name : String) : List String :=
  (g.options.filter fun o => o.1 == name).map (·.2)

/-- Adds the value of an option. Only some options may be repeated, and a path is not empty. -/
def add (g : Given) (name : String) (takes : Takes) (value : String) : Except Halt Given :=
  if takes ≠ .texts && (g.value? name).isSome then .error .usage
  else if takes = .path && value == "" then .error .usage
  else .ok { g with options := g.options ++ [(name, value)] }

/-- Adds the path of a file where there may be one. -/
def addFile (g : Given) (l : Grammar) (file : String) : Except Halt Given :=
  if l.file && g.files.isEmpty && file != "" then .ok { g with files := [file] }
  else .error .usage

end Given

/-- Whether an argument is not the value of an option. A dash alone is one. -/
def looksLikeOption (arg : String) : Bool := arg.startsWith "-" && arg != "-"

/-- Reads arguments. In a program with commands the first argument that is no option ends them: it
names the command. -/
def readArguments (l : Grammar) (g : Given) : List String → Except Halt (Given × List String)
  | [] => .ok (g, [])
  | arg :: rest =>
    if arg == "--" then
      if l.topic = .program && !rest.isEmpty then .error .usage
      else do return (← rest.foldlM (fun g file => g.addFile l file) g, [])
    else if arg.startsWith "--" then
      let name := String.ofList ((arg.toList.drop 2).takeWhile (· ≠ '='))
      let attached := (arg.toList.drop 2).dropWhile (· ≠ '=')
      if name == "help" && attached.isEmpty then .error (.help l.topic)
      else
        match l.options.lookup name, attached, rest with
        | none, _, _ => .error .usage
        | some .nothing, [], rest =>
          if (g.value? name).isSome then .error .usage
          else readArguments l { g with options := g.options ++ [(name, "")] } rest
        | some .nothing, _, _ => .error .usage
        | some takes, _ :: value, rest =>
          match g.add name takes (String.ofList value) with
          | .ok g => readArguments l g rest
          | .error h => .error h
        | some _, [], [] => .error .usage
        | some takes, [], value :: rest =>
          if looksLikeOption value then .error .usage
          else
            match g.add name takes value with
            | .ok g => readArguments l g rest
            | .error h => .error h
    else if looksLikeOption arg then
      .error (if arg.startsWith "-h" then .help l.topic else .usage)
    else if l.topic = .program then .ok (g, arg :: rest)
    else
      match g.addFile l arg with
      | .ok g => readArguments l g rest
      | .error h => .error h

/-- The command that arguments spell. -/
def CommandName.command (name : CommandName) (g : Given) : Except Halt Command :=
  let path (name : String) : Option Path := (g.value? name).map Path.mk
  match name with
  | .emit =>
    match g.value? "contract", g.values "accessor" with
    | some contract, first :: others =>
      .ok (.emit contract (path "source") (first :: others) (path "out"))
    | _, _ => .error .usage
  | .decode =>
    match g.files with
    | [file] => .ok (.decode ⟨file⟩ (g.value? "contract") (g.value? "json").isSome)
    | _ => .error .usage
  | .check =>
    match g.files with
    | [file] => .ok (.check ⟨file⟩)
    | _ => .error .usage

/-- Reads what the command `help` is about. -/
def readHelp : List String → Halt
  | [] => .help .program
  | ["help"] => .help .help
  | [topic] =>
    match CommandName.ofText? topic with
    | some name => .help (.command name)
    | none => .usage
  | _ => .usage

/-- Reads a command line. -/
def Command.read (args : List String) : Except Halt Command := do
  match ← readArguments .program .none args with
  | (_, []) => .error .usage
  | (_, "help" :: rest) => .error (readHelp rest)
  | (_, name :: rest) =>
    match CommandName.ofText? name with
    | none => .error .usage
    | some name => name.command (← readArguments name.grammar .none rest).1

end TypedConfig.CommandLine
