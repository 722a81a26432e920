import RunCharts.Files.Path

/-! # The command line

Options may stand in front of the command and behind it; what is said behind it wins. Each option but the
log filters may be given once on either side. Everything behind `--` is an argument. -/

namespace RunCharts.CommandLine

structure Options where
  config : Option Files.Path := none
  outputDir : Option Files.Path := none
  logFilters : List String := []
  logFile : Option Files.Path := none
deriving DecidableEq, Repr

inductive CommandName where
  | bandwidth
  | cacheMisses
  | queryCacheMisses
  | cacheElements
  | countSize
deriving DecidableEq, Repr

def commandNames : List (String × CommandName) :=
  [("bandwidth", .bandwidth), ("cache-misses", .cacheMisses), ("query-cache-misses", .queryCacheMisses),
    ("cache-elements", .cacheElements), ("count-size", .countSize)]

/-- A command with its arguments and the options. -/
structure Invocation where
  command : CommandName
  arguments : List String
  options : Options
deriving DecidableEq, Repr

/-- What is done instead of running a command. -/
inductive Detour where
  /-- The help is shown. -/
  | help
  /-- The command line is refused. -/
  | refused
deriving DecidableEq, Repr

inductive OptionName where
  | config
  | outputDir
  | log
  | logFile
deriving DecidableEq, Repr

/-- What an argument is, by its form. -/
inductive Form where
  /-- The end of the options. -/
  | escape
  | help
  /-- An option, with its value if that is attached. -/
  | option (name : OptionName) (value : Option String)
  | unknownOption
  | plain (text : String)
deriving DecidableEq, Repr

def longOption? (name : List Char) : Option OptionName :=
  [("config", OptionName.config), ("output-dir", .outputDir), ("log", .log), ("log-file", .logFile)].lookup
    (String.ofList name)

def shortOption? (letter : Char) : Option OptionName :=
  [('c', OptionName.config), ('o', .outputDir), ('l', .log)].lookup letter

/-- The form of an argument. A value is attached to a long name by an equals sign, and to a letter with or
without one; a lone dash is plain. -/
def Form.of (argument : String) : Form :=
  match argument.toList with
  | ['-', '-'] => escape
  | '-' :: '-' :: long =>
    let name := long.takeWhile (· ≠ '=')
    let value := match long.dropWhile (· ≠ '=') with
      | [] => none
      | _ :: value => some (String.ofList value)
    if name = "help".toList ∧ value = none then help
    else (longOption? name).elim unknownOption (option · value)
  | '-' :: letter :: rest =>
    let value := match rest with
      | [] => none
      | '=' :: value => some (String.ofList value)
      | value => some (String.ofList value)
    if letter = 'h' then help else (shortOption? letter).elim unknownOption (option · value)
  | _ => plain argument

/-- Sets an option. A path must not be empty, and only log filters may be given again. -/
def Options.set (options : Options) (name : OptionName) (value : String) : Except Detour Options :=
  let once (old : Option Files.Path) (set : Options) : Except Detour Options :=
    if old.isSome ∨ value = "" then .error .refused else .ok set
  match name with
  | .config => once options.config { options with config := value }
  | .outputDir => once options.outputDir { options with outputDir := value }
  | .logFile => once options.logFile { options with logFile := value }
  | .log => .ok { options with logFilters := options.logFilters ++ [value] }

/-- The options on both sides of the command. -/
def Options.behind (front back : Options) : Options where
  config := back.config <|> front.config
  outputDir := back.outputDir <|> front.outputDir
  logFilters := if back.logFilters.isEmpty then front.logFilters else back.logFilters
  logFile := back.logFile <|> front.logFile

/-- Whether a command may take one more argument, after those given. Directories and files have a name. -/
def CommandName.takes (command : CommandName) (given : List String) (argument : String) : Bool :=
  match command with
  | .bandwidth => argument ≠ ""
  | .countSize => given.isEmpty && argument ≠ ""
  | _ => true

/-- Adds an argument. -/
def Invocation.add (invocation : Invocation) (argument : String) : Except Detour Invocation :=
  if invocation.command.takes invocation.arguments argument then
    .ok { invocation with arguments := invocation.arguments ++ [argument] }
  else .error .refused

def readBehind (invocation : Invocation) : List String → Except Detour Invocation
  | [] => if invocation.arguments.isEmpty then .error .refused else .ok invocation
  | argument :: rest =>
    match Form.of argument with
    | .escape => do
      let invocation ← rest.foldlM Invocation.add invocation
      if invocation.arguments.isEmpty then .error .refused else .ok invocation
    | .help => .error .help
    | .unknownOption => .error .refused
    | .plain text => do readBehind (← invocation.add text) rest
    | .option name (some value) => do
      readBehind { invocation with options := ← invocation.options.set name value } rest
    | .option name none =>
      match rest with
      | [] => .error .refused
      | value :: rest =>
        match Form.of value with
        | .plain value => do readBehind { invocation with options := ← invocation.options.set name value } rest
        | _ => .error .refused

/-- Reads what follows the word `help`: the name of a command, or nothing. -/
def readHelp : List String → Detour
  | [] => .help
  | [name] => if name = "help" ∨ (commandNames.lookup name).isSome then .help else .refused
  | _ => .refused

/-- Reads the command and the options in front of it. -/
def readFront (options : Options) : List String → Except Detour Invocation
  | [] => .error .refused
  | argument :: rest =>
    match Form.of argument with
    | .escape | .unknownOption => .error .refused
    | .help => .error .help
    | .plain name =>
      if name = "help" then .error (readHelp rest)
      else match commandNames.lookup name with
        | none => .error .refused
        | some command => do
          let invocation ← readBehind ⟨command, [], {}⟩ rest
          return { invocation with options := options.behind invocation.options }
    | .option name (some value) => do readFront (← options.set name value) rest
    | .option name none =>
      match rest with
      | [] => .error .refused
      | value :: rest =>
        match Form.of value with
        | .plain value => do readFront (← options.set name value) rest
        | _ => .error .refused

/-- Reads a command line. -/
def Invocation.of (arguments : List String) : Except Detour Invocation := readFront {} arguments

end RunCharts.CommandLine
