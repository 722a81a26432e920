import RunCharts.Analysis.Bandwidth
import RunCharts.Analysis.Cache
import RunCharts.CommandLine.Arguments
import RunCharts.CommandLine.LogFilter
import RunCharts.Settings.Read

/-! # The program

The command line is read first, then the log is set up, then the settings are read, and then the command
runs. The first of these that goes wrong ends the program. -/

namespace RunCharts.CommandLine

open Command

inductive Outcome where
  | success
  /-- Something went wrong, with its causes. -/
  | failed (causes : List String)
  | detour (detour : Detour)
  /-- The log file cannot be opened. -/
  | noLogFile
deriving DecidableEq, Repr

def Outcome.exitCode : Outcome → Nat
  | success | detour .help => 0
  | failed _ => 1
  | detour .refused => 2
  | noLogFile => 101

def Outcome.report? : Outcome → Option String
  | failed causes => some (report causes)
  | _ => none

def helpLines : List String :=
  ["Bar charts from experiment logs", "", "Commands:",
    "  bandwidth DIR ...                 Fetch reply bandwidth during and after startup",
    "  cache-misses NAME DIR ...         Cache misses per cache size limit",
    "  query-cache-misses NAME DIR ...   Cache misses per query cache time",
    "  cache-elements NAME DIR ...       Peak cached elements per cache size limit",
    "  count-size FILE                   Average and total fetch reply size of one client log",
    "", "Options:",
    "  -c, --config FILE      Settings",
    "  -o, --output-dir DIR   Directory of the charts",
    "  -l, --log FILTER       What is logged, such as `debug`",
    "      --log-file FILE    Also write the log to this file",
    "  -h, --help             Show this help"]

/-- Makes the log file, or leaves the one that is there; its directory is made if it is missing. -/
def openLogFile (session : Session) (path : Files.Path) (name : List Char) : Except Session Session :=
  let dir := match path.parent? with
    | none | some "" => "."
    | some dir => dir
  let file := Files.Path.join dir (String.ofList name)
  match session.store.touch file with
  | .ok store => .ok { session with store }
  | .error _ =>
    let (store, made) := session.store.makeDirs dir
    match made, store.touch file with
    | .ok _, .ok store => .ok { session with store }
    | _, _ => .error { session with store }

/-- The charts of named runs. -/
def runNamed (analysis : Analysis) (arguments : List String) (settings : Settings) : Command Unit := do
  let runs ← ofExcept ((RunDir.ofPairs arguments).mapError Fault.unpairedArgument)
  let _ ← analysis.run runs settings

/-- Prints the average and the total size of the fetch replies in a log. -/
def countSize (path : Files.Path) : Command Unit := do
  let sizes ← within (.reading path) (readReplySizes path)
  match sizes.average? with
  | none => refuse (.emptySampleSet (String.ofList Log.fetchReply))
  | some average =>
    print s!"Avg size: {Report.number average}"
    print s!"Tot size: {sizes.total}"

/-- Runs a command with its settings. -/
def Invocation.execute (invocation : Invocation) (settings : Settings) : Command Unit :=
  match invocation.command with
  | .bandwidth => do
    let _ ← Analysis.bandwidth.run (invocation.arguments.map fun path => ⟨none, path⟩) settings
  | .cacheMisses => runNamed Analysis.cacheMisses invocation.arguments settings
  | .queryCacheMisses => runNamed Analysis.queryCacheMisses invocation.arguments settings
  | .cacheElements => runNamed Analysis.cacheElements invocation.arguments settings
  | .countSize => invocation.arguments.forM countSize

def Options.settings (options : Options) (store : Files.Store) : Except Failure Settings := do
  let settings ← match options.config with
    | none => pure {}
    | some path => Settings.load store path
  return { settings with outputDir := options.outputDir.getD settings.outputDir }

/-- Runs a command behind its options. -/
def Invocation.run (invocation : Invocation) (session : Session) : Outcome × Session :=
  match invocation.options.settings session.store with
  | .error failure => (.failed failure.causes, session)
  | .ok settings =>
    match (invocation.execute settings).runOn session with
    | (.ok _, session) => (.success, session)
    | (.error failure, session) => (.failed failure.causes, session)

/-- Sets the log up and runs a command. -/
def Invocation.runLogged (invocation : Invocation) (session : Session) : Outcome × Session :=
  match invocation.options.logFilters.forM fun filter => checkLogFilter filter.toList with
  | .error error => (.failed error.causes, session)
  | .ok _ =>
    match invocation.options.logFile with
    | none => invocation.run session
    | some path =>
      match path.fileName? with
      | none => (.failed ["Log file path has no file name"], session)
      | some name =>
        match openLogFile session path name with
        | .error session => (.noLogFile, session)
        | .ok session => invocation.run session

/-- Runs the program with its arguments. -/
def program (arguments : List String) (session : Session) : Outcome × Session :=
  match Invocation.of arguments with
  | .ok invocation => invocation.runLogged session
  | .error .help => (.detour .help, { session with printed := session.printed ++ helpLines })
  | .error .refused => (.detour .refused, session)

end RunCharts.CommandLine
