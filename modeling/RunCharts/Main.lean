import RunCharts.CommandLine.Program

/-! # The command line on real files

What a command line names is taken from the disk into a store, the program runs on the store, and what it has
changed there is written back. -/

namespace RunCharts.CommandLine

open Files

def locationText (at_ : Location) : String := "/" ++ String.intercalate "/" at_

/-- What the disk holds at a location. A link is taken as one to the place it leads to in the end; one that
leads nowhere, and what is no file or directory, is left out. -/
def nodeOnDisk? (at_ : Location) : IO (Option Node) := do
  let file := (← IO.currentDir) / locationText at_
  match ← file.symlinkMetadata.toBaseIO with
  | .error _ => return none
  | .ok metadata =>
    match metadata.type with
    | .file => return some (.file (← IO.FS.readBinFile file).data.toList)
    | .dir => return some .dir
    | .other => return none
    | .symlink =>
      match ← (IO.FS.realPath file).toBaseIO with
      | .ok target => return some (.link target.toString)
      | .error _ => return none

def take (store : Store) (at_ : Location) : IO Store := do
  match store.node? at_ with
  | some _ => return store
  | none => return (← nodeOnDisk? at_).elim store (store.put at_)

/-- Takes the nodes on the way to a location without links. -/
def takeWay (store : Store) (at_ : Location) : IO Store :=
  (List.range at_.length).foldlM (fun store n => take store (at_.take (n + 1))) store

/-- Takes the nodes that steps lead through, and gives the location that they lead to. -/
def takeSteps (store : Store) (here : Location) : List String → IO (Store × Location)
  | [] => return (store, here)
  | name :: rest =>
    if name = "" ∨ name = "." then takeSteps store here rest
    else if name = ".." then takeSteps store here.dropLast rest
    else do
      let store ← take store (here ++ [name])
      match store.node? (here ++ [name]) with
      | some (.link target) =>
        let place := (Path.steps target).filter (· ≠ "")
        takeSteps (← takeWay store place) place rest
      | _ => takeSteps store (here ++ [name]) rest

/-- Takes what is below a location, at most `depth` names down. -/
def takeBelow : (depth : Nat) → Store → Location → IO Store
  | 0, store, _ => return store
  | depth + 1, store, at_ => do
    if store.node? at_ ≠ some .dir then return store
    let entries ← ((← IO.currentDir) / locationText at_).readDir
    entries.foldlM (fun store entry => do
      let (store, _) ← takeSteps store at_ [entry.fileName]
      takeBelow depth store (at_ ++ [entry.fileName])) store

def takePath (depth : Nat) (store : Store) (path : Path) : IO Store := do
  let (store, at_) ← takeSteps store (store.origin path) path.steps
  takeBelow depth store at_

/-- The number of names that a path can have at most. -/
def maxNames : Nat := 2048

/-- The directory in which the program was started. -/
def startStore : IO Store := do
  let start := (Path.steps (← IO.currentDir).toString).filter (· ≠ "")
  return { ← takeWay {} start with start }

/-- Takes what an invocation may read or write. The settings are taken first, for they name the output
directory. -/
def Invocation.takeAll (invocation : Invocation) : IO Store := do
  let options := invocation.options
  let store ← (options.config.toList ++ options.logFile.toList).foldlM (takePath 0) (← startStore)
  let store ← invocation.arguments.foldlM (takePath maxNames) store
  match options.settings store with
  | .error _ => return store
  | .ok settings => [settings.outputDir, settings.dataDir].foldlM (takePath 1) store

/-- Writes what has changed in a store back. A directory comes before what it holds. -/
def writeBack (before after : Store) : IO Unit :=
  after.nodes.forM fun (at_, node) => do
    if before.node? at_ ≠ some node then
      match node with
      | .file content => IO.FS.writeBinFile (locationText at_) ⟨content.toArray⟩
      | .dir => IO.FS.createDir (locationText at_)
      | .link _ => return

/-- Shows the notices that the log lets through, and adds them to the log file. Warnings always are. -/
def showNotices (options : Options) (notices : List Notice) : IO Unit := do
  let most := (options.logFilters.map fun filter => filterLevel filter.toList).foldl max 2
  let lines := (notices.filter fun notice => notice.level.number ≤ most).map Notice.line
  lines.forM IO.eprintln
  if let some path := options.logFile then
    let log ← IO.FS.Handle.mk path .append
    lines.forM log.putStrLn

end RunCharts.CommandLine

open RunCharts.CommandLine in
/-- Runs the program with its arguments on real files. -/
def main (arguments : List String) : IO UInt32 := do
  let invocation? := (Invocation.of arguments).toOption
  let store ← invocation?.elim (pure {}) Invocation.takeAll
  let (outcome, session) := program arguments { store }
  session.printed.forM IO.println
  writeBack store session.store
  if outcome ≠ .noLogFile then
    showNotices ((invocation?.map Invocation.options).getD {}) session.notices
  if let some text := outcome.report? then IO.eprintln text
  if outcome = .detour .refused then helpLines.forM IO.eprintln
  return UInt32.ofNat outcome.exitCode
