import RunCharts.Analysis.Notice
import RunCharts.Failure
import RunCharts.FileQuery
import RunCharts.Files.Access

/-! # Commands

A command reads and writes the file store, prints lines and notes what it does. What it did before a failure
stays done. -/

namespace RunCharts

/-- What a command works on and leaves behind. -/
structure Session where
  store : Files.Store
  /-- The printed lines. -/
  printed : List String := []
  notices : List Notice := []

/-- A command that gives an `α` or fails. -/
abbrev Command (α : Type) := ExceptT Failure (StateM Session) α

namespace Command

def runOn {α : Type} (command : Command α) (session : Session) : Except Failure α × Session :=
  StateT.run (ExceptT.run command) session

/-- The store as it is now. -/
def store : Command Files.Store := return (← get).store

def print (line : String) : Command Unit :=
  modify fun session => { session with printed := session.printed ++ [line] }

def note (notice : Notice) : Command Unit :=
  modify fun session => { session with notices := session.notices ++ [notice] }

def refuse {α : Type} (fault : Fault) : Command α := throw (.fault fault)

/-- Goes on with a result, or fails with its fault. -/
def ofExcept {α : Type} : Except Fault α → Command α
  | .ok value => return value
  | .error fault => refuse fault

/-- Says what was being done, if a command fails. -/
def within {α : Type} (context : Context) (command : Command α) : Command α :=
  tryCatch command fun failure => throw (.within context failure)

def readFile (path : Files.Path) : Command (List UInt8) := do
  ofExcept (((← store).read path).mapError (Fault.file path))

/-- Replaces the contents of a file, or makes the file. -/
def writeFile (path : Files.Path) (content : List UInt8) : Command Unit := do
  match (← store).write path content with
  | .ok store => modify fun session => { session with store }
  | .error error => refuse (.file path error)

/-- Makes a directory, and those above it, unless there is something in its place. -/
def ensureDir (path : Files.Path) : Command Unit := do
  let before ← store
  if before.exists? path then return
  let (store, result) := before.makeDirs path
  modify fun session => { session with store }
  ofExcept (result.mapError (Fault.file path))

/-- The selected files of a run. A run that does not exist has none. -/
def findFiles (query : FileQuery) (run : Files.Path) : Command (List Files.Path) := do
  match query.find (← store) run with
  | .ok files =>
    files.forM fun file => note (.found file)
    return files
  | .error .notFound =>
    note (.runMissing run)
    return []
  | .error error => refuse (.file run error)

end Command

end RunCharts
