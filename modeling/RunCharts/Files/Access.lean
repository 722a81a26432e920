import RunCharts.Files.Resolve

/-! # Reading and writing files, making directories, walking

A walk visits a directory before what it holds, and siblings in the order of their names. It reports
files and links that lead to files; a link that leads to a directory is not entered, unless the walk
starts there. A path that is too long leads to no file, so what stands below a directory with such a path
is passed over; that a walk fails at a directory it cannot open is left out. -/

namespace RunCharts.Files

namespace Store

/-- The contents of the file that a path leads to. -/
def read (store : Store) (path : Path) : Except FileError (List UInt8) := do
  match ← store.stat path with
  | .file content => .ok content
  | .dir => .error .isADirectory
  | .link _ => .error .linkLoop

/-- Replaces the contents of the file that a path leads to, or makes the file. -/
def write (store : Store) (path : Path) (content : List UInt8) : Except FileError Store := do
  let at_ ← store.resolve path .make
  match store.node? at_ with
  | some .dir => .error .isADirectory
  | _ => .ok (store.put at_ (.file content))

/-- Makes an empty file, unless the path leads to a file already. -/
def touch (store : Store) (path : Path) : Except FileError Store := do
  let at_ ← store.resolve path .make
  match store.node? at_ with
  | some .dir => .error .isADirectory
  | some _ => .ok store
  | none => .ok (store.put at_ (.file []))

/-- The location that a path names. Its last name is not followed, whatever it stands for, and slashes behind
it say nothing; it must be a name of its own. -/
def entry (store : Store) (path : Path) : Except FileError Location := do
  path.check
  match (path.steps.filter (· ≠ "")).reverse with
  | [] => .error .alreadyExists
  | name :: above =>
    -- the empty step asks for a directory
    let dir ← store.walk .follow maxLinks (store.origin path) (above.reverse ++ [""])
    if name = "." ∨ name = ".." then .error .alreadyExists
    else if 255 < name.utf8ByteSize then .error .nameTooLong
    else .ok (dir ++ [name])

/-- Makes a directory or a link, where there is nothing yet. -/
def make (store : Store) (path : Path) (node : Node) : Except FileError Store := do
  let at_ ← store.entry path
  match store.node? at_ with
  | some _ => .error .alreadyExists
  | none => .ok (store.put at_ node)

def makeDir (store : Store) (path : Path) : Except FileError Store := store.make path .dir

/-- Takes what a path names away, with all that is below it. -/
def remove (store : Store) (path : Path) : Except FileError Store := do
  let at_ ← store.entry path
  match store.node? at_ with
  | some _ => .ok (store.erase at_)
  | none => .error .notFound

/-- Makes a directory whose path is the first one, and those of the paths above it that it needs. What was
made before a failure stays. -/
def makeDirsAlong (store : Store) : List Path → Store × Except FileError Unit
  | [] => (store, .ok ())
  | path :: above =>
    let settle (store : Store) : Store × Except FileError Unit :=
      match store.makeDir path with
      | .ok made => (made, .ok ())
      | .error error => (store, if store.isDir path then .ok () else .error error)
    -- only an entry without a directory to stand in sends one further up
    match store.makeDir path with
    | .error .notFound =>
      match store.makeDirsAlong above with
      | (made, .ok ()) => settle made
      | failed => failed
    | _ => settle store

/-- Makes a directory together with the missing ones above it. -/
def makeDirs (store : Store) (path : Path) : Store × Except FileError Unit :=
  store.makeDirsAlong path.ancestors

end Store

/-! ### The files below a directory -/

/-- The path of what the names lead to from `root`. -/
def Path.below (root : Path) (names : List String) : Path := names.foldl Path.join root

namespace Store

/-- The names that lead from a location to what a walk from there visits, itself first. -/
def visited (store : Store) (at_ : Location) : List (List String) := [] :: (store.below at_).map (·.1)

/-- The paths of the files of a walk that starts at `root`. -/
def files (store : Store) (root : Path) : Except FileError (List Path) := do
  let at_ ← store.resolve root
  match store.node? at_ with
  | none => .error .notFound
  | some _ => return ((store.visited at_).map (Path.below root)).filter store.isFile

end Store

end RunCharts.Files
