import RunCharts.Files.Store

/-! # Where a path leads

A path is followed step by step from the root, if it is absolute, or else from the directory at which
relative paths start. Each step needs a directory to stand in. A link is replaced by the steps of its
target, at most 40 times in all. -/

namespace RunCharts.Files

/-- Why a file operation fails. -/
inductive FileError where
  | notFound
  | notADirectory
  | isADirectory
  | alreadyExists
  | nameTooLong
  | linkLoop
  /-- The path holds a NUL character. -/
  | nulInPath
  /-- The contents are not UTF-8. -/
  | notUtf8
deriving DecidableEq, Repr

def FileError.message : FileError → String
  | notFound => "No such file or directory (os error 2)"
  | notADirectory => "Not a directory (os error 20)"
  | isADirectory => "Is a directory (os error 21)"
  | alreadyExists => "File exists (os error 17)"
  | nameTooLong => "File name too long (os error 36)"
  | linkLoop => "Too many levels of symbolic links (os error 40)"
  | nulInPath => "file name contained an unexpected NUL byte"
  | notUtf8 => "stream did not contain valid UTF-8"

/-- What is done with the last name of a path. -/
inductive LastName where
  /-- A link is followed. -/
  | follow
  /-- A file is to be made there: a link is followed, and a slash behind the name is refused. -/
  | make
deriving DecidableEq, Repr

/-- Refuses the texts that are no path of any file: with a NUL, too long, or empty. -/
def Path.check (path : Path) : Except FileError Unit :=
  if path.contains '\x00' then .error .nulInPath
  else if 4096 ≤ path.utf8ByteSize then .error .nameTooLong
  else if path = "" then .error .notFound
  else .ok ()

namespace Store

/-- Follows steps from a location; `links` more links may be followed. Only the last name may be absent. -/
def walk (store : Store) (last : LastName) (links : Nat) (here : Location) :
    List String → Except FileError Location
  | [] => .ok here
  | name :: rest =>
    match store.node? here with
    | none => .error .notFound
    | some (.file _) | some (.link _) => .error .notADirectory
    | some .dir =>
      if name = "" ∨ name = "." then walk store last links here rest
      else if name = ".." then walk store last links here.dropLast rest
      -- a slash behind the name of a file that is to be made
      else if last = .make ∧ rest = [""] then .error .isADirectory
      else if 255 < name.utf8ByteSize then .error .nameTooLong
      else
        match store.node? (here ++ [name]), links with
        | some (.link _), 0 => .error .linkLoop
        | some (.link target), links + 1 =>
          walk store last links (if target.IsAbsolute then [] else here) (target.steps ++ rest)
        | _, links => walk store last links (here ++ [name]) rest
-- a link may add steps, but uses up one of the links
termination_by names => (links, names.length)

/-- The number of links that one path may lead through. -/
def maxLinks : Nat := 40

/-- The directory at which a path starts. -/
def origin (store : Store) (path : Path) : Location := if path.IsAbsolute then [] else store.start

/-- The location a path leads to; the location may be empty, but it stands in a directory. -/
def resolve (store : Store) (path : Path) (last : LastName := .follow) : Except FileError Location := do
  path.check
  store.walk last maxLinks (store.origin path) path.steps

/-- What a path leads to. -/
def stat (store : Store) (path : Path) : Except FileError Node := do
  match store.node? (← store.resolve path) with
  | none => .error .notFound
  | some node => .ok node

def exists? (store : Store) (path : Path) : Bool := (store.stat path).isOk

def isDir (store : Store) (path : Path) : Bool :=
  match store.stat path with
  | .ok .dir => true
  | _ => false

def isFile (store : Store) (path : Path) : Bool :=
  match store.stat path with
  | .ok (.file _) => true
  | _ => false

end Store

end RunCharts.Files
