import RunCharts.Files.Access

/-! # Which files of a run are read

A query selects files by name and may ask for a text in the path of the directory that holds them, the
path of the run as it was given included. -/

namespace RunCharts

/-- What the name of a file must be. -/
inductive NameRule where
  | exact (name : List Char)
  /-- The name ends with the given text. -/
  | ending (text : List Char)
deriving DecidableEq, Repr

def NameRule.admits : NameRule → List Char → Bool
  | exact name, given => given == name
  | ending text, given => text.isSuffixOf given

/-- Selects files by name and by the path of their directory. -/
structure FileQuery where
  name : NameRule
  /-- A text that must occur in the path of the directory. -/
  within : Option (List Char) := none
deriving DecidableEq, Repr

namespace FileQuery

/-- Whether the path of a directory passes the gate of the query. -/
def passes (query : FileQuery) (dir : Files.Path) : Bool :=
  query.within.all fun text => Text.occursIn text dir.toList

/-- Whether a query selects the file of the given path. -/
def selects (query : FileQuery) (path : Files.Path) : Bool :=
  path.fileName?.any query.name.admits && path.parent?.any query.passes

/-- The selected files below `root`, in the order of a walk. -/
def find (query : FileQuery) (store : Files.Store) (root : Files.Path) :
    Except Files.FileError (List Files.Path) :=
  (store.files root).map (·.filter query.selects)

end FileQuery

end RunCharts
