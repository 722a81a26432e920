import RunCharts.Text.Split

/-! # Path texts

A path is kept as the text it was given as. Its parts stand between slashes; empty parts and `.` say
nothing, except for a `.` in front of a relative path. The functions here look at the text alone. Names that
are not UTF-8 have no text and are left out. -/

namespace RunCharts.Files

/-- The text of a path. -/
abbrev Path := String

namespace Path

/-- What stands between the slashes. -/
def parts (path : Path) : List (List Char) := Text.fields '/' path.toList

/-- A path that starts at the root. -/
def IsAbsolute (path : Path) : Prop := path.toList.head? = some '/'

instance (path : Path) : Decidable path.IsAbsolute := inferInstanceAs (Decidable (_ = _))

/-- The parts behind the first one, without those at the end that say nothing. -/
def trimBehind : List (List Char) → List (List Char)
  | [] => []
  | part :: rest =>
    match trimBehind rest with
    | [] => if part = [] ∨ part = ['.'] then [] else [part]
    | kept => part :: kept

/-- The parts without those at the end that say nothing. -/
def trimParts : List (List Char) → List (List Char)
  | [] => []
  | first :: rest =>
    match trimBehind rest with
    | [] => if first = [] then [] else [first]
    | kept => first :: kept

/-- The text with the given parts. -/
def ofParts (parts : List (List Char)) : Path := String.ofList (['/'].intercalate parts)

/-- The name of the file or directory: the last part that says something, unless it is `.` or `..`. -/
def fileName? (path : Path) : Option (List Char) :=
  (trimParts path.parts).getLast?.filter fun name => name ≠ ['.'] ∧ name ≠ ['.', '.']

/-- The text in front of the last part that says something. -/
def parent? (path : Path) : Option Path :=
  match trimParts path.parts with
  | [] => none
  | kept =>
    match trimParts kept.dropLast with
    | [] => some (if path.IsAbsolute then "/" else "")
    | above => some (ofParts above)

/-- The path of `below` seen from `path`; an absolute one stays as it is. -/
def join (path below : Path) : Path :=
  if below.IsAbsolute ∨ path = "" then below
  else if path.toList.getLast? = some '/' then path ++ below
  else path ++ "/" ++ below

/-- The part of a file name in front of its extension: a point that is not at the start opens one. -/
def stem (name : List Char) : List Char :=
  match (name.reverse.dropWhile (· ≠ '.')).tail.reverse with
  | [] => name
  | before => before

/-- The path with another extension; a path without a file name has none to change. -/
def withExtension (path : Path) (extension : String) : Path :=
  match path.fileName? with
  | none => path
  | some name => ofParts ((trimParts path.parts).dropLast ++ [stem name ++ '.' :: extension.toList])

/-- The path and the paths above it, up to the root or the start of a relative path. -/
def ancestors (path : Path) : List Path := go path.parts.length path
where
  /-- At most `n` of them. -/
  go : Nat → Path → List Path
    | 0, _ => []
    | n + 1, path =>
      if path = "" then []
      else path :: (path.parent?.elim [] (go n))

/-- The steps that a path makes from directory to directory. A slash at the end makes a last, empty step. -/
def steps (path : Path) : List String :=
  ((path.parts.dropLast.filter (· ≠ [])) ++ path.parts.getLast?.toList).map String.ofList

end Path

end RunCharts.Files
