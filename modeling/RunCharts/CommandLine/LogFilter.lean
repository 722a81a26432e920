import RunCharts.Numeral.Integer
import RunCharts.Text.Character

/-! # Log filters

A filter is a level, a target, or both with an equals sign between them; the spans and fields that a filter
may name stand in brackets behind the target. A comma may end it. -/

namespace RunCharts.CommandLine

inductive LogFilterError where
  | malformed
  | badLevel
deriving DecidableEq, Repr

def levelWords : List String := ["off", "error", "warn", "info", "debug", "trace"]

/-- The causes of a refusal. A level has a cause of its own, which its text says already. -/
def LogFilterError.causes : LogFilterError → List String
  | malformed => ["invalid filter directive"]
  | badLevel =>
    let words := String.intercalate ", " (levelWords.map fun word => s!"\"{word}\"")
    let text := s!"error parsing level filter: expected one of {words}, or a number 0-5"
    [text, text]

/-- The number of a level, given by its word or as it is: 0 lets nothing through, and 5 everything. -/
def levelNumber? (text : List Char) : Option Nat :=
  match Numeral.readInteger 0 (Numeral.unsignedLimit 64) text with
  | .ok n => if n ≤ 5 then some n.toNat else none
  | .error _ => levelWords.idxOf? (String.ofList (text.map Char.toLower))

/-- What a filter has behind an equals sign. -/
inductive LevelPart where
  | absent
  /-- A level, and what follows it from the first comma on. -/
  | given (level rest : List Char)
deriving DecidableEq, Repr

/-- Reads what stands behind the bracket that closes a span. -/
def afterSpan? : List Char → Option LevelPart
  | [] => some .absent
  | '=' :: text => some (.given (text.takeWhile (· ≠ ',')) (text.dropWhile (· ≠ ',')))
  | _ => none

/-- Reads the fields in braces; each must have a text. -/
def afterFields? (field : List Char) : List Char → Option LevelPart
  | [] => none
  | '\x7d' :: ']' :: rest => if field.isEmpty then none else afterSpan? rest
  | '\x7d' :: _ => none
  | ',' :: rest => if field.isEmpty then none else afterFields? [] rest
  | c :: rest => afterFields? (c :: field) rest

/-- Reads what stands behind the bracket that opens a span: its name, and fields in braces. -/
def afterBracket? : List Char → Option LevelPart
  | [] => none
  | ']' :: rest => afterSpan? rest
  | '\x7b' :: rest => afterFields? [] rest
  | _ :: rest => afterBracket? rest

/-- Reads what follows the first character of a level or a target. -/
def afterStart? : List Char → Option LevelPart
  | [] | [','] => some .absent
  | ',' :: _ => none
  | '=' :: rest => afterSpan? ('=' :: rest)
  | '[' :: rest => afterBracket? rest
  | _ :: rest => afterStart? rest

/-- Reads a filter without blanks around it. -/
def levelPart? : List Char → Option LevelPart
  | [] => none
  | '[' :: rest => afterBracket? rest
  | c :: rest => if c ∈ ['-', ':', '_'] || Text.isAlphanumeric c then afterStart? rest else none

/-- Checks a log filter. Blanks around it say nothing, but a level must not have any on either side. -/
def checkLogFilter (text : List Char) : Except LogFilterError Unit :=
  let trailing := (text.reverse.takeWhile Text.isBlank).reverse
  match levelPart? (Text.trim text) with
  | none => .error .malformed
  | some .absent => .ok ()
  | some (.given level rest) =>
    -- the blanks belong to the level when nothing stands between them and it
    let level := if rest.isEmpty then level ++ trailing else level
    if !level.isEmpty && (text.head?.any Text.isBlank || (levelNumber? level).isNone) then .error .badLevel
    else if 1 < rest.length then .error .malformed
    else .ok ()

/-- The number of the level that a filter lets through; one that names no level lets everything through. -/
def filterLevel (text : List Char) : Nat :=
  let text := Text.trim text
  match levelPart? text with
  | some (.given level _) => (levelNumber? level).getD 5
  | _ => (levelNumber? text).getD 5

end RunCharts.CommandLine
