import RunCharts.Numeral.Integer
import RunCharts.Numeral.Real
import RunCharts.Text.Quoted

/-! # The lines of a log

A log is read line by line and refused at the first line that is malformed or not UTF-8. A line ends at a
line feed, and a return right before that belongs to the ending. What follows the last line feed is a line
too unless it is empty. A line is decoded when it is reached, so what stands after the first refused line
has no influence (`foldLines`). -/

namespace RunCharts.Log

/-! ### Why a log is refused -/

/-- The integers that a record may hold, by the name a message gives them. -/
inductive Column where
  | initTime
  | timestamp
  | size
  | time
  | count
deriving DecidableEq, Repr

def Column.label : Column → String
  | initTime => "INIT time"
  | timestamp => "timestamp"
  | size => "size"
  | time => "time"
  | count => "count"

/-- Why a line is malformed. -/
inductive Reason where
  /-- A record needs three fields and has fewer. -/
  | fewFields (got : Nat)
  | initWithoutTime
  | replyWithoutSize
  /-- A counter line is not a time and a value with one semicolon between them. -/
  | notTwoFields
  | badInteger (column : Column) (field : List Char) (error : Numeral.IntegerError)
  | badReal (field : List Char) (error : Numeral.RealError)
  | notFinite (field : List Char)
  /-- A sum does not fit 64 signed bits. -/
  | overflow
deriving DecidableEq, Repr

def Reason.message : Reason → String
  | fewFields got => s!"expected at least 3 fields, got {got}"
  | initWithoutTime => "INIT without a time"
  | replyWithoutSize => "reply without a size"
  | notTwoFields => "expected exactly 2 ';' separated fields"
  | badInteger column field error => s!"{column.label} {Text.quoted field}: {error.message}"
  | badReal field error => s!"value {Text.quoted field}: {error.message}"
  | notFinite field => s!"value {Text.quoted field} is not finite"
  | overflow => "value overflows i64"

/-- Where and why a log is refused. -/
inductive Refusal where
  /-- The line with the given number, counted from 1, is malformed. -/
  | malformed (line : Nat) (reason : Reason)
  /-- A line is not UTF-8. -/
  | notUtf8
deriving DecidableEq, Repr

/-- The integer in a column, blanks around it left aside. -/
def readColumn (column : Column) (field : List Char) : Except Reason Int :=
  (Numeral.readSigned64 field).mapError (.badInteger column field)

/-- The sum of two integers, refused if it does not fit 64 signed bits. -/
def sum (a b : Int) : Except Reason Int :=
  match Numeral.Signed64.add? a b with
  | some c => .ok c
  | none => .error .overflow

/-! ### Reading line by line -/

/-- The contents of a file. -/
abbrev Bytes := List UInt8

/-- The lines of a log without their endings. -/
def lines : Bytes → List Bytes
  | [] => []
  | 13 :: 10 :: rest => [] :: lines rest
  | b :: rest =>
    if b = 10 then [] :: lines rest
    -- any other octet starts the line behind it, or a last one of its own
    else match lines rest with
      | [] => [[b]]
      | line :: more => (b :: line) :: more

/-- The text of a line, if it is UTF-8. -/
def decode? (line : Bytes) : Option (List Char) :=
  (String.fromUTF8? ⟨line.toArray⟩).map String.toList

variable {σ : Type}

def stepLine (step : σ → List Char → Except Reason σ) (state : σ) (line : Bytes × Nat) :
    Except Refusal σ :=
  match decode? line.1 with
  | none => .error .notUtf8
  | some text => (step state text).mapError (.malformed line.2)

/-- Reads the lines in order, up to the first that is refused. -/
def foldLines (step : σ → List Char → Except Reason σ) (start : σ) (log : Bytes) : Except Refusal σ :=
  ((lines log).zipIdx 1).foldlM (stepLine step) start

theorem lines_eq_nil_iff {log : Bytes} : lines log = [] ↔ log = [] := by
  cases log with
  | nil => simp [lines]
  | cons b rest =>
    simp only [reduceCtorEq, iff_false]
    unfold lines
    split
    · simp_all
    · simp
    · split
      · simp
      · split <;> simp

end RunCharts.Log
