import RunCharts.Decimal.Binary64
import RunCharts.Log.Line
import RunCharts.Text.Split

/-! # Counter logs: a time and a value on each line

A counter log is reduced to one integer: the sum of the counts from some time on, or the peak of its
values. -/

namespace RunCharts.Log.Counter

/-- The two fields of a line, with exactly one semicolon between them. -/
def timeAndValue? (line : List Char) : Option (List Char × List Char) :=
  (Text.splitOnce? ';' line).filter fun (_, value) => !value.contains ';'

/-- Adds the count of a line whose time is not before `start`; the count of an earlier line is not looked at. -/
def sumStep (start : Int) (total : Int) (line : List Char) : Except Reason Int :=
  match timeAndValue? line with
  | none => .error .notTwoFields
  | some (time, value) => do
    if start ≤ (← readColumn .time time) then sum total (← readColumn .count value) else return total

/-- The sum of the counts at or after `start`. -/
def sumFrom (start : Int) (log : Bytes) : Except Refusal Int :=
  foldLines (sumStep start) 0 log

/-- The value field of a line, cut toward zero and to 64 signed bits. -/
def readValue (value : List Char) : Except Reason Int :=
  match Numeral.readReal (Text.trim value) with
  | .error error => .error (.badReal value error)
  | .ok x =>
    match Decimal.Binary64.ofFloat x with
    | .finite negative magnitude =>
      .ok ((Decimal.Binary64.finite negative magnitude).toIntClamped Numeral.Signed64.least
        Numeral.Signed64.greatest)
    | _ => .error (.notFinite value)

/-- The greater of the peak so far and the value of a line; the time of the line is not looked at. -/
def peakStep (peak : Option Int) (line : List Char) : Except Reason (Option Int) :=
  match timeAndValue? line with
  | none => .error .notTwoFields
  | some (_, value) => do
    let value ← readValue value
    return some (peak.elim value (max · value))

/-- The greatest value, if the log has a line. -/
def peak (log : Bytes) : Except Refusal (Option Int) :=
  foldLines peakStep none log

/-- How a counter log is reduced to one value. -/
inductive Mode where
  /-- The sum of all counts at or after the given time. -/
  | sumFrom (start : Int)
  /-- The greatest value. -/
  | peak
deriving DecidableEq, Repr

/-- The value of a counter log; only the peak of a log without lines is missing. -/
def read (mode : Mode) (log : Bytes) : Except Refusal (Option Int) :=
  match mode with
  | .sumFrom start => (sumFrom start log).map some
  | .peak => peak log

end RunCharts.Log.Counter
