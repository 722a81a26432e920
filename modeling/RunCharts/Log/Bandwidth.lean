import RunCharts.Log.Line
import RunCharts.Text.Split

/-! # Client logs

A client log holds records of comma-separated fields; lines that start with a semicolon are comments.
The first `INIT` record fixes two cutoffs, and each fetch reply after it adds its size to the phase
its time falls into (`Bandwidth`). The sizes of the replies are also read by themselves (`ReplySizes`).
The number of threads stands in the log's name (`threadCount`). -/

namespace RunCharts.Log

/-- The event that starts the clock. -/
def initEvent : List Char := "INIT".toList

/-- The event that reports a fetch reply. -/
def fetchReply : List Char := "METADATA_FetchObjectVersionReply".toList

namespace Bandwidth

/-- The lengths of the startup phase and of the phase that follows it. -/
structure Windows where
  startup : Int := 30000
  after : Int := 60000
deriving DecidableEq, Repr

/-- The times at which the two phases end. -/
structure Cutoffs where
  startup : Int
  after : Int
deriving DecidableEq, Repr

/-- What a client log is read into: the cutoffs once they are known, and the bytes of each phase. -/
structure Tally where
  cutoffs : Option Cutoffs := none
  startup : Int := 0
  after : Int := 0
deriving DecidableEq, Repr

/-- The phase that a time falls into. -/
inductive Phase where
  | startup
  | after
deriving DecidableEq, Repr

/-- The phase that a time falls into; the startup phase reaches back to any time before its cutoff. -/
def Cutoffs.phase? (cutoffs : Cutoffs) (time : Int) : Option Phase :=
  if time < cutoffs.startup then some .startup
  else if time < cutoffs.after then some .after
  else none

/-- The cutoffs of a clock that starts at `start`. -/
def Windows.cutoffs (windows : Windows) (start : Int) : Except Reason Cutoffs := do
  let startup ← sum start windows.startup
  let after ← sum startup windows.after
  return ⟨startup, after⟩

/-- Adds the size of a reply to the phase of its time. -/
def Tally.addReply (tally : Tally) (time size : Int) : Except Reason Tally :=
  match tally.cutoffs.bind (·.phase? time) with
  | some .startup => do return { tally with startup := ← sum tally.startup size }
  | some .after => do return { tally with after := ← sum tally.after size }
  | none => .ok tally

/-- Takes the cutoffs from the first `INIT` record; its time is the fourth field. -/
def Tally.readInit (windows : Windows) (tally : Tally) (event : List Char) (fourth : Option (List Char)) :
    Except Reason Tally :=
  if event = initEvent ∧ tally.cutoffs = none then
    match fourth with
    | none => .error .initWithoutTime
    | some field => do
      let start ← readColumn .initTime field
      return { tally with cutoffs := some (← windows.cutoffs start) }
  else .ok tally

/-- Counts a fetch reply; its time is the second field and its size the fourth. -/
def Tally.readReply (tally : Tally) (second third : List Char) (fourth : Option (List Char)) :
    Except Reason Tally :=
  if third = fetchReply then do
    let time ← readColumn .timestamp second
    match fourth with
    | none => .error .replyWithoutSize
    | some field => tally.addReply time (← readColumn .size field)
  else .ok tally

def Tally.step (windows : Windows) (tally : Tally) (line : List Char) : Except Reason Tally :=
  if line.head? = some ';' then .ok tally
  else match Text.fields ',' line with
    | _ :: second :: third :: rest => do
      -- a record can be both; its time is no number then, but a fault of the clock comes first
      let tally ← tally.readInit windows second rest.head?
      tally.readReply second third rest.head?
    | short => .error (.fewFields short.length)

/-- The bytes of each phase in a client log. -/
def tally (windows : Windows) (log : Bytes) : Except Refusal Tally :=
  foldLines (Tally.step windows) {} log

/-- Fetch reply bytes per thread in each phase of one client log. -/
structure Sample where
  startup : Float
  after : Float

/-- The bytes of each phase shared out among the threads. -/
def Tally.perThread (tally : Tally) (threads : Nat) : Sample where
  startup := Float.ofInt tally.startup / Float.ofNat threads
  after := Float.ofInt tally.after / Float.ofNat threads

/-- The sample of one client log written by `threads` threads. -/
def read (windows : Windows) (threads : Nat) (log : Bytes) : Except Refusal Sample :=
  (tally windows log).map (·.perThread threads)

end Bandwidth

/-! ### Sizes of the fetch replies

Counts the fetch replies and their bytes, whatever their time. Lines of any other shape are passed over. -/

/-- The number of fetch replies and their bytes. -/
structure ReplySizes where
  replies : Nat := 0
  total : Int := 0
deriving DecidableEq, Repr

namespace ReplySizes

/-- Counts a line whose third field is a fetch reply; its size is the fourth. -/
def step (sizes : ReplySizes) (line : List Char) : Except Reason ReplySizes :=
  match Text.fields ',' (Text.trimRight line) with
  | _ :: _ :: third :: rest =>
    if third = fetchReply then
      match rest.head? with
      | none => .error .replyWithoutSize
      | some field => do
        let size ← readColumn .size field
        return ⟨sizes.replies + 1, ← sum sizes.total size⟩
    else .ok sizes
  | _ => .ok sizes

def read (log : Bytes) : Except Refusal ReplySizes :=
  foldLines step {} log

/-- The bytes per reply, if there is a reply. -/
def average? (sizes : ReplySizes) : Option Float :=
  if sizes.replies = 0 then none
  else some (Float.ofInt sizes.total / Float.ofNat sizes.replies)

end ReplySizes

/-! ### The thread count in a log's name

A client log carries its number of threads as `TH-<digits>` in its file name. The leftmost such place
counts, and there the longest run of digits of any script; a run that is no ASCII number from 1 to
2^32 - 1 is refused, even when a later place would do. -/

inductive ThreadCountError where
  | missing
  | invalid
deriving DecidableEq, Repr

/-- The run of digits after `TH-` at the start of a text. -/
def digitsAfterMark? : List Char → Option (List Char)
  | 'T' :: 'H' :: '-' :: rest =>
    let digits := rest.takeWhile Text.isDecimalDigit
    if digits.isEmpty then none else some digits
  | _ => none

/-- The run of digits at the leftmost `TH-` with a digit behind it. -/
def threadDigits? : List Char → Option (List Char)
  | [] => none
  | c :: rest =>
    match digitsAfterMark? (c :: rest) with
    | some digits => some digits
    | none => threadDigits? rest

def threadCount (name : List Char) : Except ThreadCountError Nat :=
  match threadDigits? name with
  | none => .error .missing
  | some digits =>
    match Numeral.readInteger 0 (Numeral.unsignedLimit 32) digits with
    | .ok n => if n = 0 then .error .invalid else .ok n.toNat
    | .error _ => .error .invalid

end RunCharts.Log
