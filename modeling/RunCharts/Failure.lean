import RunCharts.Fault
import RunCharts.Settings.Error

/-! # Why a command fails

A failure is a chain of causes, the outermost first: what was being done, then what went wrong. -/

namespace RunCharts

/-- What was being done when a command failed. -/
inductive Context where
  | readingClientLog (path : Files.Path)
  | reading (path : Files.Path)
  | parsing (path : Files.Path)
deriving DecidableEq, Repr

def Context.message : Context → String
  | readingClientLog path => s!"Reading bandwidth log {path}"
  | reading path => s!"Reading {path}"
  | parsing path => s!"Parsing {path}"

/-- Why a command fails. -/
inductive Failure where
  | fault (fault : Fault)
  /-- The settings file cannot be read. -/
  | unreadable (error : Files.FileError)
  | settings (error : SettingsError)
  | within (context : Context) (failure : Failure)

namespace Failure

/-- The texts of the causes. A fault of a file has a cause of its own, which its text says already. -/
def causes : Failure → List String
  | fault (.file path error) => [(Fault.file path error).message, error.message]
  | fault other => [other.message]
  | unreadable error => [error.message]
  | settings error => [error.message]
  | within context failure => context.message :: failure.causes

/-- The causes in one line. -/
def message (failure : Failure) : String := String.intercalate ": " failure.causes

/-- What went wrong, whatever was being done. -/
def root : Failure → Failure
  | within _ failure => failure.root
  | failure => failure

end Failure

/-- A report of causes over several lines; the causes behind the first are numbered if there is more than
one. -/
def report : List String → String
  | [] => ""
  | [message] => s!"Error: {message}"
  | [message, cause] => s!"Error: {message}\n\nCaused by:\n    {cause}"
  | message :: causes =>
    s!"Error: {message}\n\nCaused by:" ++ String.join (causes.mapIdx fun i cause => s!"\n   {i}: {cause}")

end RunCharts
