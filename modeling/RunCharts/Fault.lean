import RunCharts.Files.Path
import RunCharts.Files.Resolve
import RunCharts.Log.Line
import RunCharts.Log.Bandwidth
import RunCharts.Variant

/-! # Why an analysis fails -/

namespace RunCharts

/-- Why an analysis fails. -/
inductive Fault where
  /-- The name of a client log has no thread count. -/
  | missingThreadCount (path : Files.Path)
  /-- The thread count of a client log is zero, too large or not written in ASCII digits. -/
  | invalidThreadCount (path : Files.Path)
  | malformed (path : Files.Path) (line : Nat) (reason : Log.Reason)
  | emptySampleSet (group : String)
  /-- No run is of the given variant. -/
  | missingVariant (variant : Variant)
  | seriesLengthMismatch (lazyGroups nonLazyGroups : Nat)
  /-- The last argument names a run whose directory is missing. -/
  | unpairedArgument (name : String)
  | file (path : Files.Path) (error : Files.FileError)
  /-- A drawing could not be turned into a page. -/
  | render
deriving DecidableEq, Repr

namespace Fault

def message : Fault → String
  | missingThreadCount path => s!"{path}: file name does not match TH-(\\d+)"
  | invalidThreadCount path => s!"{path}: thread count must be positive"
  | malformed path line reason => s!"{path}:{line}: malformed record: {reason.message}"
  | emptySampleSet group => s!"No samples for {group}"
  | missingVariant variant => s!"No run directory classified as {variant.label}"
  | seriesLengthMismatch lazyGroups nonLazyGroups =>
    s!"Lazy series has {lazyGroups} groups but non-lazy series has {nonLazyGroups}"
  | unpairedArgument name => s!"Argument {name} has no directory to pair with"
  | file path error => s!"IO error on {path}: {error.message}"
  | render => "Render failed"

def ofRefusal (path : Files.Path) : Log.Refusal → Fault
  | .malformed line reason => malformed path line reason
  | .notUtf8 => file path .notUtf8

/-- The fault of a client log whose name gives no thread count. -/
def ofThreadCountError (path : Files.Path) : Log.ThreadCountError → Fault
  | .missing => missingThreadCount path
  | .invalid => invalidThreadCount path

end Fault

end RunCharts
