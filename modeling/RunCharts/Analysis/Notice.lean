import RunCharts.Decimal.Style
import RunCharts.Files.Path
import RunCharts.Log.Bandwidth

/-! # What a command notes in the log -/

namespace RunCharts

/-- How much a notice matters. -/
inductive Level where
  | debug
  | info
  | warn
deriving DecidableEq, Repr

def Level.label : Level → String
  | debug => "DEBUG"
  | info => "INFO"
  | warn => "WARN"

/-- The number of a level; a log that lets a number through lets the smaller ones through as well. -/
def Level.number : Level → Nat
  | debug => 4
  | info => 3
  | warn => 2

inductive Notice where
  | running (analysis : String) (runs : Nat)
  | runMissing (run : Files.Path)
  | found (path : Files.Path)
  | counted (run : Files.Path) (files : Nat)
  | sample (path : Files.Path) (sample : Log.Bandwidth.Sample)
  | misses (path : Files.Path) (misses : Int)
  | peak (path : Files.Path) (peak : Option Int)
  | wrote (path : Files.Path)
  | noCharts (analysis : String)

namespace Notice

def level : Notice → Level
  | runMissing _ | noCharts _ => .warn
  | wrote _ => .info
  | _ => .debug

def message : Notice → String
  | running analysis runs => s!"Running {analysis} over {runs} runs"
  | runMissing run => s!"Run directory {run} does not exist"
  | found path => s!"Found {path}"
  | counted run files => s!"{run}: {files} files"
  | sample path read =>
    let startup := Report.number read.startup
    let after := Report.number read.after
    s!"{path}: BandwidthSample \x7b startup: {startup}, after: {after} \x7d"
  | misses path count => s!"{path}: {count} misses"
  | peak path none => s!"{path}: peak None"
  | peak path (some value) => s!"{path}: peak Some({value})"
  | wrote path => s!"Wrote {path}"
  | noCharts analysis => s!"{analysis} produced no charts"

/-- The line of a notice: its level, then its text. -/
def line (notice : Notice) : String := s!"{notice.level.label} {notice.message}"

end Notice

end RunCharts
