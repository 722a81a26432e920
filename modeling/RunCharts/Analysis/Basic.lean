import RunCharts.Analysis.Command
import RunCharts.Log.Counter
import RunCharts.Log.Bandwidth
import RunCharts.Pdf.Page
import RunCharts.PlotData
import RunCharts.Settings.Basic
import RunCharts.Svg.Drawing

/-! # Analyses

An analysis takes samples from the files of runs, and writes charts of them. A run is a directory of logs. On the
command line it comes alone, or after the label that the chart shows for it.

A chart is written as a drawing, as a page, and as the numbers behind it, in this order. -/

namespace RunCharts

open Command

/-! ### Runs -/

/-- A run directory, with its label if one was given. -/
structure RunDir where
  name : Option String := none
  path : Files.Path
deriving DecidableEq, Repr

namespace RunDir

/-- What a run is called in charts and messages: its name, or else its path. -/
def label (run : RunDir) : String := run.name.getD run.path

/-- Reads `name path name path …`; a last name without a path is given back instead. -/
def ofPairs : List String → Except String (List RunDir)
  | [] => .ok []
  | [name] => .error name
  | name :: path :: rest => (ofPairs rest).map (⟨some name, path⟩ :: ·)

end RunDir

/-! ### Samples of runs -/

def threadCount (path : Files.Path) : Except Fault Nat :=
  match path.fileName? with
  | none => .error (.missingThreadCount path)
  | some name => (Log.threadCount name).mapError (Fault.ofThreadCountError path)

/-- Reads a client log. Its name is looked at before it is opened. -/
def readClientLog (windows : Log.Bandwidth.Windows) (path : Files.Path) : Command Log.Bandwidth.Sample := do
  let threads ← ofExcept (threadCount path)
  let log ← readFile path
  ofExcept ((Log.Bandwidth.read windows threads log).mapError (Fault.ofRefusal path))

def readCounterLog (mode : Log.Counter.Mode) (path : Files.Path) : Command (Option Int) := do
  let log ← readFile path
  ofExcept ((Log.Counter.read mode log).mapError (Fault.ofRefusal path))

def readReplySizes (path : Files.Path) : Command Log.ReplySizes := do
  let log ← readFile path
  ofExcept ((Log.ReplySizes.read log).mapError (Fault.ofRefusal path))

def RunDir.group (run : RunDir) (samples : List Float) : SampleGroup := ⟨run.label, run.path, samples⟩

/-- Reads one sample from each selected file of each run. -/
def collect (runs : List RunDir) (query : FileQuery) (read : Files.Path → Command Float) :
    Command (List SampleGroup) :=
  runs.mapM fun run => do
    let files ← findFiles query run.path
    note (.counted run.path files.length)
    return run.group (← files.mapM read)

/-! ### Writing charts -/

def octets (text : String) : List UInt8 := text.toUTF8.data.toList

/-- Writes a chart as a page to `path`, and as a drawing next to it. The drawing is written first. -/
def writeChart (path : Files.Path) (chart : Chart Float) (size : Svg.Size) : Command Unit := do
  if let some dir := path.parent? then ensureDir dir
  writeFile (path.withExtension "svg") (octets (Svg.render chart size))
  match Pdf.page? size (Svg.draw chart size) with
  | none => refuse .render
  | some page => writeFile path page

/-- Writes the numbers behind a chart, and gives the path of their file. -/
def writeData (settings : Settings) (stem : String) (groups : List GroupSummary) : Command Files.Path := do
  ensureDir settings.dataDir
  writeFile (settings.dataPath stem) (octets (PlotData.render groups))
  return settings.dataPath stem

/-- Writes a chart with the numbers behind it, and gives the path of its page. -/
def emit (settings : Settings) (stem : String) (chart : Chart Float) (groups : List GroupSummary) :
    Command Files.Path := do
  let path := settings.pagePath stem
  writeChart path chart ⟨settings.width, settings.height⟩
  let _ ← writeData settings stem groups
  note (.wrote path)
  return path

/-! ### Running an analysis -/

/-- An analysis reads runs, writes charts and gives the paths of their pages. -/
structure Analysis where
  name : String
  charts : List RunDir → Settings → Command (List Files.Path)

/-- Runs an analysis with its output directory made. -/
def Analysis.run (analysis : Analysis) (runs : List RunDir) (settings : Settings) :
    Command (List Files.Path) := do
  note (.running analysis.name runs.length)
  ensureDir settings.outputDir
  let written ← analysis.charts runs settings
  if written.isEmpty then note (.noCharts analysis.name)
  return written

end RunCharts
