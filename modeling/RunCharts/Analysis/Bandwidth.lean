import RunCharts.Analysis.Basic
import RunCharts.Chart.Layout

/-! # Fetch reply bandwidth during and after startup

Each client log gives a sample for the startup phase and one for the phase that follows. Both are shown per
startup window, as one bar for the last lazy run and one for the last non-lazy run. -/

namespace RunCharts.Analysis.Bandwidth

open Command

def clientLogs : FileQuery := ⟨.ending ".log".toList, none⟩

/-- Reads a client log and notes its sample. -/
def readSample (windows : Log.Bandwidth.Windows) (path : Files.Path) : Command Log.Bandwidth.Sample := do
  let sample ← within (.readingClientLog path) (readClientLog windows path)
  note (.sample path sample)
  return sample

structure RunSamples where
  run : RunDir
  samples : List Log.Bandwidth.Sample

/-- Reads the client logs of each run. -/
def readRuns (runs : List RunDir) (windows : Log.Bandwidth.Windows) : Command (List RunSamples) :=
  runs.mapM fun run => do
    let files ← findFiles clientLogs run.path
    return ⟨run, ← files.mapM (readSample windows)⟩

def phaseGroups (runs : List RunSamples) (bytes : Log.Bandwidth.Sample → Float) : List SampleGroup :=
  runs.map fun run => run.run.group (run.samples.map bytes)

/-- Prints the summaries of a phase and writes its chart. -/
def phaseChart (settings : Settings) (stem : String) (top : Float) (groups : List SampleGroup) :
    Command Files.Path := do
  -- both phases are shown per startup window
  let window := Float.ofInt settings.bandwidth.windows.startup
  let rates := groups.map (SampleGroup.map (· / window))
  rates.forM fun group => do print (← ofExcept group.summarize).render
  let series ← ofExcept (VariantSeries.ofGroups .containsNonLazy rates)
  let chart ← ofExcept (Chart.ofLast series "Bandwidth (KB/s)" top)
  emit settings stem chart series.all

def startupStem (windows : Log.Bandwidth.Windows) : String :=
  s!"swiftlinks-bandwidth-startup-{windows.startup}"

def afterStem (windows : Log.Bandwidth.Windows) : String :=
  s!"swiftlinks-bandwidth-after-{windows.startup}-{windows.after}"

/-- Writes the charts of both phases. -/
def charts (runs : List RunDir) (settings : Settings) : Command (List Files.Path) := do
  let windows := settings.bandwidth.windows
  let samples ← readRuns runs windows
  let startup ← phaseChart settings (startupStem windows) settings.bandwidth.startupTop
    (phaseGroups samples (·.startup))
  let after ← phaseChart settings (afterStem windows) settings.bandwidth.afterTop
    (phaseGroups samples (·.after))
  return [startup, after]

end Bandwidth

def bandwidth : Analysis := ⟨"bandwidth", Bandwidth.charts⟩

end RunCharts.Analysis
