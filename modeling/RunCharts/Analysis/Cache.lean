import RunCharts.Analysis.Basic
import RunCharts.Chart.Layout

/-! # Cache misses and cached elements

Each scout of a run keeps counters. Misses are summed from the start offset on; of the number of elements
the peak counts. Runs of both variants are shown side by side, one pair for each label. -/

namespace RunCharts.Analysis

open Command

namespace Cache

/-- The counter logs of the scouts with the given name. -/
def scoutLogs (name : String) : FileQuery := ⟨.exact name.toList, some "scout-".toList⟩

/-- Reads the misses of a scout. -/
def readMisses (start : Int) (path : Files.Path) : Command Float := do
  let misses := (← readCounterLog (.sumFrom start) path).getD 0
  note (.misses path misses)
  return Float.ofInt misses

/-- Reads the greatest number of elements of a scout, which is -1 if the log has no line. -/
def readElements (path : Files.Path) : Command Float := do
  let peak ← readCounterLog .peak path
  note (.peak path peak)
  return (peak.map Float.ofInt).getD (-1.0)

def collectMisses (runs : List RunDir) (settings : Settings) : Command (List SampleGroup) :=
  collect runs (scoutLogs "miss-no-object-count") (readMisses settings.cache.missStart)

def collectElements (runs : List RunDir) : Command (List SampleGroup) :=
  collect runs (scoutLogs "size-elements-poll") readElements

def printSummary (group : GroupSummary) : Command Unit := print s!"{group.name}: {group.summary.render}"

/-- The first, third, fifth … of a list. -/
def everySecond {α : Type} : List α → List α
  | [] => []
  | [a] => [a]
  | a :: _ :: rest => a :: everySecond rest

/-- The chart of both variants; the groups come in pairs that share a label. -/
def pairsChart (groups : List SampleGroup) (yLabel : String) (headroom : Float) :
    Except Fault (Chart Float) := do
  let series ← VariantSeries.ofGroups .containsLazy groups
  Chart.grouped series ((everySecond groups).map (·.name)) "Cache size limit" yLabel headroom

def missesLabel : String := "Number of cache misses"

end Cache

open Cache

/-- Cache misses for each cache size limit. All groups are summarised before the first line is printed. -/
def cacheMisses : Analysis where
  name := "cache-misses"
  charts runs settings := do
    let groups ← collectMisses runs settings
    let summaries ← ofExcept (GroupSummary.ofGroups .containsLazy groups)
    summaries.forM printSummary
    let chart ← ofExcept (pairsChart groups missesLabel settings.cache.missHeadroom)
    return [← emit settings "swiftlinks-cache-misses" chart summaries]

/-- Cache misses for each query cache time, whatever the variant. -/
def queryCacheMisses : Analysis where
  name := "query-cache-misses"
  charts runs settings := do
    let groups ← collectMisses runs settings
    let summaries ← ofExcept (groups.mapM (GroupSummary.of none))
    summaries.forM printSummary
    let chart := Chart.single summaries "Query cache time" missesLabel 0.0
    return [← emit settings "swiftlinks-cache-misses-query-cache" chart summaries]

/-- Peak number of elements for each cache size limit. Each line is printed as soon as its group is summarised. -/
def cacheElements : Analysis where
  name := "cache-elements"
  charts runs settings := do
    let groups ← collectElements runs
    let summaries ← groups.mapM fun group => do
      let summary ← ofExcept (GroupSummary.of (some (group.variant .containsLazy)) group)
      printSummary summary
      return summary
    let chart ← ofExcept (pairsChart groups "Number of elements" settings.cache.elementsHeadroom)
    return [← emit settings "swiftlinks-cache-elements" chart summaries]

end RunCharts.Analysis
