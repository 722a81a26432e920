import RunCharts.Proofs.Analysis.Checks
import RunCharts.Proofs.Analysis.Emission
import RunCharts.Proofs.Analysis.Samples

/-! # What an analysis is going to write

An analysis reads and checks before it writes: its sheets are determined by the store, and its outcome is that
of writing them, if there are any (`Analysis.Writes`). The bandwidth analysis writes its first sheet before it
looks at the second one, but what it finds wrong there it has found wrong before (`outcome_charts`). -/

namespace RunCharts

open Files Command

variable {α β : Type} {settings : Settings} {session : Session}

namespace Command

theorem Reads.outcome_bind {command : Command α} {result : Store → Except Failure α} {next : α → Command β}
    (h : command.Reads result) (hnext : ∀ a, (next a).IsPlain) : (command >>= next).outcome session =
      match result session.store with
      | .error failure => (.error failure, session.store)
      | .ok a => (next a).outcome { store := session.store } := by
  rw [outcome_bind_plain hnext, h session]
  cases result session.store <;> rfl

/-- The command makes out sheets, and writes them. -/
def Plans (settings : Settings) (sheets : Store → Except Failure (List Sheet)) (command : Command (List Path)) :
    Prop :=
  ∀ session, command.outcome session =
    match sheets session.store with
    | .error failure => (.error failure, session.store)
    | .ok sheets => (sheets.mapM (Sheet.emit settings)).outcome { store := session.store }

namespace Plans

variable {sheets : Store → Except Failure (List Sheet)} {command : Command (List Path)}

theorem isPlain (h : command.Plans settings sheets) : command.IsPlain := fun session => by
  rw [h, h]

theorem bind {first : Command α} {result : Store → Except Failure α} {next : α → Command (List Path)}
    {sheets : α → Store → Except Failure (List Sheet)} (h : first.Reads result)
    (hnext : ∀ a, (next a).Plans settings (sheets a)) :
    (first >>= next).Plans settings fun store => result store >>= fun a => sheets a store := by
  intro session
  rw [h.outcome_bind fun a => (hnext a).isPlain]
  cases hresult : result session.store with
  | error failure => simp only [hresult, Except.error_bind]
  | ok a =>
    simp only [hresult, Except.ok_bind]
    exact hnext a _

theorem after {first : Command α} {a : α} {next : α → Command (List Path)} (h : first.Reads fun _ => .ok a)
    (hnext : (next a).Plans settings sheets) : (first >>= next).Plans settings sheets := by
  intro session
  have hrun : first.outcome session = (.ok a, session.store) := h session
  rw [outcome] at hrun
  rw [Command.outcome_bind]
  rcases hfirst : first.runOn session with ⟨result, left⟩
  rw [hfirst] at hrun
  obtain ⟨rfl, hleft⟩ := Prod.mk.inj hrun
  rw [← hleft]
  exact hnext left

theorem emit (sheet : Sheet) :
    Plans settings (fun _ => .ok [sheet]) (do
      return [← RunCharts.emit settings sheet.stem sheet.chart sheet.groups]) := by
  intro session
  have heq : (do return [← RunCharts.emit settings sheet.stem sheet.chart sheet.groups]) =
      [sheet].mapM (Sheet.emit settings) := by
    simp only [List.mapM_cons, List.mapM_nil, pure_bind]
    rfl
  rw [heq]
  exact IsPlain.mapM (fun sheet _ => isPlain_emit settings sheet) session

end Plans

end Command

/-- An analysis makes its output directory, then makes out its sheets, then writes them. -/
theorem Analysis.outcome_run {analysis : Analysis} {runs : List RunDir}
    {sheets : Store → Except Failure (List Sheet)} (h : (analysis.charts runs settings).Plans settings sheets) :
    (analysis.run runs settings).outcome session =
      match (ensureDir settings.outputDir).outcome session with
      | (.error failure, store) => (.error failure, store)
      | (.ok _, store) =>
        match sheets store with
        | .error failure => (.error failure, store)
        | .ok sheets => (sheets.mapM (Sheet.emit settings)).outcome { store } := by
  have hwarn (written : List Path) (session : Session) : (do
      if written.isEmpty then note (.noCharts analysis.name)
      return written).outcome session = (.ok written, session.store) := by
    cases written <;> rfl
  have hcharts (session : Session) : (do
      let written ← analysis.charts runs settings
      if written.isEmpty then note (.noCharts analysis.name)
      return written).outcome session = (analysis.charts runs settings).outcome session :=
    outcome_bind_of_handsOn hwarn
  have hplain (_ : Unit) : IsPlain (do
      let written ← analysis.charts runs settings
      if written.isEmpty then note (.noCharts analysis.name)
      return written) := fun session => by
    rw [hcharts, hcharts, h.isPlain session]
  rw [Analysis.run, (reads_note _).outcome_bind fun _ => (isPlain_ensureDir _).bind hplain]
  dsimp only
  rw [outcome_bind_plain hplain, isPlain_ensureDir _ session]
  rcases (ensureDir settings.outputDir).outcome { store := session.store } with ⟨failure | done, store⟩
  · rfl
  · exact (hcharts _).trans (h _)

namespace Analysis

/-! ### The cache analyses -/

open Cache

def cacheMissesSheets (runs : List RunDir) (settings : Settings) (store : Store) :
    Except Failure (List Sheet) := do
  let groups ← (scoutLogs "miss-no-object-count").readRuns (misses settings.cache.missStart) RunDir.group runs store
  let summaries ← (GroupSummary.ofGroups .containsLazy groups).mapError .fault
  let chart ← (pairsChart groups missesLabel settings.cache.missHeadroom).mapError .fault
  return [⟨"swiftlinks-cache-misses", chart, summaries⟩]

def queryCacheMissesSheets (runs : List RunDir) (settings : Settings) (store : Store) :
    Except Failure (List Sheet) := do
  let groups ← (scoutLogs "miss-no-object-count").readRuns (misses settings.cache.missStart) RunDir.group runs store
  let summaries ← (groups.mapM (GroupSummary.of none)).mapError .fault
  let chart := Chart.single summaries "Query cache time" missesLabel 0.0
  return [⟨"swiftlinks-cache-misses-query-cache", chart, summaries⟩]

def cacheElementsSheets (runs : List RunDir) (settings : Settings) (store : Store) :
    Except Failure (List Sheet) := do
  let groups ← (scoutLogs "size-elements-poll").readRuns elements RunDir.group runs store
  let summaries ← (GroupSummary.ofGroups .containsLazy groups).mapError .fault
  let chart ← (pairsChart groups "Number of elements" settings.cache.elementsHeadroom).mapError .fault
  return [⟨"swiftlinks-cache-elements", chart, summaries⟩]

theorem queryCacheMissesSheets_eq {runs : List RunDir} {store : Store} {sheets : List Sheet}
    (h : queryCacheMissesSheets runs settings store = .ok sheets) : ∃ summaries,
      sheets = [⟨"swiftlinks-cache-misses-query-cache",
        Chart.single summaries "Query cache time" missesLabel 0.0, summaries⟩] ∧
      summaries.map (·.name) = runs.map (·.label) := by
  obtain ⟨groups, hgroups, h⟩ := Except.bind_eq_ok_iff.1 h
  obtain ⟨summaries, hsummaries, h⟩ := Except.bind_eq_ok_iff.1 h
  refine ⟨summaries, (Except.ok.inj h).symm, ?_⟩
  have hnames : groups.map (·.name) = runs.map (·.label) := FileQuery.map_of_readRuns (fun _ _ => rfl) hgroups
  rw [← hnames]
  refine Except.map_eq_of_mapM (Except.mapError_eq_ok_iff.1 hsummaries) fun group summary hsummary => ?_
  obtain ⟨_, -, hsummary⟩ := Except.bind_eq_ok_iff.1 hsummary
  rw [← Except.ok.inj hsummary]

theorem reads_printSummary (group : GroupSummary) : (printSummary group).Reads fun _ => .ok () := reads_print _

theorem plans_cacheMisses (runs : List RunDir) (settings : Settings) :
    (cacheMisses.charts runs settings).Plans settings (cacheMissesSheets runs settings) := by
  refine Plans.bind (reads_collect (reads_readMisses _) _ runs) fun groups => ?_
  refine Plans.bind (reads_ofExcept _) fun summaries => ?_
  refine Plans.after (Reads.forM_ok reads_printSummary summaries) ?_
  exact Plans.bind (reads_ofExcept _) fun chart => Plans.emit ⟨_, chart, summaries⟩

theorem plans_queryCacheMisses (runs : List RunDir) (settings : Settings) :
    (queryCacheMisses.charts runs settings).Plans settings (queryCacheMissesSheets runs settings) := by
  refine Plans.bind (reads_collect (reads_readMisses _) _ runs) fun groups => ?_
  refine Plans.bind (reads_ofExcept _) fun summaries => ?_
  refine Plans.after (Reads.forM_ok reads_printSummary summaries) ?_
  exact Plans.emit ⟨_, Chart.single summaries _ _ _, summaries⟩

/-- A group that is reported on as soon as it is summarised. -/
theorem reads_summary (summary : Except Fault GroupSummary) : Reads (do
      let summary ← ofExcept summary
      printSummary summary
      return summary) fun _ => summary.mapError .fault := by
  refine ((reads_ofExcept summary).bind fun summary => (reads_printSummary summary).bind fun _ =>
    Reads.pure summary).congr fun _ => ?_
  exact bind_pure _

theorem plans_cacheElements (runs : List RunDir) (settings : Settings) :
    (cacheElements.charts runs settings).Plans settings (cacheElementsSheets runs settings) := by
  have hsummaries (groups : List SampleGroup) : Reads
      (groups.mapM fun group => do
        let summary ← ofExcept (GroupSummary.of (some (group.variant .containsLazy)) group)
        printSummary summary
        return summary)
      fun _ => (GroupSummary.ofGroups .containsLazy groups).mapError .fault := by
    refine (Reads.mapM (fun group => reads_summary _) groups).congr fun _ => ?_
    rw [GroupSummary.ofGroups, Except.mapError_mapM]
  refine Plans.bind (reads_collect reads_readElements _ runs) fun groups => ?_
  refine Plans.bind (hsummaries groups) fun summaries => ?_
  exact Plans.bind (reads_ofExcept _) fun chart => Plans.emit ⟨_, chart, summaries⟩

/-! ### The bandwidth analysis -/

namespace Bandwidth

/-- What is wrong with a run: none of its files has been read. -/
def RunSamples.shortage? (run : RunSamples) : Option Fault :=
  if run.samples.isEmpty then some (.emptySampleSet run.run.label) else none

/-- The groups of a phase, with bytes for each second of the startup window. -/
def ratesOf (settings : Settings) (groups : List SampleGroup) : List SampleGroup :=
  groups.map (SampleGroup.map (· / Float.ofInt settings.bandwidth.windows.startup))

def phaseSheet (stem : String) (top : Float) (rates : List SampleGroup) : Except Failure Sheet := do
  rates.forM fun group => do
    let _ ← group.summarize.mapError .fault
    return
  let series ← (VariantSeries.ofGroups .containsNonLazy rates).mapError .fault
  let chart ← (Chart.ofLast series "Bandwidth (KB/s)" top).mapError .fault
  return ⟨stem, chart, series.all⟩

theorem error?_forM_summarize (rates : List SampleGroup) : (rates.forM fun group => do
      let _ ← group.summarize.mapError Failure.fault
      return).error? = (rates.findSome? SampleGroup.shortage?).map .fault := by
  rw [Except.error?_forM, List.map_findSome?]
  refine congrArg (rates.findSome? ·) (funext fun group => ?_)
  rw [Function.comp_apply, ← error?_summarize]
  cases group.summarize <;> rfl

theorem error?_phaseSheet (stem : String) (top : Float) (rates : List SampleGroup) :
    (phaseSheet stem top rates).error? =
      ((rates.findSome? SampleGroup.shortage?).or
        (Classifier.containsNonLazy.missing? (rates.map (·.dir)))).map .fault := by
  have hseries : ((VariantSeries.ofGroups .containsNonLazy rates).mapError Failure.fault).error? =
      (rates.findSome? SampleGroup.shortage?).map .fault := by
    rw [Except.error?_mapError, error?_variantSeries]
  have hsheet (series : VariantSeries)
      (h : (VariantSeries.ofGroups .containsNonLazy rates).mapError Failure.fault = .ok series) :
      (do
        let chart ← (Chart.ofLast series "Bandwidth (KB/s)" top).mapError Failure.fault
        return (⟨stem, chart, series.all⟩ : Sheet)).error? =
        (Classifier.containsNonLazy.missing? (rates.map (·.dir))).map .fault := by
    rw [← error?_ofLast (Except.mapError_eq_ok_iff.1 h) "Bandwidth (KB/s)" top]
    cases Chart.ofLast series "Bandwidth (KB/s)" top <;> rfl
  rw [phaseSheet]
  refine (Except.error?_bind_eq_or fun _ _ => Except.error?_bind_eq_or hsheet).trans ?_
  rw [error?_forM_summarize, hseries, ← Option.or_assoc, Option.or_self, Option.map_or]

/-- What is wrong with a phase does not depend on which one it is. -/
theorem error?_phaseSheet_ratesOf (settings : Settings) (stem : String) (top : Float) (runs : List RunSamples)
    (bytes : Log.Bandwidth.Sample → Float) :
    (phaseSheet stem top (ratesOf settings (phaseGroups runs bytes))).error? =
      ((runs.findSome? RunSamples.shortage?).or
        (Classifier.containsNonLazy.missing? (runs.map (·.run.path)))).map .fault := by
  have hdirs : (ratesOf settings (phaseGroups runs bytes)).map (·.dir) = runs.map (·.run.path) := by
    rw [ratesOf, phaseGroups, List.map_map, List.map_map]
    rfl
  rw [error?_phaseSheet, hdirs, ratesOf, List.findSome?_map, phaseGroups, List.findSome?_map]
  congr 3
  funext run
  simp [SampleGroup.shortage?, RunSamples.shortage?, SampleGroup.map, RunDir.group]

theorem exists_phaseSheet {settings : Settings} {stem : String} {top : Float} {runs : List RunSamples}
    {bytes : Log.Bandwidth.Sample → Float} {sheet : Sheet}
    (h : phaseSheet stem top (ratesOf settings (phaseGroups runs bytes)) = .ok sheet) (stem' : String)
    (top' : Float) (bytes' : Log.Bandwidth.Sample → Float) :
    ∃ sheet', phaseSheet stem' top' (ratesOf settings (phaseGroups runs bytes')) = .ok sheet' := by
  rw [← Except.error?_eq_none_iff, error?_phaseSheet_ratesOf, ← error?_phaseSheet_ratesOf, h]
  rfl

/-- Prints the summaries of a phase, and makes out its sheet. -/
def phasePlan (stem : String) (top : Float) (rates : List SampleGroup) : Command Sheet := do
  rates.forM fun group => do print (← ofExcept group.summarize).render
  let series ← ofExcept (VariantSeries.ofGroups .containsNonLazy rates)
  let chart ← ofExcept (Chart.ofLast series "Bandwidth (KB/s)" top)
  return ⟨stem, chart, series.all⟩

theorem reads_phasePlan (stem : String) (top : Float) (rates : List SampleGroup) :
    (phasePlan stem top rates).Reads fun _ => phaseSheet stem top rates :=
  (Reads.forM (fun _ => (reads_ofExcept _).bind fun _ => reads_print _) _).bind fun _ =>
    (reads_ofExcept _).bind fun _ => (reads_ofExcept _).bind fun _ => Reads.pure _

theorem phaseChart_eq (settings : Settings) (stem : String) (top : Float) (groups : List SampleGroup) :
    phaseChart settings stem top groups =
      phasePlan stem top (ratesOf settings groups) >>= Sheet.emit settings := by
  simp only [phaseChart, phasePlan, bind_assoc, pure_bind]
  rfl

theorem isPlain_phaseChart (settings : Settings) (stem : String) (top : Float) (groups : List SampleGroup) :
    (phaseChart settings stem top groups).IsPlain := by
  rw [phaseChart_eq]
  exact (reads_phasePlan stem top _).isPlain.bind (isPlain_emit settings)

theorem outcome_phaseChart (settings : Settings) (stem : String) (top : Float) (groups : List SampleGroup)
    (session : Session) : (phaseChart settings stem top groups).outcome session =
      match phaseSheet stem top (ratesOf settings groups) with
      | .error failure => (.error failure, session.store)
      | .ok sheet => (sheet.emit settings).outcome { store := session.store } := by
  rw [phaseChart_eq, (reads_phasePlan stem top _).outcome_bind (isPlain_emit settings)]
  cases phaseSheet stem top (ratesOf settings groups) <;> rfl

end Bandwidth

open Bandwidth

def bandwidthSheets (runs : List RunDir) (settings : Settings) (store : Store) : Except Failure (List Sheet) := do
  let windows := settings.bandwidth.windows
  let samples ← clientLogs.readRuns (sample windows) RunSamples.mk runs store
  let startup ← phaseSheet (startupStem windows) settings.bandwidth.startupTop
    (ratesOf settings (phaseGroups samples (·.startup)))
  let after ← phaseSheet (afterStem windows) settings.bandwidth.afterTop
    (ratesOf settings (phaseGroups samples (·.after)))
  return [startup, after]

theorem plans_bandwidth (runs : List RunDir) (settings : Settings) :
    (bandwidth.charts runs settings).Plans settings (bandwidthSheets runs settings) := by
  refine Plans.bind (reads_readRuns _ runs) fun samples session => ?_
  rw [outcome_bind_plain fun _ => (isPlain_phaseChart settings _ _ _).bind fun _ => .pure _, outcome_phaseChart]
  cases hstartup : phaseSheet (startupStem settings.bandwidth.windows) settings.bandwidth.startupTop
      (ratesOf settings (phaseGroups samples (·.startup))) with
  | error failure => rfl
  | ok startup =>
    -- the second phase passes the checks that the first one has passed
    obtain ⟨after, hafter⟩ := exists_phaseSheet hstartup (afterStem settings.bandwidth.windows)
      settings.bandwidth.afterTop (·.after)
    have hpair : [startup, after].mapM (Sheet.emit settings) = (do
        let first ← startup.emit settings
        let second ← after.emit settings
        return [first, second]) := by
      simp only [List.mapM_cons, List.mapM_nil, bind_assoc, pure_bind]
    simp only [Except.ok_bind, hafter, Except.pure_eq_ok]
    rw [hpair, outcome_bind_plain fun _ => (isPlain_emit settings after).bind fun _ => .pure _]
    rcases (startup.emit settings).outcome { store := session.store } with ⟨failure | first, store⟩
    · rfl
    · dsimp only
      rw [outcome_bind_plain fun _ => .pure _, outcome_bind_plain fun _ => .pure _, outcome_phaseChart, hafter]

end Analysis

end RunCharts
