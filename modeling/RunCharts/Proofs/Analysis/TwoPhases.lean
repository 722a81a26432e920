import RunCharts.Proofs.Analysis.Printed
import RunCharts.Proofs.Analysis.Script
import RunCharts.Proofs.Analysis.Untouched
import RunCharts.Proofs.Chart.Sides

/-! # Two phases of the same runs

Bandwidth is shown for the startup phase and for the phase that follows it. Both phases go through the same logs
in the same order (`Reading`), and each of them shows an entry for each run in its lines, in its numbers and in its
chart (`PhaseShown`). The lines follow from what the analysis prints, the numbers from what it writes
(`read_dataPath_of_emit`), and the two bars from the last entry of each variant (`ofLast_eq_ok_iff`). -/

namespace RunCharts

open Files Command Analysis Analysis.Bandwidth Log.Bandwidth

/-! ### The chart with a bar for each variant -/

/-- The chart of two summaries, of a lazy run at zero and of a non-lazy one at one. -/
def Chart.ofTwo (lazySummary nonLazySummary : Summary) (yLabel : String) (yMax : Float) : Chart Float where
  series :=
    [⟨none, Variant.lazy.errorColor, [⟨0.0, lazySummary.mean, lazySummary.stdDev, Variant.lazy.barColor⟩]⟩,
      ⟨none, Variant.nonLazy.errorColor, [⟨1.0, nonLazySummary.mean, nonLazySummary.stdDev, Variant.nonLazy.barColor⟩]⟩]
  barWidth := singleWidth
  align := .center
  xRange := (-0.5, 1.5)
  yRange := .fixed 0.0 yMax
  ticks := [(0.0, Variant.lazy.label), (1.0, Variant.nonLazy.label)]
  xLabel := none
  yLabel := yLabel
  annotate := true

theorem Chart.ofLast_eq_ok_iff {series : VariantSeries} {yLabel : String} {yMax : Float} {chart : Chart Float} :
    Chart.ofLast series yLabel yMax = .ok chart ↔ ∃ lazyEntry nonLazyEntry,
      series.lazyGroups.getLast? = some lazyEntry ∧ series.nonLazyGroups.getLast? = some nonLazyEntry ∧
        Chart.ofTwo lazyEntry.summary nonLazyEntry.summary yLabel yMax = chart := by
  rw [ofLast]
  simp only [VariantSeries.last, VariantSeries.side]
  cases series.lazyGroups.getLast? with
  | none => simp
  | some lazyEntry =>
    cases series.nonLazyGroups.getLast? with
    | none => simp
    | some nonLazyEntry =>
      simp only [Option.some.injEq, exists_and_left, exists_eq_left']
      constructor
      · intro h
        exact Except.ok.inj h
      · rintro rfl
        rfl

namespace Analysis.Bandwidth

variable {settings : Settings} {session left : Session} {store mid : Store} {runs : List RunDir}
  {phase : Log.Bandwidth.Phase}

/-! ### The runs and their logs -/

/-- A run with its logs, each with the sample that is read from it. -/
structure Reading where
  run : RunDir
  logs : List (Path × Sample)

/-- The logs are the selected files of the run in their order, and each sample is the bytes of its log shared out
among the threads that the name of the log tells. -/
structure Reading.IsReadFrom (reading : Reading) (windows : Windows) (store : Store) : Prop where
  files : clientLogs.selected reading.run.path store = .ok (reading.logs.map (·.1))
  samples : ∀ log ∈ reading.logs, ∃ threads content tally, threadCount log.1 = .ok threads ∧
    store.read log.1 = .ok content ∧ Log.Bandwidth.tally windows content = .ok tally ∧ log.2 = tally.perThread threads

def Reading.variant (reading : Reading) : Variant := Classifier.containsNonLazy.classify reading.run.path

def Reading.toSamples (reading : Reading) : RunSamples := ⟨reading.run, reading.logs.map (·.2)⟩

theorem sample_eq_ok {windows : Windows} {path : Path} {value : Sample}
    (h : sample windows path store = .ok value) : ∃ threads content tally, threadCount path = .ok threads ∧
      store.read path = .ok content ∧ Log.Bandwidth.tally windows content = .ok tally ∧
        value = tally.perThread threads := by
  obtain ⟨threads, hthreads, h⟩ := Except.bind_eq_ok_iff.1 (Except.mapError_eq_ok_iff.1 h)
  obtain ⟨content, hcontent, h⟩ := Except.bind_eq_ok_iff.1 h
  obtain ⟨tally, htally, hvalue⟩ := Except.map_eq_ok_iff.1
    (Except.mapError_eq_ok_iff.1 (Except.mapError_eq_ok_iff.1 h))
  exact ⟨threads, content, tally, Except.mapError_eq_ok_iff.1 hthreads,
    Except.mapError_eq_ok_iff.1 (Except.mapError_eq_ok_iff.1 hcontent), htally, hvalue.symm⟩

theorem exists_reading {windows : Windows} {run : RunDir} {samples : RunSamples}
    (h : (do return ⟨run, ← clientLogs.readAll (sample windows) store run.path⟩) = Except.ok samples) :
    ∃ reading : Reading, reading.run = run ∧ reading.IsReadFrom windows store ∧ reading.toSamples = samples := by
  obtain ⟨values, hvalues, h⟩ := Except.bind_eq_ok_iff.1 h
  obtain ⟨files, hfiles, hvalues⟩ := Except.bind_eq_ok_iff.1 hvalues
  have hread := Except.mapM_eq_ok_iff.1 hvalues
  have hfst : (files.zip values).map (·.1) = files := List.map_fst_zip hread.length_eq.le
  have hsnd : (files.zip values).map (·.2) = values := List.map_snd_zip hread.length_eq.ge
  refine ⟨⟨run, files.zip values⟩, rfl, ⟨by rw [hfst]; exact hfiles, fun log hlog => ?_⟩, ?_⟩
  · exact sample_eq_ok (List.forall₂_zip hread hlog)
  · rw [← Except.ok.inj h, Reading.toSamples, hsnd]

theorem exists_readings {windows : Windows} {samples : List RunSamples}
    (h : clientLogs.readRuns (sample windows) RunSamples.mk runs store = .ok samples) :
    ∃ readings : List Reading, readings.map (·.run) = runs ∧
      (∀ reading ∈ readings, reading.IsReadFrom windows store) ∧ readings.map Reading.toSamples = samples := by
  have hread := Except.mapM_eq_ok_iff.1 h
  clear h
  induction hread with
  | nil => exact ⟨[], rfl, by simp, rfl⟩
  | cons hrun _ ih =>
    obtain ⟨reading, rfl, hreading, rfl⟩ := exists_reading hrun
    obtain ⟨readings, rfl, hreadings, rfl⟩ := ih
    exact ⟨reading :: readings, rfl, List.forall_mem_cons.2 ⟨hreading, hreadings⟩, rfl⟩

/-! ### What a phase shows -/

/-- The bytes of a phase. -/
def bytesOf : Log.Bandwidth.Phase → Sample → Float
  | .startup, sample => sample.startup
  | .after, sample => sample.after

/-- The stem of the files of a phase. -/
def stemOf (settings : Settings) : Log.Bandwidth.Phase → String
  | .startup => startupStem settings.bandwidth.windows
  | .after => afterStem settings.bandwidth.windows

/-- The upper end of the y axis of a phase. -/
def topOf (settings : Settings) : Log.Bandwidth.Phase → Float
  | .startup => settings.bandwidth.startupTop
  | .after => settings.bandwidth.afterTop

/-- The entry shows a run: its name, its variant, a rate for each log, and the summary of these. In both phases the
rate is that of the startup window. -/
structure EntryOf (settings : Settings) (phase : Log.Bandwidth.Phase) (reading : Reading) (entry : GroupSummary) :
    Prop where
  name : entry.name = reading.run.label
  variant : entry.variant = some reading.variant
  samples : entry.samples = reading.logs.map fun log =>
    bytesOf phase log.2 / Float.ofInt settings.bandwidth.windows.startup
  summary : Summary.of? entry.samples = some entry.summary

/-- The last one of the runs of a variant. -/
def lastOf? (variant : Variant) (readings : List Reading) : Option Reading :=
  (readings.filter (·.variant = variant)).getLast?

/-- What the numbers of a phase list: the entries of lazy runs, then those of the others. -/
def listed (entries : List GroupSummary) : List GroupSummary := entriesOf .lazy entries ++ entriesOf .nonLazy entries

/-- What a phase shows: its entries, the last one of each variant among them, and the chart. -/
structure PhaseView where
  entries : List GroupSummary
  last : Variant → GroupSummary
  chart : Chart Float

/-- The view of a phase that goes from one store to the next: an entry for each run in their order, each of them once
in the numbers, and two bars with the summaries of the last run of each variant. -/
structure PhaseShown (settings : Settings) (phase : Log.Bandwidth.Phase) (readings : List Reading)
    (before after : Store) (view : PhaseView) : Prop where
  each : List.Forall₂ (EntryOf settings phase) readings view.entries
  once : (listed view.entries).Perm view.entries
  written : (Sheet.emit settings ⟨stemOf settings phase, view.chart, listed view.entries⟩).outcome { store := before } =
    (.ok (settings.pagePath (stemOf settings phase)), after)
  data : after.read (settings.dataPath (stemOf settings phase)) = .ok (octets (PlotData.render (listed view.entries)))
  last : ∀ variant, (entriesOf variant view.entries).getLast? = some (view.last variant) ∧
    ∃ reading ∈ lastOf? variant readings, EntryOf settings phase reading (view.last variant)
  bars : view.chart.bars =
    [⟨0.0, (view.last .lazy).summary.mean, (view.last .lazy).summary.stdDev, Variant.lazy.barColor⟩,
      ⟨1.0, (view.last .nonLazy).summary.mean, (view.last .nonLazy).summary.stdDev, Variant.nonLazy.barColor⟩]
  drawn : view.chart = Chart.ofTwo (view.last .lazy).summary (view.last .nonLazy).summary "Bandwidth (KB/s)"
    (topOf settings phase)

theorem forall₂_entryOf {readings : List Reading} {entries : List GroupSummary}
    (h : GroupSummary.ofGroups .containsNonLazy
      (ratesOf settings (phaseGroups (readings.map Reading.toSamples) (bytesOf phase))) = .ok entries) :
    List.Forall₂ (EntryOf settings phase) readings entries := by
  have hall := forall₂_of_ofGroups h
  rw [ratesOf, phaseGroups, List.map_map, List.map_map, List.forall₂_map_left_iff] at hall
  refine hall.imp fun reading entry hentry => ?_
  obtain ⟨hname, hvariant, hsamples, hsummary⟩ := GroupSummary.of_eq_ok_iff.1 hentry
  have hrates : entry.samples = reading.logs.map fun log =>
      bytesOf phase log.2 / Float.ofInt settings.bandwidth.windows.startup := by
    rw [hsamples]
    simp [SampleGroup.map, RunDir.group, Reading.toSamples]
  refine ⟨hname, hvariant, hrates, ?_⟩
  rw [hsamples]
  exact hsummary

theorem forall₂_filter {readings : List Reading} {entries : List GroupSummary}
    (h : List.Forall₂ (EntryOf settings phase) readings entries) (variant : Variant) :
    List.Forall₂ (EntryOf settings phase) (readings.filter (·.variant = variant)) (entriesOf variant entries) := by
  rw [entriesOf]
  induction h with
  | nil => exact .nil
  | @cons reading entry readings entries hentry _ ih =>
    by_cases hvariant : reading.variant = variant
    · rw [List.filter_cons_of_pos (by simpa using hvariant),
        List.filter_cons_of_pos (by simp [hentry.variant, hvariant])]
      exact .cons hentry ih
    · rw [List.filter_cons_of_neg (by simpa using hvariant),
        List.filter_cons_of_neg (by simp [hentry.variant, hvariant])]
      exact ih

theorem exists_mem_lastOf? {readings : List Reading} {entries : List GroupSummary} {variant : Variant}
    {entry : GroupSummary} (h : List.Forall₂ (EntryOf settings phase) readings entries)
    (hlast : (entriesOf variant entries).getLast? = some entry) :
    ∃ reading ∈ lastOf? variant readings, EntryOf settings phase reading entry := by
  have hreverse := List.rel_reverse (forall₂_filter h variant)
  rw [List.getLast?_eq_head?_reverse] at hlast
  rw [lastOf?, List.getLast?_eq_head?_reverse]
  generalize (readings.filter (·.variant = variant)).reverse = backwards at hreverse ⊢
  generalize (entriesOf variant entries).reverse = shown at hreverse hlast
  cases hreverse with
  | nil => cases hlast
  | cons hentry _ =>
    cases hlast
    exact ⟨_, rfl, hentry⟩

/-- Where all groups have been summarised, there is a line for each of them. -/
theorem phaseLines_of_ofGroups {rates : List SampleGroup} {entries : List GroupSummary}
    (h : GroupSummary.ofGroups .containsNonLazy rates = .ok entries) :
    phaseLines rates = entries.map (·.summary.render) := by
  have hall := forall₂_of_ofGroups h
  rw [phaseLines]
  clear h
  induction hall with
  | nil => rfl
  | @cons group entry rest entries hentry _ ih =>
    have hsummary : group.summarize = .ok entry.summary := by
      rw [SampleGroup.summarize, (GroupSummary.of_eq_ok_iff.1 hentry).2.2.2]
    rw [linesAlong, hsummary, List.map_cons, ← ih]
    rfl

theorem path_of_emit {sheet : Sheet} {path : Path} {new : Store}
    (h : (sheet.emit settings).outcome session = (.ok path, new)) : path = settings.pagePath sheet.stem := by
  rw [performs_emit settings sheet session] at h
  obtain ⟨_, -, hpath⟩ := Except.map_eq_ok_iff.1 (Prod.mk.inj h).1
  exact hpath.symm

/-- A phase that has been written shows the entries of its runs. -/
theorem exists_phaseShown (phase : Log.Bandwidth.Phase) {readings : List Reading} {sheet : Sheet} {path : Path}
    {before after : Store}
    (hsheet : phaseSheet (stemOf settings phase) (topOf settings phase)
      (ratesOf settings (phaseGroups (readings.map Reading.toSamples) (bytesOf phase))) = .ok sheet)
    (hwritten : (sheet.emit settings).outcome { store := before } = (.ok path, after)) :
    ∃ view, PhaseShown settings phase readings before after view ∧
      phaseLines (ratesOf settings (phaseGroups (readings.map Reading.toSamples) (bytesOf phase))) =
        view.entries.map (·.summary.render) ∧
      path = settings.pagePath (stemOf settings phase) := by
  obtain ⟨_, -, hsheet⟩ := Except.bind_eq_ok_iff.1 hsheet
  obtain ⟨series, hseries, hsheet⟩ := Except.bind_eq_ok_iff.1 hsheet
  obtain ⟨chart, hchart, hsheet⟩ := Except.bind_eq_ok_iff.1 hsheet
  rw [Except.mapError_eq_ok_iff, VariantSeries.ofGroups_eq, Except.map_eq_ok_iff] at hseries
  obtain ⟨entries, hentries, rfl⟩ := hseries
  obtain ⟨lazyEntry, nonLazyEntry, hlazy, hnonLazy, rfl⟩ :=
    Chart.ofLast_eq_ok_iff.1 (Except.mapError_eq_ok_iff.1 hchart)
  have hlisted : (VariantSeries.tell entries).all = listed entries := rfl
  rw [hlisted] at hsheet
  cases hsheet
  have heach := forall₂_entryOf hentries
  have hpath := path_of_emit hwritten
  have hdata := read_dataPath_of_emit hwritten
  refine ⟨⟨entries, fun variant => variant.casesOn lazyEntry nonLazyEntry, Chart.ofTwo lazyEntry.summary
    nonLazyEntry.summary "Bandwidth (KB/s)" (topOf settings phase)⟩, ⟨heach, ?_, ?_, ?_, ?_, rfl, rfl⟩,
    phaseLines_of_ofGroups hentries, hpath⟩
  · exact entriesOf_perm (variant_ne_none_of_ofGroups hentries)
  · rw [hpath] at hwritten
    exact hwritten
  · exact hdata
  · intro variant
    cases variant with
    | lazy => exact ⟨hlazy, exists_mem_lastOf? heach hlazy⟩
    | nonLazy => exact ⟨hnonLazy, exists_mem_lastOf? heach hnonLazy⟩

/-- The chart depends on the logs of the last run of each variant only. -/
theorem PhaseShown.chart_eq {readings readings' : List Reading} {before after before' after' : Store}
    {view view' : PhaseView} (h : PhaseShown settings phase readings before after view)
    (h' : PhaseShown settings phase readings' before' after' view')
    (hlogs : ∀ variant, (lastOf? variant readings).map (·.logs) = (lastOf? variant readings').map (·.logs)) :
    view.chart = view'.chart := by
  have hsummary (variant : Variant) : (view.last variant).summary = (view'.last variant).summary := by
    obtain ⟨-, reading, hreading, hentry⟩ := h.last variant
    obtain ⟨-, reading', hreading', hentry'⟩ := h'.last variant
    have heq := hlogs variant
    rw [Option.mem_def.1 hreading, Option.mem_def.1 hreading', Option.map_some, Option.map_some] at heq
    have hsummary := hentry.summary
    rw [hentry.samples, Option.some.inj heq, ← hentry'.samples, hentry'.summary] at hsummary
    exact (Option.some.inj hsummary).symm
  rw [h.drawn, h'.drawn, hsummary, hsummary]

/-! ### Both phases -/

/-- The last run of a variant, in the order of the arguments. -/
def lastRun? (variant : Variant) (runs : List RunDir) : Option RunDir :=
  (runs.filter fun run => Classifier.containsNonLazy.classify run.path = variant).getLast?

/-- What a run of the analysis shows. Both phases go through the same readings, and the lines of the first one come
first. -/
structure Shown (runs : List RunDir) (settings : Settings) (session left : Session) (paths : List Path)
    (base mid : Store) (readings : List Reading) (view : Log.Bandwidth.Phase → PhaseView) : Prop where
  made : (ensureDir settings.outputDir).outcome session = (.ok (), base)
  runs : readings.map (·.run) = runs
  read : ∀ reading ∈ readings, reading.IsReadFrom settings.bandwidth.windows base
  startup : PhaseShown settings .startup readings base mid (view .startup)
  after : PhaseShown settings .after readings mid left.store (view .after)
  printed : left.printed = session.printed ++
    ((view .startup).entries.map (·.summary.render) ++ (view .after).entries.map (·.summary.render))
  paths : paths = [settings.pagePath (stemOf settings .startup), settings.pagePath (stemOf settings .after)]

theorem lastOf?_map_run (variant : Variant) (readings : List Reading) :
    (lastOf? variant readings).map (·.run) = lastRun? variant (readings.map (·.run)) := by
  rw [lastOf?, lastRun?, List.filter_map, List.getLast?_map]
  rfl

theorem logs_eq_of_isReadFrom {windows : Windows} {reading reading' : Reading} (h : reading.IsReadFrom windows store)
    (h' : reading'.IsReadFrom windows store) (hpath : reading.run.path = reading'.run.path) :
    reading.logs = reading'.logs := by
  have hfiles : reading.logs.map (·.1) = reading'.logs.map (·.1) :=
    Except.ok.inj (by rw [← h.files, ← h'.files, hpath])
  have hlength : reading.logs.length = reading'.logs.length := by
    simpa only [List.length_map] using congrArg List.length hfiles
  refine List.ext_getElem hlength fun i hi hi' => ?_
  have hsame : reading.logs[i].1 = reading'.logs[i].1 := by
    have := congrArg (·[i]?) hfiles
    simpa [hi, hi'] using this
  refine Prod.ext hsame ?_
  obtain ⟨threads, content, tally, hthreads, hcontent, htally, hvalue⟩ := h.samples _ (List.getElem_mem hi)
  obtain ⟨threads', content', tally', hthreads', hcontent', htally', hvalue'⟩ := h'.samples _ (List.getElem_mem hi')
  rw [hsame, hthreads'] at hthreads
  rw [hsame, hcontent'] at hcontent
  cases hthreads
  cases hcontent
  rw [htally'] at htally
  cases htally
  rw [hvalue, hvalue']

theorem exists_emits_of_mapM_pair {first second : Sheet} {paths : List Path} {new : Store}
    (h : ([first, second].mapM (Sheet.emit settings)).outcome session = (.ok paths, new)) : ∃ path mid path',
      (first.emit settings).outcome session = (.ok path, mid) ∧
        (second.emit settings).outcome { store := mid } = (.ok path', new) ∧ paths = [path, path'] := by
  rw [List.mapM_cons, outcome_bind_plain fun _ => (IsPlain.mapM fun sheet _ => isPlain_emit settings sheet).bind
    fun _ => .pure _] at h
  rcases hfirst : (first.emit settings).outcome session with ⟨failure | path, mid⟩ <;> rw [hfirst] at h
  · cases h
  · dsimp only at h
    rw [outcome_bind_plain fun _ => .pure _, outcome_mapM_singleton] at h
    rcases hsecond : (second.emit settings).outcome { store := mid } with ⟨failure | path', left⟩ <;>
      rw [hsecond] at h
    · cases h
    · cases h
      exact ⟨path, mid, path', rfl, hsecond, rfl⟩

theorem exists_shown {paths : List Path} (hrun : (bandwidth.run runs settings).runOn session = (.ok paths, left)) :
    ∃ base mid readings view, Shown runs settings session left paths base mid readings view := by
  have hout : (bandwidth.run runs settings).outcome session = (.ok paths, left.store) := by
    rw [outcome, hrun]
  have hprinted := prints_run (prints_bandwidth runs settings) session
  rw [Analysis.outcome_run (plans_bandwidth runs settings)] at hout
  rw [hrun, linesAfter, ← isPlain_ensureDir settings.outputDir session] at hprinted
  rcases hmade : (ensureDir settings.outputDir).outcome session with ⟨failure | _, base⟩ <;>
    rw [hmade] at hout hprinted
  · cases hout
  dsimp only at hout hprinted
  cases hsheets : bandwidthSheets runs settings base with
  | error failure =>
    rw [hsheets] at hout
    cases hout
  | ok sheets =>
    rw [hsheets] at hout
    obtain ⟨samples, hsamples, hsheets⟩ := Except.bind_eq_ok_iff.1 hsheets
    obtain ⟨startup, hstartup, hsheets⟩ := Except.bind_eq_ok_iff.1 hsheets
    obtain ⟨after, hafter, hsheets⟩ := Except.bind_eq_ok_iff.1 hsheets
    cases hsheets
    obtain ⟨readings, rfl, hread, rfl⟩ := exists_readings hsamples
    obtain ⟨path, mid, path', hfirst, hsecond, rfl⟩ := exists_emits_of_mapM_pair hout
    obtain ⟨startupView, hstartupShown, hstartupLines, rfl⟩ := exists_phaseShown .startup hstartup hfirst
    obtain ⟨afterView, hafterShown, hafterLines, rfl⟩ := exists_phaseShown .after hafter hsecond
    -- the lines of the second phase are printed once the first one has been written
    have hchart := outcome_phaseChart settings (startupStem settings.bandwidth.windows) settings.bandwidth.startupTop
      (phaseGroups (readings.map Reading.toSamples) (·.startup)) { store := base }
    rw [hstartup] at hchart
    dsimp only at hchart
    rw [hfirst] at hchart
    rw [linesOf, hsamples, linesOf, linesAfter, hchart, linesOf] at hprinted
    refine ⟨base, mid, readings, fun phase => phase.casesOn startupView afterView,
      ⟨hmade, rfl, hread, hstartupShown, hafterShown, ?_, rfl⟩⟩
    rw [hprinted, ← hstartupLines, ← hafterLines]
    rfl

/-- What two runs of the analysis on the same store show of the same last runs. -/
theorem Shown.chart_eq {session' left' : Session} {runs' : List RunDir} {paths paths' : List Path}
    {base base' mid' : Store} {readings readings' : List Reading} {view view' : Log.Bandwidth.Phase → PhaseView}
    (h : Shown runs settings session left paths base mid readings view)
    (h' : Shown runs' settings session' left' paths' base' mid' readings' view')
    (hstore : session'.store = session.store)
    (hlast : ∀ variant, (lastRun? variant runs').map (·.path) = (lastRun? variant runs).map (·.path))
    (phase : Log.Bandwidth.Phase) : (view' phase).chart = (view phase).chart := by
  have hbase : base' = base := by
    have hmade := h'.made
    rw [isPlain_ensureDir, hstore, ← isPlain_ensureDir settings.outputDir session, h.made] at hmade
    cases hmade
    rfl
  have hlogs (variant : Variant) :
      (lastOf? variant readings').map (·.logs) = (lastOf? variant readings).map (·.logs) := by
    have heq := hlast variant
    rw [← h.runs, ← h'.runs, ← lastOf?_map_run, ← lastOf?_map_run] at heq
    cases hreading : lastOf? variant readings with
    | none =>
      rw [hreading] at heq
      cases hreading' : lastOf? variant readings' with
      | none => rfl
      | some reading' =>
        rw [hreading'] at heq
        cases heq
    | some reading =>
      rw [hreading] at heq
      cases hreading' : lastOf? variant readings' with
      | none =>
        rw [hreading'] at heq
        cases heq
      | some reading' =>
        rw [hreading'] at heq
        have hmem := (List.mem_filter.1 (List.mem_of_mem_getLast? hreading)).1
        have hmem' := (List.mem_filter.1 (List.mem_of_mem_getLast? hreading')).1
        exact congrArg some (logs_eq_of_isReadFrom (h'.read _ hmem') (hbase ▸ h.read _ hmem) (Option.some.inj heq))
  cases phase with
  | startup => exact h'.startup.chart_eq h.startup hlogs
  | after => exact h'.after.chart_eq h.after hlogs

/-- A run that succeeds reads the logs of each run once for both phases, and shows them in the lines, the numbers and
the chart of each phase. The charts show the last runs of both variants, so other runs with the same last ones give
the same charts. -/
theorem shown_of_run {paths : List Path} (hrun : (bandwidth.run runs settings).runOn session = (.ok paths, left)) :
    ∃ base mid readings view, Shown runs settings session left paths base mid readings view ∧
      ∀ (runs' : List RunDir) (session' left' : Session) (paths' : List Path), session'.store = session.store →
        (bandwidth.run runs' settings).runOn session' = (.ok paths', left') →
        (∀ variant, (lastRun? variant runs').map (·.path) = (lastRun? variant runs).map (·.path)) →
          ∃ base' mid' readings' view', Shown runs' settings session' left' paths' base' mid' readings' view' ∧
            ∀ phase, (view' phase).chart = (view phase).chart := by
  obtain ⟨base, mid, readings, view, hshown⟩ := exists_shown hrun
  refine ⟨base, mid, readings, view, hshown, fun runs' session' left' paths' hstore hrun' hlast => ?_⟩
  obtain ⟨base', mid', readings', view', hshown'⟩ := exists_shown hrun'
  exact ⟨base', mid', readings', view', hshown', hshown.chart_eq hshown' hstore hlast⟩

/-! ### Two logs as runs -/

/-- A store with the log of a lazy and the log of a non-lazy client, each of which is a run. -/
def phases : Store where
  nodes := [([], .dir), (["a-TH-1.log"], .file []), (["b-nonlazy-TH-1.log"], .file []), (["plot_data"], .dir)]
  sorted := by decide
  root_mem := by decide
  parent_mem := by decide
  named := by decide

def lazyRun : RunDir := ⟨none, "a-TH-1.log"⟩

def nonLazyRun : RunDir := ⟨none, "b-nonlazy-TH-1.log"⟩

theorem isPlain_phases : phases.IsPlain := ⟨rfl, by simp [phases]⟩

theorem passes_phases (hruns : runs = [lazyRun, nonLazyRun] ∨ runs = [nonLazyRun, lazyRun]) (settings : Settings) :
    Outline.bandwidth.Passes runs settings phases := by
  have hmatched : Outline.bandwidth.Matched (runs.map (·.path)) := by
    rcases hruns with rfl | rfl
    · exact ⟨by decide, by decide⟩
    · exact ⟨by decide, by decide⟩
  have hfile (path : Path) (at_ : Location) (hresolve : phases.resolve path = .ok at_)
      (hnode : phases.node? at_ = some (.file [])) (hbelow : phases.below at_ = [])
      (hselects : clientLogs.selects path = true) (hthreads : threadCount path = .ok 1) :
      ∃ files, clientLogs.selected path phases = .ok files ∧ files ≠ [] ∧
        ∀ file ∈ files, ∃ value, sample settings.bandwidth.windows file phases = .ok value := by
    refine ⟨_, FileQuery.selected_of_isFile hresolve hnode hbelow hselects, List.cons_ne_nil _ _, fun file hmem => ?_⟩
    rw [List.mem_singleton.1 hmem]
    have hread : contents path phases = .ok [] := by
      rw [contents, Store.read_eq_ok_iff.2 ⟨_, hresolve, hnode⟩]
      rfl
    refine ⟨Tally.perThread {} 1, ?_⟩
    rw [sample, hthreads]
    simp only [Except.mapError, Except.ok_bind, hread]
    rfl
  refine Outline.passes_iff.2 ⟨fun run hrun => ?_, hmatched⟩
  have hrun : run = lazyRun ∨ run = nonLazyRun := by
    rcases hruns with rfl | rfl <;> simp only [List.mem_cons, List.not_mem_nil, or_false] at hrun
    · exact hrun
    · exact hrun.symm
  rcases hrun with rfl | rfl
  · exact hfile _ ["a-TH-1.log"] (isPlain_phases.resolve (by decide)) rfl rfl (by decide) rfl
  · exact hfile _ ["b-nonlazy-TH-1.log"] (isPlain_phases.resolve (by decide)) rfl rfl (by decide) rfl

/-- The texts of the charts can stand in any document. -/
theorem isSome_page?_phase {stem : String} {top : Float} {rates : List SampleGroup} {sheet : Sheet}
    (h : phaseSheet stem top rates = .ok sheet) :
    (Pdf.page? ⟨640, 480⟩ (Svg.draw sheet.chart ⟨640, 480⟩)).isSome = true := by
  obtain ⟨_, -, h⟩ := Except.bind_eq_ok_iff.1 h
  obtain ⟨series, -, h⟩ := Except.bind_eq_ok_iff.1 h
  obtain ⟨chart, hchart, h⟩ := Except.bind_eq_ok_iff.1 h
  obtain ⟨_, _, -, -, rfl⟩ := Chart.ofLast_eq_ok_iff.1 (Except.mapError_eq_ok_iff.1 hchart)
  cases h
  have htexts (lazySummary nonLazySummary : Summary) (top : Float) :
      (Chart.ofTwo lazySummary nonLazySummary "Bandwidth (KB/s)" top).texts =
        ["Bandwidth (KB/s)", "Lazy", "Non-lazy"] := rfl
  rw [Pdf.isSome_page?_draw, htexts]
  exact ⟨by decide, by decide, by decide⟩

/-- The files of a sheet that are written to the directory of the runs, and where they come to lie. -/
def filesBeside (stem : String) : List (Path × Location) :=
  let page := Path.join "" (stem ++ ".pdf")
  [(page.withExtension "svg", [stem ++ ".svg"]), (page, [stem ++ ".pdf"]),
    (Path.join (Path.join "" "plot_data") (stem ++ ".json"), ["plot_data", stem ++ ".json"])]

/-- A sheet with this stem can be written to the directory of the runs. -/
structure IsBeside (stem : String) : Prop where
  parent : (Path.join "" (stem ++ ".pdf")).parent? = some ""
  files : ∀ file ∈ filesBeside stem, phases.IsStraight file.1 file.2 ∧ phases.node? file.2 ≠ some .dir

theorem isOpen_phases {stem : String} {top : Float} {rates : List SampleGroup} {sheet : Sheet}
    (hdir : settings.outputDir = "") (hsize : settings.width = 640 ∧ settings.height = 480)
    (h : phaseSheet stem top rates = .ok sheet) (hstem : IsBeside stem) :
    ∀ step ∈ sheet.steps .actual settings, step.IsOpen phases := by
  have hdata : phases.exists? settings.dataDir = true := by
    rw [Settings.dataDir, hdir]
    exact Store.IsStraight.exists? (show phases.IsStraight _ ["plot_data"] by decide) rfl rfl
  have hwritable (file : Path × Location) (hfile : file ∈ filesBeside stem) : phases.IsWritable file.1 :=
    isPlain_phases.isWritable file.2 (hstem.files file hfile).1 (hstem.files file hfile).2
  have hpage := isSome_page?_phase h
  rw [← hsize.1, ← hsize.2] at hpage
  obtain ⟨hdrawing, hpdf, hjson⟩ : _ ∧ _ ∧ _ := by
    simpa only [filesBeside, List.forall_mem_cons, List.not_mem_nil, false_imp_iff, implies_true, and_true]
      using hwritable
  refine isOpen_steps ?_ ?_ ?_ hdata ?_ hpage <;> rw [Outline.stem_phaseSheet h]
  · rw [Settings.pagePath, hdir, hstem.parent]
    exact fun dir hmem => .inl (Option.some.inj hmem).symm
  · rw [Settings.pagePath, hdir]
    exact hdrawing
  · rw [Settings.pagePath, hdir]
    exact hpdf
  · rw [Settings.dataPath, Settings.dataDir, hdir]
    exact hjson

/-- The two runs can be shown with any settings for charts next to them. -/
theorem exists_run_phases (settings : Settings) (hruns : runs = [lazyRun, nonLazyRun] ∨ runs = [nonLazyRun, lazyRun])
    (hdir : settings.outputDir = "") (hsize : settings.width = 640 ∧ settings.height = 480)
    (hstartup : IsBeside (startupStem settings.bandwidth.windows))
    (hafter : IsBeside (afterStem settings.bandwidth.windows)) :
    ∃ paths left, (bandwidth.run runs settings).runOn { store := phases } = (.ok paths, left) := by
  have hmem : Outline.bandwidth ∈ Outline.all := by simp [Outline.all]
  obtain ⟨sheets, hsheets⟩ := (Outline.exists_sheets_iff hmem runs _ _).2 (passes_phases hruns settings)
  refine ⟨_, Outline.exists_run_of_isOpen hmem (.inl hdir) hsheets fun sheet hsheet => ?_⟩
  obtain ⟨_, -, hpair⟩ := Except.bind_eq_ok_iff.1 hsheets
  obtain ⟨startup, hfirst, hpair⟩ := Except.bind_eq_ok_iff.1 hpair
  obtain ⟨after, hsecond, hpair⟩ := Except.bind_eq_ok_iff.1 hpair
  cases hpair
  simp only [List.mem_cons, List.not_mem_nil, or_false] at hsheet
  rcases hsheet with rfl | rfl
  · exact isOpen_phases hdir hsize hfirst hstartup
  · exact isOpen_phases hdir hsize hsecond hafter

theorem isBeside_default : IsBeside (startupStem {}) ∧ IsBeside (afterStem {}) :=
  ⟨⟨by decide, by decide⟩, ⟨by decide, by decide⟩⟩

theorem shown_of_run_phases :
    ∃ paths left base mid readings view, (bandwidth.run [lazyRun, nonLazyRun] { outputDir := "" }).runOn
        { store := phases } = (.ok paths, left) ∧
      Shown [lazyRun, nonLazyRun] { outputDir := "" } { store := phases } left paths base mid readings view ∧
      ∃ paths' left' base' mid' readings' view', (bandwidth.run [nonLazyRun, lazyRun] { outputDir := "" }).runOn
          { store := phases } = (.ok paths', left') ∧
        Shown [nonLazyRun, lazyRun] { outputDir := "" } { store := phases } left' paths' base' mid' readings' view' ∧
        ∀ phase, (view' phase).chart = (view phase).chart := by
  obtain ⟨hstartup, hafter⟩ := isBeside_default
  obtain ⟨paths, left, hrun⟩ := exists_run_phases { outputDir := "" } (.inl rfl) rfl ⟨rfl, rfl⟩ hstartup hafter
  obtain ⟨paths', left', hrun'⟩ := exists_run_phases { outputDir := "" } (.inr rfl) rfl ⟨rfl, rfl⟩ hstartup hafter
  obtain ⟨base, mid, readings, view, hshown, hother⟩ := shown_of_run hrun
  have hlast (variant : Variant) : (lastRun? variant [nonLazyRun, lazyRun]).map (·.path) =
      (lastRun? variant [lazyRun, nonLazyRun]).map (·.path) := by
    cases variant <;> decide
  obtain ⟨base', mid', readings', view', hshown', hcharts⟩ := hother _ _ _ _ rfl hrun' hlast
  exact ⟨paths, left, base, mid, readings, view, hrun, hshown, paths', left', base', mid', readings', view', hrun',
    hshown', hcharts⟩

end Analysis.Bandwidth

end RunCharts
