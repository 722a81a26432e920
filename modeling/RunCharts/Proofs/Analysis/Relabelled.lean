import RunCharts.Proofs.Analysis.Relocated
import RunCharts.Proofs.Analysis.TwoPhases
import RunCharts.Proofs.Chart.Grouped

/-! # The sheets of runs with other paths

Runs of which the same is read under other paths are shown the same, but for the labels of those without a name. Each
run has an entry in either sheet (`Relabelled`), the charts differ in their ticks at most, and the ticks are those of
the same runs (`exists_sheets_under`). -/

namespace RunCharts

open Files Analysis Analysis.Cache Analysis.Bandwidth

/-- The run with its path written below a parent. -/
def RunDir.under (parent : Path) (run : RunDir) : RunDir := { run with path := parent.join run.path }

/-- What a run is shown as under its own path and under the one below a parent. -/
structure Relabelled (parent : Path) where
  run : RunDir
  before : GroupSummary
  after : GroupSummary
  name_before : before.name = run.label
  name_after : after.name = (run.under parent).label
  variant : after.variant = before.variant
  samples : after.samples = before.samples
  summary : after.summary = before.summary

/-- The sheets show the same runs, each with the same variant, samples and summary, in charts with the same bars. The
ticks are the same, but that those with the labels of runs have these below the parent. -/
structure Sheet.SameUnder (parent : Path) (runs : List RunDir) (sheet sheet' : Sheet) : Prop where
  stem : sheet'.stem = sheet.stem
  groups : ∃ entries : List (Relabelled parent), (entries.map (·.run)).Perm runs ∧
    sheet.groups = entries.map (·.before) ∧ sheet'.groups = entries.map (·.after)
  chart : sheet'.chart = { sheet.chart with ticks := sheet'.chart.ticks }
  ticks : sheet'.chart.ticks = sheet.chart.ticks ∨ ∃ shown : List (Float × RunDir), (shown.map (·.2)).Sublist runs ∧
    sheet.chart.ticks = shown.map (fun tick => (tick.1, tick.2.label)) ∧
    sheet'.chart.ticks = shown.map fun tick => (tick.1, (tick.2.under parent).label)

variable {α γ : Type} {parent : Path} {runs : List RunDir} {old new : Store} {query : FileQuery} {reader : Reader α}

/-! ### The entries of runs -/

/-- What is read from each run stays with it. -/
theorem FileQuery.exists_table {group : RunDir → List α → γ} {groups : List γ}
    (hread : ∀ run ∈ runs, query.readAll reader new (parent.join run.path) =
      (query.readAll reader old run.path).mapError (Failure.mapPaths parent.join))
    (h : query.readRuns reader group runs old = .ok groups) :
    ∃ table : List (RunDir × List α), table.map (·.1) = runs ∧ groups = table.map (fun row => group row.1 row.2) ∧
      query.readRuns reader group (runs.map (RunDir.under parent)) new =
        .ok (table.map fun row => group (row.1.under parent) row.2) := by
  induction runs generalizing groups with
  | nil =>
    cases h
    exact ⟨[], rfl, rfl, rfl⟩
  | cons run rest ih =>
    rw [readRuns, List.mapM_cons] at h
    obtain ⟨made, hmade, h⟩ := Except.bind_eq_ok_iff.1 h
    obtain ⟨samples, hsamples, hmade⟩ := Except.bind_eq_ok_iff.1 hmade
    obtain ⟨others, hothers, h⟩ := Except.bind_eq_ok_iff.1 h
    obtain ⟨hrun, hrest⟩ := List.forall_mem_cons.1 hread
    obtain ⟨table, hruns, hgroups, hnew⟩ := ih hrest hothers
    refine ⟨(run, samples) :: table, by rw [List.map_cons, hruns], ?_, ?_⟩
    · rw [← Except.ok.inj h, ← Except.ok.inj hmade, hgroups, List.map_cons]
    · rw [hsamples] at hrun
      rw [readRuns] at hnew
      have hpath : (run.under parent).path = parent.join run.path := rfl
      rw [readRuns, List.map_cons, List.mapM_cons, hnew, hpath, hrun]
      rfl

/-- Summaries do not depend on labels, apart from carrying them. -/
theorem exists_relabelled (parent : Path) (variantOf : SampleGroup → Option Variant)
    {table : List (RunDir × List Float)} {summaries : List GroupSummary}
    (hvariant : ∀ row ∈ table, variantOf ((row.1.under parent).group row.2) = variantOf (row.1.group row.2))
    (h : (table.map fun row => row.1.group row.2).mapM (fun group => GroupSummary.of (variantOf group) group) =
      .ok summaries) :
    ∃ entries : List (Relabelled parent), entries.map (·.run) = table.map (·.1) ∧
      summaries = entries.map (·.before) ∧ (table.map fun row => (row.1.under parent).group row.2).mapM
        (fun group => GroupSummary.of (variantOf group) group) = .ok (entries.map (·.after)) := by
  induction table generalizing summaries with
  | nil =>
    cases h
    exact ⟨[], rfl, rfl, rfl⟩
  | cons row rest ih =>
    rw [List.map_cons, List.mapM_cons] at h
    obtain ⟨before, hbefore, h⟩ := Except.bind_eq_ok_iff.1 h
    obtain ⟨others, hothers, h⟩ := Except.bind_eq_ok_iff.1 h
    obtain ⟨hrow, hrest⟩ := List.forall_mem_cons.1 hvariant
    obtain ⟨entries, hruns, hsummaries, hnew⟩ := ih hrest hothers
    obtain ⟨hname, hvariant, hsamples, hsummary⟩ := GroupSummary.of_eq_ok_iff.1 hbefore
    let entry : Relabelled parent := ⟨row.1, before, { before with name := (row.1.under parent).label }, hname, rfl,
      rfl, rfl, rfl⟩
    have hafter : GroupSummary.of (variantOf ((row.1.under parent).group row.2)) ((row.1.under parent).group row.2) =
        .ok entry.after :=
      GroupSummary.of_eq_ok_iff.2 ⟨rfl, hvariant.trans hrow.symm, hsamples, hsummary⟩
    refine ⟨entry :: entries, by rw [List.map_cons, List.map_cons, hruns], ?_, ?_⟩
    · rw [← Except.ok.inj h, hsummaries, List.map_cons]
    · rw [List.map_cons, List.mapM_cons, hafter, hnew]
      rfl

/-! ### Charts of entries -/

namespace Relabelled

/-- The entries of a variant, in their order. -/
def ofVariant (variant : Variant) (entries : List (Relabelled parent)) : List (Relabelled parent) :=
  entries.filter (·.before.variant = some variant)

variable {entries : List (Relabelled parent)}

theorem entriesOf_before (variant : Variant) (entries : List (Relabelled parent)) :
    entriesOf variant (entries.map (·.before)) = (ofVariant variant entries).map (·.before) := List.filter_map

theorem entriesOf_after (variant : Variant) (entries : List (Relabelled parent)) :
    entriesOf variant (entries.map (·.after)) = (ofVariant variant entries).map (·.after) := by
  rw [entriesOf, List.filter_map, ofVariant]
  refine congrArg (List.map _) (List.filter_congr fun entry _ => ?_)
  rw [Function.comp_apply, entry.variant]

theorem barsOf_after (entries : List (Relabelled parent)) (offset : Float) (color : Nat → Color) :
    Chart.barsOf (entries.map (·.after)) offset color = Chart.barsOf (entries.map (·.before)) offset color := by
  refine List.ext_getElem? fun i => ?_
  rw [Chart.barsOf, Chart.barsOf, List.getElem?_mapIdx, List.getElem?_mapIdx, List.getElem?_map, List.getElem?_map]
  cases entries[i]? with
  | none => rfl
  | some entry => simp only [Option.map_some, entry.summary]

theorem single_after (entries : List (Relabelled parent)) (xLabel yLabel : String) (headroom : Float) :
    Chart.single (entries.map (·.after)) xLabel yLabel headroom =
      { Chart.single (entries.map (·.before)) xLabel yLabel headroom with
        ticks := (Chart.single (entries.map (·.after)) xLabel yLabel headroom).ticks } := by
  simp only [Chart.single, barsOf_after, List.length_map]

end Relabelled

/-- Ticks with the labels of runs. -/
def ticksAt (x : Nat → Float) (labels : List String) : List (Float × String) :=
  labels.mapIdx fun i label => (x i, label)

theorem ticks_single (groups : List GroupSummary) (xLabel yLabel : String) (headroom : Float) :
    (Chart.single groups xLabel yLabel headroom).ticks =
      ticksAt (fun i => Float.ofNat i + Chart.singleWidth / 2.0) (groups.map (·.name)) := by
  refine List.ext_getElem? fun i => ?_
  simp [Chart.single, ticksAt, Function.comp_def]

/-- Ticks stand for runs, whatever is taken for their labels. -/
theorem exists_ticksAt (x : Nat → Float) (runs : List RunDir) : ∃ shown : List (Float × RunDir),
    shown.map (·.2) = runs ∧
      ∀ label : RunDir → String, ticksAt x (runs.map label) = shown.map fun tick => (tick.1, label tick.2) := by
  refine ⟨runs.mapIdx fun i run => (x i, run), ?_, fun label => ?_⟩
  · refine List.ext_getElem? fun i => ?_
    simp [Function.comp_def]
  · refine List.ext_getElem? fun i => ?_
    simp [ticksAt, Function.comp_def]

/-- Charts of pairs differ in their ticks at most. -/
theorem Relabelled.exists_grouped {entries : List (Relabelled parent)} {labels : List String} {xLabel yLabel : String}
    {headroom : Float} {chart : Chart Float}
    (h : Chart.grouped (.tell (entries.map (·.before))) labels xLabel yLabel headroom = .ok chart)
    (labels' : List String) : ∃ n chart',
      Chart.grouped (.tell (entries.map (·.after))) labels' xLabel yLabel headroom = .ok chart' ∧
      chart' = { chart with ticks := chart'.ticks } ∧
      chart.ticks = ticksAt (fun i => Float.ofNat i + 0.35) (labels.take n) ∧
      chart'.ticks = ticksAt (fun i => Float.ofNat i + 0.35) (labels'.take n) := by
  rw [Chart.grouped, VariantSeries.tell] at h ⊢
  simp only [entriesOf_before, entriesOf_after, List.length_map, VariantSeries.side, barsOf_after] at h ⊢
  split at h
  · cases h
  rename_i heven
  cases h
  rw [if_neg heven]
  exact ⟨_, _, rfl, rfl, rfl, rfl⟩

/-! ### Sheets -/

section

variable {table : List (RunDir × List Float)} {settings : Settings} {sheets : List Sheet}

theorem variant_under {classifier : Classifier} {run : RunDir}
    (h : classifier.classify (parent.join run.path) = classifier.classify run.path) (samples : List Float) :
    ((run.under parent).group samples).variant classifier = (run.group samples).variant classifier := h

theorem exists_single_under {stem xLabel yLabel : String} {headroom : Float} {summaries : List GroupSummary}
    (h : (table.map fun row => row.1.group row.2).mapM (GroupSummary.of none) = .ok summaries) :
    ∃ summaries', (table.map fun row => (row.1.under parent).group row.2).mapM (GroupSummary.of none) = .ok summaries' ∧
      Sheet.SameUnder parent (table.map (·.1)) ⟨stem, Chart.single summaries xLabel yLabel headroom, summaries⟩
        ⟨stem, Chart.single summaries' xLabel yLabel headroom, summaries'⟩ := by
  obtain ⟨entries, hruns, rfl, hnew⟩ := exists_relabelled parent (fun _ => none) (fun _ _ => rfl) h
  refine ⟨_, hnew, rfl, ⟨entries, hruns ▸ .refl _, rfl, rfl⟩, Relabelled.single_after entries _ _ _, .inr ?_⟩
  obtain ⟨shown, hshown, hticks⟩ :=
    exists_ticksAt (fun i => Float.ofNat i + Chart.singleWidth / 2.0) (entries.map (·.run))
  refine ⟨shown, by rw [hshown, hruns], ?_, ?_⟩
  · rw [ticks_single, ← hticks, List.map_map, List.map_map]
    simp only [Function.comp_def, Relabelled.name_before]
  · rw [ticks_single, ← hticks fun run => (run.under parent).label, List.map_map, List.map_map]
    simp only [Function.comp_def, Relabelled.name_after]

theorem exists_pairs_under {stem yLabel : String} {headroom : Float} {summaries : List GroupSummary}
    {chart : Chart Float} (hvariant : ∀ row ∈ table, Classifier.containsLazy.classify (parent.join row.1.path) =
      Classifier.containsLazy.classify row.1.path)
    (hsummaries : GroupSummary.ofGroups .containsLazy (table.map fun row => row.1.group row.2) = .ok summaries)
    (hchart : pairsChart (table.map fun row => row.1.group row.2) yLabel headroom = .ok chart) :
    ∃ summaries' chart',
      GroupSummary.ofGroups .containsLazy (table.map fun row => (row.1.under parent).group row.2) = .ok summaries' ∧
      pairsChart (table.map fun row => (row.1.under parent).group row.2) yLabel headroom = .ok chart' ∧
      Sheet.SameUnder parent (table.map (·.1)) ⟨stem, chart, summaries⟩ ⟨stem, chart', summaries'⟩ := by
  obtain ⟨entries, hruns, rfl, hnew⟩ := exists_relabelled parent (fun group => some (group.variant .containsLazy))
    (fun row hrow => congrArg some (variant_under (hvariant row hrow) row.2)) hsummaries
  have hlabels (label : RunDir → String) (group : RunDir → List Float → SampleGroup)
      (hgroup : ∀ run samples, (group run samples).name = label run) :
      (everySecond (table.map fun row => group row.1 row.2)).map (·.name) =
        (everySecond (table.map (·.1))).map label := by
    rw [map_everySecond, map_everySecond, List.map_map, List.map_map]
    simp only [Function.comp_def, hgroup]
  rw [pairsChart, VariantSeries.ofGroups_eq, hsummaries, Except.map, Except.ok_bind,
    hlabels RunDir.label RunDir.group fun _ _ => rfl] at hchart
  obtain ⟨n, chart', hchart', hsame, hticks, hticks'⟩ := Relabelled.exists_grouped hchart
    ((everySecond (table.map (·.1))).map fun run => (run.under parent).label)
  refine ⟨_, chart', hnew, ?_, rfl, ⟨entries, hruns ▸ .refl _, rfl, rfl⟩, hsame, .inr ?_⟩
  · rw [← hchart', pairsChart, VariantSeries.ofGroups_eq, GroupSummary.ofGroups, hnew, Except.map, Except.ok_bind,
      hlabels (fun run => (run.under parent).label) (fun run => (run.under parent).group) fun _ _ => rfl]
  · obtain ⟨shown, hshown, hticksAt⟩ := exists_ticksAt (fun i => Float.ofNat i + 0.35)
      ((everySecond (table.map (·.1))).take n)
    refine ⟨shown, ?_, ?_, ?_⟩
    · rw [hshown]
      exact (List.take_sublist n _).trans (everySecond_sublist _)
    · rw [hticks, ← hticksAt, List.map_take]
    · rw [hticks', ← hticksAt fun run => (run.under parent).label, List.map_take]

theorem Relabelled.perm_ofVariant {entries : List (Relabelled parent)}
    (h : ∀ entry ∈ entries.map (·.before), entry.variant ≠ none) :
    ((ofVariant .lazy entries ++ ofVariant .nonLazy entries).map (·.run)).Perm (entries.map (·.run)) :=
  (filter_variant_perm fun _ hentry => h _ (List.mem_map_of_mem hentry)).map _

/-- The chart of a phase shows no labels of runs, so it is the same. -/
theorem exists_phase_under {stem : String} {top : Float} {sheet : Sheet}
    (hvariant : ∀ row ∈ table, Classifier.containsNonLazy.classify (parent.join row.1.path) =
      Classifier.containsNonLazy.classify row.1.path)
    (h : phaseSheet stem top (table.map fun row => row.1.group row.2) = .ok sheet) :
    ∃ sheet', phaseSheet stem top (table.map fun row => (row.1.under parent).group row.2) = .ok sheet' ∧
      Sheet.SameUnder parent (table.map (·.1)) sheet sheet' ∧ sheet'.chart = sheet.chart := by
  obtain ⟨_, -, h⟩ := Except.bind_eq_ok_iff.1 h
  obtain ⟨series, hseries, h⟩ := Except.bind_eq_ok_iff.1 h
  obtain ⟨chart, hchart, h⟩ := Except.bind_eq_ok_iff.1 h
  cases h
  rw [Except.mapError_eq_ok_iff, VariantSeries.ofGroups_eq, Except.map_eq_ok_iff] at hseries
  obtain ⟨summaries, hsummaries, rfl⟩ := hseries
  obtain ⟨entries, hruns, rfl, hnew⟩ := exists_relabelled parent (fun group => some (group.variant .containsNonLazy))
    (fun row hrow => congrArg some (variant_under (hvariant row hrow) row.2)) hsummaries
  obtain ⟨lazyEntry, nonLazyEntry, hlazy, hnonLazy, rfl⟩ :=
    Chart.ofLast_eq_ok_iff.1 (Except.mapError_eq_ok_iff.1 hchart)
  have hlast (variant : Variant) (entry : GroupSummary)
      (hentry : (entriesOf variant (entries.map (·.before))).getLast? = some entry) :
      ∃ entry', (entriesOf variant (entries.map (·.after))).getLast? = some entry' ∧
        entry'.summary = entry.summary := by
    rw [Relabelled.entriesOf_before, List.getLast?_map] at hentry
    obtain ⟨last, hlast, rfl⟩ := Option.map_eq_some_iff.1 hentry
    exact ⟨last.after, by rw [Relabelled.entriesOf_after, List.getLast?_map, hlast]; rfl, last.summary⟩
  obtain ⟨lazyEntry', hlazy', hlazySummary⟩ := hlast _ _ hlazy
  obtain ⟨nonLazyEntry', hnonLazy', hnonLazySummary⟩ := hlast _ _ hnonLazy
  have hafter : GroupSummary.ofGroups .containsNonLazy (table.map fun row => (row.1.under parent).group row.2) =
      .ok (entries.map (·.after)) := hnew
  have hchart' : Chart.ofLast (.tell (entries.map (·.after))) "Bandwidth (KB/s)" top =
      .ok (Chart.ofTwo lazyEntry.summary nonLazyEntry.summary "Bandwidth (KB/s)" top) :=
    Chart.ofLast_eq_ok_iff.2 ⟨lazyEntry', nonLazyEntry', hlazy', hnonLazy', by rw [hlazySummary, hnonLazySummary]⟩
  refine ⟨⟨stem, Chart.ofTwo lazyEntry.summary nonLazyEntry.summary "Bandwidth (KB/s)" top,
    (VariantSeries.tell (entries.map (·.after))).all⟩, ?_, ⟨rfl, ?_, rfl, .inl rfl⟩, rfl⟩
  · have hsums := error?_forM_summarize (table.map fun row => (row.1.under parent).group row.2)
    rw [← error?_groupSummaries .containsNonLazy, hafter] at hsums
    obtain ⟨_, hsums⟩ := Except.error?_eq_none_iff.1 hsums
    rw [phaseSheet, hsums, VariantSeries.ofGroups_eq, hafter]
    simp only [Except.ok_bind, Except.map, Except.mapError, hchart']
    rfl
  · refine ⟨Relabelled.ofVariant .lazy entries ++ Relabelled.ofVariant .nonLazy entries, ?_, ?_, ?_⟩
    · exact hruns ▸ Relabelled.perm_ofVariant (variant_ne_none_of_ofGroups hsummaries)
    · rw [List.map_append, ← Relabelled.entriesOf_before, ← Relabelled.entriesOf_before]
      rfl
    · rw [List.map_append, ← Relabelled.entriesOf_after, ← Relabelled.entriesOf_after]
      rfl

end

namespace Outline

variable {outline : Outline} {settings : Settings} {sheets : List Sheet}

/-- The same is read from runs below the parent, and their directories have the same variants there. -/
structure ReadsUnder (outline : Outline) (parent : Path) (runs : List RunDir) (settings : Settings) (old new : Store) :
    Prop where
  reads : ∀ run ∈ runs, outline.query.readAll (outline.reader settings) new (parent.join run.path) =
    (outline.query.readAll (outline.reader settings) old run.path).mapError (Failure.mapPaths parent.join)
  variants : ∀ run ∈ runs, ∀ classifier : Classifier,
    classifier.classify (parent.join run.path) = classifier.classify run.path

theorem exists_bandwidthSheets_under (h : bandwidth.ReadsUnder parent runs settings old new)
    (hsheets : bandwidth.sheets runs settings old = .ok sheets) :
    ∃ sheets', bandwidth.sheets (runs.map (RunDir.under parent)) settings new = .ok sheets' ∧
      List.Forall₂ (fun sheet sheet' => sheet.SameUnder parent runs sheet' ∧ sheet'.chart = sheet.chart)
        sheets sheets' := by
  obtain ⟨groups, hgroups, hsheets⟩ := Except.bind_eq_ok_iff.1 hsheets
  obtain ⟨table, rfl, rfl, hnew⟩ := FileQuery.exists_table (α := Log.Bandwidth.Sample) h.reads hgroups
  -- both phases summarise what is read, the same for either path
  have hphase (stem : String) (top : Float) (bytes : Log.Bandwidth.Sample → Float) {sheet : Sheet}
      (hsheet : phaseSheet stem top (ratesOf settings (phaseGroups (table.map fun row => ⟨row.1, row.2⟩) bytes)) =
        .ok sheet) : ∃ sheet', phaseSheet stem top (ratesOf settings (phaseGroups
          (table.map fun row => ⟨row.1.under parent, row.2⟩) bytes)) = .ok sheet' ∧
        sheet.SameUnder parent (table.map (·.1)) sheet' ∧ sheet'.chart = sheet.chart := by
    have hrates (run : RunDir → RunDir) :
        ratesOf settings (phaseGroups (table.map fun row => ⟨run row.1, row.2⟩) bytes) =
          (table.map fun row => (row.1, (row.2.map bytes).map (· / Float.ofInt settings.bandwidth.windows.startup))).map
            fun row => (run row.1).group row.2 := by
      rw [ratesOf, phaseGroups, List.map_map, List.map_map, List.map_map]
      rfl
    have hruns : (table.map fun row =>
        (row.1, (row.2.map bytes).map (· / Float.ofInt settings.bandwidth.windows.startup))).map (·.1) =
          table.map (·.1) := by
      rw [List.map_map]
      rfl
    have hbefore := hrates id
    dsimp only [id] at hbefore
    rw [hbefore] at hsheet
    rw [hrates (RunDir.under parent), ← hruns]
    refine exists_phase_under (fun row hrow => ?_) hsheet
    exact h.variants _ (hruns ▸ List.mem_map_of_mem hrow) _
  obtain ⟨startup, hstartup, hsheets⟩ := Except.bind_eq_ok_iff.1 hsheets
  obtain ⟨after, hafter, hsheets⟩ := Except.bind_eq_ok_iff.1 hsheets
  cases hsheets
  obtain ⟨startup', hstartup', hsameStartup⟩ := hphase _ _ _ hstartup
  obtain ⟨after', hafter', hsameAfter⟩ := hphase _ _ _ hafter
  refine ⟨[startup', after'], ?_, .cons hsameStartup (.cons hsameAfter .nil)⟩
  refine (congrArg (· >>= _) hnew).trans ?_
  simp only [Except.ok_bind, hstartup', hafter', Except.pure_eq_ok]

theorem exists_pairSheets_under {reader : Reader Float} {stem yLabel : String} {headroom : Float}
    (hread : ∀ run ∈ runs, query.readAll reader new (parent.join run.path) =
      (query.readAll reader old run.path).mapError (Failure.mapPaths parent.join))
    (hvariant : ∀ run ∈ runs, Classifier.containsLazy.classify (parent.join run.path) =
      Classifier.containsLazy.classify run.path)
    (hsheets : (do
      let groups ← query.readRuns reader RunDir.group runs old
      let summaries ← (GroupSummary.ofGroups .containsLazy groups).mapError Failure.fault
      let chart ← (pairsChart groups yLabel headroom).mapError Failure.fault
      return ([⟨stem, chart, summaries⟩] : List Sheet)) = .ok sheets) :
    ∃ sheets', (do
      let groups ← query.readRuns reader RunDir.group (runs.map (RunDir.under parent)) new
      let summaries ← (GroupSummary.ofGroups .containsLazy groups).mapError Failure.fault
      let chart ← (pairsChart groups yLabel headroom).mapError Failure.fault
      return ([⟨stem, chart, summaries⟩] : List Sheet)) = .ok sheets' ∧
      List.Forall₂ (Sheet.SameUnder parent runs) sheets sheets' := by
  obtain ⟨groups, hgroups, hsheets⟩ := Except.bind_eq_ok_iff.1 hsheets
  obtain ⟨table, rfl, rfl, hnew⟩ := FileQuery.exists_table hread hgroups
  obtain ⟨summaries, hsummaries, hsheets⟩ := Except.bind_eq_ok_iff.1 hsheets
  obtain ⟨chart, hchart, hsheets⟩ := Except.bind_eq_ok_iff.1 hsheets
  cases hsheets
  obtain ⟨summaries', chart', hsummaries', hchart', hsame⟩ := exists_pairs_under
    (fun row hrow => hvariant _ (List.mem_map_of_mem hrow)) (Except.mapError_eq_ok_iff.1 hsummaries)
    (Except.mapError_eq_ok_iff.1 hchart)
  refine ⟨_, ?_, .cons hsame .nil⟩
  rw [hnew, Except.ok_bind, hsummaries', hchart']
  rfl

theorem exists_sheets_under (hmem : outline ∈ all) (h : outline.ReadsUnder parent runs settings old new)
    (hsheets : outline.sheets runs settings old = .ok sheets) :
    ∃ sheets', outline.sheets (runs.map (RunDir.under parent)) settings new = .ok sheets' ∧
      List.Forall₂ (Sheet.SameUnder parent runs) sheets sheets' := by
  rcases mem_all_iff.1 hmem with rfl | rfl | rfl | rfl
  · obtain ⟨sheets', hsheets', hsame⟩ := exists_bandwidthSheets_under h hsheets
    exact ⟨sheets', hsheets', hsame.imp fun _ _ hsame => hsame.1⟩
  · exact exists_pairSheets_under h.reads (fun run hrun => h.variants run hrun _) hsheets
  · obtain ⟨groups, hgroups, hsheets⟩ := Except.bind_eq_ok_iff.1 hsheets
    obtain ⟨table, rfl, rfl, hnew⟩ := FileQuery.exists_table (α := Float) h.reads hgroups
    obtain ⟨summaries, hsummaries, hsheets⟩ := Except.bind_eq_ok_iff.1 hsheets
    cases hsheets
    obtain ⟨summaries', hsummaries', hsame⟩ := exists_single_under (Except.mapError_eq_ok_iff.1 hsummaries)
    refine ⟨_, ?_, .cons hsame .nil⟩
    refine (congrArg (· >>= _) hnew).trans ?_
    rw [Except.ok_bind, hsummaries']
    rfl
  · exact exists_pairSheets_under h.reads (fun run hrun => h.variants run hrun _) hsheets

end Outline

end RunCharts
