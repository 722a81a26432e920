import RunCharts.CommandLine.Program
import RunCharts.Proofs.Analysis.Printed
import RunCharts.Proofs.Analysis.Verdict
import RunCharts.Proofs.Chart.Grouped

/-! # Runs in pairs

Cache misses and cached elements are shown in pairs of runs. What is printed, the numbers behind the chart and the
chart itself are made on separate ways; they all show the same entries, one for each run (`shown_of_runNamed`).

The entries are those that the groups of the runs are summarised to. The lines follow from what the analysis prints
(`exists_prints`), the numbers from what it leaves behind (`read_dataPath_of_emit`), and the chart from the groups
(`showsPairs_of_pairsChart`); the names in the chart are every fourth argument (`getElem?_of_ofPairs`). -/

namespace RunCharts

open Files Command CommandLine Analysis Analysis.Cache

/-- An analysis that shows runs in pairs: the files that it reads, what it reads them as, and its chart. -/
structure PairsOutline where
  analysis : Analysis
  query : FileQuery
  reader : Settings → Reader Float
  stem : String
  yLabel : String
  headroom : Settings → Float

variable {outline : PairsOutline} {arguments : List String} {runs : List RunDir} {settings : Settings}
  {session left : Session} {store : Store}

/-! ### The arguments -/

/-- The labels are the first, third, fifth … argument. -/
theorem getElem?_of_ofPairs (h : RunDir.ofPairs arguments = .ok runs) (i : Nat) :
    arguments[2 * i]? = runs[i]?.map (·.label) := by
  induction arguments using RunDir.ofPairs.induct generalizing runs i with
  | case1 =>
    cases h
    rfl
  | case2 name => cases h
  | case3 name path rest ih =>
    obtain ⟨more, hmore, rfl⟩ := Except.map_eq_ok_iff.1 h
    cases i with
    | zero => rfl
    | succ i =>
      rw [Nat.mul_succ, List.getElem?_cons_succ, List.getElem?_cons_succ, List.getElem?_cons_succ]
      exact ih hmore i

theorem runNamed_eq_ok_iff {analysis : Analysis} :
    (runNamed analysis arguments settings).runOn session = (.ok (), left) ↔ ∃ runs paths,
      RunDir.ofPairs arguments = .ok runs ∧ (analysis.run runs settings).runOn session = (.ok paths, left) := by
  rw [runNamed]
  cases RunDir.ofPairs arguments with
  | error name => exact iff_of_false nofun fun ⟨_, _, h, _⟩ => nomatch h
  | ok runs =>
    have hrun : (do
        let runs ← ofExcept ((Except.ok runs).mapError Fault.unpairedArgument)
        let _ ← analysis.run runs settings).runOn session =
          (analysis.run runs settings >>= fun _ => pure ()).runOn session := rfl
    rw [hrun, runOn_bind]
    simp only [Except.ok.injEq, exists_and_left, exists_eq_left']
    rcases (analysis.run runs settings).runOn session with ⟨failure | paths, new⟩
    · exact iff_of_false nofun fun ⟨_, h⟩ => nomatch h
    · constructor
      · intro h
        cases h
        exact ⟨paths, rfl⟩
      · rintro ⟨_, h⟩
        cases h
        rfl

namespace PairsOutline

def misses : PairsOutline where
  analysis := cacheMisses
  query := scoutLogs "miss-no-object-count"
  reader settings := Cache.misses settings.cache.missStart
  stem := "swiftlinks-cache-misses"
  yLabel := missesLabel
  headroom settings := settings.cache.missHeadroom

def elements : PairsOutline where
  analysis := cacheElements
  query := scoutLogs "size-elements-poll"
  reader _ := Cache.elements
  stem := "swiftlinks-cache-elements"
  yLabel := "Number of elements"
  headroom settings := settings.cache.elementsHeadroom

def all : List PairsOutline := [misses, elements]

def sheets (outline : PairsOutline) (runs : List RunDir) (settings : Settings) (store : Store) :
    Except Failure (List Sheet) := do
  let groups ← outline.query.readRuns (outline.reader settings) RunDir.group runs store
  let entries ← (GroupSummary.ofGroups .containsLazy groups).mapError .fault
  let chart ← (pairsChart groups outline.yLabel (outline.headroom settings)).mapError .fault
  return [⟨outline.stem, chart, entries⟩]

theorem plans (h : outline ∈ all) (runs : List RunDir) (settings : Settings) :
    (outline.analysis.charts runs settings).Plans settings (outline.sheets runs settings) := by
  simp only [all, List.mem_cons, List.not_mem_nil, or_false] at h
  rcases h with rfl | rfl
  · exact plans_cacheMisses runs settings
  · exact plans_cacheElements runs settings

/-- Whatever the way in which the lines are printed, in the end there is one for each entry. -/
theorem exists_prints (h : outline ∈ all) (runs : List RunDir) (settings : Settings) : ∃ lines,
    (outline.analysis.charts runs settings).Prints lines ∧ ∀ store groups entries,
      outline.query.readRuns (outline.reader settings) RunDir.group runs store = .ok groups →
        GroupSummary.ofGroups .containsLazy groups = .ok entries → lines store = entries.map (·.line) := by
  simp only [all, List.mem_cons, List.not_mem_nil, or_false] at h
  rcases h with rfl | rfl
  · refine ⟨_, prints_cacheMisses runs settings, fun store groups entries hgroups hentries => ?_⟩
    have hread : (scoutLogs "miss-no-object-count").readRuns (Cache.misses settings.cache.missStart) RunDir.group runs
      store = .ok groups := hgroups
    rw [hread, linesOf, hentries]
    rfl
  · refine ⟨_, prints_cacheElements runs settings, fun store groups entries hgroups hentries => ?_⟩
    have hread : (scoutLogs "size-elements-poll").readRuns Cache.elements RunDir.group runs store = .ok groups :=
      hgroups
    have hall : groups.mapM (fun group => (GroupSummary.of (some (group.variant .containsLazy)) group).mapError
        Failure.fault) = .ok entries := by
      rw [← Except.mapError_mapM]
      exact Except.mapError_eq_ok_iff.2 hentries
    rw [hread, linesOf, linesAlong_of_mapM hall]
    exact List.map_eq_flatMap.symm

/-- The entry shows a run: its name, its variant, what is read from its files, and the summary of that. -/
structure EntryOf (outline : PairsOutline) (settings : Settings) (store : Store) (run : RunDir) (entry : GroupSummary) :
    Prop where
  name : entry.name = run.label
  variant : entry.variant = some (Classifier.containsLazy.classify run.path)
  samples : outline.query.readAll (outline.reader settings) store run.path = .ok entry.samples
  summary : Summary.of? entry.samples = some entry.summary

theorem entryOf_of_readRuns {groups : List SampleGroup} {entries : List GroupSummary}
    (hgroups : outline.query.readRuns (outline.reader settings) RunDir.group runs store = .ok groups)
    (hentries : GroupSummary.ofGroups .containsLazy groups = .ok entries) :
    List.Forall₂ (outline.EntryOf settings store) runs entries := by
  have hread := Except.mapM_eq_ok_iff.1 hgroups
  have hsummed := forall₂_of_ofGroups hentries
  clear hgroups hentries
  induction hread generalizing entries with
  | nil =>
    cases hsummed
    exact .nil
  | cons hgroup _ ih =>
    cases hsummed with
    | cons hentry hrest =>
      refine .cons ?_ (ih hrest)
      obtain ⟨samples, hsamples, hgroup⟩ := Except.bind_eq_ok_iff.1 hgroup
      cases hgroup
      obtain ⟨hname, hvariant, hsame, hsummary⟩ := GroupSummary.of_eq_ok_iff.1 hentry
      refine ⟨hname, hvariant, ?_, ?_⟩
      · rw [hsame]
        exact hsamples
      · rw [hsame]
        exact hsummary

theorem map_name_eq_map_label {entries : List GroupSummary}
    (h : List.Forall₂ (outline.EntryOf settings store) runs entries) :
    entries.map (·.name) = runs.map (·.label) := by
  induction h with
  | nil => rfl
  | cons hentry _ ih => rw [List.map_cons, List.map_cons, hentry.name, ih]

/-- Runs of one name and both variants, one pair after the other. -/
def ComeInPairs (runs : List RunDir) : Prop :=
  ∀ (j : Nat) first second, runs[2 * j]? = some first → runs[2 * j + 1]? = some second →
    first.label = second.label ∧
      Classifier.containsLazy.classify first.path ≠ Classifier.containsLazy.classify second.path

theorem ComeInPairs.entries {entries : List GroupSummary} (hruns : ComeInPairs runs)
    (h : List.Forall₂ (outline.EntryOf settings store) runs entries) : RunCharts.ComeInPairs entries := by
  intro j first second hfirst hsecond
  have hget (i : Nat) (entry : GroupSummary) (hentry : entries[i]? = some entry) :
      ∃ run, runs[i]? = some run ∧ outline.EntryOf settings store run entry := by
    obtain ⟨hlength, hall⟩ := List.forall₂_iff_get.1 h
    obtain ⟨hi, rfl⟩ := List.getElem?_eq_some_iff.1 hentry
    exact ⟨_, List.getElem?_eq_getElem (hlength ▸ hi), hall i (hlength ▸ hi) hi⟩
  obtain ⟨run, hrun, hshown⟩ := hget _ _ hfirst
  obtain ⟨run', hrun', hshown'⟩ := hget _ _ hsecond
  obtain ⟨hlabel, hvariant⟩ := hruns j run run' hrun hrun'
  rw [hshown.name, hshown'.name, hshown.variant, hshown'.variant]
  exact ⟨hlabel, fun heq => hvariant (Option.some.inj heq)⟩

theorem exists_emit_of_mapM_singleton {sheet : Sheet} {paths : List Path} {new : Store}
    (h : ([sheet].mapM (Sheet.emit settings)).outcome session = (.ok paths, new)) :
    ∃ page, (sheet.emit settings).outcome session = (.ok page, new) := by
  rw [outcome_mapM_singleton] at h
  rcases hpage : (sheet.emit settings).outcome session with ⟨failure | page, left⟩ <;> rw [hpage] at h
  · cases h
  · obtain ⟨-, rfl⟩ := Prod.mk.inj h
    exact ⟨page, rfl⟩

/-- What is printed, the numbers that are written and the chart all show the entries, one for each run. -/
structure Shown (outline : PairsOutline) (arguments : List String) (settings : Settings) (session left : Session)
    (runs : List RunDir) (entries : List GroupSummary) (chart : Chart Float) : Prop where
  named : RunDir.ofPairs arguments = .ok runs
  /-- The entries and the chart are what is written once the output directory has been made. -/
  written : ∃ store page, (ensureDir settings.outputDir).outcome session = (.ok (), store) ∧
    List.Forall₂ (outline.EntryOf settings store) runs entries ∧
    (Sheet.emit settings ⟨outline.stem, chart, entries⟩).outcome { store } = (.ok page, left.store)
  printed : left.printed = session.printed ++ entries.map (·.line)
  data : left.store.read (settings.dataPath outline.stem) = .ok (octets (PlotData.render entries))
  showsPairs : chart.ShowsPairs entries
  /-- A tick stands for two runs, with two arguments each, and has the label of the first one. -/
  labels : ∀ j, chart.ticks[j]?.map (·.2) = arguments[4 * j]?
  /-- Where the runs come in pairs, a tick has the name of both bars at its sides. -/
  paired : ComeInPairs runs → ∀ variant, chart.ticks.map (·.2) = (entriesOf variant entries).map (·.name)

/-- A run that succeeds shows the same entries in what it prints, in the numbers that it writes and in its chart. -/
theorem shown_of_runNamed (h : outline ∈ all)
    (hrun : (runNamed outline.analysis arguments settings).runOn session = (.ok (), left)) :
    ∃ runs entries chart, outline.Shown arguments settings session left runs entries chart := by
  obtain ⟨runs, paths, hruns, hanalysis⟩ := runNamed_eq_ok_iff.1 hrun
  have hout : (outline.analysis.run runs settings).outcome session = (.ok paths, left.store) := by
    rw [outcome, hanalysis]
  rw [Analysis.outcome_run (plans h runs settings)] at hout
  rcases hmade : (ensureDir settings.outputDir).outcome session with ⟨failure | done, store⟩ <;> rw [hmade] at hout
  · cases hout
  dsimp only at hout
  cases hsheets : outline.sheets runs settings store with
  | error failure =>
    rw [hsheets] at hout
    cases hout
  | ok sheets =>
    rw [hsheets] at hout
    obtain ⟨groups, hgroups, hsheets⟩ := Except.bind_eq_ok_iff.1 hsheets
    obtain ⟨entries, hentries, hsheets⟩ := Except.bind_eq_ok_iff.1 hsheets
    obtain ⟨chart, hchart, hsheets⟩ := Except.bind_eq_ok_iff.1 hsheets
    cases hsheets
    rw [Except.mapError_eq_ok_iff] at hentries hchart
    -- the groups are the same ones for the lines, the numbers and the chart
    have hshown := entryOf_of_readRuns hgroups hentries
    have hpairs := showsPairs_of_pairsChart hentries hchart
    have hvariants := variant_ne_none_of_ofGroups hentries
    have hnames := map_name_eq_map_label hshown
    obtain ⟨page, hemit⟩ := exists_emit_of_mapM_singleton hout
    have hprinted : left.printed = session.printed ++ entries.map (·.line) := by
      obtain ⟨lines, hprints, hlines⟩ := exists_prints h runs settings
      have hrun := Analysis.prints_run hprints session
      rw [hanalysis, linesAfter, ← isPlain_ensureDir _ session, hmade, linesOf,
        hlines store groups entries hgroups hentries] at hrun
      exact hrun
    have hdata := read_dataPath_of_emit hemit
    dsimp only at hdata
    refine ⟨runs, entries, chart, hruns, ⟨store, page, hmade, hshown, hemit⟩, hprinted, hdata, hpairs, fun j => ?_,
      fun hcome variant => ?_⟩
    · have hfour : 4 * j = 2 * (2 * j) := by omega
      rw [← List.getElem?_map, hpairs.map_ticks, getElem?_everySecond, hnames, hfour, getElem?_of_ofPairs hruns,
        List.getElem?_map]
    · rw [hpairs.map_ticks, map_name_entriesOf hpairs.ticks_length.symm hvariants (hcome.entries hshown)]

/-! ### A pair of runs -/

/-- A store with the logs of a lazy and of a non-lazy run. -/
def scouts : Store where
  nodes := [([], .dir), (["plot_data"], .dir), (["scout-1"], .dir), (["scout-1", "miss-no-object-count"], .file []),
    (["scout-1-lazy"], .dir), (["scout-1-lazy", "miss-no-object-count"], .file [])]
  sorted := by decide
  root_mem := by decide
  parent_mem := by decide
  named := by decide

/-- The runs of one label, the non-lazy one first. -/
def scoutRuns : List RunDir :=
  [⟨some "a", "scout-1/miss-no-object-count"⟩, ⟨some "a", "scout-1-lazy/miss-no-object-count"⟩]

theorem isPlain_scouts : scouts.IsPlain := ⟨rfl, by simp [scouts]⟩

theorem passes_scouts (settings : Settings) : Outline.cacheMisses.Passes scoutRuns settings scouts := by
  have hmatched : Outline.cacheMisses.Matched (scoutRuns.map (·.path)) :=
    show Classifier.containsLazy.count _ _ = Classifier.containsLazy.count _ _ by decide
  refine Outline.passes_iff.2 ⟨fun run hrun => ?_, hmatched⟩
  have hfile (path : Path) (at_ : Location) (hresolve : scouts.resolve path = .ok at_)
      (hnode : scouts.node? at_ = some (.file [])) (hbelow : scouts.below at_ = [])
      (hselects : Outline.cacheMisses.query.selects path = true) :
      ∃ files, Outline.cacheMisses.query.selected path scouts = .ok files ∧ files ≠ [] ∧
        ∀ file ∈ files, ∃ value, Outline.cacheMisses.reader settings file scouts = .ok value := by
    refine ⟨_, FileQuery.selected_of_isFile hresolve hnode hbelow hselects, List.cons_ne_nil _ _, fun file hmem => ?_⟩
    rw [List.mem_singleton.1 hmem]
    exact ⟨_, misses_of_read (Store.read_eq_ok_iff.2 ⟨_, hresolve, hnode⟩)⟩
  rcases List.mem_cons.1 hrun with rfl | hrun
  · exact hfile _ ["scout-1", "miss-no-object-count"] (isPlain_scouts.resolve (by decide)) rfl rfl (by decide)
  · rw [List.mem_singleton.1 hrun]
    exact hfile _ ["scout-1-lazy", "miss-no-object-count"] (isPlain_scouts.resolve (by decide)) rfl rfl (by decide)

theorem exists_sheet_scouts (settings : Settings) : ∃ chart entries,
    misses.sheets scoutRuns settings scouts = .ok [⟨misses.stem, chart, entries⟩] ∧
      ∀ text ∈ chart.texts, Pdf.IsXmlText text := by
  have hmem : Outline.cacheMisses ∈ Outline.all := by simp [Outline.all]
  obtain ⟨sheets, hsheets⟩ := (Outline.exists_sheets_iff hmem scoutRuns settings scouts).2 (passes_scouts settings)
  obtain ⟨groups, hgroups, hrest⟩ := Except.bind_eq_ok_iff.1 hsheets
  obtain ⟨entries, hentries, hrest⟩ := Except.bind_eq_ok_iff.1 hrest
  obtain ⟨chart, hchart, hrest⟩ := Except.bind_eq_ok_iff.1 hrest
  cases hrest
  refine ⟨chart, entries, hsheets, ?_⟩
  obtain ⟨series, -, hgrouped⟩ := Except.bind_eq_ok_iff.1 (Except.mapError_eq_ok_iff.1 hchart)
  have hnames : (everySecond groups).map (·.name) = ["a"] := by
    have hlabels : groups.map (·.name) = scoutRuns.map (·.label) := FileQuery.map_of_readRuns (fun _ _ => rfl) hgroups
    rw [map_everySecond, hlabels]
    rfl
  rw [hnames] at hgrouped
  rw [Pdf.texts_grouped hgrouped, List.forall_mem_cons, List.forall_mem_cons, List.forall_mem_append]
  refine ⟨by decide, by decide, fun text hmem => ?_, by decide⟩
  rw [List.mem_singleton.1 (List.mem_of_mem_take hmem)]
  decide

theorem exists_run_scouts : ∃ left, (runNamed misses.analysis
    ["a", "scout-1/miss-no-object-count", "a", "scout-1-lazy/miss-no-object-count"] { outputDir := "" }).runOn
      { store := scouts } = (.ok (), left) := by
  obtain ⟨chart, entries, hsheets, htexts⟩ := exists_sheet_scouts { outputDir := "" }
  have hparent : (Settings.pagePath { outputDir := "" } "swiftlinks-cache-misses").parent? = some "" := by decide
  have hdir : scouts.exists? "plot_data" = true :=
    Store.IsStraight.exists? (show scouts.IsStraight "plot_data" ["plot_data"] by decide) rfl rfl
  have hpage := (Pdf.isSome_page?_draw chart ⟨640, 480⟩).2 ⟨by decide, by decide, htexts⟩
  have hopen : ∀ sheet ∈ [(⟨misses.stem, chart, entries⟩ : Sheet)],
      ∀ step ∈ sheet.steps .actual { outputDir := "" }, step.IsOpen scouts := by
    intro sheet hsheet
    rw [List.mem_singleton.1 hsheet, misses]
    refine isOpen_steps ?_ ?_ ?_ hdir ?_ hpage <;> dsimp only
    · rw [hparent]
      exact fun dir hdir => .inl (Option.some.inj hdir).symm
    · exact isPlain_scouts.isWritable ["swiftlinks-cache-misses.svg"] (by decide) (by decide)
    · exact isPlain_scouts.isWritable ["swiftlinks-cache-misses.pdf"] (by decide) (by decide)
    · exact isPlain_scouts.isWritable ["plot_data", "swiftlinks-cache-misses.json"] (by decide) (by decide)
  have hmem : Outline.cacheMisses ∈ Outline.all := by simp [Outline.all]
  obtain ⟨left, hrun⟩ := Outline.exists_run_of_isOpen hmem (.inl rfl) hsheets hopen
  exact ⟨left, runNamed_eq_ok_iff.2 ⟨scoutRuns, _, rfl, hrun⟩⟩

theorem comeInPairs_scoutRuns : ComeInPairs scoutRuns := by
  intro j first second hfirst hsecond
  cases j with
  | zero =>
    cases hfirst
    cases hsecond
    decide
  | succ j =>
    have hlength : (scoutRuns : List RunDir).length = 2 := rfl
    rw [List.getElem?_eq_none (by omega)] at hfirst
    cases hfirst

theorem shown_of_runNamed_scouts : ∃ left runs entries chart, (runNamed misses.analysis
    ["a", "scout-1/miss-no-object-count", "a", "scout-1-lazy/miss-no-object-count"] { outputDir := "" }).runOn
      { store := scouts } = (.ok (), left) ∧
    misses.Shown ["a", "scout-1/miss-no-object-count", "a", "scout-1-lazy/miss-no-object-count"] { outputDir := "" }
      { store := scouts } left runs entries chart ∧ ComeInPairs runs := by
  obtain ⟨left, hrun⟩ := exists_run_scouts
  obtain ⟨runs, entries, chart, hshown⟩ := shown_of_runNamed (by simp [all]) hrun
  have hruns : scoutRuns = runs := Except.ok.inj hshown.named
  exact ⟨left, runs, entries, chart, hrun, hshown, hruns ▸ comeInPairs_scoutRuns⟩

end PairsOutline

end RunCharts
