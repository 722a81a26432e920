import RunCharts.Proofs.Analysis.Found
import RunCharts.Proofs.Analysis.Script

/-! # When an analysis succeeds, and how it fails

Where the sheets of an analysis can be written, it fails with the first fault in a fixed order: what cannot be
read comes before runs without files, and these before what is wrong with the variants (`run_eq_verdict`). -/

namespace RunCharts

open Files Command

variable {α γ : Type} {query : FileQuery} {reader : Reader α} {store : Store} {runs : List RunDir}

/-- Whether none of the files of a run is selected. -/
def FileQuery.isBare (query : FileQuery) (store : Store) (run : Path) : Bool :=
  match query.selected run store with
  | .ok [] => true
  | _ => false

def FileQuery.shortage? (query : FileQuery) (store : Store) (runs : List RunDir) : Option Fault :=
  (runs.find? fun run => query.isBare store run.path).map fun run => .emptySampleSet run.label

theorem FileQuery.isEmpty_readAll {samples : List α} {run : Path}
    (h : query.readAll reader store run = .ok samples) : samples.isEmpty = query.isBare store run := by
  obtain ⟨files, hfiles, hsamples⟩ := Except.bind_eq_ok_iff.1 h
  have hlength := (Except.mapM_eq_ok_iff.1 hsamples).length_eq
  rw [isBare, hfiles]
  cases files with
  | nil => rw [List.length_eq_zero_iff.1 hlength.symm]; rfl
  | cons file rest =>
    cases samples with
    | nil => cases hlength
    | cons sample more => rfl

theorem FileQuery.failure?_eq_none_iff {run : Path} :
    query.failure? reader store run = none ∧ query.isBare store run = false ↔
      ∃ files, query.selected run store = .ok files ∧ files ≠ [] ∧
        ∀ file ∈ files, ∃ value, reader file store = .ok value := by
  rw [failure?, isBare]
  cases query.selected run store with
  | error failure => simp
  | ok files =>
    simp only [List.findSome?_eq_none_iff, Except.error?_eq_none_iff, Except.ok.injEq, exists_eq_left']
    cases files with
    | nil => simp
    | cons file rest => simp

section

/-! ### Groups of runs -/

variable {group : RunDir → List α → γ} {groups : List γ}

theorem error?_readRuns (runs : List RunDir) : (query.readRuns reader group runs store).error? =
    runs.findSome? fun run => query.failure? reader store run.path := by
  rw [FileQuery.readRuns, Except.error?_mapM]
  refine congrArg (runs.findSome? ·) (funext fun run => ?_)
  rw [← FileQuery.error?_readAll]
  cases query.readAll reader store run.path <;> rfl

theorem forall₂_of_readRuns
    (h : query.readRuns reader group runs store = .ok groups) :
    List.Forall₂ (fun run g => ∃ samples, samples.isEmpty = query.isBare store run.path ∧ group run samples = g)
      runs groups := by
  refine (Except.mapM_eq_ok_iff.1 h).imp fun run g hg => ?_
  obtain ⟨samples, hsamples, hg⟩ := Except.bind_eq_ok_iff.1 hg
  exact ⟨samples, FileQuery.isEmpty_readAll hsamples, Except.ok.inj hg⟩

theorem findSome?_of_readRuns {short : γ → Option Fault}
    (hshort : ∀ run samples, short (group run samples) =
      if samples.isEmpty then some (.emptySampleSet run.label) else none)
    (h : query.readRuns reader group runs store = .ok groups) :
    groups.findSome? short = query.shortage? store runs := by
  have hall := forall₂_of_readRuns h
  clear h
  induction hall with
  | nil => rfl
  | cons hg hrest ih =>
    obtain ⟨samples, hempty, rfl⟩ := hg
    rw [FileQuery.shortage?] at ih ⊢
    rw [List.findSome?_cons, List.find?_cons, hshort, hempty]
    generalize query.isBare store _ = bare
    cases bare with
    | true => rfl
    | false => exact ih

end

namespace Outline

variable {group : RunDir → List α → γ}

open Analysis Analysis.Cache Analysis.Bandwidth

/-- The first thing that is wrong: what cannot be read, then a run without files, then the variants. -/
def verdict? (outline : Outline) (runs : List RunDir) (settings : Settings) (store : Store) : Option Failure :=
  (runs.findSome? fun run => outline.query.failure? (outline.reader settings) store run.path).or
    (((outline.query.shortage? store runs).or (outline.unmatched? (runs.map (·.path)))).map .fault)

theorem error?_readRuns_bind {sheets : List γ → Except Failure (List Sheet)} (short : γ → Option Fault)
    (dir : γ → Path) (other : List Path → Option Fault)
    (hshort : ∀ run samples, short (group run samples) =
      if samples.isEmpty then some (.emptySampleSet run.label) else none)
    (hdir : ∀ run samples, dir (group run samples) = run.path)
    (h : ∀ groups, (sheets groups).error? = ((groups.findSome? short).or (other (groups.map dir))).map .fault)
    (runs : List RunDir) (store : Store) :
    (query.readRuns reader group runs store >>= sheets).error? =
      (runs.findSome? fun run => query.failure? reader store run.path).or
        (((query.shortage? store runs).or (other (runs.map (·.path)))).map .fault) := by
  rw [← error?_readRuns]
  refine Except.error?_bind_eq_or fun groups hgroups => ?_
  rw [h, findSome?_of_readRuns hshort hgroups, FileQuery.map_of_readRuns hdir hgroups]

theorem error?_pairs (groups : List SampleGroup) (yLabel : String) (headroom : Float)
    (sheet : List GroupSummary → Chart Float → Sheet) :
    (do
      let summaries ← (GroupSummary.ofGroups .containsLazy groups).mapError Failure.fault
      let chart ← (pairsChart groups yLabel headroom).mapError Failure.fault
      return [sheet summaries chart]).error? =
        ((groups.findSome? SampleGroup.shortage?).or
          (Classifier.containsLazy.unpaired? (groups.map (·.dir)))).map .fault := by
  have hchart (summaries : List GroupSummary) :
      (do
        let chart ← (pairsChart groups yLabel headroom).mapError Failure.fault
        return [sheet summaries chart]).error? = ((pairsChart groups yLabel headroom).mapError .fault).error? := by
    cases pairsChart groups yLabel headroom <;> rfl
  refine (Except.error?_bind_eq_or fun summaries _ => hchart summaries).trans ?_
  rw [Except.error?_mapError, Except.error?_mapError, error?_groupSummaries, error?_pairsChart, ← Option.map_or,
    ← Option.or_assoc, Option.or_self]

theorem error?_sheets {outline : Outline} (h : outline ∈ all) (runs : List RunDir) (settings : Settings)
    (store : Store) : (outline.sheets runs settings store).error? = outline.verdict? runs settings store := by
  rcases mem_all_iff.1 h with rfl | rfl | rfl | rfl
  · refine error?_readRuns_bind RunSamples.shortage? (·.run.path) Classifier.containsNonLazy.missing?
      (fun _ _ => rfl) (fun _ _ => rfl) (fun samples => ?_) runs store
    rw [← error?_phaseSheet_ratesOf settings (startupStem settings.bandwidth.windows) settings.bandwidth.startupTop
      samples (·.startup)]
    cases hstartup : phaseSheet (startupStem settings.bandwidth.windows) settings.bandwidth.startupTop
      (ratesOf settings (phaseGroups samples (·.startup))) with
    | error failure => rfl
    | ok startup =>
      obtain ⟨after, hafter⟩ := exists_phaseSheet hstartup (afterStem settings.bandwidth.windows)
        settings.bandwidth.afterTop (·.after)
      simp only [Except.ok_bind, hafter]
      rfl
  · exact error?_readRuns_bind SampleGroup.shortage? (·.dir) Classifier.containsLazy.unpaired? (fun _ _ => rfl)
      (fun _ _ => rfl) (fun groups => error?_pairs groups _ _ fun summaries chart => ⟨_, chart, summaries⟩) runs store
  · refine error?_readRuns_bind SampleGroup.shortage? (·.dir) (fun _ => none) (fun _ _ => rfl)
      (fun _ _ => rfl) (fun groups => ?_) runs store
    have hsummaries : (groups.mapM (GroupSummary.of none)).error? = groups.findSome? SampleGroup.shortage? := by
      rw [Except.error?_mapM]
      simp only [error?_groupSummary]
    rw [Option.or_none, ← hsummaries]
    cases groups.mapM (GroupSummary.of none) <;> rfl
  · exact error?_readRuns_bind SampleGroup.shortage? (·.dir) Classifier.containsLazy.unpaired? (fun _ _ => rfl)
      (fun _ _ => rfl) (fun groups => error?_pairs groups _ _ fun summaries chart => ⟨_, chart, summaries⟩) runs store

/-! ### Success and failure -/

variable {outline : Outline} {settings : Settings} {session : Session}

theorem unmatched?_eq_none_iff (h : outline ∈ all) (dirs : List Path) :
    outline.unmatched? dirs = none ↔ outline.Matched dirs := by
  rcases mem_all_iff.1 h with rfl | rfl | rfl | rfl
  · exact Classifier.missing?_eq_none_iff
  · exact Classifier.unpaired?_eq_none_iff
  · exact iff_of_true rfl trivial
  · exact Classifier.unpaired?_eq_none_iff

/-- What an analysis needs in order to draw its charts. -/
structure Passes (outline : Outline) (runs : List RunDir) (settings : Settings) (store : Store) : Prop where
  /-- Every run can be looked at, or is not there. -/
  examined : ∀ run ∈ runs, ∀ error, store.stat run.path = .error error → error = .notFound
  /-- Every selected file reads. -/
  reads : ∀ run ∈ runs, ∀ files, outline.query.selected run.path store = .ok files →
    ∀ file ∈ files, ∃ value, outline.reader settings file store = .ok value
  /-- Every run has a selected file. -/
  found : ∀ run ∈ runs, outline.query.selected run.path store ≠ .ok []
  matched : outline.Matched (runs.map (·.path))

theorem passes_iff : outline.Passes runs settings store ↔
    (∀ run ∈ runs, ∃ files, outline.query.selected run.path store = .ok files ∧ files ≠ [] ∧
      ∀ file ∈ files, ∃ value, outline.reader settings file store = .ok value) ∧
    outline.Matched (runs.map (·.path)) := by
  constructor
  · intro h
    refine ⟨fun run hrun => ?_, h.matched⟩
    obtain ⟨files, hfiles⟩ := FileQuery.exists_selected_iff.2 (h.examined run hrun)
    refine ⟨files, hfiles, ?_, h.reads run hrun files hfiles⟩
    rintro rfl
    exact h.found run hrun hfiles
  · rintro ⟨hruns, hmatched⟩
    refine ⟨fun run hrun => ?_, fun run hrun files hfiles => ?_, fun run hrun hempty => ?_, hmatched⟩ <;>
      obtain ⟨files', hfiles', hne, hreads⟩ := hruns run hrun
    · exact FileQuery.exists_selected_iff.1 ⟨files', hfiles'⟩
    · rw [hfiles'] at hfiles
      rwa [← Except.ok.inj hfiles]
    · rw [hfiles'] at hempty
      exact hne (Except.ok.inj hempty)

theorem verdict?_eq_none_iff (h : outline ∈ all) (runs : List RunDir) (settings : Settings) (store : Store) :
    outline.verdict? runs settings store = none ↔ outline.Passes runs settings store := by
  rw [verdict?, Option.or_eq_none_iff, Option.map_eq_none_iff, Option.or_eq_none_iff, unmatched?_eq_none_iff h,
    ← and_assoc, passes_iff]
  refine and_congr_left fun _ => ?_
  simp only [← FileQuery.failure?_eq_none_iff]
  rw [FileQuery.shortage?, Option.map_eq_none_iff, List.findSome?_eq_none_iff, List.find?_eq_none]
  simp only [Bool.not_eq_true, ← forall_and]

theorem exists_sheets_iff (h : outline ∈ all) (runs : List RunDir) (settings : Settings) (store : Store) :
    (∃ sheets, outline.sheets runs settings store = .ok sheets) ↔ outline.Passes runs settings store := by
  rw [← Except.error?_eq_none_iff, error?_sheets h, verdict?_eq_none_iff h]

/-- Where the output directory has been made and the sheets can be written, an analysis fails with the first
thing that is wrong, and succeeds where nothing is. -/
theorem run_eq_verdict (h : outline ∈ all) (runs : List RunDir)
    (hmade : (ensureDir settings.outputDir).outcome session = (.ok (), store))
    (hwrites : ∀ sheets, outline.sheets runs settings store = .ok sheets →
      ∃ paths left, (sheets.mapM (Sheet.emit settings)).outcome { store } = (.ok paths, left)) :
    (match outline.verdict? runs settings store with
      | some failure => ((outline.analysis.run runs settings).outcome session).1 = .error failure
      | none => ∃ paths, ((outline.analysis.run runs settings).outcome session).1 = .ok paths) ∧
    ((∃ paths, ((outline.analysis.run runs settings).outcome session).1 = .ok paths) ↔
      outline.Passes runs settings store) := by
  have hverdict := error?_sheets h runs settings store
  rw [← verdict?_eq_none_iff h, ← hverdict, Analysis.outcome_run (plans h runs settings), hmade]
  cases hsheets : outline.sheets runs settings store with
  | error failure => simp [hsheets]
  | ok sheets =>
    obtain ⟨paths, left, hpaths⟩ := hwrites sheets hsheets
    simp [hsheets, hpaths]

/-- What is wrong once the output directory has been made is how an analysis fails, and nothing else is written. -/
theorem outcome_run_of_verdict (h : outline ∈ all) {made : Store} {failure : Failure}
    (hmade : (ensureDir settings.outputDir).outcome session = (.ok (), made))
    (hverdict : outline.verdict? runs settings made = some failure) :
    (outline.analysis.run runs settings).outcome session = (.error failure, made) := by
  rw [← error?_sheets h, Except.error?_eq_some_iff] at hverdict
  rw [Analysis.outcome_run (plans h _ _), hmade]
  simp only [hverdict]

/-! ### Analyses of one run -/

variable {run : RunDir}

theorem verdict?_of_isBare (hselected : outline.query.selected run.path store = .ok []) :
    outline.verdict? [run] settings store = some (.fault (.emptySampleSet run.label)) := by
  simp [verdict?, FileQuery.failure?, FileQuery.shortage?, FileQuery.isBare, hselected]

theorem verdict?_of_unmatched {file : Path} {value : outline.Value} {fault : Fault}
    (hselected : outline.query.selected run.path store = .ok [file])
    (hread : outline.reader settings file store = .ok value) (hunmatched : outline.unmatched? [run.path] = some fault) :
    outline.verdict? [run] settings store = some (.fault fault) := by
  simp [verdict?, FileQuery.failure?, FileQuery.shortage?, FileQuery.isBare, hselected, hread, hunmatched,
    Except.error?]

/-! ### A log at the start of paths -/

/-- A store with the log of a scout, and with a directory for the numbers behind charts. -/
def logs : Store where
  nodes := [([], .dir), (["plot_data"], .dir), (["scout-1"], .dir), (["scout-1", "miss-no-object-count"], .file [])]
  sorted := by decide
  root_mem := by decide
  parent_mem := by decide
  named := by decide

theorem isPlain_logs : logs.IsPlain := ⟨rfl, by simp [logs]⟩

theorem selected_scout {store : Store} (hroot : store.resolve "scout-1" = .ok ["scout-1"])
    (hnode : store.node? ["scout-1"] = some .dir)
    (hvisited : store.visited ["scout-1"] = [[], ["miss-no-object-count"]]) :
    cacheMisses.query.selected "scout-1" store = .ok (if store.isFile "scout-1/miss-no-object-count" then
      ["scout-1/miss-no-object-count"] else []) := by
  have hdir : store.isFile "scout-1" = false := Store.isFile_of_dir hroot hnode
  have hselects : cacheMisses.query.selects "scout-1/miss-no-object-count" = true := by decide
  have hbelow : Path.below "scout-1" [] = "scout-1" ∧
      Path.below "scout-1" ["miss-no-object-count"] = "scout-1/miss-no-object-count" := by decide
  rw [FileQuery.selected_eq _ hroot (by simp [hnode]), hvisited]
  cases hlog : store.isFile "scout-1/miss-no-object-count" <;> simp [hbelow, hdir, hlog, hselects]

theorem passes_logs (settings : Settings) :
    queryCacheMisses.Passes [⟨some "a", "scout-1/miss-no-object-count"⟩] settings logs := by
  have hresolve : logs.resolve "scout-1/miss-no-object-count" = .ok ["scout-1", "miss-no-object-count"] :=
    isPlain_logs.resolve (by decide)
  refine passes_iff.2 ⟨fun run hrun => ?_, trivial⟩
  rw [List.mem_singleton.1 hrun]
  refine ⟨_, FileQuery.selected_of_isFile hresolve rfl rfl (by decide), by decide, fun file hfile => ?_⟩
  rw [List.mem_singleton.1 hfile]
  exact ⟨_, misses_of_read (Store.read_eq_ok_iff.2 ⟨_, hresolve, rfl⟩)⟩

theorem isPrintable_misses_iff {summaries : List GroupSummary} : Sheet.IsPrintable { outputDir := "" }
      ⟨"swiftlinks-cache-misses-query-cache", Chart.single summaries "Query cache time" missesLabel 0.0, summaries⟩ ↔
    ∀ name ∈ summaries.map (·.name), Pdf.IsXmlText name := by
  have hlabels : Pdf.IsXmlText missesLabel ∧ Pdf.IsXmlText "Query cache time" := by decide
  rw [Sheet.isPrintable_iff, Pdf.texts_single, List.forall_mem_cons, List.forall_mem_cons, and_iff_right hlabels.1,
    and_iff_right hlabels.2]
  exact ⟨fun h => h.2.2, fun h => ⟨by decide, by decide, h⟩⟩

theorem isSome_page?_misses {summaries : List GroupSummary} (hnames : summaries.map (·.name) = ["a"]) :
    (Pdf.page? ⟨640, 480⟩ (Svg.draw (Chart.single summaries "Query cache time" missesLabel 0.0) ⟨640, 480⟩)).isSome =
      true := by
  refine isPrintable_misses_iff.2 ?_
  rw [hnames]
  decide

/-- A store without links in which the files of the analysis are not there yet. -/
theorem isOpen_steps_of_isPlain {store : Store} {sheet : Sheet}
    (hstem : sheet.stem = "swiftlinks-cache-misses-query-cache") (hplain : store.IsPlain) (hdata : store.node? ["plot_data"] = some .dir)
    (hfree : ∀ at_ ∈ [["swiftlinks-cache-misses-query-cache.svg"], ["swiftlinks-cache-misses-query-cache.pdf"],
      ["plot_data", "swiftlinks-cache-misses-query-cache.json"]], store.node? at_ = none) :
    ∀ step ∈ sheet.steps .actual { outputDir := "" }, (∃ path, step = .file path none) ∨ step.IsOpen store := by
  have hparent : (Settings.pagePath { outputDir := "" } "swiftlinks-cache-misses-query-cache").parent? = some "" := by
    decide
  have hdir : store.IsStraight "plot_data" ["plot_data"] := .of_isName (by decide) (by decide) (by decide)
  simp only [List.forall_mem_cons, List.not_mem_nil, false_imp_iff, implies_true, and_true] at hfree
  obtain ⟨hdrawing, hpage, hnumbers⟩ := hfree
  refine isOpen_steps_or ?_ ?_ ?_ (hdir.exists? hplain.start hdata) ?_ <;> rw [hstem]
  · rw [hparent]
    exact fun dir hdir => .inl (Option.some.inj hdir).symm
  · exact hplain.isWritable ["swiftlinks-cache-misses-query-cache.svg"]
      ⟨by decide, by decide, Store.isEntered_singleton (by decide), by decide⟩ (by simp [hdrawing])
  · exact hplain.isWritable ["swiftlinks-cache-misses-query-cache.pdf"]
      ⟨by decide, by decide, Store.isEntered_singleton (by decide), by decide⟩ (by simp [hpage])
  · exact hplain.isWritable ["plot_data", "swiftlinks-cache-misses-query-cache.json"]
      ⟨by decide, by decide, hdir.entered.concat hdata (by decide), by decide⟩ (by simp [hnumbers])

theorem isOpen_logs {sheets : List Sheet}
    (h : queryCacheMisses.sheets [⟨some "a", "scout-1/miss-no-object-count"⟩] { outputDir := "" } logs = .ok sheets) :
    ∀ sheet ∈ sheets, ∀ step ∈ sheet.steps .actual { outputDir := "" }, step.IsOpen logs := by
  obtain ⟨summaries, rfl, hnames⟩ := queryCacheMissesSheets_eq h
  intro sheet hsheet step hstep
  rw [List.mem_singleton.1 hsheet] at hstep
  refine (isOpen_steps_of_isPlain rfl isPlain_logs rfl (by decide) step hstep).resolve_left ?_
  rintro ⟨path, rfl⟩
  exact Sheet.exists_file_none_iff.1 ⟨path, hstep⟩ (isSome_page?_misses hnames)

theorem run_eq_verdict_logs :
    queryCacheMisses.Passes [⟨some "a", "scout-1/miss-no-object-count"⟩] { outputDir := "" } logs ∧
      ∃ paths, ((queryCacheMisses.analysis.run [⟨some "a", "scout-1/miss-no-object-count"⟩]
        { outputDir := "" }).outcome { store := logs }).1 = .ok paths :=
  ⟨passes_logs _, (run_eq_verdict (by simp [all]) _ (outcome_ensureDir_of_exists (.inl rfl))
    fun _ hsheets => ⟨_, exists_emitAll_of_isOpen (isOpen_logs hsheets)⟩).2.2 (passes_logs _)⟩

/-! ### A run that is there once the output directory has been made -/

/-- The same store with an output directory. -/
def made : Store where
  nodes := [([], .dir), (["out"], .dir), (["plot_data"], .dir), (["scout-1"], .dir),
    (["scout-1", "miss-no-object-count"], .file [])]
  sorted := by decide
  root_mem := by decide
  parent_mem := by decide
  named := by decide

/-- A missing directory below the root is made there. -/
theorem outcome_ensureDir_out {store : Store} (hstart : store.start = []) (hmissing : store.node? ["out"] = none) :
    (ensureDir "out").outcome { store } = (.ok (), store.put ["out"] .dir) := by
  rw [outcome_ensureDir_eq_perform]
  exact Step.perform_dir_of_missing (.of_isName (by decide) (by decide) (by decide)) hstart hmissing

theorem outcome_ensureDir_logs : (ensureDir "out").outcome { store := logs } = (.ok (), made) :=
  outcome_ensureDir_out rfl rfl

theorem resolve_detour : logs.resolve "out/../scout-1/miss-no-object-count" = .error .notFound ∧
    made.resolve "out/../scout-1/miss-no-object-count" = .ok ["scout-1", "miss-no-object-count"] :=
  ⟨Store.resolve_of_walkWithin 4 (by decide) rfl, Store.resolve_of_walkWithin 4 (by decide) rfl⟩

theorem selected_detour : cacheMisses.query.selected "out/../scout-1/miss-no-object-count" made =
    .ok ["out/../scout-1/miss-no-object-count"] :=
  FileQuery.selected_of_isFile resolve_detour.2 rfl rfl (by decide)

theorem misses_detour : cacheMisses.reader { outputDir := "out" } "out/../scout-1/miss-no-object-count" made =
    .ok (Float.ofInt 0) :=
  misses_of_read (Store.read_eq_ok_iff.2 ⟨_, resolve_detour.2, rfl⟩)

theorem verdict?_made :
    cacheMisses.verdict? [⟨some "a", "out/../scout-1/miss-no-object-count"⟩] { outputDir := "out" } made =
      some (.fault (.seriesLengthMismatch 0 1)) :=
  verdict?_of_unmatched selected_detour misses_detour (by decide)

theorem outcome_run_detour :
    (cacheMisses.analysis.run [⟨some "a", "out/../scout-1/miss-no-object-count"⟩] { outputDir := "out" }).outcome
      { store := logs } = (.error (.fault (.seriesLengthMismatch 0 1)), made) :=
  outcome_run_of_verdict (by simp [all]) outcome_ensureDir_logs verdict?_made

/-- What is wrong in the store that the analysis starts from does not say how it fails. -/
theorem verdict?_ne_detour :
    cacheMisses.verdict? [⟨some "a", "out/../scout-1/miss-no-object-count"⟩] { outputDir := "out" } logs =
      some (.fault (.emptySampleSet "a")) ∧
    (ensureDir "out").outcome { store := logs } = (.ok (), made) ∧
    ((cacheMisses.analysis.run [⟨some "a", "out/../scout-1/miss-no-object-count"⟩] { outputDir := "out" }).outcome
      { store := logs }).1 = .error (.fault (.seriesLengthMismatch 0 1)) := by
  have hselected : cacheMisses.query.selected "out/../scout-1/miss-no-object-count" logs = .ok [] := by
    rw [FileQuery.selected, FileQuery.find, Store.files, resolve_detour.1]
    rfl
  exact ⟨verdict?_of_isBare hselected, outcome_ensureDir_logs, congrArg Prod.fst outcome_run_detour⟩

end Outline

end RunCharts
