import RunCharts.Proofs.Analysis.Verdict
import RunCharts.Proofs.Files.Parent
import RunCharts.Proofs.Numeral.Digits

/-! # A failed analysis leaves the files alone

Unless what fails is writing its own files, an analysis that fails has made its output directory and nothing
else: it looks at all that can be wrong before it writes (`Outline.grows_of_failure`). -/

namespace RunCharts

open Files Command

/-! ### The directory of the pages -/

theorem slash_notMem_repr (i : Int) : '/' ∉ i.repr.toList := by
  intro hmem
  rcases eq_minus_or_isDigit_of_mem_repr hmem with hminus | hdigit
  · cases hminus
  · cases hdigit

theorem isName_of_toList_eq_cons {name : String} {c : Char} {rest : List Char} (h : name.toList = c :: rest)
    (hpoint : c ≠ '.') (hslash : '/' ∉ name.toList) : IsName name := by
  refine ⟨fun hmem => ?_, hslash⟩
  simp only [List.mem_cons, List.not_mem_nil, or_false] at hmem
  rcases hmem with rfl | rfl | rfl
  · cases h
  · cases h
    exact hpoint rfl
  · cases h
    exact hpoint rfl

variable {settings : Settings} {session : Session} {store : Store} {stem : String}

theorem exists?_ensureDir {path : Path} (h : (ensureDir path).outcome session = (.ok (), store)) :
    path = "" ∨ store.exists? path = true := by
  rw [outcome_ensureDir] at h
  split at h
  · rename_i hexists
    rw [(Prod.mk.inj h).2] at hexists
    exact .inr hexists
  · obtain ⟨hresult, rfl⟩ := Prod.mk.inj h
    refine Store.exists?_makeDirs ?_
    rwa [Except.mapError_eq_ok_iff, Except.mapError_eq_ok_iff] at hresult

/-- Where the output directory has been made, the directory of what goes there is there. -/
theorem exists?_outputDir {name : String} (hmade : (ensureDir settings.outputDir).outcome session = (.ok (), store))
    (hname : IsName name) :
    ∀ dir ∈ (settings.outputDir.join name).parent?, dir = "" ∨ store.exists? dir = true := by
  intro dir hdir
  rcases exists?_ensureDir hmade with hempty | hexists
  · have hparts : Path.parts name = [] ++ [name.toList] := Text.fields_of_notMem hname.2
    rw [hempty, Path.join, if_pos (.inr rfl), Path.parent?_of_parts hname.toList_ne_nil
      hname.toList_ne_dot hparts] at hdir
    rw [Path.trimParts, if_neg hname.not_isAbsolute] at hdir
    exact .inl (Option.some.inj hdir).symm
  · exact .inr (Store.exists?_parent?_join hname hexists hdir)

namespace Outline

open Analysis Analysis.Cache Analysis.Bandwidth

theorem startupStem_eq (windows : Log.Bandwidth.Windows) : startupStem windows =
    "swiftlinks-bandwidth-startup-" ++ windows.startup.repr := by
  unfold startupStem
  simp only [toString]

theorem afterStem_eq (windows : Log.Bandwidth.Windows) : afterStem windows =
    "swiftlinks-bandwidth-after-" ++ windows.startup.repr ++ "-" ++ windows.after.repr := by
  unfold afterStem
  simp only [toString]

theorem isName_page {outline : Outline} (h : outline ∈ all) (settings : Settings) :
    ∀ stem ∈ outline.stems settings, IsName (stem ++ ".pdf") := by
  intro stem hmem
  rcases mem_all_iff.1 h with rfl | rfl | rfl | rfl
  · have hstartup := slash_notMem_repr settings.bandwidth.windows.startup
    have hafter := slash_notMem_repr settings.bandwidth.windows.after
    simp only [bandwidth, List.mem_cons, List.not_mem_nil, or_false] at hmem
    rcases hmem with rfl | rfl
    · rw [startupStem_eq]
      refine isName_of_toList_eq_cons (by simp only [String.toList_append]; rfl) (by decide) ?_
      simp only [String.toList_append, List.mem_append, not_or]
      exact ⟨⟨by decide, hstartup⟩, by decide⟩
    · rw [afterStem_eq]
      refine isName_of_toList_eq_cons (by simp only [String.toList_append]; rfl) (by decide) ?_
      simp only [String.toList_append, List.mem_append, not_or]
      exact ⟨⟨⟨⟨by decide, hstartup⟩, by decide⟩, hafter⟩, by decide⟩
  · rw [List.mem_singleton.1 hmem]
    decide
  · rw [List.mem_singleton.1 hmem]
    decide
  · rw [List.mem_singleton.1 hmem]
    decide

theorem ends_emitAll {outline : Outline} (h : outline ∈ all) {runs : List RunDir} {sheets : List Sheet}
    (hmade : (ensureDir settings.outputDir).outcome session = (.ok (), store))
    (hsheets : outline.sheets runs settings store = .ok sheets) :
    Ends store (settings.IsOutputFault (outline.stems settings)) (sheets.mapM (Sheet.emit settings)) := by
  refine Ends.mapM fun sheet hsheet => ?_
  have hstem : sheet.stem ∈ outline.stems settings := by
    rw [← map_stem h hsheets]
    exact List.mem_map_of_mem hsheet
  refine (ends_emit (exists?_outputDir hmade (isName_page h settings _ hstem))).mono fun fault hfault => ?_
  refine hfault.imp_right ?_
  rintro ⟨stem, hmem, hpath⟩
  rw [List.mem_singleton.1 hmem] at hpath
  exact ⟨sheet.stem, hstem, hpath⟩

/-- Unless an analysis that passes its checks cannot write a file of its own, one that fails leaves all files and
links as they were, and makes no directories but its output directory and those above it. Where the first phase
of the bandwidth passes the checks, so does the second one. -/
theorem grows_of_failure :
    (∀ outline ∈ all, ∀ (runs : List RunDir) (settings : Settings) (session : Session) (failure : Failure)
      (left : Store), (outline.analysis.run runs settings).outcome session = (.error failure, left) →
        (∀ fault, failure.root = .fault fault → settings.IsOutputFault (outline.stems settings) fault →
          ¬ outline.Passes runs settings ((ensureDir settings.outputDir).outcome session).2) →
          Store.Grows settings.outputDir.ancestors session.store left) ∧
    ∀ (settings : Settings) (runs : List RunSamples) (startup : Sheet),
      phaseSheet (startupStem settings.bandwidth.windows) settings.bandwidth.startupTop
          (ratesOf settings (phaseGroups runs (·.startup))) = .ok startup →
        ∃ after, phaseSheet (afterStem settings.bandwidth.windows) settings.bandwidth.afterTop
          (ratesOf settings (phaseGroups runs (·.after))) = .ok after := by
  refine ⟨fun outline h runs settings session failure left hfail hfault => ?_, ?_⟩
  · have hgrows : Store.Grows settings.outputDir.ancestors session.store
        ((ensureDir settings.outputDir).outcome session).2 := by
      rw [outcome_ensureDir]
      split
      · exact .refl _ _
      · exact Store.grows_makeDirs _ _
    rw [Analysis.outcome_run (plans h runs settings)] at hfail
    rcases hmade : (ensureDir settings.outputDir).outcome session with ⟨error | done, store⟩ <;>
      rw [hmade] at hfail hgrows hfault
    · rwa [← (Prod.mk.inj hfail).2]
    · dsimp only at hfail hfault
      cases hsheets : outline.sheets runs settings store with
      | error error =>
        rw [hsheets] at hfail
        rwa [← (Prod.mk.inj hfail).2]
      | ok sheets =>
        rw [hsheets] at hfail
        have hpasses : outline.Passes runs settings store := (exists_sheets_iff h _ _ _).1 ⟨sheets, hsheets⟩
        obtain ⟨-, hends⟩ := ends_emitAll h hmade hsheets { store } (.refl store)
        dsimp only at hfail
        rw [hfail] at hends
        obtain ⟨fault, hroot, houtput⟩ := hends failure rfl
        exact absurd hpasses (hfault fault (by rw [hroot]; rfl) houtput)
  · exact fun settings runs startup h => exists_phaseSheet h _ _ _

def pair : List RunSamples := [⟨⟨none, "x-lazy"⟩, [⟨1, 1⟩]⟩, ⟨⟨none, "x-nonlazy"⟩, [⟨1, 1⟩]⟩]

theorem exists_phaseSheet_pair (settings : Settings) : ∃ startup,
    phaseSheet (startupStem settings.bandwidth.windows) settings.bandwidth.startupTop
      (ratesOf settings (phaseGroups pair (·.startup))) = .ok startup := by
  have hshortage : pair.findSome? RunSamples.shortage? = none := rfl
  have hmissing : Classifier.containsNonLazy.missing? (pair.map (·.run.path)) = none := by decide
  rw [← Except.error?_eq_none_iff, error?_phaseSheet_ratesOf, hshortage, hmissing]
  rfl

theorem grows_of_failure_detour :
    ((cacheMisses.analysis.run [⟨some "a", "out/../scout-1/miss-no-object-count"⟩] { outputDir := "out" }).outcome
      { store := logs } = (.error (.fault (.seriesLengthMismatch 0 1)), made) ∧
      Store.Grows (Path.ancestors "out") logs made) ∧
    ∃ startup after, phaseSheet (startupStem {}) 250.0 (ratesOf {} (phaseGroups pair (·.startup))) = .ok startup ∧
      phaseSheet (afterStem {}) 220.0 (ratesOf {} (phaseGroups pair (·.after))) = .ok after := by
  have hfault (fault : Fault) (h : Failure.root (.fault (.seriesLengthMismatch 0 1)) = .fault fault) :
      ¬ Settings.IsOutputFault { outputDir := "out" } (cacheMisses.stems { outputDir := "out" }) fault := by
    cases h
    rintro (h | ⟨_, _, _, _, _, h⟩) <;> cases h
  refine ⟨⟨outcome_run_detour, grows_of_failure.1 cacheMisses (by simp [all]) _ { outputDir := "out" } _ _ _
    outcome_run_detour fun fault hroot houtput => absurd houtput (hfault fault hroot)⟩, ?_⟩
  obtain ⟨startup, hstartup⟩ := exists_phaseSheet_pair {}
  obtain ⟨after, hafter⟩ := grows_of_failure.2 {} pair startup hstartup
  exact ⟨startup, after, hstartup, hafter⟩

/-! ### A run in place of a page -/

/-- A store in which a run has the place of the page of a chart. -/
def crossed : Store where
  nodes := [([], .dir), (["out"], .dir), (["out", "swiftlinks-cache-misses-query-cache.pdf"], .dir),
    (["out", "swiftlinks-cache-misses-query-cache.pdf", "scout-1"], .dir),
    (["out", "swiftlinks-cache-misses-query-cache.pdf", "scout-1", "miss-no-object-count"], .file [])]
  sorted := by decide
  root_mem := by decide
  parent_mem := by decide
  named := by decide

theorem isPlain_crossed : crossed.IsPlain := ⟨rfl, by simp [crossed]⟩

theorem resolve_crossed_run (last : LastName) :
    crossed.resolve "out/swiftlinks-cache-misses-query-cache.pdf" last =
      .ok ["out", "swiftlinks-cache-misses-query-cache.pdf"] :=
    isPlain_crossed.resolve (by decide)

theorem resolve_crossed_log :
    crossed.resolve "out/swiftlinks-cache-misses-query-cache.pdf/scout-1/miss-no-object-count" =
      .ok ["out", "swiftlinks-cache-misses-query-cache.pdf", "scout-1", "miss-no-object-count"] :=
    isPlain_crossed.resolve (by decide)

theorem selected_crossed :
    (scoutLogs "miss-no-object-count").selected "out/swiftlinks-cache-misses-query-cache.pdf" crossed =
      .ok ["out/swiftlinks-cache-misses-query-cache.pdf/scout-1/miss-no-object-count"] := by
  have hvisited : crossed.visited ["out", "swiftlinks-cache-misses-query-cache.pdf"] =
      [[], ["scout-1"], ["scout-1", "miss-no-object-count"]] := by decide
  have hbelow : Path.below "out/swiftlinks-cache-misses-query-cache.pdf" [] =
        "out/swiftlinks-cache-misses-query-cache.pdf" ∧
      Path.below "out/swiftlinks-cache-misses-query-cache.pdf" ["scout-1"] =
        "out/swiftlinks-cache-misses-query-cache.pdf/scout-1" ∧
      Path.below "out/swiftlinks-cache-misses-query-cache.pdf" ["scout-1", "miss-no-object-count"] =
        "out/swiftlinks-cache-misses-query-cache.pdf/scout-1/miss-no-object-count" := by decide
  have hrun : crossed.isFile "out/swiftlinks-cache-misses-query-cache.pdf" = false :=
    Store.isFile_of_dir (resolve_crossed_run .follow) rfl
  have hscout : crossed.isFile "out/swiftlinks-cache-misses-query-cache.pdf/scout-1" = false := by
    have hresolve : crossed.resolve "out/swiftlinks-cache-misses-query-cache.pdf/scout-1" =
        .ok ["out", "swiftlinks-cache-misses-query-cache.pdf", "scout-1"] :=
      isPlain_crossed.resolve (by decide)
    exact Store.isFile_of_dir hresolve rfl
  have hlog : crossed.isFile "out/swiftlinks-cache-misses-query-cache.pdf/scout-1/miss-no-object-count" = true :=
    Store.isFile_iff.2 ⟨_, _, resolve_crossed_log, rfl⟩
  have hselects : (scoutLogs "miss-no-object-count").selects
      "out/swiftlinks-cache-misses-query-cache.pdf/scout-1/miss-no-object-count" = true := by decide
  rw [FileQuery.selected_eq _ (resolve_crossed_run .follow) (by decide), hvisited]
  simp [hbelow, hrun, hscout, hlog, hselects]

theorem exists_sheet_crossed : ∃ summaries, queryCacheMisses.sheets
      [⟨some "a", "out/swiftlinks-cache-misses-query-cache.pdf"⟩] { outputDir := "out" } crossed =
        .ok [⟨"swiftlinks-cache-misses-query-cache",
          Chart.single summaries "Query cache time" missesLabel 0.0, summaries⟩] ∧
      summaries.map (·.name) = ["a"] := by
  have hpasses : queryCacheMisses.Passes [⟨some "a", "out/swiftlinks-cache-misses-query-cache.pdf"⟩]
      { outputDir := "out" } crossed := by
    refine passes_iff.2 ⟨fun run hrun => ?_, trivial⟩
    rw [List.mem_singleton.1 hrun]
    refine ⟨_, selected_crossed, by decide, fun file hfile => ?_⟩
    rw [List.mem_singleton.1 hfile]
    exact ⟨_, misses_of_read (Store.read_eq_ok_iff.2 ⟨_, resolve_crossed_log, rfl⟩)⟩
  have hmem : queryCacheMisses ∈ all := by simp [all]
  obtain ⟨sheets, hsheets⟩ := (exists_sheets_iff hmem _ _ _).2 hpasses
  obtain ⟨summaries, rfl, hnames⟩ := queryCacheMissesSheets_eq hsheets
  exact ⟨summaries, hsheets, hnames⟩

/-- An error at the path of a run can be one of writing a page there, and then the drawing has been written. -/
theorem not_grows_crossed : ∃ left,
    (queryCacheMisses.analysis.run [⟨some "a", "out/swiftlinks-cache-misses-query-cache.pdf"⟩]
        { outputDir := "out" }).outcome { store := crossed } =
      (.error (.fault (.file "out/swiftlinks-cache-misses-query-cache.pdf" .isADirectory)), left) ∧
    ¬ Store.Grows (Path.ancestors "out") crossed left := by
  have hmem : queryCacheMisses ∈ all := by simp [all]
  have hout : crossed.exists? "out" = true :=
    Store.IsStraight.exists? (show crossed.IsStraight "out" ["out"] by decide) rfl rfl
  have hmade : (ensureDir "out").outcome { store := crossed } = (.ok (), crossed) :=
    outcome_ensureDir_of_exists (.inr hout)
  have hpath : Settings.pagePath { outputDir := "out" } "swiftlinks-cache-misses-query-cache" =
      "out/swiftlinks-cache-misses-query-cache.pdf" := by decide
  have hparent : Path.parent? "out/swiftlinks-cache-misses-query-cache.pdf" = some "out" := by decide
  have hsvg : Path.withExtension "out/swiftlinks-cache-misses-query-cache.pdf" "svg" =
      "out/swiftlinks-cache-misses-query-cache.svg" := by decide
  obtain ⟨summaries, hsheets, hnames⟩ := exists_sheet_crossed
  obtain ⟨page, hpage⟩ := Option.isSome_iff_exists.1 (isSome_page?_misses hnames)
  have hdrawing : crossed.resolve "out/swiftlinks-cache-misses-query-cache.svg" .make =
      .ok ["out", "swiftlinks-cache-misses-query-cache.svg"] :=
    isPlain_crossed.resolve (by decide)
  obtain ⟨drawn, hdrawn⟩ := Store.exists_write ⟨_, hdrawing, by decide⟩
    (octets (Svg.render (Chart.single summaries "Query cache time" missesLabel 0.0) ⟨640, 480⟩))
  have hrefused : drawn.write "out/swiftlinks-cache-misses-query-cache.pdf" page = .error .isADirectory := by
    rw [Store.write, (Store.keeps_write hdrawn).resolve (resolve_crossed_run .make), Except.ok_bind,
      (Store.keeps_write hdrawn).dirs _ rfl]
  refine ⟨drawn, ?_, fun hgrows => ?_⟩
  · rw [Analysis.outcome_run (plans hmem _ _), hmade]
    simp only [hsheets, List.mapM_cons, List.mapM_nil, pure_bind]
    rw [outcome_bind_plain fun _ => .pure _, outcome_emit, hpath, outcome_writeChart, outcome_writeFiles, hsvg]
    · simp only [hdrawn, hpage, hrefused]
    · rw [hparent]
      exact fun dir hdir => .inr (Option.some.inj hdir ▸ hout)
  · obtain ⟨at_, hresolve, -, -, hnode⟩ := Store.node?_write hdrawn
    rw [hdrawing] at hresolve
    cases hresolve
    have hfile := hnode ["out", "swiftlinks-cache-misses-query-cache.svg"]
    rw [if_pos rfl] at hfile
    rcases hgrows.adds _ _ hfile with hold | hdir
    · have hnone : crossed.node? ["out", "swiftlinks-cache-misses-query-cache.svg"] = none := by decide
      rw [hnone] at hold
      cases hold
    · cases hdir
end Outline

end RunCharts
