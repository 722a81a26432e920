import Mathlib.Data.List.Nodup
import RunCharts.Proofs.Analysis.Script
import RunCharts.Proofs.Analysis.Untouched
import RunCharts.Proofs.Files.Written

/-! # An analysis writes its own files, in order

Whatever fails on the way, the steps that have been performed are the first ones of the script, and what they have
written is there (`exists_wrote_of_perform`). So the files of an analysis are written in the order of its charts, and
nothing else is (`Outline.wrote_files`). -/

namespace RunCharts

open Files Command

variable {settings : Settings} {store left : Store} {world : World} {step : Step} {steps : List Step}

/-! ### What steps have written -/

/-- The path of the file that a step is to write. -/
def Step.target? : Step → Option Path
  | .dir _ => none
  | .file path _ => some path

/-- The file that a step has written when it has been performed. -/
def Step.written? : Step → Option (Path × List UInt8)
  | .file path (some content) => some (path, content)
  | _ => none

/-- The directories that a step may make. -/
def Step.dirs : Step → List Path
  | .dir path => path.ancestors
  | .file _ _ => []

theorem wrote_of_step (h : step.perform world store = (.ok (), left)) :
    Store.Wrote step.dirs step.written?.toList store left ∧ step.target? = step.written?.map (·.1) := by
  cases Step.does h with
  | there _ => exact ⟨.refl _ _, rfl⟩
  | made _ _ hleft =>
    rw [← hleft]
    exact ⟨(Store.grows_makeDirs store _).wrote, rfl⟩
  | wrote _ hwrite => exact ⟨Store.wrote_write hwrite, rfl⟩

theorem wrote_of_failed_step {failure : Failure} (h : step.perform world store = (.error failure, left)) :
    Store.Wrote step.dirs [] store left := by
  cases Step.does h with
  | made _ _ hleft =>
    rw [← hleft]
    exact (Store.grows_makeDirs store _).wrote
  | refused => exact .refl _ _

theorem keeps_step (world : World) (step : Step) (store : Store) :
    Store.Keeps store (step.perform world store).2 := by
  rcases hstep : step.perform world store with ⟨failure | _, left⟩
  · exact (wrote_of_failed_step hstep).keeps
  · exact (wrote_of_step hstep).1.keeps

theorem keeps_perform (world : World) (steps : List Step) (store : Store) :
    Store.Keeps store (perform world steps store).2 := by
  induction steps generalizing store with
  | nil => exact .refl _
  | cons step rest ih =>
    have hfirst := keeps_step world step store
    rw [perform]
    rcases hstep : step.perform world store with ⟨failure | _, mid⟩ <;> rw [hstep] at hfirst
    · exact hfirst
    · exact hfirst.trans (ih mid)

/-- No two paths lead to the same place. -/
def Store.Apart (store : Store) (paths : List Path) : Prop :=
  paths.Pairwise fun path path' => ∀ at_, store.resolve path = .ok at_ → store.resolve path' ≠ .ok at_

/-- Steps that are performed in order write the files of the first ones, up to the first that fails. -/
theorem exists_wrote_of_perform {result : Except Failure Unit} (h : perform world steps store = (result, left))
    (hapart : Store.Apart left (steps.filterMap Step.target?)) : ∃ done rest, steps = done ++ rest ∧
      Store.Wrote (steps.flatMap Step.dirs) (done.filterMap Step.written?) store left ∧
      (done.filterMap Step.written?).map (·.1) = done.filterMap Step.target? ∧ (result = .ok () ↔ rest = []) := by
  induction steps generalizing store with
  | nil =>
    obtain ⟨rfl, rfl⟩ := Prod.mk.inj h
    exact ⟨[], [], rfl, .refl _ _, rfl, by simp⟩
  | cons step rest ih =>
    have hsub : rest.flatMap Step.dirs ⊆ (step :: rest).flatMap Step.dirs := by simp [List.flatMap_cons]
    have hself : step.dirs ⊆ (step :: rest).flatMap Step.dirs := by simp [List.flatMap_cons]
    rw [perform] at h
    rcases hstep : step.perform world store with ⟨failure | _, mid⟩ <;> rw [hstep] at h
    · obtain ⟨rfl, rfl⟩ := Prod.mk.inj h
      exact ⟨[], step :: rest, rfl, (wrote_of_failed_step hstep).mono hself, rfl, by simp⟩
    · obtain ⟨hwrote, htarget⟩ := wrote_of_step hstep
      have hcons {β : Type} (f : Step → Option β) (steps : List Step) :
          (step :: steps).filterMap f = (f step).toList ++ steps.filterMap f := by
        rw [List.filterMap_eq_flatMap_toList, List.flatMap_cons, ← List.filterMap_eq_flatMap_toList]
      rw [hcons, Store.Apart, List.pairwise_append] at hapart
      obtain ⟨-, hrest, hfirst⟩ := hapart
      obtain ⟨done, behind, rfl, hdone, hpaths, hresult⟩ := ih h hrest
      refine ⟨step :: done, behind, rfl, ?_, ?_, hresult⟩
      · -- what the first step has written is not written over, as its path is apart from the others
        rw [hcons]
        refine (hwrote.mono hself).trans (hdone.mono hsub) fun file hfile file' hfile' => hfirst _ ?_ _ ?_
        · rw [htarget, Option.mem_def.1 (Option.mem_toList.1 hfile)]
          exact List.mem_singleton_self _
        · rw [List.filterMap_append]
          exact List.mem_append_left _ (hpaths ▸ List.mem_map_of_mem hfile')
      · rw [hcons, hcons, List.map_append, hpaths, htarget]
        cases step.written? <;> rfl

/-! ### The files of an analysis -/

/-- The files of a stem, in the order in which they are written: the directory and the name of each. -/
def Settings.fileNames (settings : Settings) (stem : String) : List (Path × String) :=
  [(settings.outputDir, stem ++ ".svg"), (settings.outputDir, stem ++ ".pdf"), (settings.dataDir, stem ++ ".json")]

/-- The files of an analysis, in the order in which they are written. -/
def Settings.files (settings : Settings) (stems : List String) : List Path :=
  (stems.flatMap settings.fileNames).map fun file => file.1.join file.2

/-- The directories of an analysis, and those above them. -/
def Settings.dirs (settings : Settings) (stems : List String) : List Path :=
  (settings.outputDir :: stems.flatMap fun stem =>
    (settings.pagePath stem).parent?.toList ++ [settings.dataDir]).flatMap Path.ancestors

/-! ### Their names -/

/-- The ends of the names of files that are written. -/
def endings : List String := [".svg", ".pdf", ".json"]

theorem isName_of_ending {stem ending : String} (h : IsName (stem ++ ".pdf")) (hending : ending ∈ endings) :
    IsName (stem ++ ending) := by
  have hslash : '/' ∉ ending.toList := by
    revert ending
    decide
  have hlong : 4 ≤ ending.toList.length := by
    revert ending
    decide
  refine ⟨fun hmem => ?_, fun hmem => ?_⟩
  · have hshort : ∀ name ∈ ["", ".", ".."], name.toList.length ≤ 2 := by decide
    have := hshort _ hmem
    rw [String.toList_append, List.length_append] at this
    omega
  · rw [String.toList_append] at hmem
    rcases List.mem_append.1 hmem with hmem | hmem
    · exact h.2 (by rw [String.toList_append]; exact List.mem_append_left _ hmem)
    · exact hslash hmem

theorem mem_fileNames {stem : String} {file : Path × String} (h : file ∈ settings.fileNames stem) :
    ∃ ending ∈ endings, file.2 = stem ++ ending := by
  simp only [Settings.fileNames, List.mem_cons, List.not_mem_nil, or_false] at h
  rcases h with rfl | rfl | rfl
  · exact ⟨".svg", by decide, rfl⟩
  · exact ⟨".pdf", by decide, rfl⟩
  · exact ⟨".json", by decide, rfl⟩

/-- A name with one ending has no other one. -/
theorem eq_of_append_ending {stem stem' ending ending' : String} (h : ending ∈ endings) (h' : ending' ∈ endings)
    (heq : stem ++ ending = stem' ++ ending') : stem = stem' ∧ ending = ending' := by
  have hlists := congrArg String.toList heq
  rw [String.toList_append, String.toList_append] at hlists
  have hback : ending'.toList <:+ stem.toList ++ ending.toList := by
    rw [hlists]
    exact List.suffix_append _ _
  have hboth : ending.toList <:+ ending'.toList ∨ ending'.toList <:+ ending.toList :=
    List.suffix_or_suffix_of_suffix (List.suffix_append _ _) hback
  have hendings : ∀ ending ∈ endings, ∀ ending' ∈ endings,
      ending.toList <:+ ending'.toList ∨ ending'.toList <:+ ending.toList → ending = ending' := by decide
  obtain rfl := hendings ending h ending' h' hboth
  exact ⟨String.toList_inj.1 (List.append_cancel_right hlists), rfl⟩

theorem nodup_names {stems : List String} (h : stems.Nodup) :
    ((stems.flatMap settings.fileNames).map (·.2)).Nodup := by
  rw [List.map_flatMap, List.nodup_flatMap]
  refine ⟨fun stem _ => ?_, h.imp fun {stem stem'} hne name hname hname' => ?_⟩
  · have hne {ending ending' : String} (hmem : ending ∈ endings) (hmem' : ending' ∈ endings) (hne : ending ≠ ending') :
        stem ++ ending ≠ stem ++ ending' := fun heq => hne (eq_of_append_ending hmem hmem' heq).2
    simp only [Settings.fileNames, List.map_cons, List.map_nil, List.nodup_cons, List.mem_cons, List.not_mem_nil,
      or_false, not_or, not_false_eq_true, List.nodup_nil, and_true]
    exact ⟨⟨hne (by decide) (by decide) (by decide), hne (by decide) (by decide) (by decide)⟩,
      hne (by decide) (by decide) (by decide)⟩
  · obtain ⟨file, hfile, rfl⟩ := List.mem_map.1 hname
    obtain ⟨file', hfile', heq⟩ := List.mem_map.1 hname'
    obtain ⟨ending, hending, hfirst⟩ := mem_fileNames hfile
    obtain ⟨ending', hending', hsecond⟩ := mem_fileNames hfile'
    rw [hfirst, hsecond] at heq
    exact hne (eq_of_append_ending hending' hending heq).1.symm

theorem mem_files {stems : List String} {path : Path} (h : path ∈ settings.files stems) :
    ∃ stem ∈ stems, ∃ file ∈ settings.fileNames stem, path = file.1.join file.2 := by
  obtain ⟨file, hfile, rfl⟩ := List.mem_map.1 h
  obtain ⟨stem, hstem, hfile⟩ := List.mem_flatMap.1 hfile
  exact ⟨stem, hstem, file, hfile, rfl⟩

/-- Files are apart, if each of them is where its name is the last one. -/
theorem apart_files {stems : List String} (h : stems.Nodup) (hlast : ∀ file ∈ stems.flatMap settings.fileNames,
      ∀ at_, store.resolve (file.1.join file.2) = .ok at_ → at_.getLast? = some file.2) :
    Store.Apart store (settings.files stems) := by
  rw [Store.Apart, Settings.files, List.pairwise_map]
  have hnames : ((stems.flatMap settings.fileNames).map (·.2)).Nodup := nodup_names h
  refine (List.pairwise_map.1 hnames).imp_of_mem fun {file file'} hfile hfile' hne at_ hat hat' => ?_
  have hsame := hlast file hfile at_ hat
  rw [hlast file' hfile' at_ hat'] at hsame
  exact hne (Option.some.inj hsame).symm

theorem filterMap_target?_steps {sheet : Sheet} (hname : IsName (sheet.stem ++ ".pdf")) (hstem : sheet.stem ≠ "") :
    (sheet.steps world settings).filterMap Step.target? =
      (settings.fileNames sheet.stem).map fun file => file.1.join file.2 := by
  have hsvg : (settings.pagePath sheet.stem).withExtension "svg" = settings.outputDir.join (sheet.stem ++ ".svg") := by
    have hdot (ending : String) : sheet.stem ++ "." ++ ending = sheet.stem ++ ("." ++ ending) := String.append_assoc ..
    have hjoin : (settings.outputDir.join (sheet.stem ++ "." ++ "pdf")).withExtension "svg" =
        settings.outputDir.join (sheet.stem ++ "." ++ "svg") :=
      Path.withExtension_join (by rwa [hdot]) (by rw [hdot]; exact isName_of_ending hname (by decide)) hstem (by decide)
        (by decide)
    rwa [hdot, hdot] at hjoin
  have hdirs (dirs : List Path) : (dirs.map Step.dir).filterMap Step.target? = [] := by
    rw [List.filterMap_map]
    exact List.filterMap_eq_nil_iff.2 fun _ _ => rfl
  rw [Sheet.steps, Sheet.pageSteps, hsvg, List.filterMap_append, List.filterMap_append, hdirs]
  rfl

namespace Outline

open Analysis Analysis.Bandwidth

variable {outline : Outline} {runs : List RunDir}

theorem ne_empty_of_mem_stems (h : outline ∈ all) {stem : String} (hstem : stem ∈ outline.stems settings) :
    stem ≠ "" := by
  have happend {front : String} (hfront : front ≠ "") (back : String) : front ++ back ≠ "" := by
    intro hempty
    have hnil := congrArg String.toList hempty
    rw [String.toList_append] at hnil
    exact hfront (String.toList_eq_nil_iff.1 (List.append_eq_nil_iff.1 hnil).1)
  rcases mem_all_iff.1 h with rfl | rfl | rfl | rfl
  · simp only [bandwidth, List.mem_cons, List.not_mem_nil, or_false] at hstem
    rcases hstem with rfl | rfl
    · rw [startupStem_eq]
      exact happend (by decide) _
    · rw [afterStem_eq]
      exact happend (happend (happend (by decide) _) _) _
  · rw [List.mem_singleton.1 hstem]
    decide
  · rw [List.mem_singleton.1 hstem]
    decide
  · rw [List.mem_singleton.1 hstem]
    decide

theorem isName_of_mem_fileNames (h : outline ∈ all) {stem : String} (hstem : stem ∈ outline.stems settings)
    {file : Path × String} (hfile : file ∈ settings.fileNames stem) : IsName file.2 := by
  obtain ⟨ending, hending, hname⟩ := mem_fileNames hfile
  rw [hname]
  exact isName_of_ending (isName_page h settings stem hstem) hending

theorem nodup_stems (h : outline ∈ all) (settings : Settings) : (outline.stems settings).Nodup := by
  rcases mem_all_iff.1 h with rfl | rfl | rfl | rfl
  · have hstartup : (startupStem settings.bandwidth.windows).toList[21]? = some 's' := by
      rw [startupStem_eq, String.toList_append]
      rfl
    have hafter : (afterStem settings.bandwidth.windows).toList[21]? = some 'a' := by
      rw [afterStem_eq, String.toList_append, String.toList_append, String.toList_append]
      rfl
    refine List.nodup_cons.2 ⟨fun hmem => ?_, List.nodup_singleton _⟩
    rw [List.mem_singleton.1 hmem, hafter] at hstartup
    cases hstartup
  · exact List.nodup_singleton _
  · exact List.nodup_singleton _
  · exact List.nodup_singleton _

/-- No analysis reads files of the names that are written. -/
theorem not_admits_ending (h : outline ∈ all) (stem : String) {ending : String} (hending : ending ∈ endings) :
    outline.query.name.admits (stem ++ ending).toList = false := by
  have hsuffix : ending.toList <:+ (stem ++ ending).toList := by
    rw [String.toList_append]
    exact List.suffix_append _ _
  have hexact {name : List Char} (hname : ∀ ending ∈ endings, ¬ ending.toList <:+ name) :
      (NameRule.exact name).admits (stem ++ ending).toList = false := by
    rw [NameRule.admits, beq_eq_false_iff_ne]
    rintro rfl
    exact hname ending hending hsuffix
  rcases mem_all_iff.1 h with rfl | rfl | rfl | rfl
  · have hends : ∀ ending ∈ endings, ¬ (".log".toList <:+ ending.toList ∨ ending.toList <:+ ".log".toList) := by decide
    rw [← Bool.not_eq_true]
    exact fun hlog => hends ending hending (List.suffix_or_suffix_of_suffix (List.isSuffixOf_iff_suffix.1 hlog) hsuffix)
  · exact hexact (by decide)
  · exact hexact (by decide)
  · exact hexact (by decide)

theorem not_admits_plotData (h : outline ∈ all) : outline.query.name.admits "plot_data".toList = false := by
  rcases mem_all_iff.1 h with rfl | rfl | rfl | rfl <;> decide

theorem filterMap_target?_sheets (h : outline ∈ all) {sheets : List Sheet}
    (hsheets : outline.sheets runs settings store = .ok sheets) :
    (sheets.flatMap (Sheet.steps world settings)).filterMap Step.target? = settings.files (outline.stems settings) := by
  have hsteps (sheet : Sheet) (hsheet : sheet ∈ sheets) : (sheet.steps world settings).filterMap Step.target? =
      (settings.fileNames sheet.stem).map fun file => file.1.join file.2 := by
    have hstem : sheet.stem ∈ outline.stems settings := by
      rw [← map_stem h hsheets]
      exact List.mem_map_of_mem hsheet
    exact filterMap_target?_steps (isName_page h settings _ hstem) (ne_empty_of_mem_stems h hstem)
  rw [Settings.files, ← map_stem h hsheets, List.flatMap_map, List.map_flatMap, List.filterMap_flatMap]
  exact List.flatMap_congr hsteps

theorem flatMap_dirs_subset (h : outline ∈ all) {sheets : List Sheet}
    (hsheets : outline.sheets runs settings store = .ok sheets) :
    (sheets.flatMap (Sheet.steps world settings)).flatMap Step.dirs ⊆ settings.dirs (outline.stems settings) := by
  intro path hpath
  obtain ⟨step, hstep, hpath⟩ := List.mem_flatMap.1 hpath
  obtain ⟨sheet, hsheet, hstep⟩ := List.mem_flatMap.1 hstep
  have hstem : sheet.stem ∈ outline.stems settings := by
    rw [← map_stem h hsheets]
    exact List.mem_map_of_mem hsheet
  have hdir {dir : Path} (hmem : dir ∈ (settings.pagePath sheet.stem).parent?.toList ++ [settings.dataDir])
      (habove : path ∈ dir.ancestors) : path ∈ settings.dirs (outline.stems settings) :=
    List.mem_flatMap.2 ⟨dir, List.mem_cons_of_mem _ (List.mem_flatMap.2 ⟨_, hstem, hmem⟩), habove⟩
  rw [Sheet.steps, Sheet.pageSteps, List.mem_append, List.mem_append] at hstep
  rcases hstep with (hstep | hstep) | hstep
  · obtain ⟨dir, hmem, rfl⟩ := List.mem_map.1 hstep
    exact hdir (List.mem_append_left _ hmem) hpath
  · simp only [List.mem_cons, List.not_mem_nil, or_false] at hstep
    rcases hstep with rfl | rfl <;> cases hpath
  · simp only [List.mem_cons, List.not_mem_nil, or_false] at hstep
    rcases hstep with rfl | rfl
    · exact hdir (List.mem_append_right _ (List.mem_singleton_self _)) hpath
    · cases hpath

/-- The last step writes a file, so some file is missing until it has been performed. -/
theorem eq_nil_of_filterMap_target? {sheets : List Sheet} {done rest : List Step}
    (hsteps : sheets.flatMap (Sheet.steps world settings) = done ++ rest)
    (h : rest.filterMap Step.target? = []) : rest = [] := by
  cases sheets using List.reverseRecOn with
  | nil => exact (List.append_eq_nil_iff.1 hsteps.symm).2
  | append_singleton sheets sheet =>
    by_contra hne
    obtain ⟨front, last, rfl⟩ : ∃ front last, rest = front ++ [last] :=
      ⟨_, _, (List.dropLast_concat_getLast hne).symm⟩
    have hend : (done ++ (front ++ [last])).getLast? = some last := by
      rw [← List.append_assoc, List.getLast?_concat]
    have hlast := congrArg List.getLast? hsteps
    rw [hend, List.flatMap_append, List.flatMap_singleton, Sheet.steps, ← List.append_assoc,
      List.getLast?_append_of_ne_nil _ (List.cons_ne_nil _ _)] at hlast
    have htarget := List.filterMap_eq_nil_iff.1 h last (List.mem_append_right _ (List.mem_singleton_self _))
    rw [← Option.some.inj hlast] at htarget
    cases htarget

/-- Sheets write the files of the analysis up to the first that cannot be written, if each of these is where its name
is the last one. -/
theorem exists_wrote_of_sheets (h : outline ∈ all) {sheets : List Sheet} {result : Except Failure Unit} {made : Store}
    (hsheets : outline.sheets runs settings store = .ok sheets)
    (hperform : perform world (sheets.flatMap (Sheet.steps world settings)) made = (result, left))
    (hlast : ∀ file ∈ (outline.stems settings).flatMap settings.fileNames, ∀ at_,
      left.resolve (file.1.join file.2) = .ok at_ → at_.getLast? = some file.2) :
    ∃ done rest, sheets.flatMap (Sheet.steps world settings) = done ++ rest ∧
      Store.Wrote (settings.dirs (outline.stems settings)) (done.filterMap Step.written?) made left ∧
      (done.filterMap Step.written?).map (·.1) ++ rest.filterMap Step.target? =
        settings.files (outline.stems settings) ∧ (result = .ok () ↔ rest = []) := by
  have htargets : (sheets.flatMap (Sheet.steps world settings)).filterMap Step.target? =
      settings.files (outline.stems settings) := filterMap_target?_sheets h hsheets
  have hapart : Store.Apart left (settings.files (outline.stems settings)) :=
    apart_files (nodup_stems h settings) hlast
  rw [← htargets] at hapart ⊢
  obtain ⟨done, rest, hall, hwrote, hpaths, hresult⟩ := exists_wrote_of_perform hperform hapart
  refine ⟨done, rest, hall, hwrote.mono (flatMap_dirs_subset h hsheets), ?_, hresult⟩
  rw [hpaths, hall, List.filterMap_append]

theorem keeps_effects (outline : Outline) (world : World) (runs : List RunDir) (settings : Settings) (store : Store) :
    Store.Keeps ((Step.dir settings.outputDir).perform world store).2
      (outline.effects world runs settings store).2 := by
  rw [effects]
  rcases (Step.dir settings.outputDir).perform world store with ⟨failure | _, made⟩
  · exact .refl _
  · dsimp only
    cases outline.sheets runs settings made with
    | error failure => exact .refl _
    | ok sheets => exact keeps_perform world _ made

theorem keeps_run (h : outline ∈ all) (runs : List RunDir) (settings : Settings) (session : Session) :
    Store.Keeps session.store ((outline.analysis.run runs settings).outcome session).2 := by
  rw [outcome_run_eq_effects h]
  exact (keeps_step _ _ _).trans (keeps_effects outline .actual runs settings session.store)

variable {world : World} {written : List (Path × List UInt8)}

theorem getLast?_of_resolve (h : outline ∈ all)
    (hdirect : ∀ path ∈ settings.files (outline.stems settings), store.IsDirect path) {file : Path × String}
    (hfile : file ∈ (outline.stems settings).flatMap settings.fileNames) {at_ : Location}
    (hresolve : store.resolve (file.1.join file.2) = .ok at_) : at_.getLast? = some file.2 := by
  obtain ⟨stem, hstem, hmem⟩ := List.mem_flatMap.1 hfile
  exact (hdirect _ (List.mem_map_of_mem hfile)).getLast?_of_join (isName_of_mem_fileNames h hstem hmem) hresolve

theorem files_ne_nil (h : outline ∈ all) (settings : Settings) : settings.files (outline.stems settings) ≠ [] := by
  rcases mem_all_iff.1 h with rfl | rfl | rfl | rfl <;> exact List.cons_ne_nil _ _

/-- What an analysis can read is not written. -/
theorem node?_of_wrote {dirs : List Path} (h : outline ∈ all)
    (hdirect : ∀ path ∈ settings.files (outline.stems settings), store.IsDirect path)
    (hwritten : written.map (·.1) <+: settings.files (outline.stems settings))
    (hwrote : Store.Wrote dirs written store left) {at_ : Location} {content : List UInt8} {name : String}
    (hnode : store.node? at_ = some (.file content)) (hname : name ∈ at_.getLast?)
    (hadmits : outline.query.name.admits name.toList = true) : left.node? at_ = some (.file content) := by
  rcases hwrote.changed at_ with hsame | ⟨hnone, -⟩ | ⟨file, hfile, hresolve, -⟩
  · rw [hsame, hnode]
  · rw [hnode] at hnone
    cases hnone
  · -- a file that has been written has a name that is not read
    exfalso
    have hpath := hwritten.subset (List.mem_map_of_mem hfile)
    obtain ⟨named, hnamed, hjoin⟩ := List.mem_map.1 hpath
    have hlast := getLast?_of_resolve h (fun path hpath => (hdirect path hpath).keeps hwrote.keeps) hnamed
      (hjoin ▸ hresolve)
    obtain ⟨stem, -, hmem⟩ := List.mem_flatMap.1 hnamed
    obtain ⟨ending, hending, hending'⟩ := mem_fileNames hmem
    rw [Option.mem_def.1 hname, hending'] at hlast
    rw [Option.some.inj hlast, not_admits_ending h stem hending] at hadmits
    cases hadmits

/-- An analysis writes the first ones of its files, and all of them if it succeeds. -/
theorem exists_wrote_of_effects (h : outline ∈ all) (world : World) (runs : List RunDir)
    (hdirect : ∀ path ∈ settings.files (outline.stems settings), store.IsDirect path) :
    ∃ written : List (Path × List UInt8), written.map (·.1) <+: settings.files (outline.stems settings) ∧
      ((∃ paths, (outline.effects world runs settings store).1 = .ok paths) ↔
        written.map (·.1) = settings.files (outline.stems settings)) ∧
      Store.Wrote (settings.dirs (outline.stems settings)) written store
        (outline.effects world runs settings store).2 := by
  have hnone : ([] : List (Path × List UInt8)).map (·.1) ≠ settings.files (outline.stems settings) :=
    (files_ne_nil h settings).symm
  have hself : (Step.dir settings.outputDir).dirs ⊆ settings.dirs (outline.stems settings) := by
    simp [Step.dirs, Settings.dirs]
  rw [effects]
  rcases hmade : (Step.dir settings.outputDir).perform world store with ⟨failure | _, made⟩
  · refine ⟨[], List.nil_prefix, iff_of_false (by simp) hnone, ?_⟩
    exact (wrote_of_failed_step hmade).mono hself
  have hwrote := (wrote_of_step hmade).1.mono hself
  dsimp only
  cases hsheets : outline.sheets runs settings made with
  | error failure => exact ⟨[], List.nil_prefix, iff_of_false (by simp) hnone, hwrote⟩
  | ok sheets =>
    dsimp only
    rcases hsteps : perform world (sheets.flatMap (Sheet.steps world settings)) made with ⟨result, left⟩
    have hkeeps := keeps_perform world (sheets.flatMap (Sheet.steps world settings)) made
    rw [hsteps] at hkeeps
    obtain ⟨done, rest, hall, hdone, hfiles, hresult⟩ := exists_wrote_of_sheets h hsheets hsteps
      fun file hfile at_ => getLast?_of_resolve h (fun path hpath => (hdirect path hpath).keeps
        (hwrote.keeps.trans hkeeps)) hfile
    refine ⟨done.filterMap Step.written?, ⟨_, hfiles⟩, ?_, hwrote.trans hdone fun _ hfile => by cases hfile⟩
    have hok : (∃ paths, (result.map fun _ => sheets.map (settings.pagePath ·.stem)) = .ok paths) ↔
        result = .ok () := by
      cases result with
      | error failure => exact iff_of_false (by simp [Except.map]) (by simp)
      | ok done => exact iff_of_true ⟨_, rfl⟩ rfl
    rw [hok, hresult, ← hfiles]
    constructor
    · rintro rfl
      rw [List.filterMap_nil, List.append_nil]
    · intro heq
      exact eq_nil_of_filterMap_target? hall (List.append_right_eq_self.1 heq.symm)

/-- Where no output path is a link or passes through one, an analysis writes files of its own and no other ones, in
the order of its charts, whatever is refused and whichever drawings can be pages. It succeeds if it has written all
of them. -/
theorem wrote_files :
    (∀ outline ∈ all, ∀ (runs : List RunDir) (settings : Settings) (session : Session),
      (outline.analysis.run runs settings).outcome session = outline.effects .actual runs settings session.store) ∧
    ∀ outline ∈ all, ∀ (world : World) (runs : List RunDir) (settings : Settings) (store : Store),
      (∀ path ∈ settings.files (outline.stems settings), store.IsDirect path) → ∃ written : List (Path × List UInt8),
        written.map (·.1) <+: settings.files (outline.stems settings) ∧
        ((∃ paths, (outline.effects world runs settings store).1 = .ok paths) ↔
          written.map (·.1) = settings.files (outline.stems settings)) ∧
        Store.Wrote (settings.dirs (outline.stems settings)) written store
          (outline.effects world runs settings store).2 ∧
        ∀ at_ content, store.node? at_ = some (.file content) →
          (∃ name ∈ at_.getLast?, outline.query.name.admits name.toList = true) →
            (outline.effects world runs settings store).2.node? at_ = some (.file content) := by
  refine ⟨fun outline h runs settings session => outcome_run_eq_effects h runs settings session, ?_⟩
  intro outline h world runs settings store hdirect
  obtain ⟨written, hwritten, hresult, hwrote⟩ := exists_wrote_of_effects h world runs hdirect
  refine ⟨written, hwritten, hresult, hwrote, ?_⟩
  rintro at_ content hnode ⟨name, hname, hadmits⟩
  exact node?_of_wrote h hdirect hwritten hwrote hnode hname hadmits

theorem wrote_files_crossed :
    (∀ path ∈ Settings.files { outputDir := "out" } (queryCacheMisses.stems { outputDir := "out" }),
      crossed.IsDirect path) ∧
    ∃ written : List (Path × List UInt8),
      written.map (·.1) <+: ["out/swiftlinks-cache-misses-query-cache.svg",
        "out/swiftlinks-cache-misses-query-cache.pdf", "out/plot_data/swiftlinks-cache-misses-query-cache.json"] ∧
      Store.Wrote (Settings.dirs { outputDir := "out" } (queryCacheMisses.stems { outputDir := "out" })) written crossed
        ((queryCacheMisses.analysis.run [⟨some "a", "out/swiftlinks-cache-misses-query-cache.pdf"⟩]
          { outputDir := "out" }).outcome { store := crossed }).2 := by
  have hdirect : ∀ path ∈ Settings.files { outputDir := "out" } (queryCacheMisses.stems { outputDir := "out" }),
      crossed.IsDirect path := fun _ _ => isPlain_crossed.isDirect
  have hfiles : Settings.files { outputDir := "out" } (queryCacheMisses.stems { outputDir := "out" }) =
      ["out/swiftlinks-cache-misses-query-cache.svg", "out/swiftlinks-cache-misses-query-cache.pdf",
        "out/plot_data/swiftlinks-cache-misses-query-cache.json"] := by decide
  have hmem : queryCacheMisses ∈ all := by simp [all]
  obtain ⟨written, hwritten, -, hwrote, -⟩ := wrote_files.2 queryCacheMisses hmem .actual
    [⟨some "a", "out/swiftlinks-cache-misses-query-cache.pdf"⟩] _ crossed hdirect
  rw [wrote_files.1 queryCacheMisses hmem, ← hfiles]
  exact ⟨hdirect, written, hwritten, hwrote⟩

end Outline

end RunCharts
