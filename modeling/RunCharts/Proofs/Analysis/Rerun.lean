import RunCharts.Proofs.Analysis.OwnFiles
import RunCharts.Proofs.Analysis.Sight
import RunCharts.Proofs.Log.Texts

/-! # Running an analysis again

An analysis that has succeeded can be run again on what it has left, and changes nothing (`Outline.run_again`). None of
the files that it has written is one that it reads, wherever its output directory lies, so it reads the same as before
(`seesSame_of_changed`). And each of its steps finds done what it is to do (`perform_again`).

This is lost where a link leads nowhere at first, and to one of the files once it has been written
(`Outline.run_ne_of_dangling`). -/

namespace RunCharts

open Files Command

variable {store before after made left : Store} {world : World} {step : Step} {steps : List Step}
  {settings : Settings} {session : Session} {stems : List String}

/-! ### Steps that have been performed -/

theorem exists_step_of_perform (h : perform world steps store = (.ok (), left)) (hstep : step ∈ steps) :
    ∃ before after, step.perform world before = (.ok (), after) ∧ Store.Keeps after left := by
  induction steps generalizing store with
  | nil => cases hstep
  | cons first rest ih =>
    rw [perform] at h
    rcases hfirst : first.perform world store with ⟨failure | _, mid⟩ <;> rw [hfirst] at h
    · cases h
    · rcases List.mem_cons.1 hstep with rfl | hstep
      · have hkeeps := keeps_perform world rest mid
        dsimp only at h
        rw [h] at hkeeps
        exact ⟨store, mid, hfirst, hkeeps⟩
      · exact ih h hstep

/-- A step that has been performed changes nothing, as long as its file reads as it was written. -/
theorem perform_step_again (h : step.perform world before = (.ok (), after)) (hkeeps : Store.Keeps after left)
    (hread : ∀ file ∈ step.written?, left.read file.1 = .ok file.2) : step.perform world left = (.ok (), left) := by
  have hbefore := keeps_step world step before
  rw [h] at hbefore
  cases Step.does h with
  | there hthere => rw [Step.perform, if_pos (hthere.imp_right hkeeps.exists?)]
  | @made path _ _ _ hresult hleft =>
    rw [Except.mapError_eq_ok_iff, Except.mapError_eq_ok_iff] at hresult
    have hthere : path = "" ∨ left.exists? path = true :=
      (Store.exists?_makeDirs hresult).imp_right (hleft ▸ hkeeps).exists?
    rw [Step.perform, if_pos hthere]
  | @wrote path content _ hallowed hwrite =>
    obtain ⟨at_, hresolve, -⟩ := Store.node?_write hwrite
    have hsame : left.write path content = .ok left :=
      Store.write_of_read ((hbefore.trans hkeeps).resolve hresolve) (hread _ rfl)
    rw [Step.perform, hallowed]
    dsimp only
    rw [hsame]

/-- Steps that have been performed change nothing, as long as the files read as they were written. -/
theorem perform_again (h : perform world steps store = (.ok (), left))
    (hread : ∀ file ∈ steps.filterMap Step.written?, left.read file.1 = .ok file.2) {again : List Step}
    (hagain : again ⊆ steps) : perform world again left = (.ok (), left) := by
  induction again with
  | nil => rfl
  | cons step rest ih =>
    obtain ⟨hstep, hrest⟩ := List.cons_subset.1 hagain
    obtain ⟨before, after, hperform, hkeeps⟩ := exists_step_of_perform h hstep
    have hfile : ∀ file ∈ step.written?, left.read file.1 = .ok file.2 := fun file hfile =>
      hread file (List.mem_filterMap.2 ⟨step, hstep, hfile⟩)
    rw [perform, perform_step_again hperform hkeeps hfile]
    exact ih hrest

/-! ### What is read again -/

theorem isName_of_node?_ne {p : Location} (h : left.node? p ≠ made.node? p) {name : String} (hname : name ∈ p) :
    IsName name := by
  cases hmade : made.node? p with
  | some node => exact made.named _ (Store.node?_eq_some_iff.1 hmade) name hname
  | none =>
    rw [hmade] at h
    obtain ⟨node, hleft⟩ := Option.ne_none_iff_exists'.1 h
    exact left.named _ (Store.node?_eq_some_iff.1 hleft) name hname

/-- What a query selects has a name that it admits, or a link leads there. -/
theorem FileQuery.admits_of_selects {query : FileQuery} {root : Path} {at_ : Location} {names : List String}
    (hroot : store.resolve root = .ok at_) (hplain : store.node? (at_ ++ names) ≠ some .dir)
    (hnamed : ∀ name ∈ names, IsName name) (h : query.selects (root.below names) = true) :
    (∃ name ∈ (at_ ++ names).getLast?, query.name.admits name.toList = true) ∨ store.LeadsTo (at_ ++ names) := by
  have hgiven {name : String} (hname : (root.below names).fileName? = some name.toList) :
      query.name.admits name.toList = true := by
    rw [selects, hname, Bool.and_eq_true] at h
    exact h.1
  cases names using List.reverseRecOn with
  | nil =>
    rw [List.append_nil] at hplain ⊢
    rcases Store.fileName?_of_resolve hroot hplain with ⟨name, hname, hlast⟩ | hleadsTo
    · exact .inl ⟨name, hlast, hgiven hname⟩
    · exact .inr hleadsTo
  | append_singleton front last =>
    have hisName := hnamed last (by simp)
    obtain ⟨steps, hsteps⟩ := Path.exists_steps_join (root.below front) hisName
    rw [← Path.below_append_singleton] at hsteps
    refine .inl ⟨last, ?_, hgiven (Store.fileName?_of_steps hsteps hisName.1)⟩
    rw [← List.append_assoc, List.getLast?_concat]
    rfl

/-- What has been changed is not what a query reads, if no link leads by it and its name is not admitted. -/
theorem seesSame_of_changed {query : FileQuery} {root : Path} {files : List Path} (hkeeps : Store.Keeps made left)
    (hchanged : ∀ p, left.node? p ≠ made.node? p → ¬ left.LeadsBy p ∧
      ∃ name ∈ p.getLast?, query.name.admits name.toList = false)
    (hselected : query.selected root made = .ok files) (hfiles : files ≠ []) : query.SeesSame root made left := by
  -- neither a directory nor a link is changed
  have hplain {p : Location} (hne : left.node? p ≠ made.node? p) : made.node? p ≠ some .dir ∧
      ∀ target, made.node? p ≠ some (.link target) :=
    ⟨fun hdir => hne (by rw [hdir, hkeeps.dirs p hdir]),
      fun target hlink => hne (by rw [hlink, (hkeeps.links p target).2 hlink])⟩
  have hleads (p : Location) (hp : made.LeadsBy p ∨ left.LeadsBy p) : left.node? p = made.node? p := by
    by_contra hne
    rcases hp with hp | hp
    · exact (hchanged p hne).1 (hkeeps.frames.leadsBy hp)
    · exact (hchanged p hne).1 hp
  have hselects (at_ : Location) (names : List String) (hroot : made.resolve root = .ok at_)
      (hselects : query.selects (root.below names) = true) : left.node? (at_ ++ names) = made.node? (at_ ++ names) := by
    by_contra hne
    obtain ⟨-, name, hlast, hadmits⟩ := hchanged _ hne
    have hnamed : ∀ name ∈ names, IsName name := fun name hname =>
      isName_of_node?_ne hne (List.mem_append_right _ hname)
    rcases query.admits_of_selects hroot (hplain hne).1 hnamed hselects with ⟨given, hgiven, hadmitted⟩ | hleadsTo
    · rw [Option.mem_def.1 hlast] at hgiven
      obtain rfl := Option.some.inj hgiven
      rw [hadmits] at hadmitted
      cases hadmitted
    · exact hne (hleads _ (.inl hleadsTo.leadsBy))
  refine ⟨hkeeps.start, fun p hp => ?_, hleads, hselects⟩
  -- the way to the run is one of directories and links, and the run is a directory or a file that has been selected
  by_contra hne
  obtain ⟨file, hfile⟩ := List.exists_mem_of_ne_nil _ hfiles
  obtain ⟨at_, names, hroot, hvisited, -, hself, -⟩ := query.exists_of_mem_selected hselected hfile
  obtain ⟨_, -, hwalk⟩ := Except.bind_eq_ok_iff.1 hroot
  obtain rfl : p = at_ := Store.eq_of_meets_of_walk hwalk hp (hplain hne).1 (hplain hne).2
  by_cases hempty : names = []
  · have hsame := hselects p names hroot hself
    rw [hempty, List.append_nil] at hsame
    exact hne hsame
  · obtain ⟨node, hbelow⟩ := Option.ne_none_iff_exists'.1 ((Store.mem_visited_iff.1 hvisited).resolve_left hempty)
    exact (hplain hne).1 (Store.dir_of_append_mem (Store.node?_eq_some_iff.1 hbelow) hempty)

namespace Outline

open Analysis Analysis.Cache

variable {outline : Outline} {runs : List RunDir}

/-- What is changed when an analysis writes is none of what it reads: no link leads by it, and it has the name of one
of the files or of the directory of the numbers behind charts. -/
theorem changed_of_wrote (h : outline ∈ all)
    (hlinks : ∀ path ∈ settings.dataDir :: settings.files (outline.stems settings), ∀ p,
      left.resolve path = .ok p → ¬ left.LeadsBy p)
    {written : List (Path × List UInt8)} (hwritten : written.map (·.1) ⊆ settings.files (outline.stems settings))
    (hwrote : Store.Wrote [settings.dataDir] written made left) {p : Location} (hne : left.node? p ≠ made.node? p) :
    ¬ left.LeadsBy p ∧ ∃ name ∈ p.getLast?, outline.query.name.admits name.toList = false := by
  have hnamed {dir : Path} {name : String} (hname : IsName name)
      (hmem : dir.join name ∈ settings.dataDir :: settings.files (outline.stems settings))
      (hresolve : left.resolve (dir.join name) = .ok p) : ¬ left.LeadsBy p ∧ name ∈ p.getLast? := by
    have hleads := hlinks _ hmem p hresolve
    exact ⟨hleads, (Store.getLast?_of_resolve_join hname hresolve).resolve_right fun hto => hleads hto.leadsBy⟩
  rcases hwrote.changed p with hsame | ⟨-, -, path, hpath, hresolve⟩ | ⟨file, hfile, hresolve, -⟩
  · exact absurd hsame hne
  · rw [List.mem_singleton.1 hpath] at hresolve
    obtain ⟨hleads, hlast⟩ := hnamed (by decide) List.mem_cons_self hresolve
    exact ⟨hleads, _, hlast, not_admits_plotData h⟩
  · have hpath := hwritten (List.mem_map_of_mem hfile)
    obtain ⟨stem, hstem, entry, hentry, heq⟩ := mem_files hpath
    obtain ⟨ending, hending, hname⟩ := mem_fileNames hentry
    rw [heq] at hpath hresolve
    obtain ⟨hleads, hlast⟩ := hnamed (isName_of_mem_fileNames h hstem hentry) (List.mem_cons_of_mem _ hpath) hresolve
    exact ⟨hleads, _, hlast, by rw [hname, not_admits_ending h stem hending]⟩

/-- Where the output directory has been made, only that of the numbers behind charts may be missing. -/
theorem eq_or_exists?_of_mem_dirs (h : outline ∈ all)
    (hmade : (ensureDir settings.outputDir).outcome session = (.ok (), made)) {path : Path}
    (hpath : path ∈ settings.dirs (outline.stems settings)) :
    path ∈ [settings.dataDir] ∨ made.exists? path = true := by
  obtain ⟨dir, hdir, habove⟩ := List.mem_flatMap.1 hpath
  have hthere {dir : Path} (hdir : dir = "" ∨ made.exists? dir = true) (habove : path ∈ dir.ancestors) :
      path ∈ [settings.dataDir] ∨ made.exists? path = true := .inr (Store.exists?_of_mem_ancestors hdir habove)
  rcases List.mem_cons.1 hdir with rfl | hdir
  · exact hthere (exists?_ensureDir hmade) habove
  obtain ⟨stem, hstem, hdir⟩ := List.mem_flatMap.1 hdir
  rcases List.mem_append.1 hdir with hdir | hdir
  · exact hthere (exists?_outputDir hmade (isName_page h settings stem hstem) dir (Option.mem_toList.1 hdir)) habove
  · obtain rfl := List.mem_singleton.1 hdir
    obtain ⟨hne, rfl | hexists⟩ := Path.of_mem_ancestors
      (fun path dir hne hparent (hpath : path = settings.dataDir ∨ path = "" ∨ made.exists? path = true) =>
        .inr (hpath.elim (fun heq => exists?_outputDir hmade (by decide) dir (heq ▸ hparent))
          fun hthere => Store.exists?_parent? (hthere.resolve_left hne) hparent))
      (.inl rfl) habove
    · exact .inl (List.mem_singleton_self _)
    · exact .inr (hexists.resolve_left hne)

/-- Sheets that have been written have changed their files, and perhaps made the directory of the numbers behind
charts. -/
theorem wrote_of_perform (h : outline ∈ all)
    (hmade : (ensureDir settings.outputDir).outcome session = (.ok (), made)) {sheets : List Sheet}
    (hsheets : outline.sheets runs settings store = .ok sheets)
    (hperform : perform world (sheets.flatMap (Sheet.steps world settings)) made = (.ok (), left))
    (hlinks : ∀ path ∈ settings.dataDir :: settings.files (outline.stems settings), ∀ p,
      left.resolve path = .ok p → ¬ left.LeadsBy p) :
    ((sheets.flatMap (Sheet.steps world settings)).filterMap Step.written?).map (·.1) =
        settings.files (outline.stems settings) ∧
      Store.Wrote [settings.dataDir] ((sheets.flatMap (Sheet.steps world settings)).filterMap Step.written?) made
        left := by
  obtain ⟨done, rest, hall, hwrote, hfiles, hresult⟩ := exists_wrote_of_sheets h hsheets hperform
    fun file hfile at_ hresolve => by
      obtain ⟨stem, hstem, hmem⟩ := List.mem_flatMap.1 hfile
      have hleads := hlinks _ (List.mem_cons_of_mem _ (List.mem_map_of_mem hfile)) at_ hresolve
      exact (Store.getLast?_of_resolve_join (isName_of_mem_fileNames h hstem hmem) hresolve).resolve_right
        fun hto => hleads hto.leadsBy
  obtain rfl := hresult.1 rfl
  rw [List.append_nil] at hall
  rw [List.filterMap_nil, List.append_nil] at hfiles
  rw [← hall] at hwrote hfiles
  exact ⟨hfiles, hwrote.restrict fun path hpath => eq_or_exists?_of_mem_dirs h hmade hpath⟩

/-- An analysis that has succeeded can be run again on what it has left: it succeeds, gives the same paths, prints the
same lines, and leaves everything as it is. No link may lead by a file that it writes, or by the directory of the
numbers behind charts. A link to a file that is yet to be written leads there as soon as it is, so this is asked of the
store that is left; it is not enough to ask it of the store that is given (`run_ne_of_dangling`). -/
theorem run_again : ∀ outline ∈ all, ∀ (runs : List RunDir) (settings : Settings) (session left : Session)
    (paths : List Path), (outline.analysis.run runs settings).runOn session = (.ok paths, left) →
      (∀ path ∈ settings.dataDir :: settings.files (outline.stems settings), ∀ p,
        left.store.resolve path = .ok p → ¬ left.store.LeadsBy p) →
      ∃ lines, left.printed = session.printed ++ lines ∧ ∀ session' : Session, session'.store = left.store →
        ∃ left', (outline.analysis.run runs settings).runOn session' = (.ok paths, left') ∧
          left'.store = left.store ∧ left'.printed = session'.printed ++ lines := by
  intro outline h runs settings session left paths hrun hlinks
  have hout : (outline.analysis.run runs settings).outcome session = (.ok paths, left.store) := by
    rw [outcome, hrun]
  obtain ⟨made, sheets, hdir, hsheets, hpaths, hperform⟩ := (outcome_run_eq_ok_iff h).1 hout
  have hmade : (ensureDir settings.outputDir).outcome session = (.ok (), made) := by
    rw [outcome_ensureDir_eq_perform, hdir]
  -- what the first run has written
  obtain ⟨hwritten, hwrote⟩ := wrote_of_perform h hmade hsheets hperform hlinks
  -- the second one reads the same, and writes it where it is already
  have hreads : outline.ReadsSame runs settings made left.store := by
    have hpasses : outline.Passes runs settings made := (exists_sheets_iff h _ _ _).1 ⟨sheets, hsheets⟩
    refine readsSame h fun run hrun => ?_
    obtain ⟨files, hselected, hfiles, -⟩ := (passes_iff.1 hpasses).1 run hrun
    exact seesSame_of_changed hwrote.keeps (fun p => changed_of_wrote h hlinks (hwritten ▸ List.Subset.refl _) hwrote)
      hselected hfiles
  have hagain {again : List Step} (hagain : again ⊆ sheets.flatMap (Sheet.steps .actual settings)) :
      perform .actual again left.store = (.ok (), left.store) :=
    perform_again hperform hwrote.reads hagain
  have hdir' : (Step.dir settings.outputDir).perform .actual left.store = (.ok (), left.store) :=
    perform_step_again hdir hwrote.keeps fun _ hfile => by cases hfile
  obtain ⟨lines, hprints, hlines⟩ := exists_prints h runs settings
  have hsame : lines left.store = lines made := by
    refine hlines made left.store hreads fun sheets' hsheets' front hfront => ?_
    rw [hsheets] at hsheets'
    cases hsheets'
    obtain ⟨behind, rfl⟩ := hfront
    have hall := hperform
    rw [List.flatMap_append, perform_append] at hall
    rw [hagain (by rw [List.flatMap_append]; exact List.subset_append_left _ _)]
    rcases hfirst : perform .actual (front.flatMap (Sheet.steps .actual settings)) made with ⟨failure | _, mid⟩
    · rw [hfirst] at hall
      cases hall
    · rfl
  refine ⟨lines made, ?_, fun session' hstore => ?_⟩
  · have hprinted := Analysis.prints_run hprints session
    rw [hrun, linesAfter, outcome_ensureDir_eq_perform, hdir] at hprinted
    exact hprinted
  · have hout' : (outline.analysis.run runs settings).outcome session' = (.ok paths, left.store) :=
      (outcome_run_eq_ok_iff h).2 ⟨left.store, sheets, hstore ▸ hdir', (sheets_congr h hreads).trans hsheets, hpaths,
        hagain (List.Subset.refl _)⟩
    have hprinted := Analysis.prints_run hprints session'
    rw [linesAfter, outcome_ensureDir_eq_perform, hstore, hdir'] at hprinted
    obtain ⟨hvalue, hstore'⟩ := Prod.mk.inj hout'
    exact ⟨_, Prod.ext hvalue rfl, hstore', hprinted.trans (by rw [linesOf, hsame])⟩

theorem exists_run_logs : ∃ paths left, (queryCacheMisses.analysis.run [⟨some "a", "scout-1/miss-no-object-count"⟩]
    { outputDir := "" }).runOn { store := logs } = (.ok paths, left) := by
  have hmem : queryCacheMisses ∈ all := by simp [all]
  obtain ⟨sheets, hsheets⟩ := (exists_sheets_iff hmem _ _ _).2 (passes_logs { outputDir := "" })
  exact ⟨_, exists_run_of_isOpen hmem (.inl rfl) hsheets (isOpen_logs hsheets)⟩

theorem run_again_logs : ∃ paths left, (queryCacheMisses.analysis.run [⟨some "a", "scout-1/miss-no-object-count"⟩]
      { outputDir := "" }).runOn { store := logs } = (.ok paths, left) ∧
    ∃ again, (queryCacheMisses.analysis.run [⟨some "a", "scout-1/miss-no-object-count"⟩]
      { outputDir := "" }).runOn { store := left.store } = (.ok paths, again) ∧
      again.store = left.store ∧ again.printed = left.printed := by
  have hmem : queryCacheMisses ∈ all := by simp [all]
  obtain ⟨paths, left, hrun⟩ := exists_run_logs
  have hkeeps := keeps_run hmem [⟨some "a", "scout-1/miss-no-object-count"⟩] { outputDir := "" } { store := logs }
  rw [outcome, hrun] at hkeeps
  have hplain (p : Location) : ¬ left.store.LeadsBy p := by
    rintro ⟨at_, target, -, hlink, -⟩
    exact isPlain_logs.ne_link at_ target ((hkeeps.links at_ target).1 hlink)
  obtain ⟨lines, hlines, hagain⟩ := run_again queryCacheMisses hmem _ _ _ _ _ hrun fun _ _ p _ => hplain p
  obtain ⟨again, hrun', hstore, hprinted⟩ := hagain { store := left.store } rfl
  exact ⟨paths, left, hrun, again, hrun', hstore, hprinted.trans hlines.symm⟩

/-! ### A link to a drawing that is yet to be written -/

/-- A store with a log, and with a link to where a drawing is yet to be written. -/
def dangling : Store where
  nodes := [([], .dir), (["scout-1"], .dir), (["scout-1", "a"], .dir),
    (["scout-1", "a", "miss-no-object-count"], .link "../../out/swiftlinks-cache-misses-query-cache.svg"),
    (["scout-1", "miss-no-object-count"], .file [])]
  sorted := by decide
  root_mem := by decide
  parent_mem := by decide
  named := by decide

def danglingMade : Store := dangling.put ["out"] .dir

theorem exists?_out : danglingMade.exists? "out" = true :=
  Store.IsStraight.exists? (show danglingMade.IsStraight "out" ["out"] by decide) rfl rfl

/-- Without the output directory the link leads nowhere. -/
theorem not_leadsBy_dangling (p : Location) : ¬ dangling.LeadsBy p := by
  rintro ⟨at_, target, there, hlink, hfollow, -⟩
  have hmem := Store.node?_eq_some_iff.1 hlink
  obtain ⟨rfl, rfl⟩ : at_ = ["scout-1", "a", "miss-no-object-count"] ∧
      target = "../../out/swiftlinks-cache-misses-query-cache.svg" := by simpa [dangling] using hmem
  have hnowhere : dangling.follow ["scout-1", "a", "miss-no-object-count"]
      "../../out/swiftlinks-cache-misses-query-cache.svg" = .error .notFound :=
    Store.walk_of_walkWithin (n := 4) rfl
  rw [hnowhere] at hfollow
  cases hfollow

/-- With the output directory the link leads to the place of the drawing. -/
theorem resolve_danglingMade_link : danglingMade.resolve "scout-1/a/miss-no-object-count" =
    .ok ["out", "swiftlinks-cache-misses-query-cache.svg"] :=
  Store.resolve_of_walkWithin 7 (by decide) rfl

/-- The log is selected, and the link as soon as a file is where it leads. -/
theorem selected_dangling {store : Store} (hkeeps : Store.Keeps danglingMade store)
    (hscout : ∀ names, store.node? ("scout-1" :: names) = danglingMade.node? ("scout-1" :: names)) :
    queryCacheMisses.query.selected "scout-1" store =
      .ok ((if store.isFile "scout-1/a/miss-no-object-count" then ["scout-1/a/miss-no-object-count"] else []) ++
        ["scout-1/miss-no-object-count"]) := by
  have hdir (path : Path) (at_ : Location) (hpath : danglingMade.IsStraight path at_)
      (hdir : danglingMade.node? at_ = some .dir) : store.resolve path = .ok at_ ∧ store.isFile path = false := by
    have hresolve : store.resolve path = .ok at_ := hkeeps.resolve (hpath.resolve_of_dir rfl hdir)
    exact ⟨hresolve, Store.isFile_of_dir hresolve (hkeeps.dirs _ hdir)⟩
  obtain ⟨hroot, hscoutDir⟩ := hdir "scout-1" ["scout-1"] (by decide) rfl
  obtain ⟨-, haDir⟩ := hdir "scout-1/a" ["scout-1", "a"] (by decide) rfl
  have hlog : store.isFile "scout-1/miss-no-object-count" = true := by
    have hpath : danglingMade.IsStraight "scout-1/miss-no-object-count" ["scout-1", "miss-no-object-count"] := by decide
    have hresolve : store.resolve "scout-1/miss-no-object-count" = .ok ["scout-1", "miss-no-object-count"] :=
      hkeeps.resolve (hpath.resolve rfl fun _ hlink => by cases hlink)
    exact Store.isFile_iff.2 ⟨_, _, hresolve, hscout _⟩
  have hvisited : store.visited ["scout-1"] = danglingMade.visited ["scout-1"] :=
    Store.visited_congr hscout
  have hnames : (danglingMade.visited ["scout-1"]) =
      [[], ["a"], ["a", "miss-no-object-count"], ["miss-no-object-count"]] := by decide
  have hbelow : Path.below "scout-1" [] = "scout-1" ∧ Path.below "scout-1" ["a"] = "scout-1/a" ∧
      Path.below "scout-1" ["a", "miss-no-object-count"] = "scout-1/a/miss-no-object-count" ∧
      Path.below "scout-1" ["miss-no-object-count"] = "scout-1/miss-no-object-count" := by decide
  have hselects : queryCacheMisses.query.selects "scout-1/a/miss-no-object-count" = true ∧
      queryCacheMisses.query.selects "scout-1/miss-no-object-count" = true := by decide
  rw [FileQuery.selected_eq _ hroot (by rw [hscout]; decide), hvisited, hnames]
  cases hlink : store.isFile "scout-1/a/miss-no-object-count" <;>
    simp [hbelow, hscoutDir, haDir, hlog, hlink, hselects]

/-- The drawing of the chart of query cache times. -/
def drawing (summaries : List GroupSummary) : List UInt8 :=
  octets (Svg.render (Chart.single summaries "Query cache time" missesLabel 0.0) ⟨640, 480⟩)

/-- The sheet of the chart of query cache times is written in five steps. -/
theorem steps_misses {summaries : List GroupSummary} {page : List UInt8}
    (hpage : Pdf.page? ⟨640, 480⟩ (Svg.draw (Chart.single summaries "Query cache time" missesLabel 0.0) ⟨640, 480⟩) =
      some page) : Sheet.steps .actual { outputDir := "out" } ⟨"swiftlinks-cache-misses-query-cache",
        Chart.single summaries "Query cache time" missesLabel 0.0, summaries⟩ =
      [.dir "out", .file "out/swiftlinks-cache-misses-query-cache.svg" (some (drawing summaries)),
        .file "out/swiftlinks-cache-misses-query-cache.pdf" (some page), .dir "out/plot_data",
        .file "out/plot_data/swiftlinks-cache-misses-query-cache.json" (some (octets (PlotData.render summaries)))] := by
  obtain ⟨hpath, hdrawing, hparent, hdir, hdata⟩ :
      Settings.pagePath { outputDir := "out" } "swiftlinks-cache-misses-query-cache" =
        "out/swiftlinks-cache-misses-query-cache.pdf" ∧
      Path.withExtension "out/swiftlinks-cache-misses-query-cache.pdf" "svg" =
        "out/swiftlinks-cache-misses-query-cache.svg" ∧
      Path.parent? "out/swiftlinks-cache-misses-query-cache.pdf" = some "out" ∧
      Settings.dataDir { outputDir := "out" } = "out/plot_data" ∧
      Settings.dataPath { outputDir := "out" } "swiftlinks-cache-misses-query-cache" =
        "out/plot_data/swiftlinks-cache-misses-query-cache.json" := by decide
  rw [Sheet.steps, Sheet.pageSteps, hpath, hdrawing, hparent, hdir, hdata]
  simp [World.actual, hpage, drawing]

/-- The sheet can be written below the output directory, and nothing else is changed. -/
theorem exists_perform_danglingMade {summaries : List GroupSummary} (hnames : summaries.map (·.name) = ["a"]) :
    ∃ left, perform .actual (Sheet.steps .actual { outputDir := "out" } ⟨"swiftlinks-cache-misses-query-cache",
        Chart.single summaries "Query cache time" missesLabel 0.0, summaries⟩) danglingMade = (.ok (), left) ∧
      left.node? ["out", "swiftlinks-cache-misses-query-cache.svg"] = some (.file (drawing summaries)) ∧
      ∀ names, left.node? ("scout-1" :: names) = danglingMade.node? ("scout-1" :: names) := by
  obtain ⟨page, hpage⟩ := Option.isSome_iff_exists.1 (isSome_page?_misses hnames)
  -- the drawing and the page
  have hdrawing : danglingMade.IsStraight "out/swiftlinks-cache-misses-query-cache.svg"
      ["out", "swiftlinks-cache-misses-query-cache.svg"] := by decide
  obtain ⟨drawn, hdrawn, hdrawnNode⟩ := hdrawing.exists_write rfl (by decide) (drawing summaries)
  have hpdf : drawn.IsStraight "out/swiftlinks-cache-misses-query-cache.pdf"
      ["out", "swiftlinks-cache-misses-query-cache.pdf"] := .keeps (Store.keeps_write hdrawn) (by decide)
  obtain ⟨paged, hpaged, hpagedNode⟩ := hpdf.exists_write (Store.keeps_write hdrawn).start
    (by rw [hdrawnNode, if_neg (by decide)]; rfl) page
  have hmade : Store.Keeps danglingMade paged := (Store.keeps_write hdrawn).trans (Store.keeps_write hpaged)
  -- the numbers behind the chart, in a directory of their own
  have hdata : paged.IsStraight "out/plot_data" ["out", "plot_data"] := .keeps hmade (by decide)
  have hmissing : paged.node? ["out", "plot_data"] = none := by
    rw [hpagedNode, if_neg (by decide), hdrawnNode, if_neg (by decide)]
    rfl
  have hnode := hdata.node?_put_dir hmade.start hmissing
  have hkeeps := hdata.keeps_put_dir hmade.start hmissing
  have hjson : (paged.put ["out", "plot_data"] .dir).IsStraight
      "out/plot_data/swiftlinks-cache-misses-query-cache.json"
      ["out", "plot_data", "swiftlinks-cache-misses-query-cache.json"] :=
    ⟨by decide, by decide, (hdata.keeps hkeeps).entered.concat (by rw [List.nil_append, hnode, if_pos rfl]) (by decide),
      by decide⟩
  obtain ⟨left, hleft, hleftNode⟩ := hjson.exists_write (hkeeps.start.trans hmade.start) (by
    rw [hnode, if_neg (by decide), hpagedNode, if_neg (by decide), hdrawnNode, if_neg (by decide)]
    rfl) (octets (PlotData.render summaries))
  refine ⟨left, ?_, ?_, fun names => ?_⟩
  · rw [steps_misses hpage, perform_cons (Step.perform_dir_of_exists (.inr exists?_out)),
      perform_cons (Step.perform_file hdrawn), perform_cons (Step.perform_file hpaged),
      perform_cons (Step.perform_dir_of_missing hdata hmade.start hmissing), perform_cons (Step.perform_file hleft)]
    rfl
  · rw [hleftNode, if_neg (by decide), hnode, if_neg (by decide), hpagedNode, if_neg (by decide), hdrawnNode, if_pos rfl]
  · simp [hleftNode, hnode, hpagedNode, hdrawnNode]

/-- A drawing is refused as a log: its first line has no semicolon. -/
theorem sumFrom_drawing (start : Int) (summaries : List GroupSummary) :
    Log.Counter.sumFrom start (drawing summaries) = .error (.malformed 1 .notTwoFields) := by
  obtain ⟨rest, hrest⟩ : ∃ rest, drawing summaries = Log.encode
      ("<svg width=\"640\" height=\"480\" viewBox=\"0 0 640 480\" xmlns=\"http://www.w3.org/2000/svg\">".toList ++
        '\n' :: rest) := by
    have htag : Svg.tagText "svg" [("width", toString 640), ("height", toString 480),
        ("viewBox", s!"0 0 {640} {480}"), ("xmlns", "http://www.w3.org/2000/svg")] =
        "svg width=\"640\" height=\"480\" viewBox=\"0 0 640 480\" xmlns=\"http://www.w3.org/2000/svg\"" := by decide
    refine ⟨(String.join ((Svg.draw (Chart.single summaries "Query cache time" missesLabel 0.0) ⟨640, 480⟩).map
      Svg.Element.render) ++ "</svg>\n").toList, ?_⟩
    rw [Log.encode, ← octets_ofList, drawing, Svg.render, Svg.document]
    refine congrArg octets (String.toList_inj.1 ?_)
    dsimp only
    rw [htag]
    simp [toString]
  have hfields : Log.Counter.timeAndValue?
      "<svg width=\"640\" height=\"480\" viewBox=\"0 0 640 480\" xmlns=\"http://www.w3.org/2000/svg\">".toList = none := by
    decide
  rw [hrest]
  refine Log.foldLines_of_first (by decide) (by decide) ?_ rest
  rw [Log.Counter.sumStep, hfields]

theorem exists_sheet_danglingMade : ∃ summaries, queryCacheMisses.sheets [⟨some "a", "scout-1"⟩]
      { outputDir := "out" } danglingMade = .ok [⟨"swiftlinks-cache-misses-query-cache",
        Chart.single summaries "Query cache time" missesLabel 0.0, summaries⟩] ∧
      summaries.map (·.name) = ["a"] := by
  have hlink : danglingMade.isFile "scout-1/a/miss-no-object-count" = false := by
    rw [Store.isFile, Store.stat, resolve_danglingMade_link]
    rfl
  have hselected := selected_dangling (.refl danglingMade) fun _ => rfl
  rw [hlink] at hselected
  have hpath : danglingMade.IsStraight "scout-1/miss-no-object-count" ["scout-1", "miss-no-object-count"] := by decide
  have hlog : danglingMade.resolve "scout-1/miss-no-object-count" = .ok ["scout-1", "miss-no-object-count"] :=
    hpath.resolve rfl fun _ hlink => by cases hlink
  have hpasses : queryCacheMisses.Passes [⟨some "a", "scout-1"⟩] { outputDir := "out" } danglingMade := by
    refine passes_iff.2 ⟨fun run hrun => ?_, trivial⟩
    rw [List.mem_singleton.1 hrun]
    refine ⟨_, hselected, by simp, fun file hfile => ?_⟩
    obtain rfl : file = "scout-1/miss-no-object-count" := List.mem_singleton.1 hfile
    refine ⟨_, misses_of_read ?_⟩
    exact Store.read_eq_ok_iff.2 ⟨_, hlog, rfl⟩
  obtain ⟨sheets, hsheets⟩ := (exists_sheets_iff (by simp [all]) _ _ _).2 hpasses
  obtain ⟨summaries, rfl, hnames⟩ := queryCacheMissesSheets_eq hsheets
  exact ⟨summaries, hsheets, hnames⟩

/-- No link leads anywhere before the first run. What the first run writes is what the link leads to then, and the
second run reads it as a log. -/
theorem run_ne_of_dangling : (∀ p, ¬ dangling.LeadsBy p) ∧
    ∃ paths left, (queryCacheMisses.analysis.run [⟨some "a", "scout-1"⟩] { outputDir := "out" }).runOn
        { store := dangling } = (.ok paths, left) ∧
      ((queryCacheMisses.analysis.run [⟨some "a", "scout-1"⟩] { outputDir := "out" }).runOn
        { store := left.store }).1 =
          .error (.fault (.malformed "scout-1/a/miss-no-object-count" 1 .notTwoFields)) := by
  have hmem : queryCacheMisses ∈ all := by simp [all]
  obtain ⟨summaries, hsheets, hnames⟩ := exists_sheet_danglingMade
  obtain ⟨left, hperform, hdrawing, hscout⟩ := exists_perform_danglingMade hnames
  have hdir : (Step.dir "out").perform .actual dangling = (.ok (), danglingMade) :=
    Step.perform_dir_of_missing (show dangling.IsStraight "out" ["out"] by decide) rfl rfl
  have hrun : (queryCacheMisses.analysis.run [⟨some "a", "scout-1"⟩] { outputDir := "out" }).outcome
      { store := dangling } = (.ok [Settings.pagePath { outputDir := "out" } "swiftlinks-cache-misses-query-cache"],
        left) := by
    refine (outcome_run_eq_ok_iff hmem).2 ⟨danglingMade, _, hdir, hsheets, rfl, ?_⟩
    rw [List.flatMap_singleton]
    exact hperform
  have hkeeps : Store.Keeps danglingMade left := by
    have hkeeps := keeps_perform .actual (Sheet.steps .actual { outputDir := "out" }
      ⟨"swiftlinks-cache-misses-query-cache", Chart.single summaries "Query cache time" missesLabel 0.0, summaries⟩)
      danglingMade
    rwa [hperform] at hkeeps
  -- now the link leads to the drawing
  have hlink := hkeeps.resolve resolve_danglingMade_link
  have hisFile : left.isFile "scout-1/a/miss-no-object-count" = true := Store.isFile_iff.2 ⟨_, _, hlink, hdrawing⟩
  have hread : left.read "scout-1/a/miss-no-object-count" = .ok (drawing summaries) :=
    Store.read_eq_ok_iff.2 ⟨_, hlink, hdrawing⟩
  have hrefused : queryCacheMisses.reader { outputDir := "out" } "scout-1/a/miss-no-object-count" left =
      .error (.fault (.malformed "scout-1/a/miss-no-object-count" 1 .notTwoFields)) :=
    misses_of_refusal hread (sumFrom_drawing _ summaries)
  have hselected := selected_dangling hkeeps hscout
  rw [hisFile] at hselected
  have hverdict : queryCacheMisses.verdict? [⟨some "a", "scout-1"⟩] { outputDir := "out" } left =
      some (.fault (.malformed "scout-1/a/miss-no-object-count" 1 .notTwoFields)) := by
    simp [verdict?, FileQuery.failure?, hselected, hrefused, Except.error?]
  have hagain : (queryCacheMisses.analysis.run [⟨some "a", "scout-1"⟩] { outputDir := "out" }).outcome
      { store := left } = (.error (.fault (.malformed "scout-1/a/miss-no-object-count" 1 .notTwoFields)), left) :=
    outcome_run_of_verdict hmem (outcome_ensureDir_of_exists (.inr (hkeeps.exists? exists?_out))) hverdict
  obtain ⟨hvalue, hstore⟩ := Prod.mk.inj hrun
  refine ⟨not_leadsBy_dangling, _, _, Prod.ext hvalue rfl, ?_⟩
  rw [hstore]
  exact (Prod.mk.inj hagain).1

end Outline

end RunCharts
