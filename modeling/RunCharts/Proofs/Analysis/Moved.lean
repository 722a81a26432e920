import RunCharts.Proofs.Analysis.Unread
import RunCharts.Proofs.Analysis.VerdictUnder

/-! # Moving an experiment

An experiment that has been moved below another parent comes to the same (`Outline.run_under`). The trees are compared
as the analysis finds them, once it has made its output directory. Where the path of the parent is shown on a page it
must be a text that can stand there, and it must not use up the links that a path may be led through. None of this can
be left out (`Outline.run_ne_of_moved`). -/

namespace RunCharts

open Files Command

variable {parent : Path} {runs : List RunDir} {old new base base' : Store} {settings : Settings}
  {session session' : Session}

/-- The trees of the runs have been moved below the parent. -/
def Moves (parent : Path) (runs : List RunDir) (old new : Store) : Prop :=
  ∃ place, Store.Relocates place old new ∧ ∀ run ∈ runs, Store.Brings place parent old new run.path

namespace Outline

open Analysis Analysis.Cache

variable {outline : Outline}

theorem readsUnder_of_moves (hmem : outline ∈ all) (hmoves : Moves parent runs old new) (hmarks : IsUnmarked parent) :
    outline.ReadsUnder parent runs settings old new := by
  obtain ⟨place, hplace, hbrings⟩ := hmoves
  refine ⟨fun run hrun => ?_, fun run hrun classifier => ?_⟩
  · exact FileQuery.readAll_join (hbrings run hrun) hplace (asksForMark hmem) hmarks fun _ => reader_join hmem
  · exact classify_join classifier hmarks (hbrings run hrun).parent_ne_empty (hbrings run hrun).relative

/-! ### The tree of a scout below a directory -/

/-- The tree of a scout, and where it stands below a directory. -/
def InScout (dir : String) (p q : Location) : Prop := q = dir :: p ∧ p.head? = some "scout-1"

/-- The tree has been moved with its links, each of which leads to the same in it. -/
theorem relocates_inScout {dir : String}
    (hnode : ∀ rest, new.node? (dir :: "scout-1" :: rest) = old.node? ("scout-1" :: rest))
    (hlink : ∀ p target, old.node? p = some (.link target) → ∃ result result',
      old.Leads (Store.linkOrigin p target) target.steps result ∧
      new.Leads (Store.linkOrigin (dir :: p) target) target.steps result' ∧
      Store.SameEnd (InScout dir) result result') :
    Store.Relocates (InScout dir) old new := by
  have hsame {p : Location} (hp : p.head? = some "scout-1") : new.node? (dir :: p) = old.node? p := by
    cases p with
    | nil => cases hp
    | cons first rest => rw [Option.some.inj hp, hnode]
  refine ⟨?_, ?_, ?_⟩
  · rintro p _ ⟨rfl, hp⟩
    rw [hsame hp]
    exact .refl _
  · rintro p _ ⟨rfl, hp⟩ - name
    cases p with
    | nil => cases hp
    | cons first rest => exact ⟨rfl, hp⟩
  · rintro p _ target target' ⟨rfl, hp⟩ hold hnew given hgiven
    rw [hsame hp, hold] at hnew
    cases hnew
    obtain ⟨result, result', hleads, hleads', hsame⟩ := hlink p target hold
    rw [hleads.eq hgiven]
    exact ⟨result', hleads', hsame⟩

theorem looksUp_scout {path : Path} (hroot : old.resolve "scout-1" = .ok ["scout-1"])
    (hvisited : old.visited ["scout-1"] = [[], ["miss-no-object-count"]]) (h : old.LooksUp "scout-1" path) :
    path ∈ ["scout-1", "scout-1/miss-no-object-count"] := by
  rcases h with rfl | ⟨at_, names, hat, hnames, rfl⟩
  · simp
  · rw [hroot] at hat
    cases hat
    rw [hvisited] at hnames
    simp only [List.mem_cons, List.not_mem_nil, or_false] at hnames
    rcases hnames with rfl | rfl <;> decide

theorem moves_of_relocates {dir : String} {label : Option String} (h : Store.Relocates (InScout dir) old new)
    (hstart : old.start = []) (hroot : old.resolve "scout-1" = .ok ["scout-1"])
    (hvisited : old.visited ["scout-1"] = [[], ["miss-no-object-count"]]) (hdir : new.resolve dir = .ok [dir])
    (hnode : new.node? [dir] = some .dir)
    (hlimits : ∀ path ∈ ["scout-1", "scout-1/miss-no-object-count"], Store.SameLimits dir old new path) :
    Moves dir [⟨label, "scout-1"⟩] old new := by
  have hbrings : Store.Brings (InScout dir) dir old new "scout-1" := by
    refine ⟨by decide, by decide, by decide, ?_, ⟨[dir], hdir, hnode, ?_⟩, fun path hpath => ?_⟩
    · rw [hstart]
      exact Store.node?_eq_some_iff.2 old.root_mem
    · have hsteps : Path.steps "scout-1" = ["scout-1"] := by decide
      rw [hsteps, hstart]
      exact ⟨rfl, rfl⟩
    · exact hlimits path (looksUp_scout hroot hvisited hpath)
  refine ⟨_, h, fun run hrun => ?_⟩
  rw [List.mem_singleton.1 hrun]
  exact hbrings

/-- The log of a scout below a directory, and a directory for the numbers behind charts. -/
def logsBelow (dir : String) (hname : IsName dir) (hlt : dir < "plot_data") : Store where
  nodes := [([], .dir), ([dir], .dir), ([dir, "scout-1"], .dir), ([dir, "scout-1", "miss-no-object-count"], .file []),
    (["plot_data"], .dir)]
  sorted := by simp [List.cons_lt_cons_iff, hlt]
  root_mem := by simp
  parent_mem := by simp
  named := by
    have hnames : IsName "scout-1" ∧ IsName "miss-no-object-count" ∧ IsName "plot_data" := by decide
    simp [hname, hnames]

section

variable {dir : String} {hname : IsName dir} {hlt : dir < "plot_data"}

theorem isPlain_logsBelow : (logsBelow dir hname hlt).IsPlain := ⟨rfl, by simp [logsBelow]⟩

theorem relocates_logsBelow : Store.Relocates (InScout dir) logs (logsBelow dir hname hlt) := by
  refine relocates_inScout (fun rest => ?_) fun p target hlink => ?_
  · rcases rest with _ | ⟨name, _ | ⟨last, more⟩⟩
    · simp [Store.node?, logsBelow, logs]
    · by_cases hfile : "miss-no-object-count" = name
      · simp [Store.node?, logsBelow, logs, ← hfile]
      · simp [Store.node?, logsBelow, logs, hfile]
    · simp [Store.node?, logsBelow, logs]
  · exact absurd hlink (isPlain_logs.ne_link p target)

theorem moves_logsBelow
    (h : ∀ path : Path, path ∈ [dir, Path.join dir "scout-1", Path.join dir "scout-1/miss-no-object-count"] →
      (logsBelow dir hname hlt).IsStraight path path.steps) :
    Moves dir [⟨none, "scout-1"⟩] logs (logsBelow dir hname hlt) := by
  refine moves_of_relocates relocates_logsBelow rfl (isPlain_logs.resolve (by decide)) (by decide) ?_ ?_
    fun path hpath => ?_
  · rw [isPlain_logsBelow.resolve (h dir List.mem_cons_self), Path.steps_of_isName hname]
  · exact Store.node?_eq_some_iff.2 (by simp [logsBelow])
  · have hbelow := h (Path.join dir path) (List.mem_cons_of_mem _ (List.mem_map_of_mem (f := Path.join dir) hpath))
    obtain ⟨at_, hold⟩ : ∃ at_, logs.resolve path = .ok at_ := by
      simp only [List.mem_cons, List.not_mem_nil, or_false] at hpath
      rcases hpath with rfl | rfl
      · exact ⟨["scout-1"], isPlain_logs.resolve (by decide)⟩
      · exact ⟨["scout-1", "miss-no-object-count"], isPlain_logs.resolve (by decide)⟩
    refine ⟨hbelow.checked.2.1, ?_⟩
    rw [hold, isPlain_logsBelow.resolve hbelow]
    simp

theorem canWrite_logs : Settings.CanWrite { outputDir := "" } (queryCacheMisses.stems { outputDir := "" }) logs :=
  canWrite_of_isOpen fun _ hstem =>
    isOpen_steps_of_isPlain (List.mem_singleton.1 hstem) isPlain_logs rfl (by decide)

theorem canWrite_logsBelow :
    Settings.CanWrite { outputDir := "" } (queryCacheMisses.stems { outputDir := "" }) (logsBelow dir hname hlt) := by
  refine canWrite_of_isOpen fun _ hstem => isOpen_steps_of_isPlain (List.mem_singleton.1 hstem) isPlain_logsBelow ?_ ?_
  · exact Store.node?_eq_some_iff.2 (by simp [logsBelow])
  · have hne (name : String) (hafter : ¬ name < "plot_data") : dir ≠ name := fun heq => hafter (heq ▸ hlt)
    simp [Store.node?, logsBelow, hne _ (show ¬ "swiftlinks-cache-misses-query-cache.svg" < "plot_data" by decide),
      hne _ (show ¬ "swiftlinks-cache-misses-query-cache.pdf" < "plot_data" by decide),
      hne _ (show ¬ "plot_data" < "plot_data" by decide)]

end

def movedLogs : Store := logsBelow "p" (by decide) (by decide)

/-- The directory has a name that no document may hold. -/
def hiddenLogs : Store := logsBelow "\x01" (by decide) (by decide)

theorem moves_movedLogs : Moves "p" [⟨none, "scout-1"⟩] logs movedLogs := moves_logsBelow (by decide)

theorem moves_hiddenLogs : Moves "\x01" [⟨none, "scout-1"⟩] logs hiddenLogs := moves_logsBelow (by decide)

theorem exists_sheets_logs :
    ∃ sheets, queryCacheMisses.sheets [⟨none, "scout-1"⟩] { outputDir := "" } logs = .ok sheets := by
  have hlog : logs.resolve "scout-1/miss-no-object-count" = .ok ["scout-1", "miss-no-object-count"] :=
    isPlain_logs.resolve (by decide)
  have hfile : logs.isFile "scout-1/miss-no-object-count" = true := Store.isFile_iff.2 ⟨_, _, hlog, rfl⟩
  have hselected := selected_scout (isPlain_logs.resolve (by decide)) rfl (by decide)
  rw [hfile] at hselected
  have hpasses : queryCacheMisses.Passes [⟨none, "scout-1"⟩] { outputDir := "" } logs := by
    refine passes_iff.2 ⟨fun run hrun => ?_, trivial⟩
    rw [List.mem_singleton.1 hrun]
    refine ⟨_, hselected, by decide, fun file hfile => ?_⟩
    obtain rfl : file = "scout-1/miss-no-object-count" := List.mem_singleton.1 hfile
    exact ⟨_, misses_of_read (Store.read_eq_ok_iff.2 ⟨_, hlog, rfl⟩)⟩
  exact (exists_sheets_iff (by simp [all]) _ _ _).2 hpasses

/-- A label that cannot stand in a document keeps the chart of query cache times from being written. -/
theorem outcome_queryCacheMisses {store : Store} {sheets : List Sheet}
    (hsheets : queryCacheMisses.sheets runs { outputDir := "" } store = .ok sheets)
    (hwrite : Settings.CanWrite { outputDir := "" } (queryCacheMisses.stems { outputDir := "" }) store) :
    ((∀ run ∈ runs, Pdf.IsXmlText run.label) ∧
      ∃ paths, ((queryCacheMisses.analysis.run runs { outputDir := "" }).outcome { store }).1 = .ok paths) ∨
    ((¬ ∀ run ∈ runs, Pdf.IsXmlText run.label) ∧
      ((queryCacheMisses.analysis.run runs { outputDir := "" }).outcome { store }).1 = .error (.fault .render)) := by
  have hmem : queryCacheMisses ∈ all := by simp [all]
  have hprints : (∀ sheet ∈ sheets, sheet.IsPrintable { outputDir := "" }) ↔
      ∀ run ∈ runs, Pdf.IsXmlText run.label := by
    obtain ⟨summaries, rfl, hnames⟩ := Analysis.queryCacheMissesSheets_eq hsheets
    rw [List.forall_mem_singleton, isPrintable_misses_iff, hnames, List.forall_mem_map]
  rw [← hprints, outcome_run_of_made hmem runs (outcome_ensureDir_of_exists (.inl rfl)), hsheets]
  dsimp only
  refine (perform_of_canWrite hwrite (map_stem hmem hsheets)).imp (And.imp_right ?_) (And.imp_right ?_)
  · rintro ⟨left, hleft⟩
    rw [hleft]
    exact ⟨_, rfl⟩
  · rintro ⟨left, hleft⟩
    rw [hleft]
    rfl

/-! ### A link that leads somewhere once the output directory has been made -/

/-- The scout with a link through the output directory, below another directory. -/
def wholeBelow : Store where
  nodes := [([], .dir), (["p"], .dir), (["p", "scout-1"], .dir),
    (["p", "scout-1", "miss-no-object-count"], .link "../out/../secret"), (["secret"], .file [])]
  sorted := by decide
  root_mem := by decide
  parent_mem := by decide
  named := by decide

def wholeBelowMade : Store := wholeBelow.put ["out"] .dir

theorem relocates_wholeBelow : Store.Relocates (InScout "p") whole wholeBelow := by
  have hcut (rest : List String) : whole.node? ("scout-1" :: rest) = cut.node? ("scout-1" :: rest) := by
    by_contra hne
    exact absurd (sameShape_whole.2 _ hne) (by simp)
  refine relocates_inScout (fun rest => ?_) fun p target hlink => ?_
  · rw [hcut]
    rcases rest with _ | ⟨name, _ | ⟨last, more⟩⟩
    · rfl
    · by_cases hlog : "miss-no-object-count" = name
      · simp [Store.node?, wholeBelow, cut, ← hlog]
      · simp [Store.node?, wholeBelow, cut, hlog]
    · simp [Store.node?, wholeBelow, cut]
  · obtain ⟨rfl, rfl⟩ := link_cut ((sameShape_whole.1.links _ _).1 hlink)
    exact ⟨.error .notFound, .error .notFound, Store.leads_of_walkWithin 4 1 rfl (by decide),
      Store.leads_of_walkWithin 4 1 rfl (by decide), .failed _⟩

theorem resolve_whole_log : whole.resolve "scout-1/miss-no-object-count" = .error .notFound :=
  Store.resolve_of_walkWithin 5 (by decide) rfl

/-- The link below the other directory leads nowhere, with or without the output directory. -/
theorem resolve_wholeBelow_log {store : Store} (h : store = wholeBelow ∨ store = wholeBelowMade) :
    store.resolve "p/scout-1/miss-no-object-count" = .error .notFound := by
  rcases h with rfl | rfl <;> exact Store.resolve_of_walkWithin 6 (by decide) rfl

theorem resolve_wholeBelow {store : Store} (h : store = wholeBelow ∨ store = wholeBelowMade) :
    store.resolve "p" = .ok ["p"] ∧ store.resolve "p/scout-1" = .ok ["p", "scout-1"] := by
  have hstart : store.start = [] := by rcases h with rfl | rfl <;> rfl
  have hdirs : (store.IsStraight "p" ["p"] ∧ store.node? ["p"] = some .dir) ∧
      store.IsStraight "p/scout-1" ["p", "scout-1"] ∧ store.node? ["p", "scout-1"] = some .dir := by
    rcases h with rfl | rfl <;> decide
  exact ⟨hdirs.1.1.resolve_of_dir hstart hdirs.1.2, hdirs.2.1.resolve_of_dir hstart hdirs.2.2⟩

theorem moves_wholeBelow : Moves "p" [⟨some "a", "scout-1"⟩] whole wholeBelow := by
  have hroot : whole.resolve "scout-1" = .ok ["scout-1"] := resolve_scout rfl rfl
  refine moves_of_relocates relocates_wholeBelow rfl hroot (by decide) (resolve_wholeBelow (.inl rfl)).1 rfl
    fun path hpath => ?_
  simp only [List.mem_cons, List.not_mem_nil, or_false] at hpath
  rcases hpath with rfl | rfl
  · refine ⟨by decide, ?_⟩
    have hjoin : Path.join "p" "scout-1" = "p/scout-1" := by decide
    rw [hjoin, hroot, (resolve_wholeBelow (.inl rfl)).2]
    simp
  · refine ⟨by decide, ?_⟩
    have hjoin : Path.join "p" "scout-1/miss-no-object-count" = "p/scout-1/miss-no-object-count" := by decide
    rw [hjoin, resolve_whole_log, resolve_wholeBelow_log (.inl rfl)]

theorem outcome_run_wholeBelow :
    (cacheMisses.analysis.run [⟨some "a", "p/scout-1"⟩] { outputDir := "out" }).outcome { store := wholeBelow } =
      (.error (.fault (.emptySampleSet "a")), wholeBelowMade) := by
  have hroot := (resolve_wholeBelow (.inr rfl)).2
  have hdir : wholeBelowMade.isFile "p/scout-1" = false := Store.isFile_of_dir hroot rfl
  have hlog : wholeBelowMade.isFile "p/scout-1/miss-no-object-count" = false := by
    rw [Store.isFile, Store.stat, resolve_wholeBelow_log (.inr rfl)]
    rfl
  have hselected : cacheMisses.query.selected "p/scout-1" wholeBelowMade = .ok [] := by
    have hvisited : wholeBelowMade.visited ["p", "scout-1"] = [[], ["miss-no-object-count"]] := by decide
    have hbelow : Path.below "p/scout-1" [] = "p/scout-1" ∧
        Path.below "p/scout-1" ["miss-no-object-count"] = "p/scout-1/miss-no-object-count" := by decide
    rw [FileQuery.selected_eq _ hroot (by decide), hvisited]
    simp [hbelow, hdir, hlog]
  have hverdict : cacheMisses.verdict? [⟨some "a", "p/scout-1"⟩] { outputDir := "out" } wholeBelowMade =
      some (.fault (.emptySampleSet "a")) := verdict?_of_isBare hselected
  exact outcome_run_of_verdict (by simp [all]) (outcome_ensureDir_out rfl rfl) hverdict

/-! ### A parent that is reached through as many links as may be followed -/

/-- A scout with a link to its log, and an output directory. -/
def linked : Store where
  nodes := [([], .dir), (["out"], .dir), (["scout-1"], .dir), (["scout-1", "log"], .file []),
    (["scout-1", "miss-no-object-count"], .link "log")]
  sorted := by decide
  root_mem := by decide
  parent_mem := by decide
  named := by decide

/-- The scout below a directory that holds a link to itself. -/
def linkedBelow : Store where
  nodes := [([], .dir), (["d"], .dir), (["d", "l"], .link "."), (["d", "scout-1"], .dir),
    (["d", "scout-1", "log"], .file []), (["d", "scout-1", "miss-no-object-count"], .link "log"), (["out"], .dir)]
  sorted := by decide
  root_mem := by decide
  parent_mem := by decide
  named := by decide

/-- The path of the directory, through the link as often as a path may be led through links. -/
def manyLinks : Path := String.ofList ('d' :: (List.replicate Store.maxLinks ['/', 'l']).flatten)

theorem relocates_linkedBelow : Store.Relocates (InScout "d") linked linkedBelow := by
  refine relocates_inScout (fun rest => ?_) fun p target hlink => ?_
  · rcases rest with _ | ⟨name, _ | ⟨last, more⟩⟩
    · rfl
    · by_cases hlog : "log" = name
      · simp [Store.node?, linkedBelow, linked, ← hlog]
      · by_cases hfile : "miss-no-object-count" = name
        · simp [Store.node?, linkedBelow, linked, ← hfile]
        · simp [Store.node?, linkedBelow, linked, hlog, hfile]
    · simp [Store.node?, linkedBelow, linked]
  · have hmem := Store.node?_eq_some_iff.1 hlink
    obtain ⟨rfl, rfl⟩ : p = ["scout-1", "miss-no-object-count"] ∧ target = "log" := by simpa [linked] using hmem
    exact ⟨.ok ["scout-1", "log"], .ok ["d", "scout-1", "log"],
      Store.leads_of_walkWithin 1 1 rfl (by decide),
      Store.leads_of_walkWithin 1 1 rfl (by decide), .found ⟨rfl, rfl⟩⟩

/-- The log of the scout below that path. -/
def farLog : Path := Path.join manyLinks "scout-1/miss-no-object-count"

theorem check_farLog : '\x00' ∉ farLog.toList ∧ farLog.utf8ByteSize < 4096 ∧ farLog ≠ "" := by decide +kernel

/-- Every turn through the link makes two paces. -/
theorem resolve_manyLinks : linkedBelow.resolve manyLinks = .ok ["d"] ∧
    linkedBelow.resolve farLog = .error .linkLoop := by
  have hcheck : '\x00' ∉ manyLinks.toList ∧ manyLinks.utf8ByteSize < 4096 ∧ manyLinks ≠ "" := by decide +kernel
  have hwalk : linkedBelow.walkWithin .follow (2 * Store.maxLinks + 1) Store.maxLinks (linkedBelow.origin manyLinks)
      manyLinks.steps = some (.ok ["d"]) := by decide +kernel
  have hfar : linkedBelow.walkWithin .follow (2 * Store.maxLinks + 3) Store.maxLinks (linkedBelow.origin farLog)
      farLog.steps = some (.error .linkLoop) := by decide +kernel
  exact ⟨Store.resolve_of_walkWithin _ hcheck hwalk, Store.resolve_of_walkWithin _ check_farLog hfar⟩

theorem outcome_run_linked :
    (cacheMisses.analysis.run [⟨some "a", "scout-1/miss-no-object-count"⟩] { outputDir := "out" }).outcome
      { store := linked } = (.error (.fault (.seriesLengthMismatch 0 1)), linked) := by
  have hresolve : linked.resolve "scout-1/miss-no-object-count" = .ok ["scout-1", "log"] :=
    Store.resolve_of_walkWithin 3 (by decide) rfl
  have hselected : cacheMisses.query.selected "scout-1/miss-no-object-count" linked =
      .ok ["scout-1/miss-no-object-count"] := FileQuery.selected_of_isFile hresolve rfl rfl (by decide)
  have hread : cacheMisses.reader { outputDir := "out" } "scout-1/miss-no-object-count" linked =
      .ok (Float.ofInt 0) := misses_of_read (Store.read_eq_ok_iff.2 ⟨_, hresolve, rfl⟩)
  have hverdict : cacheMisses.verdict? [⟨some "a", "scout-1/miss-no-object-count"⟩] { outputDir := "out" } linked =
      some (.fault (.seriesLengthMismatch 0 1)) := verdict?_of_unmatched hselected hread (by decide)
  have hout : linked.exists? "out" = true :=
    Store.IsStraight.exists? (show linked.IsStraight "out" ["out"] by decide) rfl rfl
  exact outcome_run_of_verdict (by simp [all]) (outcome_ensureDir_of_exists (.inr hout)) hverdict

theorem outcome_run_linkedBelow :
    (cacheMisses.analysis.run [⟨some "a", farLog⟩] { outputDir := "out" }).outcome { store := linkedBelow } =
      (.error (.fault (.file farLog .linkLoop)), linkedBelow) := by
  have hselected : cacheMisses.query.selected farLog linkedBelow = .error (.fault (.file farLog .linkLoop)) := by
    rw [FileQuery.selected, FileQuery.find, Store.files, resolve_manyLinks.2]
    rfl
  have hverdict : cacheMisses.verdict? [⟨some "a", farLog⟩] { outputDir := "out" } linkedBelow =
      some (.fault (.file farLog .linkLoop)) := by
    simp [verdict?, FileQuery.failure?, hselected]
  have hout : linkedBelow.exists? "out" = true :=
    Store.IsStraight.exists? (show linkedBelow.IsStraight "out" ["out"] by decide) rfl rfl
  exact outcome_run_of_verdict (by simp [all]) (outcome_ensureDir_of_exists (.inr hout)) hverdict

/-! ### The same outcome -/

/-- Outcomes of an analysis under the paths of its runs and under those below the parent: sheets of the same runs with
the same bars, all of which are written, or failures of the same kind. -/
inductive SameOutcome (outline : Outline) (parent : Path) (runs : List RunDir) (settings : Settings)
    (base base' : Store) : Except Failure (List Path) × Store → Except Failure (List Path) × Store → Prop
  | drawn {sheets sheets' : List Sheet} {left left' : Store} (hsheets : outline.sheets runs settings base = .ok sheets)
    (hsheets' : outline.sheets (runs.map (RunDir.under parent)) settings base' = .ok sheets')
    (hsame : List.Forall₂ (Sheet.SameUnder parent runs) sheets sheets')
    (hwritten : perform .actual (sheets.flatMap (Sheet.steps .actual settings)) base = (.ok (), left))
    (hwritten' : perform .actual (sheets'.flatMap (Sheet.steps .actual settings)) base' = (.ok (), left')) :
    SameOutcome outline parent runs settings base base' (.ok ((outline.stems settings).map settings.pagePath), left)
      (.ok ((outline.stems settings).map settings.pagePath), left')
  | failed {failure failure' : Failure} {left left' : Store} (hkind : SameKind parent runs failure failure') :
    SameOutcome outline parent runs settings base base' (.error failure, left) (.error failure', left')

/-- An experiment that has been moved below a parent without marks comes to the same: the output directory can be
made and takes the files before and after. -/
theorem run_under (hmem : outline ∈ all) (hmoves : Moves parent runs base base') (hmarks : IsUnmarked parent)
    (hlabels : outline = bandwidth ∨ ∀ run ∈ runs, run.name = none → Pdf.IsXmlText parent)
    (hmade : (ensureDir settings.outputDir).outcome session = (.ok (), base))
    (hmade' : (ensureDir settings.outputDir).outcome session' = (.ok (), base'))
    (hwrite : settings.CanWrite (outline.stems settings) base)
    (hwrite' : settings.CanWrite (outline.stems settings) base') :
    outline.SameOutcome parent runs settings base base' ((outline.analysis.run runs settings).outcome session)
      ((outline.analysis.run (runs.map (RunDir.under parent)) settings).outcome session') := by
  have hreads : outline.ReadsUnder parent runs settings base base' := readsUnder_of_moves hmem hmoves hmarks
  have hverdict := verdict?_under hmem hreads
  rw [outcome_run_of_made hmem runs hmade, outcome_run_of_made hmem _ hmade']
  rw [← error?_sheets hmem, ← error?_sheets hmem] at hverdict
  cases hsheets : outline.sheets runs settings base with
  | error failure =>
    rw [hsheets] at hverdict
    generalize hsheets' : outline.sheets (runs.map (RunDir.under parent)) settings base' = result at hverdict
    cases result with
    | error failure' =>
      cases hverdict with
      | some hkind => exact .failed hkind
    | ok sheets' => cases hverdict
  | ok sheets =>
    obtain ⟨sheets', hsheets', hsame, hprints⟩ := exists_printed_under hmem hreads hlabels hsheets
    have hpaths {runs : List RunDir} {store : Store} {sheets : List Sheet}
        (hsheets : outline.sheets runs settings store = .ok sheets) :
        sheets.map (settings.pagePath ·.stem) = (outline.stems settings).map settings.pagePath := by
      rw [← map_stem hmem hsheets, List.map_map]
      rfl
    rw [hsheets']
    dsimp only
    rw [hpaths hsheets, hpaths hsheets']
    rcases perform_of_canWrite hwrite (map_stem hmem hsheets) with ⟨hall, left, hleft⟩ | ⟨hall, left, hleft⟩ <;>
      rcases perform_of_canWrite hwrite' (map_stem hmem hsheets') with ⟨hall', left', hleft'⟩ | ⟨hall', left', hleft'⟩
    · rw [hleft, hleft']
      exact .drawn hsheets hsheets' hsame hleft hleft'
    · exact absurd (hprints.2 hall) hall'
    · exact absurd (hprints.1 hall') hall
    · rw [hleft, hleft']
      exact .failed (.moved (.fault .render))

theorem run_under_logs : Moves "p" [⟨none, "scout-1"⟩] logs movedLogs ∧
    (∃ paths, ((queryCacheMisses.analysis.run [⟨none, "scout-1"⟩] { outputDir := "" }).outcome { store := logs }).1 =
      .ok paths) ∧
    queryCacheMisses.SameOutcome "p" [⟨none, "scout-1"⟩] { outputDir := "" } logs movedLogs
      ((queryCacheMisses.analysis.run [⟨none, "scout-1"⟩] { outputDir := "" }).outcome { store := logs })
      ((queryCacheMisses.analysis.run [⟨none, "p/scout-1"⟩] { outputDir := "" }).outcome { store := movedLogs }) := by
  obtain ⟨sheets, hsheets⟩ := exists_sheets_logs
  refine ⟨moves_movedLogs, ?_, ?_⟩
  · exact ((outcome_queryCacheMisses hsheets canWrite_logs).resolve_right fun h => h.1 (by decide)).2
  · exact run_under (by simp [all]) moves_movedLogs (by decide) (.inr (by decide))
      (outcome_ensureDir_of_exists (.inl rfl)) (outcome_ensureDir_of_exists (.inl rfl)) canWrite_logs canWrite_logsBelow

/-- Below a directory whose name no document may hold, a run without a name fails. And a link of the tree that leads
nowhere may lead somewhere once the output directory has been made, and nowhere still below the other directory. And
below a path that is led through links as often as a path may be, no link of the tree can be followed. -/
theorem run_ne_of_moved :
    ((("\x01" : Path) ≠ "" ∧ IsUnmarked "\x01" ∧ Moves "\x01" [⟨none, "scout-1"⟩] logs hiddenLogs) ∧
      (Settings.CanWrite { outputDir := "" } (queryCacheMisses.stems { outputDir := "" }) logs ∧
        Settings.CanWrite { outputDir := "" } (queryCacheMisses.stems { outputDir := "" }) hiddenLogs) ∧
      (∃ paths, ((queryCacheMisses.analysis.run [⟨none, "scout-1"⟩] { outputDir := "" }).outcome
        { store := logs }).1 = .ok paths) ∧
      ((queryCacheMisses.analysis.run [⟨none, Path.join "\x01" "scout-1"⟩] { outputDir := "" }).outcome
        { store := hiddenLogs }).1 = .error (.fault .render)) ∧
    ((IsUnmarked "p" ∧ Moves "p" [⟨some "a", "scout-1"⟩] whole wholeBelow) ∧
      (cacheMisses.analysis.run [⟨some "a", "scout-1"⟩] { outputDir := "out" }).outcome { store := whole } =
        (.error (.fault (.seriesLengthMismatch 0 1)), wholeMade) ∧
      (cacheMisses.analysis.run [⟨some "a", "p/scout-1"⟩] { outputDir := "out" }).outcome { store := wholeBelow } =
        (.error (.fault (.emptySampleSet "a")), wholeBelowMade)) ∧
    ((IsUnmarked manyLinks ∧ linkedBelow.resolve manyLinks = .ok ["d"]) ∧
      (Store.Relocates (InScout "d") linked linkedBelow ∧ farLog.utf8ByteSize < 4096) ∧
      (cacheMisses.analysis.run [⟨some "a", "scout-1/miss-no-object-count"⟩] { outputDir := "out" }).outcome
        { store := linked } = (.error (.fault (.seriesLengthMismatch 0 1)), linked) ∧
      (cacheMisses.analysis.run [⟨some "a", farLog⟩] { outputDir := "out" }).outcome { store := linkedBelow } =
        (.error (.fault (.file farLog .linkLoop)), linkedBelow)) := by
  have hmem : queryCacheMisses ∈ all := by simp [all]
  have hunmarked : IsUnmarked "\x01" := by decide
  obtain ⟨sheets, hsheets⟩ := exists_sheets_logs
  obtain ⟨sheets', hsheets', -⟩ :=
    exists_sheets_under hmem (readsUnder_of_moves hmem moves_hiddenLogs hunmarked) hsheets
  refine ⟨⟨⟨by decide, hunmarked, moves_hiddenLogs⟩, ⟨canWrite_logs, canWrite_logsBelow⟩, ?_, ?_⟩,
    ⟨⟨by decide, moves_wholeBelow⟩, outcome_run_whole, outcome_run_wholeBelow⟩,
    ⟨by decide +kernel, resolve_manyLinks.1⟩, ⟨relocates_linkedBelow, check_farLog.2.1⟩, outcome_run_linked,
    outcome_run_linkedBelow⟩
  · exact ((outcome_queryCacheMisses hsheets canWrite_logs).resolve_right fun h => h.1 (by decide)).2
  · exact ((outcome_queryCacheMisses hsheets' canWrite_logsBelow).resolve_left fun h => absurd h.1 (by decide)).2

end Outline

end RunCharts
