import Mathlib.Data.List.Sort
import RunCharts.Proofs.Analysis.Found
import RunCharts.Proofs.Analysis.Printed
import RunCharts.Proofs.Analysis.Script
import RunCharts.Proofs.Files.Way

/-! # What a query looks at

Of a store a query looks at what the path of the run passes by, at what has a name that it selects, and at what
links lead by. Stores that agree on that give the same files in the same order, with the same contents
(`SeesSame.readAll`). -/

namespace RunCharts

open Files

variable {α γ : Type} {query : FileQuery} {root : Path} {old new : Store} {names : List String}

/-- Two stores are the same in what a query looks at below a root. -/
structure FileQuery.SeesSame (query : FileQuery) (root : Path) (old new : Store) : Prop where
  start : new.start = old.start
  way : ∀ p, old.PassesBy root p → new.node? p = old.node? p
  leads : ∀ p, old.LeadsBy p ∨ new.LeadsBy p → new.node? p = old.node? p
  selects : ∀ at_ names, old.resolve root = .ok at_ → query.selects (root.below names) = true →
    new.node? (at_ ++ names) = old.node? (at_ ++ names)

theorem FileQuery.find_of_error {error : FileError} (h : old.stat root = .error error) :
    query.find old root = .error error := by
  rw [find, Store.files]
  rw [Store.stat] at h
  cases hroot : old.resolve root with
  | error error' =>
    rw [hroot] at h
    cases h
    rfl
  | ok at_ =>
    rw [hroot, Except.ok_bind] at h
    rw [Except.ok_bind]
    cases hnode : old.node? at_ with
    | none =>
      rw [hnode] at h
      cases h
      rfl
    | some node =>
      rw [hnode] at h
      cases h

theorem exists_resolve_of_stat {node : Node} (h : old.stat root = .ok node) :
    ∃ at_, old.resolve root = .ok at_ ∧ old.node? at_ ≠ none := by
  refine Store.exists?_iff.1 ?_
  rw [Store.exists?, h]
  rfl

/-- A selected file is visited, and is selected by its path. -/
theorem FileQuery.exists_of_mem_selected {files : List Path} {file : Path} (h : query.selected root old = .ok files)
    (hfile : file ∈ files) : ∃ at_ names, old.resolve root = .ok at_ ∧ names ∈ old.visited at_ ∧
      old.isFile (root.below names) = true ∧ query.selects (root.below names) = true ∧ root.below names = file := by
  cases hstat : old.stat root with
  | error error =>
    rw [selected, find_of_error hstat] at h
    cases error <;> cases h
    cases hfile
  | ok node =>
    obtain ⟨at_, hroot, hnode⟩ := exists_resolve_of_stat hstat
    rw [query.selected_eq hroot hnode] at h
    obtain rfl := Except.ok.inj h
    obtain ⟨names, hnames, rfl⟩ := List.mem_map.1 hfile
    obtain ⟨hvisited, hkeep⟩ := List.mem_filter.1 hnames
    obtain ⟨hisFile, hselects⟩ := Bool.and_eq_true_iff.1 hkeep
    exact ⟨at_, names, hroot, hvisited, hisFile, hselects, rfl⟩

namespace FileQuery.SeesSame

theorem resolve (h : query.SeesSame root old new) : new.resolve root = old.resolve root :=
  Store.resolve_congr h.start h.way .follow

theorem symm (h : query.SeesSame root old new) : query.SeesSame root new old := by
  refine ⟨h.start.symm, fun p hp => ?_, fun p hp => (h.leads p hp.symm).symm, fun at_ names hroot hselects => ?_⟩
  · rw [Store.passesBy_congr h.start h.way] at hp
    exact (h.way p hp).symm
  · rw [h.resolve] at hroot
    exact (h.selects at_ names hroot hselects).symm

/-- A selected file is visited in the other store as well, and is the same there. -/
theorem mem_visited (h : query.SeesSame root old new) {at_ : Location} (hroot : old.resolve root = .ok at_)
    (hnames : names ∈ old.visited at_) (hfile : old.isFile (root.below names) = true)
    (hselects : query.selects (root.below names) = true) :
    names ∈ new.visited at_ ∧ new.stat (root.below names) = old.stat (root.below names) := by
  have hself := h.selects at_ names hroot hselects
  have hvisited : names ∈ new.visited at_ := by
    rw [Store.mem_visited_iff] at hnames ⊢
    rwa [hself]
  have hold := Store.isEntered_of_mem_visited hnames
  have hnew := Store.isEntered_of_mem_visited hvisited
  refine ⟨hvisited, Store.stat_congr h.start fun p hp => ?_⟩
  cases hresolve : old.resolve (root.below names) with
  | error error =>
    rw [Store.isFile, Store.stat, hresolve] at hfile
    cases hfile
  | ok q =>
    rcases hp.of_below hroot hold hresolve with hway | ⟨j, hj, rfl⟩ | hleads
    · exact h.way p hway
    · -- a directory on the way is one in both stores
      rcases Nat.lt_or_eq_of_le hj with hlt | rfl
      · rw [hold.2 j hlt, hnew.2 j hlt]
      · rwa [List.take_length]
    · exact h.leads p (.inl hleads)

theorem selected (h : query.SeesSame root old new) : query.selected root new = query.selected root old := by
  have hstat := Store.stat_congr h.start h.way
  cases hold : old.stat root with
  | error error => rw [FileQuery.selected, FileQuery.selected, find_of_error hold, find_of_error (hstat.trans hold)]
  | ok node =>
    obtain ⟨at_, hroot, hnode⟩ := exists_resolve_of_stat hold
    have hroot' := h.resolve.trans hroot
    have hnode' : new.node? at_ ≠ none := by rwa [h.way at_ (Store.passesBy_of_resolve hroot)]
    rw [query.selected_eq hroot hnode, query.selected_eq hroot' hnode']
    have hmem {old new : Store} (h : query.SeesSame root old new) (hroot : old.resolve root = .ok at_)
        {names : List String} (hnames : names ∈ (old.visited at_).filter fun names =>
          old.isFile (root.below names) && query.selects (root.below names)) :
        names ∈ (new.visited at_).filter fun names =>
          new.isFile (root.below names) && query.selects (root.below names) := by
      obtain ⟨hvisited, hkeep⟩ := List.mem_filter.1 hnames
      obtain ⟨hfile, hselects⟩ := Bool.and_eq_true_iff.1 hkeep
      obtain ⟨hvisited', hsame⟩ := h.mem_visited hroot hvisited hfile hselects
      refine List.mem_filter.2 ⟨hvisited', ?_⟩
      rwa [Store.isFile, hsame, ← Store.isFile]
    -- both lists are in the order of the names
    have hsame := ((new.sorted_visited at_).filter _).eq_of_mem_iff ((old.sorted_visited at_).filter _)
      fun names => ⟨hmem h.symm hroot', hmem h hroot⟩
    rw [hsame]

theorem read (h : query.SeesSame root old new) {files : List Path} (hfiles : query.selected root old = .ok files)
    {file : Path} (hfile : file ∈ files) : new.read file = old.read file := by
  obtain ⟨at_, names, hroot, hvisited, hisFile, hselects, rfl⟩ := exists_of_mem_selected hfiles hfile
  rw [Store.read, Store.read, (h.mem_visited hroot hvisited hisFile hselects).2]

theorem readAll {reader : Reader α} (h : query.SeesSame root old new)
    (hreader : ∀ file, new.read file = old.read file → reader file new = reader file old) :
    query.readAll reader new root = query.readAll reader old root := by
  rw [FileQuery.readAll, FileQuery.readAll, h.selected]
  cases hfiles : query.selected root old with
  | error failure => rfl
  | ok files =>
    exact Except.mapM_congr fun file hfile => hreader file (h.read hfiles hfile)

end FileQuery.SeesSame

/-! ### What an analysis makes of it -/

theorem FileQuery.readRuns_congr {reader : Reader α} {group : RunDir → List α → γ} {runs : List RunDir}
    (h : ∀ run ∈ runs, query.readAll reader new run.path = query.readAll reader old run.path) :
    query.readRuns reader group runs new = query.readRuns reader group runs old :=
  Except.mapM_congr fun run hrun => by rw [h run hrun]

namespace Outline

open Command Analysis Analysis.Cache Analysis.Bandwidth

variable {outline : Outline} {runs : List RunDir} {settings : Settings}

/-- An analysis reads the same from the runs of both stores. -/
def ReadsSame (outline : Outline) (runs : List RunDir) (settings : Settings) (old new : Store) : Prop :=
  ∀ run ∈ runs, outline.query.readAll (outline.reader settings) new run.path =
    outline.query.readAll (outline.reader settings) old run.path

theorem contents_congr {file : Path} (h : new.read file = old.read file) : contents file new = contents file old := by
  rw [contents, contents, h]

theorem counter_congr (mode : Log.Counter.Mode) {file : Path} (h : new.read file = old.read file) :
    counter mode file new = counter mode file old := by
  rw [counter, counter, contents_congr h]

theorem reader_congr (h : outline ∈ all) {file : Path} (hread : new.read file = old.read file) :
    outline.reader settings file new = outline.reader settings file old := by
  rcases mem_all_iff.1 h with rfl | rfl | rfl | rfl
  · simp only [bandwidth, sample, contents_congr hread]
  · simp only [cacheMisses, misses, counter_congr _ hread]
  · simp only [queryCacheMisses, misses, counter_congr _ hread]
  · simp only [cacheElements, elements, counter_congr _ hread]

theorem readsSame (h : outline ∈ all) (hsees : ∀ run ∈ runs, outline.query.SeesSame run.path old new) :
    outline.ReadsSame runs settings old new :=
  fun run hrun => (hsees run hrun).readAll fun _ => reader_congr h

theorem sheets_congr (h : outline ∈ all) (hreads : outline.ReadsSame runs settings old new) :
    outline.sheets runs settings new = outline.sheets runs settings old := by
  rcases mem_all_iff.1 h with rfl | rfl | rfl | rfl
  · exact congrArg (· >>= _) (FileQuery.readRuns_congr hreads)
  · exact congrArg (· >>= _) (FileQuery.readRuns_congr hreads)
  · exact congrArg (· >>= _) (FileQuery.readRuns_congr hreads)
  · exact congrArg (· >>= _) (FileQuery.readRuns_congr hreads)

/-- The first sheets are written in both stores, or fail in the same way. -/
def WritesSame (settings : Settings) (sheets : List Sheet) (old new : Store) : Prop := ∀ front, front <+: sheets →
  (perform .actual (front.flatMap (Sheet.steps .actual settings)) new).1 =
    (perform .actual (front.flatMap (Sheet.steps .actual settings)) old).1

theorem linesAfter_phaseChart (stem : String) (top : Float) (groups : List SampleGroup) (lines : List String)
    (h : ∀ sheet, phaseSheet stem top (ratesOf settings groups) = .ok sheet →
      (perform .actual (sheet.steps .actual settings) new).1 = (perform .actual (sheet.steps .actual settings) old).1) :
    (phaseChart settings stem top groups).linesAfter (fun _ => lines) new =
      (phaseChart settings stem top groups).linesAfter (fun _ => lines) old := by
  rw [linesAfter, linesAfter, outcome_phaseChart, outcome_phaseChart]
  cases hsheet : phaseSheet stem top (ratesOf settings groups) with
  | error failure => rfl
  | ok sheet =>
    dsimp only
    rw [performs_emit settings sheet { store := new }, performs_emit settings sheet { store := old }]
    dsimp only
    rw [h sheet hsheet]

/-- What an analysis prints is determined by what it reads, and by what fails when it writes. -/
theorem exists_prints (h : outline ∈ all) (runs : List RunDir) (settings : Settings) : ∃ lines,
    (outline.analysis.charts runs settings).Prints lines ∧ ∀ old new, outline.ReadsSame runs settings old new →
      (∀ sheets, outline.sheets runs settings old = .ok sheets → WritesSame settings sheets old new) →
        lines new = lines old := by
  rcases mem_all_iff.1 h with rfl | rfl | rfl | rfl
  · refine ⟨_, prints_bandwidth runs settings, fun old new hreads hwrites => ?_⟩
    have hruns : clientLogs.readRuns (sample settings.bandwidth.windows) RunSamples.mk runs new =
        clientLogs.readRuns (sample settings.bandwidth.windows) RunSamples.mk runs old :=
      FileQuery.readRuns_congr hreads
    rw [hruns]
    cases hsamples : clientLogs.readRuns (sample settings.bandwidth.windows) RunSamples.mk runs old with
    | error failure => rfl
    | ok samples =>
      dsimp only [linesOf]
      rw [linesAfter_phaseChart]
      intro startup hstartup
      obtain ⟨after, hafter⟩ := exists_phaseSheet hstartup (afterStem settings.bandwidth.windows)
        settings.bandwidth.afterTop (·.after)
      have hsheets : bandwidth.sheets runs settings old = .ok [startup, after] := by
        show bandwidthSheets runs settings old = _
        rw [bandwidthSheets, hsamples, Except.ok_bind, hstartup, Except.ok_bind, hafter]
        rfl
      have hfirst := hwrites _ hsheets [startup] ⟨[after], rfl⟩
      rwa [List.flatMap_singleton] at hfirst
  · refine ⟨_, prints_cacheMisses runs settings, fun old new hreads _ => ?_⟩
    exact congrArg (linesOf · _) (FileQuery.readRuns_congr hreads)
  · refine ⟨_, prints_queryCacheMisses runs settings, fun old new hreads _ => ?_⟩
    exact congrArg (linesOf · _) (FileQuery.readRuns_congr hreads)
  · refine ⟨_, prints_cacheElements runs settings, fun old new hreads _ => ?_⟩
    exact congrArg (linesOf · _) (FileQuery.readRuns_congr hreads)

end Outline

end RunCharts
