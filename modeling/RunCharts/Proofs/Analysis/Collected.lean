import RunCharts.Proofs.Analysis.Found
import RunCharts.Proofs.Analysis.Verdict
import RunCharts.Proofs.Float.Magnitude
import RunCharts.Proofs.Log.Peak

/-! # What is collected of runs

Every run gets a group, and every file that is found in it a sample (`Collected`), unless something cannot be read:
then collecting fails with the first failure (`Uncollected`). `outcome_collect` says so of any reader, and what the
samples of numbers of elements are (`ElementsSample`). -/

namespace RunCharts.Command

open Files

variable {query : FileQuery} {reader : Reader Float} {session : Session} {run : RunDir}

/-- The group is what there is to read of the run. -/
structure Collected (query : FileQuery) (reader : Reader Float) (session : Session) (run : RunDir)
    (group : SampleGroup) : Prop where
  name : group.name = run.label
  dir : group.dir = run.path
  samples : ∃ files, (findFiles query run.path).outcome session = (.ok files, session.store) ∧
    List.Forall₂ (fun file sample => reader file session.store = .ok sample) files group.samples

/-- The failure is why the run cannot be read. -/
inductive Uncollected (query : FileQuery) (reader : Reader Float) (session : Session) (run : RunDir) : Failure → Prop
  | run {failure : Failure} (h : (findFiles query run.path).outcome session = (.error failure, session.store)) :
    Uncollected query reader session run failure
  | file {front back : List Path} {file : Path} {failure : Failure}
    (hfound : (findFiles query run.path).outcome session = (.ok (front ++ file :: back), session.store))
    (hfront : ∀ earlier ∈ front, ∃ sample, reader earlier session.store = .ok sample)
    (h : reader file session.store = .error failure) : Uncollected query reader session run failure

theorem outcome_findFiles_eq_iff {result : Except Failure (List Path)} :
    (findFiles query run.path).outcome session = (result, session.store) ↔
      query.selected run.path session.store = result := by
  rw [reads_findFiles, Prod.mk.injEq, and_iff_left rfl]

/-- The group of a run, if it can be read. -/
def collected (query : FileQuery) (reader : Reader Float) (session : Session) (run : RunDir) :
    Except Failure SampleGroup :=
  return run.group (← query.readAll reader session.store run.path)

theorem collected_eq_ok_iff {group : SampleGroup} :
    collected query reader session run = .ok group ↔ Collected query reader session run group := by
  simp only [collected, FileQuery.readAll, Except.bind_eq_ok_iff, Except.pure_eq_ok, Except.ok.injEq]
  constructor
  · rintro ⟨samples, ⟨files, hfiles, hsamples⟩, rfl⟩
    exact ⟨rfl, rfl, files, outcome_findFiles_eq_iff.2 hfiles, Except.mapM_eq_ok_iff.1 hsamples⟩
  · rintro ⟨hname, hdir, files, hfiles, hsamples⟩
    refine ⟨group.samples, ⟨files, outcome_findFiles_eq_iff.1 hfiles, Except.mapM_eq_ok_iff.2 hsamples⟩, ?_⟩
    rw [RunDir.group, ← hname, ← hdir]

theorem collected_eq_error_iff {failure : Failure} :
    collected query reader session run = .error failure ↔ Uncollected query reader session run failure := by
  have hselected := reads_findFiles query run.path session
  rw [collected, FileQuery.readAll]
  constructor
  · intro h
    cases hfiles : query.selected run.path session.store with
    | error failure' =>
      rw [hfiles] at h hselected
      cases h
      exact .run hselected
    | ok files =>
      rw [hfiles, Except.ok_bind] at h
      rw [hfiles] at hselected
      cases hsamples : files.mapM (reader · session.store) with
      | ok samples => rw [hsamples] at h; cases h
      | error failure' =>
        rw [hsamples] at h
        cases h
        obtain ⟨front, file, back, rfl, hfront, hfile⟩ := Except.mapM_eq_error_iff.1 hsamples
        exact .file hselected hfront hfile
  · rintro (h | ⟨hfound, hfront, h⟩)
    · rw [outcome_findFiles_eq_iff.1 h]
      rfl
    · rw [outcome_findFiles_eq_iff.1 hfound, Except.ok_bind,
        Except.mapM_eq_error_iff.2 ⟨_, _, _, rfl, hfront, h⟩]
      rfl

theorem exists_collected_iff : (∃ group, collected query reader session run = .ok group) ↔
    (∀ error, session.store.stat run.path = .error error → error = .notFound) ∧
      ∀ files, (findFiles query run.path).outcome session = (.ok files, session.store) →
        ∀ file ∈ files, ∃ sample, reader file session.store = .ok sample := by
  have hselected : (∃ files, query.selected run.path session.store = .ok files) ↔ _ := FileQuery.exists_selected_iff
  rw [← hselected]
  simp only [outcome_findFiles_eq_iff, collected, FileQuery.readAll, Except.bind_eq_ok_iff]
  constructor
  · rintro ⟨_, samples, ⟨files, hfiles, hsamples⟩, -⟩
    refine ⟨⟨files, hfiles⟩, fun files' hfiles' => ?_⟩
    cases hfiles.symm.trans hfiles'
    exact Except.exists_mapM_eq_ok_iff.1 ⟨samples, hsamples⟩
  · rintro ⟨⟨files, hfiles⟩, hread⟩
    obtain ⟨samples, hsamples⟩ := Except.exists_mapM_eq_ok_iff.2 (hread files hfiles)
    exact ⟨_, samples, ⟨files, hfiles, hsamples⟩, rfl⟩

/-! ### Numbers of elements -/

/-- What is read from a log of numbers of elements: its peak, or -1 if it has no line. -/
structure ElementsSample (log : List UInt8) (sample : Float) : Prop where
  neg_one_iff : sample = -1.0 ↔ Log.lines log = [] ∨ Log.Counter.read .peak log = .ok (some (-1))
  peak : Log.lines log ≠ [] → ∃ m, Log.Counter.read .peak log = .ok (some m) ∧ sample = Float.ofInt m

theorem read_peak_eq_none_iff {log : List UInt8} : Log.Counter.read .peak log = .ok none ↔ Log.lines log = [] := by
  rw [Log.Counter.read_peak_eq_iff, eq_comm, List.max?_eq_none_iff]
  constructor
  · rintro ⟨hreals, hnone⟩
    rw [← List.length_eq_zero_iff, ← hreals.length_values, hnone]
    rfl
  · intro hnone
    have htexts : Log.texts log = [] := by rw [Log.texts, hnone]; rfl
    have hreals : Log.Counter.HasReals log := ⟨by simp [hnone], by simp [htexts]⟩
    exact ⟨hreals, by rw [htexts]; rfl⟩

theorem elementsSample_iff {log : List UInt8} {sample : Float} : ElementsSample log sample ↔
    ∃ peak?, Log.Counter.read .peak log = .ok peak? ∧ (peak?.map Float.ofInt).getD (-1.0) = sample := by
  constructor
  · rintro ⟨hneg, hpeak⟩
    by_cases hnone : Log.lines log = []
    · exact ⟨none, read_peak_eq_none_iff.2 hnone, (hneg.2 (.inl hnone)).symm⟩
    · obtain ⟨m, hm, hsample⟩ := hpeak hnone
      exact ⟨some m, hm, hsample.symm⟩
  · rintro ⟨_ | m, hread, rfl⟩
    · have hnone := read_peak_eq_none_iff.1 hread
      exact ⟨iff_of_true rfl (.inl hnone), fun hsome => absurd hnone hsome⟩
    · have hsome : Log.lines log ≠ [] := fun hnone => by
        rw [read_peak_eq_none_iff.2 hnone] at hread
        cases hread
      refine ⟨?_, fun _ => ⟨m, hread, rfl⟩⟩
      rw [hread, or_iff_right hsome, Except.ok.injEq, Option.some_inj]
      exact Binary64.ofInt_eq_neg_one_iff

theorem outcome_readElements {path : Path} {sample : Float} :
    (Analysis.Cache.readElements path).outcome session = (.ok sample, session.store) ↔
      ∃ log, session.store.read path = .ok log ∧ ElementsSample log sample := by
  rw [reads_readElements, Prod.mk.injEq, and_iff_left rfl]
  simp only [Analysis.Cache.elements, counter, contents, Except.bind_eq_ok_iff, Except.mapError_eq_ok_iff,
    Except.pure_eq_ok, Except.ok.injEq, elementsSample_iff]
  constructor
  · rintro ⟨peak?, ⟨log, hlog, hpeak⟩, hsample⟩
    exact ⟨log, hlog, peak?, hpeak, hsample⟩
  · rintro ⟨log, hlog, peak?, hpeak, hsample⟩
    exact ⟨peak?, ⟨log, hlog, hpeak⟩, hsample⟩

/-! ### Collecting -/

/-- Collecting leaves the store as it is and gives exactly one group for each run, in the order of the runs. It succeeds
if every run can be looked at, or does not exist, and every file that is found reads; otherwise it fails with what the
first run that cannot be read fails with. -/
theorem outcome_collect {read : Path → Command Float} {reader : Reader Float}
    (hread : ∀ path, (read path).Reads (reader path)) (query : FileQuery) (runs : List RunDir) (session : Session) :
    ∃ result, (collect runs query read).outcome session = (result, session.store) ∧
      (∀ groups, result = .ok groups ↔ List.Forall₂ (Collected query reader session) runs groups) ∧
      ((∃ groups, result = .ok groups) ↔ ∀ run ∈ runs,
        (∀ error, session.store.stat run.path = .error error → error = .notFound) ∧
          ∀ files, (findFiles query run.path).outcome session = (.ok files, session.store) →
            ∀ file ∈ files, ∃ sample, reader file session.store = .ok sample) ∧
      (∀ failure, result = .error failure ↔ ∃ front run back, runs = front ++ run :: back ∧
        (∀ earlier ∈ front, ∃ group, Collected query reader session earlier group) ∧
          Uncollected query reader session run failure) ∧
      ∀ path sample, (Analysis.Cache.readElements path).outcome session = (.ok sample, session.store) ↔
        ∃ log, session.store.read path = .ok log ∧ ElementsSample log sample := by
  refine ⟨_, reads_collect hread query runs session, fun groups => ?_, ?_, fun failure => ?_,
    fun _ _ => outcome_readElements⟩
  · have hcollected : Collected query reader session = fun run group =>
        collected query reader session run = .ok group := by
      funext run group
      exact propext collected_eq_ok_iff.symm
    rw [hcollected]
    exact Except.mapM_eq_ok_iff
  · simp only [← exists_collected_iff]
    exact Except.exists_mapM_eq_ok_iff
  · simp only [← collected_eq_ok_iff, ← collected_eq_error_iff]
    exact Except.mapM_eq_error_iff

/-- A run that is given twice has two groups, and a log without lines the sample -1. -/
theorem outcome_collect_twice : (∀ path, (Analysis.Cache.readElements path).Reads (Analysis.Cache.elements path)) ∧
    (collect [⟨some "a", "scout-1"⟩, ⟨none, "scout-1"⟩] (Analysis.Cache.scoutLogs "miss-no-object-count")
      Analysis.Cache.readElements).outcome { store := Outline.logs } =
        (.ok [⟨"a", "scout-1", [-1.0]⟩, ⟨"scout-1", "scout-1", [-1.0]⟩], Outline.logs) := by
  refine ⟨reads_readElements, ?_⟩
  obtain ⟨result, hresult, hok, -⟩ := outcome_collect reads_readElements
    (Analysis.Cache.scoutLogs "miss-no-object-count") [⟨some "a", "scout-1"⟩, ⟨none, "scout-1"⟩]
    { store := Outline.logs }
  have hlog : Outline.logs.resolve "scout-1/miss-no-object-count" = .ok ["scout-1", "miss-no-object-count"] :=
    Outline.isPlain_logs.resolve (by decide)
  have hfile : Outline.logs.isFile "scout-1/miss-no-object-count" = true := Store.isFile_iff.2 ⟨_, _, hlog, rfl⟩
  have hselected := Outline.selected_scout (Outline.isPlain_logs.resolve (by decide)) rfl (by decide)
  rw [hfile] at hselected
  have hsample : Analysis.Cache.elements "scout-1/miss-no-object-count" Outline.logs = .ok (-1.0) := by
    rw [Analysis.Cache.elements, counter, contents, Store.read_eq_ok_iff.2 ⟨_, hlog, rfl⟩]
    rfl
  have hcollected (run : RunDir) (hrun : run.path = "scout-1") :
      Collected (Analysis.Cache.scoutLogs "miss-no-object-count") Analysis.Cache.elements { store := Outline.logs } run
        ⟨run.label, "scout-1", [-1.0]⟩ := by
    refine ⟨rfl, hrun.symm, ["scout-1/miss-no-object-count"], ?_, .cons hsample .nil⟩
    rw [outcome_findFiles_eq_iff, hrun]
    exact hselected
  rw [hresult, (hok _).2 (.cons (hcollected _ rfl) (.cons (hcollected _ rfl) .nil))]
  rfl

end RunCharts.Command
