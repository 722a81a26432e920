import RunCharts.Analysis.Bandwidth
import RunCharts.Analysis.Cache
import RunCharts.Proofs.Analysis.Outcome

/-! # The samples of runs

What an analysis reads is determined by the store: the selected files of each run, and a value from each of
them (`FileQuery.readAll`). Reading fails with the failure of the first run or file that cannot be read
(`FileQuery.error?_readAll`). -/

namespace RunCharts

open Files Command

variable {α γ : Type}

/-- What a file of a store reads as. -/
abbrev Reader (α : Type) := Path → Store → Except Failure α

/-- The values that are read from the selected files of a run. -/
def FileQuery.readAll (query : FileQuery) (reader : Reader α) (store : Store) (run : Path) :
    Except Failure (List α) := do
  let files ← query.selected run store
  files.mapM (reader · store)

/-- What is made of the values of each run. -/
def FileQuery.readRuns (query : FileQuery) (reader : Reader α) (group : RunDir → List α → γ) (runs : List RunDir)
    (store : Store) : Except Failure (List γ) :=
  runs.mapM fun run => return group run (← query.readAll reader store run.path)

/-- Why a run cannot be read: it cannot be looked at, or its first file that cannot be read. -/
def FileQuery.failure? (query : FileQuery) (reader : Reader α) (store : Store) (run : Path) : Option Failure :=
  match query.selected run store with
  | .error failure => some failure
  | .ok files => files.findSome? fun file => (reader file store).error?

theorem FileQuery.error?_readAll (query : FileQuery) (reader : Reader α) (store : Store) (run : Path) :
    (query.readAll reader store run).error? = query.failure? reader store run := by
  rw [readAll, failure?, Except.error?_bind]
  cases query.selected run store with
  | error failure => rfl
  | ok files => exact Except.error?_mapM _ files

/-- What a group says of its run does not depend on what is read. -/
theorem FileQuery.map_of_readRuns {δ : Type} {query : FileQuery} {reader : Reader α} {group : RunDir → List α → γ}
    {runs : List RunDir} {store : Store} {groups : List γ} {f : γ → δ} {g : RunDir → δ}
    (hgroup : ∀ run samples, f (group run samples) = g run)
    (h : query.readRuns reader group runs store = .ok groups) : groups.map f = runs.map g := by
  refine Except.map_eq_of_mapM h fun run made hmade => ?_
  obtain ⟨samples, -, hmade⟩ := Except.bind_eq_ok_iff.1 hmade
  rw [← Except.ok.inj hmade, hgroup]

/-! ### The readers of the analyses -/

def contents : Reader (List UInt8) := fun path store =>
  ((store.read path).mapError (Fault.file path)).mapError .fault

def counter (mode : Log.Counter.Mode) : Reader (Option Int) := fun path store => do
  let log ← contents path store
  ((Log.Counter.read mode log).mapError (Fault.ofRefusal path)).mapError .fault

namespace Analysis

def Cache.misses (start : Int) : Reader Float := fun path store => do
  let sum ← counter (.sumFrom start) path store
  return Float.ofInt (sum.getD 0)

theorem Cache.misses_of_read {start : Int} {path : Path} {store : Store} (h : store.read path = .ok []) :
    misses start path store = .ok (Float.ofInt 0) := by
  rw [misses, counter, contents, h]
  rfl

theorem Cache.misses_of_refusal {start : Int} {path : Path} {store : Store} {log : List UInt8}
    {refusal : Log.Refusal} (hread : store.read path = .ok log)
    (h : Log.Counter.sumFrom start log = .error refusal) :
    misses start path store = .error (.fault (.ofRefusal path refusal)) := by
  have hlog : Log.Counter.read (.sumFrom start) log = .error refusal := by
    rw [Log.Counter.read, h]
    rfl
  rw [misses, counter, contents, hread]
  dsimp only [Except.mapError, bind, Except.bind]
  rw [hlog]

def Cache.elements : Reader Float := fun path store => do
  let peak ← counter .peak path store
  return (peak.map Float.ofInt).getD (-1.0)

def Bandwidth.sample (windows : Log.Bandwidth.Windows) : Reader Log.Bandwidth.Sample := fun path store =>
  Except.mapError (.within (.readingClientLog path)) do
    let threads ← (threadCount path).mapError .fault
    let log ← contents path store
    ((Log.Bandwidth.read windows threads log).mapError (Fault.ofRefusal path)).mapError .fault

end Analysis

namespace Command

theorem reads_readCounterLog (mode : Log.Counter.Mode) (path : Path) :
    (readCounterLog mode path).Reads (counter mode path) :=
  (reads_readFile path).bind fun _ => reads_ofExcept _

theorem reads_readMisses (start : Int) (path : Path) :
    (Analysis.Cache.readMisses start path).Reads (Analysis.Cache.misses start path) :=
  (reads_readCounterLog _ path).bind fun _ => (reads_note _).bind fun _ => Reads.pure _

theorem reads_readElements (path : Path) :
    (Analysis.Cache.readElements path).Reads (Analysis.Cache.elements path) :=
  (reads_readCounterLog _ path).bind fun _ => (reads_note _).bind fun _ => Reads.pure _

theorem reads_readSample (windows : Log.Bandwidth.Windows) (path : Path) :
    (Analysis.Bandwidth.readSample windows path).Reads (Analysis.Bandwidth.sample windows path) := by
  have hread : ((readClientLog windows path).within (.readingClientLog path)).Reads
      (Analysis.Bandwidth.sample windows path) :=
    Reads.within ((reads_ofExcept _).bind fun _ => (reads_readFile path).bind fun _ => reads_ofExcept _) _
  refine (hread.bind fun sample => (reads_note (.sample path sample)).bind fun _ =>
    Reads.pure sample).congr fun store => ?_
  exact bind_pure (Analysis.Bandwidth.sample windows path store)

theorem reads_collect {read : Path → Command Float} {reader : Reader Float}
    (hread : ∀ path, (read path).Reads (reader path)) (query : FileQuery) (runs : List RunDir) :
    (collect runs query read).Reads (query.readRuns reader RunDir.group runs) := by
  refine Reads.mapM (fun run => ?_) runs
  refine ((reads_findFiles query run.path).bind fun files => (reads_note (.counted run.path files.length)).bind
    fun _ => (Reads.mapM hread files).bind fun _ => Reads.pure _).congr fun store => ?_
  rw [FileQuery.readAll]
  cases query.selected run.path store <;> rfl

theorem reads_readRuns (windows : Log.Bandwidth.Windows) (runs : List RunDir) :
    (Analysis.Bandwidth.readRuns runs windows).Reads (Analysis.Bandwidth.clientLogs.readRuns
      (Analysis.Bandwidth.sample windows) Analysis.Bandwidth.RunSamples.mk runs) := by
  refine Reads.mapM (fun run => ?_) runs
  refine ((reads_findFiles _ run.path).bind fun files => (Reads.mapM (reads_readSample windows) files).bind
    fun _ => Reads.pure _).congr fun store => ?_
  rw [FileQuery.readAll]
  cases Analysis.Bandwidth.clientLogs.selected run.path store <;> rfl

end Command

end RunCharts
