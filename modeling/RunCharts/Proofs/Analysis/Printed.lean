import RunCharts.Proofs.Analysis.Plan

/-! # What a command prints

What a command has printed when it ends is determined by the store that it starts from, also where it fails
(`Prints`). Commands that write print nothing, so an analysis has printed all its lines before its first file
(`printed_run`). -/

namespace RunCharts

open Files Command

namespace Command

variable {α β : Type} {session : Session}

/-- The command adds the lines that `lines` says of the store that it starts from. -/
def Prints (command : Command α) (lines : Store → List String) : Prop :=
  ∀ session, (command.runOn session).2.printed = session.printed ++ lines session.store

def IsSilent (command : Command α) : Prop := command.Prints fun _ => []

/-- What comes after a result; nothing comes after a failure. -/
def linesOf (result : Except Failure α) (lines : α → List String) : List String :=
  match result with
  | .ok a => lines a
  | .error _ => []

/-- What comes after a command, in the store that it leaves. -/
def linesAfter (command : Command α) (lines : Store → List String) (store : Store) : List String :=
  linesOf (command.outcome { store }).1 fun _ => lines (command.outcome { store }).2

/-- The lines of commands that run one after the other, up to the first that fails. -/
def linesAlong (result : α → Except Failure β) (lines : α → List String) : List α → List String
  | [] => []
  | a :: rest => lines a ++ linesOf (result a) fun _ => linesAlong result lines rest

theorem linesAlong_of_mapM {result : α → Except Failure β} {lines : β → List String} {list : List α}
    {results : List β} (h : list.mapM result = .ok results) :
    linesAlong result (fun a => linesOf (result a) lines) list = results.flatMap lines := by
  induction list generalizing results with
  | nil =>
    cases h
    rfl
  | cons a rest ih =>
    rw [List.mapM_cons] at h
    obtain ⟨b, hb, h⟩ := Except.bind_eq_ok_iff.1 h
    obtain ⟨bs, hbs, h⟩ := Except.bind_eq_ok_iff.1 h
    cases h
    rw [linesAlong, hb, linesOf, linesOf, ih hbs, List.flatMap_cons]

namespace Prints

variable {command : Command α} {result : Store → Except Failure α} {lines : Store → List String}

theorem congr {lines' : Store → List String} (h : command.Prints lines) (heq : ∀ store, lines store = lines' store) :
    command.Prints lines' := fun session => by
  rw [h, heq]

/-- What comes after a command that reads prints what it says of the same store. -/
theorem bind {next : α → Command β} {lines' : α → Store → List String} (hreads : command.Reads result)
    (h : command.Prints lines) (hnext : ∀ a, (next a).Prints (lines' a)) :
    (command >>= next).Prints fun store => lines store ++ linesOf (result store) (lines' · store) := by
  intro session
  have hout := hreads session
  have hprinted := h session
  rw [outcome] at hout
  rw [runOn_bind]
  rcases hrun : command.runOn session with ⟨value, left⟩
  rw [hrun] at hout hprinted
  obtain ⟨hvalue, hstore⟩ := Prod.mk.inj hout
  dsimp only at hvalue hstore hprinted ⊢
  rw [← hvalue]
  cases value with
  | error failure => rw [linesOf, List.append_nil, hprinted]
  | ok a => rw [linesOf, hnext a left, hprinted, hstore, List.append_assoc]

theorem bind_silent {next : α → Command β} (h : command.Prints lines) (hnext : ∀ a, (next a).IsSilent) :
    (command >>= next).Prints lines := by
  intro session
  rw [← h session, runOn_bind]
  rcases command.runOn session with ⟨_ | a, left⟩
  · rfl
  · exact (hnext a left).trans (List.append_nil _)

/-- What comes after a command that changes the store prints what it says of the store that is left. -/
theorem bind_plain {next : α → Command β} {lines' : Store → List String} (h : command.Prints lines)
    (hplain : command.IsPlain) (hnext : ∀ a, (next a).Prints lines') :
    (command >>= next).Prints fun store => lines store ++ command.linesAfter lines' store := by
  intro session
  have hprinted := h session
  show _ = session.printed ++ (lines session.store ++ command.linesAfter lines' session.store)
  rw [linesAfter, ← hplain session, runOn_bind, outcome]
  rcases hrun : command.runOn session with ⟨_ | a, left⟩ <;> rw [hrun] at hprinted
  · rw [linesOf, List.append_nil]
    exact hprinted
  · dsimp only at hprinted ⊢
    rw [hnext a left, hprinted, linesOf, List.append_assoc]

theorem mapM {command : α → Command β} {result : α → Store → Except Failure β} {lines : α → Store → List String}
    (hreads : ∀ a, (command a).Reads (result a)) (h : ∀ a, (command a).Prints (lines a)) (list : List α) :
    (list.mapM command).Prints fun store => linesAlong (result · store) (lines · store) list := by
  induction list with
  | nil => exact fun _ => (List.append_nil _).symm
  | cons a rest ih =>
    rw [List.mapM_cons]
    refine (Prints.bind (hreads a) (h a) fun b => bind_silent ih fun bs => ?_).congr fun store => rfl
    exact fun _ => (List.append_nil _).symm

theorem forM {command : α → Command PUnit} {result : α → Store → Except Failure PUnit}
    {lines : α → Store → List String} (hreads : ∀ a, (command a).Reads (result a))
    (h : ∀ a, (command a).Prints (lines a)) (list : List α) :
    (list.forM command).Prints fun store => linesAlong (result · store) (lines · store) list := by
  induction list with
  | nil => exact fun _ => (List.append_nil _).symm
  | cons a rest ih => exact Prints.bind (hreads a) (h a) fun _ => ih

end Prints

namespace IsSilent

theorem pure (a : α) : (Pure.pure a : Command α).IsSilent := fun _ => (List.append_nil _).symm

theorem bind {command : Command α} {next : α → Command β} (h : command.IsSilent) (hnext : ∀ a, (next a).IsSilent) :
    (command >>= next).IsSilent := Prints.bind_silent h hnext

theorem mapM {command : α → Command β} (h : ∀ a, (command a).IsSilent) (list : List α) :
    (list.mapM command).IsSilent := by
  induction list with
  | nil => exact pure []
  | cons a rest ih =>
    rw [List.mapM_cons]
    exact (h a).bind fun _ => ih.bind fun _ => pure _

theorem forM {command : α → Command PUnit} (h : ∀ a, (command a).IsSilent) (list : List α) :
    (list.forM command).IsSilent := by
  induction list with
  | nil => exact pure _
  | cons a rest ih => exact (h a).bind fun _ => ih

/-- After a silent command that reads, all is printed that comes next. -/
theorem bind_prints {command : Command α} {result : Store → Except Failure α} {next : α → Command β}
    {lines : α → Store → List String} (h : command.IsSilent) (hreads : command.Reads result)
    (hnext : ∀ a, (next a).Prints (lines a)) :
    (command >>= next).Prints fun store => linesOf (result store) (lines · store) :=
  (Prints.bind hreads h hnext).congr fun _ => List.nil_append _

theorem after {command : Command α} {a : α} {next : α → Command β} {lines : Store → List String}
    (h : command.IsSilent) (hreads : command.Reads fun _ => .ok a) (hnext : ∀ a, (next a).Prints lines) :
    (command >>= next).Prints lines :=
  (h.bind_prints hreads hnext).congr fun _ => rfl

/-- After a silent command that changes the store, all is printed that comes next. -/
theorem bind_plain {command : Command α} {next : α → Command β} {lines : Store → List String} (h : command.IsSilent)
    (hplain : command.IsPlain) (hnext : ∀ a, (next a).Prints lines) :
    (command >>= next).Prints (command.linesAfter lines) :=
  (Prints.bind_plain h hplain hnext).congr fun _ => List.nil_append _

theorem within {command : Command α} (h : command.IsSilent) (context : Context) :
    (command.within context).IsSilent := by
  intro session
  have hrun : ((command.within context).runOn session).2 = (command.runOn session).2 := by
    simp only [Command.within, runOn, ExceptT.run_tryCatch, StateT.run_bind]
    rcases StateT.run (ExceptT.run command) session with ⟨_ | _, _⟩ <;> rfl
  rw [hrun]
  exact h session

end IsSilent

theorem prints_print (line : String) : (print line).Prints fun _ => [line] := fun _ => rfl

theorem isSilent_note (notice : Notice) : (note notice).IsSilent := fun _ => (List.append_nil _).symm

theorem isSilent_store : store.IsSilent := fun _ => (List.append_nil _).symm

theorem isSilent_ofExcept (value : Except Fault α) : (ofExcept value).IsSilent := by
  cases value <;> exact fun _ => (List.append_nil _).symm

theorem isSilent_readFile (path : Path) : (readFile path).IsSilent :=
  isSilent_store.bind fun _ => isSilent_ofExcept _

theorem isSilent_findFiles (query : FileQuery) (run : Path) : (findFiles query run).IsSilent := by
  refine isSilent_store.bind fun store => ?_
  split
  · exact (IsSilent.forM (fun _ => isSilent_note _) _).bind fun _ => .pure _
  · exact (isSilent_note _).bind fun _ => .pure _
  · exact isSilent_ofExcept (.error _)

theorem isSilent_writeFile (path : Path) (content : List UInt8) : (writeFile path content).IsSilent := by
  refine isSilent_store.bind fun store => ?_
  split
  · exact fun _ => (List.append_nil _).symm
  · exact isSilent_ofExcept (.error _)

theorem isSilent_ensureDir (path : Path) : (ensureDir path).IsSilent := by
  refine isSilent_store.bind fun store => ?_
  split
  · exact .pure _
  · exact IsSilent.bind (fun _ => (List.append_nil _).symm) fun _ => isSilent_ofExcept _

theorem isSilent_collect {read : Path → Command Float} (hread : ∀ path, (read path).IsSilent) (query : FileQuery)
    (runs : List RunDir) : (collect runs query read).IsSilent := by
  refine IsSilent.mapM (fun run => ?_) runs
  refine (isSilent_findFiles query run.path).bind fun files => ?_
  exact (isSilent_note _).bind fun _ => (IsSilent.mapM hread files).bind fun _ => .pure _

theorem isSilent_readCounterLog (mode : Log.Counter.Mode) (path : Path) : (readCounterLog mode path).IsSilent :=
  (isSilent_readFile path).bind fun _ => isSilent_ofExcept _

theorem isSilent_readMisses (start : Int) (path : Path) : (Analysis.Cache.readMisses start path).IsSilent :=
  (isSilent_readCounterLog _ path).bind fun _ => (isSilent_note _).bind fun _ => .pure _

theorem isSilent_readElements (path : Path) : (Analysis.Cache.readElements path).IsSilent :=
  (isSilent_readCounterLog _ path).bind fun _ => (isSilent_note _).bind fun _ => .pure _

theorem isSilent_writeChart (path : Path) (chart : Chart Float) (size : Svg.Size) :
    (writeChart path chart size).IsSilent := by
  have hfiles : (writeFiles path chart size).IsSilent := by
    refine (isSilent_writeFile _ _).bind fun _ => ?_
    split
    · exact isSilent_ofExcept (.error _)
    · exact isSilent_writeFile _ _
  rw [writeChart]
  cases path.parent? with
  | none => exact hfiles
  | some dir => exact (isSilent_ensureDir dir).bind fun _ => hfiles

theorem isSilent_emit (settings : Settings) (stem : String) (chart : Chart Float) (groups : List GroupSummary) :
    (emit settings stem chart groups).IsSilent :=
  (isSilent_writeChart _ _ _).bind fun _ =>
    ((isSilent_ensureDir _).bind fun _ => (isSilent_writeFile _ _).bind fun _ => .pure _).bind fun _ =>
      (isSilent_note _).bind fun _ => .pure _

end Command

variable {settings : Settings} {session : Session}

/-- An analysis prints what it says of the store in which its output directory has been made. -/
theorem Analysis.prints_run {analysis : Analysis} {runs : List RunDir} {lines : Store → List String}
    (h : (analysis.charts runs settings).Prints lines) :
    (analysis.run runs settings).Prints ((ensureDir settings.outputDir).linesAfter lines) := by
  have hcharts : Prints (do
      let written ← analysis.charts runs settings
      if written.isEmpty then note (.noCharts analysis.name)
      return written) lines := by
    refine h.bind_silent fun written => ?_
    cases written with
    | nil => exact (isSilent_note _).bind fun _ => .pure _
    | cons path rest => exact .pure _
  have hdir := (isSilent_ensureDir settings.outputDir).bind_plain (isPlain_ensureDir _) fun _ => hcharts
  exact (isSilent_note (.running analysis.name runs.length)).after (reads_note _) fun _ => hdir

def GroupSummary.line (group : GroupSummary) : String := s!"{group.name}: {group.summary.render}"

namespace Analysis

open Cache

theorem prints_printSummary (group : GroupSummary) : (printSummary group).Prints fun _ => [group.line] :=
  prints_print group.line

theorem prints_summaries (summaries : List GroupSummary) :
    (summaries.forM printSummary).Prints fun _ => summaries.map (·.line) := by
  induction summaries with
  | nil => exact fun _ => (List.append_nil _).symm
  | cons group rest ih => exact Prints.bind (reads_printSummary group) (prints_printSummary group) fun _ => ih

theorem prints_summary (summary : Except Fault GroupSummary) : Prints (do
      let summary ← ofExcept summary
      printSummary summary
      return summary) fun _ => linesOf (summary.mapError .fault) fun summary => [summary.line] :=
  (isSilent_ofExcept _).bind_prints (reads_ofExcept _) fun summary =>
    (prints_printSummary summary).bind_silent fun _ => .pure _

/-- Cache misses are reported on together, when all runs have been read and summarised. -/
theorem prints_cacheMisses (runs : List RunDir) (settings : Settings) :
    (cacheMisses.charts runs settings).Prints fun store =>
      linesOf ((scoutLogs "miss-no-object-count").readRuns (misses settings.cache.missStart) RunDir.group runs store)
        fun groups => linesOf ((GroupSummary.ofGroups .containsLazy groups).mapError .fault) fun summaries =>
          summaries.map (·.line) := by
  refine (isSilent_collect (isSilent_readMisses _) _ runs).bind_prints (reads_collect (reads_readMisses _) _ runs)
    fun groups => ?_
  refine (isSilent_ofExcept _).bind_prints (reads_ofExcept _) fun summaries => ?_
  refine (prints_summaries summaries).bind_silent fun _ => ?_
  exact (isSilent_ofExcept _).bind fun chart => (isSilent_emit settings _ chart summaries).bind fun _ => .pure _

/-- Misses of query caches are reported on in the same way, whatever the variants. -/
theorem prints_queryCacheMisses (runs : List RunDir) (settings : Settings) :
    (queryCacheMisses.charts runs settings).Prints fun store =>
      linesOf ((scoutLogs "miss-no-object-count").readRuns (misses settings.cache.missStart) RunDir.group runs store)
        fun groups => linesOf ((groups.mapM (GroupSummary.of none)).mapError .fault) fun summaries =>
          summaries.map (·.line) := by
  refine (isSilent_collect (isSilent_readMisses _) _ runs).bind_prints (reads_collect (reads_readMisses _) _ runs)
    fun groups => ?_
  refine (isSilent_ofExcept _).bind_prints (reads_ofExcept _) fun summaries => ?_
  refine (prints_summaries summaries).bind_silent fun _ => ?_
  exact (isSilent_emit settings _ _ summaries).bind fun _ => .pure _

/-- Cached elements are reported on run by run, once all runs have been read. -/
theorem prints_cacheElements (runs : List RunDir) (settings : Settings) :
    (cacheElements.charts runs settings).Prints fun store =>
      linesOf ((scoutLogs "size-elements-poll").readRuns elements RunDir.group runs store) fun groups =>
        linesAlong (fun group => (GroupSummary.of (some (group.variant .containsLazy)) group).mapError .fault)
          (fun group => linesOf ((GroupSummary.of (some (group.variant .containsLazy)) group).mapError .fault)
            fun summary => [summary.line]) groups := by
  refine (isSilent_collect isSilent_readElements _ runs).bind_prints (reads_collect reads_readElements _ runs)
    fun groups => ?_
  refine (Prints.mapM (fun group => reads_summary _) (fun group => prints_summary _) groups).bind_silent
    fun summaries => ?_
  exact (isSilent_ofExcept _).bind fun chart => (isSilent_emit settings _ chart summaries).bind fun _ => .pure _

namespace Bandwidth

/-- The lines of a phase, up to the first group that has no samples. -/
def phaseLines (rates : List SampleGroup) : List String :=
  linesAlong (fun group => group.summarize.mapError Failure.fault)
    (fun group => linesOf (group.summarize.mapError Failure.fault) fun summary => [summary.render]) rates

theorem isSilent_readSample (windows : Log.Bandwidth.Windows) (path : Path) : (readSample windows path).IsSilent := by
  have hread : (readClientLog windows path).IsSilent :=
    (isSilent_ofExcept _).bind fun _ => (isSilent_readFile path).bind fun _ => isSilent_ofExcept _
  exact (hread.within _).bind fun _ => (isSilent_note _).bind fun _ => .pure _

theorem isSilent_readRuns (runs : List RunDir) (windows : Log.Bandwidth.Windows) :
    (readRuns runs windows).IsSilent := by
  refine IsSilent.mapM (fun run => ?_) runs
  exact (isSilent_findFiles _ run.path).bind fun files =>
    (IsSilent.mapM (isSilent_readSample windows) files).bind fun _ => .pure _

theorem prints_phaseSummaries (rates : List SampleGroup) :
    (rates.forM fun group => do print (← ofExcept group.summarize).render).Prints fun _ => phaseLines rates := by
  have hreads (group : SampleGroup) : Reads (do print (← ofExcept group.summarize).render) fun _ =>
      group.summarize.mapError Failure.fault >>= fun _ => .ok () :=
    (reads_ofExcept _).bind fun summary => reads_print summary.render
  have hprints (group : SampleGroup) : Prints (do print (← ofExcept group.summarize).render) fun _ =>
      linesOf (group.summarize.mapError Failure.fault) fun summary => [summary.render] :=
    (isSilent_ofExcept _).bind_prints (reads_ofExcept _) fun summary => prints_print summary.render
  refine (Prints.forM hreads hprints rates).congr fun _ => ?_
  rw [phaseLines]
  induction rates with
  | nil => rfl
  | cons group rest ih =>
    rw [linesAlong, linesAlong, ih]
    cases group.summarize <;> rfl

theorem prints_phaseChart (settings : Settings) (stem : String) (top : Float) (groups : List SampleGroup) :
    (phaseChart settings stem top groups).Prints fun _ => phaseLines (ratesOf settings groups) := by
  refine (prints_phaseSummaries (ratesOf settings groups)).bind_silent fun _ => ?_
  exact (isSilent_ofExcept _).bind fun series => (isSilent_ofExcept _).bind fun chart =>
    isSilent_emit settings stem chart series.all

end Bandwidth

open Bandwidth

/-- The bandwidth of each phase is reported on when all runs have been read; the second phase is, once the
chart of the first one has been written. -/
theorem prints_bandwidth (runs : List RunDir) (settings : Settings) :
    (bandwidth.charts runs settings).Prints fun store =>
      linesOf (clientLogs.readRuns (sample settings.bandwidth.windows) RunSamples.mk runs store) fun samples =>
        phaseLines (ratesOf settings (phaseGroups samples (·.startup))) ++
          (phaseChart settings (startupStem settings.bandwidth.windows) settings.bandwidth.startupTop
            (phaseGroups samples (·.startup))).linesAfter
              (fun _ => phaseLines (ratesOf settings (phaseGroups samples (·.after)))) store := by
  refine (isSilent_readRuns runs _).bind_prints (reads_readRuns _ runs) fun samples => ?_
  refine Prints.bind_plain (prints_phaseChart settings _ _ _) (isPlain_phaseChart settings _ _ _) fun _ => ?_
  exact (prints_phaseChart settings _ _ _).bind_silent fun _ => .pure _

end Analysis

end RunCharts
