import RunCharts.Proofs.Analysis.Printed
import RunCharts.Proofs.Analysis.Verdict

/-! # What a failing analysis has printed

An analysis reports on its runs in one phase or two, with a line for each run in a phase. Where it fails, it has
printed a prefix of that report (`Reporter.Reports`): nothing if something cannot be read, the lines up to the first
run without samples, or the lines of all runs in the phases that it has come to (`reports_run`).

What each analysis prints is brought into one form first (`printsReport`): the lines of its first phase, and those of
one more phase for each chart that it has written. -/

namespace RunCharts

open Files Command

variable {α β γ : Type}

/-! ### Lists with gaps -/

/-- The elements in front of the first gap. -/
def someUpTo (list : List (Option α)) : List α := (list.takeWhile Option.isSome).filterMap id

/-- The elements in front of the first gap, or nothing at all if they are only to come together. -/
def shown (together : Bool) (list : List (Option α)) : List α :=
  if together && !list.all Option.isSome then [] else someUpTo list

theorem someUpTo_cons (a : Option α) (rest : List (Option α)) :
    someUpTo (a :: rest) = a.elim [] (· :: someUpTo rest) := by
  cases a <;> simp [someUpTo]

theorem someUpTo_append_none {front : List (Option α)} (h : ∀ a ∈ front, a.isSome = true) (back : List (Option α)) :
    (someUpTo (front ++ none :: back)).map some = front := by
  induction front with
  | nil => rfl
  | cons a rest ih =>
    obtain ⟨ha, hrest⟩ := List.forall_mem_cons.1 h
    obtain ⟨b, rfl⟩ := Option.isSome_iff_exists.1 ha
    rw [List.cons_append, someUpTo_cons, Option.elim_some, List.map_cons, ih hrest]

theorem someUpTo_of_all {list : List (Option α)} (h : ∀ a ∈ list, a.isSome = true) :
    someUpTo list = list.filterMap id := by
  induction list with
  | nil => rfl
  | cons a rest ih =>
    obtain ⟨ha, hrest⟩ := List.forall_mem_cons.1 h
    obtain ⟨b, rfl⟩ := Option.isSome_iff_exists.1 ha
    rw [someUpTo_cons, ih hrest]
    rfl

theorem map_some_filterMap {list : List (Option α)} (h : ∀ a ∈ list, a.isSome = true) :
    (list.filterMap id).map some = list := by
  induction list with
  | nil => rfl
  | cons a rest ih =>
    obtain ⟨ha, hrest⟩ := List.forall_mem_cons.1 h
    obtain ⟨b, rfl⟩ := Option.isSome_iff_exists.1 ha
    show (b :: rest.filterMap id).map some = some b :: rest
    rw [List.map_cons, ih hrest]

theorem someUpTo_prefix (list : List (Option α)) : someUpTo list <+: list.filterMap id :=
  (List.takeWhile_prefix _).filterMap _

theorem shown_of_all {list : List (Option α)} (h : ∀ a ∈ list, a.isSome = true) (together : Bool) :
    shown together list = list.filterMap id := by
  rw [shown, List.all_eq_true.2 h, Bool.not_true, Bool.and_false, if_neg Bool.false_ne_true, someUpTo_of_all h]

theorem shown_of_gap {list : List (Option α)} (h : none ∈ list) : shown true list = [] := by
  have hgap : list.all Option.isSome = false := List.all_eq_false.2 ⟨none, h, by simp⟩
  rw [shown, hgap]
  rfl

theorem shown_false (list : List (Option α)) : shown false list = someUpTo list := rfl

theorem shown_prefix (together : Bool) (list : List (Option α)) : shown together list <+: list.filterMap id := by
  rw [shown]
  split
  · exact List.nil_prefix
  · exact someUpTo_prefix list

/-! ### Lines of results -/

namespace Command

/-- Results that are reported on one by one. -/
theorem linesAlong_eq_shown (result : α → Except Failure β) (line : β → String) (list : List α) :
    linesAlong result (fun a => linesOf (result a) fun b => [line b]) list =
      shown false (list.map fun a => (result a).toOption.map line) := by
  induction list with
  | nil => rfl
  | cons a rest ih =>
    rw [shown_false] at ih ⊢
    rw [linesAlong, List.map_cons, someUpTo_cons, ih]
    cases result a <;> rfl

/-- Results that are reported on together. -/
theorem linesOf_mapM_eq_shown (result : α → Except Failure β) (line : β → String) (list : List α) :
    linesOf (list.mapM result) (·.map line) = shown true (list.map fun a => (result a).toOption.map line) := by
  cases hresults : list.mapM result with
  | error failure =>
    have hfailed : (list.mapM result).error? = some failure := by rw [hresults]; rfl
    rw [Except.error?_mapM] at hfailed
    obtain ⟨a, ha, hfails⟩ := List.exists_of_findSome?_eq_some hfailed
    refine (shown_of_gap (List.mem_map.2 ⟨a, ha, ?_⟩)).symm
    rw [Except.error?_eq_some_iff.1 hfails]
    rfl
  | ok results =>
    have hall := Except.mapM_eq_ok_iff.1 hresults
    have hsome : (list.map fun a => (result a).toOption.map line) = (results.map line).map some := by
      clear hresults
      induction hall with
      | nil => rfl
      | cons ha _ ih => rw [List.map_cons, ha, ih]; rfl
    have hfull : ∀ a ∈ (results.map line).map some, a.isSome = true := by simp
    rw [hsome, shown_of_all hfull, List.filterMap_map]
    show results.map line = (results.map line).filterMap some
    rw [List.filterMap_some]

end Command

/-! ### Reports -/

/-- What a phase reports of a run: a number for each value that is read, and a line for their summary. -/
structure ReportPhase (α : Type) where
  sample : Settings → α → Float
  line : RunDir → Summary → String

/-- The line of a run in a phase; a run that cannot be read or has no samples has none. -/
def FileQuery.line? (query : FileQuery) (reader : Reader α) (phase : ReportPhase α) (settings : Settings)
    (store : Store) (run : RunDir) : Option String :=
  match query.readAll reader store run.path with
  | .ok values => (Summary.of? (values.map (phase.sample settings))).map (phase.line run)
  | .error _ => none

/-- The charts that are written before the first that cannot be. -/
def Sheet.written (settings : Settings) : List Sheet → Store → Nat
  | [], _ => 0
  | sheet :: rest, store =>
    let ended := (sheet.emit settings).outcome { store }
    ended.1.toOption.elim 0 fun _ => Sheet.written settings rest ended.2 + 1

theorem Sheet.written_of_error {settings : Settings} {sheet : Sheet} {store left : Store} {failure : Failure}
    (h : (sheet.emit settings).outcome { store } = (.error failure, left)) (rest : List Sheet) :
    Sheet.written settings (sheet :: rest) store = 0 := by
  show Option.elim ((sheet.emit settings).outcome { store }).1.toOption _ _ = _
  rw [h]
  rfl

theorem Sheet.written_of_ok {settings : Settings} {sheet : Sheet} {store left : Store} {path : Path}
    (h : (sheet.emit settings).outcome { store } = (.ok path, left)) (rest : List Sheet) :
    Sheet.written settings (sheet :: rest) store = Sheet.written settings rest left + 1 := by
  show Option.elim ((sheet.emit settings).outcome { store }).1.toOption _ _ = _
  rw [h]
  rfl

/-- An analysis with the phases of its report. -/
structure Reporter extends Outline where
  phases : List (ReportPhase Value)
  /-- All runs are summarised before the first line is printed. -/
  together : Bool

namespace Reporter

open Analysis Analysis.Cache Analysis.Bandwidth

def labelled : ReportPhase Float := ⟨fun _ value => value, fun run summary => s!"{run.label}: {summary.render}"⟩

def rate (bytes : Log.Bandwidth.Sample → Float) : ReportPhase Log.Bandwidth.Sample :=
  ⟨fun settings sample => bytes sample / Float.ofInt settings.bandwidth.windows.startup, fun _ summary =>
    summary.render⟩

def bandwidth : Reporter := { Outline.bandwidth with phases := [rate (·.startup), rate (·.after)], together := false }

def cacheMisses : Reporter := { Outline.cacheMisses with phases := [labelled], together := true }

def queryCacheMisses : Reporter := { Outline.queryCacheMisses with phases := [labelled], together := true }

def cacheElements : Reporter := { Outline.cacheElements with phases := [labelled], together := false }

/-- The analyses that draw charts. -/
def all : List Reporter := [bandwidth, cacheMisses, queryCacheMisses, cacheElements]

variable {reporter : Reporter} {runs : List RunDir} {settings : Settings} {session : Session} {store : Store}

def line? (reporter : Reporter) (phase : ReportPhase reporter.Value) (settings : Settings) (store : Store)
    (run : RunDir) : Option String :=
  reporter.query.line? (reporter.reader settings) phase settings store run

def written (reporter : Reporter) (runs : List RunDir) (settings : Settings) (store : Store) : Nat :=
  match reporter.sheets runs settings store with
  | .ok sheets => Sheet.written settings sheets store
  | .error _ => 0

/-- Why a run cannot be read. -/
def unread? (reporter : Reporter) (settings : Settings) (store : Store) (run : RunDir) : Option Failure :=
  reporter.query.failure? (reporter.reader settings) store run.path

/-- The lines are what the analysis has printed when it ends. -/
structure Reports (reporter : Reporter) (runs : List RunDir) (settings : Settings) (store : Store)
    (lines : List String) : Prop where
  /-- Nothing is printed if anything cannot be read. -/
  unread : ∀ run ∈ runs, ∀ failure, reporter.unread? settings store run = some failure → lines = []
  together : reporter.together = true → ∀ run ∈ runs, reporter.query.isBare store run.path = true → lines = []
  /-- A line for each run in front of the first one without samples. -/
  upTo : reporter.together = false → (∀ run ∈ runs, reporter.unread? settings store run = none) →
    ∀ before run after, runs = before ++ run :: after →
      (∀ earlier ∈ before, reporter.query.isBare store earlier.path = false) →
      reporter.query.isBare store run.path = true →
      lines.map some = (reporter.phases.take 1).flatMap fun phase => before.map (reporter.line? phase settings store)
  /-- A line for each run in the first phase, and in one more phase for each chart that has been written. -/
  each : (∀ run ∈ runs, reporter.unread? settings store run = none) →
    (∀ run ∈ runs, reporter.query.isBare store run.path = false) →
    lines.map some = (reporter.phases.take (reporter.written runs settings store + 1)).flatMap fun phase =>
      runs.map (reporter.line? phase settings store)
  isPrefix : lines <+: reporter.phases.flatMap fun phase => runs.filterMap (reporter.line? phase settings store)

/-! ### From phases to lines -/

theorem isSome_line? {phase : ReportPhase reporter.Value} {run : RunDir}
    (h : reporter.unread? settings store run = none) :
    (reporter.line? phase settings store run).isSome = !reporter.query.isBare store run.path := by
  rw [unread?, ← FileQuery.error?_readAll, Except.error?_eq_none_iff] at h
  obtain ⟨values, hvalues⟩ := h
  rw [line?, FileQuery.line?, hvalues, ← FileQuery.isEmpty_readAll hvalues]
  cases values <;> rfl

theorem line?_of_isBare {phase : ReportPhase reporter.Value} {run : RunDir}
    (h : reporter.unread? settings store run = none) (hbare : reporter.query.isBare store run.path = true) :
    reporter.line? phase settings store run = none := by
  have hnone : (reporter.line? phase settings store run).isSome = _ := isSome_line? h
  rw [hbare] at hnone
  exact Option.not_isSome_iff_eq_none.1 (by rw [hnone]; exact Bool.false_ne_true)

theorem forall_isSome_line? {phase : ReportPhase reporter.Value}
    (h : ∀ run ∈ runs, reporter.unread? settings store run = none)
    (hfull : ∀ run ∈ runs, reporter.query.isBare store run.path = false) :
    ∀ line ∈ runs.map (reporter.line? phase settings store), line.isSome = true := by
  simp only [List.forall_mem_map]
  intro run hrun
  rw [isSome_line? (h run hrun), hfull run hrun]
  rfl

def linesOfPhases (reporter : Reporter) (n : Nat) (runs : List RunDir) (settings : Settings) (store : Store) :
    List String :=
  (reporter.phases.take n).flatMap fun phase =>
    shown reporter.together (runs.map (reporter.line? phase settings store))

theorem linesOfPhases_one_prefix : reporter.linesOfPhases 1 runs settings store <+:
    reporter.phases.flatMap fun phase => runs.filterMap (reporter.line? phase settings store) := by
  rw [linesOfPhases]
  cases reporter.phases with
  | nil => exact List.nil_prefix
  | cons phase rest =>
    have hfirst := shown_prefix reporter.together (runs.map (reporter.line? phase settings store))
    rw [List.filterMap_map] at hfirst
    show shown reporter.together (runs.map (reporter.line? phase settings store)) ++ [] <+: _
    rw [List.append_nil, List.flatMap_cons]
    exact hfirst.trans (List.prefix_append _ _)

theorem linesOfPhases_prefix (h : ∀ run ∈ runs, reporter.unread? settings store run = none)
    (hfull : ∀ run ∈ runs, reporter.query.isBare store run.path = false) (n : Nat) :
    reporter.linesOfPhases n runs settings store <+:
      reporter.phases.flatMap fun phase => runs.filterMap (reporter.line? phase settings store) := by
  have hphase (phase : ReportPhase reporter.Value) :
      shown reporter.together (runs.map (reporter.line? phase settings store)) =
        runs.filterMap (reporter.line? phase settings store) := by
    rw [shown_of_all (forall_isSome_line? h hfull), List.filterMap_map]
    rfl
  simp only [linesOfPhases, hphase]
  conv_rhs => rw [← List.take_append_drop n reporter.phases, List.flatMap_append]
  exact List.prefix_append _ _

/-- Without samples there is no chart. -/
theorem written_eq_zero (h : reporter.toOutline ∈ Outline.all) {run : RunDir} (hrun : run ∈ runs)
    (hbare : reporter.query.isBare store run.path = true) : reporter.written runs settings store = 0 := by
  have hshortage : reporter.query.shortage? store runs ≠ none := by
    rw [FileQuery.shortage?, Ne, Option.map_eq_none_iff, List.find?_eq_none]
    intro hnone
    exact hnone run hrun hbare
  have herror : (reporter.sheets runs settings store).error? ≠ none := by
    rw [Outline.error?_sheets h, Outline.verdict?, Ne, Option.or_eq_none_iff, Option.map_eq_none_iff,
      Option.or_eq_none_iff]
    exact fun hnone => hshortage hnone.2.1
  rw [written]
  cases hsheets : reporter.sheets runs settings store with
  | error failure => rfl
  | ok sheets => rw [hsheets] at herror; exact absurd rfl herror

/-- Where all can be read, the lines are those of the phases that the analysis has come to. -/
theorem reports_linesOfPhases (h : reporter.toOutline ∈ Outline.all)
    (hread : ∀ run ∈ runs, reporter.unread? settings store run = none) : reporter.Reports runs settings store
      (reporter.linesOfPhases (reporter.written runs settings store + 1) runs settings store) := by
  refine ⟨?_, ?_, ?_, ?_, ?_⟩
  · intro run hrun failure hfails
    rw [hread run hrun] at hfails
    cases hfails
  · intro htogether run hrun hbare
    rw [linesOfPhases, List.flatMap_eq_nil_iff]
    intro phase _
    rw [htogether, shown_of_gap (List.mem_map.2 ⟨run, hrun, line?_of_isBare (hread run hrun) hbare⟩)]
  · intro hone _ before run after hruns hfull hbare
    have hrun : run ∈ runs := by simp [hruns]
    have hbefore : ∀ earlier ∈ before, reporter.unread? settings store earlier = none := by
      intro earlier hearlier
      exact hread earlier (by simp [hruns, hearlier])
    rw [linesOfPhases, written_eq_zero h hrun hbare, hone, List.map_flatMap]
    refine List.flatMap_congr fun phase _ => ?_
    rw [shown_false, hruns, List.map_append, List.map_cons, line?_of_isBare (hread run hrun) hbare,
      someUpTo_append_none (forall_isSome_line? hbefore hfull)]
  · intro _ hfull
    rw [linesOfPhases, List.map_flatMap]
    refine List.flatMap_congr fun phase _ => ?_
    rw [shown_of_all (forall_isSome_line? hread hfull), map_some_filterMap (forall_isSome_line? hread hfull)]
  · by_cases hfull : ∀ run ∈ runs, reporter.query.isBare store run.path = false
    · exact linesOfPhases_prefix hread hfull _
    · push Not at hfull
      obtain ⟨run, hrun, hbare⟩ := hfull
      rw [written_eq_zero h hrun (Bool.not_eq_false _ ▸ hbare)]
      exact linesOfPhases_one_prefix

theorem reports_nil {run : RunDir} (hrun : run ∈ runs) (h : reporter.unread? settings store run ≠ none) :
    reporter.Reports runs settings store [] where
  unread _ _ _ _ := rfl
  together _ _ _ _ := rfl
  upTo _ hread := absurd (hread run hrun) h
  each hread := absurd (hread run hrun) h
  isPrefix := List.nil_prefix

theorem reports_of_lines (h : reporter.toOutline ∈ Outline.all) {lines : List String}
    (hunread : ∀ failure, runs.findSome? (reporter.unread? settings store) = some failure → lines = [])
    (hread : runs.findSome? (reporter.unread? settings store) = none →
      lines = reporter.linesOfPhases (reporter.written runs settings store + 1) runs settings store) :
    reporter.Reports runs settings store lines := by
  cases hfirst : runs.findSome? (reporter.unread? settings store) with
  | none =>
    rw [hread hfirst]
    exact reports_linesOfPhases h (List.findSome?_eq_none_iff.1 hfirst)
  | some failure =>
    obtain ⟨run, hrun, hfails⟩ := List.exists_of_findSome?_eq_some hfirst
    rw [hunread failure hfirst]
    exact reports_nil hrun (by rw [hfails]; exact Option.some_ne_none failure)

/-! ### The lines of each analysis -/

theorem reports_linesOf {group : RunDir → List reporter.Value → γ} {lines : List γ → List String}
    (h : reporter.toOutline ∈ Outline.all)
    (hgroups : ∀ groups, reporter.query.readRuns (reporter.reader settings) group runs store = .ok groups →
      lines groups = reporter.linesOfPhases (reporter.written runs settings store + 1) runs settings store) :
    reporter.Reports runs settings store
      (linesOf (reporter.query.readRuns (reporter.reader settings) group runs store) lines) := by
  have herror : (reporter.query.readRuns (reporter.reader settings) group runs store).error? =
      runs.findSome? (reporter.unread? settings store) := error?_readRuns runs
  cases hread : reporter.query.readRuns (reporter.reader settings) group runs store with
  | error failure =>
    rw [hread] at herror
    exact reports_of_lines h (fun _ _ => rfl) fun hnone => nomatch herror.trans hnone
  | ok groups =>
    rw [hread] at herror
    exact reports_of_lines h (fun failure hfails => nomatch herror.trans hfails) fun _ => hgroups groups hread

theorem toOption_line (variant : Option Variant) (group : SampleGroup) :
    ((GroupSummary.of variant group).mapError Failure.fault).toOption.map (·.line) =
      (Summary.of? group.samples).map fun summary => s!"{group.name}: {summary.render}" := by
  rw [GroupSummary.of, SampleGroup.summarize]
  cases Summary.of? group.samples <;> rfl

theorem map_toOption_line {query : FileQuery} {reader : Reader Float} {groups : List SampleGroup}
    (h : query.readRuns reader RunDir.group runs store = .ok groups) (variant : SampleGroup → Option Variant) :
    (groups.map fun group => ((GroupSummary.of (variant group) group).mapError Failure.fault).toOption.map (·.line)) =
      runs.map (query.line? reader labelled settings store) := by
  refine Except.map_eq_of_mapM h fun run group hgroup => ?_
  obtain ⟨values, hvalues, hgroup⟩ := Except.bind_eq_ok_iff.1 hgroup
  cases hgroup
  rw [toOption_line, FileQuery.line?, hvalues]
  simp [labelled, RunDir.group]

theorem linesOfPhases_of_single {phase : ReportPhase reporter.Value} (h : reporter.phases = [phase]) (n : Nat) :
    reporter.linesOfPhases (n + 1) runs settings store =
      shown reporter.together (runs.map (reporter.line? phase settings store)) := by
  rw [linesOfPhases, h, List.take_succ_cons, List.take_nil]
  exact List.append_nil _

theorem linesOfPhases_bandwidth_one : bandwidth.linesOfPhases 1 runs settings store =
    shown false (runs.map (bandwidth.line? (rate (·.startup)) settings store)) :=
  List.append_nil _

theorem linesOfPhases_bandwidth_two (n : Nat) : bandwidth.linesOfPhases (n + 2) runs settings store =
    shown false (runs.map (bandwidth.line? (rate (·.startup)) settings store)) ++
      shown false (runs.map (bandwidth.line? (rate (·.after)) settings store)) := by
  have hphases : bandwidth.phases.take (n + 2) = bandwidth.phases := List.take_of_length_le (Nat.le_add_left 2 n)
  rw [linesOfPhases, hphases]
  exact congrArg _ (List.append_nil _)

theorem toOption_render (group : SampleGroup) : (group.summarize.mapError Failure.fault).toOption.map Summary.render =
    (Summary.of? group.samples).map Summary.render := by
  rw [SampleGroup.summarize]
  cases Summary.of? group.samples <;> rfl

theorem phaseLines_eq_shown {samples : List RunSamples}
    (h : clientLogs.readRuns (sample settings.bandwidth.windows) RunSamples.mk runs store = .ok samples)
    (bytes : Log.Bandwidth.Sample → Float) : phaseLines (ratesOf settings (phaseGroups samples bytes)) =
      shown false (runs.map (bandwidth.line? (rate bytes) settings store)) := by
  rw [phaseLines, linesAlong_eq_shown, ratesOf, phaseGroups, List.map_map, List.map_map]
  refine congrArg (shown false) (Except.map_eq_of_mapM h fun run read hread => ?_)
  obtain ⟨values, hvalues, hread⟩ := Except.bind_eq_ok_iff.1 hread
  cases hread
  have hline : bandwidth.line? (rate bytes) settings store run =
      clientLogs.line? (sample settings.bandwidth.windows) (rate bytes) settings store run := rfl
  rw [hline, FileQuery.line?, hvalues]
  simp only [Function.comp_apply, toOption_render, SampleGroup.map, RunDir.group, List.map_map]
  rfl

theorem lines_bandwidth {samples : List RunSamples}
    (h : clientLogs.readRuns (sample settings.bandwidth.windows) RunSamples.mk runs store = .ok samples) :
    phaseLines (ratesOf settings (phaseGroups samples (·.startup))) ++
      (phaseChart settings (startupStem settings.bandwidth.windows) settings.bandwidth.startupTop
        (phaseGroups samples (·.startup))).linesAfter
          (fun _ => phaseLines (ratesOf settings (phaseGroups samples (·.after)))) store =
      bandwidth.linesOfPhases (bandwidth.written runs settings store + 1) runs settings store := by
  have hwritten : bandwidth.written runs settings store = match bandwidthSheets runs settings store with
      | .ok sheets => Sheet.written settings sheets store
      | .error _ => 0 := rfl
  rw [linesAfter, outcome_phaseChart, phaseLines_eq_shown h, phaseLines_eq_shown h, hwritten, bandwidthSheets]
  dsimp only
  rw [h, Except.ok_bind]
  cases hstartup : phaseSheet (startupStem settings.bandwidth.windows) settings.bandwidth.startupTop
      (ratesOf settings (phaseGroups samples (·.startup))) with
  | error failure =>
    simp only [Except.error_bind, linesOf, Nat.zero_add]
    rw [linesOfPhases_bandwidth_one, List.append_nil]
  | ok startup =>
    -- once the first chart has been made out, so has the second
    obtain ⟨after, hafter⟩ := exists_phaseSheet hstartup (afterStem settings.bandwidth.windows)
      settings.bandwidth.afterTop (·.after)
    simp only [Except.ok_bind, hafter, Except.pure_eq_ok]
    rcases hemit : (startup.emit settings).outcome { store } with ⟨failure | path, left⟩
    · rw [Sheet.written_of_error hemit, Nat.zero_add, linesOfPhases_bandwidth_one]
      exact List.append_nil _
    · rw [Sheet.written_of_ok hemit, linesOfPhases_bandwidth_two]
      rfl

theorem toOutline_mem (h : reporter ∈ all) : reporter.toOutline ∈ Outline.all := by
  simp only [all, List.mem_cons, List.not_mem_nil, or_false] at h
  rcases h with rfl | rfl | rfl | rfl <;> simp [Outline.all, bandwidth, cacheMisses, queryCacheMisses, cacheElements]

theorem exists_prints_reports (h : reporter ∈ all) (runs : List RunDir) (settings : Settings) : ∃ lines,
    (reporter.analysis.charts runs settings).Prints lines ∧
      ∀ store, reporter.Reports runs settings store (lines store) := by
  have hmem := toOutline_mem h
  simp only [all, List.mem_cons, List.not_mem_nil, or_false] at h
  rcases h with rfl | rfl | rfl | rfl
  · refine ⟨_, prints_bandwidth runs settings, fun store => ?_⟩
    exact reports_linesOf hmem fun samples hsamples => lines_bandwidth hsamples
  · refine ⟨_, prints_cacheMisses runs settings, fun store => ?_⟩
    refine reports_linesOf hmem fun groups hgroups => ?_
    rw [linesOfPhases_of_single rfl, GroupSummary.ofGroups, Except.mapError_mapM, linesOf_mapM_eq_shown,
      map_toOption_line hgroups]
    rfl
  · refine ⟨_, prints_queryCacheMisses runs settings, fun store => ?_⟩
    refine reports_linesOf hmem fun groups hgroups => ?_
    rw [linesOfPhases_of_single rfl, Except.mapError_mapM, linesOf_mapM_eq_shown,
      map_toOption_line hgroups fun _ => none]
    rfl
  · refine ⟨_, prints_cacheElements runs settings, fun store => ?_⟩
    refine reports_linesOf hmem fun groups hgroups => ?_
    rw [linesOfPhases_of_single rfl, linesAlong_eq_shown, map_toOption_line hgroups]
    rfl

/-- An analysis whose output directory has been made prints its report up to where it fails, and all of it where it
does not. -/
theorem reports_run (h : reporter ∈ all) (runs : List RunDir)
    (hmade : (ensureDir settings.outputDir).outcome session = (.ok (), store)) :
    ∃ lines, ((reporter.analysis.run runs settings).runOn session).2.printed = session.printed ++ lines ∧
      reporter.Reports runs settings store lines := by
  obtain ⟨lines, hprints, hreports⟩ := exists_prints_reports h runs settings
  refine ⟨lines store, ?_, hreports store⟩
  rw [Analysis.prints_run hprints session, linesAfter, ← isPlain_ensureDir settings.outputDir session, hmade]
  rfl

/-- The one run is reported on, and then the series turn out to be of different lengths. -/
theorem reports_run_detour :
    cacheMisses ∈ all ∧ (ensureDir "out").outcome { store := Outline.logs } = (.ok (), Outline.made) ∧
      ((cacheMisses.analysis.run [⟨some "a", "out/../scout-1/miss-no-object-count"⟩] { outputDir := "out" }).outcome
        { store := Outline.logs }).1 = .error (.fault (.seriesLengthMismatch 0 1)) ∧
      ∃ line, ((cacheMisses.analysis.run [⟨some "a", "out/../scout-1/miss-no-object-count"⟩]
        { outputDir := "out" }).runOn { store := Outline.logs }).2.printed = [line] := by
  have hmem : cacheMisses ∈ all := by simp [all]
  refine ⟨hmem, Outline.outcome_ensureDir_logs, congrArg Prod.fst Outline.outcome_run_detour, ?_⟩
  have hmade : (ensureDir (Settings.outputDir { outputDir := "out" })).outcome { store := Outline.logs } =
      (.ok (), Outline.made) := Outline.outcome_ensureDir_logs
  obtain ⟨lines, hprinted, hreports⟩ := reports_run hmem [⟨some "a", "out/../scout-1/miss-no-object-count"⟩] hmade
  have hread : cacheMisses.unread? { outputDir := "out" } Outline.made
      ⟨some "a", "out/../scout-1/miss-no-object-count"⟩ = none := by
    simp only [unread?, FileQuery.failure?, cacheMisses, Outline.selected_detour, List.findSome?_cons,
      Outline.misses_detour]
    rfl
  have hfull : cacheMisses.query.isBare Outline.made "out/../scout-1/miss-no-object-count" = false := by
    rw [FileQuery.isBare, cacheMisses, Outline.selected_detour]
  have heach := hreports.each (by simpa using hread) (by simpa using hfull)
  have hphases (n : Nat) : cacheMisses.phases.take (n + 1) = cacheMisses.phases :=
    List.take_of_length_le (Nat.le_add_left 1 n)
  rw [hphases] at heach
  have hlines : lines.length = 1 := (List.length_map some).symm.trans (congrArg List.length heach)
  obtain ⟨line, rfl⟩ := List.length_eq_one_iff.1 hlines
  exact ⟨line, hprinted.trans (List.nil_append _)⟩

end Reporter

end RunCharts
