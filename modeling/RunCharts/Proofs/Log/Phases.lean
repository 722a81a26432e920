import RunCharts.Proofs.Log.Records
import RunCharts.Proofs.RunningSum

/-! # The bytes of each phase

The sample of a client log holds, for each phase, the exact sum of the sizes of the replies that follow
the first `INIT` record with a time in that phase, shared out among the threads. The log is accepted
exactly when it is well formed (`read_eq_ok_iff_wellFormed`). -/

namespace RunCharts.Log.Bandwidth

open Numeral.Signed64

/-! ### What a log says -/

/-- The sizes of the replies with a time of the given kind, in order. -/
def replySizes (kind : Int → Bool) (records : List Record) : List Int :=
  records.filterMap fun record =>
    if record.IsReply ∧ (record.number? 1).any kind then record.number? 3 else none

/-- The times and sizes of the replies among records. -/
def replies (records : List Record) : List (Int × Int) :=
  records.filterMap fun record =>
    if record.IsReply then (record.number? 1).bind fun time => (record.number? 3).map fun size => (time, size)
    else none

/-- The sizes of the replies with a time before the first cutoff. -/
def Cutoffs.startupSizes (cutoffs : Cutoffs) : List Record → List Int :=
  replySizes fun time => time < cutoffs.startup

/-- The sizes of the replies with a time from the first cutoff on and before the second. -/
def Cutoffs.afterSizes (cutoffs : Cutoffs) : List Record → List Int :=
  replySizes fun time => cutoffs.startup ≤ time ∧ time < cutoffs.after

/-- The records that follow the first `INIT` record. -/
def afterInit (records : List Record) : List Record := (records.dropWhile fun r => ¬ r.IsInit).tail

/-- The cutoffs that the first `INIT` record fixes. -/
def Windows.cutoffsOf? (windows : Windows) (records : List Record) : Option Cutoffs := do
  let init ← records.find? fun r => r.IsInit
  let start ← init.number? 3
  return ⟨start + windows.startup, start + windows.startup + windows.after⟩

/-- The sizes of the replies of the startup phase. -/
def Windows.startupSizes (windows : Windows) (records : List Record) : List Int :=
  (windows.cutoffsOf? records).elim [] (·.startupSizes (afterInit records))

/-- The sizes of the replies of the phase that follows. -/
def Windows.afterSizes (windows : Windows) (records : List Record) : List Int :=
  (windows.cutoffsOf? records).elim [] (·.afterSizes (afterInit records))

/-- What the records of a client log must be to be accepted. -/
structure Windows.Accept (windows : Windows) (records : List Record) : Prop where
  readable : ∀ record ∈ records, record.Readable
  /-- The first `INIT` record has a time, and both cutoffs fit 64 signed bits. -/
  init : ∀ record, records.find? (fun r => r.IsInit) = some record →
    ∃ start, record.number? 3 = some start ∧ Fits (start + windows.startup) ∧
      Fits (start + windows.startup + windows.after)
  startup : FitsAlong 0 (windows.startupSizes records)
  after : FitsAlong 0 (windows.afterSizes records)

/-- What a client log must be to be accepted. -/
structure WellFormed (windows : Windows) (log : Bytes) : Prop where
  utf8 : ∀ line ∈ lines log, (decode? line).isSome
  accept : windows.Accept (records log)

/-! ### Reading one record -/

variable {windows : Windows} {cutoffs : Cutoffs} {tally tally' : Tally} {record : Record}

theorem Windows.cutoffs_eq_ok_iff {start : Int} : windows.cutoffs start = .ok cutoffs ↔
    cutoffs = ⟨start + windows.startup, start + windows.startup + windows.after⟩ ∧
      Fits (start + windows.startup) ∧ Fits (start + windows.startup + windows.after) := by
  unfold Windows.cutoffs
  simp only [Except.bind_eq_ok_iff, sum_eq_ok_iff, Except.pure_eq_ok, Except.ok.injEq]
  constructor
  · rintro ⟨_, ⟨rfl, hstartup⟩, _, ⟨rfl, hafter⟩, rfl⟩
    exact ⟨rfl, hstartup, hafter⟩
  · rintro ⟨rfl, hstartup, hafter⟩
    exact ⟨_, ⟨rfl, hstartup⟩, _, ⟨rfl, hafter⟩, rfl⟩

/-- What becomes of the tally at a record, before its reply is counted. -/
def InitRead (windows : Windows) (tally : Tally) (record : Record) (tally' : Tally) : Prop :=
  if record.IsInit ∧ tally.cutoffs = none then
    ∃ start cutoffs, record.number? 3 = some start ∧ windows.cutoffs start = .ok cutoffs ∧
      tally' = { tally with cutoffs := some cutoffs }
  else tally' = tally

/-- What becomes of the tally at a record when its reply, if it is one, is counted. -/
def ReplyRead (tally : Tally) (record : Record) (tally' : Tally) : Prop :=
  if record.IsReply then
    ∃ time size, record.number? 1 = some time ∧ record.number? 3 = some size ∧
      tally.addReply time size = .ok tally'
  else tally' = tally

theorem Tally.readInit_eq_ok_iff {first second third : List Char} {rest : List (List Char)} :
    tally.readInit windows second rest.head? = .ok tally' ↔
      InitRead windows tally (first :: second :: third :: rest) tally' := by
  unfold Tally.readInit InitRead
  have hinit : Record.IsInit (first :: second :: third :: rest) ↔ second = initEvent := by
    simp [Record.IsInit]
  simp only [hinit]
  by_cases h : second = initEvent ∧ tally.cutoffs = none
  · simp only [h, and_self, ↓reduceIte]
    cases rest with
    | nil => simp [Record.number?]
    | cons fourth rest =>
      simp only [List.head?_cons, Except.bind_eq_ok_iff, readColumn_eq_ok_iff, Except.pure_eq_ok,
        Except.ok.injEq, Record.number?_eq_some_iff, List.getElem?_cons_succ, List.getElem?_cons_zero,
        Option.some.injEq, exists_eq_left', eq_comm (a := tally'), exists_and_left]
  · simp only [h, ↓reduceIte, Except.ok.injEq, eq_comm (a := tally')]

theorem Tally.readReply_eq_ok_iff {first second third : List Char} {rest : List (List Char)} :
    tally.readReply second third rest.head? = .ok tally' ↔
      ReplyRead tally (first :: second :: third :: rest) tally' := by
  unfold Tally.readReply ReplyRead
  have hreply : Record.IsReply (first :: second :: third :: rest) ↔ third = fetchReply := by
    simp [Record.IsReply]
  simp only [hreply]
  by_cases h : third = fetchReply
  · simp only [h, ↓reduceIte]
    cases rest with
    | nil => simp [Record.number?, Except.bind_eq_ok_iff]
    | cons fourth rest =>
      simp only [List.head?_cons, Except.bind_eq_ok_iff, readColumn_eq_ok_iff,
        Record.number?_eq_some_iff, List.getElem?_cons_succ, List.getElem?_cons_zero,
        Option.some.injEq, exists_eq_left', exists_and_left]
  · simp only [h, ↓reduceIte, Except.ok.injEq, eq_comm (a := tally')]

theorem Tally.readRecord_eq_ok_iff : tally.readRecord windows record = .ok tally' ↔
    3 ≤ record.length ∧ ∃ mid, InitRead windows tally record mid ∧ ReplyRead mid record tally' := by
  unfold Tally.readRecord
  split
  · rename_i first second third rest
    have hlength : 3 ≤ (first :: second :: third :: rest).length := by simp
    simp only [Except.bind_eq_ok_iff, hlength, true_and]
    exact exists_congr fun mid => and_congr readInit_eq_ok_iff readReply_eq_ok_iff
  · rename_i hshort
    have : ¬ 3 ≤ record.length := by
      match record, hshort with
      | [], _ | [_], _ | [_, _], _ => simp
      | first :: second :: third :: rest, h => exact absurd rfl (h first second third rest)
    simp [this]

/-! ### Before, at and behind the first `INIT` record -/

theorem Tally.addReply_of_none {time size : Int} (h : tally.cutoffs = none) :
    tally.addReply time size = .ok tally := by
  simp [Tally.addReply, h]

theorem Tally.readRecord_of_not_isInit (hclock : tally.cutoffs = none) (hinit : ¬ record.IsInit) :
    tally.readRecord windows record = .ok tally' ↔ record.Readable ∧ tally' = tally := by
  rw [readRecord_eq_ok_iff]
  simp only [InitRead, hinit, false_and, ↓reduceIte, ReplyRead, exists_eq_left, addReply_of_none hclock,
    Except.ok.injEq]
  by_cases hreply : record.IsReply
  · simp only [hreply, ↓reduceIte]
    constructor
    · rintro ⟨hfields, time, size, htime, hsize, rfl⟩
      exact ⟨⟨hfields, fun _ => by simp [htime], fun _ => by simp [hsize]⟩, rfl⟩
    · rintro ⟨h, rfl⟩
      obtain ⟨time, htime⟩ := Option.isSome_iff_exists.1 (h.time hreply)
      obtain ⟨size, hsize⟩ := Option.isSome_iff_exists.1 (h.size hreply)
      exact ⟨h.fields, time, size, htime, hsize, rfl⟩
  · simp only [hreply, ↓reduceIte]
    exact and_congr_left' ⟨fun h => ⟨h, hreply.elim, hreply.elim⟩, Record.Readable.fields⟩

/-- The first `INIT` record sets the cutoffs. It cannot be a reply as well, for it has no time. -/
theorem Tally.readRecord_of_isInit (hclock : tally.cutoffs = none) (hinit : record.IsInit) :
    tally.readRecord windows record = .ok tally' ↔ record.Readable ∧
      ∃ start cutoffs, record.number? 3 = some start ∧ windows.cutoffs start = .ok cutoffs ∧
        tally' = { tally with cutoffs := some cutoffs } := by
  rw [readRecord_eq_ok_iff]
  simp only [InitRead, hinit, hclock, and_self, ↓reduceIte, ReplyRead, hinit.number?_one]
  by_cases hreply : record.IsReply
  · have hunreadable : ¬ record.Readable := fun h => by
      simpa [hinit.number?_one] using h.time hreply
    simp [hreply, hunreadable]
  · simp only [hreply, ↓reduceIte]
    constructor
    · rintro ⟨hfields, mid, ⟨start, cutoffs, hstart, hcutoffs, rfl⟩, rfl⟩
      exact ⟨⟨hfields, hreply.elim, hreply.elim⟩, start, cutoffs, hstart, hcutoffs, rfl⟩
    · rintro ⟨h, start, cutoffs, hstart, hcutoffs, rfl⟩
      exact ⟨h.fields, _, ⟨start, cutoffs, hstart, hcutoffs, rfl⟩, rfl⟩

theorem replySizes_cons (kind : Int → Bool) (record : Record) (records : List Record) :
    replySizes kind (record :: records) = replySizes kind [record] ++ replySizes kind records := by
  rw [replySizes, replySizes, replySizes, ← List.filterMap_append, List.singleton_append]

theorem replySizes_of_not_isReply (kind : Int → Bool) (h : ¬ record.IsReply) :
    replySizes kind [record] = [] := by
  simp [replySizes, h]

theorem replySizes_of_isReply (kind : Int → Bool) {time size : Int} (h : record.IsReply)
    (htime : record.number? 1 = some time) (hsize : record.number? 3 = some size) :
    replySizes kind [record] = if kind time then [size] else [] := by
  by_cases hkind : kind time <;> simp [replySizes, h, htime, hsize, hkind]

theorem replySizes_eq (kind : Int → Bool) (records : List Record) :
    replySizes kind records = ((replies records).filter fun reply => kind reply.1).map (·.2) := by
  rw [replySizes, replies, List.filter_filterMap, List.map_filterMap]
  refine List.filterMap_congr fun record _ => ?_
  by_cases hreply : record.IsReply
  · cases record.number? 1 with
    | none => simp [hreply]
    | some time => 
      cases record.number? 3 with
      | none => simp [hreply]
      | some size => by_cases hkind : kind time <;> simp [hreply, hkind, Option.filter]
  · simp [hreply]

/-- The tally with the replies of records added to it. -/
def Tally.plus (tally : Tally) (cutoffs : Cutoffs) (records : List Record) : Tally :=
  { tally with
    startup := tally.startup + (cutoffs.startupSizes records).sum
    after := tally.after + (cutoffs.afterSizes records).sum }

/-- The running sums of both phases fit, when the replies of records are added to a tally. -/
def Tally.FitsWith (tally : Tally) (cutoffs : Cutoffs) (records : List Record) : Prop :=
  FitsAlong tally.startup (cutoffs.startupSizes records) ∧
    FitsAlong tally.after (cutoffs.afterSizes records)

theorem Tally.fitsWith_cons {records : List Record} : tally.FitsWith cutoffs (record :: records) ↔
    tally.FitsWith cutoffs [record] ∧ (tally.plus cutoffs [record]).FitsWith cutoffs records := by
  simp only [FitsWith, Cutoffs.startupSizes, Cutoffs.afterSizes, Tally.plus,
    replySizes_cons _ record records, fitsAlong_append]
  exact and_and_and_comm

theorem Tally.plus_cons (tally : Tally) (records : List Record) :
    tally.plus cutoffs (record :: records) = (tally.plus cutoffs [record]).plus cutoffs records := by
  simp only [Tally.plus, Cutoffs.startupSizes, Cutoffs.afterSizes, replySizes_cons _ record records,
    List.sum_append, Int.add_assoc]

theorem Tally.addReply_eq_ok_iff {time size : Int} (hclock : tally.cutoffs = some cutoffs)
    (hstartup : Fits tally.startup) (hafter : Fits tally.after) (hreply : record.IsReply)
    (htime : record.number? 1 = some time) (hsize : record.number? 3 = some size) :
    tally.addReply time size = .ok tally' ↔
      tally.FitsWith cutoffs [record] ∧ tally' = tally.plus cutoffs [record] := by
  have hs := replySizes_of_isReply (fun time => time < cutoffs.startup) hreply htime hsize
  have ha := replySizes_of_isReply (fun time => cutoffs.startup ≤ time ∧ time < cutoffs.after)
    hreply htime hsize
  simp only [FitsWith, plus, Cutoffs.startupSizes, Cutoffs.afterSizes, hs, ha, addReply, hclock,
    Option.bind_some, Cutoffs.phase?]
  by_cases h₁ : time < cutoffs.startup
  · have h₂ : ¬ (cutoffs.startup ≤ time ∧ time < cutoffs.after) := by omega
    simp only [h₁, h₂, ↓reduceIte, decide_true, decide_false, Except.bind_eq_ok_iff, sum_eq_ok_iff]
    simp [fitsAlong_cons, hstartup, hafter, eq_comm (a := tally')]
  · by_cases h₂ : time < cutoffs.after
    · have h₃ : cutoffs.startup ≤ time := by omega
      simp only [h₁, h₂, h₃, and_self, ↓reduceIte, decide_true, decide_false, Except.bind_eq_ok_iff,
        sum_eq_ok_iff]
      simp [fitsAlong_cons, hstartup, hafter, eq_comm (a := tally')]
    · simp only [h₁, h₂, and_false, decide_false, ↓reduceIte]
      simp [hstartup, hafter, ← hclock, eq_comm (a := tally')]

theorem Tally.readRecord_of_clock (hclock : tally.cutoffs = some cutoffs) (hstartup : Fits tally.startup)
    (hafter : Fits tally.after) : tally.readRecord windows record = .ok tally' ↔
      record.Readable ∧ tally.FitsWith cutoffs [record] ∧ tally' = tally.plus cutoffs [record] := by
  rw [readRecord_eq_ok_iff]
  simp only [InitRead, hclock, reduceCtorEq, and_false, ↓reduceIte, ReplyRead, exists_eq_left]
  by_cases hreply : record.IsReply
  · simp only [hreply, ↓reduceIte]
    constructor
    · rintro ⟨hfields, time, size, htime, hsize, h⟩
      refine ⟨⟨hfields, fun _ => by simp [htime], fun _ => by simp [hsize]⟩, ?_⟩
      exact (addReply_eq_ok_iff hclock hstartup hafter hreply htime hsize).1 h
    · rintro ⟨hreadable, h⟩
      obtain ⟨time, htime⟩ := Option.isSome_iff_exists.1 (hreadable.time hreply)
      obtain ⟨size, hsize⟩ := Option.isSome_iff_exists.1 (hreadable.size hreply)
      refine ⟨hreadable.fields, time, size, htime, hsize, ?_⟩
      exact (addReply_eq_ok_iff hclock hstartup hafter hreply htime hsize).2 h
  · have hnone (kind : Int → Bool) := replySizes_of_not_isReply kind hreply
    have hfits : tally.FitsWith cutoffs [record] := by
      simp [FitsWith, Cutoffs.startupSizes, Cutoffs.afterSizes, hnone, hstartup, hafter]
    have hplus : tally.plus cutoffs [record] = tally := by
      simp [plus, Cutoffs.startupSizes, Cutoffs.afterSizes, hnone]
    simp only [hreply, ↓reduceIte, hfits, hplus, true_and]
    exact and_congr_left' ⟨fun h => ⟨h, hreply.elim, hreply.elim⟩, Record.Readable.fields⟩

/-! ### Reading all records -/

theorem foldlM_readRecord_of_not_isInit {before : List Record} (hclock : tally.cutoffs = none)
    (hinit : ∀ record ∈ before, ¬ record.IsInit) :
    before.foldlM (Tally.readRecord windows) tally = .ok tally' ↔
      (∀ record ∈ before, record.Readable) ∧ tally' = tally := by
  induction before with
  | nil => simp [eq_comm]
  | cons record before ih =>
    obtain ⟨hrecord, hbefore⟩ := List.forall_mem_cons.1 hinit
    simp only [List.foldlM_cons, Except.bind_eq_ok_iff, Tally.readRecord_of_not_isInit hclock hrecord,
      List.forall_mem_cons, and_assoc, exists_and_left, exists_eq_left, ih hbefore]

theorem foldlM_readRecord_of_clock {behind : List Record} (hclock : tally.cutoffs = some cutoffs)
    (hstartup : Fits tally.startup) (hafter : Fits tally.after) :
    behind.foldlM (Tally.readRecord windows) tally = .ok tally' ↔
      (∀ record ∈ behind, record.Readable) ∧ tally.FitsWith cutoffs behind ∧
        tally' = tally.plus cutoffs behind := by
  induction behind generalizing tally with
  | nil =>
    have hfits : tally.FitsWith cutoffs [] := ⟨fitsAlong_nil.2 hstartup, fitsAlong_nil.2 hafter⟩
    have hplus : tally.plus cutoffs [] = tally := by
      simp [Tally.plus, Cutoffs.startupSizes, Cutoffs.afterSizes, replySizes]
    simp [hfits, hplus, eq_comm (a := tally')]
  | cons record behind ih =>
    have hnext : (tally.plus cutoffs [record]).cutoffs = some cutoffs := hclock
    have hmore (h : tally.FitsWith cutoffs [record]) := ih hnext h.1.fits_sum h.2.fits_sum
    rw [List.foldlM_cons, Except.bind_eq_ok_iff, Tally.fitsWith_cons, Tally.plus_cons tally behind,
      List.forall_mem_cons]
    simp only [Tally.readRecord_of_clock hclock hstartup hafter]
    constructor
    · rintro ⟨_, ⟨hreadable, hfits, rfl⟩, h⟩
      obtain ⟨hall, hrest, rfl⟩ := (hmore hfits).1 h
      exact ⟨⟨hreadable, hall⟩, ⟨hfits, hrest⟩, rfl⟩
    · rintro ⟨⟨hreadable, hall⟩, ⟨hfits, hrest⟩, rfl⟩
      exact ⟨_, ⟨hreadable, hfits, rfl⟩, (hmore hfits).2 ⟨hall, hrest, rfl⟩⟩

section

variable {records before : List Record} {init : Record}

theorem cutoffsOf?_of_forall_not_isInit (windows : Windows) (h : ∀ record ∈ records, ¬ record.IsInit) :
    windows.cutoffsOf? records = none := by
  have hfind : records.find? (fun r => r.IsInit) = none := by simpa [List.find?_eq_none] using h
  simp [Windows.cutoffsOf?, hfind]

theorem find?_isInit_append (behind : List Record) (hbefore : ∀ record ∈ before, ¬ record.IsInit)
    (hinit : init.IsInit) :
    (before ++ init :: behind).find? (fun r => r.IsInit) = some init := by
  have hfind : before.find? (fun r => r.IsInit) = none := by simpa [List.find?_eq_none] using hbefore
  simp [List.find?_append, hfind, hinit]

theorem afterInit_append (behind : List Record) (hbefore : ∀ record ∈ before, ¬ record.IsInit)
    (hinit : init.IsInit) :
    afterInit (before ++ init :: behind) = behind := by
  rw [afterInit, List.dropWhile_append_of_pos (by simpa using hbefore),
    List.dropWhile_cons_of_neg (by simpa using hinit), List.tail_cons]

theorem cutoffsOf?_append (windows : Windows) (behind : List Record) {start : Int}
    (hbefore : ∀ record ∈ before, ¬ record.IsInit) (hinit : init.IsInit) (hstart : init.number? 3 = some start) :
    windows.cutoffsOf? (before ++ init :: behind) =
      some ⟨start + windows.startup, start + windows.startup + windows.after⟩ := by
  simp only [Windows.cutoffsOf?, find?_isInit_append behind hbefore hinit, Option.bind_eq_bind,
    Option.bind_some, hstart, Option.pure_def]

theorem phases_of_forall_not_isInit (windows : Windows) (h : ∀ record ∈ records, ¬ record.IsInit) :
    windows.startupSizes records = [] ∧ windows.afterSizes records = [] := by
  simp [Windows.startupSizes, Windows.afterSizes, cutoffsOf?_of_forall_not_isInit windows h]

theorem phases_append (windows : Windows) (behind : List Record) {start : Int}
    (hbefore : ∀ record ∈ before, ¬ record.IsInit) (hinit : init.IsInit) (hstart : init.number? 3 = some start) :
    let cutoffs : Cutoffs := ⟨start + windows.startup, start + windows.startup + windows.after⟩
    windows.startupSizes (before ++ init :: behind) = cutoffs.startupSizes behind ∧
      windows.afterSizes (before ++ init :: behind) = cutoffs.afterSizes behind := by
  simp [Windows.startupSizes, Windows.afterSizes, cutoffsOf?_append windows behind hbefore hinit hstart,
    afterInit_append behind hbefore hinit]

/-- The tally holds the exact sums of both phases, and every record, cutoff and running sum was in order. -/
theorem foldlM_readRecord_eq_ok_iff : records.foldlM (Tally.readRecord windows) {} = .ok tally ↔
    windows.Accept records ∧ tally = ⟨windows.cutoffsOf? records, (windows.startupSizes records).sum,
      (windows.afterSizes records).sum⟩ := by
  cases hfind : records.find? (fun r => r.IsInit) with
  | none =>
    have hinit : ∀ record ∈ records, ¬ record.IsInit := by simpa [List.find?_eq_none] using hfind
    have hclock := cutoffsOf?_of_forall_not_isInit windows hinit
    rw [foldlM_readRecord_of_not_isInit rfl hinit]
    simp only [Windows.startupSizes, Windows.afterSizes, hclock, Option.elim_none, List.sum_nil]
    refine and_congr_left' ⟨fun h => ⟨h, by simp [hfind], ?_, ?_⟩, Windows.Accept.readable⟩
    · simp [Windows.startupSizes, hclock, fits_zero]
    · simp [Windows.afterSizes, hclock, fits_zero]
  | some init =>
    obtain ⟨hinit, before, behind, rfl, hbefore⟩ := List.find?_eq_some_iff_append.1 hfind
    replace hinit : init.IsInit := by simpa using hinit
    replace hbefore : ∀ record ∈ before, ¬ record.IsInit := by simpa using hbefore
    have hbehind := afterInit_append behind hbefore hinit
    have hnone : ({} : Tally).cutoffs = none := rfl
    simp only [List.foldlM_append, List.foldlM_cons, Except.bind_eq_ok_iff,
      foldlM_readRecord_of_not_isInit hnone hbefore, and_assoc, exists_and_left, exists_eq_left,
      Tally.readRecord_of_isInit hnone hinit]
    constructor
    · rintro ⟨hb, hi, _, ⟨start, hstart, cutoffs, hcutoffs, rfl⟩, h⟩
      obtain ⟨ha, hfits, rfl⟩ := (foldlM_readRecord_of_clock rfl fits_zero fits_zero).1 h
      obtain ⟨rfl, hstartup, hafter⟩ := Windows.cutoffs_eq_ok_iff.1 hcutoffs
      have hclock := cutoffsOf?_append windows behind hbefore hinit hstart
      refine ⟨⟨?_, ?_, ?_, ?_⟩, ?_⟩
      · rw [List.forall_mem_append, List.forall_mem_cons]
        exact ⟨hb, hi, ha⟩
      · rw [hfind]
        rintro _ ⟨⟩
        exact ⟨start, hstart, hstartup, hafter⟩
      · simpa [Windows.startupSizes, hclock, hbehind] using hfits.1
      · simpa [Windows.afterSizes, hclock, hbehind] using hfits.2
      · simp [Windows.startupSizes, Windows.afterSizes, hclock, hbehind, Tally.plus]
    · rintro ⟨h, rfl⟩
      obtain ⟨start, hstart, hstartup, hafter⟩ := h.init init hfind
      have hclock := cutoffsOf?_append windows behind hbefore hinit hstart
      have hreadable := h.readable
      rw [List.forall_mem_append, List.forall_mem_cons] at hreadable
      obtain ⟨hb, hi, ha⟩ := hreadable
      refine ⟨hb, hi, _, ⟨start, hstart, _, Windows.cutoffs_eq_ok_iff.2 ⟨rfl, hstartup, hafter⟩, rfl⟩, ?_⟩
      rw [foldlM_readRecord_of_clock rfl fits_zero fits_zero]
      refine ⟨ha, ⟨?_, ?_⟩, ?_⟩
      · simpa [Windows.startupSizes, hclock, hbehind] using h.startup
      · simpa [Windows.afterSizes, hclock, hbehind] using h.after
      · simp [Windows.startupSizes, Windows.afterSizes, hclock, hbehind, Tally.plus]

end

theorem tally_eq_ok_iff_wellFormed {log : Bytes} : Bandwidth.tally windows log = .ok tally ↔
    WellFormed windows log ∧ tally = ⟨windows.cutoffsOf? (records log),
      (windows.startupSizes (records log)).sum, (windows.afterSizes (records log)).sum⟩ := by
  rw [tally_eq_ok_iff, foldlM_readRecord_eq_ok_iff, ← and_assoc]
  exact and_congr_left' ⟨fun h => ⟨h.1, h.2⟩, fun h => ⟨h.utf8, h.accept⟩⟩

/-- A client log is accepted exactly if it is well formed, and then each phase gets the exact sum of the
sizes of its replies, shared out among the threads. -/
theorem read_eq_ok_iff_wellFormed {threads : Nat} {log : Bytes} {sample : Sample} :
    Bandwidth.read windows threads log = .ok sample ↔ WellFormed windows log ∧
      sample = ⟨Float.ofInt (windows.startupSizes (records log)).sum / Float.ofNat threads,
        Float.ofInt (windows.afterSizes (records log)).sum / Float.ofNat threads⟩ := by
  rw [Bandwidth.read, Except.map_eq_ok_iff]
  simp only [tally_eq_ok_iff_wellFormed, Tally.perThread]
  constructor
  · rintro ⟨_, ⟨h, rfl⟩, rfl⟩
    exact ⟨h, rfl⟩
  · rintro ⟨h, rfl⟩
    exact ⟨_, ⟨h, rfl⟩, rfl⟩

end RunCharts.Log.Bandwidth
