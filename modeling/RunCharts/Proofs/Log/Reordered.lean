import Mathlib.Algebra.BigOperators.Group.List.Basic
import RunCharts.Proofs.Log.Peak
import RunCharts.Proofs.Log.Phases
import RunCharts.Proofs.Log.Replies
import RunCharts.Proofs.Log.Texts

/-! # Logs in another order

The order of its lines does not change what a log says (`read_of_reordered`). A peak is found in any order. A sum is
the same in any two orders that are accepted; an order can only be refused for a running sum that does not fit, so if
no number is negative all orders are accepted or none is. In a client log the lines before the first `INIT` line and
those behind it may each be reordered.

A log is accepted by conditions on each line and on running sums, and reduced to sums and a maximum over its lines.
All of these survive a permutation, running sums by `fitsAlong_of_perm`. -/

namespace RunCharts.Log

open Numeral.Signed64

def Reordered (log log' : Bytes) : Prop := (lines log).Perm (lines log')

/-- Two readings that both give a result give the same one. -/
def Agree {α : Type} (reading reading' : Except Refusal α) : Prop :=
  ∀ result result', reading = .ok result → reading' = .ok result' → result = result'

variable {α : Type} {log log' : Bytes}

theorem toOption_eq_iff {reading reading' : Except Refusal α} :
    reading.toOption = reading'.toOption ↔ ∀ result, reading = .ok result ↔ reading' = .ok result := by
  cases reading <;> cases reading' <;> simp [Except.toOption, eq_comm]

theorem agree_of_map {β : Type} {reading reading' : Except Refusal α} (h : Agree reading reading') (f : α → β) :
    Agree (reading.map f) (reading'.map f) := by
  intro result result' hread hread'
  obtain ⟨a, ha, rfl⟩ := Except.map_eq_ok_iff.1 hread
  obtain ⟨a', ha', rfl⟩ := Except.map_eq_ok_iff.1 hread'
  rw [h a a' ha ha']

theorem toOption_map_eq {β : Type} {reading reading' : Except Refusal α} (h : reading.toOption = reading'.toOption)
    (f : α → β) : (reading.map f).toOption = (reading'.map f).toOption := by
  cases reading <;> cases reading' <;> simp_all [Except.toOption, Except.map]

theorem forall_utf8_of_perm {lines lines' : List Bytes} (h : lines.Perm lines') :
    (∀ line ∈ lines, (decode? line).isSome) ↔ ∀ line ∈ lines', (decode? line).isSome :=
  forall_congr' fun _ => imp_congr_left h.mem_iff

theorem Reordered.texts (h : Reordered log log') : (texts log).Perm (texts log') := h.filterMap decode?

/-! ### Counter logs -/

namespace Counter

theorem max?_eq_of_perm {numbers numbers' : List Int} (h : numbers.Perm numbers') : numbers.max? = numbers'.max? := by
  refine Option.ext fun n => ?_
  rw [List.max?_eq_some_iff, List.max?_eq_some_iff, h.mem_iff]
  exact and_congr_right fun _ => forall_congr' fun _ => imp_congr_left h.mem_iff

theorem peak_of_reordered (h : Reordered log log') : (peak log).toOption = (peak log').toOption := by
  have hvalues : (values (texts log)).max? = (values (texts log')).max? := max?_eq_of_perm (h.texts.filterMap value?)
  have hlines : (∀ line ∈ texts log, (value? line).isSome) ↔ ∀ line ∈ texts log', (value? line).isSome :=
    forall_congr' fun _ => imp_congr_left h.texts.mem_iff
  rw [toOption_eq_iff]
  intro result
  rw [peak_eq_ok_iff, peak_eq_ok_iff, forall_utf8_of_perm h, hlines, hvalues]

variable {start : Int}

theorem countsFrom_perm (start : Int) (h : Reordered log log') :
    (countsFrom start (texts log)).Perm (countsFrom start (texts log')) :=
  h.texts.filterMap _

theorem wellFormed_of_reordered (h : Reordered log log') (hnonneg : ∀ n ∈ countsFrom start (texts log), 0 ≤ n) :
    WellFormed start log ↔ WellFormed start log' := by
  have hutf8 := forall_utf8_of_perm h
  have hcountable : (∀ line ∈ texts log, Countable start line) ↔ ∀ line ∈ texts log', Countable start line :=
    forall_congr' fun _ => imp_congr_left h.texts.mem_iff
  have hsums := fitsAlong_of_perm 0 (countsFrom_perm start h) hnonneg
  constructor
  · intro hwell
    exact ⟨hutf8.1 hwell.utf8, hcountable.1 hwell.countable, hsums.1 hwell.sums⟩
  · intro hwell
    exact ⟨hutf8.2 hwell.utf8, hcountable.2 hwell.countable, hsums.2 hwell.sums⟩

theorem sumFrom_agree (start : Int) (h : Reordered log log') : Agree (sumFrom start log) (sumFrom start log') := by
  intro total total' hread hread'
  obtain ⟨-, rfl⟩ := sumFrom_eq_ok_iff.1 hread
  obtain ⟨-, rfl⟩ := sumFrom_eq_ok_iff.1 hread'
  exact (countsFrom_perm start h).sum_eq

theorem sumFrom_of_reordered (h : Reordered log log') (hnonneg : ∀ n ∈ countsFrom start (texts log), 0 ≤ n) :
    (sumFrom start log).toOption = (sumFrom start log').toOption := by
  rw [toOption_eq_iff]
  intro total
  rw [sumFrom_eq_ok_iff, sumFrom_eq_ok_iff, wellFormed_of_reordered h hnonneg, (countsFrom_perm start h).sum_eq]

end Counter

/-! ### Reply sizes -/

namespace ReplySizes

theorem sizesOf_perm_of_reordered (h : Reordered log log') :
    (sizesOf ((texts log).map recordOf)).Perm (sizesOf ((texts log').map recordOf)) :=
  (h.texts.map recordOf).filterMap _

theorem plus_of_reordered (h : Reordered log log') (sizes : ReplySizes) :
    sizes.plus ((texts log).map recordOf) = sizes.plus ((texts log').map recordOf) := by
  have hperm := sizesOf_perm_of_reordered h
  rw [plus, plus, hperm.length_eq, hperm.sum_eq]

theorem read_agree (h : Reordered log log') : Agree (read log) (read log') := by
  intro sizes sizes' hread hread'
  obtain ⟨-, -, -, rfl⟩ := read_eq_ok_iff.1 hread
  obtain ⟨-, -, -, rfl⟩ := read_eq_ok_iff.1 hread'
  exact plus_of_reordered h {}

theorem toOption_read_of_reordered (h : Reordered log log')
    (hnonneg : ∀ n ∈ sizesOf ((texts log).map recordOf), 0 ≤ n) : (read log).toOption = (read log').toOption := by
  have hsized : Sized ((texts log).map recordOf) ↔ Sized ((texts log').map recordOf) :=
    forall_congr' fun _ => imp_congr_left (h.texts.map recordOf).mem_iff
  rw [toOption_eq_iff]
  intro sizes
  rw [read_eq_ok_iff, read_eq_ok_iff, forall_utf8_of_perm h, hsized,
    fitsAlong_of_perm 0 (sizesOf_perm_of_reordered h) hnonneg, plus_of_reordered h]

end ReplySizes

/-! ### Client logs -/

namespace Bandwidth

/-- The record on a line, unless the line is a comment or not UTF-8. -/
def recordOf? (line : Bytes) : Option Record :=
  ((decode? line).filter fun text => text.head? ≠ some ';').map (Text.fields ',')

def IsInitLine (line : Bytes) : Prop := ∃ record ∈ recordOf? line, record.IsInit

instance (line : Bytes) : Decidable (IsInitLine line) :=
  inferInstanceAs (Decidable (∃ record ∈ recordOf? line, record.IsInit))

/-- Two logs have the same first `INIT` line, and before it and behind it the same lines in any order. -/
def ReorderedAroundInit (log log' : Bytes) : Prop :=
  ∃ init before before' behind behind', IsInitLine init ∧ (∀ line ∈ before, ¬ IsInitLine line) ∧
    lines log = before ++ init :: behind ∧ lines log' = before' ++ init :: behind' ∧
    before.Perm before' ∧ behind.Perm behind'

theorem records_eq (log : Bytes) : records log = (lines log).filterMap recordOf? := by
  rw [records, recordsOf, texts, ← List.filterMap_eq_filter, List.filterMap_filterMap, List.map_filterMap]
  refine List.filterMap_congr fun line _ => ?_
  unfold recordOf?
  cases decode? line with
  | none => rfl
  | some text => by_cases hcomment : text.head? = some ';' <;> simp [hcomment, Option.filter, Option.guard]

/-- The records around the first `INIT` record, in two orders. -/
structure SplitAlike (records records' : List Record) : Prop where
  perm : records.Perm records'
  init : records.find? (fun r => r.IsInit) = records'.find? fun r => r.IsInit
  behind : (afterInit records).Perm (afterInit records')

theorem ReorderedAroundInit.reordered (h : ReorderedAroundInit log log') : Reordered log log' := by
  obtain ⟨init, before, before', behind, behind', -, -, hlines, hlines', hbefore, hbehind⟩ := h
  rw [Reordered, hlines, hlines']
  exact hbefore.append (hbehind.cons init)

theorem ReorderedAroundInit.splitAlike (h : ReorderedAroundInit log log') : SplitAlike (records log) (records log') := by
  have hperm : (records log).Perm (records log') := by
    rw [records_eq, records_eq]
    exact h.reordered.filterMap recordOf?
  obtain ⟨init, before, before', behind, behind', ⟨record, hrecord, hinit⟩, hnone, hlines, hlines', hbefore,
    hbehind⟩ := h
  have hsplit (front back : List Bytes) : (front ++ init :: back).filterMap recordOf? =
      front.filterMap recordOf? ++ record :: back.filterMap recordOf? := by
    rw [List.filterMap_append, List.filterMap_cons_some hrecord]
  have hearly : ∀ r ∈ before.filterMap recordOf?, ¬ r.IsInit := by
    intro r hr hinit
    obtain ⟨line, hline, hrecord⟩ := List.mem_filterMap.1 hr
    exact hnone line hline ⟨r, hrecord, hinit⟩
  have hearly' : ∀ r ∈ before'.filterMap recordOf?, ¬ r.IsInit := fun r hr =>
    hearly r ((hbefore.filterMap recordOf?).mem_iff.2 hr)
  refine ⟨hperm, ?_, ?_⟩
  · rw [records_eq, records_eq, hlines, hlines', hsplit, hsplit, find?_isInit_append _ hearly hinit,
      find?_isInit_append _ hearly' hinit]
  · rw [records_eq, records_eq, hlines, hlines', hsplit, hsplit, afterInit_append _ hearly hinit,
      afterInit_append _ hearly' hinit]
    exact hbehind.filterMap recordOf?

section

variable {windows : Windows} {records records' : List Record}

theorem SplitAlike.cutoffsOf? (h : SplitAlike records records') (windows : Windows) :
    windows.cutoffsOf? records = windows.cutoffsOf? records' := by
  rw [Windows.cutoffsOf?, h.init, Windows.cutoffsOf?]

theorem SplitAlike.startupSizes (h : SplitAlike records records') (windows : Windows) :
    (windows.startupSizes records).Perm (windows.startupSizes records') := by
  rw [Windows.startupSizes, Windows.startupSizes, h.cutoffsOf? windows]
  cases windows.cutoffsOf? records' with
  | none => rfl
  | some cutoffs => exact h.behind.filterMap _

theorem SplitAlike.afterSizes (h : SplitAlike records records') (windows : Windows) :
    (windows.afterSizes records).Perm (windows.afterSizes records') := by
  rw [Windows.afterSizes, Windows.afterSizes, h.cutoffsOf? windows]
  cases windows.cutoffsOf? records' with
  | none => rfl
  | some cutoffs => exact h.behind.filterMap _

theorem SplitAlike.accept (h : SplitAlike records records') (hstartup : ∀ n ∈ windows.startupSizes records, 0 ≤ n)
    (hafter : ∀ n ∈ windows.afterSizes records, 0 ≤ n) : windows.Accept records ↔ windows.Accept records' := by
  have hreadable : (∀ record ∈ records, record.Readable) ↔ ∀ record ∈ records', record.Readable :=
    forall_congr' fun _ => imp_congr_left h.perm.mem_iff
  have hsums := fitsAlong_of_perm 0 (h.startupSizes windows) hstartup
  have hsums' := fitsAlong_of_perm 0 (h.afterSizes windows) hafter
  constructor
  · intro haccept
    exact ⟨hreadable.1 haccept.readable, h.init ▸ haccept.init, hsums.1 haccept.startup, hsums'.1 haccept.after⟩
  · intro haccept
    exact ⟨hreadable.2 haccept.readable, h.init ▸ haccept.init, hsums.2 haccept.startup, hsums'.2 haccept.after⟩

end

variable {windows : Windows}

theorem tally_agree (windows : Windows) (h : ReorderedAroundInit log log') :
    Agree (tally windows log) (tally windows log') := by
  intro result result' hread hread'
  obtain ⟨-, rfl⟩ := tally_eq_ok_iff_wellFormed.1 hread
  obtain ⟨-, rfl⟩ := tally_eq_ok_iff_wellFormed.1 hread'
  have hsplit := h.splitAlike
  rw [hsplit.cutoffsOf?, (hsplit.startupSizes windows).sum_eq, (hsplit.afterSizes windows).sum_eq]

theorem tally_of_reordered (h : ReorderedAroundInit log log')
    (hstartup : ∀ n ∈ windows.startupSizes (records log), 0 ≤ n)
    (hafter : ∀ n ∈ windows.afterSizes (records log), 0 ≤ n) :
    (tally windows log).toOption = (tally windows log').toOption := by
  have hsplit := h.splitAlike
  have hutf8 := forall_utf8_of_perm h.reordered
  have haccept := hsplit.accept hstartup hafter
  have hwell : WellFormed windows log ↔ WellFormed windows log' :=
    ⟨fun hwell => ⟨hutf8.1 hwell.utf8, haccept.1 hwell.accept⟩,
      fun hwell => ⟨hutf8.2 hwell.utf8, haccept.2 hwell.accept⟩⟩
  rw [toOption_eq_iff]
  intro result
  rw [tally_eq_ok_iff_wellFormed, tally_eq_ok_iff_wellFormed, hwell, hsplit.cutoffsOf?,
    (hsplit.startupSizes windows).sum_eq, (hsplit.afterSizes windows).sum_eq]

end Bandwidth

/-- The order of the lines changes no result. It changes whether a log is accepted only if a number that is summed is
negative. -/
theorem read_of_reordered {log log' : Bytes} :
    (Reordered log log' →
      (Counter.read .peak log).toOption = (Counter.read .peak log').toOption ∧
      (∀ start, Agree (Counter.read (.sumFrom start) log) (Counter.read (.sumFrom start) log') ∧
        ((∀ n ∈ Counter.countsFrom start (texts log), 0 ≤ n) →
          (Counter.read (.sumFrom start) log).toOption = (Counter.read (.sumFrom start) log').toOption)) ∧
      Agree (ReplySizes.read log) (ReplySizes.read log') ∧
      ((∀ n ∈ ReplySizes.sizesOf ((texts log).map ReplySizes.recordOf), 0 ≤ n) →
        (ReplySizes.read log).toOption = (ReplySizes.read log').toOption)) ∧
    (Bandwidth.ReorderedAroundInit log log' → ∀ (windows : Bandwidth.Windows) (threads : Nat),
      Agree (Bandwidth.read windows threads log) (Bandwidth.read windows threads log') ∧
      ((∀ n ∈ windows.startupSizes (Bandwidth.records log), 0 ≤ n) →
        (∀ n ∈ windows.afterSizes (Bandwidth.records log), 0 ≤ n) →
        (Bandwidth.read windows threads log).toOption = (Bandwidth.read windows threads log').toOption)) := by
  constructor
  · intro h
    refine ⟨Counter.peak_of_reordered h, fun start => ⟨?_, fun hnonneg => ?_⟩, ReplySizes.read_agree h,
      ReplySizes.toOption_read_of_reordered h⟩
    · exact agree_of_map (Counter.sumFrom_agree start h) some
    · exact toOption_map_eq (Counter.sumFrom_of_reordered h hnonneg) some
  · intro h windows threads
    refine ⟨agree_of_map (Bandwidth.tally_agree windows h) _, fun hstartup hafter => ?_⟩
    exact toOption_map_eq (Bandwidth.tally_of_reordered h hstartup hafter) _

/-- Counts in two orders, with a line before the sixth second whose count is not looked at. -/
def counts : List (List Char) := ["6;1".toList, "5;none".toList, " 7 ;2".toList]

def countsTurned : List (List Char) := ["5;none".toList, " 7 ;2".toList, "6;1".toList]

/-- Replies before the first `INIT` record, in both phases and after them, and another `INIT` record. -/
def clientLines (before behind : List (List Char)) : List (List Char) :=
  before ++ "2,INIT,clock,100".toList :: behind

def early : List (List Char) := ["1,5,METADATA_FetchObjectVersionReply,-1".toList, "; INIT".toList]

def late : List (List Char) :=
  ["3, +50 ,METADATA_FetchObjectVersionReply,10".toList, "9,INIT,clock".toList,
    "4,115,METADATA_FetchObjectVersionReply,200".toList, "5,130,METADATA_FetchObjectVersionReply,-4000".toList]

theorem read_of_reordered_turned :
    Counter.read (.sumFrom 6) (ofTexts countsTurned) = .ok (some 3) ∧
      Bandwidth.read ⟨10, 10⟩ 4 (ofTexts (clientLines early.reverse late.reverse)) =
        .ok (Bandwidth.Tally.perThread ⟨some ⟨110, 120⟩, 10, 200⟩ 4) := by
  have hcounts : ∀ text ∈ counts, '\n' ∉ text ∧ text.getLast? ≠ some '\r' := by decide +kernel
  have hturned : ∀ text ∈ countsTurned, '\n' ∉ text ∧ text.getLast? ≠ some '\r' := by decide +kernel
  have hearly : ∀ text ∈ clientLines early late, '\n' ∉ text ∧ text.getLast? ≠ some '\r' := by decide +kernel
  have hlate : ∀ text ∈ clientLines early.reverse late.reverse, '\n' ∉ text ∧ text.getLast? ≠ some '\r' := by
    decide +kernel
  constructor
  · have hperm : Reordered (ofTexts counts) (ofTexts countsTurned) := by
      rw [Reordered, lines_ofTexts hcounts, lines_ofTexts hturned]
      decide +kernel
    have hnonneg : ∀ n ∈ Counter.countsFrom 6 (texts (ofTexts counts)), 0 ≤ n := by
      rw [(texts_ofTexts hcounts).2]
      decide +kernel
    have hsum : Counter.sumFrom 6 (ofTexts counts) = .ok 3 := foldLines_ofTexts hcounts (by decide +kernel)
    have hsame := ((read_of_reordered.1 hperm).2.1 6).2 hnonneg
    rw [toOption_eq_iff] at hsame
    refine (hsame _).1 ?_
    rw [Counter.read, hsum, Except.map]
  · have hsplit : Bandwidth.ReorderedAroundInit (ofTexts (clientLines early late))
        (ofTexts (clientLines early.reverse late.reverse)) := by
      refine ⟨encode "2,INIT,clock,100".toList, early.map encode, early.reverse.map encode, late.map encode,
        late.reverse.map encode, by decide +kernel, by decide +kernel, ?_, ?_, by decide +kernel, by decide +kernel⟩
      · rw [lines_ofTexts hearly, clientLines, List.map_append, List.map_cons]
      · rw [lines_ofTexts hlate, clientLines, List.map_append, List.map_cons]
    have hrecords : Bandwidth.records (ofTexts (clientLines early late)) =
        Bandwidth.recordsOf (clientLines early late) := by
      rw [Bandwidth.records, (texts_ofTexts hearly).2]
    have htally : Bandwidth.tally ⟨10, 10⟩ (ofTexts (clientLines early late)) = .ok ⟨some ⟨110, 120⟩, 10, 200⟩ :=
      foldLines_ofTexts hearly (by decide +kernel)
    have hsame := (read_of_reordered.2 hsplit ⟨10, 10⟩ 4).2 (hrecords ▸ by decide +kernel)
      (hrecords ▸ by decide +kernel)
    rw [toOption_eq_iff] at hsame
    refine (hsame _).1 ?_
    rw [Bandwidth.read, htally, Except.map]

end RunCharts.Log
