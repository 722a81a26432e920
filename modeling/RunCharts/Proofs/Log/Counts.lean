import Mathlib.Data.List.Basic
import RunCharts.Log.Counter
import RunCharts.Proofs.Log.Texts
import RunCharts.Proofs.RunningSum

/-! # The counts of a counter log

The sum of a counter log is the exact sum of the counts at or after a time, and the log is accepted exactly when it is
well formed (`read_sumFrom_eq_ok_iff`). Every line needs a time, but a count only where it is summed, and every running
sum has to fit.

A line with exactly one semicolon is its time field and its value field (`timeAndValue?_eq`). One line adds its count
(`sumStep_eq_ok_iff`), and from it, by induction, all lines add theirs (`foldlM_sumStep_eq_ok_iff`). -/

namespace RunCharts

namespace Text

theorem splitOnce?_eq (sep : Char) (text : List Char) : splitOnce? sep text =
    if sep ∈ text then some (text.takeWhile (· ≠ sep), (text.dropWhile (· ≠ sep)).tail) else none := by
  induction text with
  | nil => rfl
  | cons c rest ih =>
    rw [splitOnce?, ih]
    by_cases hc : c = sep
    · simp [hc]
    · by_cases hmem : sep ∈ rest <;> simp [hc, hmem, Ne.symm hc]

/-- A separator occurs once if it does not occur again behind its first place. -/
theorem count_eq_one_iff {sep : Char} {text : List Char} :
    text.count sep = 1 ↔ sep ∈ text ∧ sep ∉ (text.dropWhile (· ≠ sep)).tail := by
  induction text with
  | nil => simp
  | cons c rest ih =>
    by_cases hc : c = sep
    · simp [hc, List.count_eq_zero]
    · rw [List.count_cons_of_ne hc, ih]
      simp [hc, Ne.symm hc]

end Text

namespace Log.Counter

open Numeral.Signed64

def timeField (line : List Char) : List Char := line.takeWhile (· ≠ ';')

def valueField (line : List Char) : List Char := (line.dropWhile (· ≠ ';')).tail

theorem timeAndValue?_eq (line : List Char) :
    timeAndValue? line = if line.count ';' = 1 then some (timeField line, valueField line) else none := by
  rw [timeAndValue?, Text.splitOnce?_eq]
  by_cases hmem : ';' ∈ line
  · by_cases hvalue : ';' ∈ valueField line
    · simp [hmem, Text.count_eq_one_iff, timeField, valueField, Option.filter]
    · simp [hmem, Text.count_eq_one_iff, timeField, valueField, Option.filter]
  · simp [hmem, Text.count_eq_one_iff]

/-! ### What a log says -/

/-- The 64-bit integer before the first semicolon, blanks around it left aside. -/
def time? (line : List Char) : Option Int := (Numeral.readSigned64 (timeField line)).toOption

/-- The 64-bit integer behind the first semicolon, blanks around it left aside. -/
def count? (line : List Char) : Option Int := (Numeral.readSigned64 (valueField line)).toOption

/-- The time of the line is not before `start`. -/
def IsFrom (start : Int) (line : List Char) : Prop := ∃ time ∈ time? line, start ≤ time

instance (start : Int) (line : List Char) : Decidable (IsFrom start line) :=
  inferInstanceAs (Decidable (∃ time ∈ time? line, start ≤ time))

/-- What a line must be to be summed or passed over. -/
structure Countable (start : Int) (line : List Char) : Prop where
  semicolon : line.count ';' = 1
  time : (time? line).isSome
  count : IsFrom start line → (count? line).isSome

/-- The counts of the lines whose time is not before `start`, in order. -/
def countsFrom (start : Int) (lines : List (List Char)) : List Int :=
  lines.filterMap fun line => if IsFrom start line then count? line else none

example : countsFrom 10 ["9;x".toList, "10;4".toList, " 11 ; -6".toList] = [4, -6] := by decide

/-- What a counter log must be for its counts from `start` on to be summed. -/
structure WellFormed (start : Int) (log : Bytes) : Prop where
  utf8 : ∀ line ∈ lines log, (decode? line).isSome
  countable : ∀ line ∈ texts log, Countable start line
  sums : FitsAlong 0 (countsFrom start (texts log))

variable {start total total' time : Int} {line : List Char} {log : Bytes}

/-! ### One line -/

theorem countsFrom_cons (start : Int) (line : List Char) (rest : List (List Char)) :
    countsFrom start (line :: rest) = countsFrom start [line] ++ countsFrom start rest := by
  rw [countsFrom, countsFrom, countsFrom, ← List.filterMap_append, List.singleton_append]

theorem countsFrom_of_isFrom {count : Int} (h : IsFrom start line) (hcount : count? line = some count) :
    countsFrom start [line] = [count] := by
  simp [countsFrom, h, hcount]

theorem countsFrom_of_not_isFrom (h : ¬ IsFrom start line) : countsFrom start [line] = [] := by
  simp [countsFrom, h]

theorem isFrom_iff (h : time? line = some time) : IsFrom start line ↔ start ≤ time := by
  simp [IsFrom, h]

theorem readColumn_timeField_eq_ok_iff : readColumn .time (timeField line) = .ok time ↔ time? line = some time := by
  rw [readColumn_eq_ok_iff, time?]
  cases Numeral.readSigned64 (timeField line) <;> simp [Except.toOption]

theorem readColumn_valueField_eq_ok_iff {count : Int} :
    readColumn .count (valueField line) = .ok count ↔ count? line = some count := by
  rw [readColumn_eq_ok_iff, count?]
  cases Numeral.readSigned64 (valueField line) <;> simp [Except.toOption]

theorem sumStep_of_count_eq_one (h : line.count ';' = 1) : sumStep start total line = .ok total' ↔
    ∃ time, time? line = some time ∧
      if start ≤ time then ∃ count, count? line = some count ∧ Fits (total + count) ∧ total' = total + count
      else total' = total := by
  unfold sumStep
  rw [timeAndValue?_eq, if_pos h]
  simp only [Except.bind_eq_ok_iff, readColumn_timeField_eq_ok_iff]
  refine exists_congr fun time => and_congr_right fun _ => ?_
  split
  · simp only [Except.bind_eq_ok_iff, readColumn_valueField_eq_ok_iff, sum_eq_ok_iff, and_comm (a := Fits _)]
  · rw [Except.pure_eq_ok, Except.ok.injEq, eq_comm]

/-- A line adds its count if its time is not before `start`; a count that is not added is not looked at. -/
theorem sumStep_eq_ok_iff (hfits : Fits total) : sumStep start total line = .ok total' ↔
    Countable start line ∧ FitsAlong total (countsFrom start [line]) ∧
      total' = total + (countsFrom start [line]).sum := by
  by_cases hone : line.count ';' = 1
  · rw [sumStep_of_count_eq_one hone]
    constructor
    · rintro ⟨time, htime, h⟩
      split at h
      · rename_i hle
        obtain ⟨count, hcount, hsum, rfl⟩ := h
        rw [countsFrom_of_isFrom ((isFrom_iff htime).2 hle) hcount, fitsAlong_cons, fitsAlong_nil]
        exact ⟨⟨hone, by simp [htime], fun _ => by simp [hcount]⟩, ⟨hfits, hsum⟩, by simp⟩
      · rename_i hlt
        have hbefore : ¬ IsFrom start line := mt (isFrom_iff htime).1 hlt
        rw [countsFrom_of_not_isFrom hbefore, fitsAlong_nil]
        exact ⟨⟨hone, by simp [htime], fun hfrom => absurd hfrom hbefore⟩, hfits, by simp [h]⟩
    · rintro ⟨hline, halong, rfl⟩
      obtain ⟨time, htime⟩ := Option.isSome_iff_exists.1 hline.time
      refine ⟨time, htime, ?_⟩
      split
      · rename_i hle
        have hfrom : IsFrom start line := (isFrom_iff htime).2 hle
        obtain ⟨count, hcount⟩ := Option.isSome_iff_exists.1 (hline.count hfrom)
        rw [countsFrom_of_isFrom hfrom hcount, fitsAlong_cons, fitsAlong_nil] at halong
        rw [countsFrom_of_isFrom hfrom hcount]
        exact ⟨count, hcount, halong.2, by simp⟩
      · rename_i hlt
        rw [countsFrom_of_not_isFrom (mt (isFrom_iff htime).1 hlt)]
        simp
  · have hrefused : sumStep start total line = .error .notTwoFields := by
      unfold sumStep
      rw [timeAndValue?_eq, if_neg hone]
    rw [hrefused]
    exact iff_of_false nofun fun h => hone h.1.semicolon

/-! ### All lines -/

theorem foldlM_sumStep_eq_ok_iff {lines : List (List Char)} (hfits : Fits total) :
    lines.foldlM (sumStep start) total = .ok total' ↔ (∀ line ∈ lines, Countable start line) ∧
      FitsAlong total (countsFrom start lines) ∧ total' = total + (countsFrom start lines).sum := by
  induction lines generalizing total with
  | nil => simp [countsFrom, hfits, eq_comm (a := total')]
  | cons line rest ih =>
    rw [List.foldlM_cons, Except.bind_eq_ok_iff, List.forall_mem_cons, countsFrom_cons, fitsAlong_append,
      List.sum_append, ← Int.add_assoc]
    constructor
    · rintro ⟨mid, hline, h⟩
      obtain ⟨hcountable, halong, rfl⟩ := (sumStep_eq_ok_iff hfits).1 hline
      obtain ⟨hrest, halong', rfl⟩ := (ih halong.fits_sum).1 h
      exact ⟨⟨hcountable, hrest⟩, ⟨halong, halong'⟩, rfl⟩
    · rintro ⟨⟨hcountable, hrest⟩, ⟨halong, halong'⟩, rfl⟩
      exact ⟨_, (sumStep_eq_ok_iff hfits).2 ⟨hcountable, halong, rfl⟩,
        (ih halong.fits_sum).2 ⟨hrest, halong', rfl⟩⟩

theorem sumFrom_eq_ok_iff : sumFrom start log = .ok total ↔
    WellFormed start log ∧ total = (countsFrom start (texts log)).sum := by
  rw [sumFrom, foldLines_eq_ok_iff, foldlM_sumStep_eq_ok_iff fits_zero, Int.zero_add]
  constructor
  · rintro ⟨hutf8, hcountable, hsums, rfl⟩
    exact ⟨⟨hutf8, hcountable, hsums⟩, rfl⟩
  · rintro ⟨h, rfl⟩
    exact ⟨h.utf8, h.countable, h.sums, rfl⟩

/-- The counts of a log from `start` on are summed exactly if the log is well formed, and then the result is their
exact sum, also if there is none. -/
theorem read_sumFrom_eq_ok_iff {result : Option Int} : read (.sumFrom start) log = .ok result ↔
    WellFormed start log ∧ result = some (countsFrom start (texts log)).sum := by
  rw [read, Except.map_eq_ok_iff]
  simp only [sumFrom_eq_ok_iff]
  constructor
  · rintro ⟨_, ⟨h, rfl⟩, rfl⟩
    exact ⟨h, rfl⟩
  · rintro ⟨h, rfl⟩
    exact ⟨_, ⟨h, rfl⟩, rfl⟩

end Log.Counter

end RunCharts
