import RunCharts.Fault
import RunCharts.Log.Bandwidth
import RunCharts.Log.Counter
import RunCharts.Proofs.Log.Texts
import RunCharts.Proofs.Log.Pieces

/-! # The first line that is refused

A log is refused at the first line that cannot be read. The lines in front of it are a log that is accepted, and
what stands behind it has no influence (`refusesFirst_readers`).

All readers go through the lines with a step of their own, so that this is a fact about any step: the run over the
lines splits at the line that is refused (`readFrom_eq_error_iff`), which makes the number of the line the length of
what stands in front of it. -/

namespace RunCharts.Log

/-- The first `n` lines of a log, with their endings. -/
def firstLines (n : Nat) (log : Bytes) : Bytes := glue ((pieces log).take n)

theorem lines_firstLines (n : Nat) (log : Bytes) : lines (firstLines n log) = (lines log).take n := by
  rw [firstLines, lines_glue ((areClear_pieces log).sublist (List.take_sublist n _)), List.map_take,
    map_line_pieces]

theorem firstLines_append_glue_drop (n : Nat) (log : Bytes) :
    firstLines n log ++ glue ((pieces log).drop n) = log := by
  rw [firstLines, glue, glue, ← List.flatMap_append, List.take_append_drop]
  exact glue_pieces log

variable {σ α β : Type} {step : σ → List Char → Except Reason σ} {start mid : σ} {refusal : Refusal}

/-- Reads lines, the first of which has the number `n`. -/
def readFrom (step : σ → List Char → Except Reason σ) (n : Nat) (start : σ) (rest : List Bytes) : Except Refusal σ :=
  (rest.zipIdx n).foldlM (stepLine step) start

theorem foldLines_eq_readFrom (log : Bytes) : foldLines step start log = readFrom step 1 start (lines log) := rfl

theorem readFrom_append (n : Nat) (front behind : List Bytes) : readFrom step n start (front ++ behind) =
    readFrom step n start front >>= fun mid => readFrom step (n + front.length) mid behind := by
  rw [readFrom, List.zipIdx_append, List.foldlM_append, Nat.add_comm]
  rfl

theorem readFrom_cons (n : Nat) (line : Bytes) (behind : List Bytes) : readFrom step n start (line :: behind) =
    stepLine step start (line, n) >>= fun mid => readFrom step (n + 1) mid behind := rfl

/-- A refused line, with the lines in front of it that are read. -/
theorem readFrom_eq_error_iff {n : Nat} {rest : List Bytes} : readFrom step n start rest = .error refusal ↔
    ∃ front line behind mid, rest = front ++ line :: behind ∧ readFrom step n start front = .ok mid ∧
      stepLine step mid (line, n + front.length) = .error refusal := by
  constructor
  · intro h
    induction rest generalizing n start with
    | nil => cases h
    | cons line rest ih =>
      rw [readFrom_cons] at h
      cases hline : stepLine step start (line, n) with
      | error refusal' =>
        rw [hline, Except.error_bind] at h
        exact ⟨[], line, rest, start, rfl, rfl, hline.trans h⟩
      | ok next =>
        rw [hline, Except.ok_bind] at h
        obtain ⟨front, line', behind, mid, rfl, hfront, hline'⟩ := ih h
        refine ⟨line :: front, line', behind, mid, rfl, ?_, ?_⟩
        · rw [readFrom_cons, hline, Except.ok_bind, hfront]
        · rwa [List.length_cons, Nat.add_comm front.length, ← Nat.add_assoc]
  · rintro ⟨front, line, behind, mid, rfl, hfront, hline⟩
    rw [readFrom_append, hfront, Except.ok_bind, readFrom_cons, hline, Except.error_bind]

theorem exists_readFrom_of_append {n : Nat} {front behind : List Bytes}
    (h : readFrom step n start (front ++ behind) = .ok mid) : ∃ mid', readFrom step n start front = .ok mid' := by
  rw [readFrom_append] at h
  obtain ⟨mid', hfront, -⟩ := Except.bind_eq_ok_iff.1 h
  exact ⟨mid', hfront⟩

theorem stepLine_eq_malformed_iff {line : Bytes × Nat} {n : Nat} {reason : Reason} :
    stepLine step start line = .error (.malformed n reason) ↔
      n = line.2 ∧ ∃ text, decode? line.1 = some text ∧ step start text = .error reason := by
  unfold stepLine
  split
  · rename_i h
    simp [h]
  · rename_i text h
    simp only [h, Option.some.injEq, exists_eq_left']
    cases step start text <;> simp [Except.mapError, eq_comm]

theorem stepLine_eq_notUtf8_iff {line : Bytes × Nat} :
    stepLine step start line = .error .notUtf8 ↔ decode? line.1 = none := by
  unfold stepLine
  split
  · rename_i h
    simp [h]
  · rename_i text h
    simp only [h, reduceCtorEq, iff_false]
    cases step start text <;> simp [Except.mapError]

/-- A log is refused at its first line that cannot be read, whatever follows. -/
structure RefusesFirst (read : Files.Path → Bytes → Except Fault α) : Prop where
  faults : ∀ path log fault, read path log = .error fault →
    (∃ n reason, fault = .malformed path n reason) ∨ fault = .file path .notUtf8
  /-- The lines before a malformed one are accepted, and those behind it have no influence. -/
  malformed : ∀ path log n reason, read path log = .error (.malformed path n reason) →
    (1 ≤ n ∧ n ≤ (lines log).length) ∧
    (∀ part, lines part = (lines log).take (n - 1) → ∃ value, read path part = .ok value) ∧
    ∀ other, (lines other).take n = (lines log).take n → read path other = .error (.malformed path n reason)
  /-- The lines before the first one that is not UTF-8 are accepted. -/
  notUtf8 : ∀ path log, read path log = .error (.file path .notUtf8) →
    ∃ front line behind, lines log = front ++ line :: behind ∧ decode? line = none ∧
      (∀ line ∈ front, (decode? line).isSome) ∧ ∀ part, lines part = front → ∃ value, read path part = .ok value
  accepted : ∀ path log value, read path log = .ok value → ∀ n part, lines part = (lines log).take n →
    ∃ value', read path part = .ok value'

section

variable (step start) (result : σ → α) {path : Files.Path} {log : Bytes}

/-- What a reader that goes through the lines of a log makes of it. -/
def readWith (path : Files.Path) (log : Bytes) : Except Fault α :=
  ((foldLines step start log).map result).mapError (Fault.ofRefusal path)

variable {step start result}

theorem readWith_id : readWith step start id =
    fun path log => (foldLines step start log).mapError (Fault.ofRefusal path) := by
  funext path log
  rw [readWith, Except.map_id, id]

theorem exists_readWith_iff : (∃ value, readWith step start result path log = .ok value) ↔
    ∃ mid, readFrom step 1 start (lines log) = .ok mid := by
  simp only [readWith, Except.mapError_eq_ok_iff, Except.map_eq_ok_iff, foldLines_eq_readFrom]
  exact ⟨fun ⟨_, mid, h, _⟩ => ⟨mid, h⟩, fun ⟨mid, h⟩ => ⟨_, mid, h, rfl⟩⟩

theorem readWith_eq_error_iff {fault : Fault} : readWith step start result path log = .error fault ↔
    ∃ refusal, readFrom step 1 start (lines log) = .error refusal ∧ Fault.ofRefusal path refusal = fault := by
  rw [readWith, Except.mapError_eq_error_iff, foldLines_eq_readFrom]
  simp only [Except.map_eq_error_iff]

end

theorem ofRefusal_eq_malformed_iff {path : Files.Path} {n : Nat} {reason : Reason} :
    Fault.ofRefusal path refusal = .malformed path n reason ↔ refusal = .malformed n reason := by
  cases refusal <;> simp [Fault.ofRefusal]

theorem ofRefusal_eq_file_iff {path : Files.Path} :
    Fault.ofRefusal path refusal = .file path .notUtf8 ↔ refusal = .notUtf8 := by
  cases refusal <;> simp [Fault.ofRefusal]

theorem refusesFirst_readWith (step : σ → List Char → Except Reason σ) (start : σ) (result : σ → α) :
    RefusesFirst (readWith step start result) := by
  refine ⟨fun path log fault h => ?_, fun path log n reason h => ?_, fun path log h => ?_,
    fun path log value h n part hpart => ?_⟩
  · obtain ⟨refusal, -, rfl⟩ := readWith_eq_error_iff.1 h
    cases refusal with
    | malformed n reason => exact .inl ⟨n, reason, rfl⟩
    | notUtf8 => exact .inr rfl
  · obtain ⟨refusal, hrefusal, hfault⟩ := readWith_eq_error_iff.1 h
    rw [ofRefusal_eq_malformed_iff.1 hfault] at hrefusal
    obtain ⟨front, line, behind, mid, hlines, hfront, hline⟩ := readFrom_eq_error_iff.1 hrefusal
    obtain ⟨rfl, -⟩ := stepLine_eq_malformed_iff.1 hline
    dsimp only
    refine ⟨⟨by omega, by rw [hlines, List.length_append, List.length_cons]; omega⟩, fun part hpart => ?_,
      fun other hother => ?_⟩
    · have hfront' : (lines log).take (1 + front.length - 1) = front := by
        rw [hlines, Nat.add_sub_cancel_left, List.take_left]
      rw [exists_readWith_iff, hpart, hfront']
      exact ⟨mid, hfront⟩
    · have htake : (lines other).take (1 + front.length) = front ++ [line] := by
        rw [hother, hlines, Nat.add_comm, List.take_length_add_append]
        rfl
      rw [readWith_eq_error_iff]
      refine ⟨_, readFrom_eq_error_iff.2 ⟨front, line, (lines other).drop (1 + front.length), mid, ?_, hfront, hline⟩,
        rfl⟩
      rw [List.append_cons, ← htake, List.take_append_drop]
  · obtain ⟨refusal, hrefusal, hfault⟩ := readWith_eq_error_iff.1 h
    rw [ofRefusal_eq_file_iff.1 hfault] at hrefusal
    obtain ⟨front, line, behind, mid, hlines, hfront, hline⟩ := readFrom_eq_error_iff.1 hrefusal
    refine ⟨front, line, behind, hlines, stepLine_eq_notUtf8_iff.1 hline, ?_, fun part hpart => ?_⟩
    · exact (foldlM_stepLine_eq_ok_iff.1 hfront).1
    · rw [exists_readWith_iff, hpart]
      exact ⟨mid, hfront⟩
  · obtain ⟨mid, hread⟩ := exists_readWith_iff.1 ⟨value, h⟩
    rw [exists_readWith_iff, hpart]
    rw [← List.take_append_drop n (lines log)] at hread
    exact exists_readFrom_of_append hread

theorem refusesFirst_readers :
    (∀ windows threads, RefusesFirst fun path log =>
      (Bandwidth.read windows threads log).mapError (Fault.ofRefusal path)) ∧
    (∀ mode, RefusesFirst fun path log => (Counter.read mode log).mapError (Fault.ofRefusal path)) ∧
    (RefusesFirst fun path log => (ReplySizes.read log).mapError (Fault.ofRefusal path)) ∧
    ∀ n log, firstLines n log <+: log ∧ lines (firstLines n log) = (lines log).take n := by
  refine ⟨fun windows threads => ?_, fun mode => ?_, ?_, fun n log => ?_⟩
  · exact refusesFirst_readWith (Bandwidth.Tally.step windows) {} (·.perThread threads)
  · cases mode with
    | sumFrom start => exact refusesFirst_readWith (Counter.sumStep start) 0 some
    | peak =>
      have hpeak := refusesFirst_readWith Counter.peakStep none id
      rwa [readWith_id] at hpeak
  · have hreplies := refusesFirst_readWith ReplySizes.step {} id
    rwa [readWith_id] at hreplies
  · exact ⟨⟨_, firstLines_append_glue_drop n log⟩, lines_firstLines n log⟩

example : Counter.read .peak [49, 59, 50, 10, 51, 10, 255] = .error (.malformed 2 .notTwoFields) := by decide

end RunCharts.Log
