import Mathlib.Order.Bounds.Basic
import RunCharts.Proofs.Float.Whole
import RunCharts.Proofs.Log.Counts

/-! # The peak of a counter log

The peak of a log is the greatest of its values. Every line needs one, and a log without lines has no peak
(`peak_eq_ok_iff`). The value of a line is the finite double behind its only semicolon, cut toward zero and clamped to 64
signed bits (`value?_eq`), and so is the peak (`read_peak_eq_ok_iff`): it starts from the first line and not from zero,
so that negative values alone have a negative peak. -/

namespace RunCharts.Log.Counter

/-- The value of a line with exactly one semicolon. -/
def value? (line : List Char) : Option Int :=
  if line.count ';' = 1 then (readValue (valueField line)).toOption else none

def values (lines : List (List Char)) : List Int := lines.filterMap value?

variable {peak? peak?' : Option Int} {line : List Char} {lines : List (List Char)}

theorem peakStep_eq_ok_iff : peakStep peak? line = .ok peak?' ↔
    ∃ value, value? line = some value ∧ peak?' = (peak?.toList ++ [value]).max? := by
  unfold peakStep value?
  rw [timeAndValue?_eq]
  by_cases hone : line.count ';' = 1
  · simp only [hone, ↓reduceIte]
    have hmax (value : Int) : some (peak?.elim value (max · value)) = (peak?.toList ++ [value]).max? := by
      cases peak? <;> rfl
    cases readValue (valueField line) with
    | error reason => simp [Except.toOption]
    | ok value => simp [Except.toOption, hmax, eq_comm (a := peak?')]
  · simp [hone]

theorem max?_append (front back : List Int) : (front ++ back).max? = (front.max?.toList ++ back).max? := by
  cases front with
  | nil => rfl
  | cons n front =>
    rw [List.cons_append, List.max?_cons', List.foldl_append, List.max?_cons', Option.toList_some,
      List.singleton_append, List.max?_cons']

theorem foldlM_peakStep_eq_ok_iff : lines.foldlM peakStep peak? = .ok peak?' ↔
    (∀ line ∈ lines, (value? line).isSome) ∧ peak?' = (peak?.toList ++ values lines).max? := by
  induction lines generalizing peak? with
  | nil => cases peak? <;> simp [values, eq_comm (a := peak?')]
  | cons line rest ih =>
    rw [List.foldlM_cons, Except.bind_eq_ok_iff, List.forall_mem_cons]
    simp only [peakStep_eq_ok_iff, ih]
    cases hvalue : value? line with
    | none => simp
    | some value =>
      have hcons : values (line :: rest) = [value] ++ values rest := by simp [values, hvalue]
      rw [hcons, ← List.append_assoc, max?_append (peak?.toList ++ [value])]
      simp

theorem peak_eq_ok_iff {log : Bytes} : peak log = .ok peak? ↔ (∀ line ∈ Log.lines log, (decode? line).isSome) ∧
    (∀ line ∈ texts log, (value? line).isSome) ∧ peak? = (values (texts log)).max? := by
  rw [peak, foldLines_eq_ok_iff, foldlM_peakStep_eq_ok_iff]
  rfl

/-! ### What the lines say -/

/-- The finite double behind the only semicolon of a line, blanks around it left aside. -/
def real? (line : List Char) : Option Float :=
  if line.count ';' = 1 then
    (Numeral.readReal (Text.trim (valueField line))).toOption.filter Float.isFinite
  else none

def whole (x : Float) : Int :=
  max Numeral.Signed64.least (min Numeral.Signed64.greatest (towardZero (Decimal.Binary64.toRat x)))

/-- What a counter log must be for each of its lines to have a value. -/
structure HasReals (log : Bytes) : Prop where
  utf8 : ∀ line ∈ Log.lines log, (decode? line).isSome
  real : ∀ line ∈ texts log, (real? line).isSome

theorem toOption_readValue (field : List Char) : (readValue field).toOption =
    ((Numeral.readReal (Text.trim field)).toOption.filter Float.isFinite).map whole := by
  unfold readValue
  cases Numeral.readReal (Text.trim field) with
  | error error => rfl
  | ok x =>
    dsimp only [Except.toOption]
    have hfinite := Decimal.Binary64.isFinite_iff (x := x)
    have hcut := Decimal.Binary64.toIntClamped_ofFloat (x := x)
    cases hx : Decimal.Binary64.ofFloat x with
    | finite negative magnitude =>
      rw [hx] at hcut
      have h : x.isFinite = true := hfinite.2 ⟨negative, magnitude, hx⟩
      simp [h, hcut, whole]
    | nan | infinite _ =>
      have h : x.isFinite = false := by simpa [hx] using hfinite
      simp [h]

theorem value?_eq (line : List Char) : value? line = (real? line).map whole := by
  unfold value? real?
  split
  · exact toOption_readValue (valueField line)
  · rfl

theorem mem_values_iff {n : Int} : n ∈ values lines ↔ ∃ line ∈ lines, ∃ x ∈ real? line, n = whole x := by
  unfold values
  simp only [List.mem_filterMap, value?_eq, Option.map_eq_some_iff, Option.mem_def, eq_comm (a := n)]

theorem hasReals_iff {log : Bytes} : HasReals log ↔
    (∀ line ∈ Log.lines log, (decode? line).isSome) ∧ ∀ line ∈ texts log, (value? line).isSome := by
  simp only [value?_eq, Option.isSome_map]
  exact ⟨fun h => ⟨h.utf8, h.real⟩, fun h => ⟨h.1, h.2⟩⟩

theorem read_peak_eq_iff {log : Bytes} :
    read .peak log = .ok peak? ↔ HasReals log ∧ peak? = (values (texts log)).max? := by
  rw [read, peak_eq_ok_iff, hasReals_iff, and_assoc]

theorem HasReals.length_values {log : Bytes} (h : HasReals log) :
    (values (texts log)).length = (Log.lines log).length := by
  have hvalue := (hasReals_iff.1 h).2
  unfold values
  rw [List.filterMap_length_eq_length.2 hvalue]
  unfold texts
  rw [List.filterMap_length_eq_length.2 h.utf8]

/-- A log has a peak if it has a line and a finite number on each of its lines. The peak is then attained and not
exceeded by the number on any line, each cut toward zero and clamped to 64 signed bits. -/
theorem read_peak_eq_ok_iff {log : Bytes} :
    ((∃ result, read .peak log = .ok result) ↔ HasReals log) ∧ (read .peak log = .ok none ↔ Log.lines log = []) ∧
    ∀ m, read .peak log = .ok (some m) ↔
      HasReals log ∧ IsGreatest {n | ∃ line ∈ texts log, ∃ x ∈ real? line, n = whole x} m := by
  refine ⟨?_, ?_, fun m => ?_⟩
  · simp only [read_peak_eq_iff]
    exact ⟨fun ⟨_, h, _⟩ => h, fun h => ⟨_, h, rfl⟩⟩
  · rw [read_peak_eq_iff, eq_comm, List.max?_eq_none_iff]
    constructor
    · rintro ⟨h, hnil⟩
      rw [← List.length_eq_zero_iff, ← h.length_values, hnil]
      rfl
    · intro hnil
      have htexts : texts log = [] := by simp [texts, hnil]
      rw [htexts]
      exact ⟨⟨by simp [hnil], by simp [htexts]⟩, rfl⟩
  · rw [read_peak_eq_iff, eq_comm, List.max?_eq_some_iff]
    simp only [mem_values_iff]
    rfl

example : read .peak [59, 45, 49, 50, 46, 55, 10, 48, 59, 45, 49, 46, 53, 101, 48] = .ok (some (-1)) := by
  decide +kernel

end RunCharts.Log.Counter
