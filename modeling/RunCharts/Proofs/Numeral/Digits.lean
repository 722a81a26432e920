import RunCharts.Numeral.Integer
import RunCharts.Proofs.Text.Trim

/-! # Integers written in decimal

An integer that fits reads back from its decimal digits (`readInteger_repr`), with blanks around them or without
(`readSigned64_repr`). -/

namespace RunCharts

theorem isDigit_of_mem_repr {n : Nat} {c : Char} (h : c ∈ n.repr.toList) : c.isDigit = true := by
  rw [Nat.toList_repr] at h
  exact Nat.isDigit_of_mem_toDigits (by decide) (by decide) h

/-- The decimal digits of an integer, behind a sign if it is negative. -/
theorem toList_repr (n : Int) :
    n.repr.toList = if n < 0 then '-' :: n.natAbs.repr.toList else n.natAbs.repr.toList := by
  cases n with
  | ofNat n => rfl
  | negSucc n =>
    rw [if_pos (Int.negSucc_lt_zero n)]
    simp [Int.repr]

theorem eq_minus_or_isDigit_of_mem_repr {n : Int} {c : Char} (h : c ∈ n.repr.toList) :
    c = '-' ∨ c.isDigit = true := by
  rw [toList_repr] at h
  split at h
  · exact (List.mem_cons.1 h).imp_right isDigit_of_mem_repr
  · exact .inr (isDigit_of_mem_repr h)

theorem repr_toList_ne_nil (n : Int) : n.repr.toList ≠ [] := by
  rw [toList_repr, Nat.toList_repr]
  split
  · exact List.cons_ne_nil _ _
  · exact Nat.toDigits_ne_nil

namespace Numeral

theorem digitValue?_of_isDigit {c : Char} (h : c.isDigit = true) :
    Text.digitValue? c = some (c.toNat - '0'.toNat) := by
  rw [Text.digitValue?, if_pos h]

theorem le_ofDigitChars (digits : List Char) (value : Nat) : value ≤ Nat.ofDigitChars 10 digits value := by
  induction digits generalizing value with
  | nil => exact Nat.le_refl _
  | cons c rest ih =>
    rw [Nat.ofDigitChars_cons]
    have := ih (10 * value + (c.toNat - '0'.toNat))
    omega

/-- Digits lead to their number, if that stays below the bound: no digit makes it less. -/
theorem digitsUp_eq {greatest : Int} {digits : List Char} {value : Nat}
    (hdigits : ∀ c ∈ digits, c.isDigit = true) (h : (Nat.ofDigitChars 10 digits value : Int) ≤ greatest) :
    digitsUp greatest value digits = .ok (Nat.ofDigitChars 10 digits value : Int) := by
  induction digits generalizing value with
  | nil => rfl
  | cons c rest ih =>
    obtain ⟨hc, hrest⟩ := List.forall_mem_cons.1 hdigits
    rw [Nat.ofDigitChars_cons] at h ⊢
    -- the digits that follow cannot bring the number back below the bound
    have hle := le_ofDigitChars rest (10 * value + (c.toNat - '0'.toNat))
    have hnext : 10 * (value : Int) + ((c.toNat - '0'.toNat : Nat) : Int) =
        ((10 * value + (c.toNat - '0'.toNat) : Nat) : Int) := by push_cast; rfl
    rw [digitsUp, digitValue?_of_isDigit hc]
    dsimp only
    rw [hnext, if_pos (by omega)]
    exact ih hrest h

theorem digitsUp_eq_ok_iff {greatest n : Int} {digits : List Char} {value : Nat} (h : (value : Int) ≤ greatest) :
    digitsUp greatest value digits = .ok n ↔
      (∀ c ∈ digits, c.isDigit = true) ∧ n = Nat.ofDigitChars 10 digits value ∧ n ≤ greatest := by
  constructor
  · intro hread
    induction digits generalizing value with
    | nil =>
      cases hread
      exact ⟨nofun, rfl, h⟩
    | cons c rest ih =>
      rw [digitsUp, Text.digitValue?] at hread
      by_cases hc : c.isDigit = true
      · rw [if_pos hc] at hread
        dsimp only at hread
        split at hread
        · rename_i hnext
          have hcast : 10 * (value : Int) + ((c.toNat - '0'.toNat : Nat) : Int) =
              ((10 * value + (c.toNat - '0'.toNat) : Nat) : Int) := by push_cast; rfl
          rw [hcast] at hread hnext
          obtain ⟨hrest, hn, hle⟩ := ih hnext hread
          exact ⟨List.forall_mem_cons.2 ⟨hc, hrest⟩, hn, hle⟩
        · cases hread
      · rw [if_neg hc] at hread
        cases hread
  · rintro ⟨hdigits, rfl, hle⟩
    exact digitsUp_eq hdigits hle

theorem digitsDown_eq {least : Int} {digits : List Char} {value : Nat}
    (hdigits : ∀ c ∈ digits, c.isDigit = true) (h : least ≤ -(Nat.ofDigitChars 10 digits value : Int)) :
    digitsDown least (-(value : Int)) digits = .ok (-(Nat.ofDigitChars 10 digits value : Int)) := by
  induction digits generalizing value with
  | nil => rfl
  | cons c rest ih =>
    obtain ⟨hc, hrest⟩ := List.forall_mem_cons.1 hdigits
    rw [Nat.ofDigitChars_cons] at h ⊢
    have hle := le_ofDigitChars rest (10 * value + (c.toNat - '0'.toNat))
    have hnext : 10 * -(value : Int) - ((c.toNat - '0'.toNat : Nat) : Int) =
        -((10 * value + (c.toNat - '0'.toNat) : Nat) : Int) := by push_cast; omega
    rw [digitsDown, digitValue?_of_isDigit hc]
    dsimp only
    rw [hnext, if_pos (by omega)]
    exact ih hrest h

theorem readInteger_of_ne {least greatest : Int} {c : Char} {rest : List Char} (hplus : c ≠ '+') (hminus : c ≠ '-') :
    readInteger least greatest (c :: rest) = digitsUp greatest 0 (c :: rest) := by
  unfold readInteger
  split <;> simp_all

theorem readInteger_of_digits {least greatest : Int} {c : Char} {rest : List Char} (hc : c.isDigit = true) :
    readInteger least greatest (c :: rest) = digitsUp greatest 0 (c :: rest) := by
  have hplus : c ≠ '+' := by rintro rfl; exact absurd hc (by decide)
  have hminus : c ≠ '-' := by rintro rfl; exact absurd hc (by decide)
  exact readInteger_of_ne hplus hminus

theorem readInteger_repr {least greatest n : Int} (hleast : least ≤ n) (hgreatest : n ≤ greatest) :
    readInteger least greatest n.repr.toList = .ok n := by
  have hvalue : Nat.ofDigitChars 10 n.natAbs.repr.toList 0 = n.natAbs := by
    rw [Nat.toList_repr]
    exact Nat.ofDigitChars_toDigits (by decide) (by decide)
  have hdigits : ∀ c ∈ n.natAbs.repr.toList, c.isDigit = true := fun c h => isDigit_of_mem_repr h
  obtain ⟨c, rest, hcons⟩ : ∃ c rest, n.natAbs.repr.toList = c :: rest := by
    rw [Nat.toList_repr]
    exact List.exists_cons_of_ne_nil Nat.toDigits_ne_nil
  rw [toList_repr]
  split
  · have hneg : -(Nat.ofDigitChars 10 n.natAbs.repr.toList 0 : Int) = n := by omega
    have hdown := digitsDown_eq hdigits (hleast.trans_eq hneg.symm)
    rw [hneg, hcons] at hdown
    rw [hcons]
    exact hdown
  · have hpos : (Nat.ofDigitChars 10 n.natAbs.repr.toList 0 : Int) = n := by omega
    have hup := digitsUp_eq hdigits (hpos.trans_le hgreatest)
    rw [hpos, hcons] at hup
    rw [hcons, readInteger_of_digits (hdigits c (by simp [hcons]))]
    exact hup

theorem isDecimalDigit_of_isDigit {c : Char} (h : c.isDigit = true) : Text.isDecimalDigit c = true := by
  obtain ⟨hleast, hgreatest⟩ := Char.isDigit_iff_toNat.1 h
  have hzero : '0'.toNat = 48 := rfl
  have hnine : '9'.toNat = 57 := rfl
  simp only [Text.isDecimalDigit, Text.decimalDigitRanges, Text.CodeRanges.has, List.any_cons, Bool.or_eq_true,
    Bool.and_eq_true, decide_eq_true_eq]
  exact .inl ⟨by omega, by omega⟩

theorem isBlank_of_isDigit {c : Char} (h : c.isDigit = true) : Text.isBlank c = false := by
  obtain ⟨hleast, hgreatest⟩ := Char.isDigit_iff_toNat.1 h
  have hzero : '0'.toNat = 48 := rfl
  have hnine : '9'.toNat = 57 := rfl
  simp only [Text.isBlank, Text.blankRanges, Text.CodeRanges.has, List.any_cons, List.any_nil, Bool.or_false,
    Bool.or_eq_false_iff, Bool.and_eq_false_iff, decide_eq_false_iff_not]
  omega

theorem isBlank_of_mem_repr {n : Int} {c : Char} (h : c ∈ n.repr.toList) : Text.isBlank c = false := by
  rcases eq_minus_or_isDigit_of_mem_repr h with rfl | hdigit
  · decide
  · exact isBlank_of_isDigit hdigit

/-- Blanks around the digits say nothing. -/
theorem readSigned64_repr {n : Int} (h : Signed64.Fits n) {front back : List Char}
    (hfront : ∀ c ∈ front, Text.isBlank c = true) (hback : ∀ c ∈ back, Text.isBlank c = true) :
    readSigned64 (front ++ n.repr.toList ++ back) = .ok n := by
  rw [readSigned64, Text.trim_append_append hfront (repr_toList_ne_nil n) (fun _ => isBlank_of_mem_repr) hback,
    readInteger_repr h.1 h.2]

end Numeral

end RunCharts
