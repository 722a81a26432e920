import Mathlib.Algebra.Ring.Int.Defs
import RunCharts.Log.Line
import RunCharts.Proofs.FirstError

/-! # Sums that are checked at each step

A sum of 64-bit integers is refused as soon as one of its running sums does not fit, even if the total
would. Only where no number is negative may they be added in any order (`fitsAlong_of_perm`). -/

namespace RunCharts

namespace Numeral.Signed64

/-- Every running sum of the numbers fits, where `start` is what they are added to. -/
def FitsAlong (start : Int) (numbers : List Int) : Prop :=
  ∀ taken, taken <+: numbers → Fits (start + taken.sum)

theorem fits_zero : Fits 0 := by decide

variable {start n : Int} {numbers : List Int}

theorem FitsAlong.fits (h : FitsAlong start numbers) : Fits start := by
  simpa using h [] List.nil_prefix

theorem FitsAlong.fits_sum (h : FitsAlong start numbers) : Fits (start + numbers.sum) :=
  h numbers List.prefix_rfl

@[simp] theorem fitsAlong_nil : FitsAlong start [] ↔ Fits start := by
  simp [FitsAlong]

theorem fitsAlong_cons : FitsAlong start (n :: numbers) ↔ Fits start ∧ FitsAlong (start + n) numbers := by
  constructor
  · intro h
    refine ⟨h.fits, fun taken htaken => ?_⟩
    have := h (n :: taken) (List.cons_prefix_cons.2 ⟨rfl, htaken⟩)
    rwa [List.sum_cons, ← Int.add_assoc] at this
  · rintro ⟨hstart, h⟩ taken htaken
    rcases List.prefix_cons_iff.1 htaken with rfl | ⟨rest, rfl, hrest⟩
    · simpa using hstart
    · rw [List.sum_cons, ← Int.add_assoc]
      exact h rest hrest

theorem fitsAlong_append {more : List Int} :
    FitsAlong start (numbers ++ more) ↔ FitsAlong start numbers ∧ FitsAlong (start + numbers.sum) more := by
  induction numbers generalizing start with
  | nil =>
    simp only [List.nil_append, fitsAlong_nil, List.sum_nil, Int.add_zero]
    exact ⟨fun h => ⟨h.fits, h⟩, And.right⟩
  | cons n numbers ih =>
    rw [List.cons_append, fitsAlong_cons, fitsAlong_cons, ih, List.sum_cons, ← Int.add_assoc, and_assoc]

/-- The order does not matter where no number is negative: no running sum is greater than a later one. -/
theorem fitsAlong_of_perm (start : Int) {others : List Int} (hperm : numbers.Perm others)
    (h : ∀ n ∈ numbers, 0 ≤ n) : FitsAlong start numbers ↔ FitsAlong start others := by
  induction hperm generalizing start with
  | nil => exact Iff.rfl
  | cons n _ ih =>
    rw [fitsAlong_cons, fitsAlong_cons, ih (start + n) fun m hm => h m (List.mem_cons_of_mem n hm)]
  | swap m n rest =>
    have hn := h n (by simp)
    have hm := h m (by simp)
    have hswap : start + n + m = start + m + n := by omega
    simp only [fitsAlong_cons, hswap]
    -- The sum of both numbers bounds the sum of either.
    constructor
    · rintro ⟨hstart, -, hrest⟩
      refine ⟨hstart, ?_, hrest⟩
      have := hrest.fits
      unfold Fits at *
      omega
    · rintro ⟨hstart, -, hrest⟩
      refine ⟨hstart, ?_, hrest⟩
      have := hrest.fits
      unfold Fits at *
      omega
  | trans hfirst _ ih₁ ih₂ => rw [ih₁ start h, ih₂ start fun n hn => h n (hfirst.mem_iff.2 hn)]

end Numeral.Signed64

namespace Log

open Numeral.Signed64

theorem sum_eq_ok_iff {a b c : Int} : sum a b = .ok c ↔ c = a + b ∧ Fits (a + b) := by
  unfold sum
  split
  · rename_i d h
    obtain ⟨rfl, hfits⟩ := add?_eq_some_iff.1 h
    simp [hfits, eq_comm]
  · rename_i h
    simp [add?_eq_none_iff.1 h]

theorem readColumn_eq_ok_iff {column : Column} {field : List Char} {n : Int} :
    readColumn column field = .ok n ↔ Numeral.readSigned64 field = .ok n :=
  Except.mapError_eq_ok_iff

end Log

end RunCharts
