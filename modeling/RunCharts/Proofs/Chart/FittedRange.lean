import Mathlib.Algebra.Order.Ring.Rat
import Mathlib.Data.List.Forall2
import Mathlib.Tactic.Linarith
import Mathlib.Tactic.NormNum
import RunCharts.Chart.Basic

/-! # The fitted range of the y axis

Over exact numbers the highest of the tops is the least number, zero or above, that none of them exceeds
(`highest_le_iff`). So a fitted axis depends on nothing but the tops that there are, reaches above all of them, and
does not shrink where bars are raised (`Chart.fitsBars_of_fitted`). -/

namespace RunCharts

variable {tops tops' : List ℚ} {top bound headroom : ℚ}

theorem foldl_higher_le_iff {high : ℚ} :
    tops.foldl (fun high top => if high < top then top else high) high ≤ bound ↔
      high ≤ bound ∧ ∀ top ∈ tops, top ≤ bound := by
  induction tops generalizing high with
  | nil => simp
  | cons top rest ih =>
    rw [List.foldl_cons, ih, List.forall_mem_cons, ← and_assoc]
    refine and_congr_left' ?_
    split
    · rename_i hlt
      exact ⟨fun h => ⟨hlt.le.trans h, h⟩, And.right⟩
    · rename_i hle
      exact ⟨fun h => ⟨h, (not_lt.1 hle).trans h⟩, And.left⟩

theorem highest_le_iff : highest tops ≤ bound ↔ 0 ≤ bound ∧ ∀ top ∈ tops, top ≤ bound :=
  foldl_higher_le_iff

theorem highest_nonneg (tops : List ℚ) : 0 ≤ highest tops := (highest_le_iff.1 le_rfl).1

theorem le_highest (h : top ∈ tops) : top ≤ highest tops := (highest_le_iff.1 le_rfl).2 top h

theorem highest_perm (h : tops.Perm tops') : highest tops = highest tops' :=
  eq_of_forall_ge_iff fun bound => by simp only [highest_le_iff, h.mem_iff]

theorem highest_mono (h : List.Forall₂ (· ≤ ·) tops tops') : highest tops ≤ highest tops' := by
  refine highest_le_iff.2 ⟨highest_nonneg tops', fun top htop => ?_⟩
  obtain ⟨i, hi, rfl⟩ := List.getElem_of_mem htop
  have hi' : i < tops'.length := h.length_eq ▸ hi
  exact (h.get hi hi').trans (le_highest (List.getElem_mem hi'))

theorem fittedTop_pos (headroom : ℚ) (tops : List ℚ) : 0 < fittedTop headroom tops := by
  unfold fittedTop
  dsimp only
  split
  · assumption
  · exact one_pos

/-- The axis ends a twentieth and the headroom above the highest top, or at one where that is higher. -/
theorem le_fittedTop (headroom : ℚ) (tops : List ℚ) :
    highest tops * 1.05 + headroom ≤ fittedTop headroom tops := by
  unfold fittedTop
  dsimp only
  split
  · exact le_rfl
  · rename_i hlow
    exact (not_lt.1 hlow).trans zero_le_one

theorem highest_le_fittedTop (hheadroom : 0 ≤ headroom) (tops : List ℚ) : highest tops ≤ fittedTop headroom tops := by
  have hnonneg := highest_nonneg tops
  have hend := le_fittedTop headroom tops
  norm_num at hend
  linarith

theorem fittedTop_of_pos (hheadroom : 0 ≤ headroom) (hpos : 0 < headroom ∨ 0 < highest tops) :
    fittedTop headroom tops = highest tops * 1.05 + headroom := by
  have hnonneg := highest_nonneg tops
  refine if_pos ?_
  norm_num
  rcases hpos with hpos | hpos <;> linarith

theorem fittedTop_mono (hheadroom : 0 ≤ headroom) (hpos : 0 < headroom ∨ 0 < highest tops)
    (h : highest tops ≤ highest tops') : fittedTop headroom tops ≤ fittedTop headroom tops' := by
  have hend := le_fittedTop headroom tops'
  rw [fittedTop_of_pos hheadroom hpos]
  norm_num at hend ⊢
  linarith

/-- The one bar is the other with its mean, its deviation, or both raised. -/
def Bar.RaisedTo (bar bar' : Bar ℚ) : Prop := bar.mean ≤ bar'.mean ∧ bar.stdDev ≤ bar'.stdDev

namespace Chart

variable {chart other : Chart ℚ}

/-- What a fitted axis is to the bars of its chart. -/
structure FitsBars (chart : Chart ℚ) (headroom : ℚ) : Prop where
  low : chart.yBounds.1 = 0
  high : 0 < chart.yBounds.2
  shows : 0 ≤ headroom → ∀ bar ∈ chart.bars, bar.mean + bar.stdDev ≤ chart.yBounds.2
  /-- The same bars may come in any order, in series in any order, and each of them in any series. -/
  rearranged : ∀ other : Chart ℚ, other.yRange = .fitted headroom → other.bars.Perm chart.bars →
    other.yBounds = chart.yBounds
  raised : 0 ≤ headroom → (0 < headroom ∨ ∃ bar ∈ chart.bars, 0 < bar.mean + bar.stdDev) →
    ∀ other : Chart ℚ, other.yRange = .fitted headroom → List.Forall₂ Bar.RaisedTo chart.bars other.bars →
      chart.yBounds.2 ≤ other.yBounds.2

theorem yBounds_of_fitted (h : chart.yRange = .fitted headroom) :
    chart.yBounds = (0, fittedTop headroom (chart.bars.map Bar.top)) := by
  rw [yBounds, h]

theorem fitsBars_of_fitted (h : chart.yRange = .fitted headroom) : chart.FitsBars headroom where
  low := by rw [yBounds_of_fitted h]
  high := by
    rw [yBounds_of_fitted h]
    exact fittedTop_pos _ _
  shows hheadroom bar hbar := by
    rw [yBounds_of_fitted h]
    exact (le_highest (List.mem_map_of_mem (f := Bar.top) hbar)).trans (highest_le_fittedTop hheadroom _)
  rearranged other hother hperm := by
    rw [yBounds_of_fitted h, yBounds_of_fitted hother, fittedTop, fittedTop, highest_perm (hperm.map Bar.top)]
  raised hheadroom hpos other hother hraised := by
    rw [yBounds_of_fitted h, yBounds_of_fitted hother]
    have htops : List.Forall₂ (· ≤ ·) (chart.bars.map Bar.top) (other.bars.map Bar.top) :=
      List.forall₂_map_left_iff.2 (List.forall₂_map_right_iff.2 (hraised.imp fun _ _ hbar => add_le_add hbar.1 hbar.2))
    refine fittedTop_mono hheadroom (hpos.imp_right ?_) (highest_mono htops)
    rintro ⟨bar, hbar, htop⟩
    exact htop.trans_le (le_highest (List.mem_map_of_mem (f := Bar.top) hbar))

/-- A chart of bars with the given means and deviations. -/
def ofMeans (headroom : ℚ) (series : List (List (ℚ × ℚ))) : Chart ℚ where
  series := series.map fun bars => ⟨none, .black, bars.map fun bar => ⟨0, bar.1, bar.2, .black⟩⟩
  barWidth := 1
  align := .edge
  xRange := (0, 1)
  yRange := .fitted headroom
  ticks := []
  xLabel := none
  yLabel := ""
  annotate := false

/-- A bar moves to the other series, and then the one below zero is raised to the top. -/
theorem fitsBars_ofMeans :
    (ofMeans 0 [[(-3, 1), (2, 0.5)], [(1, -4)]]).yRange = .fitted 0 ∧
      (ofMeans 0 [[(-3, 1), (2, 0.5)], [(1, -4)]]).yBounds = (0, 2.625) ∧
      (ofMeans 0 [[(1, -4), (-3, 1)], [(2, 0.5)]]).yBounds = (0, 2.625) ∧
      2.625 ≤ (ofMeans 0 [[(2, 1), (2, 0.5)], [(1, -4)]]).yBounds.2 := by
  have hbounds : (ofMeans 0 [[(-3, 1), (2, 0.5)], [(1, -4)]]).yBounds = (0, 2.625) := by decide +kernel
  have hfits : (ofMeans 0 [[(-3, 1), (2, 0.5)], [(1, -4)]]).FitsBars 0 := fitsBars_of_fitted rfl
  refine ⟨rfl, hbounds, ?_, ?_⟩
  · rw [← hbounds]
    have hmoved : ([⟨0, 1, -4, .black⟩] ++ [⟨0, -3, 1, .black⟩, ⟨0, 2, 0.5, .black⟩] : List (Bar ℚ)).Perm
        ([⟨0, -3, 1, .black⟩, ⟨0, 2, 0.5, .black⟩] ++ [⟨0, 1, -4, .black⟩]) := List.perm_append_comm
    exact hfits.rearranged _ rfl hmoved
  · have hraised := hfits.raised le_rfl (.inr ⟨⟨0, 2, 0.5, .black⟩, by simp [bars, ofMeans], by norm_num⟩)
      (ofMeans 0 [[(2, 1), (2, 0.5)], [(1, -4)]]) rfl
    rw [hbounds] at hraised
    refine hraised (.cons ?_ (.cons ?_ (.cons ?_ .nil))) <;> norm_num [Bar.RaisedTo]

/-- Where there is no headroom and no bar reaches above zero, raising a bar may lower the axis. -/
example : (ofMeans 0 [[(0, 0)]]).yBounds = (0, 1) ∧ (ofMeans 0 [[(0.5, 0)]]).yBounds = (0, 0.525) := by
  decide +kernel

end Chart

end RunCharts
