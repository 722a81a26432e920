import RunCharts.Chart.Layout
import RunCharts.Pdf.Page
import RunCharts.Svg.Drawing

/-! # Which charts can be pages

The numbers that a drawing adds to a chart can stand in any document. So a chart can be a page exactly if the
canvas has an area and the texts of the chart itself can stand there (`isSome_page?_draw`). -/

namespace RunCharts

/-- The texts that a chart brings along. -/
def Chart.texts (chart : Chart Float) : List String :=
  chart.yLabel :: (chart.xLabel.toList ++ chart.ticks.map (·.2) ++ chart.series.filterMap (·.label))

namespace Pdf

variable {c : Char}

/-! ### Numbers -/

theorem isXmlChar_of_isDigit (h : c.isDigit = true) : isXmlChar c = true := by
  simp only [Char.isDigit, Bool.and_eq_true, decide_eq_true_eq, ge_iff_le, UInt32.le_iff_toNat_le] at h
  have hdigit : 48 ≤ c.toNat ∧ c.toNat ≤ 57 := h
  have hallowed : 0x20 ≤ c.toNat ∧ c.toNat ≠ 0xFFFE ∧ c.toNat ≠ 0xFFFF := by omega
  rw [isXmlChar, decide_eq_true hallowed.1, decide_eq_true hallowed.2.1, decide_eq_true hallowed.2.2]
  exact Bool.or_true _

theorem isXmlChar_of_mem_placed {places units : Nat} (h : c ∈ Decimal.placed places units) :
    isXmlChar c = true := by
  have hdigits : ∀ d ∈ Nat.toDigits 10 units, isXmlChar d = true := fun d hd =>
    isXmlChar_of_isDigit (Nat.isDigit_of_mem_toDigits (by decide) (by decide) hd)
  have hpadded (n : Nat) : ∀ d ∈ List.replicate n '0' ++ Nat.toDigits 10 units, isXmlChar d = true := by
    intro d hd
    rcases List.mem_append.1 hd with hd | hd
    · rw [List.eq_of_mem_replicate hd]
      decide
    · exact hdigits d hd
  rw [Decimal.placed] at h
  split at h
  · exact hpadded _ c (List.mem_of_mem_take h)
  · rcases List.mem_append.1 h with h | h
    · exact hpadded _ c (List.mem_of_mem_take h)
    · rcases List.mem_cons.1 h with rfl | h
      · decide
      · exact hpadded _ c (List.mem_of_mem_drop h)

def IsXmlText (text : String) : Prop := ∀ c ∈ text.toList, isXmlChar c = true

instance (text : String) : Decidable (IsXmlText text) :=
  decidable_of_iff (text.toList.all isXmlChar = true) List.all_eq_true

theorem IsXmlText.append {a b : String} (ha : IsXmlText a) (hb : IsXmlText b) : IsXmlText (a ++ b) := by
  intro c hc
  rw [String.toList_append] at hc
  rcases List.mem_append.1 hc with hc | hc
  · exact ha c hc
  · exact hb c hc

theorem IsXmlText.ite {choice : Prop} [Decidable choice] {a b : String} (ha : IsXmlText a) (hb : IsXmlText b) :
    IsXmlText (if choice then a else b) := by
  by_cases h : choice
  · rwa [if_pos h]
  · rwa [if_neg h]

theorem isXmlText_fixed (places : Nat) (x : Float) : IsXmlText (Decimal.fixed places x) := by
  rw [Decimal.fixed]
  split
  · decide
  · exact .ite (by decide) (by decide)
  · intro c hc
    rw [String.toList_ofList] at hc
    split at hc
    · rcases List.mem_cons.1 hc with rfl | hc
      · decide
      · exact isXmlChar_of_mem_placed hc
    · exact isXmlChar_of_mem_placed hc

theorem isXmlText_label (value : Float) : IsXmlText (Axis.label value) := by
  rw [Axis.label]
  generalize Axis.shorten 10 value 1e-5 = short
  obtain ⟨x, places⟩ := short
  refine .ite ?_ ?_
  · exact .append (.append (.ite (by decide) (by decide)) (isXmlText_fixed 0 _)) (by decide)
  · refine .append (.append (.append (.ite (by decide) (by decide)) (isXmlText_fixed 0 _)) (by decide)) ?_
    intro c hc
    rw [String.toList_ofList, List.mem_reverse] at hc
    have hpadded := (List.dropWhile_sublist _).subset hc
    rw [List.mem_reverse] at hpadded
    rcases List.mem_append.1 hpadded with hc | hc
    · rw [List.eq_of_mem_replicate hc]
      decide
    · exact isXmlText_fixed 0 _ c hc

/-! ### Drawings -/

section

open Svg

variable (frame : Frame) (chart : Chart Float)

theorem isPrintable_text {label : Svg.Text} : isPrintable (.text label) = true ↔ IsXmlText label.content := by
  rw [isPrintable, List.all_eq_true]
  rfl

theorem all_gridLines (most : Nat) (stroke : Color) (opacity : Opacity) :
    (frame.gridLines most stroke opacity).all isPrintable = true := by
  rw [Frame.gridLines, List.all_map, List.all_eq_true]
  exact fun _ _ => rfl

theorem all_titles : (frame.titles chart).all isPrintable = true ↔
    IsXmlText chart.yLabel ∧ ∀ label ∈ chart.xLabel.toList, IsXmlText label := by
  rw [Frame.titles]
  cases chart.xLabel <;> simp [isPrintable_text]

theorem all_verticalAxis : frame.verticalAxis.all isPrintable = true := by
  rw [Frame.verticalAxis, List.all_cons, List.all_flatMap, Bool.and_eq_true_iff, List.all_eq_true]
  refine ⟨rfl, fun value _ => ?_⟩
  dsimp only
  split
  · rw [List.all_cons, Bool.and_eq_true_iff, isPrintable_text]
    refine ⟨isXmlText_label value, ?_⟩
    split <;> rfl
  · rfl

theorem all_horizontalAxis : frame.horizontalAxis.all isPrintable = true := by
  rw [Frame.horizontalAxis, List.all_cons, List.all_flatMap, Bool.and_eq_true_iff, List.all_eq_true]
  refine ⟨rfl, fun value _ => ?_⟩
  dsimp only
  split
  · rw [List.all_cons, Bool.and_eq_true_iff]
    refine ⟨rfl, ?_⟩
    split <;> rfl
  · rfl

theorem all_series (series : Series Float) : (frame.series chart series).all isPrintable = true := by
  have hbars : (series.bars.map (frame.bar chart)).all isPrintable = true :=
    List.all_eq_true.2 fun element h => by
      obtain ⟨bar, -, rfl⟩ := List.mem_map.1 h
      rfl
  have herrors : (series.bars.flatMap (frame.errorBar chart series.errorColor)).all isPrintable = true := by
    rw [List.all_flatMap]
    exact List.all_eq_true.2 fun bar _ => rfl
  rw [Frame.series, List.all_append, List.all_append, hbars, herrors]
  split
  · refine List.all_eq_true.2 fun element h => ?_
    obtain ⟨bar, -, rfl⟩ := List.mem_map.1 h
    exact isPrintable_text.2 (isXmlText_fixed 2 _)
  · rfl

theorem all_tickLabels : (chart.ticks.map frame.tickLabel).all isPrintable = true ↔
    ∀ text ∈ chart.ticks.map (·.2), IsXmlText text := by
  rw [List.all_map, List.all_eq_true, List.forall_mem_map]
  exact forall₂_congr fun tick _ => isPrintable_text

theorem all_legend : (frame.legend chart).all isPrintable = true ↔
    ∀ text ∈ chart.series.filterMap (·.label), IsXmlText text := by
  have hlabels : chart.series.filterMap (·.label) = (chart.series.filterMap fun series =>
      series.label.map fun label => (label, (series.bars.head?.map Bar.color).getD Color.black)).map (·.1) := by
    rw [List.map_filterMap]
    refine congrArg (chart.series.filterMap ·) (funext fun series => ?_)
    cases series.label <;> rfl
  rw [hlabels, Frame.legend]
  generalize chart.series.filterMap _ = entries
  cases entries with
  | nil => simp
  | cons entry rest =>
    dsimp only
    generalize entry :: rest = entries
    rw [List.all_cons, List.all_append, Bool.and_eq_true_iff, Bool.and_eq_true_iff]
    simp only [List.all_eq_true, List.forall_mem_map]
    constructor
    · rintro ⟨-, h, -⟩ e he
      obtain ⟨i, hi, rfl⟩ := List.mem_iff_getElem.1 he
      exact isPrintable_text.1 (h _ (List.mem_mapIdx.2 ⟨i, hi, rfl⟩))
    · refine fun h => ⟨rfl, fun element hmem => ?_, fun element hmem => ?_⟩
      · obtain ⟨i, hi, rfl⟩ := List.mem_mapIdx.1 hmem
        exact isPrintable_text.2 (h _ (List.getElem_mem hi))
      · obtain ⟨i, hi, rfl⟩ := List.mem_mapIdx.1 hmem
        rfl

theorem all_isPrintable_draw (size : Svg.Size) :
    (Svg.draw chart size).all isPrintable = true ↔ ∀ text ∈ chart.texts, IsXmlText text := by
  have hseries : (chart.series.flatMap ((Frame.of chart size).series chart)).all isPrintable = true := by
    rw [List.all_flatMap]
    exact List.all_eq_true.2 fun series _ => all_series _ chart series
  have hbackground (a b : Point) : isPrintable (.rect a b Color.white {}) = true := rfl
  rw [Svg.draw]
  simp only [List.all_cons, List.all_append, all_gridLines, all_verticalAxis, all_horizontalAxis, hseries,
    hbackground, Bool.true_and, Bool.and_true, Bool.and_eq_true_iff, all_titles, all_tickLabels, all_legend,
    Chart.texts, List.forall_mem_cons, List.forall_mem_append, and_assoc]

/-- A chart can be a page exactly if the canvas has an area and its texts can stand in a document. -/
theorem isSome_page?_draw (size : Size) : (page? size (draw chart size)).isSome = true ↔
    0 < size.width ∧ 0 < size.height ∧ ∀ text ∈ chart.texts, IsXmlText text := by
  rw [← all_isPrintable_draw chart size, page?, Nat.pos_iff_ne_zero, Nat.pos_iff_ne_zero]
  split
  · rename_i h
    simp only [Option.isSome_none, Bool.false_eq_true, false_iff]
    rintro ⟨hwidth, hheight, hall⟩
    rw [hall] at h
    rcases h with h | h | h
    · exact hwidth h
    · exact hheight h
    · cases h
  · rename_i h
    simp only [not_or, Bool.not_eq_true', Bool.not_eq_false] at h
    exact iff_of_true rfl h

end

theorem texts_single (groups : List GroupSummary) (xLabel yLabel : String) (headroom : Float) :
    (Chart.single groups xLabel yLabel headroom).texts = yLabel :: xLabel :: groups.map (·.name) := by
  have hticks : (Chart.single groups xLabel yLabel headroom).ticks.map (·.2) = groups.map (·.name) := by
    refine List.ext_getElem (by simp [Chart.single]) fun i _ _ => ?_
    simp [Chart.single]
  rw [Chart.texts, hticks]
  simp [Chart.single]

theorem texts_grouped {series : VariantSeries} {labels : List String} {xLabel yLabel : String} {headroom : Float}
    {chart : Chart Float} (h : Chart.grouped series labels xLabel yLabel headroom = .ok chart) :
    chart.texts = yLabel :: xLabel :: (labels.take series.lazyGroups.length ++ ["Lazy", "Non-lazy"]) := by
  rw [Chart.grouped] at h
  dsimp only at h
  split at h
  · cases h
  cases h
  have hticks : ((labels.take series.lazyGroups.length).mapIdx fun i label =>
      (Float.ofNat i + Chart.groupedWidth, label)).map (·.2) = labels.take series.lazyGroups.length := by
    refine List.ext_getElem? fun i => ?_
    rw [List.getElem?_map, List.getElem?_mapIdx, Option.map_map]
    exact Option.map_id'
  rw [Chart.texts, hticks]
  rfl

end Pdf

end RunCharts
