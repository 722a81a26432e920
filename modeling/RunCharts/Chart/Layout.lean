import RunCharts.Chart.Basic
import RunCharts.Summary

/-! # The charts of the analyses

Three layouts: the variants side by side over shared ticks (`grouped`), one bar for each group
(`single`), and one bar for each variant (`ofLast`). -/

namespace RunCharts.Chart

/-- The bars of groups, the one with index `i` at `i + offset`. -/
def barsOf (groups : List GroupSummary) (offset : Float) (color : Nat → Color) : List (Bar Float) :=
  groups.mapIdx fun i group =>
    ⟨Float.ofNat i + offset, group.summary.mean, group.summary.stdDev, color i⟩

def groupedWidth : Float := 0.35

/-- Lazy bars at whole positions, the non-lazy bar of the same index right next to each, and a tick between
the two. Both variants must have as many groups. -/
def grouped (series : VariantSeries) (tickLabels : List String) (xLabel yLabel : String) (headroom : Float) :
    Except Fault (Chart Float) :=
  let groups := series.lazyGroups.length
  if groups ≠ series.nonLazyGroups.length then
    .error (.seriesLengthMismatch groups series.nonLazyGroups.length)
  else
    let seriesOf (variant : Variant) (offset : Float) : Series Float :=
      ⟨some variant.label, variant.errorColor,
        barsOf (series.side variant) offset fun _ => variant.barColor⟩
    .ok {
      series := [seriesOf .lazy 0.0, seriesOf .nonLazy groupedWidth]
      barWidth := groupedWidth
      align := .edge
      xRange := (-0.3, Float.ofNat groups)
      yRange := .fitted headroom
      ticks := (tickLabels.take groups).mapIdx fun i label => (Float.ofNat i + groupedWidth, label)
      xLabel := some xLabel
      yLabel := yLabel
      annotate := false }

def singleWidth : Float := 0.5

/-- One bar for each group, each in the next color. -/
def single (groups : List GroupSummary) (xLabel yLabel : String) (headroom : Float) : Chart Float where
  series := [⟨none, Color.cycle Color.strong 2, barsOf groups 0.0 (Color.cycle Color.soft)⟩]
  barWidth := singleWidth
  align := .edge
  xRange := (-0.3, Float.ofNat groups.length)
  yRange := .fitted headroom
  ticks := groups.mapIdx fun i group => (Float.ofNat i + singleWidth / 2.0, group.name)
  xLabel := some xLabel
  yLabel := yLabel
  annotate := false

/-- One bar with the last group of each variant, its mean written above it. -/
def ofLast (series : VariantSeries) (yLabel : String) (yMax : Float) : Except Fault (Chart Float) := do
  let seriesOf (variant : Variant) (x : Float) : Except Fault (Series Float) := do
    let group ← series.last variant
    return ⟨none, variant.errorColor, [⟨x, group.summary.mean, group.summary.stdDev, variant.barColor⟩]⟩
  return {
    series := [← seriesOf .lazy 0.0, ← seriesOf .nonLazy 1.0]
    barWidth := singleWidth
    align := .center
    xRange := (-0.5, 1.5)
    yRange := .fixed 0.0 yMax
    ticks := [(0.0, Variant.lazy.label), (1.0, Variant.nonLazy.label)]
    xLabel := none
    yLabel := yLabel
    annotate := true }

end RunCharts.Chart
