import RunCharts.Decimal.Style
import RunCharts.Fault

/-! # Summaries of samples

Samples are reduced to their mean and their spread, and the summaries of groups are told apart by variant. -/

namespace RunCharts

/-- Mean and population standard deviation. -/
structure Summary where
  mean : Float
  stdDev : Float

namespace Summary

/-- The sum in list order. It starts at minus zero, which changes no number it is added to. -/
def total (samples : List Float) : Float := samples.foldl (· + ·) (-0.0)

/-- The mean and the population standard deviation of samples; `none` if there are none. -/
def of? (samples : List Float) : Option Summary :=
  if samples.isEmpty then none
  else
    let count := Float.ofNat samples.length
    let mean := total samples / count
    let variance := total (samples.map fun x => (x - mean) * (x - mean)) / count
    some ⟨mean, variance.sqrt⟩

/-- The mean, then the deviation. -/
def render (summary : Summary) : String :=
  s!"{Report.number summary.mean} {Report.number summary.stdDev}"

end Summary

/-- The samples of one run directory, one for each file. -/
structure SampleGroup where
  name : String
  dir : Files.Path
  samples : List Float

namespace SampleGroup

def map (f : Float → Float) (group : SampleGroup) : SampleGroup :=
  { group with samples := group.samples.map f }

/-- The summary of a group; a group without samples is a fault that names it. -/
def summarize (group : SampleGroup) : Except Fault Summary :=
  match Summary.of? group.samples with
  | some summary => .ok summary
  | none => .error (.emptySampleSet group.name)

end SampleGroup

/-! ### Groups of both variants -/

/-- A summary with the samples behind it, and the variant where variants are compared. -/
structure GroupSummary where
  name : String
  variant : Option Variant
  samples : List Float
  summary : Summary

def GroupSummary.of (variant : Option Variant) (group : SampleGroup) : Except Fault GroupSummary :=
  return ⟨group.name, variant, group.samples, ← group.summarize⟩

def SampleGroup.variant (classifier : Classifier) (group : SampleGroup) : Variant :=
  classifier.classify group.dir

/-- The summaries of groups with their variants, in the order of the groups. -/
def GroupSummary.ofGroups (classifier : Classifier) (groups : List SampleGroup) :
    Except Fault (List GroupSummary) :=
  groups.mapM fun group => GroupSummary.of (some (group.variant classifier)) group

/-- Group summaries of both variants, each side in the order of the groups. -/
structure VariantSeries where
  lazyGroups : List GroupSummary := []
  nonLazyGroups : List GroupSummary := []

namespace VariantSeries

def side (series : VariantSeries) : Variant → List GroupSummary
  | .lazy => series.lazyGroups
  | .nonLazy => series.nonLazyGroups

/-- The last group of a variant, which is the one that a chart with one bar for each variant shows. -/
def last (series : VariantSeries) (variant : Variant) : Except Fault GroupSummary :=
  match (series.side variant).getLast? with
  | some group => .ok group
  | none => .error (.missingVariant variant)

/-- The groups of both variants, lazy ones first. -/
def all (series : VariantSeries) : List GroupSummary := series.lazyGroups ++ series.nonLazyGroups

/-- Puts a summary in front of the side of its variant. -/
def cons (variant : Variant) (group : GroupSummary) (series : VariantSeries) : VariantSeries :=
  match variant with
  | .lazy => { series with lazyGroups := group :: series.lazyGroups }
  | .nonLazy => { series with nonLazyGroups := group :: series.nonLazyGroups }

/-- Summarises groups and tells them apart by variant. -/
def ofGroups (classifier : Classifier) : List SampleGroup → Except Fault VariantSeries
  | [] => .ok {}
  | group :: rest => do
    let variant := group.variant classifier
    let summary ← GroupSummary.of (some variant) group
    return (← ofGroups classifier rest).cons variant summary

end VariantSeries

end RunCharts
