import RunCharts.Analysis.Bandwidth
import RunCharts.Analysis.Cache
import RunCharts.Proofs.FirstError

/-! # What is checked before a chart is drawn

Summaries need a sample in each group, whichever their order. A chart of pairs needs as many lazy as non-lazy
groups (`error?_pairsChart`), and one with a bar for each variant needs a group of each (`error?_ofLast`). What
is checked depends on names, directories and numbers of samples alone. -/

namespace RunCharts

/-- What is wrong with a group: it has no samples. -/
def SampleGroup.shortage? (group : SampleGroup) : Option Fault :=
  if group.samples.isEmpty then some (.emptySampleSet group.name) else none

def Classifier.count (classifier : Classifier) (dirs : List Files.Path) (variant : Variant) : Nat :=
  dirs.countP fun dir => classifier.classify dir = variant

/-- What is wrong with directories that are to come in pairs: one variant has more of them. -/
def Classifier.unpaired? (classifier : Classifier) (dirs : List Files.Path) : Option Fault :=
  if classifier.count dirs .lazy = classifier.count dirs .nonLazy then none
  else some (.seriesLengthMismatch (classifier.count dirs .lazy) (classifier.count dirs .nonLazy))

/-- What is wrong with directories that are to be of both variants: there is none of the first one that is
missing. -/
def Classifier.missing? (classifier : Classifier) (dirs : List Files.Path) : Option Fault :=
  if classifier.count dirs .lazy = 0 then some (.missingVariant .lazy)
  else if classifier.count dirs .nonLazy = 0 then some (.missingVariant .nonLazy)
  else none

theorem Classifier.unpaired?_eq_none_iff {classifier : Classifier} {dirs : List Files.Path} :
    classifier.unpaired? dirs = none ↔ classifier.count dirs .lazy = classifier.count dirs .nonLazy := by
  simp [unpaired?]

theorem Classifier.missing?_eq_none_iff {classifier : Classifier} {dirs : List Files.Path} :
    classifier.missing? dirs = none ↔ 0 < classifier.count dirs .lazy ∧ 0 < classifier.count dirs .nonLazy := by
  rw [missing?]
  split
  · rename_i hlazy
    simp [hlazy]
  · split
    · rename_i hnonLazy
      simp [hnonLazy]
    · simp only [true_iff]
      omega

variable {classifier : Classifier} {groups : List SampleGroup} {series : VariantSeries}

theorem error?_summarize (group : SampleGroup) : group.summarize.error? = group.shortage? := by
  rw [SampleGroup.summarize, Summary.of?, SampleGroup.shortage?]
  by_cases hempty : group.samples.isEmpty = true
  · rw [if_pos hempty, if_pos hempty]
    rfl
  · rw [if_neg hempty, if_neg hempty]
    rfl

theorem error?_groupSummary (variant : Option Variant) (group : SampleGroup) :
    (GroupSummary.of variant group).error? = group.shortage? := by
  rw [← error?_summarize, GroupSummary.of]
  cases group.summarize <;> rfl

theorem error?_groupSummaries (classifier : Classifier) (groups : List SampleGroup) :
    (GroupSummary.ofGroups classifier groups).error? = groups.findSome? SampleGroup.shortage? := by
  rw [GroupSummary.ofGroups, Except.error?_mapM]
  simp only [error?_groupSummary]

theorem error?_variantSeries (classifier : Classifier) (groups : List SampleGroup) :
    (VariantSeries.ofGroups classifier groups).error? = groups.findSome? SampleGroup.shortage? := by
  induction groups with
  | nil => rfl
  | cons group rest ih =>
    rw [VariantSeries.ofGroups, List.findSome?_cons, ← error?_groupSummary, ← ih]
    cases GroupSummary.of (some (group.variant classifier)) group with
    | error fault => rfl
    | ok summary => cases VariantSeries.ofGroups classifier rest <;> rfl

theorem length_side (h : VariantSeries.ofGroups classifier groups = .ok series) (variant : Variant) :
    (series.side variant).length = classifier.count (groups.map (·.dir)) variant := by
  induction groups generalizing series with
  | nil =>
    cases h
    cases variant <;> rfl
  | cons group rest ih =>
    rw [VariantSeries.ofGroups] at h
    obtain ⟨summary, -, h⟩ := Except.bind_eq_ok_iff.1 h
    obtain ⟨others, hothers, h⟩ := Except.bind_eq_ok_iff.1 h
    cases h
    have hrest := ih hothers
    rw [Classifier.count] at hrest ⊢
    rw [List.map_cons, List.countP_cons, ← hrest, SampleGroup.variant]
    cases classifier.classify group.dir <;> cases variant <;> rfl

theorem error?_pairsChart (groups : List SampleGroup) (yLabel : String) (headroom : Float) :
    (Analysis.Cache.pairsChart groups yLabel headroom).error? =
      (groups.findSome? SampleGroup.shortage?).or (Classifier.containsLazy.unpaired? (groups.map (·.dir))) := by
  rw [← error?_variantSeries .containsLazy, Analysis.Cache.pairsChart]
  cases hseries : VariantSeries.ofGroups .containsLazy groups with
  | error fault => rfl
  | ok series =>
    have hlazy : series.lazyGroups.length = _ := length_side hseries .lazy
    have hnonLazy : series.nonLazyGroups.length = _ := length_side hseries .nonLazy
    rw [Except.ok_bind, Chart.grouped, Except.error?_ok, Option.none_or, Classifier.unpaired?, ← hlazy, ← hnonLazy]
    by_cases heq : series.lazyGroups.length = series.nonLazyGroups.length
    · rw [if_neg (not_not.2 heq), if_pos heq]
      rfl
    · rw [if_pos heq, if_neg heq]
      rfl

theorem error?_last (series : VariantSeries) (variant : Variant) : (series.last variant).error? =
    if (series.side variant).length = 0 then some (.missingVariant variant) else none := by
  rw [VariantSeries.last, List.getLast?_eq_head?_reverse, ← List.length_reverse]
  cases (series.side variant).reverse <;> rfl

theorem error?_ofLast (h : VariantSeries.ofGroups classifier groups = .ok series) (yLabel : String) (top : Float) :
    (Chart.ofLast series yLabel top).error? = classifier.missing? (groups.map (·.dir)) := by
  have hlast : (Chart.ofLast series yLabel top).error? =
      (series.last .lazy).error?.or (series.last .nonLazy).error? := by
    dsimp only [Chart.ofLast]
    cases series.last .lazy with
    | error fault => rfl
    | ok group => cases series.last .nonLazy <;> rfl
  rw [hlast, error?_last, error?_last, length_side h, length_side h, Classifier.missing?]
  split
  · rfl
  · exact Option.none_or

end RunCharts
