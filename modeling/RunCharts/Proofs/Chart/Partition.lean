import RunCharts.Proofs.Analysis.Checks
import RunCharts.Proofs.Chart.Sides

/-! # The sides of a series

Telling groups apart by variant loses no group and repeats none: each side of a series sums up the groups of its
variant in their order (`Partitions`). It is refused when a group has no samples, and then for the first such group
(`partitions_ofGroups`). -/

namespace RunCharts

theorem getLast?_rel {α β : Type} {R : α → β → Prop} {front : List α} {back : List β} (h : List.Forall₂ R front back) :
    Option.Rel R front.getLast? back.getLast? := by
  have hreverse := List.rel_reverse h
  rw [List.getLast?_eq_head?_reverse, List.getLast?_eq_head?_reverse]
  generalize front.reverse = front at hreverse ⊢
  generalize back.reverse = back at hreverse ⊢
  cases hreverse with
  | nil => exact .none
  | cons hrel _ => exact .some hrel

/-- The entry sums the group up: its name, its variant, its samples, and their mean and deviation. -/
structure SampleGroup.SummedUpBy (classifier : Classifier) (group : SampleGroup) (entry : GroupSummary) : Prop where
  name : entry.name = group.name
  variant : entry.variant = some (group.variant classifier)
  samples : entry.samples = group.samples
  summary : Summary.of? group.samples = some entry.summary

def SampleGroup.ofVariant (classifier : Classifier) (variant : Variant) (groups : List SampleGroup) :
    List SampleGroup :=
  groups.filter (·.variant classifier = variant)

variable {classifier : Classifier} {groups : List SampleGroup} {entries : List GroupSummary}

theorem SampleGroup.ofVariant_eq_nil_iff {variant : Variant} :
    SampleGroup.ofVariant classifier variant groups = [] ↔ ∀ group ∈ groups, group.variant classifier ≠ variant := by
  simp [ofVariant]

theorem summedUpBy_of_ofGroups (h : GroupSummary.ofGroups classifier groups = .ok entries) :
    List.Forall₂ (SampleGroup.SummedUpBy classifier) groups entries := by
  refine (forall₂_of_ofGroups h).imp fun group entry hentry => ?_
  obtain ⟨hname, hvariant, hsamples, hsummary⟩ := GroupSummary.of_eq_ok_iff.1 hentry
  exact ⟨hname, hvariant, hsamples, hsummary⟩

theorem summedUpBy_entriesOf (h : List.Forall₂ (SampleGroup.SummedUpBy classifier) groups entries) (variant : Variant) :
    List.Forall₂ (SampleGroup.SummedUpBy classifier) (SampleGroup.ofVariant classifier variant groups)
      (entriesOf variant entries) := by
  refine List.rel_filter (fun group entry hentry => ?_) h
  show (decide (group.variant classifier = variant)) = true ↔ (decide (entry.variant = some variant)) = true
  rw [hentry.variant]
  simp

theorem error?_variantSeries_eq (classifier : Classifier) (groups : List SampleGroup) :
    (VariantSeries.ofGroups classifier groups).error? =
      (groups.find? (·.samples.isEmpty)).map fun group => .emptySampleSet group.name := by
  rw [error?_variantSeries]
  induction groups with
  | nil => rfl
  | cons group rest ih =>
    rw [List.findSome?_cons, List.find?_cons, ih, SampleGroup.shortage?]
    cases group.samples.isEmpty <;> rfl

namespace VariantSeries

/-- The sides of a series share out the groups. -/
structure Partitions (classifier : Classifier) (groups : List SampleGroup) (series : VariantSeries) : Prop where
  /-- A side has an entry for each group of its variant, in the order of the groups. -/
  side : ∀ variant, List.Forall₂ (SampleGroup.SummedUpBy classifier) (SampleGroup.ofVariant classifier variant groups)
    (series.side variant)
  length : series.lazyGroups.length + series.nonLazyGroups.length = groups.length
  all : ∃ entries, List.Forall₂ (SampleGroup.SummedUpBy classifier) groups entries ∧ series.all.Perm entries
  /-- The last entry of a variant is that of the last group of the variant. -/
  last : ∀ variant, ∀ group ∈ (SampleGroup.ofVariant classifier variant groups).getLast?,
    ∃ entry, series.last variant = .ok entry ∧ group.SummedUpBy classifier entry
  missing : ∀ variant, series.last variant = .error (.missingVariant variant) ↔
    ∀ group ∈ groups, group.variant classifier ≠ variant

theorem side_tell (entries : List GroupSummary) (variant : Variant) :
    (tell entries).side variant = entriesOf variant entries := by
  cases variant <;> rfl

theorem last_eq_error_iff {series : VariantSeries} {variant : Variant} :
    series.last variant = .error (.missingVariant variant) ↔ series.side variant = [] := by
  rw [last, ← List.getLast?_eq_none_iff]
  cases (series.side variant).getLast? <;> simp

theorem partitions_tell (h : GroupSummary.ofGroups classifier groups = .ok entries) :
    (tell entries).Partitions classifier groups := by
  have heach := summedUpBy_of_ofGroups h
  have hvariants := variant_ne_none_of_ofGroups h
  have hside (variant : Variant) : List.Forall₂ (SampleGroup.SummedUpBy classifier)
      (SampleGroup.ofVariant classifier variant groups) ((tell entries).side variant) := by
    rw [side_tell]
    exact summedUpBy_entriesOf heach variant
  refine ⟨hside, ?_, ⟨entries, heach, entriesOf_perm hvariants⟩, ?_, ?_⟩
  · rw [heach.length_eq]
    exact length_entriesOf hvariants
  · intro variant group hgroup
    have hlast := getLast?_rel (hside variant)
    rw [Option.mem_def.1 hgroup] at hlast
    rw [VariantSeries.last]
    cases hentry : ((tell entries).side variant).getLast? with
    | none => rw [hentry] at hlast; cases hlast
    | some entry =>
      rw [hentry] at hlast
      cases hlast with
      | some hsum => exact ⟨entry, rfl, hsum⟩
  · intro variant
    rw [last_eq_error_iff, ← SampleGroup.ofVariant_eq_nil_iff, ← List.length_eq_zero_iff,
      ← (hside variant).length_eq, List.length_eq_zero_iff]

/-- Groups are told apart by variant if each of them has a sample; the first one that has none is named otherwise. -/
theorem partitions_ofGroups (classifier : Classifier) (groups : List SampleGroup) :
    ((∃ series, ofGroups classifier groups = .ok series) ↔ ∀ group ∈ groups, group.samples ≠ []) ∧
    match groups.find? (·.samples.isEmpty) with
    | none => ∃ series, ofGroups classifier groups = .ok series ∧ series.Partitions classifier groups
    | some group => ofGroups classifier groups = .error (.emptySampleSet group.name) := by
  have herror := error?_variantSeries_eq classifier groups
  constructor
  · rw [← Except.error?_eq_none_iff, herror, Option.map_eq_none_iff, List.find?_eq_none]
    simp only [List.isEmpty_iff, ne_eq]
  · cases hfind : groups.find? (·.samples.isEmpty) with
    | some group =>
      rw [hfind] at herror
      exact Except.error?_eq_some_iff.1 herror
    | none =>
      rw [hfind] at herror
      obtain ⟨series, hseries⟩ := Except.error?_eq_none_iff.1 herror
      have hmap := hseries
      rw [ofGroups_eq] at hmap
      obtain ⟨entries, hentries, rfl⟩ := Except.map_eq_ok_iff.1 hmap
      exact ⟨_, hseries, partitions_tell hentries⟩

end VariantSeries

end RunCharts
