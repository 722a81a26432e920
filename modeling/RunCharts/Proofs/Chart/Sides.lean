import Mathlib.Data.List.Basic
import RunCharts.Proofs.FirstError
import RunCharts.Summary

/-! # Groups told apart by variant

Groups are told apart by variant after they have been summarised: the sides of a series are the entries of each
variant in their order (`ofGroups_eq`), and every entry is on one of them (`entriesOf_perm`). -/

namespace RunCharts

/-- The entries of a variant, in their order. -/
def entriesOf (variant : Variant) (entries : List GroupSummary) : List GroupSummary :=
  entries.filter (·.variant = some variant)

variable {classifier : Classifier} {groups : List SampleGroup} {group : SampleGroup} {entry : GroupSummary}
  {entries : List GroupSummary}

theorem GroupSummary.of_eq_ok_iff {variant : Option Variant} : GroupSummary.of variant group = .ok entry ↔
    entry.name = group.name ∧ entry.variant = variant ∧ entry.samples = group.samples ∧
      Summary.of? group.samples = some entry.summary := by
  rw [GroupSummary.of, SampleGroup.summarize]
  cases Summary.of? group.samples with
  | none => exact iff_of_false nofun fun h => nomatch h.2.2.2
  | some summary =>
    simp only [Except.ok_bind, Except.pure_eq_ok, Except.ok.injEq, Option.some.injEq]
    constructor
    · rintro rfl
      exact ⟨rfl, rfl, rfl, rfl⟩
    · obtain ⟨name, variant', samples, summary'⟩ := entry
      rintro ⟨rfl, rfl, rfl, rfl⟩
      rfl

theorem forall₂_of_ofGroups (h : GroupSummary.ofGroups classifier groups = .ok entries) :
    List.Forall₂ (fun group entry => GroupSummary.of (some (group.variant classifier)) group = .ok entry)
      groups entries :=
  Except.mapM_eq_ok_iff.1 h

theorem variant_ne_none_of_ofGroups (h : GroupSummary.ofGroups classifier groups = .ok entries) :
    ∀ entry ∈ entries, entry.variant ≠ none := by
  have hall := forall₂_of_ofGroups h
  clear h
  induction hall with
  | nil => exact fun _ hmem => absurd hmem List.not_mem_nil
  | cons hentry _ ih =>
    refine List.forall_mem_cons.2 ⟨?_, ih⟩
    rw [(GroupSummary.of_eq_ok_iff.1 hentry).2.1]
    exact Option.some_ne_none _

namespace VariantSeries

/-- Entries told apart by variant. -/
def tell (entries : List GroupSummary) : VariantSeries := ⟨entriesOf .lazy entries, entriesOf .nonLazy entries⟩

theorem tell_cons {variant : Variant} (h : entry.variant = some variant) (entries : List GroupSummary) :
    tell (entry :: entries) = (tell entries).cons variant entry := by
  cases variant <;> simp [tell, cons, entriesOf, h]

theorem ofGroups_eq (classifier : Classifier) (groups : List SampleGroup) :
    ofGroups classifier groups = (GroupSummary.ofGroups classifier groups).map tell := by
  induction groups with
  | nil => rfl
  | cons group rest ih =>
    have hcons : GroupSummary.ofGroups classifier (group :: rest) = (do
        let entry ← GroupSummary.of (some (group.variant classifier)) group
        let entries ← GroupSummary.ofGroups classifier rest
        return entry :: entries) := List.mapM_cons
    rw [ofGroups, hcons, ih]
    cases hentry : GroupSummary.of (some (group.variant classifier)) group with
    | error fault => rfl
    | ok entry =>
      cases GroupSummary.ofGroups classifier rest with
      | error fault => rfl
      | ok entries =>
        have hvariant := (GroupSummary.of_eq_ok_iff.1 hentry).2.1
        simp only [Except.ok_bind, Except.pure_eq_ok, Except.map, tell_cons hvariant]

end VariantSeries

/-- What has one of the variants is lost on neither side, and is on one of them only. -/
theorem filter_variant_perm {α : Type} {variantOf : α → Option Variant} {list : List α}
    (h : ∀ a ∈ list, variantOf a ≠ none) :
    (list.filter (variantOf · = some .lazy) ++ list.filter (variantOf · = some .nonLazy)).Perm list := by
  have hother : list.filter (variantOf · = some .nonLazy) =
      list.filter fun a => !decide (variantOf a = some .lazy) := by
    refine List.filter_congr fun a hmem => ?_
    cases hvariant : variantOf a with
    | none => exact absurd hvariant (h a hmem)
    | some variant => cases variant <;> rfl
  rw [hother]
  exact List.filter_append_perm _ list

theorem entriesOf_perm (h : ∀ entry ∈ entries, entry.variant ≠ none) :
    (entriesOf .lazy entries ++ entriesOf .nonLazy entries).Perm entries :=
  filter_variant_perm h

theorem length_entriesOf (h : ∀ entry ∈ entries, entry.variant ≠ none) :
    (entriesOf .lazy entries).length + (entriesOf .nonLazy entries).length = entries.length := by
  rw [← (entriesOf_perm h).length_eq, List.length_append]

end RunCharts
