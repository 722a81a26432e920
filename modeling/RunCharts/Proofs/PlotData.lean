import RunCharts.Proofs.Analysis.Emission
import RunCharts.Proofs.Float.Whole
import RunCharts.Proofs.Json.Layout
import RunCharts.Proofs.Json.Printed
import RunCharts.Proofs.Text.Octets

/-! # Reading the numbers behind a chart

`Lists` says, by the grammar of JSON alone, which groups a file lists. The file that is written for groups with finite
numbers lists these groups and no others, whatever their names hold (`lists_iff_eq`). -/

namespace RunCharts

/-- All numbers of the group are finite. -/
def GroupSummary.IsFinite (group : GroupSummary) : Prop :=
  (∀ x ∈ group.samples, x.isFinite = true) ∧ group.summary.mean.isFinite = true ∧ group.summary.stdDev.isFinite = true

namespace PlotData

open Json Command

/-! ### What a file lists -/

/-- The first field of an object with a name has a value that is read as `a`. -/
def HasField {α : Type} (name : String) (R : Value → α → Prop) (value : Value) (a : α) : Prop :=
  ∃ fields entry, value = .object fields ∧ fields.lookup name.toList = some entry ∧ R entry a

/-- An array has an item for each element of a list, in its order. -/
def HasItems {α : Type} (R : Value → α → Prop) (value : Value) (list : List α) : Prop :=
  ∃ items, value = .array items ∧ List.Forall₂ R items list

inductive IsText : Value → String → Prop
  | string (content) : IsText (.string content) (String.ofList content)

/-- A number is read as the double that is closest to it. -/
inductive IsDouble : Value → Float → Prop
  | number {literal x} : ReadsAs literal x → IsDouble (.number literal) x

inductive IsVariant : Value → Option Variant → Prop
  | none : IsVariant .null none
  | lazy : IsVariant (.string "Lazy".toList) (some .lazy)
  | nonLazy : IsVariant (.string "NonLazy".toList) (some .nonLazy)

/-- The fields of an object give a group. -/
structure IsGroup (value : Value) (group : GroupSummary) : Prop where
  name : HasField "name" IsText value group.name
  variant : HasField "variant" IsVariant value group.variant
  samples : HasField "samples" (HasItems IsDouble) value group.samples
  mean : HasField "mean" IsDouble value group.summary.mean
  stdDev : HasField "std_dev" IsDouble value group.summary.stdDev

/-- The file holds an array with an object for each of the groups. -/
def Lists (file : List UInt8) (groups : List GroupSummary) : Prop := ∃ text value,
  octets (String.ofList text) = file ∧ IsDocument text value ∧ HasItems IsGroup value groups

/-! ### A file lists one list of groups -/

variable {value : Value} {group group' : GroupSummary} {groups groups' : List GroupSummary}

theorem HasField.unique {α : Type} {R : Value → α → Prop} {name : String} (hR : Relator.RightUnique R) :
    Relator.RightUnique (HasField name R) := by
  rintro value a a' ⟨fields, entry, rfl, hentry, ha⟩ ⟨fields', entry', hfields, hentry', ha'⟩
  cases hfields
  obtain rfl := Option.some.inj (hentry.symm.trans hentry')
  exact hR ha ha'

theorem HasItems.unique {α : Type} {R : Value → α → Prop} (hR : Relator.RightUnique R) :
    Relator.RightUnique (HasItems R) := by
  rintro value list list' ⟨items, rfl, hlist⟩ ⟨items', hitems, hlist'⟩
  cases hitems
  exact List.right_unique_forall₂' hR hlist hlist'

theorem IsText.unique : Relator.RightUnique IsText := by
  rintro _ _ _ ⟨content⟩ ⟨⟩
  rfl

theorem IsDouble.unique : Relator.RightUnique IsDouble := by
  rintro _ x y ⟨hread⟩ ⟨hread'⟩
  exact hread.unique hread'

theorem IsVariant.unique : Relator.RightUnique IsVariant := by
  intro value variant variant' h h'
  cases h <;> cases h' <;> rfl

theorem IsGroup.unique : Relator.RightUnique IsGroup := by
  rintro value ⟨name, variant, samples, mean, stdDev⟩ ⟨name', variant', samples', mean', stdDev'⟩ h h'
  obtain rfl : name = name' := HasField.unique IsText.unique h.name h'.name
  obtain rfl : variant = variant' := HasField.unique IsVariant.unique h.variant h'.variant
  obtain rfl : samples = samples' := HasField.unique (HasItems.unique IsDouble.unique) h.samples h'.samples
  obtain rfl : mean = mean' := HasField.unique IsDouble.unique h.mean h'.mean
  obtain rfl : stdDev = stdDev' := HasField.unique IsDouble.unique h.stdDev h'.stdDev
  rfl

theorem Lists.unique {file : List UInt8} (h : Lists file groups) (h' : Lists file groups') : groups = groups' := by
  obtain ⟨text, value, rfl, hdocument, hgroups⟩ := h
  obtain ⟨text', value', hfile, hdocument', hgroups'⟩ := h'
  obtain rfl := String.ofList_injective (octets_injective hfile)
  obtain rfl := hdocument.unique hdocument'
  exact HasItems.unique IsGroup.unique hgroups hgroups'

/-! ### What is written -/

theorem hasNumbers_ofFloat (x : Float) : (ofFloat x).HasNumbers := by
  unfold ofFloat
  split
  · exact .number ⟨_, _, spellsNumber_finite style _ _⟩
  · exact .null

theorem hasNumbers_ofVariant (variant : Option Variant) : (ofVariant variant).HasNumbers := by
  rcases variant with _ | _ | _
  · exact .null
  · exact .string _
  · exact .string _

theorem hasNumbers_ofGroup (group : GroupSummary) : (ofGroup group).HasNumbers := by
  have hsamples : (Value.array (group.samples.map ofFloat)).HasNumbers :=
    .array (List.forall_mem_map.2 fun x _ => hasNumbers_ofFloat x)
  refine .object ?_
  simp only [List.forall_mem_cons, List.not_mem_nil, false_implies, implies_true, and_true]
  exact ⟨.string _, hasNumbers_ofVariant _, hsamples, hasNumbers_ofFloat _, hasNumbers_ofFloat _⟩

/-- What is written is one array, also where numbers are not finite. -/
theorem isDocument_render (groups : List GroupSummary) :
    IsDocument (render groups).toList (.array (groups.map ofGroup)) := by
  rw [render, Value.render, String.toList_ofList]
  exact isDocument_print (.array (List.forall_mem_map.2 fun group _ => hasNumbers_ofGroup group))

theorem isText_toList (text : String) : IsText (.string text.toList) text := by
  have htext := IsText.string text.toList
  rwa [String.ofList_toList] at htext

theorem isDouble_ofFloat {x : Float} (h : x.isFinite = true) : IsDouble (ofFloat x) x := by
  obtain ⟨negative, magnitude, hx⟩ := Decimal.Binary64.isFinite_iff.1 h
  rw [ofFloat, hx]
  exact .number (readsAs_finite style hx)

theorem isVariant_ofVariant (variant : Option Variant) : IsVariant (ofVariant variant) variant := by
  rcases variant with _ | _ | _
  · exact .none
  · exact .lazy
  · exact .nonLazy

theorem hasItems_map {α : Type} {R : Value → α → Prop} {f : α → Value} {list : List α} (h : ∀ a ∈ list, R (f a) a) :
    HasItems R (.array (list.map f)) list :=
  ⟨list.map f, rfl, List.forall₂_map_left_iff.2 (List.forall₂_same.2 h)⟩

theorem isGroup_ofGroup (h : group.IsFinite) : IsGroup (ofGroup group) group := by
  obtain ⟨hsamples, hmean, hstdDev⟩ := h
  exact {
    name := ⟨_, _, rfl, rfl, isText_toList group.name⟩
    variant := ⟨_, _, rfl, rfl, isVariant_ofVariant group.variant⟩
    samples := ⟨_, _, rfl, rfl, hasItems_map fun x hx => isDouble_ofFloat (hsamples x hx)⟩
    mean := ⟨_, _, rfl, rfl, isDouble_ofFloat hmean⟩
    stdDev := ⟨_, _, rfl, rfl, isDouble_ofFloat hstdDev⟩ }

theorem lists_render (h : ∀ group ∈ groups, group.IsFinite) : Lists (octets (render groups)) groups :=
  ⟨(render groups).toList, _, by rw [String.ofList_toList], isDocument_render groups,
    hasItems_map fun group hgroup => isGroup_ofGroup (h group hgroup)⟩

/-- The numbers behind a chart can be read back. What is written for groups with finite numbers is one array; by the
grammar it lists these groups and no others, so other groups are not written the same way; and it is what the file of
the numbers holds once they have been written. -/
theorem lists_iff_eq (h : ∀ group ∈ groups, group.IsFinite) :
    (∃ items, ∀ value, IsDocument (render groups).toList value ↔ value = .array items) ∧
      (∀ other, Lists (octets (render groups)) other ↔ other = groups) ∧
      (∀ other, (∀ group ∈ other, group.IsFinite) → octets (render other) = octets (render groups) → other = groups) ∧
      ∀ settings stem session path left, (writeData settings stem groups).outcome session = (.ok path, left) →
        path = settings.dataPath stem ∧ left.read path = .ok (octets (render groups)) := by
  have hlists := lists_render h
  have hdocument := isDocument_render groups
  refine ⟨⟨groups.map ofGroup, fun value => ⟨fun hvalue => hvalue.unique hdocument, fun heq => heq ▸ hdocument⟩⟩,
    fun other => ⟨fun hother => hother.unique hlists, fun heq => heq ▸ hlists⟩, fun other hother heq => ?_,
    fun settings stem session path left => read_of_writeData⟩
  exact Lists.unique (heq ▸ lists_render hother) hlists

/-- Groups whose names look like other parts of a file, and whose numbers go to the ends of the range of doubles. -/
def oddGroups : List GroupSummary :=
  [⟨"a\",\n  \"mean\": 1\\\x01é😀", some .nonLazy, [0.1, -0.0, 1e21, 5e-324, 1.7976931348623157e308],
      ⟨0.30000000000000004, 1e16⟩⟩,
    ⟨"", none, [], ⟨-2.5, 0.0⟩⟩, ⟨"]", some .lazy, [3.0], ⟨3.0, 0.0⟩⟩]

theorem isFinite_of_mem_oddGroups : ∀ group ∈ oddGroups, group.IsFinite := by
  simp only [oddGroups, GroupSummary.IsFinite, List.forall_mem_cons, List.not_mem_nil, false_implies, implies_true,
    and_true]
  decide +kernel

theorem lists_iff_eq_oddGroups : (∀ group ∈ oddGroups, group.IsFinite) ∧
    (∃ items, ∀ value, IsDocument (render oddGroups).toList value ↔ value = .array items) ∧
      (∀ other, Lists (octets (render oddGroups)) other ↔ other = oddGroups) ∧
      (∀ other, (∀ group ∈ other, group.IsFinite) → octets (render other) = octets (render oddGroups) →
        other = oddGroups) ∧
      ∀ settings stem session path left, (writeData settings stem oddGroups).outcome session = (.ok path, left) →
        path = settings.dataPath stem ∧ left.read path = .ok (octets (render oddGroups)) :=
  ⟨isFinite_of_mem_oddGroups, lists_iff_eq isFinite_of_mem_oddGroups⟩

example : render [⟨"\"\n", none, [0.1, 1e21], ⟨-0.0, 5e-324⟩⟩] =
    "[\n  \x7b\n    \"name\": \"\\\"\\n\",\n    \"variant\": null,\n    \"samples\": [\n      0.1,\n      1e+21\n" ++
      "    ],\n    \"mean\": -0.0,\n    \"std_dev\": 5e-324\n  \x7d\n]" := by decide +kernel

end PlotData

end RunCharts
