import Mathlib.Logic.Basic
import RunCharts.Proofs.Text.Infix
import RunCharts.Variant

/-! # Directories that are named for their variant

Both classifiers tell a directory apart in the same way if it holds the marker of one variant and not that of the
other. Neither marker comes about where the other one is put into a name, so a directory has the variant that it is
named for (`Classifier.classify_marked`). -/

namespace RunCharts

namespace Variant

variable {variant other : Variant} {front behind before after : List Char}

/-- What stands in the name of a directory of the variant. -/
def marker : Variant → String
  | lazy => "-lazy"
  | nonLazy => "-nonlazy"

/-- There are but two variants. -/
theorem eq_of_ne_of_ne {variant' : Variant} (h : variant ≠ other) (h' : variant' ≠ other) : variant = variant' := by
  cases variant <;> cases variant' <;> cases other <;> simp_all

/-- Where the marker of a variant stands, that of the other one lies in front of it or behind it. -/
theorem marker_prefix_or_suffix (hne : other ≠ variant)
    (heq : before ++ other.marker.toList ++ after = front ++ variant.marker.toList ++ behind) :
    before ++ other.marker.toList <+: front ∨ other.marker.toList ++ after <:+ behind := by
  cases variant <;> cases other
  · exact absurd rfl hne
  · exact Text.prefix_or_suffix_of_append_eq (by decide) (by decide) (by decide) (by decide) heq
  · exact Text.prefix_or_suffix_of_append_eq (by decide) (by decide) (by decide) (by decide) heq
  · exact absurd rfl hne

theorem marker_infix_of_append (hne : other ≠ variant)
    (h : other.marker.toList <:+: front ++ variant.marker.toList ++ behind) :
    other.marker.toList <:+: front ∨ other.marker.toList <:+: behind := by
  obtain ⟨before, after, heq⟩ := h
  rcases marker_prefix_or_suffix hne heq with hfront | hbehind
  · exact .inl ((List.suffix_append before _).isInfix.trans hfront.isInfix)
  · exact .inr ((List.prefix_append _ after).isInfix.trans hbehind.isInfix)

end Variant

/-- No variant is named in the text. -/
def NamesNoVariant (text : String) : Prop := ∀ variant : Variant, ¬ variant.marker.toList <:+: text.toList

namespace Classifier

variable {dir : String}

/-- The variant whose marker a classifier tests for. -/
def sought : Classifier → Variant
  | containsLazy => .lazy
  | containsNonLazy => .nonLazy

theorem classify_eq_sought_iff (classifier : Classifier) (dir : String) :
    classifier.classify dir = classifier.sought ↔ classifier.sought.marker.toList <:+: dir.toList := by
  rw [← Text.occursIn_iff]
  cases classifier with
  | containsLazy =>
    rw [classify, sought, Variant.marker]
    cases Text.occursIn "-lazy".toList dir.toList <;> simp
  | containsNonLazy =>
    rw [classify, sought, Variant.marker]
    cases Text.occursIn "-nonlazy".toList dir.toList <;> simp

theorem classify_append {base tail : String} (hbase : NamesNoVariant base) (htail : NamesNoVariant tail)
    (classifier : Classifier) (variant : Variant) :
    classifier.classify (base ++ variant.marker ++ tail) = variant := by
  have hmarked := classifier.classify_eq_sought_iff (base ++ variant.marker ++ tail)
  rw [String.toList_append, String.toList_append] at hmarked
  by_cases hsought : variant = classifier.sought
  · rw [hsought] at hmarked ⊢
    exact hmarked.2 (List.infix_append _ _ _)
  · refine Variant.eq_of_ne_of_ne (fun h => ?_) hsought
    exact (Variant.marker_infix_of_append (Ne.symm hsought) (hmarked.1 h)).elim (hbase _) (htail _)

/-- The classifiers agree on the directories that name one variant alone. The marker of the other variant does not come
about where a marker is put into a name, so what is in front of it and behind it decides nothing unless it names a
variant of its own. -/
theorem classify_marked :
    (∀ dir : String, containsLazy.classify dir = containsNonLazy.classify dir ↔
      Xor ("-lazy".toList <:+: dir.toList) ("-nonlazy".toList <:+: dir.toList)) ∧
    (∀ (variant other : Variant), other ≠ variant → ∀ front behind before after : List Char,
      before ++ other.marker.toList ++ after = front ++ variant.marker.toList ++ behind →
        before ++ other.marker.toList <+: front ∨ other.marker.toList ++ after <:+ behind) ∧
    ∀ base tail : String, NamesNoVariant base → NamesNoVariant tail → ∀ classifier : Classifier,
      classifier.classify (base ++ "-lazy" ++ tail) = .lazy ∧
        classifier.classify (base ++ "-nonlazy" ++ tail) = .nonLazy := by
  refine ⟨fun dir => ?_, fun variant other hne front behind before after => Variant.marker_prefix_or_suffix hne,
    fun base tail hbase htail classifier => ⟨classify_append hbase htail classifier .lazy,
      classify_append hbase htail classifier .nonLazy⟩⟩
  have hlazy : containsLazy.classify dir = .lazy ↔ "-lazy".toList <:+: dir.toList :=
    containsLazy.classify_eq_sought_iff dir
  have hnonLazy : containsNonLazy.classify dir = .nonLazy ↔ "-nonlazy".toList <:+: dir.toList :=
    containsNonLazy.classify_eq_sought_iff dir
  rw [← hlazy, ← hnonLazy]
  cases containsLazy.classify dir <;> cases containsNonLazy.classify dir <;> simp [Xor]

/-- A piece of a marker on either side of another one names no variant. -/
theorem classify_marked_between : NamesNoVariant "runs/c100-non" ∧ NamesNoVariant "/nonlazy-la" ∧
    containsNonLazy.classify ("runs/c100-non" ++ "-lazy" ++ "/nonlazy-la") = .lazy ∧
    containsLazy.classify ("runs/c100-non" ++ "-nonlazy" ++ "/nonlazy-la") = .nonLazy := by
  have hbase : NamesNoVariant "runs/c100-non" := by
    intro variant
    rw [← Text.occursIn_iff]
    cases variant <;> decide
  have htail : NamesNoVariant "/nonlazy-la" := by
    intro variant
    rw [← Text.occursIn_iff]
    cases variant <;> decide
  have hmarked := classify_marked.2.2 "runs/c100-non" "/nonlazy-la" hbase htail
  exact ⟨hbase, htail, (hmarked containsNonLazy).1, (hmarked containsLazy).2⟩

end Classifier

end RunCharts
