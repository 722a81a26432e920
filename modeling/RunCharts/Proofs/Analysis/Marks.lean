import RunCharts.Analysis.Basic
import RunCharts.Analysis.Cache
import RunCharts.Proofs.Files.Joined

/-! # Marks in paths

The variant of a run and the logs of its scouts are told by marks in path texts. No mark holds a slash, so below a
parent that has none of them a path has the marks that it had before (`classify_join`, `selects_join`). -/

namespace RunCharts

open Files

/-- What analyses look for in the paths of directories. -/
def marks : List String := ["-lazy", "-nonlazy", "scout-"]

/-- No mark occurs in the text of a path. -/
def IsUnmarked (path : Path) : Prop := ∀ mark ∈ marks, Text.occursIn mark.toList path.toList = false

instance (path : Path) : Decidable (IsUnmarked path) := inferInstanceAs (Decidable (∀ _ ∈ marks, _ = _))

variable {parent path : Path} {front : List (List Char)} {last : List Char}

theorem IsUnmarked.not_infix {mark : String} (h : IsUnmarked parent) (hmark : mark ∈ marks) :
    ¬ mark.toList <:+: parent.toList := by
  rw [← Text.occursIn_iff, h mark hmark]
  exact Bool.false_ne_true

theorem slash_notMem_mark {mark : String} (hmark : mark ∈ marks) : '/' ∉ mark.toList := by
  revert mark
  decide

theorem not_infix_dot_of_mark {mark : String} (hmark : mark ∈ marks) : ¬ mark.toList <:+: ['.'] := by
  rw [← Text.occursIn_iff]
  revert mark
  decide

theorem occursIn_join {mark : String} (h : IsUnmarked parent) (hmark : mark ∈ marks) (hparent : parent ≠ "")
    (hpath : ¬ path.IsAbsolute) :
    Text.occursIn mark.toList (parent.join path).toList = Text.occursIn mark.toList path.toList := by
  have hne : mark.toList ≠ [] := fun hempty => not_infix_dot_of_mark hmark (hempty ▸ List.nil_infix)
  rw [Bool.eq_iff_iff, Text.occursIn_iff, Text.occursIn_iff,
    Path.infix_join_iff hne (slash_notMem_mark hmark) hparent hpath, or_iff_right (h.not_infix hmark)]

theorem classify_join (classifier : Classifier) (h : IsUnmarked parent) (hparent : parent ≠ "")
    (hpath : ¬ path.IsAbsolute) : classifier.classify (parent.join path) = classifier.classify path := by
  cases classifier with
  | containsLazy => rw [Classifier.classify, Classifier.classify, occursIn_join h (by decide) hparent hpath]
  | containsNonLazy => rw [Classifier.classify, Classifier.classify, occursIn_join h (by decide) hparent hpath]

/-- The query asks for nothing but marks in the path of the directory. -/
def FileQuery.AsksForMark (query : FileQuery) : Prop := ∀ text ∈ query.within, ∃ mark ∈ marks, mark.toList = text

theorem FileQuery.selects_join {query : FileQuery} (hquery : query.AsksForMark) (hends : path.EndsIn front last)
    (h : IsUnmarked parent) (hparent : parent ≠ "") (hpath : ¬ path.IsAbsolute) :
    query.selects (parent.join path) = query.selects path := by
  obtain ⟨above, hjoined⟩ := hends.join hparent hpath
  obtain ⟨dir, hdir⟩ := hends.exists_parent?
  obtain ⟨dir', hdir'⟩ := hjoined.exists_parent?
  have hpasses : query.passes dir' = query.passes dir := by
    rw [passes, passes]
    cases hwithin : query.within with
    | none => rfl
    | some text =>
      obtain ⟨mark, hmark, rfl⟩ := hquery text hwithin
      rw [Option.all_some, Option.all_some, Bool.eq_iff_iff, Text.occursIn_iff, Text.occursIn_iff]
      exact hends.infix_parent?_join_iff hparent hpath hdir hdir' (slash_notMem_mark hmark)
        (not_infix_dot_of_mark hmark) (h.not_infix hmark)
  rw [selects, selects, hends.fileName?, hjoined.fileName?, hdir, hdir', Option.any_some, Option.any_some,
    Option.any_some, hpasses]

end RunCharts
