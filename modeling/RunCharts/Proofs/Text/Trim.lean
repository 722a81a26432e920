import Mathlib.Data.List.DropRight
import RunCharts.Proofs.Text.Fields
import RunCharts.Text.Character

/-! # Blanks around fields

Blanks at the end of a text belong to its last field (`fields_trimRight`), where they say nothing about the number
that it holds (`trim_trimRight`). -/

namespace RunCharts.Text

theorem trimRight_eq (text : List Char) : trimRight text = text.rdropWhile isBlank := rfl

theorem trimRight_append_cons {c : Char} (h : isBlank c = false) (front back : List Char) :
    trimRight (front ++ c :: back) = front ++ c :: trimRight back := by
  have hstop : (c :: front.reverse).dropWhile isBlank = c :: front.reverse :=
    List.dropWhile_cons_of_neg (by simp [h])
  have hreverse : (front ++ c :: back).reverse = back.reverse ++ c :: front.reverse := by simp
  rw [trimRight, hreverse, List.dropWhile_append, hstop, trimRight]
  split
  · rename_i hempty
    rw [List.isEmpty_iff.1 hempty]
    simp
  · simp

theorem trimRight_cons {c : Char} (h : isBlank c = false) (back : List Char) :
    trimRight (c :: back) = c :: trimRight back :=
  trimRight_append_cons h [] back

theorem trimRight_append_of_forall {back : List Char} (h : ∀ c ∈ back, isBlank c = true) (front : List Char) :
    trimRight (front ++ back) = trimRight front := by
  have hreverse : ∀ c ∈ back.reverse, isBlank c = true := fun c hc => h c (List.mem_reverse.1 hc)
  rw [trimRight, List.reverse_append, List.dropWhile_append_of_pos hreverse, trimRight]

theorem trimRight_eq_self {text : List Char} (h : ∀ c ∈ text, isBlank c = false) : trimRight text = text := by
  rw [trimRight_eq, List.rdropWhile_eq_self_iff]
  intro hne
  rw [h _ (List.getLast_mem hne)]
  exact Bool.false_ne_true

theorem notMem_trimRight {c : Char} {text : List Char} (h : c ∉ text) : c ∉ trimRight text := by
  rw [trimRight_eq]
  exact fun hmem => h ((List.rdropWhile_prefix _ text).subset hmem)

theorem trim_append_cons {front : List Char} {c : Char} (hfront : ∀ c ∈ front, isBlank c = true)
    (hc : isBlank c = false) (back : List Char) : trim (front ++ c :: back) = c :: trimRight back := by
  rw [trim, List.dropWhile_append_of_pos hfront, List.dropWhile_cons_of_neg (by simp [hc]), trimRight_cons hc]

/-- A text without blanks is left over when the blanks around it are taken off. -/
theorem trim_append_append {front text back : List Char} (hfront : ∀ c ∈ front, isBlank c = true) (hne : text ≠ [])
    (htext : ∀ c ∈ text, isBlank c = false) (hback : ∀ c ∈ back, isBlank c = true) :
    trim (front ++ text ++ back) = text := by
  obtain ⟨c, rest, rfl⟩ := List.exists_cons_of_ne_nil hne
  obtain ⟨hc, hrest⟩ := List.forall_mem_cons.1 htext
  have hassoc : front ++ c :: rest ++ back = front ++ c :: (rest ++ back) := by simp
  rw [hassoc, trim_append_cons hfront hc, trimRight_append_of_forall hback, trimRight_eq_self hrest]

/-- A text is blank, or has a first character that is not. -/
theorem blank_or_exists (text : List Char) : (∀ c ∈ text, isBlank c = true) ∨
    ∃ front c back, text = front ++ c :: back ∧ (∀ c ∈ front, isBlank c = true) ∧ isBlank c = false := by
  induction text with
  | nil => exact .inl fun _ h => nomatch h
  | cons c rest ih =>
    cases hc : isBlank c with
    | false => exact .inr ⟨[], c, rest, rfl, nofun, hc⟩
    | true =>
      rcases ih with hall | ⟨front, c', back, rfl, hfront, hc'⟩
      · exact .inl (List.forall_mem_cons.2 ⟨hc, hall⟩)
      · exact .inr ⟨c :: front, c', back, rfl, List.forall_mem_cons.2 ⟨hc, hfront⟩, hc'⟩

theorem trim_trimRight (text : List Char) : trim (trimRight text) = trim text := by
  rcases blank_or_exists text with hall | ⟨front, c, back, rfl, hfront, hc⟩
  · have hright : trimRight text = [] := (trimRight_eq text).trans (List.rdropWhile_eq_nil_iff.2 hall)
    rw [hright, trim, trim, List.dropWhile_eq_nil_iff.2 hall]
    rfl
  · have htwice : trimRight (trimRight back) = trimRight back := by
      rw [trimRight_eq, trimRight_eq, List.rdropWhile_idempotent]
    rw [trimRight_append_cons hc, trim_append_cons hfront hc, trim_append_cons hfront hc, htwice]

/-- The blanks at the end of a text are those of its last field. -/
theorem fields_trimRight {sep : Char} (h : isBlank sep = false) (text : List Char) : ∃ front last,
    fields sep text = front ++ [last] ∧ fields sep (trimRight text) = front ++ [trimRight last] := by
  by_cases hmem : sep ∈ text
  · obtain ⟨back, front, hreverse, hback⟩ := List.eq_append_cons_of_mem (List.mem_reverse.2 hmem)
    have htext : text = front.reverse ++ sep :: back.reverse := by
      rw [← List.reverse_reverse text, hreverse]
      simp
    have hlast : sep ∉ back.reverse := fun hin => hback (List.mem_reverse.1 hin)
    refine ⟨fields sep front.reverse, back.reverse, ?_, ?_⟩
    · rw [htext, fields_append_cons, fields_of_notMem hlast]
    · rw [htext, trimRight_append_cons h, fields_append_cons, fields_of_notMem (notMem_trimRight hlast)]
  · exact ⟨[], text, fields_of_notMem hmem, fields_of_notMem (notMem_trimRight hmem)⟩

end RunCharts.Text
