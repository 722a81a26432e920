import Mathlib.Data.List.Basic
import RunCharts.Text.Split

/-! # Fields and separators

No field holds the separator (`notMem_of_mem_fields`), and fields without it are those of the text that they make
with separators between them (`fields_intercalate`). -/

namespace RunCharts.Text

theorem fields_of_notMem {sep : Char} {text : List Char} (h : sep ∉ text) : fields sep text = [text] := by
  induction text with
  | nil => rfl
  | cons c rest ih =>
    rw [List.mem_cons, not_or] at h
    rw [fields, if_neg (Ne.symm h.1), ih h.2, List.modifyHead_cons]

theorem fields_append_cons (sep : Char) (text more : List Char) :
    fields sep (text ++ sep :: more) = fields sep text ++ fields sep more := by
  induction text with
  | nil => simp [fields]
  | cons c rest ih =>
    rw [List.cons_append, fields, fields, ih]
    split
    · rfl
    · cases hf : fields sep rest with
      | nil => exact absurd hf (fields_ne_nil sep rest)
      | cons first others => simp

/-- Where two texts meet, the last field of one and the first of the other make one field. -/
theorem exists_fields_append (sep : Char) (text more : List Char) : ∃ front last first back,
    fields sep text = front ++ [last] ∧ fields sep more = first :: back ∧
      fields sep (text ++ more) = front ++ (last ++ first) :: back := by
  obtain ⟨first, back, hmore⟩ := List.exists_cons_of_ne_nil (fields_ne_nil sep more)
  induction text with
  | nil => exact ⟨[], [], first, back, rfl, hmore, hmore⟩
  | cons c rest ih =>
    obtain ⟨front, last, first', back', hrest, hmore', hboth⟩ := ih
    rw [List.cons_append, fields, fields, hrest, hboth]
    split
    · exact ⟨[] :: front, last, first', back', rfl, hmore', rfl⟩
    · cases front with
      | nil => exact ⟨[], c :: last, first', back', rfl, hmore', rfl⟩
      | cons part front => exact ⟨(c :: part) :: front, last, first', back', rfl, hmore', rfl⟩

theorem notMem_of_mem_fields {sep : Char} {text field : List Char} (h : field ∈ fields sep text) :
    sep ∉ field := by
  induction text generalizing field with
  | nil => simp_all [fields]
  | cons c rest ih =>
    rw [fields] at h
    split at h
    · rcases List.mem_cons.1 h with rfl | h
      · exact List.not_mem_nil
      · exact ih h
    · rename_i hc
      cases hf : fields sep rest with
      | nil => exact absurd hf (fields_ne_nil sep rest)
      | cons first others =>
        rw [hf, List.modifyHead_cons] at h
        rcases List.mem_cons.1 h with rfl | h
        · rw [List.mem_cons, not_or]
          exact ⟨Ne.symm hc, ih (hf ▸ List.mem_cons_self)⟩
        · exact ih (hf ▸ List.mem_cons_of_mem _ h)

theorem fields_intercalate {sep : Char} {parts : List (List Char)} (hne : parts ≠ [])
    (h : ∀ part ∈ parts, sep ∉ part) : fields sep ([sep].intercalate parts) = parts := by
  induction parts with
  | nil => exact absurd rfl hne
  | cons part rest ih =>
    have hpart := fields_of_notMem (h part List.mem_cons_self)
    by_cases hrest : rest = []
    · rw [hrest]
      simpa [List.intercalate] using hpart
    · rw [List.intercalate_cons_of_ne_nil hrest, List.append_assoc, List.singleton_append, fields_append_cons,
        hpart, ih hrest fun p hp => h p (List.mem_cons_of_mem _ hp), List.singleton_append]

theorem intercalate_append_cons (sep : Char) (front : List (List Char)) (part : List Char) (behind : List (List Char)) :
    [sep].intercalate (front ++ part :: behind) =
      front.flatMap (· ++ [sep]) ++ part ++ behind.flatMap (sep :: ·) := by
  induction front generalizing part behind with
  | nil =>
    induction behind generalizing part with
    | nil => simp
    | cons next rest ih =>
      have hnext := ih next
      rw [List.nil_append] at hnext ⊢
      rw [List.intercalate_cons_of_ne_nil (List.cons_ne_nil next rest), hnext]
      simp
  | cons first rest ih =>
    rw [List.cons_append, List.intercalate_cons_of_ne_nil (by simp), ih, List.flatMap_cons]
    simp only [List.append_assoc]

theorem flatMap_append_ne_nil (sep : Char) {front : List (List Char)} (hne : front ≠ []) :
    front.flatMap (· ++ [sep]) ≠ [] := by
  obtain ⟨first, rest, rfl⟩ := List.exists_cons_of_ne_nil hne
  simp

theorem intercalate_prefix_append (sep : Char) {front : List (List Char)} (hne : front ≠ [])
    (back : List (List Char)) : [sep].intercalate front <+: [sep].intercalate (front ++ back) := by
  induction front with
  | nil => exact absurd rfl hne
  | cons part rest ih =>
    by_cases hrest : rest = []
    · rw [hrest]
      by_cases hback : back = []
      · simp [hback]
      · rw [List.singleton_append, List.intercalate_cons_of_ne_nil hback, List.intercalate_singleton,
          List.append_assoc]
        exact List.prefix_append _ _
    · rw [List.cons_append, List.intercalate_cons_of_ne_nil hrest,
        List.intercalate_cons_of_ne_nil (by simp [hrest])]
      exact (List.prefix_append_right_inj _).2 (ih hrest)

end RunCharts.Text
