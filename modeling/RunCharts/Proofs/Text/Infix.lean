import RunCharts.Proofs.Text.Fields

/-! # Stretches of a text

A stretch that does not hold a separator lies between two of them. So it occurs in a text if it occurs in one of its
fields (`infix_iff_exists_mem_fields`), each time within one of them (`exists_field_of_append`), and it does not come
about where texts are put together with a separator in between (`infix_append_cons_iff`). And of two stretches that
begin with the separator and hold no other one, neither comes about within the other or across its ends
(`prefix_or_suffix_of_append_eq`). -/

namespace RunCharts.Text

variable {sep : Char} {needle mark front behind before after text : List Char}

theorem infix_append_cons_iff (h : sep ∉ needle) :
    needle <:+: front ++ sep :: behind ↔ needle <:+: front ∨ needle <:+: behind := by
  constructor
  · rintro ⟨before, after, hsplit⟩
    rcases List.append_eq_append_iff.1 hsplit with ⟨rest, hfront, -⟩ | ⟨rest, hneedle, hbehind⟩
    · exact .inl ⟨before, rest, hfront.symm⟩
    cases rest with
    | nil => exact .inl ⟨before, [], by rw [List.append_nil, hneedle, List.append_nil]⟩
    | cons c rest =>
      -- The separator that comes first behind the front does not lie within the stretch.
      obtain ⟨rfl, rfl⟩ := List.cons_eq_cons.1 hbehind
      rcases List.append_eq_append_iff.1 hneedle with ⟨more, -, hmore⟩ | ⟨more, -, hmore⟩
      · exact absurd (hmore ▸ List.mem_append_right more List.mem_cons_self) h
      · cases more with
        | nil =>
          rw [List.nil_append] at hmore
          exact absurd (hmore ▸ List.mem_cons_self) h
        | cons d more =>
          obtain ⟨-, rfl⟩ := List.cons_eq_cons.1 hmore
          exact .inr ⟨more, after, rfl⟩
  · rintro (h | h)
    · exact h.trans (List.prefix_append front _).isInfix
    · exact h.trans ((List.suffix_cons sep behind).trans (List.suffix_append front _)).isInfix

theorem infix_intercalate_iff {parts : List (List Char)} (hne : parts ≠ []) (h : sep ∉ needle) :
    needle <:+: [sep].intercalate parts ↔ ∃ part ∈ parts, needle <:+: part := by
  induction parts with
  | nil => exact absurd rfl hne
  | cons part rest ih =>
    by_cases hrest : rest = []
    · simp [hrest]
    · rw [List.intercalate_cons_of_ne_nil hrest, List.append_assoc, List.singleton_append, infix_append_cons_iff h,
        ih hrest, List.exists_mem_cons_iff]

theorem infix_iff_exists_mem_fields (h : sep ∉ needle) :
    needle <:+: text ↔ ∃ field ∈ fields sep text, needle <:+: field := by
  rw [← infix_intercalate_iff (fields_ne_nil sep text) h, intercalate_fields]

/-- Each occurrence of a stretch lies in one field. -/
theorem exists_field_of_append (h : sep ∉ needle) (before after : List Char) :
    ∃ front left right back, fields sep (before ++ needle ++ after) = front ++ (left ++ needle ++ right) :: back ∧
      before = front.flatMap (· ++ [sep]) ++ left ∧ after = right ++ back.flatMap (sep :: ·) := by
  obtain ⟨front, left, first, back, hbefore, hneedle, hfirst⟩ := exists_fields_append sep before needle
  rw [fields_of_notMem h] at hneedle
  obtain ⟨rfl, rfl⟩ := List.cons_eq_cons.1 hneedle
  obtain ⟨front', last, right, back, hfront, hafter, hall⟩ := exists_fields_append sep (before ++ needle) after
  rw [hfirst] at hfront
  obtain ⟨rfl, hlast⟩ := List.append_inj' hfront rfl
  obtain rfl := List.singleton_inj.1 hlast
  refine ⟨front, left, right, back, hall, ?_, ?_⟩
  · rw [← intercalate_fields sep before, hbefore, intercalate_append_cons, List.flatMap_nil, List.append_nil]
  · rw [← intercalate_fields sep after, hafter, ← List.nil_append (right :: back), intercalate_append_cons,
      List.flatMap_nil, List.nil_append]

theorem prefix_of_append_eq (h : sep ∉ needle) (heq : needle ++ after = front ++ sep :: behind) : needle <+: front := by
  rcases List.append_eq_append_iff.1 heq with ⟨rest, hfront, -⟩ | ⟨rest, hneedle, hbehind⟩
  · exact ⟨rest, hfront.symm⟩
  · cases rest with
    | nil => exact ⟨[], by rw [hneedle, List.append_nil, List.append_nil]⟩
    | cons c rest =>
      obtain ⟨rfl, -⟩ := List.cons_eq_cons.1 hbehind
      exact absurd (hneedle ▸ List.mem_append_right front List.mem_cons_self) h

/-- Where one stretch stands, the other lies in front of it or behind it. -/
theorem prefix_or_suffix_of_append_eq (hneedle : sep ∉ needle) (hmark : sep ∉ mark) (hapart : ¬ needle <+: mark)
    (hapart' : ¬ mark <+: needle) (heq : before ++ sep :: needle ++ after = front ++ sep :: mark ++ behind) :
    before ++ sep :: needle <+: front ∨ sep :: needle ++ after <:+ behind := by
  have hdiffer : needle ++ after ≠ mark ++ behind := fun hsame =>
    (List.prefix_or_prefix_of_prefix (hsame ▸ List.prefix_append needle after) (List.prefix_append mark behind)).elim
      hapart hapart'
  simp only [List.append_assoc, List.cons_append] at heq
  -- the stretch that begins first ends before the separator with which the other begins
  rcases List.append_eq_append_iff.1 heq with ⟨rest, hfront, hrest⟩ | ⟨rest, hbefore, hrest⟩
  · cases rest with
    | nil => exact absurd (List.cons_eq_cons.1 hrest).2 hdiffer
    | cons c rest =>
      obtain ⟨rfl, hbehind⟩ := List.cons_eq_cons.1 hrest
      rw [hfront, List.prefix_append_right_inj, List.prefix_cons_inj]
      exact .inl (prefix_of_append_eq hneedle hbehind)
  · cases rest with
    | nil => exact absurd (List.cons_eq_cons.1 hrest).2.symm hdiffer
    | cons c rest =>
      obtain ⟨rfl, hbehind : mark ++ behind = rest ++ sep :: (needle ++ after)⟩ := List.cons_eq_cons.1 hrest
      obtain ⟨more, rfl⟩ := prefix_of_append_eq hmark hbehind
      rw [List.append_assoc, List.append_cancel_left_eq] at hbehind
      exact .inr ⟨more, hbehind.symm⟩

end RunCharts.Text
