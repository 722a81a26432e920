import Mathlib.Data.List.Induction
import RunCharts.Files.Access
import RunCharts.Proofs.Text.Fields

/-! # The steps of a path below another one

A path below `root` makes the steps of `root`, but for an empty last one, and then a step for each name
(`steps_below`). So different names give different paths (`below_injective`). -/

namespace RunCharts

namespace Files

theorem IsName.ne_empty {name : String} (h : IsName name) : name ≠ "" := fun he => h.1 (by simp [he])

theorem IsName.ne_dot {name : String} (h : IsName name) : name ≠ "." := fun he => h.1 (by simp [he])

theorem IsName.ne_dots {name : String} (h : IsName name) : name ≠ ".." := fun he => h.1 (by simp [he])

theorem IsName.toList_ne_nil {name : String} (h : IsName name) : name.toList ≠ [] := by
  simpa using h.ne_empty

theorem IsName.toList_ne_dot {name : String} (h : IsName name) : name.toList ≠ ['.'] := fun he =>
  h.ne_dot (String.toList_inj.1 he)

theorem IsName.toList_ne_dots {name : String} (h : IsName name) : name.toList ≠ ['.', '.'] := fun he =>
  h.ne_dots (String.toList_inj.1 he)

theorem IsName.not_isAbsolute {name : String} (h : IsName name) : ¬ Path.IsAbsolute name := fun ha =>
  h.2 (List.mem_of_mem_head? ha)

namespace Path

/-- The steps of a path that are not empty. -/
def names (path : Path) : List String := (path.parts.filter (· ≠ [])).map String.ofList

theorem parts_ne_nil (path : Path) : path.parts ≠ [] := Text.fields_ne_nil _ _

theorem exists_ancestors_eq_cons {path : Path} (hpath : path ≠ "") : ∃ above, path.ancestors = path :: above := by
  obtain ⟨n, hn⟩ : ∃ n, path.parts.length = n + 1 :=
    Nat.exists_eq_succ_of_ne_zero fun h => path.parts_ne_nil (List.length_eq_zero_iff.1 h)
  rw [ancestors, hn, ancestors.go, if_neg hpath]
  exact ⟨_, rfl⟩

theorem steps_of_parts {path : Path} {front : List (List Char)} {last : List Char}
    (h : path.parts = front ++ [last]) :
    path.steps = (front.filter (· ≠ [])).map String.ofList ++ [String.ofList last] := by
  rw [steps, h, List.dropLast_concat, List.getLast?_concat, Option.toList_some, List.map_append,
    List.map_singleton]

theorem exists_parts_eq (path : Path) : ∃ front last, path.parts = front ++ [last] :=
  ⟨_, _, (List.dropLast_concat_getLast path.parts_ne_nil).symm⟩

theorem steps_ne_nil (path : Path) : path.steps ≠ [] := by
  obtain ⟨front, last, hparts⟩ := path.exists_parts_eq
  simp [steps_of_parts hparts]

theorem steps_eq (path : Path) : path.steps = path.names ∨ path.steps = path.names ++ [""] := by
  obtain ⟨front, last, hparts⟩ := path.exists_parts_eq
  rw [steps_of_parts hparts, names, hparts, List.filter_append, List.map_append]
  by_cases hlast : last = []
  · right; simp [hlast]
  · left; simp [hlast]

theorem names_prefix_steps (path : Path) : path.names <+: path.steps := by
  rcases path.steps_eq with h | h
  · exact ⟨[], by rw [h, List.append_nil]⟩
  · exact ⟨[""], h.symm⟩

theorem ne_empty_of_mem_names {path : Path} {name : String} (h : name ∈ path.names) : name ≠ "" := by
  obtain ⟨part, hpart, rfl⟩ := List.mem_map.1 h
  simpa using (List.mem_filter.1 hpart).2

theorem filter_steps (path : Path) : path.steps.filter (· ≠ "") = path.names := by
  have hnames : path.names.filter (· ≠ "") = path.names :=
    List.filter_eq_self.2 fun name h => by simpa using ne_empty_of_mem_names h
  rcases path.steps_eq with h | h <;> rw [h]
  · exact hnames
  · rw [List.filter_append, hnames]
    simp

section

variable {root : Path} {name : String}

/-- The parts of a relative path seen from a directory are those of the directory, but for an empty last one, and its
own. -/
theorem exists_front (hroot : root ≠ "") : ∃ front, front ≠ [] ∧ (root.parts = front ∨ root.parts = front ++ [[]]) ∧
    ∀ below : Path, ¬ below.IsAbsolute → (root.join below).parts = front ++ below.parts := by
  by_cases hslash : root.toList.getLast? = some '/'
  · obtain ⟨front, hfront⟩ := List.getLast?_eq_some_iff.1 hslash
    refine ⟨Text.fields '/' front, Text.fields_ne_nil _ _, .inr ?_, fun below hbelow => ?_⟩
    · rw [parts, hfront, Text.fields_append_cons]
      rfl
    · rw [join, if_neg (not_or.2 ⟨hbelow, hroot⟩), if_pos hslash, parts, String.toList_append, hfront,
        List.append_assoc, List.singleton_append, Text.fields_append_cons, parts]
  · refine ⟨root.parts, root.parts_ne_nil, .inl rfl, fun below hbelow => ?_⟩
    rw [join, if_neg (not_or.2 ⟨hbelow, hroot⟩), if_neg hslash, parts, parts, parts, String.toList_append,
      String.toList_append, List.append_assoc, ← Text.fields_append_cons]
    rfl

theorem parts_of_isName (hname : IsName name) : parts name = [name.toList] := Text.fields_of_notMem hname.2

theorem parts_join (hroot : root ≠ "") (hname : IsName name) :
    ∃ front, (root.join name).parts = front ++ [name.toList] ∧ front ≠ [] ∧
      (root.parts = front ∨ root.parts = front ++ [[]]) := by
  obtain ⟨front, hne, hfront, hjoin⟩ := exists_front hroot
  exact ⟨front, by rw [hjoin name hname.not_isAbsolute, parts_of_isName hname], hne, hfront⟩

theorem names_of_parts_join {front : List (List Char)} (h : root.parts = front ∨ root.parts = front ++ [[]]) :
    (front.filter (· ≠ [])).map String.ofList = root.names := by
  rw [names]
  rcases h with h | h <;> rw [h]
  rw [List.filter_append]
  simp

theorem steps_join_relative {below : Path} (hroot : root ≠ "") (hbelow : ¬ below.IsAbsolute) :
    (root.join below).steps = root.names ++ below.steps := by
  obtain ⟨front, -, hfront, hjoin⟩ := exists_front hroot
  obtain ⟨more, last, hparts⟩ := below.exists_parts_eq
  have hall : (root.join below).parts = (front ++ more) ++ [last] := by
    rw [hjoin below hbelow, hparts, List.append_assoc]
  rw [steps_of_parts hall, steps_of_parts hparts, List.filter_append, List.map_append, names_of_parts_join hfront,
    List.append_assoc]

theorem steps_of_isName (hname : IsName name) : steps name = [name] := by
  have hparts : parts name = [] ++ [name.toList] := parts_of_isName hname
  rw [steps_of_parts hparts, String.ofList_toList]
  rfl

theorem steps_join (hroot : root ≠ "") (hname : IsName name) :
    (root.join name).steps = root.names ++ [name] := by
  rw [steps_join_relative hroot hname.not_isAbsolute, steps_of_isName hname]

theorem exists_steps_join (root : Path) (hname : IsName name) : ∃ front, (root.join name).steps = front ++ [name] := by
  by_cases hroot : root = ""
  · rw [join, if_pos (.inr hroot), steps_of_isName hname]
    exact ⟨[], rfl⟩
  · exact ⟨_, steps_join hroot hname⟩

theorem names_join (hroot : root ≠ "") (hname : IsName name) :
    (root.join name).names = root.names ++ [name] := by
  obtain ⟨front, hparts, -, hfront⟩ := parts_join hroot hname
  rw [← names_of_parts_join hfront, names, hparts, List.filter_append, List.map_append]
  simp [hname.ne_empty]

theorem join_ne_empty (hroot : root ≠ "") (hname : IsName name) : root.join name ≠ "" := by
  rw [join, if_neg (by simp [hname.not_isAbsolute, hroot])]
  split <;> simp [hroot]

theorem isAbsolute_join (hroot : root ≠ "") (hname : IsName name) :
    (root.join name).IsAbsolute ↔ root.IsAbsolute := by
  obtain ⟨c, rest, hcons⟩ := List.exists_cons_of_ne_nil (show root.toList ≠ [] by simpa using hroot)
  rw [join, if_neg (by simp [hname.not_isAbsolute, hroot])]
  split <;> simp [IsAbsolute, hcons]

end

section

variable {root : Path} {names names' : List String}

theorem below_append_singleton (root : Path) (names : List String) (name : String) :
    root.below (names ++ [name]) = (root.below names).join name := by
  rw [below, List.foldl_append]
  rfl

theorem below_ne_empty (hroot : root ≠ "") (hnames : ∀ name ∈ names, IsName name) :
    root.below names ≠ "" := by
  induction names using List.reverseRecOn with
  | nil => exact hroot
  | append_singleton names name ih =>
    rw [below_append_singleton]
    exact join_ne_empty (ih fun n hn => hnames n (by simp [hn])) (hnames name (by simp))

/-- The parts of a path below another one are those of that one, but for an empty last one, and then the names. -/
theorem exists_front_below (hroot : root ≠ "") : ∃ front, front ≠ [] ∧
    (root.parts = front ∨ root.parts = front ++ [[]]) ∧ ∀ names ≠ [], (∀ name ∈ names, IsName name) →
      (root.below names).parts = front ++ names.map String.toList := by
  obtain ⟨front, hne, hfront, hjoin⟩ := exists_front hroot
  refine ⟨front, hne, hfront, fun names hsome hnames => ?_⟩
  induction names using List.reverseRecOn with
  | nil => exact absurd rfl hsome
  | append_singleton names name ih =>
    have hname : IsName name := hnames name (by simp)
    have hrest : ∀ n ∈ names, IsName n := fun n hn => hnames n (by simp [hn])
    rw [below_append_singleton, List.map_append, List.map_singleton]
    by_cases hempty : names = []
    · rw [hempty]
      exact (hjoin name hname.not_isAbsolute).trans (by rw [parts_of_isName hname]; rfl)
    obtain ⟨before, hparts, -, hbefore⟩ := parts_join (below_ne_empty hroot hrest) hname
    rw [ih hempty hrest] at hbefore
    rcases hbefore with hbefore | hbefore
    · rw [hparts, ← hbefore, List.append_assoc]
    · -- the names below do not end with an empty one
      obtain ⟨others, last, rfl⟩ : ∃ others last, names = others ++ [last] :=
        ⟨_, _, (List.dropLast_concat_getLast hempty).symm⟩
      rw [List.map_append, List.map_singleton, ← List.append_assoc] at hbefore
      exact absurd (List.singleton_inj.1 (List.append_inj_right' hbefore rfl))
        (hrest last (by simp)).toList_ne_nil

theorem names_below (hroot : root ≠ "") (hnames : ∀ name ∈ names, IsName name) :
    (root.below names).names = root.names ++ names := by
  induction names using List.reverseRecOn with
  | nil => simp [below]
  | append_singleton names name ih =>
    have hrest : ∀ n ∈ names, IsName n := fun n hn => hnames n (by simp [hn])
    rw [below_append_singleton, names_join (below_ne_empty hroot hrest) (hnames name (by simp)), ih hrest,
      List.append_assoc]

theorem isAbsolute_below (hroot : root ≠ "") (hnames : ∀ name ∈ names, IsName name) :
    (root.below names).IsAbsolute ↔ root.IsAbsolute := by
  induction names using List.reverseRecOn with
  | nil => exact Iff.rfl
  | append_singleton names name ih =>
    have hrest : ∀ n ∈ names, IsName n := fun n hn => hnames n (by simp [hn])
    rw [below_append_singleton, isAbsolute_join (below_ne_empty hroot hrest) (hnames name (by simp)),
      ih hrest]

/-- A path below another one makes the steps of that one, but for an empty last one, and then a step for
each name. -/
theorem steps_below (hroot : root ≠ "") (hnames : ∀ name ∈ names, IsName name) (hne : names ≠ []) :
    (root.below names).steps = root.names ++ names := by
  obtain ⟨front, last, rfl⟩ : ∃ front last, names = front ++ [last] :=
    ⟨_, _, (List.dropLast_concat_getLast hne).symm⟩
  have hrest : ∀ n ∈ front, IsName n := fun n hn => hnames n (by simp [hn])
  rw [below_append_singleton, steps_join (below_ne_empty hroot hrest) (hnames last (by simp)),
    names_below hroot hrest, List.append_assoc]

theorem below_injective (hroot : root ≠ "") (hnames : ∀ name ∈ names, IsName name)
    (hnames' : ∀ name ∈ names', IsName name) (h : root.below names = root.below names') :
    names = names' := by
  have := congrArg Path.names h
  rw [names_below hroot hnames, names_below hroot hnames'] at this
  exact List.append_cancel_left this

end

end Path

end Files

end RunCharts
