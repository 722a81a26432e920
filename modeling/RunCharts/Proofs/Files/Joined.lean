import RunCharts.Proofs.Files.Way
import RunCharts.Proofs.Text.Infix

/-! # Relative paths below another path

A relative path below a parent keeps its parts, and so its name (`fileName?_join`). What occurs in its text occurs in
that of the parent or in its own (`infix_join_iff`), and nothing else comes about at the slash between them. -/

namespace RunCharts.Files

namespace Path

variable {parent path : Path} {name : String} {names : List String}

/-- What comes in front of a relative path does not depend on it. -/
theorem exists_join_eq_append (hparent : parent ≠ "") : ∃ front : String, ∀ path : Path, ¬ path.IsAbsolute →
    parent.join path = front ++ path := by
  by_cases hslash : parent.toList.getLast? = some '/'
  · refine ⟨parent, fun path hpath => ?_⟩
    rw [join, if_neg (not_or.2 ⟨hpath, hparent⟩), if_pos hslash]
  · refine ⟨parent ++ "/", fun path hpath => ?_⟩
    rw [join, if_neg (not_or.2 ⟨hpath, hparent⟩), if_neg hslash]

theorem exists_toList_join (hparent : parent ≠ "") (hpath : ¬ path.IsAbsolute) :
    ∃ front, (parent.join path).toList = front ++ '/' :: path.toList ∧
      (parent.toList = front ∨ parent.toList = front ++ ['/']) := by
  rw [join, if_neg (not_or.2 ⟨hpath, hparent⟩)]
  by_cases hslash : parent.toList.getLast? = some '/'
  · obtain ⟨front, hfront⟩ := List.getLast?_eq_some_iff.1 hslash
    refine ⟨front, ?_, .inr hfront⟩
    rw [if_pos hslash, String.toList_append, hfront, List.append_assoc]
    rfl
  · refine ⟨parent.toList, ?_, .inl rfl⟩
    rw [if_neg hslash, String.toList_append, String.toList_append, List.append_assoc]
    rfl

theorem infix_join_iff {needle : List Char} (hne : needle ≠ []) (hslash : '/' ∉ needle) (hparent : parent ≠ "")
    (hpath : ¬ path.IsAbsolute) :
    needle <:+: (parent.join path).toList ↔ needle <:+: parent.toList ∨ needle <:+: path.toList := by
  obtain ⟨front, hjoin, hfront⟩ := exists_toList_join hparent hpath
  rw [hjoin, Text.infix_append_cons_iff hslash]
  rcases hfront with hfront | hfront <;> rw [hfront]
  simp [Text.infix_append_cons_iff hslash, hne]

theorem isAbsolute_join_relative (hparent : parent ≠ "") (hpath : ¬ path.IsAbsolute) :
    (parent.join path).IsAbsolute ↔ parent.IsAbsolute := by
  obtain ⟨c, rest, hcons⟩ := List.exists_cons_of_ne_nil (show parent.toList ≠ [] by simpa using hparent)
  rw [join, if_neg (not_or.2 ⟨hpath, hparent⟩)]
  split <;> simp [IsAbsolute, hcons]

theorem join_join (hparent : parent ≠ "") (hne : path ≠ "") (hpath : ¬ path.IsAbsolute) (hname : IsName name) :
    parent.join (path.join name) = (parent.join path).join name := by
  obtain ⟨front, hfront⟩ := exists_join_eq_append hparent
  have hlast : (parent.join path).toList.getLast? = path.toList.getLast? := by
    obtain ⟨c, rest, hcons⟩ := List.exists_cons_of_ne_nil (show path.toList ≠ [] by simpa using hne)
    rw [hfront path hpath, String.toList_append, hcons, List.getLast?_append_of_ne_nil _ (List.cons_ne_nil c rest)]
  have hjoined : parent.join path ≠ "" := by
    rw [hfront path hpath]
    simp [hne]
  rw [hfront _ fun h => hpath ((isAbsolute_join hne hname).1 h), join, join,
    if_neg (not_or.2 ⟨hname.not_isAbsolute, hne⟩), if_neg (not_or.2 ⟨hname.not_isAbsolute, hjoined⟩), hlast,
    hfront path hpath]
  split <;> simp only [String.append_assoc]

theorem join_below (hparent : parent ≠ "") (hne : path ≠ "") (hpath : ¬ path.IsAbsolute)
    (hnames : ∀ name ∈ names, IsName name) : parent.join (path.below names) = (parent.join path).below names := by
  induction names using List.reverseRecOn with
  | nil => rfl
  | append_singleton names name ih =>
    have hrest : ∀ n ∈ names, IsName n := fun n hn => hnames n (by simp [hn])
    rw [below_append_singleton, below_append_singleton, ← ih hrest]
    exact join_join hparent (below_ne_empty hne hrest) (fun h => hpath ((isAbsolute_below hne hrest).1 h))
      (hnames name (by simp))

/-! ### The name of a path and its directory -/

section

variable {needle : List Char} {front : List (List Char)} {last : List Char} {dir : Path}

/-- What occurs in the path of the directory occurs in one of the parts in front of the name, but for those at their
end that say nothing. -/
theorem infix_parent?_iff (h : trimParts path.parts = front ++ [last]) (hdir : path.parent? = some dir)
    (hne : needle ≠ []) (hslash : '/' ∉ needle) :
    needle <:+: dir.toList ↔ ∃ part ∈ trimParts front, needle <:+: part := by
  rw [parent?_of_trimParts h] at hdir
  cases habove : trimParts front with
  | nil =>
    rw [habove] at hdir
    rw [← Option.some.inj hdir, iff_false_right (by simp)]
    split
    · intro hneedle
      obtain ⟨c, rest, rfl⟩ := List.exists_cons_of_ne_nil hne
      obtain rfl : c = '/' := by simpa using hneedle.subset List.mem_cons_self
      exact hslash List.mem_cons_self
    · exact fun hneedle => hne (List.infix_nil.1 hneedle)
  | cons first rest =>
    rw [habove] at hdir
    rw [← Option.some.inj hdir, ofParts, String.toList_ofList,
      Text.infix_intercalate_iff (List.cons_ne_nil first rest) hslash]

theorem EndsIn.infix_parent?_iff (h : path.EndsIn front last) (hdir : path.parent? = some dir) (hslash : '/' ∉ needle)
    (hdot : ¬ needle <:+: ['.']) : needle <:+: dir.toList ↔ ∃ part ∈ front, needle <:+: part := by
  have hne : needle ≠ [] := fun hempty => hdot (hempty ▸ List.nil_infix)
  obtain ⟨tail, hfront, htail, -⟩ := exists_trimParts_append front
  have hnone : ¬ ∃ part ∈ tail, needle <:+: part := by
    rintro ⟨part, hpart, hneedle⟩
    rcases htail part hpart with rfl | rfl
    · exact hne (List.infix_nil.1 hneedle)
    · exact hdot hneedle
  rw [Path.infix_parent?_iff h.namesIn.trimParts_parts hdir hne hslash]
  conv_rhs => rw [hfront]
  simp only [List.mem_append, or_and_right, exists_or, or_iff_left hnone]

/-- A last, empty part of a path holds no text and does not come between those in front of it and the names below. -/
theorem exists_mem_trimParts_below_iff (hne : needle ≠ []) (hfront : front ≠ []) (hnames : ∀ n ∈ names, IsName n) :
    (∃ part ∈ trimParts (front ++ [[]] ++ names.map String.toList), needle <:+: part) ↔
      ∃ part ∈ trimParts (front ++ names.map String.toList), needle <:+: part := by
  by_cases hempty : names = []
  · rw [hempty, List.map_nil, List.append_nil, List.append_nil, trimParts_append (by simp) hfront]
  obtain ⟨others, last, rfl⟩ : ∃ others last, names = others ++ [last] :=
    ⟨_, _, (List.dropLast_concat_getLast hempty).symm⟩
  have hlast : IsName last := hnames last (by simp)
  rw [List.map_append, List.map_singleton, ← List.append_assoc, ← List.append_assoc,
    trimParts_append_singleton hlast.toList_ne_nil hlast.toList_ne_dot,
    trimParts_append_singleton hlast.toList_ne_nil hlast.toList_ne_dot]
  simp [or_and_right, exists_or, hne]

/-- Below a parent, what occurs in the path of the directory is what occurs there or in the parent. -/
theorem EndsIn.infix_parent?_join_iff {above : Path} (h : path.EndsIn front last) (hparent : parent ≠ "")
    (hpath : ¬ path.IsAbsolute) (hdir : path.parent? = some dir) (habove : (parent.join path).parent? = some above)
    (hslash : '/' ∉ needle) (hdot : ¬ needle <:+: ['.']) (hclear : ¬ needle <:+: parent.toList) :
    needle <:+: above.toList ↔ needle <:+: dir.toList := by
  obtain ⟨before, -, hbefore, hjoin⟩ := exists_front hparent
  have hends : (parent.join path).EndsIn (before ++ front) last :=
    ⟨by rw [hjoin path hpath, h.1, List.append_assoc], h.2⟩
  have hnone : ¬ ∃ part ∈ before, needle <:+: part := by
    rintro ⟨part, hpart, hneedle⟩
    have hpart' : part ∈ parent.parts := by rcases hbefore with hbefore | hbefore <;> simp [hbefore, hpart]
    exact hclear ((Text.infix_iff_exists_mem_fields hslash).2 ⟨part, hpart', hneedle⟩)
  rw [h.infix_parent?_iff hdir hslash hdot, hends.infix_parent?_iff habove hslash hdot]
  simp only [List.mem_append, or_and_right, exists_or, or_iff_right hnone]

theorem EndsIn.join (h : path.EndsIn front last) (hparent : parent ≠ "") (hpath : ¬ path.IsAbsolute) :
    ∃ front, (parent.join path).EndsIn front last := by
  obtain ⟨before, -, -, hjoin⟩ := exists_front hparent
  exact ⟨before ++ front, by rw [hjoin path hpath, h.1, List.append_assoc], h.2⟩

end

end Path

/-- A path that leads to a file ends in a name. -/
theorem Store.exists_endsIn_of_isFile {store : Store} {path : Path} (h : store.isFile path = true) :
    ∃ front last, path.EndsIn front last := by
  cases hstat : store.stat path with
  | error error =>
    rw [isFile, hstat] at h
    cases h
  | ok node =>
    obtain ⟨at_, hresolve, hnode⟩ := Except.bind_eq_ok_iff.1 hstat
    have hplain : store.node? at_ ≠ some .dir := by
      intro hdir
      rw [hdir] at hnode
      cases hnode
      rw [isFile, hstat] at h
      cases h
    obtain ⟨front, name, hsteps, hname⟩ := exists_steps_of_resolve hresolve hplain
    obtain ⟨parts, hends⟩ := Path.exists_endsIn_of_steps hsteps hname
    exact ⟨parts, _, hends⟩

end RunCharts.Files
