import RunCharts.Analysis.Cache
import RunCharts.Proofs.Files.Joined

/-! # Gates

A text without a slash cannot stand across two parts of a path. So a query that asks for it in the path of the directory
asks for a part that holds it: of the path of the run as it was given, or the name of a directory below. The name of
the file is not among them (`FileQuery.isGatedBy_of_within`). -/

namespace RunCharts

open Files

/-- The names that follow a rule. -/
inductive NameRule.Allows : NameRule → List Char → Prop
  | exact (name : List Char) : Allows (.exact name) name
  | ending (front text : List Char) : Allows (.ending text) (front ++ text)

theorem NameRule.admits_iff {rule : NameRule} {name : List Char} : rule.admits name = true ↔ rule.Allows name := by
  cases rule with
  | exact wanted =>
    rw [admits, beq_iff_eq]
    constructor
    · rintro rfl
      exact .exact name
    · rintro ⟨⟩
      rfl
  | ending text =>
    rw [admits, List.isSuffixOf_iff_suffix]
    constructor
    · rintro ⟨front, rfl⟩
      exact .ending front text
    · intro h
      cases h with
      | ending front => exact List.suffix_append front text

namespace FileQuery

/-- What a query asks of the path of a file if it asks for a text in that of the directory. -/
structure IsGatedBy (query : FileQuery) (gate : List Char) : Prop where
  /-- The name follows the rule, and a part of the path of the directory holds the text. -/
  selects_iff : ∀ path : Path, query.selects path = true ↔ ∃ name dir, path.fileName? = some name ∧
    path.parent? = some dir ∧ query.name.Allows name ∧ ∃ part ∈ dir.parts, gate <:+: part
  /-- These are the parts in front of the name, without those at their end that say nothing. -/
  selects_iff_parts : ∀ path : Path, query.selects path = true ↔ ∃ front name, path.NamesIn front name ∧
    query.name.Allows name ∧ ∃ part ∈ Path.trimParts front, gate <:+: part
  /-- A text that stands in no other part opens no gate, whether the name holds it or not. -/
  not_selects : ∀ (path : Path) front name, path.NamesIn front name → (∀ part ∈ front, ¬ gate <:+: part) →
    query.selects path = false
  /-- Wherever the text stands in the path of a directory, it lies within one part. -/
  lies_in_part : ∀ (dir : Path) before after, dir.toList = before ++ gate ++ after →
    ∃ front left right back, dir.parts = front ++ (left ++ gate ++ right) :: back ∧
      before = front.flatMap (· ++ ['/']) ++ left ∧ after = right ++ back.flatMap ('/' :: ·)
  /-- The parts of a run count as they were given, and so do the names of the directories below it. -/
  selects_below_iff : ∀ (root : Path) names name, root ≠ "" → (∀ n ∈ names, IsName n) → IsName name →
    (query.selects (root.below (names ++ [name])) = true ↔ query.name.Allows name.toList ∧
      ∃ part ∈ Path.trimParts (root.parts ++ names.map String.toList), gate <:+: part)

section

variable {query : FileQuery} {gate name : List Char} {path root : Path} {front : List (List Char)}

theorem selects_iff_of_within (hwithin : query.within = some gate) (hslash : '/' ∉ gate) (path : Path) :
    query.selects path = true ↔ ∃ name dir, path.fileName? = some name ∧ path.parent? = some dir ∧
      query.name.Allows name ∧ ∃ part ∈ dir.parts, gate <:+: part := by
  have hpasses (dir : Path) : query.passes dir = true ↔ ∃ part ∈ dir.parts, gate <:+: part := by
    rw [passes, hwithin, Option.all_some, Text.occursIn_iff, Text.infix_iff_exists_mem_fields hslash, Path.parts]
  simp only [selects, Bool.and_eq_true, Option.any_eq_true, NameRule.admits_iff, hpasses]
  constructor
  · rintro ⟨⟨name, hname, hrule⟩, dir, hdir, hpart⟩
    exact ⟨name, dir, hname, hdir, hrule, hpart⟩
  · rintro ⟨name, dir, hname, hdir, hrule, hpart⟩
    exact ⟨⟨name, hname, hrule⟩, dir, hdir, hpart⟩

theorem selects_iff_of_namesIn (hwithin : query.within = some gate) (hne : gate ≠ []) (hslash : '/' ∉ gate)
    (h : path.NamesIn front name) :
    query.selects path = true ↔ query.name.Allows name ∧ ∃ part ∈ Path.trimParts front, gate <:+: part := by
  obtain ⟨dir, hdir⟩ := h.exists_parent?
  rw [← Path.infix_parent?_iff h.trimParts_parts hdir hne hslash, Text.infix_iff_exists_mem_fields hslash,
    selects_iff_of_within hwithin hslash]
  constructor
  · rintro ⟨name', dir', hname', hdir', hrule, hpart⟩
    obtain rfl := Option.some.inj (hname'.symm.trans h.fileName?)
    obtain rfl := Option.some.inj (hdir'.symm.trans hdir)
    exact ⟨hrule, hpart⟩
  · rintro ⟨hrule, hpart⟩
    exact ⟨name, dir, h.fileName?, hdir, hrule, hpart⟩

theorem selects_below_iff_of_within {names : List String} {name : String} (hwithin : query.within = some gate)
    (hne : gate ≠ []) (hslash : '/' ∉ gate) (hroot : root ≠ "") (hnames : ∀ n ∈ names, IsName n) (hname : IsName name) :
    query.selects (root.below (names ++ [name])) = true ↔ query.name.Allows name.toList ∧
      ∃ part ∈ Path.trimParts (root.parts ++ names.map String.toList), gate <:+: part := by
  obtain ⟨front, hfront, hroot', hbelow⟩ := Path.exists_front_below hroot
  have hall : ∀ n ∈ names ++ [name], IsName n := by
    intro n hn
    rcases List.mem_append.1 hn with hn | hn
    · exact hnames n hn
    · rwa [List.mem_singleton.1 hn]
  have hparts : (root.below (names ++ [name])).parts = (front ++ names.map String.toList) ++ [name.toList] := by
    rw [hbelow _ (by simp) hall, List.map_append, List.map_singleton, List.append_assoc]
  have hends : (root.below (names ++ [name])).EndsIn (front ++ names.map String.toList) name.toList :=
    ⟨hparts, by simp [hname.ne_empty, hname.toList_ne_dot, hname.toList_ne_dots]⟩
  rw [selects_iff_of_namesIn hwithin hne hslash hends.namesIn]
  rcases hroot' with h | h <;> rw [h]
  rw [Path.exists_mem_trimParts_below_iff hne hfront hnames]

end

variable {query : FileQuery} {gate : List Char}

theorem isGatedBy_of_within (hwithin : query.within = some gate) (hne : gate ≠ []) (hslash : '/' ∉ gate) :
    query.IsGatedBy gate where
  selects_iff := selects_iff_of_within hwithin hslash
  selects_iff_parts path := by
    constructor
    · intro h
      obtain ⟨name, -, hname, -⟩ := (selects_iff_of_within hwithin hslash path).1 h
      obtain ⟨front, hin⟩ := Path.exists_namesIn hname
      exact ⟨front, name, hin, (selects_iff_of_namesIn hwithin hne hslash hin).1 h⟩
    · rintro ⟨front, name, hin, h⟩
      exact (selects_iff_of_namesIn hwithin hne hslash hin).2 h
  not_selects path front name hin hnone := by
    rw [Bool.eq_false_iff, ne_eq, selects_iff_of_namesIn hwithin hne hslash hin]
    rintro ⟨-, part, hpart, hgate⟩
    obtain ⟨tail, hfront, -, -⟩ := Path.exists_trimParts_append front
    exact hnone part (hfront ▸ List.mem_append_left tail hpart) hgate
  lies_in_part dir before after hdir := by
    rw [Path.parts, hdir]
    exact Text.exists_field_of_append hslash before after
  selects_below_iff root names name := selects_below_iff_of_within hwithin hne hslash

/-- A scout opens the gate for what it holds, and so does a run that is named like one. A name that a slash cuts in two
does not, nor does the name of a file. -/
theorem isGatedBy_scoutLogs : (Analysis.Cache.scoutLogs "scout-size").within = some "scout-".toList ∧
    "scout-".toList ≠ [] ∧ '/' ∉ "scout-".toList ∧
    (Analysis.Cache.scoutLogs "scout-size").selects "./scout-7//a/scout-size/." = true ∧
    (Analysis.Cache.scoutLogs "scout-size").selects (Path.below "/scout-runs/./" ["a", "scout-size"]) = true ∧
    (Analysis.Cache.scoutLogs "scout-size").selects "sco/ut-7/a/scout-size" = false := by
  have hne : "scout-".toList ≠ [] := by decide
  have hslash : '/' ∉ "scout-".toList := by decide
  have hgated : (Analysis.Cache.scoutLogs "scout-size").IsGatedBy "scout-".toList :=
    isGatedBy_of_within rfl hne hslash
  have hname : (Analysis.Cache.scoutLogs "scout-size").name.Allows "scout-size".toList := .exact _
  refine ⟨rfl, hne, hslash, ?_, ?_, ?_⟩
  · refine (hgated.selects_iff_parts _).2 ⟨[".", "scout-7", "", "a"].map String.toList, "scout-size".toList, ?_, ?_⟩
    · exact ⟨by decide, [['.']], by decide, by simp⟩
    · exact ⟨hname, "scout-7".toList, by decide, [], ['7'], by decide⟩
  · have hbelow := hgated.selects_below_iff "/scout-runs/./" ["a"] "scout-size" (by decide) (by decide) (by decide)
    exact hbelow.2 ⟨hname, "scout-runs".toList, by decide, [], "runs".toList, by decide⟩
  · refine hgated.not_selects _ (["sco", "ut-7", "a"].map String.toList) "scout-size".toList ?_ ?_
    · exact ⟨by decide, [], by decide, by simp⟩
    · simp only [← Text.occursIn_iff]
      decide

end FileQuery

end RunCharts
