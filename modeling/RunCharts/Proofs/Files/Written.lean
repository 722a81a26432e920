import Mathlib.Data.List.Infix
import RunCharts.Proofs.Files.Growth
import RunCharts.Proofs.Files.Way

/-! # Files that have been written

`Wrote` says what writing files and making directories has done to a store: what is not one of the files or one of
the directories is as it was, and the files read as what was written to them. This can be put together from parts
(`Wrote.trans`), as long as no file is written over another one.

Without links on its way a path leads where its names say (`IsDirect.eq_of_resolve`), so files of different names
are not written over one another. -/

namespace RunCharts.Files

/-- Where a step leads from a location, if no link is there. -/
def Location.go (here : Location) (name : String) : Location :=
  if name = "" ∨ name = "." then here
  else if name = ".." then here.dropLast
  else here ++ [name]

namespace Store

variable {store old mid new : Store} {dirs : List Path} {files files' : List (Path × List UInt8)} {path : Path}
  {at_ : Location} {content : List UInt8}

/-! ### Paths without links -/

/-- A path neither is a link nor passes through one, as its steps go. -/
def IsDirect (store : Store) (path : Path) : Prop := ∀ names, names <+: path.steps → ∀ target,
  store.node? (names.foldl Location.go (store.origin path)) ≠ some (.link target)

/-- Where there is no link, a step goes where its name says. -/
theorem eq_go_of_pace {last : LastName} {links : Nat} {here : Location} {name : String} {rest : List String}
    {next : Pace} (hplain : ∀ target, store.node? (here.go name) ≠ some (.link target))
    (h : store.pace last links here name rest = .ok next) : next = ⟨links, here.go name, rest⟩ := by
  rcases (pace_eq_ok_iff.1 h).2 with
    ⟨hdot, rfl⟩ | ⟨rfl, rfl⟩ | ⟨hname, -, -, ⟨target, links', hlink, -, -⟩ | ⟨-, rfl⟩⟩
  · rw [Location.go, if_pos hdot]
  · rfl
  · rw [Location.go, if_neg (by simp_all), if_neg (by simp_all)] at hplain
    exact absurd hlink (hplain target)
  · rw [Location.go, if_neg (by simp_all), if_neg (by simp_all)]

section

variable {last : LastName} {links : Nat} {here there p : Location} {names : List String}

theorem eq_of_walk_of_direct
    (hdirect : ∀ front, front <+: names → ∀ target, store.node? (front.foldl Location.go here) ≠ some (.link target))
    (h : store.walk last links here names = .ok there) : there = names.foldl Location.go here := by
  induction names generalizing links here with
  | nil =>
    rw [walk_nil] at h
    exact (Except.ok.inj h).symm
  | cons name rest ih =>
    rw [walk_cons] at h
    obtain ⟨next, hpace, hnext⟩ := Except.bind_eq_ok_iff.1 h
    obtain rfl := eq_go_of_pace (hdirect [name] (List.cons_prefix_cons.2 ⟨rfl, List.nil_prefix⟩)) hpace
    exact ih (fun front hfront => hdirect (name :: front) (List.cons_prefix_cons.2 ⟨rfl, hfront⟩)) hnext

end

theorem IsDirect.eq_of_resolve {last : LastName} (h : store.IsDirect path)
    (hresolve : store.resolve path last = .ok at_) : at_ = path.steps.foldl Location.go (store.origin path) := by
  obtain ⟨_, -, hwalk⟩ := Except.bind_eq_ok_iff.1 hresolve
  exact eq_of_walk_of_direct h hwalk

theorem IsDirect.keeps (hkeeps : Keeps old new) (h : old.IsDirect path) : new.IsDirect path := by
  intro names hnames target hlink
  rw [origin, hkeeps.start, ← origin] at hlink
  exact h names hnames target ((hkeeps.links _ target).1 hlink)

theorem IsDirect.getLast?_of_join {root : Path} {name : String} (hname : IsName name)
    (h : store.IsDirect (root.join name)) (hresolve : store.resolve (root.join name) = .ok at_) :
    at_.getLast? = some name := by
  obtain ⟨front, hfront⟩ := Path.exists_steps_join root hname
  rw [h.eq_of_resolve hresolve, hfront, List.foldl_append, List.foldl_cons, List.foldl_nil, Location.go,
    if_neg (not_or.2 ⟨hname.ne_empty, hname.ne_dot⟩), if_neg hname.ne_dots, List.getLast?_concat]

/-! ### What has been written -/

/-- Files have been written and directories made, and nothing else has been done. -/
structure Wrote (dirs : List Path) (files : List (Path × List UInt8)) (old new : Store) : Prop where
  keeps : Keeps old new
  changed : ∀ at_, new.node? at_ = old.node? at_ ∨
    (old.node? at_ = none ∧ new.node? at_ = some .dir ∧ ∃ path ∈ dirs, new.resolve path = .ok at_) ∨
    ∃ file ∈ files, new.resolve file.1 = .ok at_ ∧ new.node? at_ = some (.file file.2)
  reads : ∀ file ∈ files, new.read file.1 = .ok file.2

theorem Wrote.refl (dirs : List Path) (store : Store) : Wrote dirs [] store store :=
  ⟨.refl store, fun _ => .inl rfl, by simp⟩

theorem Grows.wrote (h : Grows dirs old new) : Wrote dirs [] old new := by
  refine ⟨h.keeps, fun at_ => ?_, by simp⟩
  cases hnew : new.node? at_ with
  | none =>
    cases hold : old.node? at_ with
    | none => exact .inl rfl
    | some node =>
      rw [h.same at_ node hold] at hnew
      cases hnew
  | some node =>
    rcases h.adds at_ node hnew with hold | rfl
    · exact .inl hold.symm
    · cases hold : old.node? at_ with
      | none => exact .inr (.inl ⟨rfl, rfl, h.leads at_ hold (by rw [hnew]; exact Option.some_ne_none _)⟩)
      | some node =>
        rw [h.same at_ node hold] at hnew
        exact .inl hnew.symm

theorem wrote_write (h : store.write path content = .ok new) : Wrote [] [(path, content)] store new := by
  have hread := read_write h
  obtain ⟨at_, hresolve, -, -, hnode⟩ := node?_write h
  obtain ⟨there, hthere, hcontent⟩ := read_eq_ok_iff.1 hread
  refine ⟨keeps_write h, fun p => ?_, fun file hfile => ?_⟩
  · by_cases hp : p = at_
    · have hsame : new.resolve path = .ok p := by
        obtain ⟨_, hcheck, hwalk⟩ := Except.bind_eq_ok_iff.1 ((keeps_write h).resolve hresolve)
        exact Except.bind_eq_ok_iff.2 ⟨_, hcheck, hp ▸ walk_follow_of_make hwalk⟩
      exact .inr (.inr ⟨_, List.mem_singleton_self _, hsame, by rw [hnode, if_pos hp]⟩)
    · exact .inl (by rw [hnode, if_neg hp])
  · rw [List.mem_singleton.1 hfile]
    exact hread

theorem Wrote.mono {dirs' : List Path} (h : Wrote dirs files old new) (hsub : dirs ⊆ dirs') :
    Wrote dirs' files old new := by
  refine ⟨h.keeps, fun at_ => ?_, h.reads⟩
  rcases h.changed at_ with hsame | ⟨hnone, hdir, path, hpath, hresolve⟩ | hfile
  · exact .inl hsame
  · exact .inr (.inl ⟨hnone, hdir, path, hsub hpath, hresolve⟩)
  · exact .inr (.inr hfile)

/-- Where no file is written over another one, all of them are there in the end. -/
theorem Wrote.trans (h : Wrote dirs files old mid) (h' : Wrote dirs files' mid new)
    (hapart : ∀ file ∈ files, ∀ file' ∈ files', ∀ at_, new.resolve file.1 = .ok at_ → new.resolve file'.1 ≠ .ok at_) :
    Wrote dirs (files ++ files') old new := by
  have hstays {file : Path × List UInt8} (hfile : file ∈ files) {at_ : Location}
      (hresolve : mid.resolve file.1 = .ok at_)
      (hcontent : mid.node? at_ = some (.file file.2)) : new.node? at_ = some (.file file.2) := by
    rcases h'.changed at_ with hsame | ⟨hnone, -⟩ | ⟨file', hfile', hresolve', -⟩
    · rw [hsame, hcontent]
    · rw [hcontent] at hnone
      cases hnone
    · exact absurd hresolve' (hapart file hfile file' hfile' at_ (h'.keeps.resolve hresolve))
  refine ⟨h.keeps.trans h'.keeps, fun at_ => ?_, fun file hfile => ?_⟩
  · rcases h'.changed at_ with hsame | ⟨hnone, hdir⟩ | ⟨file, hfile, hresolve⟩
    · rcases h.changed at_ with hold | ⟨hnone, hdir, path, hpath, hresolve⟩ | ⟨file, hfile, hresolve, hcontent⟩
      · exact .inl (hsame.trans hold)
      · exact .inr (.inl ⟨hnone, hsame.trans hdir, path, hpath, h'.keeps.resolve hresolve⟩)
      · exact .inr (.inr ⟨file, List.mem_append_left _ hfile, h'.keeps.resolve hresolve, hsame.trans hcontent⟩)
    · refine .inr (.inl ⟨?_, hdir⟩)
      by_contra hsome
      exact h.keeps.stays at_ hsome hnone
    · exact .inr (.inr ⟨file, List.mem_append_right _ hfile, hresolve⟩)
  · rcases List.mem_append.1 hfile with hfile | hfile
    · obtain ⟨at_, hresolve, hcontent⟩ := read_eq_ok_iff.1 (h.reads file hfile)
      exact read_eq_ok_iff.2 ⟨at_, h'.keeps.resolve hresolve, hstays hfile hresolve hcontent⟩
    · exact h'.reads file hfile

/-- A directory that was there before has not been made. -/
theorem Wrote.restrict {dirs' : List Path} (h : Wrote dirs files old new)
    (hdirs : ∀ path ∈ dirs, path ∈ dirs' ∨ old.exists? path = true) : Wrote dirs' files old new := by
  refine ⟨h.keeps, fun at_ => ?_, h.reads⟩
  rcases h.changed at_ with hsame | ⟨hnone, hdir, path, hpath, hresolve⟩ | hfile
  · exact .inl hsame
  · rcases hdirs path hpath with hmem | hexists
    · exact .inr (.inl ⟨hnone, hdir, path, hmem, hresolve⟩)
    · obtain ⟨there, hthere, hsome⟩ := exists?_iff.1 hexists
      rw [h.keeps.resolve hthere] at hresolve
      cases hresolve
      exact absurd hnone hsome
  · exact .inr (.inr hfile)

/-! ### Writing what is there -/

theorem insertNode_of_mem {node : Node} {nodes : List (Location × Node)} (hsorted : nodes.Pairwise (·.1 < ·.1))
    (h : (at_, node) ∈ nodes) : insertNode at_ node nodes = nodes := by
  induction nodes with
  | nil => cases h
  | cons first rest ih =>
    obtain ⟨hfirst, hrest⟩ := List.pairwise_cons.1 hsorted
    rcases List.mem_cons.1 h with rfl | h
    · rw [insertNode, if_neg (List.lt_irrefl _), if_pos rfl]
    · have hlt := hfirst _ h
      rw [insertNode, if_neg (List.lt_asymm hlt), if_neg fun heq => List.lt_irrefl _ (heq ▸ hlt), ih hrest h]

theorem put_self {node : Node} (h : store.node? at_ = some node) : store.put at_ node = store := by
  rw [put]
  split
  · have hnodes := insertNode_of_mem store.sorted (node?_eq_some_iff.1 h)
    cases store
    simp only [hnodes]
  · rfl

/-- A file that reads as what is written to it stays as it is. -/
theorem write_of_read (hmake : store.resolve path .make = .ok at_) (h : store.read path = .ok content) :
    store.write path content = .ok store := by
  obtain ⟨there, hthere, hcontent⟩ := read_eq_ok_iff.1 h
  obtain ⟨_, hcheck, hwalk⟩ := Except.bind_eq_ok_iff.1 hmake
  have hfollow : store.resolve path = .ok at_ := Except.bind_eq_ok_iff.2 ⟨_, hcheck, walk_follow_of_make hwalk⟩
  rw [hfollow] at hthere
  cases hthere
  rw [write, hmake, Except.ok_bind, hcontent]
  dsimp only
  rw [put_self hcontent]

end Store

end RunCharts.Files
