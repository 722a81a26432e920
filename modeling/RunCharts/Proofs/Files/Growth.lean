import RunCharts.Proofs.Files.Keeps

/-! # Making directories

A store extends another one when it has more directories and is otherwise the same (`Extends`). Making a
directory with those above it extends the store by directories to which their paths lead (`Grows`), also
where it fails halfway (`grows_makeDirs`). -/

namespace RunCharts.Files.Store

variable {store old mid new : Store} {paths : List Path} {path : Path} {at_ : Location}

/-- The new store has all that the old one has, and beyond that only directories. -/
structure Extends (old new : Store) : Prop where
  start : new.start = old.start
  same : ∀ at_ node, old.node? at_ = some node → new.node? at_ = some node
  adds : ∀ at_ node, new.node? at_ = some node → old.node? at_ = some node ∨ node = .dir

namespace Extends

theorem refl (store : Store) : Extends store store :=
  ⟨rfl, fun _ _ h => h, fun _ _ h => .inl h⟩

theorem trans (h : Extends old mid) (h' : Extends mid new) : Extends old new := by
  refine ⟨h'.start.trans h.start, fun at_ node hnode => h'.same _ _ (h.same _ _ hnode), fun at_ node hnode => ?_⟩
  rcases h'.adds at_ node hnode with hmid | hdir
  · exact h.adds at_ node hmid
  · exact .inr hdir

theorem keeps (h : Extends old new) : Keeps old new := by
  refine ⟨h.start, fun at_ hsome => ?_, fun at_ hdir => h.same _ _ hdir, fun at_ target =>
    ⟨fun hlink => ?_, h.same _ _⟩⟩
  · obtain ⟨node, hnode⟩ := Option.ne_none_iff_exists'.1 hsome
    rw [h.same _ _ hnode]
    exact Option.some_ne_none node
  · rcases h.adds _ _ hlink with hold | hdir
    · exact hold
    · cases hdir

end Extends

/-- The new store extends the old one, by directories to which the paths lead. -/
structure Grows (paths : List Path) (old new : Store) : Prop extends Extends old new where
  leads : ∀ at_, old.node? at_ = none → new.node? at_ ≠ none → ∃ path ∈ paths, new.resolve path = .ok at_

namespace Grows

theorem refl (paths : List Path) (store : Store) : Grows paths store store :=
  ⟨.refl store, fun _ hnone hsome => absurd hnone hsome⟩

theorem mono {paths' : List Path} (h : Grows paths old new) (hsub : paths ⊆ paths') :
    Grows paths' old new := by
  refine ⟨h.toExtends, fun at_ hnone hsome => ?_⟩
  obtain ⟨path, hpath, hresolve⟩ := h.leads at_ hnone hsome
  exact ⟨path, hsub hpath, hresolve⟩

theorem trans (h : Grows paths old mid) (h' : Grows paths mid new) : Grows paths old new := by
  refine ⟨h.toExtends.trans h'.toExtends, fun at_ hnone hsome => ?_⟩
  by_cases hmid : mid.node? at_ = none
  · exact h'.leads at_ hmid hsome
  · obtain ⟨path, hpath, hresolve⟩ := h.leads at_ hnone hmid
    exact ⟨path, hpath, h'.keeps.resolve hresolve⟩

end Grows

/-! ### Making one directory -/

/-- Where a path names an entry: its last name, in the directory to which the ones before lead. -/
theorem entry_eq_ok (h : store.entry path = .ok at_) : ∃ above name dir,
    path.check = .ok () ∧ path.names = above ++ [name] ∧
    store.walk .follow maxLinks (store.origin path) (above ++ [""]) = .ok dir ∧
    name ∉ [".", ".."] ∧ name.utf8ByteSize ≤ 255 ∧ at_ = dir ++ [name] := by
  rw [entry, Path.filter_steps] at h
  obtain ⟨_, hcheck, h⟩ := Except.bind_eq_ok_iff.1 h
  cases hnames : path.names.reverse with
  | nil => rw [hnames] at h; cases h
  | cons name above =>
    rw [hnames] at h
    obtain ⟨dir, hwalk, h⟩ := Except.bind_eq_ok_iff.1 h
    split at h
    · cases h
    rename_i hdots
    split at h
    · cases h
    rename_i hlong
    cases h
    refine ⟨above.reverse, name, dir, hcheck, ?_, hwalk, by simpa using hdots, Nat.not_lt.1 hlong, rfl⟩
    rw [← List.reverse_reverse path.names, hnames, List.reverse_cons]

/-- A directory at the location that a path names is what the path leads to. -/
theorem resolve_of_entry (hentry : store.entry path = .ok at_) (h : Keeps store new)
    (hdir : new.node? at_ = some .dir) : new.resolve path = .ok at_ := by
  obtain ⟨above, name, dir, hcheck, hnames, hwalk, hdots, hlong, rfl⟩ := entry_eq_ok hentry
  obtain ⟨habove, links, hmore⟩ := walk_append_of_dir (h.frames.walk hwalk)
  have hempty : name ≠ "" := Path.ne_empty_of_mem_names (show name ∈ path.names by simp [hnames])
  have hpace (rest : List String) :
      new.pace .follow links dir name rest = .ok ⟨links, dir ++ [name], rest⟩ := by
    refine pace_eq_ok_iff.2 ⟨habove, .inr (.inr ⟨by simp_all, by simp, hlong, .inr ⟨fun target => ?_, rfl⟩⟩)⟩
    rw [hdir]
    simp
  refine Except.bind_eq_ok_iff.2 ⟨(), hcheck, ?_⟩
  rw [origin, h.start, ← origin]
  rcases path.steps_eq with hsteps | hsteps <;> rw [hsteps, hnames]
  · rw [hmore, walk_cons, hpace, Except.ok_bind, walk_nil]
  · rw [List.append_assoc, hmore, List.singleton_append, walk_cons, hpace, Except.ok_bind]
    exact walk_empty_step_eq_ok_iff.2 ⟨hdir, rfl⟩

theorem isName_of_mem_names {name : String} (h : name ∈ path.names) (hdots : name ∉ [".", ".."]) :
    IsName name := by
  obtain ⟨part, hpart, rfl⟩ := List.mem_map.1 h
  obtain ⟨hmem, hempty⟩ := List.mem_filter.1 hpart
  refine ⟨?_, ?_⟩
  · simp_all
  · rw [String.toList_ofList]
    exact Text.notMem_of_mem_fields hmem

theorem node?_makeDir (h : store.makeDir path = .ok new) : ∃ at_, store.entry path = .ok at_ ∧
    store.node? at_ = none ∧ new.start = store.start ∧
      ∀ p, new.node? p = if p = at_ then some .dir else store.node? p := by
  obtain ⟨at_, hentry, h⟩ := Except.bind_eq_ok_iff.1 h
  split at h
  · cases h
  rename_i hnone
  cases h
  obtain ⟨above, name, dir, -, hnames, hwalk, hdots, -, rfl⟩ := entry_eq_ok hentry
  have hname : IsName name := isName_of_mem_names (show name ∈ path.names by simp [hnames]) hdots
  have hparent : store.node? (dir ++ [name]).dropLast = some .dir := by
    rw [List.dropLast_concat]
    exact (walk_append_of_dir hwalk).1
  have hplain : store.node? (dir ++ [name]) ≠ some .dir := by
    rw [hnone]
    exact fun h => by cases h
  have hlast : ∀ last ∈ (dir ++ [name]).getLast?, IsName last := by simpa using hname
  exact ⟨_, hentry, hnone, by rw [put, dif_pos ⟨hparent, hplain, hlast⟩], node?_put .dir hparent hplain hlast⟩

theorem extends_makeDir (h : store.makeDir path = .ok new) : Extends store new := by
  obtain ⟨at_, -, hnone, hstart, hnode⟩ := node?_makeDir h
  refine ⟨hstart, fun p node hp => ?_, fun p node hp => ?_⟩
  · rwa [hnode, if_neg]
    rintro rfl
    rw [hnone] at hp
    cases hp
  · rw [hnode] at hp
    split at hp
    · exact .inr (Option.some.inj hp).symm
    · exact .inl hp

theorem resolve_makeDir (h : store.makeDir path = .ok new) : ∃ at_, new.resolve path = .ok at_ ∧
    new.node? at_ = some .dir ∧ ∀ p, p ≠ at_ → new.node? p = store.node? p := by
  obtain ⟨at_, hentry, -, -, hnode⟩ := node?_makeDir h
  have hdir : new.node? at_ = some .dir := by rw [hnode, if_pos rfl]
  exact ⟨at_, resolve_of_entry hentry (extends_makeDir h).keeps hdir, hdir, fun p hp => by rw [hnode, if_neg hp]⟩

theorem grows_makeDir (h : store.makeDir path = .ok new) : Grows [path] store new := by
  obtain ⟨at_, hresolve, -, hnode⟩ := resolve_makeDir h
  refine ⟨extends_makeDir h, fun p hold hsome => ⟨path, List.mem_singleton_self path, ?_⟩⟩
  by_cases hp : p = at_
  · rwa [hp]
  · rw [hnode p hp] at hsome
    exact absurd hold hsome

/-! ### Making a directory with those above it -/

/-- Makes a directory, unless there is one already. -/
def settle (store : Store) (path : Path) : Store × Except FileError Unit :=
  match store.makeDir path with
  | .ok made => (made, .ok ())
  | .error error => (store, if store.isDir path then .ok () else .error error)

theorem makeDirsAlong_cons (store : Store) (path : Path) (above : List Path) :
    store.makeDirsAlong (path :: above) =
      match store.makeDir path with
      | .error .notFound =>
        match store.makeDirsAlong above with
        | (made, .ok ()) => made.settle path
        | failed => failed
      | _ => store.settle path := by
  rw [makeDirsAlong]
  rfl

theorem grows_settle (store : Store) (path : Path) : Grows [path] store (store.settle path).1 := by
  rw [settle]
  cases hmake : store.makeDir path with
  | ok made => exact grows_makeDir hmake
  | error error => exact .refl _ _

theorem exists?_settle (h : (store.settle path).2 = .ok ()) : (store.settle path).1.exists? path = true := by
  rw [settle] at h ⊢
  cases hmake : store.makeDir path with
  | ok made =>
    obtain ⟨at_, hresolve, hdir, -⟩ := resolve_makeDir hmake
    refine exists?_iff.2 ⟨at_, hresolve, ?_⟩
    rw [hdir]
    exact Option.some_ne_none _
  | error error =>
    rw [hmake] at h
    dsimp only at h ⊢
    split at h
    · rename_i hdir
      rw [isDir] at hdir
      rw [exists?]
      cases hstat : store.stat path with
      | ok node => rfl
      | error error => rw [hstat] at hdir; cases hdir
    · cases h

theorem grows_makeDirsAlong (store : Store) (paths : List Path) :
    Grows paths store (store.makeDirsAlong paths).1 := by
  induction paths with
  | nil => exact .refl _ _
  | cons path above ih =>
    have hup := ih.mono (List.subset_cons_self path above)
    have hsettle (store : Store) : Grows (path :: above) store (store.settle path).1 :=
      (grows_settle store path).mono (by simp)
    rw [makeDirsAlong_cons]
    split
    · split
      · rename_i made hmade
        rw [hmade] at hup
        exact hup.trans (hsettle made)
      · exact hup
    · exact hsettle store

theorem grows_makeDirs (store : Store) (path : Path) : Grows path.ancestors store (store.makeDirs path).1 :=
  grows_makeDirsAlong store path.ancestors

theorem exists?_makeDirsAlong {above : List Path} (h : (store.makeDirsAlong (path :: above)).2 = .ok ()) :
    (store.makeDirsAlong (path :: above)).1.exists? path = true := by
  rw [makeDirsAlong_cons] at h ⊢
  split at h
  · rcases hmade : store.makeDirsAlong above with ⟨made, error | done⟩ <;> rw [hmade] at h
    · cases h
    · exact exists?_settle h
  · exact exists?_settle h

/-- A directory that has been made is there; the empty path asks for none. -/
theorem exists?_makeDirs (h : (store.makeDirs path).2 = .ok ()) :
    path = "" ∨ (store.makeDirs path).1.exists? path = true := by
  by_cases hempty : path = ""
  · exact .inl hempty
  right
  obtain ⟨above, habove⟩ := Path.exists_ancestors_eq_cons hempty
  rw [makeDirs, habove] at h ⊢
  exact exists?_makeDirsAlong h

end RunCharts.Files.Store
