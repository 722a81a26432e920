import RunCharts.Files.Access
import RunCharts.Proofs.Files.Steps
import RunCharts.Proofs.Files.Walk

/-! # What stays in place

A store keeps another one when all that was there is still there, with the same directories and links. The
paths that lead somewhere lead there still (`Keeps.resolve`). Writing a file keeps a store (`keeps_write`),
since no path leads to a link (`not_link_of_resolve`). -/

namespace RunCharts.Files.Store

variable {store old mid new : Store} {path : Path} {at_ : Location}

/-- The new store has the directories of the old one, and the same links. -/
structure Frames (old new : Store) : Prop where
  start : new.start = old.start
  dirs : ∀ at_, old.node? at_ = some .dir → new.node? at_ = some .dir
  links : ∀ at_ target, new.node? at_ = some (.link target) ↔ old.node? at_ = some (.link target)

/-- What the old store has is there in the new one, directories and links as they were, and no other links. -/
structure Keeps (old new : Store) : Prop where
  start : new.start = old.start
  stays : ∀ at_, old.node? at_ ≠ none → new.node? at_ ≠ none
  dirs : ∀ at_, old.node? at_ = some .dir → new.node? at_ = some .dir
  links : ∀ at_ target, new.node? at_ = some (.link target) ↔ old.node? at_ = some (.link target)

theorem exists?_iff : store.exists? path = true ↔
    ∃ at_, store.resolve path = .ok at_ ∧ store.node? at_ ≠ none := by
  rw [Store.exists?, stat]
  cases store.resolve path with
  | error error => simp [Except.isOk, Except.toBool]
  | ok at_ => cases hnode : store.node? at_ <;> simp [Except.isOk, Except.toBool, hnode]

theorem read_eq_ok_iff {content : List UInt8} : store.read path = .ok content ↔
    ∃ at_, store.resolve path = .ok at_ ∧ store.node? at_ = some (.file content) := by
  rw [read, stat]
  cases store.resolve path with
  | error error => simp
  | ok there =>
    simp only [Except.ok_bind, Except.ok.injEq, exists_eq_left']
    rcases store.node? there with _ | node
    · simp
    · cases node with
      | file content' => simp
      | dir => simp
      | link target => simp

theorem isFile_iff : store.isFile path = true ↔
    ∃ at_ content, store.resolve path = .ok at_ ∧ store.node? at_ = some (.file content) := by
  rw [isFile, stat]
  cases store.resolve path with
  | error error => simp
  | ok there =>
    simp only [Except.ok_bind, Except.ok.injEq, exists_and_left, exists_eq_left']
    rcases store.node? there with _ | node
    · simp
    · cases node with
      | file content => simp
      | dir => simp
      | link target => simp

theorem isFile_of_dir (h : store.resolve path = .ok at_) (hdir : store.node? at_ = some .dir) :
    store.isFile path = false := by
  rw [isFile, stat, h, Except.ok_bind, hdir]

namespace Frames

theorem trans (h : Frames old mid) (h' : Frames mid new) : Frames old new :=
  ⟨h'.start.trans h.start, fun _ hdir => h'.dirs _ (h.dirs _ hdir), fun _ _ => (h'.links _ _).trans (h.links _ _)⟩

theorem pace {last : LastName} {links : Nat} {here : Location} {name : String} {rest : List String}
    {next : Pace} (h : Frames old new) (hpace : old.pace last links here name rest = .ok next) :
    new.pace last links here name rest = .ok next := by
  rw [pace_eq_ok_iff] at hpace ⊢
  simp only [ne_eq, h.links]
  exact ⟨h.dirs _ hpace.1, hpace.2⟩

theorem walk {last : LastName} {links : Nat} {here there : Location} {names : List String}
    (h : Frames old new) (hwalk : old.walk last links here names = .ok there) :
    new.walk last links here names = .ok there := by
  induction links, here, names using walk_induction old last with
  | stays links here => rwa [walk_nil] at hwalk ⊢
  | steps links here name rest ih =>
    rw [walk_cons] at hwalk ⊢
    obtain ⟨next, hpace, hnext⟩ := Except.bind_eq_ok_iff.1 hwalk
    rw [h.pace hpace]
    exact ih next hpace hnext

theorem resolve {last : LastName} (h : Frames old new) (hresolve : old.resolve path last = .ok at_) :
    new.resolve path last = .ok at_ := by
  obtain ⟨_, hcheck, hwalk⟩ := Except.bind_eq_ok_iff.1 hresolve
  refine Except.bind_eq_ok_iff.2 ⟨_, hcheck, ?_⟩
  rw [origin, h.start]
  exact h.walk hwalk

end Frames

namespace Keeps

theorem refl (store : Store) : Keeps store store :=
  ⟨rfl, fun _ h => h, fun _ h => h, fun _ _ => Iff.rfl⟩

theorem trans (h : Keeps old mid) (h' : Keeps mid new) : Keeps old new :=
  ⟨h'.start.trans h.start, fun _ hsome => h'.stays _ (h.stays _ hsome), fun _ hdir => h'.dirs _ (h.dirs _ hdir),
    fun _ _ => (h'.links _ _).trans (h.links _ _)⟩

theorem frames (h : Keeps old new) : Frames old new := ⟨h.start, h.dirs, h.links⟩

theorem resolve {last : LastName} (h : Keeps old new) (hresolve : old.resolve path last = .ok at_) :
    new.resolve path last = .ok at_ := h.frames.resolve hresolve

theorem exists? (h : Keeps old new) (hexists : old.exists? path = true) : new.exists? path = true := by
  obtain ⟨at_, hresolve, hsome⟩ := exists?_iff.1 hexists
  exact exists?_iff.2 ⟨at_, h.resolve hresolve, h.stays _ hsome⟩

end Keeps

/-! ### Writing a file -/

theorem dir_dropLast (h : store.node? at_ = some .dir) : store.node? at_.dropLast = some .dir :=
  node?_eq_some_iff.2 (store.parent_mem _ (node?_eq_some_iff.1 h))

theorem not_link_of_walk {last : LastName} {links : Nat} {here there : Location} {names : List String}
    (hhere : names = [] → ∀ target, store.node? here ≠ some (.link target))
    (h : store.walk last links here names = .ok there) (target : Path) :
    store.node? there ≠ some (.link target) := by
  induction links, here, names using walk_induction store last with
  | stays links here =>
    rw [walk_nil] at h
    cases h
    exact hhere rfl target
  | steps links here name rest ih =>
    rw [walk_cons] at h
    obtain ⟨next, hpace, hnext⟩ := Except.bind_eq_ok_iff.1 h
    refine ih next hpace (fun hrest target hlink => ?_) hnext
    obtain ⟨hdir, ⟨-, rfl⟩ | ⟨-, rfl⟩ | ⟨-, -, -, ⟨target', links', -, -, rfl⟩ | ⟨hplain, rfl⟩⟩⟩ :=
      pace_eq_ok_iff.1 hpace
    · rw [hdir] at hlink
      cases hlink
    · rw [dir_dropLast hdir] at hlink
      cases hlink
    · exact absurd (List.append_eq_nil_iff.1 hrest).1 target'.steps_ne_nil
    · exact hplain target hlink

theorem not_link_of_resolve {last : LastName} (h : store.resolve path last = .ok at_) (target : Path) :
    store.node? at_ ≠ some (.link target) := by
  obtain ⟨_, -, hwalk⟩ := Except.bind_eq_ok_iff.1 h
  exact not_link_of_walk (fun hsteps => absurd hsteps path.steps_ne_nil) hwalk target

theorem node?_put (node : Node) (hparent : store.node? at_.dropLast = some .dir)
    (hplain : store.node? at_ ≠ some .dir) (hname : ∀ name ∈ at_.getLast?, IsName name) (p : Location) :
    (store.put at_ node).node? p = if p = at_ then some node else store.node? p := by
  have hmem (entry : Location × Node) :
      entry ∈ (store.put at_ node).nodes ↔ entry ∈ insertNode at_ node store.nodes := by
    rw [put, dif_pos ⟨hparent, hplain, hname⟩]
  refine Option.ext fun other => ?_
  rw [node?_eq_some_iff]
  by_cases hp : p = at_
  · rw [if_pos hp, hp]
    have hself := (hmem _).2 (mem_insertNode_self at_ node store.nodes)
    constructor
    · intro h
      rw [eq_of_mem_of_mem h hself]
    · intro h
      cases h
      exact hself
  · rw [if_neg hp, node?_eq_some_iff, hmem]
    refine ⟨fun h => ?_, fun h => mem_insertNode_of_ne h hp⟩
    rcases eq_or_mem_of_mem_insertNode h with heq | h
    · exact absurd (Prod.ext_iff.1 heq).1 hp
    · exact h

theorem slash_notMem_of_mem_steps {name : String} (h : name ∈ path.steps) : '/' ∉ name.toList := by
  obtain ⟨part, hpart, rfl⟩ := List.mem_map.1 h
  have hmem : part ∈ path.parts := by
    rcases List.mem_append.1 hpart with hfront | hlast
    · exact List.dropLast_subset _ (List.mem_filter.1 hfront).1
    · exact List.mem_of_mem_getLast? (Option.mem_toList.1 hlast)
  rw [String.toList_ofList]
  exact Text.notMem_of_mem_fields hmem

/-- What a walk leads to, if it is not a directory, stands in one and has a name. -/
theorem isEntry_of_walk {last : LastName} {links : Nat} {here there : Location} {names : List String}
    (hnames : ∀ name ∈ names, '/' ∉ name.toList)
    (hhere : names = [] → store.node? here ≠ some .dir →
      store.node? here.dropLast = some .dir ∧ ∀ name ∈ here.getLast?, IsName name)
    (h : store.walk last links here names = .ok there) (hplain : store.node? there ≠ some .dir) :
    store.node? there.dropLast = some .dir ∧ ∀ name ∈ there.getLast?, IsName name := by
  have hroot : store.node? [] = some .dir := node?_eq_some_iff.2 store.root_mem
  induction links, here, names using walk_induction store last with
  | stays links here =>
    rw [walk_nil] at h
    cases h
    exact hhere rfl hplain
  | steps links here name rest ih =>
    rw [walk_cons] at h
    obtain ⟨next, hpace, hnext⟩ := Except.bind_eq_ok_iff.1 h
    have hrest : ∀ n ∈ rest, '/' ∉ n.toList := fun n hn => hnames n (List.mem_cons_of_mem _ hn)
    obtain ⟨hdir, ⟨-, rfl⟩ | ⟨-, rfl⟩ | ⟨hname, -, -, ⟨target, links', -, -, rfl⟩ | ⟨-, rfl⟩⟩⟩ :=
      pace_eq_ok_iff.1 hpace
    · exact ih _ hpace hrest (fun _ hne => absurd hdir hne) hnext
    · exact ih _ hpace hrest (fun _ hne => absurd (dir_dropLast hdir) hne) hnext
    · refine ih _ hpace (fun n hn => ?_) (fun _ hne => absurd ?_ hne) hnext
      · rcases List.mem_append.1 hn with hn | hn
        · exact slash_notMem_of_mem_steps hn
        · exact hrest n hn
      · dsimp only
        split
        · exact hroot
        · exact hdir
    · refine ih _ hpace hrest (fun _ _ => ⟨?_, fun n hn => ?_⟩) hnext
      · rwa [List.dropLast_concat]
      · rw [List.getLast?_concat] at hn
        rw [← Option.some.inj hn]
        exact ⟨hname, hnames name List.mem_cons_self⟩

/-- A file is written where its path leads, and all else stays as it was. -/
theorem node?_write {content : List UInt8} (h : store.write path content = .ok new) : ∃ at_,
    store.resolve path .make = .ok at_ ∧ store.node? at_ ≠ some .dir ∧ new.start = store.start ∧
      ∀ p, new.node? p = if p = at_ then some (.file content) else store.node? p := by
  obtain ⟨at_, hresolve, h⟩ := Except.bind_eq_ok_iff.1 h
  split at h
  · cases h
  rename_i hplain
  cases h
  obtain ⟨_, -, hwalk⟩ := Except.bind_eq_ok_iff.1 hresolve
  obtain ⟨hparent, hname⟩ := isEntry_of_walk (fun _ => slash_notMem_of_mem_steps)
    (fun hsteps => absurd hsteps path.steps_ne_nil) hwalk hplain
  exact ⟨at_, hresolve, hplain, by rw [put, dif_pos ⟨hparent, hplain, hname⟩],
    node?_put (.file content) hparent hplain hname⟩

theorem keeps_write {content : List UInt8} (h : store.write path content = .ok new) : Keeps store new := by
  obtain ⟨at_, hresolve, hplain, hstart, hnode⟩ := node?_write h
  have hlink := not_link_of_resolve hresolve
  refine ⟨hstart, fun p hsome => ?_, fun p hdir => ?_, fun p target => ?_⟩
  · rw [hnode]
    split
    · exact Option.some_ne_none _
    · exact hsome
  · rw [hnode, if_neg]
    · exact hdir
    · rintro rfl
      exact hplain hdir
  · rw [hnode]
    split
    · rename_i hp
      rw [hp]
      refine ⟨fun h => ?_, fun h => absurd h (hlink target)⟩
      cases h
    · exact Iff.rfl

theorem pace_follow_of_make {links : Nat} {here : Location} {name : String} {rest : List String} {next : Pace}
    (h : store.pace .make links here name rest = .ok next) : store.pace .follow links here name rest = .ok next := by
  obtain ⟨hdir, hdot | hdots | ⟨hname, -, hshort, hmoves⟩⟩ := pace_eq_ok_iff.1 h
  · exact pace_eq_ok_iff.2 ⟨hdir, .inl hdot⟩
  · exact pace_eq_ok_iff.2 ⟨hdir, .inr (.inl hdots)⟩
  · exact pace_eq_ok_iff.2 ⟨hdir, .inr (.inr ⟨hname, nofun, hshort, hmoves⟩)⟩

theorem walk_follow_of_make {links : Nat} {here there : Location} {names : List String}
    (h : store.walk .make links here names = .ok there) : store.walk .follow links here names = .ok there := by
  induction links, here, names using walk_induction store .make with
  | stays links here => rwa [walk_nil] at h ⊢
  | steps links here name rest ih =>
    rw [walk_cons] at h ⊢
    obtain ⟨next, hpace, hnext⟩ := Except.bind_eq_ok_iff.1 h
    rw [pace_follow_of_make hpace]
    exact ih next hpace hnext

/-- A file that has been written reads as what was written. -/
theorem read_write {content : List UInt8} (h : store.write path content = .ok new) : new.read path = .ok content := by
  obtain ⟨at_, hresolve, -, -, hnode⟩ := node?_write h
  obtain ⟨_, hcheck, hwalk⟩ := Except.bind_eq_ok_iff.1 ((keeps_write h).resolve hresolve)
  have hfollow : new.resolve path = .ok at_ :=
    Except.bind_eq_ok_iff.2 ⟨_, hcheck, walk_follow_of_make hwalk⟩
  exact read_eq_ok_iff.2 ⟨at_, hfollow, by rw [hnode, if_pos rfl]⟩

def IsWritable (store : Store) (path : Path) : Prop :=
  ∃ at_, store.resolve path .make = .ok at_ ∧ store.node? at_ ≠ some .dir

theorem exists_write (h : store.IsWritable path) (content : List UInt8) :
    ∃ new, store.write path content = .ok new := by
  obtain ⟨at_, hresolve, hplain⟩ := h
  rw [write, hresolve, Except.ok_bind]
  split
  · rename_i hdir
    exact absurd hdir hplain
  · exact ⟨_, rfl⟩

theorem IsWritable.write {other : Path} {content : List UInt8} (hother : store.IsWritable other)
    (h : store.write path content = .ok new) : new.IsWritable other := by
  obtain ⟨at_, hresolve, hplain⟩ := hother
  obtain ⟨_, -, -, -, hnode⟩ := node?_write h
  refine ⟨at_, (keeps_write h).resolve hresolve, fun hdir => hplain ?_⟩
  rw [hnode] at hdir
  split at hdir
  · cases hdir
  · exact hdir

end RunCharts.Files.Store
