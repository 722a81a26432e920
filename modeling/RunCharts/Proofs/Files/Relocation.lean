import Mathlib.Data.List.Sort
import RunCharts.Proofs.Files.Joined
import RunCharts.Proofs.Files.Leads

/-! # A tree in another place

A relocation lets locations of one store correspond to those of another (`Relocates`): what stands there is the same,
and so it goes on in directories and behind links. Paths that enter the tree at corresponding places come to the same
then, node for node (`Brings.stat_join`), and walks from there visit the same names (`Relocates.visited_eq`). -/

namespace RunCharts.Files.Store

variable {store old new : Store} {here here' p q : Location} {name : String} {names rest : List String}
  {result : Except FileError Location} {place : Location → Location → Prop} {parent path root : Path}

/-- What two locations hold, when links are not told apart. -/
inductive SameNode : Option Node → Option Node → Prop
  | absent : SameNode none none
  | file (content : List UInt8) : SameNode (some (.file content)) (some (.file content))
  | dir : SameNode (some .dir) (some .dir)
  | link (target target' : Path) : SameNode (some (.link target)) (some (.link target'))

theorem SameNode.refl : (node : Option Node) → SameNode node node
  | none => .absent
  | some (.file content) => .file content
  | some .dir => .dir
  | some (.link target) => .link target target

theorem SameNode.dir_iff {node node' : Option Node} (h : SameNode node node') :
    node' = some .dir ↔ node = some .dir := by
  cases h <;> simp

theorem SameNode.none_iff {node node' : Option Node} (h : SameNode node node') : node' = none ↔ node = none := by
  cases h <;> simp

/-- What two ways come to: locations that correspond, or the same error. -/
inductive SameEnd (place : Location → Location → Prop) :
    Except FileError Location → Except FileError Location → Prop
  | found {p q : Location} (h : place p q) : SameEnd place (.ok p) (.ok q)
  | failed (error : FileError) : SameEnd place (.error error) (.error error)

/-- Locations of two stores correspond to each other. -/
structure Relocates (place : Location → Location → Prop) (old new : Store) : Prop where
  node : ∀ p q, place p q → SameNode (old.node? p) (new.node? q)
  child : ∀ p q, place p q → old.node? p = some .dir → ∀ name, place (p ++ [name]) (q ++ [name])
  /-- A link leads to what corresponds to where it led before. -/
  link : ∀ p q target target', place p q → old.node? p = some (.link target) → new.node? q = some (.link target') →
    ∀ result, old.Leads (linkOrigin p target) target.steps result →
      ∃ result', new.Leads (linkOrigin q target') target'.steps result' ∧ SameEnd place result result'

/-- Steps that lead somewhere in the old store lead to what corresponds to it in the new one. -/
def FollowsAlike (place : Location → Location → Prop) (old new : Store) (here here' : Location) (names : List String) :
    Prop :=
  ∀ result, old.Leads here names result → ∃ result', new.Leads here' names result' ∧ SameEnd place result result'

namespace Relocates

/-- The step into a directory, or along a link, from where the names in directories correspond. -/
theorem followsAlike_name (h : Relocates place old new) (hdir : old.node? here = some .dir)
    (hdir' : new.node? here' = some .dir) (hname : name ∉ ["", ".", ".."])
    (hplace : place (here ++ [name]) (here' ++ [name]))
    (hrest : ∀ p q, place p q → FollowsAlike place old new p q rest) :
    FollowsAlike place old new here here' (name :: rest) := by
  intro result hleads
  rw [leads_name_iff hdir hname] at hleads
  simp only [leads_name_iff hdir' hname]
  by_cases hlong : 255 < name.utf8ByteSize
  · rw [if_pos hlong] at hleads
    simp only [if_pos hlong]
    rw [hleads]
    exact ⟨_, rfl, .failed _⟩
  rw [if_neg hlong] at hleads
  simp only [if_neg hlong]
  have hnode := h.node _ _ hplace
  generalize hold : old.node? (here ++ [name]) = node at hnode hleads
  generalize hnew : new.node? (here' ++ [name]) = node' at hnode
  cases hnode with
  | absent => exact hrest _ _ hplace result hleads
  | file content => exact hrest _ _ hplace result hleads
  | dir => exact hrest _ _ hplace result hleads
  | link target target' =>
    rcases hleads.of_append with ⟨there, htarget, hmore⟩ | ⟨error, htarget, rfl⟩
    · obtain ⟨result', htarget', hsame⟩ := h.link _ _ _ _ hplace hold hnew _ htarget
      cases hsame with
      | found hthere =>
        obtain ⟨result', hmore', hsame⟩ := hrest _ _ hthere result hmore
        exact ⟨result', htarget'.append hmore', hsame⟩
    · obtain ⟨result', htarget', hsame⟩ := h.link _ _ _ _ hplace hold hnew _ htarget
      cases hsame
      exact ⟨_, htarget'.append_error rest, .failed error⟩

theorem followsAlike (h : Relocates place old new) (hplace : place here here') (hnames : ".." ∉ names) :
    FollowsAlike place old new here here' names := by
  induction names generalizing here here' with
  | nil =>
    intro result hleads
    rw [leads_nil_iff.1 hleads]
    exact ⟨_, .stays here', .found hplace⟩
  | cons name rest ih =>
    obtain ⟨hdots, hrest⟩ := not_or.1 (List.mem_cons.not.1 hnames)
    have hnode := h.node _ _ hplace
    by_cases hdir : old.node? here = some .dir
    · have hdir' := hnode.dir_iff.2 hdir
      by_cases hdot : name = "" ∨ name = "."
      · intro result hleads
        simp only [leads_dot_iff hdir' hdot]
        exact ih hplace hrest result ((leads_dot_iff hdir hdot).1 hleads)
      · have hname : name ∉ ["", ".", ".."] := by simpa [not_or, Ne.symm hdots] using hdot
        exact h.followsAlike_name hdir hdir' hname (h.child _ _ hplace hdir name) fun _ _ hplace => ih hplace hrest
    · intro result hleads
      rw [leads_cons_iff_of_ne_dir hdir] at hleads
      simp only [leads_cons_iff_of_ne_dir (hnode.dir_iff.not.2 hdir), hnode.none_iff]
      rw [hleads]
      exact ⟨_, rfl, .failed _⟩

end Relocates

/-- The first name of some steps leads to locations that correspond; without a name, the steps start at such. -/
def Enters (place : Location → Location → Prop) (here here' : Location) (names : List String) : Prop :=
  match names.find? fun name => name ∉ ["", "."] with
  | some name => place (here ++ [name]) (here' ++ [name])
  | none => place here here'

theorem Relocates.followsAlike_of_enters (h : Relocates place old new) (hdir : old.node? here = some .dir)
    (hdir' : new.node? here' = some .dir) (hnames : ".." ∉ names) (henters : Enters place here here' names) :
    FollowsAlike place old new here here' names := by
  induction names with
  | nil => exact h.followsAlike henters hnames
  | cons name rest ih =>
    obtain ⟨hdots, hrest⟩ := not_or.1 (List.mem_cons.not.1 hnames)
    by_cases hdot : name = "" ∨ name = "."
    · rw [Enters, List.find?_cons_of_neg (by rcases hdot with rfl | rfl <;> decide)] at henters
      intro result hleads
      simp only [leads_dot_iff hdir' hdot]
      exact ih hrest henters result ((leads_dot_iff hdir hdot).1 hleads)
    · rw [Enters, List.find?_cons_of_pos (by simpa using hdot)] at henters
      have hname : name ∉ ["", ".", ".."] := by simpa [not_or, Ne.symm hdots] using hdot
      exact h.followsAlike_name hdir hdir' hname henters fun _ _ hplace => h.followsAlike hplace hrest

/-- Walks along steps that lead to the same come to the same, unless only one of them gives up. -/
theorem FollowsAlike.walk (h : FollowsAlike place old new here here' names) {links links' : Nat}
    (hloop : new.walk .follow links' here' names = .error .linkLoop ↔
      old.walk .follow links here names = .error .linkLoop) :
    SameEnd place (old.walk .follow links here names) (new.walk .follow links' here' names) := by
  by_cases hold : old.walk .follow links here names = .error .linkLoop
  · rw [hold, hloop.2 hold]
    exact .failed _
  · obtain ⟨result', hleads, hsame⟩ := h _ (leads_of_walk hold)
    rwa [hleads.eq (leads_of_walk (hloop.not.2 hold))]

/-! ### What walks visit -/

theorem Relocates.place_append (h : Relocates place old new) (hplace : place p q)
    (hentered : old.IsEntered p names ∨ new.IsEntered q names) : place (p ++ names) (q ++ names) := by
  induction names generalizing p q with
  | nil => rwa [List.append_nil, List.append_nil]
  | cons name rest ih =>
    have hdir : old.node? p = some .dir := by
      rcases hentered with hentered | hentered
      · exact hentered.head.2
      · exact (h.node _ _ hplace).dir_iff.1 hentered.head.2
    rw [List.append_cons p, List.append_cons q]
    exact ih (h.child _ _ hplace hdir name) (hentered.imp IsEntered.tail IsEntered.tail)

theorem Relocates.visited_eq (h : Relocates place old new) (hplace : place p q) : new.visited q = old.visited p := by
  refine (new.sorted_visited q).eq_of_mem_iff (old.sorted_visited p) fun names => ?_
  have hsame (hentered : old.IsEntered p names ∨ new.IsEntered q names) :
      names ∈ new.visited q ↔ names ∈ old.visited p := by
    rw [mem_visited_iff, mem_visited_iff, ne_eq, ne_eq, (h.node _ _ (h.place_append hplace hentered)).none_iff]
  constructor
  · intro hnames
    exact (hsame (.inr (isEntered_of_mem_visited hnames))).1 hnames
  · intro hnames
    exact (hsame (.inl (isEntered_of_mem_visited hnames))).2 hnames

/-! ### Paths below the parent of the new place -/

/-- The paths that are looked up for a root: its own, and those of what a walk from there visits. -/
def LooksUp (store : Store) (root path : Path) : Prop :=
  path = root ∨ ∃ at_ names, store.resolve root = .ok at_ ∧ names ∈ store.visited at_ ∧ path = root.below names

/-- The path is not too long below the parent, and is given up for its links there if it was before. -/
structure SameLimits (parent : Path) (old new : Store) (path : Path) : Prop where
  short : (parent.join path).utf8ByteSize < 4096
  links : new.resolve (parent.join path) = .error .linkLoop ↔ old.resolve path = .error .linkLoop

/-- The root is a path into the tree that has been moved. It enters the tree from the start of the old store, and from
the parent in the new one. -/
structure Brings (place : Location → Location → Prop) (parent : Path) (old new : Store) (root : Path) : Prop where
  ne_empty : root ≠ ""
  relative : ¬ root.IsAbsolute
  plain : ".." ∉ root.names
  start : old.node? old.start = some .dir
  enters : ∃ target, new.resolve parent = .ok target ∧ new.node? target = some .dir ∧
    Enters place old.start target root.steps
  limits : ∀ path, old.LooksUp root path → SameLimits parent old new path

theorem resolve_below {at_ : Location} (h : store.resolve root = .ok at_) (hnames : ∀ name ∈ names, IsName name)
    (hne : names ≠ []) : ∃ links, store.resolve (root.below names) =
      (root.below names).check >>= fun _ => store.walk .follow links at_ names := by
  have hroot := ne_empty_of_resolve h
  obtain ⟨links, hwalk⟩ := walk_names_append h
  have horigin : store.origin (root.below names) = store.origin root := by
    simp only [origin, Path.isAbsolute_below hroot hnames]
  refine ⟨links, ?_⟩
  rw [resolve, horigin, Path.steps_below hroot hnames hne, hwalk]

theorem check_join (hparent : parent.check = .ok ()) (hne : path ≠ "") (hpath : ¬ path.IsAbsolute)
    (hshort : (parent.join path).utf8ByteSize < 4096) : (parent.join path).check = path.check := by
  obtain ⟨hnul, -, hparent⟩ := Path.check_eq_ok_iff.1 hparent
  obtain ⟨front, hfront⟩ := Path.exists_join_eq_append hparent
  obtain ⟨text, htext, hfront'⟩ := Path.exists_toList_join hparent hpath
  have hjoined : parent.join path ≠ "" := by simp [hfront path hpath, hne]
  have hless : path.utf8ByteSize < 4096 := by
    rw [hfront path hpath, String.utf8ByteSize_append] at hshort
    omega
  have hclear : '\x00' ∉ text := by
    rcases hfront' with h | h <;> rw [h] at hnul
    · exact hnul
    · exact fun hmem => hnul (List.mem_append_left _ hmem)
  rw [Path.check, Path.check, if_neg (Nat.not_le.2 hshort), if_neg (Nat.not_le.2 hless), if_neg hjoined, if_neg hne,
    String.contains_char_eq, String.contains_char_eq, htext]
  simp [hclear]

namespace Brings

theorem sameEnd_root (h : Brings place parent old new root) (hplace : Relocates place old new) :
    SameEnd place (old.resolve root) (new.resolve (parent.join root)) := by
  obtain ⟨target, hparent, hdir, henters⟩ := h.enters
  obtain ⟨_, hchecked, -⟩ := Except.bind_eq_ok_iff.1 hparent
  obtain ⟨hshort, hloop⟩ := h.limits root (.inl rfl)
  have hne := ne_empty_of_resolve hparent
  obtain ⟨links, hwalk⟩ := walk_names_append hparent
  have horigin : new.origin (parent.join root) = new.origin parent := by
    simp only [origin, Path.isAbsolute_join_relative hne h.relative]
  have horigin' : old.origin root = old.start := if_neg h.relative
  have hplain : ".." ∉ root.steps := by
    rcases root.steps_eq with hsteps | hsteps <;> simp [hsteps, h.plain]
  rw [resolve, resolve, horigin, horigin', Path.steps_join_relative hne h.relative, hwalk,
    check_join hchecked h.ne_empty h.relative hshort] at hloop ⊢
  cases hcheck : root.check with
  | error error => exact .failed error
  | ok done =>
    rw [hcheck] at hloop
    exact (hplace.followsAlike_of_enters h.start hdir hplain henters).walk hloop

theorem sameEnd (h : Brings place parent old new root) (hplace : Relocates place old new)
    (hpath : old.LooksUp root path) : SameEnd place (old.resolve path) (new.resolve (parent.join path)) := by
  obtain ⟨hshort, hloop⟩ := h.limits path hpath
  rcases hpath with rfl | ⟨at_, names, hroot, hnames, rfl⟩
  · exact h.sameEnd_root hplace
  by_cases hempty : names = []
  · rw [hempty]
    exact h.sameEnd_root hplace
  obtain ⟨target, hparent, -, -⟩ := h.enters
  obtain ⟨_, hchecked, -⟩ := Except.bind_eq_ok_iff.1 hparent
  have hne := ne_empty_of_resolve hparent
  have hentered := isEntered_of_mem_visited hnames
  have hplain : ".." ∉ names := fun hdots => (hentered.1 _ hdots).ne_dots rfl
  have hsame := h.sameEnd_root hplace
  rw [hroot] at hsame
  generalize hroot' : new.resolve (parent.join root) = there at hsame
  cases hsame with
  | @found _ at_' hat =>
    obtain ⟨links, hold⟩ := resolve_below hroot hentered.1 hempty
    obtain ⟨links', hnew⟩ := resolve_below hroot' hentered.1 hempty
    have hrelative : ¬ (root.below names).IsAbsolute :=
      fun habsolute => h.relative ((Path.isAbsolute_below h.ne_empty hentered.1).1 habsolute)
    have hcheck := check_join hchecked (Path.below_ne_empty h.ne_empty hentered.1) hrelative hshort
    rw [Path.join_below hne h.ne_empty h.relative hentered.1] at hcheck hloop ⊢
    rw [hold, hnew, hcheck] at hloop ⊢
    cases hchecked' : (root.below names).check with
    | error error => exact .failed error
    | ok done =>
      rw [hchecked'] at hloop
      exact (hplace.followsAlike hat hplain).walk hloop

/-- What a path of the tree leads to is there below the parent. -/
theorem stat_join (h : Brings place parent old new root) (hplace : Relocates place old new)
    (hpath : old.LooksUp root path) : new.stat (parent.join path) = old.stat path := by
  have hsame := h.sameEnd hplace hpath
  rw [stat, stat]
  generalize hold : old.resolve path = there at hsame
  generalize hnew : new.resolve (parent.join path) = there' at hsame
  cases hsame with
  | failed error => rfl
  | found hat =>
    have hnode := hplace.node _ _ hat
    have hplain := not_link_of_resolve hold
    rw [Except.ok_bind, Except.ok_bind]
    generalize old.node? _ = node at hnode hplain
    generalize new.node? _ = node' at hnode
    cases hnode with
    | absent => rfl
    | file content => rfl
    | dir => rfl
    | link target target' => exact absurd rfl (hplain target)

theorem read_join (h : Brings place parent old new root) (hplace : Relocates place old new)
    (hpath : old.LooksUp root path) : new.read (parent.join path) = old.read path := by
  rw [read, read, h.stat_join hplace hpath]

theorem isFile_join (h : Brings place parent old new root) (hplace : Relocates place old new)
    (hpath : old.LooksUp root path) : new.isFile (parent.join path) = old.isFile path := by
  rw [isFile, isFile, h.stat_join hplace hpath]

theorem parent_ne_empty (h : Brings place parent old new root) : parent ≠ "" := by
  obtain ⟨target, hparent, -, -⟩ := h.enters
  exact ne_empty_of_resolve hparent

theorem relative_of_looksUp (h : Brings place parent old new root) (hpath : old.LooksUp root path) :
    ¬ path.IsAbsolute := by
  rcases hpath with rfl | ⟨at_, names, -, hnames, rfl⟩
  · exact h.relative
  · exact fun habsolute =>
      h.relative ((Path.isAbsolute_below h.ne_empty (isEntered_of_mem_visited hnames).1).1 habsolute)

end Brings

end RunCharts.Files.Store
