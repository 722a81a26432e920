import Mathlib.Data.List.Sort
import RunCharts.Files.Access
import RunCharts.Proofs.Files.Steps
import RunCharts.Proofs.Files.Walk
import RunCharts.Proofs.Text.Octets

/-! # What a walk visits

A walk from a directory visits what stands below it without a link in between. A path that leads to a file
through such directories alone is visited (`visited_of_isFile`), and the visited names are strictly ordered
by their octets (`visited_sorted`). -/

namespace RunCharts.Files.Store

variable {store : Store} {root : Path} {at_ : Location} {names : List String}

/-- The names lead from a location through directories that no link stands in for. -/
def IsEntered (store : Store) (at_ : Location) (names : List String) : Prop :=
  (∀ name ∈ names, IsName name) ∧ ∀ j < names.length, store.node? (at_ ++ names.take j) = some .dir

instance (store : Store) (at_ : Location) (names : List String) : Decidable (store.IsEntered at_ names) :=
  inferInstanceAs (Decidable ((∀ _ ∈ _, _) ∧ ∀ _ < _, _))

theorem isEntered_nil : store.IsEntered at_ [] := ⟨by simp, by simp⟩

namespace IsEntered

variable {name second : String}

theorem head (h : store.IsEntered at_ (name :: names)) : IsName name ∧ store.node? at_ = some .dir := by
  refine ⟨h.1 name List.mem_cons_self, ?_⟩
  simpa only [List.take_zero, List.append_nil] using h.2 0 (Nat.succ_pos _)

theorem tail (h : store.IsEntered at_ (name :: names)) : store.IsEntered (at_ ++ [name]) names := by
  refine ⟨fun n hn => h.1 n (List.mem_cons_of_mem _ hn), fun j hj => ?_⟩
  have hdir := h.2 (j + 1) (by simpa using hj)
  rwa [List.take_succ_cons, List.append_cons] at hdir

theorem front (h : store.IsEntered at_ (names ++ [name])) : store.IsEntered at_ names := by
  refine ⟨fun n hn => h.1 n (List.mem_append_left _ hn), fun j hj => ?_⟩
  have hdir := h.2 j (by rw [List.length_append]; omega)
  rwa [List.take_append_of_le_length (Nat.le_of_lt hj)] at hdir

theorem concat (h : store.IsEntered at_ names) (hdir : store.node? (at_ ++ names) = some .dir) (hname : IsName name) :
    store.IsEntered at_ (names ++ [name]) := by
  refine ⟨fun n hn => ?_, fun j hj => ?_⟩
  · rcases List.mem_append.1 hn with hn | hn
    · exact h.1 n hn
    · rwa [List.mem_singleton.1 hn]
  · have hle : j ≤ names.length := by simpa [Nat.lt_succ_iff] using hj
    rw [List.take_append_of_le_length hle]
    rcases Nat.lt_or_eq_of_le hle with hlt | rfl
    · exact h.2 j hlt
    · rwa [List.take_length]

/-- Only the last of the names may be that of a link. -/
theorem dir_head (h : store.IsEntered at_ (name :: second :: names)) : store.node? (at_ ++ [name]) = some .dir :=
  h.tail.head.2

end IsEntered

theorem isEntered_singleton {name : String} (hname : IsName name) : store.IsEntered [] [name] :=
  isEntered_nil.concat (node?_eq_some_iff.2 store.root_mem) hname

/-! ### What stands below a location -/

theorem dir_of_append_mem {front back : Location} {node : Node} (h : (front ++ back, node) ∈ store.nodes)
    (hback : back ≠ []) : store.node? front = some .dir := by
  induction back using List.reverseRecOn generalizing node with
  | nil => exact absurd rfl hback
  | append_singleton back name ih =>
    have hparent := store.parent_mem _ h
    simp only [← List.append_assoc, List.dropLast_concat] at hparent
    by_cases hempty : back = []
    · rw [hempty, List.append_nil] at hparent
      exact node?_eq_some_iff.2 hparent
    · exact ih hparent hempty

theorem mem_visited_iff : names ∈ store.visited at_ ↔ names = [] ∨ store.node? (at_ ++ names) ≠ none := by
  constructor
  · intro h
    rcases List.mem_cons.1 h with rfl | h
    · exact .inl rfl
    right
    obtain ⟨below, hbelow, rfl⟩ := List.mem_map.1 h
    obtain ⟨entry, hentry, rfl⟩ := List.mem_map.1 hbelow
    obtain ⟨hmem, hkeep⟩ := List.mem_filter.1 hentry
    simp only [Bool.and_eq_true, List.isPrefixOf_iff_prefix] at hkeep
    obtain ⟨rest, hrest⟩ := hkeep.1
    simp only [← hrest, List.drop_left]
    have hnode : store.node? entry.1 = some entry.2 := node?_eq_some_iff.2 hmem
    rw [hrest, hnode]
    exact Option.some_ne_none _
  · rintro (rfl | h)
    · exact List.mem_cons_self
    by_cases hempty : names = []
    · rw [hempty]
      exact List.mem_cons_self
    obtain ⟨node, hnode⟩ := Option.ne_none_iff_exists'.1 h
    refine List.mem_cons_of_mem _ (List.mem_map.2 ⟨(names, node), List.mem_map.2
      ⟨(at_ ++ names, node), List.mem_filter.2 ⟨node?_eq_some_iff.1 hnode, ?_⟩, ?_⟩, rfl⟩)
    · simpa using hempty
    · rw [List.drop_left]

theorem isEntered_of_mem_visited (h : names ∈ store.visited at_) : store.IsEntered at_ names := by
  rcases mem_visited_iff.1 h with rfl | h
  · exact isEntered_nil
  obtain ⟨node, hnode⟩ := Option.ne_none_iff_exists'.1 h
  have hmem := node?_eq_some_iff.1 hnode
  refine ⟨fun name hname => store.named _ hmem name (List.mem_append_right _ hname), fun j hj => ?_⟩
  have hsplit : at_ ++ names = (at_ ++ names.take j) ++ names.drop j := by
    rw [List.append_assoc, List.take_append_drop]
  rw [hsplit] at hmem
  exact dir_of_append_mem hmem (by simpa using hj)

/-! ### Every file is visited -/

theorem walk_names_append (h : store.resolve root = .ok at_) : ∃ links, ∀ more,
    store.walk .follow maxLinks (store.origin root) (root.names ++ more) = store.walk .follow links at_ more := by
  obtain ⟨-, -, hwalk⟩ := Except.bind_eq_ok_iff.1 h
  rcases root.steps_eq with hsteps | hsteps <;> rw [hsteps] at hwalk
  · rw [← List.append_nil root.names] at hwalk
    rcases walk_append store maxLinks (store.origin root) root.names with
      ⟨error, herror⟩ | ⟨links, there, hthere⟩
    · rw [herror] at hwalk
      cases hwalk
    · rw [hthere, walk_nil] at hwalk
      rw [← Except.ok.inj hwalk]
      exact ⟨links, hthere⟩
  · exact (walk_append_of_dir hwalk).2

theorem ne_empty_of_resolve (h : store.resolve root = .ok at_) : root ≠ "" := by
  obtain ⟨_, hcheck, -⟩ := Except.bind_eq_ok_iff.1 h
  rintro rfl
  simp [Path.check] at hcheck

/-- A walk through directories leads to what the names say, unless a link stands there. -/
theorem eq_append_of_walk {links : Nat} {there : Location} (hentered : store.IsEntered at_ names)
    (hnone : store.node? (at_ ++ names) = none) (h : store.walk .follow links at_ names = .ok there) :
    there = at_ ++ names := by
  induction names generalizing at_ links with
  | nil =>
    rw [walk_nil] at h
    rw [List.append_nil]
    exact (Except.ok.inj h).symm
  | cons name rest ih =>
    have hname : IsName name := hentered.head.1
    rw [walk_cons] at h
    obtain ⟨next, hpace, hnext⟩ := Except.bind_eq_ok_iff.1 h
    rcases (pace_eq_ok_iff.1 hpace).2 with
      ⟨hdot, -⟩ | ⟨hdots, -⟩ | ⟨-, -, -, ⟨target, -, hlink, -, -⟩ | ⟨-, rfl⟩⟩
    · exact absurd hdot (not_or.2 ⟨hname.ne_empty, hname.ne_dot⟩)
    · exact absurd hdots hname.ne_dots
    · -- a link is neither absent nor one of the directories on the way
      cases rest with
      | nil => rw [hlink] at hnone; cases hnone
      | cons second others =>
        rw [hentered.dir_head] at hlink
        cases hlink
    · rw [List.append_cons at_ name rest] at hnone ⊢
      exact ih hentered.tail hnone hnext

theorem walk_of_isEntered {last : LastName} {links : Nat} (hentered : store.IsEntered at_ names)
    (hshort : ∀ name ∈ names, name.utf8ByteSize ≤ 255)
    (hplain : ∀ target, store.node? (at_ ++ names) ≠ some (.link target)) :
    store.walk last links at_ names = .ok (at_ ++ names) := by
  induction names generalizing at_ with
  | nil => rw [walk_nil, List.append_nil]
  | cons name rest ih =>
    obtain ⟨hname, hdir⟩ := hentered.head
    have hslash : rest ≠ [""] := by
      rintro rfl
      exact hentered.tail.head.1.ne_empty rfl
    have hnext (target : Path) : store.node? (at_ ++ [name]) ≠ some (.link target) := by
      cases rest with
      | nil => exact hplain target
      | cons second others =>
        rw [hentered.dir_head]
        exact fun h => by cases h
    have hpace : store.pace last links at_ name rest = .ok ⟨links, at_ ++ [name], rest⟩ :=
      pace_eq_ok_iff.2 ⟨hdir, .inr (.inr ⟨hname.1, fun h => hslash h.2, hshort name List.mem_cons_self,
        .inr ⟨hnext, rfl⟩⟩)⟩
    rw [walk_cons, hpace, Except.ok_bind, List.append_cons at_ name rest]
    exact ih hentered.tail (fun n hn => hshort n (List.mem_cons_of_mem _ hn)) (by rwa [← List.append_cons])

theorem visited_of_isFile (hroot : store.resolve root = .ok at_) (hentered : store.IsEntered at_ names)
    (hfile : store.isFile (root.below names) = true) : names ∈ store.visited at_ := by
  by_cases hempty : names = []
  · exact mem_visited_iff.2 (.inl hempty)
  refine mem_visited_iff.2 (.inr fun hnone => ?_)
  have hne := ne_empty_of_resolve hroot
  obtain ⟨links, hwalk⟩ := walk_names_append hroot
  cases hstat : store.stat (root.below names) with
  | error error => rw [isFile, hstat] at hfile; cases hfile
  | ok node =>
    obtain ⟨there, hthere, hnode⟩ := Except.bind_eq_ok_iff.1 hstat
    obtain ⟨-, -, hsteps⟩ := Except.bind_eq_ok_iff.1 hthere
    have horigin : store.origin (root.below names) = store.origin root := by
      simp only [origin, Path.isAbsolute_below hne hentered.1]
    rw [Path.steps_below hne hentered.1 hempty, horigin, hwalk] at hsteps
    rw [eq_append_of_walk hentered hnone hsteps, hnone] at hnode
    cases hnode

/-! ### The order of a walk -/

theorem sorted_visited (store : Store) (at_ : Location) : (store.visited at_).Pairwise (· < ·) := by
  have hbelow (entry : List String × Node) (h : entry ∈ store.below at_) : [] < entry.1 := by
    obtain ⟨above, habove, rfl⟩ := List.mem_map.1 h
    have hkeep := (List.mem_filter.1 habove).2
    simp only [Bool.and_eq_true, List.isPrefixOf_iff_prefix, bne_iff_ne] at hkeep
    obtain ⟨⟨rest, hrest⟩, hne⟩ := hkeep
    cases rest with
    | nil => exact absurd (by simpa using hrest.symm) hne
    | cons name rest => simp [← hrest]
  refine List.pairwise_cons.2 ⟨fun names h => ?_, ?_⟩
  · obtain ⟨entry, hentry, rfl⟩ := List.mem_map.1 h
    exact hbelow entry hentry
  rw [List.pairwise_map, below, List.pairwise_map]
  refine (store.sorted.filter _).imp_of_mem fun {a b} ha hb hlt => ?_
  have hunder {entry : Location × Node}
      (h : entry ∈ store.nodes.filter fun entry => at_.isPrefixOf entry.1 && entry.1 != at_) :
      entry.1 = at_ ++ entry.1.drop at_.length := by
    have hkeep := (List.mem_filter.1 h).2
    simp only [Bool.and_eq_true, List.isPrefixOf_iff_prefix] at hkeep
    obtain ⟨rest, hrest⟩ := hkeep.1
    rw [← hrest, List.drop_left]
  rw [hunder ha, hunder hb] at hlt
  by_cases h : a.1.drop at_.length < b.1.drop at_.length
  · exact h
  by_cases heq : b.1.drop at_.length = a.1.drop at_.length
  · rw [heq] at hlt
    exact absurd hlt (List.lt_irrefl _)
  · have hgt := Std.lt_of_le_of_ne (Std.not_lt.1 h) heq
    exact absurd (List.append_left_lt hgt) (List.lt_asymm hlt)

/-- A walk visits the names that are there. -/
theorem visited_congr {old new : Store} (h : ∀ names, new.node? (at_ ++ names) = old.node? (at_ ++ names)) :
    new.visited at_ = old.visited at_ :=
  (new.sorted_visited at_).eq_of_mem_iff (old.sorted_visited at_) fun names => by
    rw [mem_visited_iff, mem_visited_iff, h]

end RunCharts.Files.Store
