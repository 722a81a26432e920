import RunCharts.Files.Path

/-! # A file store

A store maps locations to files, directories and symbolic links. Its nodes are kept in the order of
their locations, compared name by name, which is the order in which a walk visits them: a directory
comes before what it holds, and siblings follow each other by name. -/

namespace RunCharts.Files

/-- What a location holds. -/
inductive Node where
  | file (content : List UInt8)
  | dir
  | link (target : Path)
deriving DecidableEq, Repr

/-- The names that lead from the root to a node. -/
abbrev Location := List String

/-- The nodes with one more in its place, or in place of the one that had its location. -/
def insertNode (at_ : Location) (node : Node) : List (Location × Node) → List (Location × Node)
  | [] => [(at_, node)]
  | entry :: rest =>
    if at_ < entry.1 then (at_, node) :: entry :: rest
    else if at_ = entry.1 then (at_, node) :: rest
    else entry :: insertNode at_ node rest

/-- A text that can name an entry of a directory. -/
def IsName (name : String) : Prop := name ∉ ["", ".", ".."] ∧ '/' ∉ name.toList

instance (name : String) : Decidable (IsName name) := inferInstanceAs (Decidable (_ ∧ _))

/-- A tree of files, directories and links, and the directory at which relative paths start. -/
structure Store where
  nodes : List (Location × Node) := [([], .dir)]
  start : Location := []
  sorted : nodes.Pairwise (·.1 < ·.1) := by simp
  root_mem : ([], .dir) ∈ nodes := by simp
  /-- What a location holds stands in a directory. -/
  parent_mem : ∀ entry ∈ nodes, (entry.1.dropLast, .dir) ∈ nodes := by simp
  named : ∀ entry ∈ nodes, ∀ name ∈ entry.1, IsName name := by simp

theorem mem_insertNode_self (at_ : Location) (node : Node) (nodes : List (Location × Node)) :
    (at_, node) ∈ insertNode at_ node nodes := by
  induction nodes with
  | nil => simp [insertNode]
  | cons entry rest ih =>
    simp only [insertNode]
    split
    · simp
    · split
      · simp
      · simp [ih]

theorem eq_or_mem_of_mem_insertNode {at_ : Location} {node : Node} {nodes : List (Location × Node)}
    {entry : Location × Node} (h : entry ∈ insertNode at_ node nodes) :
    entry = (at_, node) ∨ entry ∈ nodes := by
  induction nodes with
  | nil => simpa [insertNode] using h
  | cons first rest ih =>
    simp only [insertNode] at h
    split at h
    · simpa using h
    · split at h
      · rcases List.mem_cons.1 h with h | h
        · exact .inl h
        · exact .inr (List.mem_cons_of_mem _ h)
      · rcases List.mem_cons.1 h with h | h
        · exact .inr (h ▸ List.mem_cons_self)
        · exact (ih h).imp_right (List.mem_cons_of_mem _)

theorem mem_insertNode_of_ne {at_ : Location} {node : Node} {nodes : List (Location × Node)}
    {entry : Location × Node} (h : entry ∈ nodes) (hne : entry.1 ≠ at_) :
    entry ∈ insertNode at_ node nodes := by
  induction nodes with
  | nil => simp at h
  | cons first rest ih =>
    simp only [insertNode]
    rcases List.mem_cons.1 h with rfl | h
    · split
      · simp
      · rw [if_neg (Ne.symm hne)]; simp
    · split
      · simp [h]
      · split
        · simp [h]
        · simp [ih h]

theorem sorted_insertNode {at_ : Location} {node : Node} {nodes : List (Location × Node)}
    (h : nodes.Pairwise (·.1 < ·.1)) : (insertNode at_ node nodes).Pairwise (·.1 < ·.1) := by
  induction nodes with
  | nil => simp [insertNode]
  | cons first rest ih =>
    obtain ⟨hfirst, hrest⟩ := List.pairwise_cons.1 h
    simp only [insertNode]
    split
    · rename_i hlt
      refine List.pairwise_cons.2 ⟨fun entry he => ?_, h⟩
      rcases List.mem_cons.1 he with rfl | he
      · exact hlt
      · exact List.lt_trans hlt (hfirst entry he)
    · rename_i hge
      split
      · rename_i heq
        exact List.pairwise_cons.2 ⟨fun entry he => heq ▸ hfirst entry he, hrest⟩
      · rename_i hne
        refine List.pairwise_cons.2 ⟨fun entry he => ?_, ih hrest⟩
        rcases eq_or_mem_of_mem_insertNode he with rfl | he
        · exact Std.lt_of_le_of_ne (Std.not_lt.1 hge) (Ne.symm hne)
        · exact hfirst entry he

namespace Store

/-- What a location holds. -/
def node? (store : Store) (at_ : Location) : Option Node :=
  (store.nodes.find? (·.1 = at_)).map (·.2)

theorem mem_of_node?_eq_some {store : Store} {at_ : Location} {node : Node}
    (h : store.node? at_ = some node) : (at_, node) ∈ store.nodes := by
  obtain ⟨entry, hfind, rfl⟩ := Option.map_eq_some_iff.1 h
  have hat : entry.1 = at_ := by simpa using List.find?_some hfind
  exact hat ▸ List.mem_of_find?_eq_some hfind

/-- A location holds one node only. -/
theorem eq_of_mem_of_mem {store : Store} {at_ : Location} {node node' : Node}
    (h : (at_, node) ∈ store.nodes) (h' : (at_, node') ∈ store.nodes) : node = node' := by
  have := store.sorted
  generalize store.nodes = nodes at *
  induction nodes with
  | nil => simp at h
  | cons first rest ih =>
    obtain ⟨hfirst, hrest⟩ := List.pairwise_cons.1 this
    rcases List.mem_cons.1 h with h | h <;> rcases List.mem_cons.1 h' with h' | h'
    · rw [← h] at h'; exact (Prod.mk.inj h').2.symm
    · exact absurd (hfirst _ h') (by rw [← h]; exact List.lt_irrefl _)
    · exact absurd (hfirst _ h) (by rw [← h']; exact List.lt_irrefl _)
    · exact ih h h' hrest

theorem node?_eq_some_iff {store : Store} {at_ : Location} {node : Node} :
    store.node? at_ = some node ↔ (at_, node) ∈ store.nodes := by
  refine ⟨mem_of_node?_eq_some, fun h => ?_⟩
  cases hn : store.node? at_ with
  | none =>
    simp only [node?, Option.map_eq_none_iff, List.find?_eq_none] at hn
    exact absurd (by simp) (hn _ h)
  | some node' => rw [eq_of_mem_of_mem h (mem_of_node?_eq_some hn)]

/-- Puts a node where its location stands in a directory and has a name that it can have. It replaces no
directory. -/
def put (store : Store) (at_ : Location) (node : Node) : Store :=
  if h : store.node? at_.dropLast = some .dir ∧ store.node? at_ ≠ some .dir ∧
      ∀ name ∈ at_.getLast?, IsName name then
    have keep (p : Location) (hp : (p, Node.dir) ∈ store.nodes) :
        (p, .dir) ∈ insertNode at_ node store.nodes :=
      mem_insertNode_of_ne hp fun heq => h.2.1 (node?_eq_some_iff.2 (heq ▸ hp))
    { store with
      nodes := insertNode at_ node store.nodes
      sorted := sorted_insertNode store.sorted
      root_mem := keep _ store.root_mem
      parent_mem := by
        intro entry he
        rcases eq_or_mem_of_mem_insertNode he with rfl | he
        · exact keep _ (node?_eq_some_iff.1 h.1)
        · exact keep _ (store.parent_mem entry he)
      named := by
        intro entry he name hname
        rcases eq_or_mem_of_mem_insertNode he with rfl | he
        · cases hlast : at_.getLast? with
          | none => simp_all
          | some last =>
            obtain ⟨above, rfl⟩ := List.getLast?_eq_some_iff.1 hlast
            rcases List.mem_append.1 hname with hname | hname
            · exact store.named _ (node?_eq_some_iff.1 h.1) name (by simpa using hname)
            · exact h.2.2 name (by simp_all)
        · exact store.named entry he name hname }
  else store

/-- Takes a node and everything below it away; the root stays. -/
def erase (store : Store) (at_ : Location) : Store :=
  if h : at_ = [] then store
  else
    { store with
      nodes := store.nodes.filter fun entry => !at_.isPrefixOf entry.1
      sorted := store.sorted.filter _
      root_mem := by
        refine List.mem_filter.2 ⟨store.root_mem, ?_⟩
        cases at_ with
        | nil => exact absurd rfl h
        | cons => rfl
      parent_mem := by
        intro entry he
        obtain ⟨hmem, hkeep⟩ := List.mem_filter.1 he
        refine List.mem_filter.2 ⟨store.parent_mem entry hmem, ?_⟩
        simp only [Bool.not_eq_eq_eq_not, Bool.not_true, ← Bool.not_eq_true, List.isPrefixOf_iff_prefix]
          at hkeep ⊢
        exact fun hp => hkeep (hp.trans (List.dropLast_prefix _))
      named := fun entry he => store.named entry (List.mem_filter.1 he).1 }

/-- The nodes below a location, in the order of a walk, with the names that lead to them from there. -/
def below (store : Store) (at_ : Location) : List (List String × Node) :=
  (store.nodes.filter fun entry => at_.isPrefixOf entry.1 && entry.1 != at_).map fun entry =>
    (entry.1.drop at_.length, entry.2)

end Store

end RunCharts.Files
