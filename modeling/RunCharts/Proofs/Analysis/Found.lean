import RunCharts.Proofs.Analysis.Outcome
import RunCharts.Proofs.Files.Find
import RunCharts.Proofs.Files.Keeps

/-! # The files that are found

The files of a run that a query selects are those that the walk from the run visits, each once and in its
order (`outcome_findFiles`). -/

namespace RunCharts

open Files

variable {store : Store} {root : Path} {at_ : Location} {names : List String}

theorem FileQuery.selected_eq (query : FileQuery) (hroot : store.resolve root = .ok at_)
    (hnode : store.node? at_ ≠ none) : query.selected root store =
      .ok (((store.visited at_).filter fun names =>
        store.isFile (root.below names) && query.selects (root.below names)).map root.below) := by
  obtain ⟨node, hnode⟩ := Option.ne_none_iff_exists'.1 hnode
  have hfiles : store.files root = .ok (((store.visited at_).map root.below).filter store.isFile) := by
    rw [Store.files, hroot, Except.ok_bind, hnode]
    rfl
  rw [selected, find, hfiles]
  simp only [Except.map, List.filter_map, List.filter_filter, Function.comp_def, Bool.and_comm]

theorem FileQuery.exists_selected_iff {query : FileQuery} :
    (∃ files, query.selected root store = .ok files) ↔
      ∀ error, store.stat root = .error error → error = .notFound := by
  rw [selected, find, Store.files, Store.stat]
  cases store.resolve root with
  | error error => cases error <;> simp [Except.map]
  | ok at_ => cases hnode : store.node? at_ <;> simp [Except.map, hnode]

theorem FileQuery.selected_of_isFile {query : FileQuery} {content : List UInt8}
    (hroot : store.resolve root = .ok at_) (hnode : store.node? at_ = some (.file content))
    (hbelow : store.below at_ = []) (hselects : query.selects root = true) :
    query.selected root store = .ok [root] := by
  have hfile : store.isFile root = true := Store.isFile_iff.2 ⟨_, _, hroot, hnode⟩
  have hsome : store.node? at_ ≠ none := by
    rw [hnode]
    exact Option.some_ne_none _
  have hself : root.below [] = root := rfl
  rw [query.selected_eq hroot hsome, Store.visited, hbelow]
  simp [hself, hfile, hselects]

namespace Command

/-- Looking for files gives exactly the selected ones that a walk from the directory visits, each once and in
the order of the names that lead to them; nothing, if the directory does not exist; and otherwise the error. -/
theorem outcome_findFiles (query : FileQuery) (session : Session) (root : Path) :
    match session.store.stat root with
    | .ok _ => ∃ (at_ : Location) (found : List (List String)), session.store.resolve root = .ok at_ ∧
        (findFiles query root).outcome session = (.ok (found.map root.below), session.store) ∧
        (∀ names, names ∈ found ↔ session.store.IsEntered at_ names ∧
          session.store.isFile (root.below names) = true ∧ query.selects (root.below names) = true) ∧
        (found.map root.below).Nodup ∧
        found.Pairwise fun names names' => names.map octets < names'.map octets
    | .error .notFound => (findFiles query root).outcome session = (.ok [], session.store)
    | .error error =>
      (findFiles query root).outcome session = (.error (.fault (.file root error)), session.store) := by
  rw [reads_findFiles]
  generalize session.store = store
  cases hresolve : store.resolve root with
  | error error =>
    have hstat : store.stat root = .error error := by rw [Store.stat, hresolve]; rfl
    have hfind : query.find store root = .error error := by
      rw [FileQuery.find, Store.files, hresolve]; rfl
    rw [hstat, FileQuery.selected, hfind]
    by_cases hmissing : error = .notFound
    · rw [hmissing]
    · cases error <;> first | exact absurd rfl hmissing | rfl
  | ok at_ =>
    cases hnode : store.node? at_ with
    | none =>
      have hstat : store.stat root = .error .notFound := by rw [Store.stat, hresolve, Except.ok_bind, hnode]
      have hfind : query.find store root = .error .notFound := by
        rw [FileQuery.find, Store.files, hresolve, Except.ok_bind, hnode]; rfl
      rw [hstat, FileQuery.selected, hfind]
    | some node =>
      have hstat : store.stat root = .ok node := by rw [Store.stat, hresolve, Except.ok_bind, hnode]
      have hsome : store.node? at_ ≠ none := by rw [hnode]; exact Option.some_ne_none node
      have hroot := Store.ne_empty_of_resolve hresolve
      rw [hstat, query.selected_eq hresolve hsome]
      refine ⟨at_, _, rfl, rfl, fun names => ?_, ?_, ?_⟩
      · rw [List.mem_filter, Bool.and_eq_true]
        constructor
        · rintro ⟨hvisited, hfile⟩
          exact ⟨Store.isEntered_of_mem_visited hvisited, hfile⟩
        · rintro ⟨hentered, hfile, hselects⟩
          exact ⟨Store.visited_of_isFile hresolve hentered hfile, hfile, hselects⟩
      · rw [List.Nodup, List.pairwise_map]
        refine ((store.sorted_visited at_).filter _).imp_of_mem fun {names names'} hnames hnames' hlt heq => ?_
        have hentered := Store.isEntered_of_mem_visited (List.mem_filter.1 hnames).1
        have hentered' := Store.isEntered_of_mem_visited (List.mem_filter.1 hnames').1
        rw [Path.below_injective hroot hentered.1 hentered'.1 heq] at hlt
        exact List.lt_irrefl _ hlt
      · refine ((store.sorted_visited at_).filter _).imp fun hlt => ?_
        exact List.map_lt (fun _ _ => octets_lt_octets) hlt

end Command

end RunCharts
