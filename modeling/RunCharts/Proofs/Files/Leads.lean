import RunCharts.Proofs.Files.Way

/-! # Where steps lead

A walk may follow a number of links, and what it comes to below that number depends on it in one way only: it gives up.
Apart from that, steps lead to one place (`Leads.eq`), and those of a path are put together from those of its pieces
(`Leads.append`, `Leads.of_append`). -/

namespace RunCharts.Files.Store

variable {store : Store} {links : Nat} {here there : Location} {name : String} {names more rest : List String}
  {result result' : Except FileError Location} {error : FileError}

/-- What steps come to, with as many links on the way as there are. Each pace follows one at most. -/
inductive Leads (store : Store) : Location → List String → Except FileError Location → Prop
  | stays (here : Location) : Leads store here [] (.ok here)
  | fails {here : Location} {name : String} {rest : List String} {error : FileError}
      (hpace : store.pace .follow 1 here name rest = .error error) : Leads store here (name :: rest) (.error error)
  | goes {here : Location} {name : String} {rest : List String} {next : Pace} {result : Except FileError Location}
      (hpace : store.pace .follow 1 here name rest = .ok next) (h : Leads store next.here next.rest result) :
      Leads store here (name :: rest) result

theorem leads_nil_iff : store.Leads here [] result ↔ result = .ok here := by
  constructor
  · rintro ⟨⟩
    rfl
  · rintro rfl
    exact .stays here

theorem leads_cons_iff : store.Leads here (name :: rest) result ↔
    match store.pace .follow 1 here name rest with
    | .error error => result = .error error
    | .ok next => store.Leads next.here next.rest result := by
  constructor
  · intro h
    cases h with
    | fails hpace => rw [hpace]
    | goes hpace hnext =>
      rw [hpace]
      exact hnext
  · intro h
    cases hpace : store.pace .follow 1 here name rest with
    | error error =>
      rw [hpace] at h
      exact h ▸ .fails hpace
    | ok next =>
      rw [hpace] at h
      exact .goes hpace h

theorem Leads.eq (h : store.Leads here names result) (h' : store.Leads here names result') : result' = result := by
  induction h with
  | stays here => exact leads_nil_iff.1 h'
  | fails hpace =>
    rw [leads_cons_iff, hpace] at h'
    exact h'
  | goes hpace _ ih =>
    rw [leads_cons_iff, hpace] at h'
    exact ih h'

/-- The number of links decides whether a pace gives up, and nothing else. -/
theorem pace_one (store : Store) (links : Nat) (here : Location) (name : String) (rest : List String) :
    store.pace .follow links here name rest = .error .linkLoop ∨
      (store.pace .follow links here name rest).map (fun next => (next.here, next.rest)) =
        (store.pace .follow 1 here name rest).map fun next => (next.here, next.rest) := by
  have hfollow : ¬ (LastName.follow = .make ∧ rest = [""]) := fun h => by cases h.1
  rw [pace.eq_def, pace.eq_def]
  rcases store.node? here with _ | _ | _ | _
  · exact .inr rfl
  · exact .inr rfl
  · by_cases hdot : name = "" ∨ name = "."
    · rw [if_pos hdot, if_pos hdot]
      exact .inr rfl
    rw [if_neg hdot, if_neg hdot]
    by_cases hdots : name = ".."
    · rw [if_pos hdots, if_pos hdots]
      exact .inr rfl
    rw [if_neg hdots, if_neg hdots, if_neg hfollow, if_neg hfollow]
    by_cases hlong : 255 < name.utf8ByteSize
    · rw [if_pos hlong, if_pos hlong]
      exact .inr rfl
    rw [if_neg hlong, if_neg hlong]
    rcases store.node? (here ++ [name]) with _ | _ | _ | target
    · exact .inr rfl
    · exact .inr rfl
    · exact .inr rfl
    · cases links with
      | zero => exact .inl rfl
      | succ links => exact .inr rfl
  · exact .inr rfl

/-- What a walk comes to without giving up is where its steps lead. -/
theorem leads_of_walk (h : store.walk .follow links here names ≠ .error .linkLoop) :
    store.Leads here names (store.walk .follow links here names) := by
  induction links, here, names using walk_induction store .follow with
  | stays links here =>
    rw [walk_nil]
    exact .stays here
  | steps links here name rest ih =>
    rw [walk_cons] at h ⊢
    rcases pace_one store links here name rest with hloop | hsame
    · rw [hloop] at h
      exact absurd rfl h
    cases hpace : store.pace .follow links here name rest with
    | error error =>
      rw [hpace] at hsame
      exact .fails (Except.map_eq_error_iff.1 hsame.symm)
    | ok next =>
      rw [hpace] at h hsame
      obtain ⟨next', hpace', hnext'⟩ := Except.map_eq_ok_iff.1 hsame.symm
      obtain ⟨hhere, hrest⟩ := Prod.mk.inj hnext'
      refine .goes hpace' ?_
      rw [hhere, hrest]
      exact ih next hpace h

theorem leads_of_walkWithin (n links : Nat) (h : store.walkWithin .follow n links here names = some result)
    (hresult : result ≠ .error .linkLoop) : store.Leads here names result := by
  have hwalk := walk_of_walkWithin h
  rw [← hwalk] at hresult ⊢
  exact leads_of_walk hresult

/-! ### More steps -/

theorem Leads.append (h : store.Leads here names (.ok there)) (hmore : store.Leads there more result) :
    store.Leads here (names ++ more) result := by
  generalize hfirst : (Except.ok there : Except FileError Location) = first at h
  induction h with
  | stays here =>
    cases hfirst
    exact hmore
  | fails hpace => cases hfirst
  | goes hpace _ ih =>
    rw [List.cons_append, leads_cons_iff, pace_append, hpace]
    exact ih hfirst

theorem Leads.append_error (h : store.Leads here names (.error error)) (more : List String) :
    store.Leads here (names ++ more) (.error error) := by
  generalize hfirst : (Except.error error : Except FileError Location) = first at h
  induction h with
  | stays here => cases hfirst
  | fails hpace =>
    rw [List.cons_append, leads_cons_iff, pace_append, hpace]
    cases hfirst
    rfl
  | goes hpace _ ih =>
    rw [List.cons_append, leads_cons_iff, pace_append, hpace]
    exact ih hfirst

/-- More steps go on from where the first ones lead, unless these fail. -/
theorem Leads.of_append (h : store.Leads here (names ++ more) result) :
    (∃ there, store.Leads here names (.ok there) ∧ store.Leads there more result) ∨
      ∃ error, store.Leads here names (.error error) ∧ result = .error error := by
  generalize hall : names ++ more = all at h
  induction h generalizing names with
  | stays here =>
    obtain ⟨rfl, rfl⟩ := List.append_eq_nil_iff.1 hall
    exact .inl ⟨here, .stays here, .stays here⟩
  | @fails here name rest error hpace =>
    cases names with
    | nil =>
      rw [List.nil_append] at hall
      exact .inl ⟨here, .stays here, hall ▸ .fails hpace⟩
    | cons first others =>
      rw [List.cons_append] at hall
      obtain ⟨rfl, rfl⟩ := List.cons_eq_cons.1 hall
      rw [pace_append] at hpace
      exact .inr ⟨error, .fails (Except.map_eq_error_iff.1 hpace), rfl⟩
  | @goes here name rest next result hpace hnext ih =>
    cases names with
    | nil =>
      rw [List.nil_append] at hall
      exact .inl ⟨here, .stays here, hall ▸ .goes hpace hnext⟩
    | cons first others =>
      rw [List.cons_append] at hall
      obtain ⟨rfl, rfl⟩ := List.cons_eq_cons.1 hall
      rw [pace_append] at hpace
      obtain ⟨next', hpace', rfl⟩ := Except.map_eq_ok_iff.1 hpace
      rcases ih rfl with ⟨there, hthere, hmore⟩ | ⟨error, herror, hresult⟩
      · exact .inl ⟨there, .goes hpace' hthere, hmore⟩
      · exact .inr ⟨error, .goes hpace' herror, hresult⟩

/-! ### One step -/

/-- Where there is no directory, every step fails, and in the same way. -/
theorem leads_cons_iff_of_ne_dir (hdir : store.node? here ≠ some .dir) : store.Leads here (name :: rest) result ↔
    result = .error (if store.node? here = none then .notFound else .notADirectory) := by
  rw [leads_cons_iff, pace.eq_def]
  rcases hnode : store.node? here with _ | _ | _ | _
  · simp
  · simp
  · exact absurd hnode hdir
  · simp

theorem leads_dot_iff (hdir : store.node? here = some .dir) (hname : name = "" ∨ name = ".") :
    store.Leads here (name :: rest) result ↔ store.Leads here rest result := by
  rw [leads_cons_iff, pace_eq_ok_iff.2 ⟨hdir, .inl ⟨hname, rfl⟩⟩]

/-- Where a name leads to in a directory. A link is replaced by the steps of its target. -/
theorem leads_name_iff (hdir : store.node? here = some .dir) (hname : name ∉ ["", ".", ".."]) :
    store.Leads here (name :: rest) result ↔
      if 255 < name.utf8ByteSize then result = .error .nameTooLong
      else
        match store.node? (here ++ [name]) with
        | some (.link target) => store.Leads (linkOrigin (here ++ [name]) target) (target.steps ++ rest) result
        | _ => store.Leads (here ++ [name]) rest result := by
  simp only [List.mem_cons, List.not_mem_nil, or_false, not_or] at hname
  obtain ⟨hempty, hdot, hdots⟩ := hname
  rw [leads_cons_iff, pace.eq_def, hdir]
  dsimp only
  rw [if_neg (not_or.2 ⟨hempty, hdot⟩), if_neg hdots, if_neg fun h => by cases h.1]
  by_cases hlong : 255 < name.utf8ByteSize
  · rw [if_pos hlong, if_pos hlong]
  rw [if_neg hlong, if_neg hlong]
  rcases store.node? (here ++ [name]) with _ | _ | _ | target
  · rfl
  · rfl
  · rfl
  · dsimp only
    rw [linkOrigin, List.dropLast_concat]

end RunCharts.Files.Store
