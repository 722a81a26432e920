import RunCharts.Files.Resolve
import RunCharts.Proofs.FirstError

/-! # Following the steps of a path

A walk goes pace by pace (`walk_cons`), and what it does at one step does not depend on the steps that
come after it. So a walk along more steps is the walk along the first of them, continued from where they
lead (`walk_append`). -/

namespace RunCharts.Files

theorem Path.check_eq_ok_iff {path : Path} :
    path.check = .ok () ↔ '\x00' ∉ path.toList ∧ path.utf8ByteSize < 4096 ∧ path ≠ "" := by
  rw [check, String.contains_char_eq]
  simp only [decide_eq_true_eq]
  split
  · rename_i hnul
    exact iff_of_false (fun h => by cases h) fun h => h.1 hnul
  rename_i hnul
  split
  · rename_i hlong
    exact iff_of_false (fun h => by cases h) fun h => absurd h.2.1 (Nat.not_lt.2 hlong)
  rename_i hlong
  split
  · rename_i hempty
    exact iff_of_false (fun h => by cases h) fun h => h.2.2 hempty
  · rename_i hempty
    exact iff_of_true rfl ⟨hnul, Nat.not_le.1 hlong, hempty⟩

namespace Store

/-- Where a walk is: how many links it may still follow, its location, and the steps that it has still to
make. -/
structure Pace where
  links : Nat
  here : Location
  rest : List String

def pace (store : Store) (last : LastName) (links : Nat) (here : Location) (name : String)
    (rest : List String) : Except FileError Pace :=
  match store.node? here with
  | none => .error .notFound
  | some (.file _) | some (.link _) => .error .notADirectory
  | some .dir =>
    if name = "" ∨ name = "." then .ok ⟨links, here, rest⟩
    else if name = ".." then .ok ⟨links, here.dropLast, rest⟩
    else if last = .make ∧ rest = [""] then .error .isADirectory
    else if 255 < name.utf8ByteSize then .error .nameTooLong
    else
      match store.node? (here ++ [name]), links with
      | some (.link _), 0 => .error .linkLoop
      | some (.link target), links + 1 =>
        .ok ⟨links, if target.IsAbsolute then [] else here, target.steps ++ rest⟩
      | _, links => .ok ⟨links, here ++ [name], rest⟩

variable {store : Store} {last : LastName} {links : Nat} {here : Location} {name : String}
  {rest : List String}

theorem walk_nil : store.walk last links here [] = .ok here := by
  rw [walk]

theorem walk_cons : store.walk last links here (name :: rest) =
    store.pace last links here name rest >>= fun next =>
      store.walk last next.links next.here next.rest := by
  rw [walk.eq_def, pace.eq_def]
  dsimp only
  cases store.node? here with
  | none => rfl
  | some node =>
    cases node with
    | file content => rfl
    | link target => rfl
    | dir =>
      dsimp only
      by_cases hdot : name = "" ∨ name = "."
      · rw [if_pos hdot, if_pos hdot]; rfl
      rw [if_neg hdot, if_neg hdot]
      by_cases hdots : name = ".."
      · rw [if_pos hdots, if_pos hdots]; rfl
      rw [if_neg hdots, if_neg hdots]
      by_cases hmake : last = .make ∧ rest = [""]
      · rw [if_pos hmake, if_pos hmake]; rfl
      rw [if_neg hmake, if_neg hmake]
      by_cases hlong : 255 < name.utf8ByteSize
      · rw [if_pos hlong, if_pos hlong]; rfl
      rw [if_neg hlong, if_neg hlong]
      rcases store.node? (here ++ [name]) with _ | _ | _ | target
      · rfl
      · rfl
      · rfl
      · cases links <;> rfl

/-- What a pace can lead to: it stays or goes up, it follows a link, or it goes to what the name says. -/
theorem pace_eq_ok_iff {next : Pace} : store.pace last links here name rest = .ok next ↔
    store.node? here = some .dir ∧
      ((name = "" ∨ name = ".") ∧ ⟨links, here, rest⟩ = next ∨
        name = ".." ∧ ⟨links, here.dropLast, rest⟩ = next ∨
        name ∉ ["", ".", ".."] ∧ ¬ (last = .make ∧ rest = [""]) ∧ name.utf8ByteSize ≤ 255 ∧
          ((∃ target links', store.node? (here ++ [name]) = some (.link target) ∧ links = links' + 1 ∧
              ⟨links', if target.IsAbsolute then [] else here, target.steps ++ rest⟩ = next) ∨
            (∀ target, store.node? (here ++ [name]) ≠ some (.link target)) ∧
              ⟨links, here ++ [name], rest⟩ = next)) := by
  rw [pace.eq_def]
  rcases store.node? here with _ | _ | _ | _
  · simp
  · simp
  · by_cases hdot : name = "" ∨ name = "."
    · rw [if_pos hdot]
      rcases hdot with rfl | rfl <;> simp
    rw [if_neg hdot]
    by_cases hdots : name = ".."
    · rw [if_pos hdots, hdots]
      simp
    rw [if_neg hdots]
    obtain ⟨hempty, hdot⟩ := not_or.1 hdot
    by_cases hmake : last = .make ∧ rest = [""]
    · rw [if_pos hmake]
      simp [hmake, hdot, hdots, hempty]
    rw [if_neg hmake]
    by_cases hlong : 255 < name.utf8ByteSize
    · rw [if_pos hlong]
      simp [hdot, hdots, hempty, Nat.not_le.2 hlong]
    rw [if_neg hlong]
    rcases store.node? (here ++ [name]) with _ | _ | _ | target
    · simp [hdot, hdots, hempty, hmake, Nat.not_lt.1 hlong]
    · simp [hdot, hdots, hempty, hmake, Nat.not_lt.1 hlong]
    · simp [hdot, hdots, hempty, hmake, Nat.not_lt.1 hlong]
    · cases links with
      | zero => simp [hdot, hdots, hempty]
      | succ links => simp [hdot, hdots, hempty, hmake, Nat.not_lt.1 hlong]
  · simp

theorem pace_decreases {next : Pace} (h : store.pace last links here name rest = .ok next) :
    next.links < links ∨ next.links = links ∧ next.rest = rest := by
  rcases (pace_eq_ok_iff.1 h).2 with
    ⟨-, rfl⟩ | ⟨-, rfl⟩ | ⟨-, -, -, ⟨target, links', -, rfl, rfl⟩ | ⟨-, rfl⟩⟩
  · exact .inr ⟨rfl, rfl⟩
  · exact .inr ⟨rfl, rfl⟩
  · exact .inl (Nat.lt_succ_self _)
  · exact .inr ⟨rfl, rfl⟩

/-- What holds of a walk without steps, and of one with a step if it holds of what its pace leads to, holds
of every walk. -/
theorem walk_induction (store : Store) (last : LastName) {motive : Nat → Location → List String → Prop}
    (stays : ∀ links here, motive links here [])
    (steps : ∀ links here name rest,
      (∀ next, store.pace last links here name rest = .ok next → motive next.links next.here next.rest) →
        motive links here (name :: rest)) :
    ∀ links here names, motive links here names
  | links, here, [] => stays links here
  | links, here, name :: rest => steps links here name rest fun next hnext => by
    have := pace_decreases hnext
    exact walk_induction store last stays steps next.links next.here next.rest
termination_by links _ names => (links, names.length)
decreasing_by
  simp only [Prod.lex_def, List.length_cons]
  rcases this with hlt | ⟨hlinks, hrest⟩
  · exact .inl hlt
  · exact .inr ⟨hlinks, by rw [hrest]; exact Nat.lt_succ_self _⟩

/-- What a pace does to the steps that come after its own, it does to more of them. -/
theorem pace_append (more : List String) : store.pace .follow links here name (rest ++ more) =
    (store.pace .follow links here name rest).map fun next => { next with rest := next.rest ++ more } := by
  have hfollow (steps : List String) : ¬ (LastName.follow = .make ∧ steps = [""]) := fun h => by cases h.1
  rw [pace.eq_def, pace.eq_def]
  rcases store.node? here with _ | _ | _ | _
  · rfl
  · rfl
  · by_cases hdot : name = "" ∨ name = "."
    · rw [if_pos hdot, if_pos hdot]; rfl
    rw [if_neg hdot, if_neg hdot]
    by_cases hdots : name = ".."
    · rw [if_pos hdots, if_pos hdots]; rfl
    rw [if_neg hdots, if_neg hdots, if_neg (hfollow _), if_neg (hfollow _)]
    by_cases hlong : 255 < name.utf8ByteSize
    · rw [if_pos hlong, if_pos hlong]; rfl
    rw [if_neg hlong, if_neg hlong]
    rcases store.node? (here ++ [name]) with _ | _ | _ | target
    · rfl
    · rfl
    · rfl
    · cases links with
      | zero => rfl
      | succ links => simp [Except.map]
  · rfl

/-- A walk along some steps and then more either fails at the former, whatever the latter are, or it is a
walk along the latter from where the former lead. -/
theorem walk_append (store : Store) (links : Nat) (here : Location) (names : List String) :
    (∃ error, ∀ more, store.walk .follow links here (names ++ more) = .error error) ∨
      ∃ links' there, ∀ more,
        store.walk .follow links here (names ++ more) = store.walk .follow links' there more := by
  induction links, here, names using walk_induction store .follow with
  | stays links here => exact .inr ⟨links, here, fun _ => rfl⟩
  | steps links here name rest ih =>
    cases hpace : store.pace .follow links here name rest with
    | error error =>
      refine .inl ⟨error, fun more => ?_⟩
      rw [List.cons_append, walk_cons, pace_append, hpace]
      rfl
    | ok next =>
      have hstep (more : List String) : store.walk .follow links here (name :: rest ++ more) =
          store.walk .follow next.links next.here (next.rest ++ more) := by
        rw [List.cons_append, walk_cons, pace_append, hpace]
        rfl
      simp only [hstep]
      exact ih next hpace

theorem walk_empty_step_eq_ok_iff {there : Location} :
    store.walk last links here [""] = .ok there ↔ store.node? here = some .dir ∧ there = here := by
  rw [walk_cons]
  constructor
  · intro h
    obtain ⟨next, hpace, hnext⟩ := Except.bind_eq_ok_iff.1 h
    obtain ⟨hdir, ⟨-, rfl⟩ | ⟨hdots, -⟩ | ⟨hname, -⟩⟩ := pace_eq_ok_iff.1 hpace
    · rw [walk_nil] at hnext
      exact ⟨hdir, (Except.ok.inj hnext).symm⟩
    · exact absurd hdots (by simp)
    · exact absurd hname (by simp)
  · rintro ⟨hdir, rfl⟩
    rw [pace_eq_ok_iff.2 ⟨hdir, .inl ⟨.inl rfl, rfl⟩⟩, Except.ok_bind, walk_nil]

/-- Where some steps lead to a directory, more steps go on from there. -/
theorem walk_append_of_dir {names : List String} {there : Location}
    (h : store.walk .follow links here (names ++ [""]) = .ok there) :
    store.node? there = some .dir ∧ ∃ links', ∀ more,
      store.walk .follow links here (names ++ more) = store.walk .follow links' there more := by
  rcases walk_append store links here names with ⟨error, herror⟩ | ⟨links', mid, hmid⟩
  · rw [herror] at h
    cases h
  · rw [hmid] at h
    obtain ⟨hdir, rfl⟩ := walk_empty_step_eq_ok_iff.1 h
    exact ⟨hdir, links', hmid⟩

theorem resolve_eq_walk {path : Path} {names : List String} (hcheck : path.check = .ok ())
    (horigin : store.origin path = here) (hsteps : path.steps = names) :
    store.resolve path last = store.walk last maxLinks here names := by
  rw [resolve, hcheck, horigin, hsteps]
  rfl

/-! ### Walks that can be computed -/

/-- What a walk comes to, if it takes at most `n` paces. -/
def walkWithin (store : Store) (last : LastName) (n links : Nat) (here : Location) (names : List String) :
    Option (Except FileError Location) :=
  match n, names with
  | _, [] => some (.ok here)
  | 0, _ => none
  | n + 1, name :: rest =>
    match store.pace last links here name rest with
    | .error error => some (.error error)
    | .ok next => store.walkWithin last n next.links next.here next.rest

theorem walk_of_walkWithin {n : Nat} {names : List String} {result : Except FileError Location}
    (h : store.walkWithin last n links here names = some result) : store.walk last links here names = result := by
  induction n generalizing links here names with
  | zero =>
    cases names with
    | nil =>
      rw [walk_nil]
      exact Option.some.inj h
    | cons name rest => cases h
  | succ n ih =>
    cases names with
    | nil =>
      rw [walk_nil]
      exact Option.some.inj h
    | cons name rest =>
      rw [walk_cons]
      rw [walkWithin] at h
      cases hpace : store.pace last links here name rest with
      | error error =>
        rw [hpace] at h
        exact Option.some.inj h
      | ok next =>
        rw [hpace] at h
        exact ih h

theorem resolve_of_walkWithin {path : Path} {result : Except FileError Location} (n : Nat)
    (hcheck : '\x00' ∉ path.toList ∧ path.utf8ByteSize < 4096 ∧ path ≠ "")
    (h : store.walkWithin last n maxLinks (store.origin path) path.steps = some result) :
    store.resolve path last = result := by
  rw [resolve_eq_walk (Path.check_eq_ok_iff.2 hcheck) rfl rfl]
  exact walk_of_walkWithin h

end Store

end RunCharts.Files
