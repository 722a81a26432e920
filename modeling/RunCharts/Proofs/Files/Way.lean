import RunCharts.Proofs.Files.Find
import RunCharts.Proofs.Files.Parent

/-! # What a path comes by

A walk stands at locations and asks for others (`Meets`). What it does is determined by what is there
(`walk_congr`): stores that agree on what a walk meets cannot be told apart by it. A walk along more steps meets what
the first steps meet, and then what is met from where they lead (`meets_append`).

A link can be followed on its own (`follow`). A path that leads to something has its last name, or a link leads there
(`getLast?_of_resolve`). -/

namespace RunCharts.Files.Store

variable {store old new : Store} {last : LastName} {links links' : Nat} {here there p : Location} {name : String}
  {names rest : List String} {path : Path}

/-- A walk meets a location: it stands there, or it asks what is there. -/
inductive Meets (store : Store) (last : LastName) : Nat → Location → List String → Location → Prop
  | here (links : Nat) (here : Location) (names : List String) : Meets store last links here names here
  | asks {here : Location} {name : String} (links : Nat) (rest : List String) (hdir : store.node? here = some .dir)
      (hname : name ∉ ["", ".", ".."]) : Meets store last links here (name :: rest) (here ++ [name])
  | next {links : Nat} {here : Location} {name : String} {rest : List String} {next : Pace} {p : Location}
      (hpace : store.pace last links here name rest = .ok next)
      (h : Meets store last next.links next.here next.rest p) : Meets store last links here (name :: rest) p

/-- A path comes by a location. -/
def PassesBy (store : Store) (path : Path) (p : Location) : Prop :=
  store.Meets .follow maxLinks (store.origin path) path.steps p

/-- Where the target of a link starts. -/
def linkOrigin (at_ : Location) (target : Path) : Location := if target.IsAbsolute then [] else at_.dropLast

/-- Where a link leads. -/
def follow (store : Store) (at_ : Location) (target : Path) : Except FileError Location :=
  store.walk .follow (maxLinks - 1) (linkOrigin at_ target) target.steps

/-- A link leads to a location. -/
def LeadsTo (store : Store) (p : Location) : Prop :=
  ∃ at_ target, store.node? at_ = some (.link target) ∧ store.follow at_ target = .ok p

/-- A link that leads somewhere comes by a location, or leads there. -/
def LeadsBy (store : Store) (p : Location) : Prop :=
  ∃ at_ target there, store.node? at_ = some (.link target) ∧ store.follow at_ target = .ok there ∧
    store.Meets .follow (maxLinks - 1) (linkOrigin at_ target) target.steps p

theorem meets_nil_iff : store.Meets last links here [] p ↔ p = here := by
  constructor
  · rintro ⟨⟩
    rfl
  · rintro rfl
    exact .here _ _ _

theorem meets_cons_iff : store.Meets last links here (name :: rest) p ↔ p = here ∨
    (store.node? here = some .dir ∧ name ∉ ["", ".", ".."] ∧ p = here ++ [name]) ∨
    ∃ next, store.pace last links here name rest = .ok next ∧ store.Meets last next.links next.here next.rest p := by
  constructor
  · rintro (_ | ⟨_, _, hdir, hname⟩ | ⟨hpace, h⟩)
    · exact .inl rfl
    · exact .inr (.inl ⟨hdir, hname, rfl⟩)
    · exact .inr (.inr ⟨_, hpace, h⟩)
  · rintro (rfl | ⟨hdir, hname, rfl⟩ | ⟨next, hpace, h⟩)
    · exact .here _ _ _
    · exact .asks _ _ hdir hname
    · exact .next hpace h

/-! ### What a walk does is determined by what it meets -/

theorem pace_congr (hhere : new.node? here = old.node? here)
    (hasks : old.node? here = some .dir → name ∉ ["", ".", ".."] →
      new.node? (here ++ [name]) = old.node? (here ++ [name])) :
    new.pace last links here name rest = old.pace last links here name rest := by
  rw [pace.eq_def, pace.eq_def, hhere]
  cases hdir : old.node? here with
  | none => rfl
  | some node =>
    cases node with
    | file content => rfl
    | link target => rfl
    | dir =>
      dsimp only
      by_cases hname : name ∈ ["", ".", ".."]
      · simp only [List.mem_cons, List.not_mem_nil, or_false] at hname
        rcases hname with rfl | rfl | rfl <;> simp
      · rw [hasks hdir hname]

theorem walk_congr (h : ∀ p, old.Meets last links here names p → new.node? p = old.node? p) :
    new.walk last links here names = old.walk last links here names ∧
      ∀ p, new.Meets last links here names p ↔ old.Meets last links here names p := by
  induction links, here, names using walk_induction old last with
  | stays links here =>
    exact ⟨by rw [walk_nil, walk_nil], fun p => by rw [meets_nil_iff, meets_nil_iff]⟩
  | steps links here name rest ih =>
    have hhere := h here (.here _ _ _)
    have hpace : new.pace last links here name rest = old.pace last links here name rest :=
      pace_congr hhere fun hdir hname => h _ (.asks _ _ hdir hname)
    have hnext (next : Pace) (hnext : old.pace last links here name rest = .ok next) :=
      ih next hnext fun p hp => h p (.next hnext hp)
    constructor
    · rw [walk_cons, walk_cons, hpace]
      cases hold : old.pace last links here name rest with
      | error error => rfl
      | ok next => exact (hnext next hold).1
    · intro p
      rw [meets_cons_iff, meets_cons_iff, hhere, hpace]
      refine or_congr_right (or_congr_right (exists_congr fun next => and_congr_right fun hold => ?_))
      exact (hnext next hold).2 p

theorem Meets.follow (h : store.Meets last links here names p) : store.Meets .follow links here names p := by
  cases last with
  | follow => exact h
  | make =>
    induction h with
    | here links here names => exact .here _ _ _
    | asks links rest hdir hname => exact .asks _ _ hdir hname
    | next hpace _ ih => exact .next (pace_follow_of_make hpace) ih

theorem meets_of_walk (h : store.walk last links here names = .ok there) : store.Meets last links here names there := by
  induction links, here, names using walk_induction store last with
  | stays links here =>
    rw [walk_nil] at h
    cases h
    exact .here _ _ _
  | steps links here name rest ih =>
    rw [walk_cons] at h
    obtain ⟨next, hpace, hnext⟩ := Except.bind_eq_ok_iff.1 h
    exact .next hpace (ih next hpace hnext)

/-- A walk that gets somewhere meets only directories and links on its way. -/
theorem eq_of_meets_of_walk (hwalk : store.walk last links here names = .ok there)
    (h : store.Meets last links here names p) (hdir : store.node? p ≠ some .dir)
    (hlink : ∀ target, store.node? p ≠ some (.link target)) : p = there := by
  induction h with
  | here links here names =>
    cases names with
    | nil =>
      rw [walk_nil] at hwalk
      exact Except.ok.inj hwalk
    | cons name rest =>
      -- a walk goes on from directories only
      rw [walk_cons] at hwalk
      obtain ⟨next, hpace, -⟩ := Except.bind_eq_ok_iff.1 hwalk
      exact absurd (pace_eq_ok_iff.1 hpace).1 hdir
  | @asks here name links rest hhere hname =>
    rw [walk_cons] at hwalk
    obtain ⟨next, hpace, hnext⟩ := Except.bind_eq_ok_iff.1 hwalk
    obtain ⟨-, ⟨hdot, -⟩ | ⟨hdots, -⟩ | ⟨-, -, -, ⟨target, -, htarget, -⟩ | ⟨-, rfl⟩⟩⟩ := pace_eq_ok_iff.1 hpace
    · exact absurd (show name ∈ ["", ".", ".."] by rcases hdot with rfl | rfl <;> simp) hname
    · exact absurd (show name ∈ ["", ".", ".."] by simp [hdots]) hname
    · exact absurd htarget (hlink target)
    · cases rest with
      | nil =>
        rw [walk_nil] at hnext
        exact Except.ok.inj hnext
      | cons second others =>
        rw [walk_cons] at hnext
        obtain ⟨next, hpace, -⟩ := Except.bind_eq_ok_iff.1 hnext
        exact absurd (pace_eq_ok_iff.1 hpace).1 hdir
  | next hpace _ ih =>
    rw [walk_cons, hpace] at hwalk
    exact ih hwalk hdir hlink

theorem passesBy_of_resolve (h : store.resolve path last = .ok p) : store.PassesBy path p := by
  obtain ⟨_, -, hwalk⟩ := Except.bind_eq_ok_iff.1 h
  exact (meets_of_walk hwalk).follow

/-- A path is the same in stores that agree on what it passes by. -/
theorem resolve_congr (hstart : new.start = old.start) (h : ∀ p, old.PassesBy path p → new.node? p = old.node? p)
    (last : LastName) : new.resolve path last = old.resolve path last := by
  have horigin : new.origin path = old.origin path := by rw [origin, origin, hstart]
  rw [resolve, resolve, horigin, (walk_congr fun p hp => h p hp.follow).1]

theorem passesBy_congr (hstart : new.start = old.start) (h : ∀ p, old.PassesBy path p → new.node? p = old.node? p) :
    new.PassesBy path p ↔ old.PassesBy path p := by
  have horigin : new.origin path = old.origin path := by rw [origin, origin, hstart]
  rw [PassesBy, horigin]
  exact (walk_congr h).2 p

theorem stat_congr (hstart : new.start = old.start) (h : ∀ p, old.PassesBy path p → new.node? p = old.node? p) :
    new.stat path = old.stat path := by
  rw [stat, stat, resolve_congr hstart h]
  cases hresolve : old.resolve path with
  | error error => rfl
  | ok at_ => rw [Except.ok_bind, Except.ok_bind, h at_ (passesBy_of_resolve hresolve)]

theorem Frames.meets (h : Frames old new) (hmeets : old.Meets last links here names p) :
    new.Meets last links here names p := by
  induction hmeets with
  | here links here names => exact .here _ _ _
  | asks links rest hdir hname => exact .asks _ _ (h.dirs _ hdir) hname
  | next hpace _ ih => exact .next (h.pace hpace) ih

theorem Frames.passesBy (h : Frames old new) (hpasses : old.PassesBy path p) : new.PassesBy path p := by
  rw [PassesBy, origin, h.start]
  exact h.meets hpasses

/-! ### More links than needed -/

theorem pace_add {next : Pace} (more : Nat) (h : store.pace last links here name rest = .ok next) :
    store.pace last (links + more) here name rest = .ok { next with links := next.links + more } := by
  obtain ⟨hdir, hcases⟩ := pace_eq_ok_iff.1 h
  refine pace_eq_ok_iff.2 ⟨hdir, ?_⟩
  rcases hcases with
    ⟨hdot, rfl⟩ | ⟨hdots, rfl⟩ | ⟨hname, hmake, hshort, ⟨target, links', hlink, rfl, rfl⟩ | ⟨hplain, rfl⟩⟩
  · exact .inl ⟨hdot, rfl⟩
  · exact .inr (.inl ⟨hdots, rfl⟩)
  · exact .inr (.inr ⟨hname, hmake, hshort, .inl ⟨target, links' + more, hlink, Nat.succ_add _ _, rfl⟩⟩)
  · exact .inr (.inr ⟨hname, hmake, hshort, .inr ⟨hplain, rfl⟩⟩)

theorem walk_of_le (hle : links ≤ links') (h : store.walk last links here names = .ok there) :
    store.walk last links' here names = .ok there := by
  obtain ⟨more, rfl⟩ := Nat.exists_eq_add_of_le hle
  clear hle
  induction links, here, names using walk_induction store last with
  | stays links here => rwa [walk_nil] at h ⊢
  | steps links here name rest ih =>
    rw [walk_cons] at h ⊢
    obtain ⟨next, hpace, hnext⟩ := Except.bind_eq_ok_iff.1 h
    rw [pace_add more hpace]
    exact ih next hpace hnext

theorem Meets.of_le (hle : links ≤ links') (h : store.Meets last links here names p) :
    store.Meets last links' here names p := by
  obtain ⟨more, rfl⟩ := Nat.exists_eq_add_of_le hle
  clear hle
  induction h with
  | here links here names => exact .here _ _ _
  | asks links rest hdir hname => exact .asks _ _ hdir hname
  | next hpace _ ih => exact .next (pace_add more hpace) ih

/-! ### More steps -/

theorem le_links_of_pace {next : Pace} (h : store.pace last links here name rest = .ok next) : next.links ≤ links := by
  rcases pace_decreases h with hlt | ⟨heq, -⟩
  · exact Nat.le_of_lt hlt
  · exact Nat.le_of_eq heq

theorem Meets.append (more : List String) (h : store.Meets .follow links here names p) :
    store.Meets .follow links here (names ++ more) p := by
  induction h with
  | here links here names => exact .here _ _ _
  | asks links rest hdir hname => exact .asks _ _ hdir hname
  | @next links here name rest next p hpace _ ih =>
    have hmore : store.pace .follow links here name (rest ++ more) = .ok { next with rest := next.rest ++ more } := by
      rw [pace_append, hpace]
      rfl
    exact .next hmore ih

theorem PassesBy.of_steps (hnames : names <+: path.steps)
    (h : store.Meets .follow maxLinks (store.origin path) names p) : store.PassesBy path p := by
  obtain ⟨more, hmore⟩ := hnames
  rw [PassesBy, ← hmore]
  exact h.append more

/-- A walk along some steps and then more fails at the former, or it goes on along the latter from where the former
lead, and meets what either meets. -/
theorem meets_append (store : Store) (links : Nat) (here : Location) (names : List String) :
    (∃ error, ∀ more, store.walk .follow links here (names ++ more) = .error error ∧
      ∀ p, store.Meets .follow links here (names ++ more) p → store.Meets .follow links here names p) ∨
    ∃ links' there, links' ≤ links ∧ ∀ more,
      store.walk .follow links here (names ++ more) = store.walk .follow links' there more ∧
      ∀ p, store.Meets .follow links here (names ++ more) p ↔
        store.Meets .follow links here names p ∨ store.Meets .follow links' there more p := by
  induction links, here, names using walk_induction store .follow with
  | stays links here =>
    refine .inr ⟨links, here, Nat.le_refl _, fun more => ⟨rfl, fun p => ⟨.inr, ?_⟩⟩⟩
    rintro (h | h)
    · rw [meets_nil_iff] at h
      rw [h]
      exact .here _ _ _
    · exact h
  | steps links here name rest ih =>
    cases hpace : store.pace .follow links here name rest with
    | error error =>
      have hmore (more : List String) : store.pace .follow links here name (rest ++ more) = .error error := by
        rw [pace_append, hpace]
        rfl
      refine .inl ⟨error, fun more => ⟨?_, ?_⟩⟩
      · rw [List.cons_append, walk_cons, hmore]
        rfl
      · intro p
        rw [List.cons_append, meets_cons_iff, meets_cons_iff, hmore, hpace]
        simp
    | ok next =>
      -- the steps of a link's target come before those that are to follow
      have hmore (more : List String) : store.pace .follow links here name (rest ++ more) =
          .ok { next with rest := next.rest ++ more } := by
        rw [pace_append, hpace]
        rfl
      have hwalk (more : List String) : store.walk .follow links here (name :: rest ++ more) =
          store.walk .follow next.links next.here (next.rest ++ more) := by
        rw [List.cons_append, walk_cons, hmore]
        rfl
      have hmeets (more : List String) (p : Location) : store.Meets .follow links here (name :: rest ++ more) p ↔
          store.Meets .follow links here (name :: rest) p ∨
            store.Meets .follow next.links next.here (next.rest ++ more) p := by
        rw [List.cons_append, meets_cons_iff, meets_cons_iff, hmore, hpace]
        simp only [Except.ok.injEq, exists_eq_left']
        constructor
        · rintro (h | h | h)
          · exact .inl (.inl h)
          · exact .inl (.inr (.inl h))
          · exact .inr h
        · rintro ((h | h | h) | h)
          · exact .inl h
          · exact .inr (.inl h)
          · exact .inr (.inr (h.append more))
          · exact .inr (.inr h)
      rcases ih next hpace with ⟨error, herror⟩ | ⟨links', there, hle, hthere⟩
      · refine .inl ⟨error, fun more => ⟨(hwalk more).trans (herror more).1, fun p h => ?_⟩⟩
        rcases (hmeets more p).1 h with h | h
        · exact h
        · exact .next hpace ((herror more).2 p h)
      · refine .inr ⟨links', there, Nat.le_trans hle (le_links_of_pace hpace), fun more =>
          ⟨(hwalk more).trans (hthere more).1, fun p => ?_⟩⟩
        rw [hmeets, (hthere more).2 p, ← or_assoc]
        refine or_congr_left ⟨?_, .inl⟩
        rintro (h | h)
        · exact h
        · exact .next hpace h

theorem meets_empty_step_iff : store.Meets .follow links here [""] p ↔ p = here := by
  rw [meets_cons_iff]
  constructor
  · rintro (rfl | ⟨-, hname, -⟩ | ⟨next, hpace, h⟩)
    · rfl
    · exact absurd hname (by simp)
    · obtain ⟨-, ⟨-, rfl⟩ | ⟨hdots, -⟩ | ⟨hname, -⟩⟩ := pace_eq_ok_iff.1 hpace
      · exact meets_nil_iff.1 h
      · exact absurd hdots (by simp)
      · exact absurd hname (by simp)
  · exact .inl

/-- An empty step comes by nothing else. -/
theorem Meets.of_append_empty (h : store.Meets .follow links here (names ++ [""]) p) :
    store.Meets .follow links here names p := by
  rcases meets_append store links here names with ⟨error, herror⟩ | ⟨links', dir, -, hmore⟩
  · exact (herror _).2 p h
  · rcases ((hmore _).2 p).1 h with hfront | hdir
    · exact hfront
    · rw [meets_empty_step_iff.1 hdir]
      refine meets_of_walk ?_
      rw [← List.append_nil names, (hmore _).1, walk_nil]

/-- A path passes by what the paths above it pass by. -/
theorem PassesBy.of_parent? {dir : Path} (hdir : path.parent? = some dir) (h : store.PassesBy dir p) :
    store.PassesBy path p := by
  obtain ⟨habsolute, hcase⟩ := Path.parent?_eq_some hdir
  have horigin : store.origin dir = store.origin path := by simp only [origin, habsolute]
  rw [PassesBy, horigin] at h
  rcases hcase with rfl | rfl | ⟨-, hsteps⟩
  · rw [meets_empty_step_iff.1 h]
    exact .here _ _ _
  · rw [meets_empty_step_iff.1 h]
    exact .here _ _ _
  · exact .of_steps hsteps h

theorem PassesBy.of_mem_ancestors {above : Path} (habove : above ∈ path.ancestors) (h : store.PassesBy above p) :
    store.PassesBy path p := by
  by_contra hnot
  exact (Path.of_mem_ancestors (fun path dir _ hdir (hnot : ¬ store.PassesBy path p) hp => hnot (hp.of_parent? hdir))
    hnot habove).2 h

/-! ### The last name of a path -/

/-- What a step leads to has its name, or a link leads there. -/
theorem eq_or_leadsTo_of_walk (hle : links ≤ maxLinks) (hname : name ∉ ["", ".", ".."])
    (h : store.walk .follow links here [name] = .ok there) : there = here ++ [name] ∨ store.LeadsTo there := by
  rw [walk_cons] at h
  obtain ⟨next, hpace, hnext⟩ := Except.bind_eq_ok_iff.1 h
  obtain ⟨-, ⟨hdot, -⟩ | ⟨hdots, -⟩ | ⟨-, -, -, ⟨target, links', hlink, hlinks, rfl⟩ | ⟨-, rfl⟩⟩⟩ :=
    pace_eq_ok_iff.1 hpace
  · exact absurd (show name ∈ ["", ".", ".."] by rcases hdot with rfl | rfl <;> simp) hname
  · exact absurd (show name ∈ ["", ".", ".."] by simp [hdots]) hname
  · right
    have hfew : links' ≤ maxLinks - 1 := by omega
    refine ⟨_, target, hlink, walk_of_le hfew ?_⟩
    rw [linkOrigin, List.dropLast_concat]
    rwa [List.append_nil] at hnext
  · rw [walk_nil] at hnext
    exact .inl (Except.ok.inj hnext).symm

theorem LeadsTo.leadsBy (h : store.LeadsTo p) : store.LeadsBy p := by
  obtain ⟨at_, target, hlink, hfollow⟩ := h
  exact ⟨at_, target, p, hlink, hfollow, meets_of_walk hfollow⟩

theorem Frames.leadsBy (h : Frames old new) (hleads : old.LeadsBy p) : new.LeadsBy p := by
  obtain ⟨at_, target, there, hlink, hfollow, hmeets⟩ := hleads
  exact ⟨at_, target, there, (h.links _ _).2 hlink, h.walk hfollow, h.meets hmeets⟩

theorem fileName?_of_steps {front : List String} (h : path.steps = front ++ [name]) (hname : name ∉ ["", ".", ".."]) :
    path.fileName? = some name.toList := by
  obtain ⟨parts, hends⟩ := Path.exists_endsIn_of_steps h hname
  exact hends.fileName?

/-- A path that leads to anything but a directory ends in a name. -/
theorem exists_steps_of_resolve (h : store.resolve path = .ok p) (hplain : store.node? p ≠ some .dir) :
    ∃ front name, path.steps = front ++ [name] ∧ name ∉ ["", ".", ".."] := by
  obtain ⟨front, name, hsteps⟩ : ∃ front name, path.steps = front ++ [name] :=
    ⟨_, _, (List.dropLast_concat_getLast path.steps_ne_nil).symm⟩
  refine ⟨front, name, hsteps, fun hname => ?_⟩
  obtain ⟨_, -, hwalk⟩ := Except.bind_eq_ok_iff.1 h
  rw [hsteps] at hwalk
  rcases walk_append store maxLinks (store.origin path) front with ⟨error, herror⟩ | ⟨links, here, hmore⟩
  · rw [herror] at hwalk
    cases hwalk
  rw [hmore, walk_cons] at hwalk
  obtain ⟨next, hpace, hnext⟩ := Except.bind_eq_ok_iff.1 hwalk
  obtain ⟨hdir, ⟨-, rfl⟩ | ⟨-, rfl⟩ | ⟨hproper, -⟩⟩ := pace_eq_ok_iff.1 hpace
  · rw [walk_nil] at hnext
    exact hplain (Except.ok.inj hnext ▸ hdir)
  · rw [walk_nil] at hnext
    exact hplain (Except.ok.inj hnext ▸ dir_dropLast hdir)
  · exact hproper hname

/-- What a path leads to, if it is not a directory, has the name of the path, or a link leads there. -/
theorem fileName?_of_resolve (h : store.resolve path = .ok p) (hplain : store.node? p ≠ some .dir) :
    (∃ name, path.fileName? = some name.toList ∧ p.getLast? = some name) ∨ store.LeadsTo p := by
  obtain ⟨front, name, hsteps, hname⟩ := exists_steps_of_resolve h hplain
  obtain ⟨_, -, hwalk⟩ := Except.bind_eq_ok_iff.1 h
  rw [hsteps] at hwalk
  rcases meets_append store maxLinks (store.origin path) front with ⟨error, herror⟩ | ⟨links, here, hle, hmore⟩
  · rw [(herror _).1] at hwalk
    cases hwalk
  rw [(hmore _).1] at hwalk
  rcases eq_or_leadsTo_of_walk hle hname hwalk with rfl | hleads
  · exact .inl ⟨name, fileName?_of_steps hsteps hname, List.getLast?_concat⟩
  · exact .inr hleads

/-- A file of a directory is where its name is the last one, or a link leads there. -/
theorem getLast?_of_resolve_join {root : Path} (hname : IsName name) (h : store.resolve (root.join name) = .ok p) :
    p.getLast? = some name ∨ store.LeadsTo p := by
  obtain ⟨_, -, hwalk⟩ := Except.bind_eq_ok_iff.1 h
  obtain ⟨front, hsteps⟩ := Path.exists_steps_join root hname
  rw [hsteps] at hwalk
  rcases meets_append store maxLinks (store.origin (root.join name)) front with
    ⟨error, herror⟩ | ⟨links, here, hle, hmore⟩
  · rw [(herror _).1] at hwalk
    cases hwalk
  rw [(hmore _).1] at hwalk
  rcases eq_or_leadsTo_of_walk hle hname.1 hwalk with rfl | hleads
  · exact .inl List.getLast?_concat
  · exact .inr hleads

/-! ### Files below a directory -/

section

variable {root : Path} {at_ q : Location}

/-- A walk through directories comes by these, and where it goes on from a link, that link leads by the rest. -/
theorem take_or_leadsBy_of_meets (hle : links ≤ maxLinks) (hentered : store.IsEntered at_ names)
    (hwalk : store.walk .follow links at_ names = .ok q) (h : store.Meets .follow links at_ names p) :
    (∃ j ≤ names.length, p = at_ ++ names.take j) ∨ store.LeadsBy p := by
  induction names generalizing at_ with
  | nil => exact .inl ⟨0, Nat.le_refl _, by rw [meets_nil_iff.1 h, List.take_nil, List.append_nil]⟩
  | cons name rest ih =>
    have hname : IsName name := hentered.head.1
    rcases meets_cons_iff.1 h with rfl | ⟨-, -, rfl⟩ | ⟨next, hpace, hnext⟩
    · exact .inl ⟨0, Nat.zero_le _, by rw [List.take_zero, List.append_nil]⟩
    · exact .inl ⟨1, by simp, by rw [List.take_succ_cons, List.take_zero]⟩
    rw [walk_cons, hpace] at hwalk
    rcases (pace_eq_ok_iff.1 hpace).2 with
      ⟨hdot, -⟩ | ⟨hdots, -⟩ | ⟨-, -, -, ⟨target, links', hlink, rfl, rfl⟩ | ⟨-, rfl⟩⟩
    · exact absurd hdot (not_or.2 ⟨hname.ne_empty, hname.ne_dot⟩)
    · exact absurd hdots hname.ne_dots
    · -- only the last of the names can be that of a link
      cases rest with
      | nil =>
        have hfew : links' ≤ maxLinks - 1 := by omega
        have horigin : linkOrigin (at_ ++ [name]) target = if target.IsAbsolute then [] else at_ := by
          rw [linkOrigin, List.dropLast_concat]
        dsimp only at hnext
        rw [List.append_nil, ← horigin] at hnext
        rw [Except.ok_bind, List.append_nil, ← horigin] at hwalk
        exact .inr ⟨_, target, q, hlink, walk_of_le hfew hwalk, hnext.of_le hfew⟩
      | cons second others =>
        rw [hentered.dir_head] at hlink
        cases hlink
    · rcases ih hentered.tail hwalk hnext with ⟨j, hj, rfl⟩ | hleads
      · exact .inl ⟨j + 1, by simpa using hj, by rw [List.take_succ_cons, ← List.append_cons]⟩
      · exact .inr hleads

/-- A file below a directory is come to by way of the directory, of those in between, and of what a link in its
place leads by. -/
theorem PassesBy.of_below (hroot : store.resolve root = .ok at_) (hentered : store.IsEntered at_ names)
    (hresolve : store.resolve (root.below names) = .ok q) (h : store.PassesBy (root.below names) p) :
    store.PassesBy root p ∨ (∃ j ≤ names.length, p = at_ ++ names.take j) ∨ store.LeadsBy p := by
  by_cases hempty : names = []
  · rw [hempty] at h
    exact .inl h
  have hne := ne_empty_of_resolve hroot
  have horigin : store.origin (root.below names) = store.origin root := by
    simp only [origin, Path.isAbsolute_below hne hentered.1]
  obtain ⟨_, -, hwalk⟩ := Except.bind_eq_ok_iff.1 hroot
  obtain ⟨_, -, hbelow⟩ := Except.bind_eq_ok_iff.1 hresolve
  rw [Path.steps_below hne hentered.1 hempty, horigin] at hbelow
  rw [PassesBy, Path.steps_below hne hentered.1 hempty, horigin] at h
  rcases meets_append store maxLinks (store.origin root) root.names with
    ⟨error, herror⟩ | ⟨links, there, hle, hmore⟩
  · rw [(herror _).1] at hbelow
    cases hbelow
  obtain rfl : at_ = there := by
    rcases root.steps_eq with hsteps | hsteps
    · rw [hsteps, ← List.append_nil root.names, (hmore _).1, walk_nil] at hwalk
      exact (Except.ok.inj hwalk).symm
    · rw [hsteps, (hmore _).1] at hwalk
      exact (walk_empty_step_eq_ok_iff.1 hwalk).2
  rw [(hmore _).1] at hbelow
  rcases ((hmore _).2 p).1 h with h | h
  · exact .inl (.of_steps root.names_prefix_steps h)
  · exact .inr (take_or_leadsBy_of_meets hle hentered hbelow h)

end

end RunCharts.Files.Store
