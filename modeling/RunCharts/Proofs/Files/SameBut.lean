import RunCharts.Proofs.Files.Growth
import RunCharts.Proofs.Files.Way

/-! # Stores that differ out of the way

Two stores of the same directories and links may hold different files at some locations (`SameBut`). A path that passes
by none of these is the same in both. What is written there, or made, is the same then, and leaves stores that
differ at these locations only (`SameBut.write`, `SameBut.makeDirs`). -/

namespace RunCharts.Files.Store

variable {store old new : Store} {hidden : Location → Prop} {path : Path} {at_ p : Location}

/-- The stores have the same directories and links. -/
structure SameShape (old new : Store) : Prop where
  start : new.start = old.start
  dirs : ∀ at_, new.node? at_ = some .dir ↔ old.node? at_ = some .dir
  links : ∀ at_ target, new.node? at_ = some (.link target) ↔ old.node? at_ = some (.link target)

/-- The stores differ at hidden locations only, and only in files. -/
structure SameBut (hidden : Location → Prop) (old new : Store) : Prop extends SameShape old new where
  same : ∀ p, ¬ hidden p → new.node? p = old.node? p

/-- A path passes by nothing hidden. -/
def Avoids (store : Store) (hidden : Location → Prop) (path : Path) : Prop := ∀ p, store.PassesBy path p → ¬ hidden p

theorem Avoids.of_keeps (hkeeps : Keeps old new) (h : new.Avoids hidden path) : old.Avoids hidden path :=
  fun p hp => h p (hkeeps.frames.passesBy hp)

theorem Avoids.ancestor {above : Path} (h : store.Avoids hidden path) (habove : above ∈ path.ancestors) :
    store.Avoids hidden above :=
  fun p hp => h p (hp.of_mem_ancestors habove)

namespace SameShape

theorem symm (h : SameShape old new) : SameShape new old :=
  ⟨h.start.symm, fun _ => (h.dirs _).symm, fun _ _ => (h.links _ _).symm⟩

theorem frames (h : SameShape old new) : Frames old new := ⟨h.start, fun _ => (h.dirs _).2, h.links⟩

end SameShape

/-- A file that is added somewhere makes the only difference. -/
theorem sameShape_put {content : List UInt8} (hparent : store.node? at_.dropLast = some .dir)
    (hnone : store.node? at_ = none) (hname : ∀ name ∈ at_.getLast?, IsName name) :
    SameShape store (store.put at_ (.file content)) ∧
      ∀ p, (store.put at_ (.file content)).node? p ≠ store.node? p → p = at_ := by
  have hplain : store.node? at_ ≠ some .dir := by simp [hnone]
  have hnode := node?_put (.file content) hparent hplain hname
  refine ⟨⟨by rw [put, dif_pos ⟨hparent, hplain, hname⟩], fun p => ?_, fun p target => ?_⟩, fun p hp => ?_⟩
  · rw [hnode]
    split
    · rename_i hp
      rw [hp, hnone]
      simp
    · exact Iff.rfl
  · rw [hnode]
    split
    · rename_i hp
      rw [hp, hnone]
      simp
    · exact Iff.rfl
  · by_contra hne
    rw [hnode, if_neg hne] at hp
    exact hp rfl

namespace SameBut

theorem sees (h : SameBut hidden old new) (hpath : old.Avoids hidden path) (p : Location) (hp : old.PassesBy path p) :
    new.node? p = old.node? p := h.same p (hpath p hp)

theorem stat (h : SameBut hidden old new) (hpath : old.Avoids hidden path) : new.stat path = old.stat path :=
  stat_congr h.start (h.sees hpath)

/-- The same node is put in the same place. -/
theorem set {old' new' : Store} {node : Node} (h : SameBut hidden old new) (hold : old'.start = old.start)
    (hnew : new'.start = new.start) (hnode : ∀ p, old'.node? p = if p = at_ then some node else old.node? p)
    (hnode' : ∀ p, new'.node? p = if p = at_ then some node else new.node? p) : SameBut hidden old' new' := by
  refine ⟨⟨by rw [hnew, hold, h.start], fun p => ?_, fun p target => ?_⟩, fun p hp => ?_⟩
  · rw [hnode, hnode']
    split
    · exact Iff.rfl
    · exact h.dirs p
  · rw [hnode, hnode']
    split
    · exact Iff.rfl
    · exact h.links p target
  · rw [hnode, hnode', h.same p hp]

/-- A file is written in both stores, or is refused for the same reason. -/
theorem write (h : SameBut hidden old new) (hpath : old.Avoids hidden path) (content : List UInt8) :
    (∃ error, old.write path content = .error error ∧ new.write path content = .error error) ∨
      ∃ old' new', old.write path content = .ok old' ∧ new.write path content = .ok new' ∧
        SameBut hidden old' new' := by
  have hresolve := resolve_congr h.start (h.sees hpath) .make
  cases hold : old.resolve path .make with
  | error error =>
    rw [hold] at hresolve
    exact .inl ⟨error, by rw [Store.write, hold, Except.error_bind], by rw [Store.write, hresolve, Except.error_bind]⟩
  | ok at_ =>
    rw [hold] at hresolve
    have hself := h.sees hpath at_ (passesBy_of_resolve hold)
    by_cases hdir : old.node? at_ = some .dir
    · left
      refine ⟨.isADirectory, ?_, ?_⟩
      · rw [Store.write, hold, Except.ok_bind, hdir]
      · rw [Store.write, hresolve, Except.ok_bind, hself, hdir]
    · obtain ⟨old', hold'⟩ := exists_write ⟨at_, hold, hdir⟩ content
      obtain ⟨new', hnew'⟩ := exists_write ⟨at_, hresolve, by rwa [hself]⟩ content
      refine .inr ⟨old', new', hold', hnew', ?_⟩
      obtain ⟨there, hthere, -, hstart, hnode⟩ := node?_write hold'
      obtain ⟨there', hthere', -, hstart', hnode'⟩ := node?_write hnew'
      rw [hold] at hthere
      rw [hresolve] at hthere'
      cases hthere
      cases hthere'
      exact h.set hstart hstart' hnode hnode'

/-! ### Making directories -/

theorem passesBy_of_entry (h : store.entry path = .ok at_) : store.PassesBy path at_ := by
  obtain ⟨above, name, dir, -, hnames, hwalk, hdots, -, rfl⟩ := entry_eq_ok h
  have hname : name ∉ ["", ".", ".."] := by
    have hempty := Path.ne_empty_of_mem_names (show name ∈ path.names by simp [hnames])
    simp_all
  refine .of_steps path.names_prefix_steps ?_
  rw [hnames]
  rcases meets_append store maxLinks (store.origin path) above with ⟨error, herror⟩ | ⟨links, there, -, hmore⟩
  · rw [(herror _).1] at hwalk
    cases hwalk
  · rw [(hmore _).1] at hwalk
    obtain ⟨hdir, rfl⟩ := walk_empty_step_eq_ok_iff.1 hwalk
    exact ((hmore _).2 _).2 (.inr (.asks _ _ hdir hname))

theorem entry_congr (hstart : new.start = old.start) (h : ∀ p, old.PassesBy path p → new.node? p = old.node? p) :
    new.entry path = old.entry path := by
  have horigin : new.origin path = old.origin path := by rw [origin, origin, hstart]
  rw [entry, entry, Path.filter_steps, horigin]
  cases hnames : path.names.reverse with
  | nil => rfl
  | cons name above =>
    have hall : path.names = above.reverse ++ [name] := by
      rw [← List.reverse_reverse path.names, hnames, List.reverse_cons]
    have hwalk : new.walk .follow maxLinks (old.origin path) (above.reverse ++ [""]) =
        old.walk .follow maxLinks (old.origin path) (above.reverse ++ [""]) := by
      refine (walk_congr fun p hp => h p ?_).1
      have hfront : above.reverse <+: path.steps := by
        refine .trans ?_ path.names_prefix_steps
        rw [hall]
        exact List.prefix_append _ _
      exact .of_steps hfront hp.of_append_empty
    dsimp only
    rw [hwalk]

theorem makeDir (h : SameBut hidden old new) (hpath : old.Avoids hidden path) :
    (∃ error, old.makeDir path = .error error ∧ new.makeDir path = .error error) ∨
      ∃ old' new', old.makeDir path = .ok old' ∧ new.makeDir path = .ok new' ∧ SameBut hidden old' new' := by
  have hentry := entry_congr h.start (h.sees hpath)
  cases hold : old.entry path with
  | error error =>
    rw [hold] at hentry
    exact .inl ⟨error, by rw [Store.makeDir, make, hold, Except.error_bind],
      by rw [Store.makeDir, make, hentry, Except.error_bind]⟩
  | ok at_ =>
    rw [hold] at hentry
    have hself := h.sees hpath at_ (passesBy_of_entry hold)
    cases hnode : old.node? at_ with
    | some node =>
      left
      refine ⟨.alreadyExists, ?_, ?_⟩
      · rw [Store.makeDir, make, hold, Except.ok_bind, hnode]
      · rw [Store.makeDir, make, hentry, Except.ok_bind, hself, hnode]
    | none =>
      have hold' : old.makeDir path = .ok (old.put at_ .dir) := by
        rw [Store.makeDir, make, hold, Except.ok_bind, hnode]
      have hnew' : new.makeDir path = .ok (new.put at_ .dir) := by
        rw [Store.makeDir, make, hentry, Except.ok_bind, hself, hnode]
      refine .inr ⟨_, _, hold', hnew', ?_⟩
      obtain ⟨there, hthere, -, hstart, hnode⟩ := node?_makeDir hold'
      obtain ⟨there', hthere', -, hstart', hnode'⟩ := node?_makeDir hnew'
      rw [hold] at hthere
      rw [hentry] at hthere'
      cases hthere
      cases hthere'
      exact h.set hstart hstart' hnode hnode'

theorem settle (h : SameBut hidden old new) (hpath : old.Avoids hidden path) :
    (new.settle path).2 = (old.settle path).2 ∧ SameBut hidden (old.settle path).1 (new.settle path).1 := by
  have hisDir : new.isDir path = old.isDir path := by rw [isDir, isDir, h.stat hpath]
  rw [Store.settle, Store.settle]
  rcases h.makeDir hpath with ⟨error, hold, hnew⟩ | ⟨old', new', hold, hnew, hsame⟩ <;> rw [hold, hnew]
  · exact ⟨by rw [hisDir], h⟩
  · exact ⟨rfl, hsame⟩

theorem makeDirsAlong {paths : List Path} (h : SameBut hidden old new)
    (hpaths : ∀ path ∈ paths, (old.makeDirsAlong paths).1.Avoids hidden path) :
    (new.makeDirsAlong paths).2 = (old.makeDirsAlong paths).2 ∧
      SameBut hidden (old.makeDirsAlong paths).1 (new.makeDirsAlong paths).1 := by
  induction paths generalizing old new with
  | nil => exact ⟨rfl, h⟩
  | cons path above ih =>
    have hself : old.Avoids hidden path :=
      (hpaths path List.mem_cons_self).of_keeps (grows_makeDirsAlong old (path :: above)).keeps
    rw [makeDirsAlong_cons] at hpaths ⊢
    rw [makeDirsAlong_cons old]
    rcases h.makeDir hself with ⟨error, hold, hnew⟩ | ⟨old', new', hold, hnew, -⟩
    · rw [hold] at hpaths
      rw [hold, hnew]
      by_cases hmissing : error = .notFound
      · -- what is made above is kept when the directory itself is settled
        subst hmissing
        dsimp only at hpaths ⊢
        rcases hmade : old.makeDirsAlong above with ⟨made, error | _⟩ <;> rw [hmade] at hpaths
        · obtain ⟨hresult, hsame⟩ := ih h fun other hother => by
            rw [hmade]
            exact hpaths other (List.mem_cons_of_mem _ hother)
          rw [hmade] at hresult hsame
          rcases hmade' : new.makeDirsAlong above with ⟨made', error' | _⟩ <;> rw [hmade'] at hresult hsame
          · exact ⟨hresult, hsame⟩
          · cases hresult
        · have hkeeps : Keeps made (made.settle path).1 := (grows_settle made path).keeps
          obtain ⟨hresult, hsame⟩ := ih h fun other hother => by
            rw [hmade]
            exact (hpaths other (List.mem_cons_of_mem _ hother)).of_keeps hkeeps
          rw [hmade] at hresult hsame
          rcases hmade' : new.makeDirsAlong above with ⟨made', error' | _⟩ <;> rw [hmade'] at hresult hsame
          · cases hresult
          · exact hsame.settle ((hpaths path List.mem_cons_self).of_keeps hkeeps)
      · cases error <;> first | exact absurd rfl hmissing | exact h.settle hself
    · rw [hold, hnew]
      exact h.settle hself

theorem makeDirs (h : SameBut hidden old new) (hpath : (old.makeDirs path).1.Avoids hidden path) :
    (new.makeDirs path).2 = (old.makeDirs path).2 ∧ SameBut hidden (old.makeDirs path).1 (new.makeDirs path).1 :=
  h.makeDirsAlong fun _ habove => hpath.ancestor habove

end SameBut

end RunCharts.Files.Store
