import RunCharts.Proofs.Files.Written

/-! # Paths without detours

Where the steps of a path go from the root through directories (`IsStraight`), the path leads to where they go, unless
a link stands there. If nothing is there, a directory can be made (`IsStraight.makeDirs`).

In a store without links (`IsPlain`) this is so for all such paths, and every path is direct. -/

namespace RunCharts.Files.Store

variable {store old new : Store} {path : Path} {at_ : Location} {last : LastName}

/-- The steps of a path go from the root through directories to a location. -/
structure IsStraight (store : Store) (path : Path) (at_ : Location) : Prop where
  checked : '\x00' ∉ path.toList ∧ path.utf8ByteSize < 4096 ∧ path ≠ ""
  steps : path.steps = at_
  entered : store.IsEntered [] at_
  short : ∀ name ∈ at_, name.utf8ByteSize ≤ 255

theorem isStraight_iff : store.IsStraight path at_ ↔
    ('\x00' ∉ path.toList ∧ path.utf8ByteSize < 4096 ∧ path ≠ "") ∧ path.steps = at_ ∧ store.IsEntered [] at_ ∧
      ∀ name ∈ at_, name.utf8ByteSize ≤ 255 :=
  ⟨fun h => ⟨h.checked, h.steps, h.entered, h.short⟩, fun ⟨hchecked, hsteps, hentered, hshort⟩ =>
    ⟨hchecked, hsteps, hentered, hshort⟩⟩

instance (store : Store) (path : Path) (at_ : Location) : Decidable (store.IsStraight path at_) :=
  decidable_of_iff _ isStraight_iff.symm

namespace IsStraight

theorem of_isName {name : String} (hname : IsName name) (hchecked : '\x00' ∉ name.toList)
    (hshort : name.utf8ByteSize ≤ 255) : store.IsStraight name [name] :=
  ⟨⟨hchecked, by omega, hname.ne_empty⟩, Path.steps_of_isName hname, isEntered_singleton hname,
    by simpa using hshort⟩

theorem keeps (hkeeps : Keeps old new) (h : old.IsStraight path at_) : new.IsStraight path at_ :=
  ⟨h.checked, h.steps, ⟨h.entered.1, fun j hj => hkeeps.dirs _ (h.entered.2 j hj)⟩, h.short⟩

theorem resolve (h : store.IsStraight path at_) (hstart : store.start = [])
    (hplain : ∀ target, store.node? at_ ≠ some (.link target)) : store.resolve path last = .ok at_ := by
  have horigin : store.origin path = [] := by
    rw [origin, hstart]
    exact ite_self _
  rw [resolve_eq_walk (Path.check_eq_ok_iff.2 h.checked) horigin h.steps]
  exact walk_of_isEntered h.entered h.short hplain

theorem resolve_of_dir (h : store.IsStraight path at_) (hstart : store.start = []) (hdir : store.node? at_ = some .dir) :
    store.resolve path last = .ok at_ :=
  h.resolve hstart (by simp [hdir])

theorem exists? (h : store.IsStraight path at_) (hstart : store.start = []) (hdir : store.node? at_ = some .dir) :
    store.exists? path = true :=
  exists?_iff.2 ⟨at_, h.resolve_of_dir hstart hdir, by simp [hdir]⟩

theorem exists?_of_missing (h : store.IsStraight path at_) (hstart : store.start = [])
    (hmissing : store.node? at_ = none) : store.exists? path = false := by
  have hresolve : store.resolve path = .ok at_ := h.resolve hstart (by simp [hmissing])
  rw [Store.exists?, stat, hresolve, Except.ok_bind, hmissing]
  rfl

/-- A straight path names the location to which it goes, if nothing is there. -/
theorem entry (h : store.IsStraight path at_) (hstart : store.start = []) (hmissing : store.node? at_ = none) :
    store.entry path = .ok at_ := by
  have hroot : store.node? [] = some .dir := node?_eq_some_iff.2 store.root_mem
  have hnames : path.steps.filter (· ≠ "") = at_ := by
    rw [h.steps, List.filter_eq_self]
    exact fun name hname => decide_eq_true (h.entered.1 name hname).ne_empty
  have horigin : store.origin path = [] := by
    rw [origin, hstart]
    exact ite_self _
  rcases List.eq_nil_or_concat at_ with rfl | ⟨front, name, rfl⟩
  · rw [hroot] at hmissing
    cases hmissing
  rw [List.concat_eq_append] at h hnames ⊢
  have hdir : store.node? front = some .dir := by
    have hlast := h.entered.2 front.length (by simp)
    rwa [List.take_left, List.nil_append] at hlast
  have hfront : store.walk .follow maxLinks [] front = .ok front := by
    refine walk_of_isEntered h.entered.front (fun n hn => h.short n (List.mem_append_left _ hn)) fun target hlink => ?_
    rw [List.nil_append, hdir] at hlink
    cases hlink
  have habove : store.walk .follow maxLinks [] (front ++ [""]) = .ok front := by
    rw [← List.append_nil front] at hfront
    rcases walk_append store maxLinks [] front with ⟨error, herror⟩ | ⟨links, there, hthere⟩
    · rw [herror] at hfront
      cases hfront
    · rw [hthere, walk_nil, List.append_nil] at hfront
      rw [hthere, Except.ok.inj hfront]
      exact walk_empty_step_eq_ok_iff.2 ⟨hdir, rfl⟩
  have hname : IsName name := h.entered.1 name (by simp)
  have hshort : name.utf8ByteSize ≤ 255 := h.short name (by simp)
  rw [Store.entry, Path.check_eq_ok_iff.2 h.checked, hnames, horigin, List.reverse_append]
  simp only [List.reverse_singleton, List.singleton_append, List.reverse_reverse, habove, Except.ok_bind]
  rw [if_neg (not_or.2 ⟨hname.ne_dot, hname.ne_dots⟩), if_neg (Nat.not_lt.2 hshort)]

theorem makeDir (h : store.IsStraight path at_) (hstart : store.start = []) (hmissing : store.node? at_ = none) :
    store.makeDir path = .ok (store.put at_ .dir) := by
  rw [Store.makeDir, make, h.entry hstart hmissing, Except.ok_bind, hmissing]

/-- A missing directory can be made where the path goes. -/
theorem makeDirs (h : store.IsStraight path at_) (hstart : store.start = []) (hmissing : store.node? at_ = none) :
    store.makeDirs path = (store.put at_ .dir, .ok ()) := by
  obtain ⟨above, habove⟩ := Path.exists_ancestors_eq_cons h.checked.2.2
  rw [Store.makeDirs, habove, makeDirsAlong_cons, h.makeDir hstart hmissing, settle, h.makeDir hstart hmissing]

theorem node?_put_dir (h : store.IsStraight path at_) (hstart : store.start = []) (hmissing : store.node? at_ = none)
    (p : Location) : (store.put at_ .dir).node? p = if p = at_ then some .dir else store.node? p := by
  obtain ⟨there, hthere, -, -, hnode⟩ := node?_makeDir (h.makeDir hstart hmissing)
  rw [h.entry hstart hmissing] at hthere
  rw [hnode, Except.ok.inj hthere]

theorem keeps_put_dir (h : store.IsStraight path at_) (hstart : store.start = []) (hmissing : store.node? at_ = none) :
    Keeps store (store.put at_ .dir) :=
  (extends_makeDir (h.makeDir hstart hmissing)).keeps

/-- A file can be made where the path goes, if nothing is there. -/
theorem exists_write (h : store.IsStraight path at_) (hstart : store.start = []) (hmissing : store.node? at_ = none)
    (content : List UInt8) : ∃ new, store.write path content = .ok new ∧
      ∀ p, new.node? p = if p = at_ then some (.file content) else store.node? p := by
  have hresolve : store.resolve path .make = .ok at_ := h.resolve hstart (by simp [hmissing])
  obtain ⟨new, hnew⟩ := Store.exists_write ⟨at_, hresolve, by simp [hmissing]⟩ content
  obtain ⟨there, hthere, -, -, hnode⟩ := node?_write hnew
  rw [hresolve] at hthere
  obtain rfl := Except.ok.inj hthere
  exact ⟨new, hnew, hnode⟩

end IsStraight

/-! ### Stores without links -/

/-- A store without links, in which paths start at the root. -/
structure IsPlain (store : Store) : Prop where
  start : store.start = []
  plain : ∀ entry ∈ store.nodes, ∀ target, entry.2 ≠ .link target

namespace IsPlain

theorem ne_link (h : store.IsPlain) (at_ : Location) (target : Path) : store.node? at_ ≠ some (.link target) :=
  fun hlink => h.plain _ (node?_eq_some_iff.1 hlink) target rfl

theorem isDirect (h : store.IsPlain) : store.IsDirect path := fun _ _ target => h.ne_link _ target

theorem resolve (h : store.IsPlain) (hpath : store.IsStraight path at_) : store.resolve path last = .ok at_ :=
  hpath.resolve h.start (h.ne_link at_)

theorem isWritable (h : store.IsPlain) (at_ : Location) (hpath : store.IsStraight path at_)
    (hplain : store.node? at_ ≠ some .dir) : store.IsWritable path :=
  ⟨at_, h.resolve hpath, hplain⟩

end IsPlain

end RunCharts.Files.Store
