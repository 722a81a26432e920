import Mathlib.Data.List.Forall2

/-! # Computations that may fail

When a computation gives a result, and what its parts gave then. A list of computations fails with the
error of the first one that fails (`error?_mapM`), and so does a fold (`foldlM_eq_error_iff`). -/

namespace Except

variable {ε ε' α β : Type}

def error? : Except ε α → Option ε
  | .error e => some e
  | .ok _ => none

@[simp] theorem error?_error (e : ε) : (error e : Except ε α).error? = some e := rfl

@[simp] theorem error?_ok (a : α) : (ok a : Except ε α).error? = none := rfl

@[simp] theorem ok_bind (a : α) (f : α → Except ε β) : (ok a >>= f) = f a := rfl

@[simp] theorem error_bind (e : ε) (f : α → Except ε β) : (error e >>= f) = error e := rfl

@[simp] theorem pure_eq_ok (a : α) : (pure a : Except ε α) = ok a := rfl

theorem bind_eq_ok_iff {x : Except ε α} {f : α → Except ε β} {b : β} :
    x >>= f = ok b ↔ ∃ a, x = ok a ∧ f a = ok b := by
  cases x <;> simp

theorem mapError_eq_ok_iff {x : Except ε α} {f : ε → ε'} {a : α} : x.mapError f = ok a ↔ x = ok a := by
  cases x <;> simp [Except.mapError]

theorem map_eq_ok_iff {x : Except ε α} {f : α → β} {b : β} : x.map f = ok b ↔ ∃ a, x = ok a ∧ f a = b := by
  cases x <;> simp [Except.map]

theorem mapError_eq_error_iff {x : Except ε α} {f : ε → ε'} {e : ε'} :
    x.mapError f = error e ↔ ∃ e', x = error e' ∧ f e' = e := by
  cases x <;> simp [Except.mapError]

theorem map_eq_error_iff {x : Except ε α} {f : α → β} {e : ε} : x.map f = error e ↔ x = error e := by
  cases x <;> simp [Except.map]

theorem error?_bind {x : Except ε α} {f : α → Except ε β} :
    (x >>= f).error? = match x with
      | error e => some e
      | ok a => (f a).error? := by
  cases x <;> rfl

theorem error?_bind_eq_or {x : Except ε α} {f : α → Except ε β} {other : Option ε}
    (h : ∀ a, x = ok a → (f a).error? = other) : (x >>= f).error? = x.error?.or other := by
  cases x with
  | error e => rfl
  | ok a => exact h a rfl

theorem error?_mapError {x : Except ε α} {f : ε → ε'} : (x.mapError f).error? = x.error?.map f := by
  cases x <;> rfl

theorem mapM_eq_ok_iff {f : α → Except ε β} {list : List α} {results : List β} :
    list.mapM f = ok results ↔ List.Forall₂ (fun a b => f a = ok b) list results := by
  induction list generalizing results with
  | nil => simp [eq_comm]
  | cons a rest ih =>
    rw [List.mapM_cons, List.forall₂_cons_left_iff, bind_eq_ok_iff]
    constructor
    · rintro ⟨b, hb, h⟩
      obtain ⟨more, hmore, h⟩ := bind_eq_ok_iff.1 h
      exact ⟨b, more, hb, ih.1 hmore, (ok.inj h).symm⟩
    · rintro ⟨b, more, hb, hmore, rfl⟩
      exact ⟨b, hb, bind_eq_ok_iff.2 ⟨more, ih.2 hmore, rfl⟩⟩

/-- What is determined by the elements of a list is so by their results. -/
theorem map_eq_of_mapM {γ : Type} {f : α → Except ε β} {list : List α} {results : List β} {g : α → γ} {g' : β → γ}
    (h : list.mapM f = ok results) (hg : ∀ a b, f a = ok b → g' b = g a) : results.map g' = list.map g := by
  have hall := mapM_eq_ok_iff.1 h
  clear h
  induction hall with
  | nil => rfl
  | cons hb _ ih => rw [List.map_cons, List.map_cons, hg _ _ hb, ih]

theorem mapM_congr {f g : α → Except ε β} {list : List α} (h : ∀ a ∈ list, f a = g a) : list.mapM f = list.mapM g := by
  induction list with
  | nil => rfl
  | cons a rest ih =>
    rw [List.mapM_cons, List.mapM_cons, h a List.mem_cons_self, ih fun b hb => h b (List.mem_cons_of_mem _ hb)]

theorem error?_mapM (f : α → Except ε β) (list : List α) :
    (list.mapM f).error? = list.findSome? fun a => (f a).error? := by
  induction list with
  | nil => rfl
  | cons a rest ih =>
    rw [List.mapM_cons, error?_bind, List.findSome?_cons]
    cases f a with
    | error e => rfl
    | ok b =>
      dsimp only [error?_ok]
      rw [error?_bind, ← ih]
      cases rest.mapM f <;> rfl

theorem error?_forM (f : α → Except ε PUnit) (list : List α) :
    (list.forM f).error? = list.findSome? fun a => (f a).error? := by
  induction list with
  | nil => rfl
  | cons a rest ih =>
    have hcons : (a :: rest).forM f = f a >>= fun _ => rest.forM f := rfl
    rw [hcons, error?_bind, List.findSome?_cons]
    cases f a with
    | error e => rfl
    | ok done => exact ih

theorem mapError_mapM (f : α → Except ε β) (g : ε → ε') (list : List α) :
    (list.mapM f).mapError g = list.mapM fun a => (f a).mapError g := by
  induction list with
  | nil => rfl
  | cons a rest ih =>
    rw [List.mapM_cons, List.mapM_cons, ← ih]
    cases f a with
    | error e => rfl
    | ok b => cases rest.mapM f <;> rfl

theorem error?_eq_none_iff {x : Except ε α} : x.error? = none ↔ ∃ a, x = ok a := by
  cases x <;> simp

theorem error?_eq_some_iff {x : Except ε α} {e : ε} : x.error? = some e ↔ x = error e := by
  cases x <;> simp

theorem exists_mapM_eq_ok_iff {f : α → Except ε β} {list : List α} :
    (∃ results, list.mapM f = ok results) ↔ ∀ a ∈ list, ∃ b, f a = ok b := by
  simp only [← error?_eq_none_iff, error?_mapM, List.findSome?_eq_none_iff]

theorem mapM_eq_error_iff {f : α → Except ε β} {list : List α} {e : ε} :
    list.mapM f = error e ↔
      ∃ front a back, list = front ++ a :: back ∧ (∀ b ∈ front, ∃ c, f b = ok c) ∧ f a = error e := by
  simp only [← error?_eq_some_iff, ← error?_eq_none_iff, error?_mapM, List.findSome?_eq_some_iff,
    and_comm (a := (f _).error? = some e)]

theorem foldlM_eq_error_iff {σ : Type} {f : σ → α → Except ε σ} {list : List α} {start : σ} {e : ε} :
    list.foldlM f start = error e ↔
      ∃ front a back mid, list = front ++ a :: back ∧ front.foldlM f start = ok mid ∧ f mid a = error e := by
  constructor
  · intro h
    induction list generalizing start with
    | nil => cases h
    | cons a rest ih =>
      rw [List.foldlM_cons] at h
      cases ha : f start a with
      | error e' =>
        rw [ha, error_bind] at h
        exact ⟨[], a, rest, start, rfl, rfl, ha.trans h⟩
      | ok next =>
        rw [ha, ok_bind] at h
        obtain ⟨front, b, back, mid, rfl, hfront, hb⟩ := ih h
        refine ⟨a :: front, b, back, mid, rfl, ?_, hb⟩
        rw [List.foldlM_cons, ha, ok_bind, hfront]
  · rintro ⟨front, a, back, mid, rfl, hfront, ha⟩
    rw [List.foldlM_append, hfront, ok_bind, List.foldlM_cons, ha, error_bind]

end Except
