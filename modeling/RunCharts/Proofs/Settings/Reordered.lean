import RunCharts.Proofs.Settings.Record

/-! # Entries in another order

Entries of mappings can change places, in the document and in what its aliases stand for (`Place.Reordered`). A record
stays a record with the same values (`sectionKind_steady`), since neither says anything about order. -/

namespace RunCharts

open Yaml

/-- The entries of mappings have changed places, at any depth. -/
inductive Yaml.Node.Reordered : Node → Node → Prop
  | refl (node : Node) : Reordered node node
  | mapping {entries middle entries' : List (Node × Node)}
    (hkeys : List.Forall₂ (fun entry entry' => Reordered entry.1 entry'.1) entries middle)
    (hvalues : List.Forall₂ (fun entry entry' => Reordered entry.2 entry'.2) entries middle)
    (hperm : middle.Perm entries') : Reordered (.mapping entries) (.mapping entries')

/-- Only the order of entries is different, and so it is in what aliases stand for. -/
structure Place.Reordered (place place' : Place) : Prop where
  node : place.node.Reordered place'.node
  anchored : List.Forall₂ (fun anchor anchor' => anchor.1 = anchor'.1 ∧ anchor.2.Reordered anchor'.2)
    place.document.anchored place'.document.anchored

/-- What is asked of a value does not depend on the order of entries. -/
def ValueKind.Steady {α : Type} (kind : ValueKind α) : Prop :=
  ∀ place place', place.Reordered place' → ∀ value, kind.Gives place value → kind.Gives place' value

variable {σ α : Type} {parts : List (Part σ)} {place place' : Place} {entries entries' middle : List (Node × Node)}
  {entry entry' : Node × Node}

theorem reordered_target {document document' : Document}
    (h : List.Forall₂ (fun anchor anchor' => anchor.1 = anchor'.1 ∧ anchor.2.Reordered anchor'.2)
      document.anchored document'.anchored) (number : Nat) :
    (document.target number).Reordered (document'.target number) := by
  have hreverse := List.rel_reverse h
  rw [Document.target, Document.target]
  generalize document.anchored.reverse = anchored at hreverse
  generalize document'.anchored.reverse = anchored' at hreverse
  induction hreverse with
  | nil => exact .refl _
  | @cons anchor anchor' rest rest' hanchor _ ih =>
    by_cases hnumber : anchor.1 = number
    · rw [List.find?_cons_of_pos (by simpa using hnumber), List.find?_cons_of_pos (by simpa [← hanchor.1])]
      exact hanchor.2
    · rw [List.find?_cons_of_neg (by simpa using hnumber), List.find?_cons_of_neg (by simpa [← hanchor.1])]
      exact ih

namespace Place.Reordered

theorem resolved (h : place.Reordered place') : place.resolved.Reordered place'.resolved := by
  obtain ⟨document, path, node⟩ := place
  obtain ⟨document', path', node'⟩ := place'
  obtain ⟨hnode, hanchored⟩ := h
  cases hnode with
  | mapping hkeys hvalues hperm => exact .mapping hkeys hvalues hperm
  | refl node =>
    match node with
    | .alias number => exact reordered_target hanchored number
    | .scalar _ | .sequence | .mapping _ | .cut => exact .refl _

theorem resolved_of_scalar (h : place.Reordered place') {scalar : Scalar} (hscalar : place.resolved = .scalar scalar) :
    place'.resolved = .scalar scalar := by
  have hresolved := h.resolved
  rw [hscalar] at hresolved
  generalize place'.resolved = node' at hresolved
  cases hresolved
  rfl

theorem numberText? (h : place.Reordered place') {tag : String} {text : List Char}
    (htext : place.numberText? tag = some text) : place'.numberText? tag = some text := by
  rw [Place.numberText?] at htext ⊢
  cases hresolved : place.resolved with
  | scalar scalar =>
    rw [hresolved] at htext
    rw [h.resolved_of_scalar hresolved]
    exact htext
  | _ => rw [hresolved] at htext; cases htext

theorem keyOf (h : place.Reordered place') (hkey : entry.1.Reordered entry'.1) :
    (place.keyOf entry).Reordered (place'.keyOf entry') := ⟨hkey, h.anchored⟩

theorem valueOf (h : place.Reordered place') (hvalue : entry.2.Reordered entry'.2) :
    (place.valueOf entry).Reordered (place'.valueOf entry') := ⟨hvalue, h.anchored⟩

theorem name? (h : place.Reordered place') (hkey : entry.1.Reordered entry'.1) :
    place.name? entry = place'.name? entry' := by
  have hresolved := (h.keyOf hkey).resolved
  rw [Place.name?, Place.name?]
  generalize (place.keyOf entry).resolved = key at hresolved
  generalize (place'.keyOf entry').resolved = key' at hresolved
  cases hresolved <;> rfl

end Place.Reordered

/-! ### Records -/

theorem exists_mem_of_forall₂ {β γ : Type} {R : β → γ → Prop} {list : List β} {list' : List γ}
    (h : List.Forall₂ R list list') {c : γ} (hc : c ∈ list') : ∃ b ∈ list, R b c := by
  induction h with
  | nil => cases hc
  | cons hbc _ ih =>
    rcases List.mem_cons.1 hc with rfl | hc
    · exact ⟨_, List.mem_cons_self, hbc⟩
    · obtain ⟨b, hb, hbc⟩ := ih hc
      exact ⟨b, List.mem_cons_of_mem _ hb, hbc⟩

section

variable (hplace : place.Reordered place')
  (hkeys : List.Forall₂ (fun entry entry' => Yaml.Node.Reordered entry.1 entry'.1) entries middle)
  (hvalues : List.Forall₂ (fun entry entry' => Yaml.Node.Reordered entry.2 entry'.2) entries middle)
  (hperm : middle.Perm entries')

include hplace hkeys in
theorem map_name?_eq : entries.map place.name? = middle.map place'.name? := by
  induction hkeys with
  | nil => rfl
  | cons hkey _ ih => rw [List.map_cons, List.map_cons, hplace.name? hkey, ih]

include hplace hkeys hvalues hperm

theorem exists_mem_of_reordered (h : entry' ∈ entries') : ∃ entry ∈ entries,
    place.name? entry = place'.name? entry' ∧ (place.valueOf entry).Reordered (place'.valueOf entry') := by
  obtain ⟨entry, hentry, hkey, hvalue⟩ := exists_mem_of_forall₂ (hkeys.mp (fun _ _ => And.intro) hvalues)
    (hperm.mem_iff.2 h)
  exact ⟨entry, hentry, hplace.name? hkey, hplace.valueOf hvalue⟩

theorem IsRecord.reordered (hsteady : ∀ part ∈ parts, part.kind.Steady) (h : IsRecord parts place entries) :
    IsRecord parts place' entries' := by
  constructor
  · intro entry' hentry'
    obtain ⟨entry, hentry, hname, hvalue⟩ := exists_mem_of_reordered hplace hkeys hvalues hperm hentry'
    obtain ⟨part, hpart, hname', value, hgives⟩ := h.known entry hentry
    exact ⟨part, hpart, hname.symm.trans hname', value, hsteady part hpart _ _ hvalue value hgives⟩
  · have honce := h.once
    rw [map_name?_eq hplace hkeys] at honce
    exact (hperm.map _).nodup_iff.1 honce

theorem Given.reordered {name : String} {kind : ValueKind α} {default value : α} (hsteady : kind.Steady)
    (h : Given place entries name kind default value) : Given place' entries' name kind default value := by
  constructor
  · intro entry' hentry' hname'
    obtain ⟨entry, hentry, hname, hvalue⟩ := exists_mem_of_reordered hplace hkeys hvalues hperm hentry'
    exact hsteady _ _ hvalue value (h.given entry hentry (hname.trans hname'))
  · intro hnone
    refine h.absent fun entry hentry hname => ?_
    obtain ⟨entry', hentry', hkey⟩ := exists_mem_of_forall₂ hkeys.flip hentry
    exact hnone entry' (hperm.mem_iff.1 hentry') ((hplace.name? hkey).symm.trans hname)

end

theorem sectionKind_steady {name : String} {defaults : σ} (hsteady : ∀ part ∈ parts, part.kind.Steady) :
    (sectionKind name parts defaults).Steady := by
  intro place place' hplace value hgives
  have hresolved := hplace.resolved
  simp only [sectionKind] at hgives ⊢
  generalize place.resolved = node at hresolved hgives
  generalize place'.resolved = node' at hresolved
  cases hresolved with
  | refl node =>
    cases node with
    | mapping entries =>
      have hkeys : List.Forall₂ (fun entry entry' => Yaml.Node.Reordered entry.1 entry'.1) entries entries :=
        List.forall₂_same.2 fun entry _ => .refl entry.1
      have hvalues : List.Forall₂ (fun entry entry' => Yaml.Node.Reordered entry.2 entry'.2) entries entries :=
        List.forall₂_same.2 fun entry _ => .refl entry.2
      exact ⟨hgives.1.reordered hplace hkeys hvalues (.refl _) hsteady, fun part hpart =>
        (hgives.2 part hpart).reordered hplace hkeys hvalues (.refl _) (hsteady part hpart)⟩
    | _ => exact hgives
  | mapping hkeys hvalues hperm =>
    exact ⟨hgives.1.reordered hplace hkeys hvalues hperm hsteady, fun part hpart =>
      (hgives.2 part hpart).reordered hplace hkeys hvalues hperm (hsteady part hpart)⟩

end RunCharts
