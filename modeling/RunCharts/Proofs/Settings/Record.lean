import Mathlib.Data.List.Nodup
import RunCharts.Settings.Read
import RunCharts.Proofs.FirstError

/-! # Records in a document

A section is read entry by entry. What it comes to does not depend on their order: each entry has the name of one of
the parts of the record, no name comes twice, and the parts have the values that their entries give, or else their
defaults (`IsRecord`, `Given`). Otherwise the first fault is reported (`FirstFault`). `Follows.readBy` says so of any
section whose fields set one part each (`Follows`). -/

namespace RunCharts

open Yaml

/-- What is asked of a value: what a node gives, and how a node is refused that gives nothing. -/
structure ValueKind (α : Type) where
  Gives : Place → α → Prop
  Fails : Place → SettingsError → Prop

/-- A part of a record, with the name of its field. -/
structure Part (σ : Type) where
  name : String
  {Value : Type}
  kind : ValueKind Value
  get : σ → Value

namespace Place

def keyOf (place : Place) (entry : Node × Node) : Place := { place with node := entry.1 }

/-- The value of an entry, where it stands. -/
def valueOf (place : Place) (entry : Node × Node) : Place :=
  ⟨place.document, place.path ++ [Section.keyLabel entry.1], entry.2⟩

/-- The name of an entry: the text of its key, if that is a scalar. -/
def name? (place : Place) (entry : Node × Node) : Option String :=
  match (place.keyOf entry).resolved with
  | .scalar scalar => some (String.ofList scalar.text)
  | _ => none

end Place

variable {σ α : Type} {parts : List (Part σ)} {place : Place} {entries : List (Node × Node)}

/-- Each entry has a name of its own and a value that this name asks for. -/
structure IsRecord (parts : List (Part σ)) (place : Place) (entries : List (Node × Node)) : Prop where
  known : ∀ entry ∈ entries, ∃ part ∈ parts, place.name? entry = some part.name ∧
    ∃ value, part.kind.Gives (place.valueOf entry) value
  once : (entries.map place.name?).Nodup

/-- The value is what the entry of the given name gives, or the default if there is none. -/
structure Given (place : Place) (entries : List (Node × Node)) (name : String) (kind : ValueKind α)
    (default value : α) : Prop where
  given : ∀ entry ∈ entries, place.name? entry = some name → kind.Gives (place.valueOf entry) value
  absent : (∀ entry ∈ entries, place.name? entry ≠ some name) → value = default

/-- What is wrong with an entry behind others. -/
inductive EntryFault (parts : List (Part σ)) (place : Place) (front : List (Node × Node)) (entry : Node × Node) :
    SettingsError → Prop
  | key (h : place.name? entry = none) : EntryFault parts place front entry ((place.keyOf entry).wrongType .field)
  | unknown {name : String} (h : place.name? entry = some name) (hname : ∀ part ∈ parts, part.name ≠ name) :
    EntryFault parts place front entry (.unknownField place.path name (parts.map (·.name)))
  | repeated {part : Part σ} (hpart : part ∈ parts) (h : place.name? entry = some part.name)
    (hfront : ∃ earlier ∈ front, place.name? earlier = some part.name) :
    EntryFault parts place front entry (.duplicateField place.path part.name)
  | value {part : Part σ} {error : SettingsError} (hpart : part ∈ parts) (h : place.name? entry = some part.name)
    (hfront : ∀ earlier ∈ front, place.name? earlier ≠ some part.name)
    (hvalue : part.kind.Fails (place.valueOf entry) error) : EntryFault parts place front entry error

/-- What is wrong with the first entry that does not go with those in front of it. -/
def FirstFault (parts : List (Part σ)) (place : Place) (entries : List (Node × Node)) (error : SettingsError) : Prop :=
  ∃ front entry back, entries = front ++ entry :: back ∧ IsRecord parts place front ∧
    EntryFault parts place front entry error

/-- A section: a mapping that is a record, or nothing at all. -/
def sectionKind (name : String) (parts : List (Part σ)) (defaults : σ) : ValueKind σ where
  Gives place value :=
    match place.resolved with
    | .mapping entries => IsRecord parts place entries ∧
      ∀ part ∈ parts, Given place entries part.name part.kind (part.get defaults) (part.get value)
    | .scalar scalar => scalar.isEmpty = true ∧ value = defaults
    | _ => False
  Fails place error :=
    match place.resolved with
    | .mapping entries => FirstFault parts place entries error
    | .scalar scalar => scalar.isEmpty = false ∧ error = place.wrongType (.fields name)
    | _ => error = place.wrongType (.fields name)

/-! ### Fields and parts -/

/-- The values of this kind are read in this way. -/
def ValueKind.ReadBy (kind : ValueKind α) (read : Place → Except SettingsError α) : Prop :=
  ∀ place, (∀ value, read place = .ok value ↔ kind.Gives place value) ∧
    ∀ error, read place = .error error ↔ kind.Fails place error

/-- The field sets a part and leaves the others as they are. -/
structure Sets (parts : List (Part σ)) (field : Field σ) (part : Part σ) : Prop where
  name : field.name = part.name
  set : ∃ (read : Place → Except SettingsError part.Value) (put : σ → part.Value → σ),
    part.kind.ReadBy read ∧ (∀ place s, field.set place s = read place >>= fun value => pure (put s value)) ∧
      (∀ s value, part.get (put s value) = value) ∧
        ∀ other ∈ parts, other.name ≠ part.name → ∀ s value, other.get (put s value) = other.get s

/-- The fields of the section set the parts of the record. -/
structure Follows (outline : Section σ) (parts : List (Part σ)) : Prop where
  fields : List.Forall₂ (Sets parts) outline.fields parts
  distinct : (parts.map (·.name)).Nodup
  ext : ∀ s s' : σ, (∀ part ∈ parts, part.get s = part.get s') → s = s'

theorem ValueKind.ReadBy.functional {kind : ValueKind α} {read : Place → Except SettingsError α} (h : kind.ReadBy read)
    {value value' : α} (hvalue : kind.Gives place value) (hvalue' : kind.Gives place value') : value = value' := by
  rw [← (h place).1] at hvalue hvalue'
  exact Except.ok.inj (hvalue.symm.trans hvalue')

namespace Sets

variable {field : Field σ} {part : Part σ} {s s' : σ} {error : SettingsError}

theorem set_eq_error_iff (h : Sets parts field part) :
    field.set place s = .error error ↔ part.kind.Fails place error := by
  obtain ⟨read, put, hread, hset, -⟩ := h.set
  rw [hset, ← (hread place).2]
  cases read place <;> simp

theorem gives (h : Sets parts field part) (hset : field.set place s = .ok s') : part.kind.Gives place (part.get s') := by
  obtain ⟨read, put, hread, hfield, hget, -⟩ := h.set
  rw [hfield] at hset
  obtain ⟨value, hvalue, hset⟩ := Except.bind_eq_ok_iff.1 hset
  cases hset
  rw [hget]
  exact ((hread place).1 value).1 hvalue

theorem get_of_ne (h : Sets parts field part) (hset : field.set place s = .ok s') {other : Part σ}
    (hother : other ∈ parts) (hne : other.name ≠ part.name) : other.get s' = other.get s := by
  obtain ⟨read, put, hread, hfield, -, hothers⟩ := h.set
  rw [hfield] at hset
  obtain ⟨value, hvalue, hset⟩ := Except.bind_eq_ok_iff.1 hset
  cases hset
  exact hothers other hother hne s value

theorem not_fails (h : Sets parts field part) {value : part.Value} (hvalue : part.kind.Gives place value) :
    ¬ part.kind.Fails place error := by
  obtain ⟨read, put, hread, -⟩ := h.set
  rw [← (hread place).1] at hvalue
  rw [← (hread place).2, hvalue]
  exact nofun

end Sets

theorem map_name_of_forall₂ {fields : List (Field σ)} {listed : List (Part σ)}
    (h : List.Forall₂ (Sets parts) fields listed) : fields.map (·.name) = listed.map (·.name) := by
  induction h with
  | nil => rfl
  | cons hfield _ ih => rw [List.map_cons, List.map_cons, hfield.name, ih]

/-- The field that is found for a name sets a part of this name. -/
theorem find?_of_forall₂ {fields : List (Field σ)} {listed : List (Part σ)}
    (h : List.Forall₂ (Sets parts) fields listed) (name : String) :
    (fields.find? (·.name = name) = none ∧ ∀ part ∈ listed, part.name ≠ name) ∨
      ∃ field part, fields.find? (·.name = name) = some field ∧ part ∈ listed ∧ part.name = name ∧
        Sets parts field part := by
  induction h with
  | nil => exact .inl ⟨rfl, nofun⟩
  | @cons field part fields listed hfield _ ih =>
    by_cases hname : part.name = name
    · refine .inr ⟨field, part, ?_, List.mem_cons_self, hname, hfield⟩
      rw [List.find?_cons_of_pos]
      simp [hfield.name, hname]
    · rw [List.find?_cons_of_neg (by simp [hfield.name, hname])]
      rcases ih with ⟨hnone, hothers⟩ | ⟨field', part', hfind, hmem, hname', hsets⟩
      · exact .inl ⟨hnone, List.forall_mem_cons.2 ⟨hname, hothers⟩⟩
      · exact .inr ⟨field', part', hfind, List.mem_cons_of_mem _ hmem, hname', hsets⟩

/-! ### One entry -/

namespace Follows

variable {outline : Section σ} {state state' : σ × List String} {front : List (Node × Node)} {entry : Node × Node}
  {error : SettingsError}

theorem eq_of_name (h : Follows outline parts) {part part' : Part σ} (hpart : part ∈ parts) (hpart' : part' ∈ parts)
    (hname : part.name = part'.name) : part = part' :=
  List.inj_on_of_nodup_map h.distinct hpart hpart' hname

theorem fieldName_keyOf : (place.keyOf entry).fieldName =
    (place.name? entry).elim (.error ((place.keyOf entry).wrongType .field)) .ok := by
  rw [Place.fieldName, Place.name?]
  cases (place.keyOf entry).resolved <;> rfl

theorem readEntry_eq (outline : Section σ) (place : Place) (state : σ × List String) (entry : Node × Node) :
    outline.readEntry place state entry = (place.keyOf entry).fieldName >>= fun name =>
      match outline.fields.find? (·.name = name) with
      | none => .error (.unknownField place.path name (outline.fields.map (·.name)))
      | some field =>
        if name ∈ state.2 then .error (.duplicateField place.path name)
        else field.set (place.valueOf entry) state.1 >>= fun value => pure (value, name :: state.2) := rfl

/-- An entry that is read sets the part of its name, which no entry has set before. -/
theorem of_readEntry (h : Follows outline parts) (hread : outline.readEntry place state entry = .ok state') :
    ∃ field part, part ∈ parts ∧ Sets parts field part ∧ place.name? entry = some part.name ∧
      part.name ∉ state.2 ∧ field.set (place.valueOf entry) state.1 = .ok state'.1 ∧
        state'.2 = part.name :: state.2 := by
  rw [readEntry_eq, fieldName_keyOf] at hread
  cases hname : place.name? entry with
  | none => rw [hname] at hread; cases hread
  | some name =>
    rw [hname, Option.elim_some, Except.ok_bind] at hread
    rcases find?_of_forall₂ h.fields name with ⟨hnone, -⟩ | ⟨field, part, hfind, hpart, rfl, hsets⟩
    · rw [hnone] at hread
      cases hread
    · rw [hfind] at hread
      dsimp only at hread
      split at hread
      · cases hread
      · rename_i hnew
        obtain ⟨value, hvalue, hread⟩ := Except.bind_eq_ok_iff.1 hread
        cases hread
        exact ⟨field, part, hpart, hsets, rfl, hnew, hvalue, rfl⟩

theorem readEntry_eq_error_iff (h : Follows outline parts)
    (hseen : ∀ name, name ∈ state.2 ↔ ∃ earlier ∈ front, place.name? earlier = some name) :
    outline.readEntry place state entry = .error error ↔ EntryFault parts place front entry error := by
  rw [readEntry_eq, fieldName_keyOf]
  cases hname : place.name? entry with
  | none =>
    constructor
    · intro hread
      cases hread
      exact .key hname
    · rintro (_ | hname' | ⟨-, hname'⟩ | ⟨-, hname'⟩)
      · rfl
      all_goals exact nomatch hname.symm.trans hname'
  | some name =>
    rw [Option.elim_some, Except.ok_bind]
    rcases find?_of_forall₂ h.fields name with ⟨hnone, hothers⟩ | ⟨field, part, hfind, hpart, rfl, hsets⟩
    · rw [hnone, map_name_of_forall₂ h.fields]
      constructor
      · intro hread
        cases hread
        exact .unknown hname hothers
      · rintro (hname' | ⟨hname', -⟩ | ⟨hpart', hname', -⟩ | ⟨hpart', hname', -, -⟩)
        · exact nomatch hname.symm.trans hname'
        · cases hname.symm.trans hname'
          rfl
        all_goals exact absurd (Option.some.inj (hname'.symm.trans hname)) (hothers _ hpart')
    · rw [hfind]
      dsimp only
      by_cases hold : part.name ∈ state.2
      · rw [if_pos hold]
        constructor
        · intro hread
          cases hread
          exact .repeated hpart hname ((hseen _).1 hold)
        · rintro (hname' | ⟨hname', hothers⟩ | ⟨hpart', hname', -⟩ | ⟨hpart', hname', hfront, -⟩)
          · exact nomatch hname.symm.trans hname'
          · exact absurd (Option.some.inj (hname.symm.trans hname')) (hothers _ hpart)
          · rw [Option.some.inj (hname'.symm.trans hname)]
          · obtain ⟨earlier, hearlier, hsame⟩ := (hseen _).1 hold
            exact absurd (hsame.trans (hname.symm.trans hname')) (hfront earlier hearlier)
      · rw [if_neg hold]
        have hnew : ∀ earlier ∈ front, place.name? earlier ≠ some part.name := fun earlier hearlier hsame =>
          hold ((hseen _).2 ⟨earlier, hearlier, hsame⟩)
        have hset : (field.set (place.valueOf entry) state.1 >>= fun value => pure (value, part.name :: state.2)) =
            .error error ↔ field.set (place.valueOf entry) state.1 = .error error := by
          cases field.set (place.valueOf entry) state.1 <;> simp
        rw [hset, hsets.set_eq_error_iff]
        constructor
        · exact .value hpart hname hnew
        · rintro (hname' | ⟨hname', hothers⟩ | ⟨hpart', hname', hfront⟩ | ⟨hpart', hname', -, hvalue⟩)
          · exact nomatch hname.symm.trans hname'
          · exact absurd (Option.some.inj (hname.symm.trans hname')) (hothers _ hpart)
          · obtain ⟨earlier, hearlier, hsame⟩ := hfront
            exact absurd (hsame.trans (hname'.symm.trans hname)) (hnew earlier hearlier)
          · cases h.eq_of_name hpart hpart' (Option.some.inj (hname.symm.trans hname'))
            exact hvalue

theorem exists_sets (h : Follows outline parts) {part : Part σ} (hpart : part ∈ parts) :
    ∃ field, Sets parts field part := by
  rcases find?_of_forall₂ h.fields part.name with ⟨-, hothers⟩ | ⟨field, part', -, hpart', hname, hsets⟩
  · exact absurd rfl (hothers part hpart)
  · cases h.eq_of_name hpart' hpart hname
    exact ⟨field, hsets⟩

/-- A fault keeps entries from being a record, whatever comes behind it. -/
theorem not_isRecord (h : Follows outline parts) (hfault : EntryFault parts place front entry error)
    (back : List (Node × Node)) : ¬ IsRecord parts place (front ++ entry :: back) := by
  rintro ⟨hknown, honce⟩
  obtain ⟨part, hpart, hname, value, hvalue⟩ := hknown entry (by simp)
  rcases hfault with hname' | ⟨hname', hothers⟩ | ⟨hpart', hname', earlier, hearlier, hsame⟩ |
    ⟨hpart', hname', -, hfails⟩
  · exact nomatch hname.symm.trans hname'
  · exact hothers part hpart (Option.some.inj (hname.symm.trans hname'))
  · rw [List.map_append, List.map_cons, List.nodup_append] at honce
    exact honce.2.2 _ (List.mem_map_of_mem hearlier) _ List.mem_cons_self (hsame.trans hname'.symm)
  · cases h.eq_of_name hpart hpart' (Option.some.inj (hname.symm.trans hname'))
    obtain ⟨field, hsets⟩ := h.exists_sets hpart
    exact hsets.not_fails hvalue hfails

end Follows

/-! ### All entries -/

/-- What has been read of entries: they are a record, with these names and these values. -/
structure HasRead (outline : Section σ) (parts : List (Part σ)) (place : Place) (entries : List (Node × Node))
    (state : σ × List String) : Prop where
  record : IsRecord parts place entries
  seen : ∀ name, name ∈ state.2 ↔ ∃ entry ∈ entries, place.name? entry = some name
  given : ∀ part ∈ parts, Given place entries part.name part.kind (part.get outline.defaults) (part.get state.1)

namespace HasRead

variable {outline : Section σ} {state state' : σ × List String} {front rest : List (Node × Node)}
  {entry : Node × Node} {error : SettingsError}

theorem nil : HasRead outline parts place [] (outline.defaults, []) where
  record := ⟨nofun, List.nodup_nil⟩
  seen _ := by simp
  given _ _ := ⟨nofun, fun _ => rfl⟩

theorem snoc (hfront : HasRead outline parts place front state) (h : Follows outline parts)
    (hread : outline.readEntry place state entry = .ok state') :
    HasRead outline parts place (front ++ [entry]) state' := by
  obtain ⟨field, part, hpart, hsets, hname, hnew, hset, hseen⟩ := h.of_readEntry hread
  have hothers : ∀ earlier ∈ front, place.name? earlier ≠ some part.name := fun earlier hearlier hsame =>
    hnew ((hfront.seen _).2 ⟨earlier, hearlier, hsame⟩)
  refine ⟨⟨?_, ?_⟩, ?_, ?_⟩
  · rw [List.forall_mem_append]
    exact ⟨hfront.record.known, List.forall_mem_singleton.2 ⟨part, hpart, hname, _, hsets.gives hset⟩⟩
  · rw [List.map_append, List.nodup_append]
    refine ⟨hfront.record.once, List.nodup_singleton _, ?_⟩
    intro name hmem name' hmem' hsame
    obtain ⟨earlier, hearlier, rfl⟩ := List.mem_map.1 hmem
    exact hothers earlier hearlier (hsame.trans ((List.mem_singleton.1 hmem').trans hname))
  · intro name
    rw [hseen, List.mem_cons, hfront.seen]
    simp only [List.mem_append, List.mem_singleton, or_and_right, exists_or, exists_eq_left, hname, Option.some.injEq]
    rw [or_comm, eq_comm]
  · intro other hother
    obtain ⟨hgiven, habsent⟩ := hfront.given other hother
    by_cases hsame : other.name = part.name
    · cases h.eq_of_name hother hpart hsame
      refine ⟨?_, fun hnone => absurd hname (hnone entry (by simp))⟩
      rw [List.forall_mem_append]
      exact ⟨fun earlier hearlier hname' => absurd hname' (hothers earlier hearlier),
        List.forall_mem_singleton.2 fun _ => hsets.gives hset⟩
    · rw [hsets.get_of_ne hset hother hsame]
      refine ⟨?_, fun hnone => habsent fun earlier hearlier => hnone earlier (List.mem_append_left _ hearlier)⟩
      rw [List.forall_mem_append]
      refine ⟨hgiven, List.forall_mem_singleton.2 fun hname' => ?_⟩
      exact absurd (Option.some.inj (hname'.symm.trans hname)) hsame

theorem append (hfront : HasRead outline parts place front state) (h : Follows outline parts)
    (hread : rest.foldlM (outline.readEntry place) state = .ok state') :
    HasRead outline parts place (front ++ rest) state' := by
  induction rest generalizing front state with
  | nil =>
    cases hread
    rwa [List.append_nil]
  | cons entry rest ih =>
    rw [List.foldlM_cons] at hread
    obtain ⟨mid, hmid, hread⟩ := Except.bind_eq_ok_iff.1 hread
    rw [List.append_cons]
    exact ih (hfront.snoc h hmid) hread

theorem of_foldlM (h : Follows outline parts)
    (hread : entries.foldlM (outline.readEntry place) (outline.defaults, []) = .ok state) :
    HasRead outline parts place entries state :=
  nil.append h hread

end HasRead

namespace Follows

variable {outline : Section σ} {state : σ × List String} {error : SettingsError} {value : σ}

theorem exists_foldlM (h : Follows outline parts) (hrecord : IsRecord parts place entries) :
    ∃ state, entries.foldlM (outline.readEntry place) (outline.defaults, []) = .ok state := by
  cases hread : entries.foldlM (outline.readEntry place) (outline.defaults, []) with
  | ok state => exact ⟨state, rfl⟩
  | error error =>
    obtain ⟨front, entry, back, mid, rfl, hfront, hentry⟩ := Except.foldlM_eq_error_iff.1 hread
    have hfault := (h.readEntry_eq_error_iff (HasRead.of_foldlM h hfront).seen).1 hentry
    exact absurd hrecord (h.not_isRecord hfault back)

theorem foldlM_eq_error_iff (h : Follows outline parts) :
    entries.foldlM (outline.readEntry place) (outline.defaults, []) = .error error ↔
      FirstFault parts place entries error := by
  rw [Except.foldlM_eq_error_iff]
  constructor
  · rintro ⟨front, entry, back, mid, rfl, hfront, hentry⟩
    have hread := HasRead.of_foldlM h hfront
    exact ⟨front, entry, back, rfl, hread.record, (h.readEntry_eq_error_iff hread.seen).1 hentry⟩
  · rintro ⟨front, entry, back, rfl, hrecord, hfault⟩
    obtain ⟨mid, hmid⟩ := h.exists_foldlM hrecord
    have hread := HasRead.of_foldlM h hmid
    exact ⟨front, entry, back, mid, rfl, hmid, (h.readEntry_eq_error_iff hread.seen).2 hfault⟩

theorem given_unique (h : Follows outline parts) {part : Part σ} (hpart : part ∈ parts) {default v v' : part.Value}
    (hv : Given place entries part.name part.kind default v)
    (hv' : Given place entries part.name part.kind default v') : v = v' := by
  obtain ⟨field, hsets⟩ := h.exists_sets hpart
  obtain ⟨read, put, hread, -⟩ := hsets.set
  by_cases hnone : ∀ entry ∈ entries, place.name? entry ≠ some part.name
  · rw [hv.absent hnone, hv'.absent hnone]
  · push Not at hnone
    obtain ⟨entry, hentry, hname⟩ := hnone
    exact hread.functional (hv.given entry hentry hname) (hv'.given entry hentry hname)

theorem read_of_mapping (hresolved : place.resolved = .mapping entries) : outline.read place =
    entries.foldlM (outline.readEntry place) (outline.defaults, []) >>= fun state => pure state.1 := by
  rw [Section.read, hresolved]

theorem read_eq_ok_iff (h : Follows outline parts) (hresolved : place.resolved = .mapping entries) :
    outline.read place = .ok value ↔ IsRecord parts place entries ∧
      ∀ part ∈ parts, Given place entries part.name part.kind (part.get outline.defaults) (part.get value) := by
  rw [read_of_mapping hresolved, Except.bind_eq_ok_iff]
  constructor
  · rintro ⟨state, hstate, hvalue⟩
    cases hvalue
    have hread := HasRead.of_foldlM h hstate
    exact ⟨hread.record, hread.given⟩
  · rintro ⟨hrecord, hgiven⟩
    obtain ⟨state, hstate⟩ := h.exists_foldlM hrecord
    refine ⟨state, hstate, congrArg Except.ok (h.ext _ _ fun part hpart => ?_)⟩
    exact h.given_unique hpart ((HasRead.of_foldlM h hstate).given part hpart) (hgiven part hpart)

theorem exists_read_iff (h : Follows outline parts) (hresolved : place.resolved = .mapping entries) :
    (∃ value, outline.read place = .ok value) ↔ IsRecord parts place entries := by
  constructor
  · rintro ⟨value, hread⟩
    exact ((h.read_eq_ok_iff hresolved).1 hread).1
  · intro hrecord
    obtain ⟨state, hstate⟩ := h.exists_foldlM hrecord
    rw [read_of_mapping hresolved, hstate]
    exact ⟨state.1, rfl⟩

theorem read_eq_error_iff (h : Follows outline parts) (hresolved : place.resolved = .mapping entries) :
    outline.read place = .error error ↔ FirstFault parts place entries error := by
  rw [read_of_mapping hresolved, ← h.foldlM_eq_error_iff]
  cases entries.foldlM (outline.readEntry place) (outline.defaults, []) <;> simp

theorem readBy (h : Follows outline parts) : (sectionKind outline.name parts outline.defaults).ReadBy outline.read := by
  intro place
  cases hresolved : place.resolved with
  | mapping entries =>
    simp only [sectionKind, hresolved]
    exact ⟨fun value => h.read_eq_ok_iff hresolved, fun error => h.read_eq_error_iff hresolved⟩
  | scalar scalar =>
    rw [Section.read]
    simp only [sectionKind, hresolved]
    cases scalar.isEmpty <;> simp [eq_comm]
  | _ =>
    rw [Section.read]
    simp only [sectionKind, hresolved]
    simp [eq_comm]

end Follows

end RunCharts
