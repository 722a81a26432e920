import RunCharts.Proofs.Settings.Reordered
import RunCharts.Proofs.Yaml.Digits

/-! # A document laid over the defaults

The settings of a document are its values in the parts that it names and the defaults in all others, whatever the order
of its entries; a document that is no such record is refused with its first fault (`ofDocument_overlay`). What the parts
are called and what is asked of their values stands in three tables (`bandwidthParts`, `cacheParts`, `rootParts`). -/

namespace RunCharts

open Yaml

variable {σ α : Type} {place place' : Place}

/-! ### What is asked of values -/

namespace ValueKind

/-- A node that gives no value is of another type than asked for. -/
def strict (Gives : Place → α → Prop) (expected : Expected) : ValueKind α where
  Gives := Gives
  Fails place error := (∀ value, ¬ Gives place value) ∧ error = place.wrongType expected

/-- The node spells an integer of 64 bits, without a minus sign. -/
def SpellsNatural (place : Place) (n : Nat) : Prop :=
  ∃ text, place.numberText? "tag:yaml.org,2002:int" = some text ∧
    Yaml.unsigned? (Numeral.unsignedLimit 64) text = some n

/-- An integer of 32 bits; a greater one has an error of its own. -/
def natural : ValueKind Nat where
  Gives place n := SpellsNatural place n ∧ n < 2 ^ 32
  Fails place error := (∃ n, SpellsNatural place n ∧ 2 ^ 32 ≤ n ∧ error = .outOfRange place.path n .natural) ∨
    (∀ n, ¬ SpellsNatural place n) ∧ error = place.wrongType .natural

/-- An integer of 64 bits. -/
def integer : ValueKind Int :=
  strict (fun place n => Numeral.Signed64.Fits n ∧ ∃ text, place.numberText? "tag:yaml.org,2002:int" = some text ∧
    Yaml.integerKind? text = some (.integer n)) .integer

def real : ValueKind Float :=
  strict (fun place x => ∃ text, place.numberText? "tag:yaml.org,2002:float" = some text ∧
    Yaml.real? text = some x) .real

/-- The text of any scalar. -/
def path : ValueKind Files.Path :=
  strict (fun place text => ∃ scalar, place.resolved = .scalar scalar ∧ String.ofList scalar.text = text) .path

theorem readBy_strict {Gives : Place → α → Prop} {expected : Expected} {read : Place → Except SettingsError α}
    (hgives : ∀ place value, read place = .ok value ↔ Gives place value)
    (hfails : ∀ place error, read place = .error error → error = place.wrongType expected) :
    (strict Gives expected).ReadBy read := by
  refine fun place => ⟨hgives place, fun error => ?_⟩
  constructor
  · intro hread
    refine ⟨fun value hvalue => ?_, hfails place error hread⟩
    rw [← hgives, hread] at hvalue
    cases hvalue
  · rintro ⟨hnone, rfl⟩
    cases hread : read place with
    | ok value => exact absurd ((hgives place value).1 hread) (hnone value)
    | error error => rw [hfails place error hread]

theorem readBy_path : path.ReadBy Place.filePath := by
  refine readBy_strict (fun place value => ?_) fun place error hread => ?_
  · rw [Place.filePath]
    cases place.resolved <;> simp
  · rw [Place.filePath] at hread
    cases hresolved : place.resolved <;> rw [hresolved] at hread <;> cases hread <;> rfl

theorem readBy_real : real.ReadBy Place.real := by
  refine readBy_strict (fun place value => ?_) fun place error hread => ?_
  · rw [Place.real]
    cases place.numberText? "tag:yaml.org,2002:float" with
    | none => simp
    | some text => cases hreal : Yaml.real? text <;> simp [hreal]
  · rw [Place.real] at hread
    split at hread <;> cases hread
    rfl

theorem readBy_natural : natural.ReadBy Place.natural := by
  have hlimit : Numeral.unsignedLimit 32 = 2 ^ 32 - 1 := rfl
  intro place
  have hspells (n : Nat) : SpellsNatural place n ↔ (place.numberText? "tag:yaml.org,2002:int").bind
      (Yaml.unsigned? (Numeral.unsignedLimit 64)) = some n := Option.bind_eq_some_iff.symm
  simp only [natural, hspells, Place.natural]
  cases (place.numberText? "tag:yaml.org,2002:int").bind (Yaml.unsigned? (Numeral.unsignedLimit 64)) with
  | none => simp [eq_comm]
  | some n =>
    by_cases hn : n ≤ Numeral.unsignedLimit 32
    · simp only [if_pos hn, Except.ok.injEq, Option.some.injEq, reduceCtorEq, false_iff]
      constructor
      · intro value
        omega
      · rintro error (⟨m, rfl, hm, -⟩ | ⟨hnone, -⟩)
        · omega
        · exact hnone n rfl
    · simp only [if_neg hn, Except.error.injEq, Option.some.injEq, reduceCtorEq, false_iff]
      constructor
      · rintro value ⟨rfl, hvalue⟩
        omega
      · intro error
        constructor
        · rintro rfl
          exact .inl ⟨n, rfl, by omega, rfl⟩
        · rintro (⟨m, rfl, -, rfl⟩ | ⟨hnone, -⟩)
          · rfl
          · exact absurd rfl (hnone n)

theorem readBy_integer : integer.ReadBy Place.integer := by
  refine readBy_strict (fun place value => ?_) fun place error hread => ?_
  · rw [Place.integer]
    cases place.numberText? "tag:yaml.org,2002:int" with
    | none => simp
    | some text =>
      simp only [Option.bind_some, Option.some.injEq, exists_eq_left', ← Yaml.signed?_eq_some_iff]
      cases Yaml.unsigned? (Numeral.signedLimit 64) text with
      | some n => simp
      | none => cases Yaml.negative? (Numeral.signedLimit 64 + 1) text <;> simp
  · rw [Place.integer] at hread
    split at hread <;> cases hread
    rfl

/-! ### Order, and integers in decimal -/

theorem steady_path : path.Steady := by
  rintro place place' hplace value ⟨scalar, hscalar, rfl⟩
  exact ⟨scalar, hplace.resolved_of_scalar hscalar, rfl⟩

theorem steady_natural : natural.Steady := by
  rintro place place' hplace value ⟨⟨text, htext, hvalue⟩, hlt⟩
  exact ⟨⟨text, hplace.numberText? htext, hvalue⟩, hlt⟩

theorem steady_integer : integer.Steady := by
  rintro place place' hplace value ⟨hfits, text, htext, hvalue⟩
  exact ⟨hfits, text, hplace.numberText? htext, hvalue⟩

theorem steady_real : real.Steady := by
  rintro place place' hplace value ⟨text, htext, hvalue⟩
  exact ⟨text, hplace.numberText? htext, hvalue⟩

/-- Decimal digits without quotes. -/
def IsDecimal (place : Place) (n : Int) : Prop :=
  ∃ scalar, place.resolved = .scalar scalar ∧ scalar.style = .plain ∧ scalar.text = n.repr.toList

theorem numberText?_of_isDecimal {n : Int} (h : IsDecimal place n) (tag : String) :
    place.numberText? tag = some n.repr.toList := by
  obtain ⟨scalar, hscalar, hplain, htext⟩ := h
  rw [Place.numberText?, hscalar]
  dsimp only
  rw [if_pos (.inl hplain), htext]

theorem natural_of_isDecimal {n : Nat} (h : IsDecimal place n) (hn : n < 2 ^ 32) : natural.Gives place n := by
  refine ⟨⟨_, numberText?_of_isDecimal h _, ?_⟩, hn⟩
  have hle : n ≤ Numeral.unsignedLimit 64 := hn.le.trans (by decide)
  rw [show (n : Int).repr = n.repr from rfl, unsigned?_repr, Option.filter_some, if_pos (decide_eq_true hle)]

theorem integer_of_isDecimal {n : Int} (h : IsDecimal place n) (hn : Numeral.Signed64.Fits n) :
    integer.Gives place n :=
  ⟨hn, _, numberText?_of_isDecimal h _, integerKind?_repr hn⟩

theorem real_of_isDecimal {n : Int} (h : IsDecimal place n) (hn : n.natAbs.log2 < 1022) :
    real.Gives place (Float.ofInt n) :=
  ⟨_, numberText?_of_isDecimal h _, real?_repr hn⟩

end ValueKind

/-! ### The parts of the settings -/

namespace Settings

def bandwidthParts : List (Part BandwidthSettings) :=
  [⟨"startup_window", .integer, (·.windows.startup)⟩, ⟨"after_window", .integer, (·.windows.after)⟩,
    ⟨"startup_y_max", .real, (·.startupTop)⟩, ⟨"after_y_max", .real, (·.afterTop)⟩]

def cacheParts : List (Part CacheSettings) :=
  [⟨"miss_start_offset", .integer, (·.missStart)⟩, ⟨"miss_headroom", .real, (·.missHeadroom)⟩,
    ⟨"elements_headroom", .real, (·.elementsHeadroom)⟩]

def rootParts : List (Part Settings) :=
  [⟨"output_dir", .path, (·.outputDir)⟩, ⟨"width", .natural, (·.width)⟩, ⟨"height", .natural, (·.height)⟩,
    ⟨"bandwidth", sectionKind "BandwidthSettings" bandwidthParts {}, (·.bandwidth)⟩,
    ⟨"cache", sectionKind "CacheSettings" cacheParts {}, (·.cache)⟩]

/-- A field that is read in one way and put into a record in another sets the part that this changes. -/
theorem sets_of_put {parts : List (Part σ)} {name : String} {kind : ValueKind α} {get : σ → α}
    {read : Place → Except SettingsError α} (hread : kind.ReadBy read) (put : σ → α → σ)
    (hget : ∀ s value, get (put s value) = value)
    (hothers : ∀ other ∈ parts, other.name ≠ name → ∀ s value, other.get (put s value) = other.get s) :
    Sets parts ⟨name, fun place s => return put s (← read place)⟩ ⟨name, kind, get⟩ :=
  ⟨rfl, read, put, hread, fun _ _ => rfl, hget, hothers⟩

theorem follows_bandwidth : Follows bandwidthSection bandwidthParts where
  fields := by
    refine .cons ?_ (.cons ?_ (.cons ?_ (.cons ?_ .nil)))
    · exact sets_of_put ValueKind.readBy_integer (fun (s : BandwidthSettings) n => { s with windows.startup := n })
        (fun _ _ => rfl) (by simp [bandwidthParts])
    · exact sets_of_put ValueKind.readBy_integer (fun (s : BandwidthSettings) n => { s with windows.after := n })
        (fun _ _ => rfl) (by simp [bandwidthParts])
    · exact sets_of_put ValueKind.readBy_real (fun (s : BandwidthSettings) x => { s with startupTop := x })
        (fun _ _ => rfl) (by simp [bandwidthParts])
    · exact sets_of_put ValueKind.readBy_real (fun (s : BandwidthSettings) x => { s with afterTop := x })
        (fun _ _ => rfl) (by simp [bandwidthParts])
  distinct := by decide
  ext := by
    rintro ⟨⟨_, _⟩, _, _⟩ ⟨⟨_, _⟩, _, _⟩ h
    simp_all [bandwidthParts]

theorem follows_cache : Follows cacheSection cacheParts where
  fields := by
    refine .cons ?_ (.cons ?_ (.cons ?_ .nil))
    · exact sets_of_put ValueKind.readBy_integer (fun (s : CacheSettings) n => { s with missStart := n })
        (fun _ _ => rfl) (by simp [cacheParts])
    · exact sets_of_put ValueKind.readBy_real (fun (s : CacheSettings) x => { s with missHeadroom := x })
        (fun _ _ => rfl) (by simp [cacheParts])
    · exact sets_of_put ValueKind.readBy_real (fun (s : CacheSettings) x => { s with elementsHeadroom := x })
        (fun _ _ => rfl) (by simp [cacheParts])
  distinct := by decide
  ext := by
    rintro ⟨_, _, _⟩ ⟨_, _, _⟩ h
    simp_all [cacheParts]

theorem follows_root : Follows rootSection rootParts where
  fields := by
    refine .cons ?_ (.cons ?_ (.cons ?_ (.cons ?_ (.cons ?_ .nil))))
    · exact sets_of_put ValueKind.readBy_path (fun (s : Settings) dir => { s with outputDir := dir })
        (fun _ _ => rfl) (by simp [rootParts])
    · exact sets_of_put ValueKind.readBy_natural (fun (s : Settings) n => { s with width := n })
        (fun _ _ => rfl) (by simp [rootParts])
    · exact sets_of_put ValueKind.readBy_natural (fun (s : Settings) n => { s with height := n })
        (fun _ _ => rfl) (by simp [rootParts])
    · exact sets_of_put follows_bandwidth.readBy (fun (s : Settings) part => { s with bandwidth := part })
        (fun _ _ => rfl) (by simp [rootParts])
    · exact sets_of_put follows_cache.readBy (fun (s : Settings) part => { s with cache := part })
        (fun _ _ => rfl) (by simp [rootParts])
  distinct := by decide
  ext := by
    rintro ⟨_, _, _, _, _⟩ ⟨_, _, _, _, _⟩ h
    simp_all [rootParts]

theorem steady_rootParts : ∀ part ∈ rootParts, part.kind.Steady := by
  have hbandwidth : ∀ part ∈ bandwidthParts, part.kind.Steady := by
    simp [bandwidthParts, ValueKind.steady_integer, ValueKind.steady_real]
  have hcache : ∀ part ∈ cacheParts, part.kind.Steady := by
    simp [cacheParts, ValueKind.steady_integer, ValueKind.steady_real]
  simp [rootParts, ValueKind.steady_path, ValueKind.steady_natural, sectionKind_steady hbandwidth,
    sectionKind_steady hcache]

/-! ### Documents -/

/-- Where the entries of a document stand. -/
def rootPlace (entries : List (Node × Node)) (anchored : List (Nat × Node)) : Place :=
  ⟨⟨some (.mapping entries), anchored, true⟩, [], .mapping entries⟩

theorem ofDocument_eq (entries : List (Node × Node)) (anchored : List (Nat × Node)) :
    ofDocument ⟨some (.mapping entries), anchored, true⟩ = rootSection.read (rootPlace entries anchored) := by
  show (rootSection.read (rootPlace entries anchored) >>= fun settings => pure settings) = _
  exact bind_pure _

theorem ofDocument_eq_ok_iff {entries : List (Node × Node)} {anchored : List (Nat × Node)} {settings : Settings} :
    ofDocument ⟨some (.mapping entries), anchored, true⟩ = .ok settings ↔
      IsRecord rootParts (rootPlace entries anchored) entries ∧ ∀ part ∈ rootParts,
        Given (rootPlace entries anchored) entries part.name part.kind (part.get {}) (part.get settings) := by
  rw [ofDocument_eq]
  exact follows_root.read_eq_ok_iff rfl

/-- A mapping is read exactly if it is a record, and is laid over the defaults: every part of the settings is what its
entry gives, or its default. Otherwise the first fault is reported. The order of entries has no influence, and decimal
integers are values wherever a number is asked for. -/
theorem ofDocument_overlay (entries : List (Node × Node)) (anchored : List (Nat × Node)) :
    ((∃ settings, ofDocument ⟨some (.mapping entries), anchored, true⟩ = .ok settings) ↔
      IsRecord rootParts (rootPlace entries anchored) entries) ∧
    (∀ settings, ofDocument ⟨some (.mapping entries), anchored, true⟩ = .ok settings ↔
      IsRecord rootParts (rootPlace entries anchored) entries ∧ ∀ part ∈ rootParts,
        Given (rootPlace entries anchored) entries part.name part.kind (part.get {}) (part.get settings)) ∧
    (∀ error, ofDocument ⟨some (.mapping entries), anchored, true⟩ = .error error ↔
      FirstFault rootParts (rootPlace entries anchored) entries error) ∧
    (∀ entries' anchored', (rootPlace entries anchored).Reordered (rootPlace entries' anchored') →
      ∀ settings, ofDocument ⟨some (.mapping entries), anchored, true⟩ = .ok settings →
        ofDocument ⟨some (.mapping entries'), anchored', true⟩ = .ok settings) ∧
    ∀ place, (∀ n : Nat, ValueKind.IsDecimal place n → n < 2 ^ 32 → ValueKind.natural.Gives place n) ∧
      ∀ n : Int, ValueKind.IsDecimal place n →
        (Numeral.Signed64.Fits n → ValueKind.integer.Gives place n) ∧
          (n.natAbs.log2 < 1022 → ValueKind.real.Gives place (Float.ofInt n)) := by
  refine ⟨?_, fun settings => ofDocument_eq_ok_iff, fun error => ?_, fun entries' anchored' hplace settings hread => ?_,
    fun place => ⟨fun n => ValueKind.natural_of_isDecimal, fun n hn =>
      ⟨ValueKind.integer_of_isDecimal hn, ValueKind.real_of_isDecimal hn⟩⟩⟩
  · rw [ofDocument_eq]
    exact follows_root.exists_read_iff rfl
  · rw [ofDocument_eq]
    exact follows_root.read_eq_error_iff rfl
  · rw [ofDocument_eq, (follows_root.readBy _).1] at hread ⊢
    exact sectionKind_steady steady_rootParts _ _ hplace settings hread

/-- A scalar without quotes. -/
def plain (text : String) : Node := .scalar { text := text.toList }

/-- A section that is given in part, in front of a number or behind it. -/
theorem ofDocument_swapped :
    ofDocument ⟨some (.mapping [(plain "width", plain "800"), (plain "bandwidth", .mapping
      [(plain "startup_window", plain "10000"), (plain "after_y_max", plain "90")])]), [], true⟩ =
        .ok { width := 800, bandwidth := { windows.startup := 10000, afterTop := Float.ofInt 90 } } ∧
    ofDocument ⟨some (.mapping [(plain "bandwidth", .mapping
      [(plain "after_y_max", plain "90"), (plain "startup_window", plain "10000")]),
        (plain "width", plain "800")]), [], true⟩ =
        .ok { width := 800, bandwidth := { windows.startup := 10000, afterTop := Float.ofInt 90 } } := by
  have hread : ofDocument ⟨some (.mapping [(plain "width", plain "800"), (plain "bandwidth", .mapping
      [(plain "startup_window", plain "10000"), (plain "after_y_max", plain "90")])]), [], true⟩ =
        .ok { width := 800, bandwidth := { windows.startup := 10000, afterTop := Float.ofInt 90 } } := rfl
  refine ⟨hread, (ofDocument_overlay _ _).2.2.2.1 _ _ ⟨?_, .nil⟩ _ hread⟩
  have hswapped : Node.Reordered
      (.mapping [(plain "startup_window", plain "10000"), (plain "after_y_max", plain "90")])
      (.mapping [(plain "after_y_max", plain "90"), (plain "startup_window", plain "10000")]) :=
    .mapping (.cons (.refl _) (.cons (.refl _) .nil)) (.cons (.refl _) (.cons (.refl _) .nil)) (.swap _ _ _)
  refine .mapping ?_ (.cons (.refl _) (.cons hswapped .nil)) (.swap _ _ _)
  exact .cons (.refl _) (.cons (.refl _) .nil)

end Settings

end RunCharts
