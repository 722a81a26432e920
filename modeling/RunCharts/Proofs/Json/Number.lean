import Mathlib.Algebra.Field.Rat

/-! # Number literals

A literal is a sign, digits without a zero in front, and where they are wanted places behind a point and an
exponent. It spells one number only (`SpellsNumber.unique`). -/

namespace RunCharts.Json

/-- A run of characters ends where the next one is not of its kind, so it is the same run in both readings. -/
theorem eq_of_run {p : Char → Prop} {run run' rest rest' : List Char} (hrun : ∀ c ∈ run, p c)
    (hrun' : ∀ c ∈ run', p c) (hrest : ∀ c ∈ rest.head?, ¬ p c) (hrest' : ∀ c ∈ rest'.head?, ¬ p c)
    (h : run ++ rest = run' ++ rest') : run = run' ∧ rest = rest' := by
  induction run generalizing run' with
  | nil =>
    cases run' with
    | nil => exact ⟨rfl, h⟩
    | cons c run' =>
      rw [List.nil_append] at h
      exact absurd (hrun' c List.mem_cons_self) (hrest c (by rw [h]; rfl))
  | cons c run ih =>
    obtain ⟨hc, hrun⟩ := List.forall_mem_cons.1 hrun
    cases run' with
    | nil =>
      rw [List.nil_append] at h
      exact absurd hc (hrest' c (by rw [← h]; rfl))
    | cons c' run' =>
      obtain ⟨rfl, htail⟩ := List.cons_eq_cons.1 h
      obtain ⟨rfl, hsame⟩ := ih hrun (List.forall_mem_cons.1 hrun').2 htail
      exact ⟨rfl, hsame⟩

/-- One or more decimal digits. -/
def IsDigits (digits : List Char) : Prop := digits ≠ [] ∧ ∀ c ∈ digits, c.isDigit = true

/-- The digits in front of the point. A zero stands there only alone. -/
def IsWhole (digits : List Char) : Prop := IsDigits digits ∧ (digits.head? = some '0' → digits = ['0'])

/-- A point with the places behind it, or nothing. -/
inductive SpellsPlaces : List Char → List Char → Prop
  | none : SpellsPlaces [] []
  | some {places} : IsDigits places → SpellsPlaces ('.' :: places) places

/-- A mark with an exponent behind it, or nothing. -/
inductive SpellsExponent : List Char → Int → Prop
  | none : SpellsExponent [] 0
  | unsigned {mark digits} : mark = 'e' ∨ mark = 'E' → IsDigits digits →
      SpellsExponent (mark :: digits) (Nat.ofDigitChars 10 digits 0)
  | plus {mark digits} : mark = 'e' ∨ mark = 'E' → IsDigits digits →
      SpellsExponent (mark :: '+' :: digits) (Nat.ofDigitChars 10 digits 0)
  | minus {mark digits} : mark = 'e' ∨ mark = 'E' → IsDigits digits →
      SpellsExponent (mark :: '-' :: digits) (-(Nat.ofDigitChars 10 digits 0 : Int))

/-- A literal without a sign, and the number that it spells. -/
inductive SpellsUnsigned : List Char → ℚ → Prop
  | mk {whole fraction places exponent power} : IsWhole whole → SpellsPlaces fraction places →
      SpellsExponent exponent power →
      SpellsUnsigned (whole ++ (fraction ++ exponent))
        (Nat.ofDigitChars 10 (whole ++ places) 0 * 10 ^ (power - places.length))

/-- A literal, whether it has a sign, and the number that the rest of it spells. -/
inductive SpellsNumber : List Char → Bool → ℚ → Prop
  | plain {literal number} : SpellsUnsigned literal number → SpellsNumber literal false number
  | minus {literal number} : SpellsUnsigned literal number → SpellsNumber ('-' :: literal) true number

/-- A number as the grammar has it. -/
def IsNumber (literal : List Char) : Prop := ∃ negative number, SpellsNumber literal negative number

/-- The characters of which literals are made. -/
def IsNumberChar (c : Char) : Prop := c.isDigit = true ∨ c ∈ ['-', '+', '.', 'e', 'E']

instance : DecidablePred IsNumberChar := fun c =>
  inferInstanceAs (Decidable (c.isDigit = true ∨ c ∈ ['-', '+', '.', 'e', 'E']))

variable {literal digits fraction places exponent : List Char} {power power' : Int}

theorem not_isDigits_cons {c : Char} (h : c.isDigit = false) : ¬ IsDigits (c :: digits) := fun hdigits => by
  have := hdigits.2 c List.mem_cons_self
  rw [h] at this
  cases this

theorem SpellsExponent.head?_of_mem (h : SpellsExponent exponent power) : ∀ c ∈ exponent.head?, c = 'e' ∨ c = 'E' := by
  cases h with
  | none => exact fun c hc => nomatch hc
  | unsigned hmark _ | plus hmark _ | minus hmark _ =>
    rintro c ⟨⟩
    exact hmark

theorem SpellsExponent.unique (h : SpellsExponent exponent power) (h' : SpellsExponent exponent power') :
    power = power' := by
  have hplus {digits : List Char} : ¬ IsDigits ('+' :: digits) := not_isDigits_cons rfl
  have hminus {digits : List Char} : ¬ IsDigits ('-' :: digits) := not_isDigits_cons rfl
  cases h with
  | none => cases h'; rfl
  | unsigned _ hdigits =>
    cases h' with
    | unsigned => rfl
    | plus => exact absurd hdigits hplus
    | minus => exact absurd hdigits hminus
  | plus =>
    cases h' with
    | unsigned _ hdigits => exact absurd hdigits hplus
    | plus => rfl
  | minus =>
    cases h' with
    | unsigned _ hdigits => exact absurd hdigits hminus
    | minus => rfl

/-- The digits in front of the point end at the point or at the mark of the exponent. -/
theorem not_isDigit_of_head? (hplaces : SpellsPlaces fraction places) (hexponent : SpellsExponent exponent power) :
    ∀ c ∈ (fraction ++ exponent).head?, ¬ c.isDigit = true := by
  cases hplaces with
  | none =>
    intro c hc
    rcases hexponent.head?_of_mem c hc with rfl | rfl <;> decide
  | some _ =>
    rintro c ⟨⟩
    decide

theorem SpellsPlaces.unique {fraction' places' exponent' : List Char} (h : SpellsPlaces fraction places)
    (h' : SpellsPlaces fraction' places') (hexponent : SpellsExponent exponent power)
    (hexponent' : SpellsExponent exponent' power') (heq : fraction ++ exponent = fraction' ++ exponent') :
    places = places' ∧ exponent = exponent' := by
  have hmark {exponent : List Char} {power : Int} (h : SpellsExponent exponent power) :
      ∀ c ∈ exponent.head?, ¬ c.isDigit = true := not_isDigit_of_head? .none h
  have hpoint {text : List Char} {power : Int} : ¬ SpellsExponent ('.' :: text) power := fun h => by
    rcases h.head?_of_mem '.' rfl with hc | hc <;> exact absurd hc (by decide)
  cases h with
  | none =>
    cases h' with
    | none => exact ⟨rfl, heq⟩
    | some _ =>
      rw [List.nil_append] at heq
      exact absurd (heq ▸ hexponent) hpoint
  | some hdigits =>
    cases h' with
    | none =>
      rw [List.nil_append] at heq
      exact absurd (heq ▸ hexponent') hpoint
    | some hdigits' => exact eq_of_run hdigits.2 hdigits'.2 (hmark hexponent) (hmark hexponent') (List.cons.inj heq).2

theorem SpellsUnsigned.exists_cons {number : ℚ} (h : SpellsUnsigned literal number) :
    ∃ c rest, literal = c :: rest ∧ c.isDigit = true := by
  obtain ⟨hwhole, -, -⟩ := h
  obtain ⟨c, front, rfl⟩ := List.exists_cons_of_ne_nil hwhole.1.1
  exact ⟨c, _, rfl, hwhole.1.2 c List.mem_cons_self⟩

theorem SpellsUnsigned.unique {number number' : ℚ} (h : SpellsUnsigned literal number)
    (h' : SpellsUnsigned literal number') : number = number' := by
  generalize hliteral : literal = literal' at h'
  obtain ⟨hwhole, hplaces, hexponent⟩ := h
  obtain ⟨hwhole', hplaces', hexponent'⟩ := h'
  obtain ⟨rfl, hbehind⟩ := eq_of_run hwhole.1.2 hwhole'.1.2 (not_isDigit_of_head? hplaces hexponent)
    (not_isDigit_of_head? hplaces' hexponent') hliteral
  obtain ⟨rfl, rfl⟩ := hplaces.unique hplaces' hexponent hexponent' hbehind
  rw [hexponent.unique hexponent']

/-- A literal spells one number. -/
theorem SpellsNumber.unique {negative negative' : Bool} {number number' : ℚ}
    (h : SpellsNumber literal negative number) (h' : SpellsNumber literal negative' number') :
    negative = negative' ∧ number = number' := by
  have hminus {rest : List Char} {number : ℚ} : ¬ SpellsUnsigned ('-' :: rest) number := fun h => by
    obtain ⟨c, _, hcons, hc⟩ := h.exists_cons
    rw [← (List.cons_eq_cons.1 hcons).1] at hc
    exact absurd hc (by decide)
  cases h with
  | plain h =>
    cases h' with
    | plain h' => exact ⟨rfl, h.unique h'⟩
    | minus => exact absurd h hminus
  | minus h =>
    cases h' with
    | plain h' => exact absurd h' hminus
    | minus h' => exact ⟨rfl, h.unique h'⟩

/-! ### The characters of a literal -/

theorem isNumberChar_of_isDigits (h : IsDigits digits) : ∀ c ∈ digits, IsNumberChar c := fun c hc => .inl (h.2 c hc)

theorem SpellsPlaces.isNumberChar (h : SpellsPlaces fraction places) : ∀ c ∈ fraction, IsNumberChar c := by
  cases h with
  | none => exact fun c hc => nomatch hc
  | some hdigits => exact List.forall_mem_cons.2 ⟨.inr (by decide), isNumberChar_of_isDigits hdigits⟩

theorem SpellsExponent.isNumberChar (h : SpellsExponent exponent power) : ∀ c ∈ exponent, IsNumberChar c := by
  have hmark {mark : Char} (h : mark = 'e' ∨ mark = 'E') : IsNumberChar mark := by
    rcases h with rfl | rfl <;> exact .inr (by decide)
  cases h with
  | none => exact fun c hc => nomatch hc
  | unsigned h hdigits => exact List.forall_mem_cons.2 ⟨hmark h, isNumberChar_of_isDigits hdigits⟩
  | plus h hdigits | minus h hdigits =>
    exact List.forall_mem_cons.2 ⟨hmark h, List.forall_mem_cons.2 ⟨.inr (by decide), isNumberChar_of_isDigits hdigits⟩⟩

theorem SpellsUnsigned.isNumberChar {number : ℚ} (h : SpellsUnsigned literal number) :
    ∀ c ∈ literal, IsNumberChar c := by
  obtain ⟨hwhole, hplaces, hexponent⟩ := h
  exact List.forall_mem_append.2 ⟨isNumberChar_of_isDigits hwhole.1,
    List.forall_mem_append.2 ⟨hplaces.isNumberChar, hexponent.isNumberChar⟩⟩

theorem IsNumber.isNumberChar (h : IsNumber literal) : ∀ c ∈ literal, IsNumberChar c := by
  obtain ⟨_, _, h | h⟩ := h
  · exact h.isNumberChar
  · exact List.forall_mem_cons.2 ⟨.inr (by decide), h.isNumberChar⟩

/-- A literal begins with its sign or with a digit. -/
theorem IsNumber.exists_cons (h : IsNumber literal) :
    ∃ c rest, literal = c :: rest ∧ (c = '-' ∨ c.isDigit = true) := by
  obtain ⟨_, _, h | h⟩ := h
  · obtain ⟨c, rest, rfl, hc⟩ := h.exists_cons
    exact ⟨c, rest, rfl, .inr hc⟩
  · exact ⟨'-', _, rfl, .inl rfl⟩

end RunCharts.Json
