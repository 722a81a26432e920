import RunCharts.Decimal.Style
import RunCharts.Proofs.Float.Nearest
import RunCharts.Proofs.Json.Number
import RunCharts.Proofs.Yaml.Digits

/-! # Doubles as literals

However a decimal is laid out, the text is a literal that spells it (`spellsUnsigned_layout`). So the literal that is
written for a finite double is read as that double and as no other one (`ReadsAs.unique`). -/

namespace RunCharts.Json

open Decimal

variable {literal : List Char}

/-! ### Layouts of a decimal -/

theorem isWhole_zero : IsWhole ['0'] :=
  ⟨⟨List.cons_ne_nil _ _, List.forall_mem_singleton.2 rfl⟩, fun _ => rfl⟩

theorem isWhole_cons {c : Char} {rest : List Char} (hzero : c ≠ '0') (hc : c.isDigit = true)
    (hrest : ∀ c ∈ rest, c.isDigit = true) : IsWhole (c :: rest) :=
  ⟨⟨List.cons_ne_nil _ _, List.forall_mem_cons.2 ⟨hc, hrest⟩⟩, fun hhead => absurd (Option.some.inj hhead) hzero⟩

theorem isDigit_of_mem_zeros {n : Nat} : ∀ c ∈ zeros n, c.isDigit = true := fun c hc => by
  rw [List.eq_of_mem_replicate hc]
  rfl

theorem isDigits_toDigits (n : Nat) : IsDigits (Nat.toDigits 10 n) :=
  ⟨Nat.toDigits_ne_nil, fun _ hc => Nat.isDigit_of_mem_toDigits (by decide) (by decide) hc⟩

/-- The digits of a number other than zero. -/
theorem exists_toDigits_eq_cons {n : Nat} (h : n ≠ 0) :
    ∃ c rest, Nat.toDigits 10 n = c :: rest ∧ c ≠ '0' ∧ c.isDigit = true ∧ ∀ c ∈ rest, c.isDigit = true := by
  obtain ⟨c, rest, hcons⟩ := List.exists_cons_of_ne_nil (Nat.toDigits_ne_nil (n := n) (b := 10))
  have hhead := head?_toDigits_ne (Nat.pos_of_ne_zero h)
  have hdigits := (isDigits_toDigits n).2
  rw [hcons] at hhead hdigits
  obtain ⟨hc, hrest⟩ := List.forall_mem_cons.1 hdigits
  exact ⟨c, rest, hcons, fun heq => hhead (by rw [heq]; rfl), hc, hrest⟩

theorem SpellsUnsigned.of_eq {whole fraction places exponent : List Char} {power : Int} {number : ℚ}
    (hwhole : IsWhole whole) (hplaces : SpellsPlaces fraction places) (hexponent : SpellsExponent exponent power)
    (htext : literal = whole ++ (fraction ++ exponent))
    (hnumber : number = Nat.ofDigitChars 10 (whole ++ places) 0 * 10 ^ (power - places.length)) :
    SpellsUnsigned literal number := by
  rw [htext, hnumber]
  exact .mk hwhole hplaces hexponent

section

variable {c : Char} {rest : List Char}

/-- Zeros stand between the point and the digits. -/
theorem spellsUnsigned_of_nonpos (hc : c.isDigit = true) (hrest : ∀ c ∈ rest, c.isDigit = true) {point : Int}
    (h : point ≤ 0) : SpellsUnsigned ('0' :: '.' :: (zeros (-point).toNat ++ c :: rest))
      (Nat.ofDigitChars 10 (c :: rest) 0 * 10 ^ (point - (c :: rest).length)) := by
  have hplaces : IsDigits (zeros (-point).toNat ++ c :: rest) :=
    ⟨by simp, List.forall_mem_append.2 ⟨isDigit_of_mem_zeros, List.forall_mem_cons.2 ⟨hc, hrest⟩⟩⟩
  have hpower : point - (c :: rest).length = 0 - (zeros (-point).toNat ++ c :: rest).length := by
    rw [List.length_append, zeros, List.length_replicate]
    omega
  have hvalue : Nat.ofDigitChars 10 (['0'] ++ (zeros (-point).toNat ++ c :: rest)) 0 =
      Nat.ofDigitChars 10 (c :: rest) 0 := by
    rw [Nat.ofDigitChars_append, Nat.ofDigitChars_append, zeros, Nat.ofDigitChars_replicate_zero]
    rfl
  refine .of_eq isWhole_zero (.some hplaces) .none (by simp) ?_
  rw [hpower, hvalue]

/-- Zeros stand between the digits and the point. -/
theorem spellsUnsigned_append_zeros (hzero : c ≠ '0') (hc : c.isDigit = true) (hrest : ∀ c ∈ rest, c.isDigit = true)
    (n : Nat) : SpellsUnsigned (c :: rest ++ zeros n ++ ['.', '0']) (Nat.ofDigitChars 10 (c :: rest) 0 * 10 ^ n) := by
  have hwhole : IsWhole (c :: (rest ++ zeros n)) :=
    isWhole_cons hzero hc (List.forall_mem_append.2 ⟨hrest, isDigit_of_mem_zeros⟩)
  have hvalue : Nat.ofDigitChars 10 (c :: (rest ++ zeros n) ++ ['0']) 0 =
      10 * (10 ^ n * Nat.ofDigitChars 10 (c :: rest) 0) := by
    rw [← List.cons_append, Nat.ofDigitChars_append, Nat.ofDigitChars_append, zeros, Nat.ofDigitChars_replicate_zero]
    rfl
  refine .of_eq hwhole (.some isWhole_zero.1) .none (by simp) ?_
  rw [hvalue, List.length_singleton, zero_sub, Nat.cast_one, zpow_neg_one]
  push_cast
  ring

/-- The point stands between the digits. -/
theorem spellsUnsigned_take_drop (hzero : c ≠ '0') (hc : c.isDigit = true) (hrest : ∀ c ∈ rest, c.isDigit = true)
    {k : Nat} (h : k < rest.length) : SpellsUnsigned (c :: rest.take k ++ '.' :: rest.drop k)
      (Nat.ofDigitChars 10 (c :: rest) 0 * 10 ^ ((k : Int) - rest.length)) := by
  have hwhole : IsWhole (c :: rest.take k) := isWhole_cons hzero hc fun c hc => hrest c (List.mem_of_mem_take hc)
  have hplaces : IsDigits (rest.drop k) := by
    refine ⟨?_, fun c hc => hrest c (List.mem_of_mem_drop hc)⟩
    rw [Ne, List.drop_eq_nil_iff]
    omega
  have hpower : (k : Int) - rest.length = 0 - (rest.drop k).length := by
    rw [List.length_drop]
    omega
  refine .of_eq hwhole (.some hplaces) .none (by simp) ?_
  rw [hpower, List.cons_append, List.take_append_drop]

theorem spellsUnsigned_pointAfter (hzero : c ≠ '0') (hc : c.isDigit = true) (hrest : ∀ c ∈ rest, c.isDigit = true)
    (point : Int) : SpellsUnsigned (pointAfter (c :: rest) point)
      (Nat.ofDigitChars 10 (c :: rest) 0 * 10 ^ (point - (c :: rest).length)) := by
  unfold pointAfter
  split
  · exact spellsUnsigned_of_nonpos hc hrest ‹_›
  · obtain ⟨k, hk⟩ : ∃ k : Nat, point = k + 1 := ⟨(point - 1).toNat, by omega⟩
    have htake : point.toNat = k + 1 := by omega
    dsimp only
    rw [htake, List.take_succ_cons, List.drop_succ_cons, List.length_cons]
    rcases le_or_gt rest.length k with hshort | hlong
    · have hpower : point - (rest.length + 1 : Nat) = (k - rest.length : Nat) := by omega
      rw [List.take_of_length_le hshort, List.drop_of_length_le hshort, Nat.add_sub_add_right, hpower, zpow_natCast]
      exact spellsUnsigned_append_zeros hzero hc hrest _
    · have hpower : point - (rest.length + 1 : Nat) = k - rest.length := by omega
      have hplaces : ¬ (rest.drop k).isEmpty = true := by
        rw [List.isEmpty_iff, List.drop_eq_nil_iff]
        omega
      rw [Nat.add_sub_add_right, Nat.sub_eq_zero_of_le hlong.le, if_neg hplaces, hpower]
      have htext := spellsUnsigned_take_drop hzero hc hrest hlong
      rwa [← List.append_nil (c :: rest.take k)] at htext

theorem spellsExponent_scientific (plusSign : Bool) (exponent : Int) : SpellsExponent
    ('e' :: (if exponent < 0 then ['-'] else if plusSign then ['+'] else []) ++ Nat.toDigits 10 exponent.natAbs)
    exponent := by
  have hdigits := isDigits_toDigits exponent.natAbs
  have hvalue := Nat.ofDigitChars_ten_toDigits (n := exponent.natAbs)
  obtain ⟨power, hpower⟩ : ∃ power, power = exponent := ⟨exponent, rfl⟩
  generalize Nat.toDigits 10 exponent.natAbs = digits at *
  split
  · have hexponent : exponent = -(Nat.ofDigitChars 10 digits 0 : Int) := by omega
    rw [hexponent]
    exact .minus (.inl rfl) hdigits
  · have hexponent : exponent = (Nat.ofDigitChars 10 digits 0 : Int) := by omega
    rw [hexponent]
    cases plusSign
    · exact .unsigned (.inl rfl) hdigits
    · exact .plus (.inl rfl) hdigits

theorem spellsUnsigned_scientific (hzero : c ≠ '0') (hc : c.isDigit = true) (hrest : ∀ c ∈ rest, c.isDigit = true)
    (plusSign : Bool) (exponent : Int) : SpellsUnsigned (scientific plusSign (c :: rest) exponent)
      (Nat.ofDigitChars 10 (c :: rest) 0 * 10 ^ (exponent + 1 - (c :: rest).length)) := by
  have hexponent := spellsExponent_scientific plusSign exponent
  have hwhole : IsWhole [c] := isWhole_cons hzero hc nofun
  unfold scientific
  cases rest with
  | nil =>
    refine .of_eq hwhole .none hexponent (List.append_assoc _ _ _) ?_
    simp
  | cons second rest =>
    refine .of_eq hwhole (.some ⟨List.cons_ne_nil second rest, hrest⟩) hexponent (List.append_assoc _ _ _) ?_
    congr 2
    simp only [List.length_cons]
    omega

end

/-- A decimal is spelled by its layout. -/
theorem spellsUnsigned_layout (style : Style) (d : Decimal) : SpellsUnsigned (style.layout d) d.toRat := by
  unfold Style.layout
  dsimp only
  split
  · rename_i hzero
    refine .of_eq isWhole_zero (.some isWhole_zero.1) .none rfl ?_
    have hvalue : Nat.ofDigitChars 10 (['0'] ++ ['0']) 0 = 0 := rfl
    rw [hvalue, Decimal.toRat, hzero, Nat.cast_zero, zero_mul, zero_mul]
  · rename_i hne
    obtain ⟨c, rest, hcons, hc, hdigit, hrest⟩ := exists_toDigits_eq_cons hne
    have hvalue := Nat.ofDigitChars_ten_toDigits (n := d.digits)
    rw [hcons] at hvalue ⊢
    rw [Decimal.toRat, ← hvalue]
    split
    · have hlayout := spellsUnsigned_pointAfter hc hdigit hrest (d.exponent + (c :: rest).length)
      rwa [add_sub_cancel_right] at hlayout
    · have hlayout := spellsUnsigned_scientific hc hdigit hrest style.plusSign (d.exponent + (c :: rest).length - 1)
      rwa [sub_add_cancel, add_sub_cancel_right] at hlayout

/-! ### Doubles -/

/-- A literal is read as the double with its sign that is closest to the number that the rest of it spells. -/
def ReadsAs (literal : List Char) (x : Float) : Prop := ∃ negative number magnitude,
  SpellsNumber literal negative number ∧ Binary64.ofFloat x = .finite negative magnitude ∧ magnitude.IsNearest number

theorem ReadsAs.unique {x y : Float} (h : ReadsAs literal x) (h' : ReadsAs literal y) : x = y := by
  obtain ⟨negative, number, magnitude, hspells, hx, hnearest⟩ := h
  obtain ⟨negative', number', magnitude', hspells', hy, hnearest'⟩ := h'
  obtain ⟨rfl, rfl⟩ := hspells.unique hspells'
  obtain rfl := hnearest.unique (Binary64.isCanonical_of_ofFloat hx) (Binary64.isCanonical_of_ofFloat hy) hnearest'
  exact Binary64.eq_of_ofFloat hx hy

theorem spellsNumber_finite (style : Style) (negative : Bool) (magnitude : Magnitude) :
    SpellsNumber (style.finite negative magnitude).toList negative (magnitude.shortest style.tie).toRat := by
  have hlayout := spellsUnsigned_layout style (magnitude.shortest style.tie)
  rw [Style.finite, String.toList_ofList]
  cases negative
  · exact .plain hlayout
  · exact .minus hlayout

/-- The literal that is written for a double is read as that double. -/
theorem readsAs_finite (style : Style) {x : Float} {negative : Bool} {magnitude : Magnitude}
    (h : Binary64.ofFloat x = .finite negative magnitude) : ReadsAs (style.finite negative magnitude).toList x :=
  ⟨negative, _, magnitude, spellsNumber_finite style negative magnitude, h,
    (magnitude.covers_shortest style.tie).isNearest (Binary64.isCanonical_of_ofFloat h)⟩

end RunCharts.Json
