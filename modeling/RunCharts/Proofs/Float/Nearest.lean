import Mathlib
import RunCharts.Decimal.Shortest

/-! # The double next to a number

A number is read as the double that is closest to it, and of two that are equally close as the even one (`IsNearest`),
so it is read as one double only (`IsNearest.unique`). The numbers that are read as a double reach halfway to those next
to it (`Covers.isNearest`), and the digits that are written for a double stand for one of them (`covers_shortest`). -/

namespace RunCharts.Decimal

/-- The rational number that a decimal is. -/
def toRat (d : Decimal) : ℚ := d.digits * 10 ^ d.exponent

namespace Magnitude

variable {x y : Magnitude} {number : ℚ}

/-- The rational number that a magnitude is. -/
def toRat (x : Magnitude) : ℚ := x.significand * 2 ^ x.exponent

/-- A magnitude is written with 53 bits, and as far as the least exponent allows without a zero in front. -/
structure IsCanonical (x : Magnitude) : Prop where
  lt : x.significand < 2 * hiddenBit
  least : -1074 ≤ x.exponent
  hidden : -1074 < x.exponent → hiddenBit ≤ x.significand

/-- No magnitude is closer to the number, and one that is equally close is odd where this one is even. That doubles end
somewhere does not matter: a number is compared with the magnitudes beyond them too. -/
def IsNearest (x : Magnitude) (number : ℚ) : Prop := ∀ y : Magnitude, y.IsCanonical → y ≠ x →
  |number - x.toRat| < |number - y.toRat| ∨
    |number - x.toRat| = |number - y.toRat| ∧ x.significand % 2 = 0 ∧ y.significand % 2 = 1

theorem IsNearest.unique (hx : x.IsCanonical) (hy : y.IsCanonical) (h : x.IsNearest number)
    (h' : y.IsNearest number) : x = y := by
  by_contra hne
  rcases h y hy (Ne.symm hne) with hlt | ⟨heq, heven, hodd⟩ <;> rcases h' x hx hne with hlt' | ⟨heq', heven', hodd'⟩
  · exact lt_asymm hlt hlt'
  · exact hlt.ne' heq'
  · exact hlt'.ne' heq
  · omega

/-! ### Neighbours -/

/-- The magnitude in units of one with a smaller exponent. -/
theorem toRat_eq_mul {e : Int} {k : Nat} (h : x.exponent = e + k) : x.toRat = (x.significand * 2 ^ k : Nat) * 2 ^ e := by
  rw [toRat, h, zpow_add₀ two_ne_zero, zpow_natCast]
  push_cast
  ring

theorem lt_iff_of_exponent {k : Nat} (h : y.exponent = x.exponent + k) :
    x.toRat < y.toRat ↔ x.significand < y.significand * 2 ^ k := by
  rw [toRat_eq_mul h, toRat, mul_lt_mul_iff_left₀ (zpow_pos two_pos _), Nat.cast_lt]

/-- Where the exponents differ, the larger one belongs to the larger magnitude. -/
theorem lt_of_exponent_lt (hx : x.IsCanonical) (hy : y.IsCanonical) (h : x.exponent < y.exponent) :
    x.toRat < y.toRat := by
  obtain ⟨k, hk⟩ : ∃ k : Nat, y.exponent = x.exponent + (k + 1 : Nat) := ⟨(y.exponent - x.exponent - 1).toNat, by omega⟩
  have hlt := hx.lt
  have hhidden := hy.hidden (hx.least.trans_lt h)
  have hpow : hiddenBit * 2 ≤ y.significand * 2 ^ (k + 1) :=
    Nat.mul_le_mul hhidden (Nat.le_self_pow k.succ_ne_zero 2)
  rw [lt_iff_of_exponent hk]
  omega

theorem eq_of_toRat_eq (hx : x.IsCanonical) (hy : y.IsCanonical) (h : x.toRat = y.toRat) : x = y := by
  have hexponent : x.exponent = y.exponent := by
    rcases lt_trichotomy x.exponent y.exponent with hlt | heq | hlt
    · exact absurd h (lt_of_exponent_lt hx hy hlt).ne
    · exact heq
    · exact absurd h (lt_of_exponent_lt hy hx hlt).ne'
  rw [toRat, toRat, hexponent, mul_left_inj' (zpow_pos two_pos _).ne', Nat.cast_inj] at h
  cases x
  cases y
  simp_all

/-- The next magnitude above is one unit away at least. If it is just one unit away, one of the two is odd. -/
theorem add_unit_le (hx : x.IsCanonical) (hy : y.IsCanonical) (h : x.toRat < y.toRat) :
    x.toRat + 2 ^ x.exponent ≤ y.toRat ∧
      (x.toRat + 2 ^ x.exponent = y.toRat → (x.significand + y.significand) % 2 = 1) := by
  obtain ⟨k, hk⟩ : ∃ k : Nat, y.exponent = x.exponent + k := by
    refine ⟨(y.exponent - x.exponent).toNat, ?_⟩
    have : x.exponent ≤ y.exponent := not_lt.1 fun hlt => lt_asymm h (lt_of_exponent_lt hy hx hlt)
    omega
  have hunit : (0 : ℚ) < 2 ^ x.exponent := zpow_pos two_pos _
  have hsucc : x.toRat + 2 ^ x.exponent = (x.significand + 1 : Nat) * 2 ^ x.exponent := by
    rw [toRat]
    push_cast
    ring
  rw [lt_iff_of_exponent hk] at h
  rw [hsucc, toRat_eq_mul hk, mul_le_mul_iff_left₀ hunit, Nat.cast_le, mul_left_inj' hunit.ne', Nat.cast_inj]
  refine ⟨h, fun heq => ?_⟩
  have hlt := hx.lt
  cases k with
  | zero => omega
  | succ k =>
    -- above all magnitudes of one exponent comes the least one of the next
    have hhidden := hy.hidden (by have := hx.least; omega)
    have hdouble : y.significand * 2 ^ (k + 1) = 2 * (y.significand * 2 ^ k) := by ring
    have hle : y.significand ≤ y.significand * 2 ^ k := Nat.le_mul_of_pos_right _ (Nat.two_pow_pos k)
    have heven : hiddenBit % 2 = 0 := rfl
    omega

/-- How far the magnitude below is away at least. -/
def gapBelow (x : Magnitude) : ℚ := if x.narrowBelow then 2 ^ (x.exponent - 1) else 2 ^ x.exponent

theorem narrowBelow_iff : x.narrowBelow = true ↔ x.significand = hiddenBit ∧ -1074 < x.exponent := by
  simp [narrowBelow]

theorem exponent_le_of_lt (hx : x.IsCanonical) (hy : y.IsCanonical) (h : y.toRat < x.toRat) :
    y.exponent ≤ x.exponent := not_lt.1 fun hlt => lt_asymm h (lt_of_exponent_lt hx hy hlt)

/-- Below the least magnitude of an exponent the magnitudes are half as far apart. -/
theorem add_half_unit_le (hx : x.IsCanonical) (hy : y.IsCanonical) (h : y.toRat < x.toRat)
    (hnarrow : x.narrowBelow = true) : y.toRat + 2 ^ (x.exponent - 1) ≤ x.toRat ∧
      (y.toRat + 2 ^ (x.exponent - 1) = x.toRat → (y.significand + x.significand) % 2 = 1) := by
  obtain ⟨hleast, hexponent⟩ := narrowBelow_iff.1 hnarrow
  have hle := exponent_le_of_lt hx hy h
  have hne : y.exponent ≠ x.exponent := fun heq => by
    have hhidden := hy.hidden (heq ▸ hexponent)
    have hlt := (lt_iff_of_exponent (x := y) (y := x) (k := 0) (by simp [heq])).1 h
    rw [pow_zero, mul_one] at hlt
    omega
  rcases (show y.exponent ≤ x.exponent - 1 by omega).lt_or_eq with hlt | heq
  · have hz : IsCanonical ⟨hiddenBit, x.exponent - 1⟩ := ⟨by dsimp only; decide, by dsimp only; omega, fun _ => le_rfl⟩
    have hbelow := lt_of_exponent_lt hy hz hlt
    have hgap : toRat ⟨hiddenBit, x.exponent - 1⟩ + 2 ^ (x.exponent - 1) ≤ x.toRat := by
      have hsplit : (2 : ℚ) ^ x.exponent = 2 * 2 ^ (x.exponent - 1) := by
        rw [← zpow_one_add₀ two_ne_zero]
        congr 1
        omega
      have hpos : (0 : ℚ) < 2 ^ (x.exponent - 1) := zpow_pos two_pos _
      rw [toRat, toRat, hsplit, hleast, show hiddenBit = 2 ^ 52 from rfl]
      push_cast
      linarith
    exact ⟨by linarith, fun heq => absurd heq (by linarith)⟩
  · have hunit := add_unit_le hy hx h
    rwa [heq] at hunit

theorem add_gapBelow_le (hx : x.IsCanonical) (hy : y.IsCanonical) (h : y.toRat < x.toRat) :
    y.toRat + x.gapBelow ≤ x.toRat ∧
      (y.toRat + x.gapBelow = x.toRat → (y.significand + x.significand) % 2 = 1) := by
  unfold gapBelow
  by_cases hnarrow : x.narrowBelow = true
  · rw [if_pos hnarrow]
    exact add_half_unit_le hx hy h hnarrow
  rw [if_neg hnarrow]
  rcases (exponent_le_of_lt hx hy h).lt_or_eq with hlt | heq
  · have hexponent := hy.least.trans_lt hlt
    have hhidden := hx.hidden hexponent
    have hne : x.significand ≠ hiddenBit := fun heq => hnarrow (narrowBelow_iff.2 ⟨heq, hexponent⟩)
    have hz : IsCanonical ⟨x.significand - 1, x.exponent⟩ := by
      have hxlt := hx.lt
      exact ⟨by dsimp only; omega, hx.least, fun _ => by dsimp only; omega⟩
    have hbelow := lt_of_exponent_lt hy hz hlt
    have hgap : toRat ⟨x.significand - 1, x.exponent⟩ + 2 ^ x.exponent = x.toRat := by
      rw [toRat, toRat, Nat.cast_sub (by omega)]
      push_cast
      ring
    exact ⟨by linarith, fun heq => absurd heq (by linarith)⟩
  · have hunit := add_unit_le hy hx h
    rwa [heq] at hunit

/-! ### The numbers that are read as a magnitude -/

/-- The number lies no further than halfway to the magnitudes below and above, and only just so far if the magnitude
is even. -/
structure Covers (x : Magnitude) (number : ℚ) : Prop where
  low : x.toRat - x.gapBelow / 2 ≤ number
  high : number ≤ x.toRat + 2 ^ x.exponent / 2
  even : x.significand % 2 = 1 → x.toRat - x.gapBelow / 2 < number ∧ number < x.toRat + 2 ^ x.exponent / 2

theorem Covers.isNearest (hx : x.IsCanonical) (h : x.Covers number) : x.IsNearest number := by
  obtain ⟨hlow, hhigh, heven⟩ := h
  intro y hy hne
  rcases lt_trichotomy y.toRat x.toRat with hlt | heq | hlt
  · obtain ⟨hgap, hodd⟩ := add_gapBelow_le hx hy hlt
    rw [abs_of_pos (show 0 < number - y.toRat by linarith)]
    rcases (show (x.toRat + y.toRat) / 2 ≤ number by linarith).lt_or_eq with hcloser | hhalf
    · exact .inl (abs_lt.2 ⟨by linarith, by linarith⟩)
    · have hparity := hodd (by linarith)
      have hstrict : ¬ x.significand % 2 = 1 := fun h => by
        have := (heven h).1
        linarith
      refine .inr ⟨?_, by omega, by omega⟩
      rw [abs_of_nonpos (by linarith)]
      linarith
  · exact absurd (eq_of_toRat_eq hy hx heq) hne
  · obtain ⟨hgap, hodd⟩ := add_unit_le hx hy hlt
    rw [abs_of_neg (show number - y.toRat < 0 by linarith)]
    rcases (show number ≤ (x.toRat + y.toRat) / 2 by linarith).lt_or_eq with hcloser | hhalf
    · exact .inl (abs_lt.2 ⟨by linarith, by linarith⟩)
    · have hparity := hodd (by linarith)
      have hstrict : ¬ x.significand % 2 = 1 := fun h => by
        have := (heven h).2
        linarith
      refine .inr ⟨?_, by omega, by omega⟩
      rw [abs_of_nonneg (by linarith)]
      linarith

theorem gapBelow_pos (x : Magnitude) : 0 < x.gapBelow := by
  unfold gapBelow
  split <;> exact zpow_pos two_pos _

theorem covers_toRat (x : Magnitude) : x.Covers x.toRat := by
  have hbelow := x.gapBelow_pos
  have habove : (0 : ℚ) < 2 ^ x.exponent := zpow_pos two_pos _
  exact ⟨by linarith, by linarith, fun _ => ⟨by linarith, by linarith⟩⟩

/-! ### The digits that are written -/

theorem pow_toNat_eq {b : ℚ} (hb : b ≠ 0) (e : Int) : b ^ e.toNat = b ^ e * b ^ (-e).toNat := by
  rw [← zpow_natCast, ← zpow_natCast, ← zpow_add₀ hb]
  congr 1
  omega

theorem overPowerOfTen_spec (x : Magnitude) (exponent : Int) :
    0 < (x.overPowerOfTen exponent).2 ∧
      ((x.overPowerOfTen exponent).1 : ℚ) * 10 ^ exponent = x.toRat * (x.overPowerOfTen exponent).2 := by
  have htwo := pow_toNat_eq (b := 2) two_ne_zero x.exponent
  have hten := pow_toNat_eq (b := 10) (by norm_num) exponent
  refine ⟨Nat.mul_pos (Nat.two_pow_pos _) (Nat.pow_pos (by decide)), ?_⟩
  simp only [overPowerOfTen, ratio, toRat, Nat.pow_eq]
  push_cast
  rw [htwo, hten]
  ring

/-- A decimal is compared with multiples of a power of two in whole numbers. -/
theorem le_iff_units (d : Decimal) (e : Int) (k : Nat) :
    (k * (overPowerOfTen ⟨1, e⟩ d.exponent).1 ≤ d.digits * (overPowerOfTen ⟨1, e⟩ d.exponent).2 ↔
      (k : ℚ) * 2 ^ e ≤ d.toRat) ∧
    (d.digits * (overPowerOfTen ⟨1, e⟩ d.exponent).2 ≤ k * (overPowerOfTen ⟨1, e⟩ d.exponent).1 ↔
      d.toRat ≤ k * 2 ^ e) := by
  obtain ⟨hden, hnum⟩ := overPowerOfTen_spec ⟨1, e⟩ d.exponent
  generalize overPowerOfTen ⟨1, e⟩ d.exponent = quotient at *
  obtain ⟨num, den⟩ := quotient
  dsimp only at *
  have hden' : (0 : ℚ) < den := Nat.cast_pos.2 hden
  have hpower : (0 : ℚ) < 10 ^ d.exponent := zpow_pos (by norm_num) _
  rw [toRat, Nat.cast_one, one_mul] at hnum
  have hunits : (k : ℚ) * num * 10 ^ d.exponent = k * 2 ^ e * den := by rw [mul_assoc, hnum, mul_assoc]
  have hdigits : (d.digits : ℚ) * den * 10 ^ d.exponent = d.toRat * den := by
    rw [Decimal.toRat]
    ring
  constructor
  · rw [← mul_le_mul_iff_left₀ hden', ← hunits, ← hdigits, mul_le_mul_iff_left₀ hpower]
    norm_cast
  · rw [← mul_le_mul_iff_left₀ hden', ← hunits, ← hdigits, mul_le_mul_iff_left₀ hpower]
    norm_cast

/-- The bound below which no decimal reads back, in quarters of a unit. -/
def quartersBelow (x : Magnitude) : Nat := if x.narrowBelow then 4 * x.significand - 1 else 4 * x.significand - 2

theorem readsBack_iff {d : Decimal} : x.readsBack d = true ↔
    if x.significand % 2 = 0 then
      (x.quartersBelow : ℚ) * 2 ^ (x.exponent - 2) ≤ d.toRat ∧
        d.toRat ≤ (4 * x.significand + 2 : Nat) * 2 ^ (x.exponent - 2)
    else
      (x.quartersBelow : ℚ) * 2 ^ (x.exponent - 2) < d.toRat ∧
        d.toRat < (4 * x.significand + 2 : Nat) * 2 ^ (x.exponent - 2) := by
  obtain ⟨hbelow, hbelow'⟩ := le_iff_units d (x.exponent - 2) x.quartersBelow
  obtain ⟨habove, habove'⟩ := le_iff_units d (x.exponent - 2) (4 * x.significand + 2)
  by_cases heven : x.significand % 2 = 0
  · rw [if_pos heven, ← hbelow, ← habove']
    simp only [readsBack, quartersBelow, if_pos heven, Bool.and_eq_true, decide_eq_true_eq]
  · rw [if_neg heven, ← not_le, ← not_le, ← hbelow', ← habove, not_le, not_le]
    simp only [readsBack, quartersBelow, if_neg heven, Bool.and_eq_true, decide_eq_true_eq]

/-- The decimals that read back lie between the ends, as rational numbers. -/
theorem covers_of_readsBack {d : Decimal} (h : x.readsBack d = true) : x.Covers d.toRat := by
  have hpos : (0 : ℚ) < 2 ^ (x.exponent - 2) := zpow_pos two_pos _
  have hquarter : (2 : ℚ) ^ x.exponent = 4 * 2 ^ (x.exponent - 2) := by
    rw [show (4 : ℚ) = 2 ^ (2 : Int) by norm_num, ← zpow_add₀ two_ne_zero]
    congr 1
    omega
  have hhalf : (2 : ℚ) ^ (x.exponent - 1) = 2 * 2 ^ (x.exponent - 2) := by
    rw [← zpow_one_add₀ two_ne_zero]
    congr 1
    omega
  have hbelow : x.toRat - x.gapBelow / 2 ≤ x.quartersBelow * 2 ^ (x.exponent - 2) := by
    -- the bound in quarters is cut off at zero
    have hcut (k : Nat) : ((4 * x.significand : Nat) : ℚ) * 2 ^ (x.exponent - 2) ≤
        ((4 * x.significand - k : Nat) + k) * 2 ^ (x.exponent - 2) :=
      mul_le_mul_of_nonneg_right (by exact_mod_cast le_tsub_add) hpos.le
    have hone := hcut 1
    have htwo := hcut 2
    unfold gapBelow quartersBelow
    rw [toRat, hquarter, hhalf]
    push_cast at hone htwo
    split <;> linarith
  have habove : ((4 * x.significand + 2 : Nat) : ℚ) * 2 ^ (x.exponent - 2) = x.toRat + 2 ^ x.exponent / 2 := by
    rw [toRat, hquarter]
    push_cast
    ring
  rw [readsBack_iff, habove] at h
  split at h
  · exact ⟨hbelow.trans h.1, h.2, fun hodd => by omega⟩
  · exact ⟨hbelow.trans h.1.le, h.2.le, fun _ => ⟨hbelow.trans_lt h.1, h.2⟩⟩

theorem toRat_exact (x : Magnitude) : x.exact.toRat = x.toRat := by
  unfold exact
  split
  · rename_i hnonneg
    obtain ⟨n, hn⟩ : ∃ n : Nat, x.exponent = n := ⟨x.exponent.toNat, by omega⟩
    rw [Decimal.toRat, toRat, hn, Int.toNat_natCast, Nat.pow_eq, zpow_zero, mul_one, zpow_natCast]
    push_cast
    rfl
  · rename_i hneg
    obtain ⟨n, hn⟩ : ∃ n : Nat, x.exponent = -n := ⟨(-x.exponent).toNat, by omega⟩
    have hten : (10 : ℚ) ^ n = 2 ^ n * 5 ^ n := by rw [← mul_pow]; norm_num
    rw [Decimal.toRat, toRat, hn, neg_neg, Int.toNat_natCast, Nat.pow_eq, zpow_neg, zpow_neg, zpow_natCast,
      zpow_natCast, hten]
    push_cast
    field_simp

end Magnitude

theorem pow_dvd_of_trailing_zeros (n : Nat) :
    10 ^ ((Nat.toDigits 10 n).reverse.takeWhile (· == '0')).length ∣ n := by
  have hzeros : (Nat.toDigits 10 n).reverse.takeWhile (· == '0') =
      List.replicate ((Nat.toDigits 10 n).reverse.takeWhile (· == '0')).length '0' :=
    List.eq_replicate_of_mem fun c hc => by simpa using List.mem_takeWhile_imp hc
  have hsplit : Nat.toDigits 10 n = ((Nat.toDigits 10 n).reverse.dropWhile (· == '0')).reverse ++
      List.replicate ((Nat.toDigits 10 n).reverse.takeWhile (· == '0')).length '0' := by
    rw [← List.reverse_replicate, ← hzeros, ← List.reverse_append, List.takeWhile_append_dropWhile, List.reverse_reverse]
  have hvalue := Nat.ofDigitChars_ten_toDigits (n := n)
  rw [hsplit, Nat.ofDigitChars_append, Nat.ofDigitChars_replicate_zero] at hvalue
  exact Dvd.intro _ hvalue

theorem toRat_strip (d : Decimal) : (strip d).toRat = d.toRat := by
  unfold strip
  dsimp only
  split
  · rename_i hzero
    rw [toRat, toRat, hzero]
    simp
  · have hdvd := pow_dvd_of_trailing_zeros d.digits
    generalize ((Nat.toDigits 10 d.digits).reverse.takeWhile (· == '0')).length = zeros at hdvd ⊢
    obtain ⟨front, hfront⟩ := hdvd
    rw [toRat, toRat, hfront, Nat.pow_eq, Nat.mul_div_cancel_left _ (Nat.pow_pos (by decide)),
      zpow_add₀ (by norm_num), zpow_natCast]
    push_cast
    ring

namespace Magnitude

variable {x : Magnitude}

theorem readsBack_of_onGrid? {tie : Tie} {exponent : Int} {d : Decimal} (h : x.onGrid? tie exponent = some d) :
    x.readsBack d = true := by
  simp only [onGrid?] at h
  split at h
  · cases h
  · cases h
    assumption
  · cases h
    assumption
  · rename_i hlow hhigh
    split at h
    · cases h
      exact hlow
    · cases h
      exact hhigh
    · split at h
      · cases h
        exact hlow
      · cases h
        exact hhigh

/-- The digits that are written for a magnitude stand for a number that is read as it. -/
theorem covers_shortest (x : Magnitude) (tie : Tie) : x.Covers (x.shortest tie).toRat := by
  unfold shortest
  split
  · rename_i hzero
    have hsame : Decimal.toRat ⟨0, 0⟩ = x.toRat := by simp [Decimal.toRat, toRat, hzero]
    rw [hsame]
    exact x.covers_toRat
  · dsimp only
    rw [toRat_strip]
    cases hfind : ((List.range 17).map fun n => x.scale - (n + 1 : Nat)).findSome? (x.onGrid? tie) with
    | none =>
      rw [Option.getD_none, toRat_exact]
      exact x.covers_toRat
    | some d =>
      obtain ⟨exponent, -, hgrid⟩ := List.exists_of_findSome?_eq_some hfind
      exact covers_of_readsBack (readsBack_of_onGrid? hgrid)

end Magnitude

/-! ### Doubles -/

namespace Binary64

variable {x y : Float} {negative : Bool} {magnitude : Magnitude}

theorem isCanonical_of_ofFloat (h : ofFloat x = .finite negative magnitude) : magnitude.IsCanonical := by
  have hfraction : x.toBits.toNat % hiddenBit < hiddenBit := Nat.mod_lt _ (by decide)
  unfold ofFloat ofBits at h
  dsimp only at h
  split at h
  · split at h <;> cases h
  split at h <;> cases h
  · exact ⟨by dsimp only; omega, le_rfl, fun hlt => absurd hlt (lt_irrefl _)⟩
  · exact ⟨by dsimp only; omega, by dsimp only; omega, fun _ => Nat.le_add_right _ _⟩

/-- The bits of a finite double, put together again. -/
theorem toNat_of_ofBits {bits : UInt64} (h : ofBits bits = .finite negative magnitude) :
    bits.toNat = (if negative then 0x8000000000000000 else 0) + magnitude.significand +
      if magnitude.significand < hiddenBit then 0 else (magnitude.exponent + 1074).toNat * hiddenBit := by
  have hlt := bits.toNat_lt
  unfold ofBits at h
  dsimp only at h
  split at h
  · split at h <;> cases h
  split at h <;> cases h <;> dsimp only
  · rw [if_pos (Nat.mod_lt _ (by decide))]
    simp only [decide_eq_true_eq]
    unfold hiddenBit at *
    split <;> omega
  · rw [if_neg (Nat.not_lt.2 (Nat.le_add_right _ _))]
    simp only [decide_eq_true_eq]
    unfold hiddenBit at *
    split <;> omega

/-- A finite double is determined by its sign and its magnitude. -/
theorem eq_of_ofFloat (hx : ofFloat x = .finite negative magnitude) (hy : ofFloat y = .finite negative magnitude) :
    x = y := by
  have hbits : x.toBits = y.toBits := UInt64.toNat_inj.1 ((toNat_of_ofBits hx).trans (toNat_of_ofBits hy).symm)
  obtain ⟨⟨bits, hvalid⟩⟩ := x
  obtain ⟨⟨bits', hvalid'⟩⟩ := y
  obtain rfl : bits = bits' := hbits
  rfl

end Binary64

end RunCharts.Decimal
