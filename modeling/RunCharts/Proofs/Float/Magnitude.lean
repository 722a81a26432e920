import RunCharts.Proofs.Float.AddZero

/-! # The magnitude of integers

An integer becomes the double -1 only if it is -1 (`ofInt_eq_neg_one_iff`): the others are not negative, or their
magnitude is two or more (`IsLarge`) and stays so where it is rounded. And it becomes a finite double unless it has too
many bits (`isFinite_ofInt`). Both follow from what rounding does to the exponent (`isBetween_roundWithAccuracy`). -/

namespace RunCharts.Binary64

open Float.Model Float.Model.UnpackedFloat

/-- The magnitude is two or more; what is no number counts as large. -/
def IsLarge : UnpackedFloat → Prop
  | .notANumber | .infinity _ => True
  | .zero _ => False
  | .finite _ m e _ => m.log2 = 52 ∧ -51 ≤ e

/-! ### Rounding -/

theorem log2_mul_two_pow {m : Nat} (hm : m ≠ 0) (k : Nat) : (m * 2 ^ k).log2 = m.log2 + k := by
  have hlow := Nat.log2_self_le hm
  have hhigh := Nat.lt_log2_self (n := m)
  refine (Nat.log2_eq_iff (Nat.mul_ne_zero hm (Nat.two_pow_pos k).ne')).2 ⟨?_, ?_⟩
  · rw [pow_add]
    exact Nat.mul_le_mul_right _ hlow
  · rw [Nat.add_right_comm, pow_add]
    exact Nat.mul_lt_mul_of_pos_right hhigh (Nat.two_pow_pos k)

theorem log2_div_two_pow {m k : Nat} (h : k ≤ m.log2) : (m / 2 ^ k).log2 = m.log2 - k := by
  by_cases hm : m = 0
  · subst hm
    simp at h
    simp [h]
  · have hlow := Nat.log2_self_le hm
    have hhigh := Nat.lt_log2_self (n := m)
    have hdiv : 2 ^ (m.log2 - k) ≤ m / 2 ^ k := by
      rw [Nat.le_div_iff_mul_le (Nat.two_pow_pos k), ← pow_add, Nat.sub_add_cancel h]
      exact hlow
    refine (Nat.log2_eq_iff (Nat.pos_of_ne_zero ?_).ne').2 ⟨hdiv, ?_⟩
    · have := Nat.two_pow_pos (m.log2 - k)
      omega
    · rw [Nat.div_lt_iff_lt_mul (Nat.two_pow_pos k), ← pow_add]
      have : m.log2 - k + 1 + k = m.log2 + 1 := by omega
      rwa [this]

theorem mantissa_shiftRight (extended : ExtendedMantissa) (n : Nat) :
    (extended >>> n).mantissa = extended.mantissa / 2 ^ n := by
  show (n.repeat ExtendedMantissa.shiftRightOne extended).mantissa = _
  induction n with
  | zero => simp [Nat.repeat]
  | succ n ih =>
    rw [Nat.repeat, ExtendedMantissa.shiftRightOne, ih, Nat.div_div_eq_div_mul, ← pow_succ]

/-- A mantissa with bits to spare is cut to 53 bits. -/
theorem shiftToTargetExponent_of_le {m : Nat} {e : Int} (hm : 52 ≤ m.log2) (he : -1022 ≤ m.log2 + e) :
    (shiftToTargetExponent Format.binary64 m e .exact).1.mantissa = m / 2 ^ (m.log2 - 52) ∧
      (shiftToTargetExponent Format.binary64 m e .exact).2 = m.log2 + e - 52 := by
  have htarget : Format.binary64.targetExponent (totalExponent m e) = m.log2 + e - 52 := by
    simp only [Format.targetExponent, totalExponent, Format.mantissaBits, Format.minExponent]
    omega
  have hshift : (m.log2 + e - 52 - e).toNat = m.log2 - 52 := by omega
  rw [shiftToTargetExponent, shiftToExponent]
  dsimp only
  rw [htarget, hshift, mantissa_shiftRight, ExtendedMantissa.ofMantissaAndAccuracy]
  exact ⟨rfl, by omega⟩

theorem roundedMantissa_le (extended : ExtendedMantissa) : extended.mantissa ≤ extended.roundedMantissa ∧
    extended.roundedMantissa ≤ extended.mantissa + 1 := by
  rw [ExtendedMantissa.roundedMantissa]
  cases extended.accuracy with
  | exact => exact ⟨le_rfl, Nat.le_succ _⟩
  | inexact relative =>
    cases relative <;> simp only [Accuracy.roundToNearestEven] <;> omega

/-- A finite number with 53 bits, whose exponent lies between the bounds. -/
def IsBetween (least greatest : Int) : UnpackedFloat → Prop
  | .finite _ m e _ => m.log2 = 52 ∧ least ≤ e ∧ e ≤ greatest
  | _ => False

/-- Rounding leaves the magnitude as it is or doubles it. -/
theorem isBetween_roundWithAccuracy (s : Sign) {m : Nat} {e : Int} (hm : 52 ≤ m.log2) (he : -1022 ≤ m.log2 + e) :
    IsBetween (m.log2 + e - 52) (m.log2 + e - 51) (roundWithAccuracy Format.binary64 s m e .exact) := by
  obtain ⟨hcut, hexponent⟩ := shiftToTargetExponent_of_le hm he
  rw [roundWithAccuracy]
  dsimp only
  generalize hfirst : shiftToTargetExponent Format.binary64 m e .exact = first at hcut hexponent ⊢
  obtain ⟨extended, e'⟩ := first
  dsimp only at hcut hexponent ⊢
  obtain ⟨hle, hle'⟩ := roundedMantissa_le extended
  have hlog : extended.mantissa.log2 = 52 := by
    rw [hcut, log2_div_two_pow (Nat.sub_le _ _)]
    omega
  have hne : extended.mantissa ≠ 0 := by
    intro h
    rw [h] at hlog
    exact absurd hlog (by decide)
  -- rounding up may take one more bit
  obtain ⟨hlow, hhigh⟩ := (Nat.log2_eq_iff hne).1 hlog
  have hrounded : 52 ≤ extended.roundedMantissa.log2 := (Nat.le_log2 (by omega)).2 (by omega)
  have hrounded' : extended.roundedMantissa.log2 < 54 := (Nat.log2_lt (by omega)).2 (by omega)
  obtain ⟨hcut', hexponent'⟩ := shiftToTargetExponent_of_le (e := e') hrounded (by omega)
  generalize shiftToTargetExponent Format.binary64 extended.roundedMantissa e' .exact = second at hcut' hexponent' ⊢
  obtain ⟨extended', e''⟩ := second
  dsimp only at hcut' hexponent' ⊢
  have hlog' : extended'.mantissa.log2 = 52 := by
    rw [hcut', log2_div_two_pow (Nat.sub_le _ _)]
    omega
  split
  · rename_i hzero
    rw [hzero] at hlog'
    exact absurd hlog' (by decide)
  · exact ⟨hlog', by omega, by omega⟩

theorem IsBetween.mono {least least' greatest greatest' : Int} {u : UnpackedFloat} (h : IsBetween least greatest u)
    (hleast : least' ≤ least) (hgreatest : greatest ≤ greatest') : IsBetween least' greatest' u := by
  cases u with
  | finite s m e hm => exact ⟨h.1, hleast.trans h.2.1, h.2.2.trans hgreatest⟩
  | _ => exact h.elim

theorem IsBetween.isLarge {least greatest : Int} {u : UnpackedFloat} (h : IsBetween least greatest u)
    (hleast : -51 ≤ least) : IsLarge u := by
  cases u with
  | finite s m e hm => exact ⟨h.1, hleast.trans h.2.1⟩
  | _ => exact h.elim

theorem isBetween_ofNat {n : Nat} (h : n ≠ 0) :
    IsBetween (n.log2 - 52) (n.log2 - 51) (UnpackedFloat.ofNat Format.binary64 n) := by
  have hpositive : compare (n : Int) 0 = .gt := Int.compare_eq_gt.2 (by omega)
  have htarget : Format.binary64.targetExponent (totalExponent n 0) = (n.log2 : Int) - 52 := by
    simp only [Format.targetExponent, totalExponent, Format.mantissaBits, Format.minExponent]
    omega
  have hwidened := log2_mul_two_pow h (0 - ((n.log2 : Int) - 52)).toNat
  rw [UnpackedFloat.ofNat, UnpackedFloat.ofInt, UnpackedFloat.normalize, hpositive]
  dsimp only
  rw [UnpackedFloat.round, Int.toNat_natCast, htarget, decreaseExponent]
  dsimp only
  rw [Nat.shiftLeft_eq]
  exact (isBetween_roundWithAccuracy _ (by omega) (by omega)).mono (by omega) (by omega)

/-! ### Packing -/

theorem le_unpackExponent_pack {u : UnpackedFloat} (h : IsLarge u) :
    1024 ≤ (unpackExponent (UnpackedFloat.pack Format.binary64 u)).toNat := by
  cases u with
  | notANumber =>
    rw [UnpackedFloat.pack, packedNaN, unpackExponent_packComponents]
    decide
  | infinity s =>
    rw [UnpackedFloat.pack, packedInfinity, unpackExponent_packComponents]
    decide
  | zero s => exact h.elim
  | finite s m e hm =>
    obtain ⟨hlog, he⟩ := h
    have hbias : (Format.binary64.exponentBias : Int) = 1023 := rfl
    rw [UnpackedFloat.pack]
    dsimp only
    split
    · rw [packedInfinity, unpackExponent_packComponents]
      decide
    · rename_i hsmall
      rw [if_pos (by rw [hlog]; rfl), unpackExponent_packComponents, BitVec.toNat_ofNat]
      rw [Nat.mod_eq_of_lt (by omega)]
      omega

theorem log2_significand (mantissa : BitVec 52) : (1#1 ++ mantissa).toNat.log2 = 52 := by
  have hhigh := (1#1 ++ mantissa).isLt
  have hlow : 2 ^ 52 ≤ (1#1 ++ mantissa).toNat := by
    rw [BitVec.toNat_append]
    exact le_trans (by decide) Nat.left_le_or
  exact (Nat.log2_eq_iff ((Nat.two_pow_pos 52).trans_le hlow).ne').2 ⟨hlow, hhigh⟩

theorem isLarge_unpack {b : BitVec Format.binary64.numBits} (h : 1024 ≤ (unpackExponent b).toNat) :
    IsLarge (UnpackedFloat.unpack Format.binary64 b) := by
  have hbias : (Format.binary64.exponentBias : Int) = 1023 := rfl
  rw [UnpackedFloat.unpack]
  dsimp only
  split
  · split <;> trivial
  · split
    · rename_i hzero
      rw [hzero] at h
      exact absurd h (by decide)
    · exact ⟨log2_significand _, by omega⟩

theorem isLarge_unpack_pack {u : UnpackedFloat} (h : IsLarge u) : IsLarge (Float.Model.pack u).unpack :=
  isLarge_unpack (le_unpackExponent_pack h)

theorem isLarge_neg {u : UnpackedFloat} (h : IsLarge u) : IsLarge u.neg := by
  cases u <;> exact h

theorem isBetween_unpack {b : BitVec Format.binary64.numBits} (hleast : 1 ≤ (unpackExponent b).toNat)
    (hgreatest : (unpackExponent b).toNat ≤ 2046) :
    IsBetween ((unpackExponent b).toNat - 1075) ((unpackExponent b).toNat - 1075)
      (UnpackedFloat.unpack Format.binary64 b) := by
  have hbias : (Format.binary64.exponentBias : Int) = 1023 := rfl
  rw [UnpackedFloat.unpack]
  dsimp only
  split
  · rename_i hones
    rw [hones] at hgreatest
    exact absurd hgreatest (by decide)
  · split
    · rename_i hzero
      rw [hzero] at hleast
      exact absurd hleast (by decide)
    · exact ⟨log2_significand _, by omega, by omega⟩

/-- Numbers that are neither too large nor too small for their 53 bits are packed as they are. -/
theorem isBetween_unpack_pack {least greatest : Int} {u : UnpackedFloat} (h : IsBetween least greatest u)
    (hleast : -1074 ≤ least) (hgreatest : greatest ≤ 971) : IsBetween least greatest (Float.Model.pack u).unpack := by
  cases u with
  | finite s m e hm =>
    obtain ⟨hlog, he, he'⟩ := h
    have hbias : (Format.binary64.exponentBias : Int) = 1023 := rfl
    have hexponent : (unpackExponent (UnpackedFloat.pack Format.binary64 (.finite s m e hm))).toNat =
        (e + 1075).toNat := by
      rw [UnpackedFloat.pack]
      dsimp only
      rw [if_neg (by omega), if_pos (by rw [hlog]; rfl), unpackExponent_packComponents, BitVec.toNat_ofNat,
        Nat.mod_eq_of_lt (by omega)]
      omega
    have hunpack := isBetween_unpack (b := UnpackedFloat.pack Format.binary64 (.finite s m e hm)) (by omega) (by omega)
    exact hunpack.mono (by omega) (by omega)
  | _ => exact h.elim

theorem isBetween_neg {least greatest : Int} {u : UnpackedFloat} (h : IsBetween least greatest u) :
    IsBetween least greatest u.neg := by
  cases u <;> exact h

/-! ### Integers -/

theorem isBetween_mul_finite {s s' : Sign} {m m' : Nat} {e e' : Int} {h : 0 < m} {h' : 0 < m'}
    (hm : 52 ≤ (m * m').log2) (he : -1022 ≤ (m * m').log2 + (e + e')) :
    IsBetween ((m * m').log2 + (e + e') - 52) ((m * m').log2 + (e + e') - 51)
      (UnpackedFloat.mul Format.binary64 (.finite s m e h) (.finite s' m' e' h')) :=
  isBetween_roundWithAccuracy _ hm he

theorem isBetween_mul_one {least greatest : Int} {u : UnpackedFloat} (h : IsBetween least greatest u)
    (hleast : -1000 ≤ least) : IsBetween least (greatest + 1)
      (UnpackedFloat.mul Format.binary64 u (.finite .positive (2 ^ 52) (-52) (by decide))) := by
  cases u with
  | finite s m e hm =>
    obtain ⟨hlog, he, he'⟩ := h
    have hwidened := log2_mul_two_pow hm.ne' 52
    exact (isBetween_mul_finite (by omega) (by omega)).mono (by omega) (by omega)
  | _ => exact h.elim

theorem isBetween_ofScientific {n : Nat} (h : n ≠ 0) :
    IsBetween (n.log2 - 52) (n.log2 - 51) (UnpackedFloat.ofScientific Format.binary64 n 0) := by
  have hpower : (2 : Int) ^ Format.binary64.exponentBits = 2048 := rfl
  have hbits : Format.binary64.mantissaBits = 53 := rfl
  have hmantissa : (n <<< Format.binary64.mantissaBits * 10 ^ (0 : Int).toNat).log2 = n.log2 + 53 := by
    rw [hbits, Int.toNat_zero, pow_zero, Nat.mul_one, Nat.shiftLeft_eq, log2_mul_two_pow h]
  rw [UnpackedFloat.ofScientific]
  split
  · contradiction
  · rw [hpower, if_neg (by decide), if_neg (by omega), if_pos (by decide)]
    refine (isBetween_mul_finite ?_ ?_).mono ?_ ?_ <;> rw [hmantissa] <;> omega

/-- Small numbers are exact, and multiplied by one. -/
theorem isBetween_unpack_ofNat_of_lt {n : Nat} (h : n ≠ 0) (hn : n < 2 ^ 53) :
    IsBetween (n.log2 - 52) (n.log2 - 50) (Float.ofNat n).toModel.unpack := by
  have hlog : n.log2 < 53 := (Nat.log2_lt h).2 hn
  have hone : Float.exactlyRepresentablePowersOfTen[0].toModel.unpack =
      .finite .positive (2 ^ 52) (-52) (by decide) := rfl
  have hword : n.toUInt64.toNat = n := by
    rw [UInt64.toNat_ofNat']
    omega
  have hexact : IsBetween (n.log2 - 52) (n.log2 - 51) n.toUInt64.toFloat.toModel.unpack := by
    refine isBetween_unpack_pack ?_ (by omega) (by omega)
    rw [UnpackedFloat.ofUInt64, hword]
    exact isBetween_ofNat h
  show IsBetween _ _ (Float.ofScientific n false 0).toModel.unpack
  rw [Float.ofScientific, dif_pos ⟨hn, Nat.zero_le 22⟩]
  refine isBetween_unpack_pack ?_ (by omega) (by omega)
  rw [hone]
  exact (isBetween_mul_one hexact (by omega)).mono le_rfl (by omega)

/-- Others are rounded as decimals. -/
theorem unpack_ofNat_of_le {n : Nat} (hn : 2 ^ 53 ≤ n) : (Float.ofNat n).toModel.unpack =
    (Float.Model.pack (UnpackedFloat.ofScientific Format.binary64 n 0)).unpack := by
  show (Float.ofScientific n false 0).toModel.unpack = _
  rw [Float.ofScientific, dif_neg (by omega)]
  rfl

theorem isLarge_unpack_ofNat {n : Nat} (h : 2 ≤ n) : IsLarge (Float.ofNat n).toModel.unpack := by
  have hlog : 1 ≤ n.log2 := (Nat.le_log2 (by omega)).2 h
  by_cases hn : n < 2 ^ 53
  · exact (isBetween_unpack_ofNat_of_lt (by omega) hn).isLarge (by omega)
  · rw [unpack_ofNat_of_le (by omega)]
    exact isLarge_unpack_pack ((isBetween_ofScientific (by omega)).isLarge (by omega))

theorem isBetween_unpack_ofNat {n : Nat} (h : n ≠ 0) (hlog : n.log2 < 1022) :
    IsBetween (n.log2 - 52) (n.log2 - 50) (Float.ofNat n).toModel.unpack := by
  by_cases hn : n < 2 ^ 53
  · exact isBetween_unpack_ofNat_of_lt h hn
  · rw [unpack_ofNat_of_le (by omega)]
    exact (isBetween_unpack_pack (isBetween_ofScientific h) (by omega) (by omega)).mono le_rfl (by omega)

theorem isFinite_of_isBetween {least greatest : Int} {x : Float} (h : IsBetween least greatest x.toModel.unpack) :
    x.isFinite = true := by
  show x.toModel.unpack.isFinite = true
  cases hx : x.toModel.unpack with
  | finite s m e hm => rfl
  | _ => rw [hx] at h; exact h.elim

theorem isFinite_ofInt {p : Int} (h : p.natAbs.log2 < 1022) : (Float.ofInt p).isFinite = true := by
  match p with
  | .ofNat 0 => rfl
  | .ofNat (n + 1) => exact isFinite_of_isBetween (isBetween_unpack_ofNat (Nat.succ_ne_zero n) h)
  | .negSucc n =>
    have hlog : (n + 1).log2 < 1022 := h
    have hbetween := isBetween_unpack_ofNat (n := n + 1) (Nat.succ_ne_zero n) hlog
    have hpacked := isBetween_unpack_pack (isBetween_neg hbetween) (by omega) (by omega)
    exact isFinite_of_isBetween hpacked

theorem ofInt_eq_neg_one_iff {p : Int} : Float.ofInt p = -1.0 ↔ p = -1 := by
  have hunpack : (-1.0 : Float).toModel.unpack = .finite .negative (2 ^ 52) (-52) (by decide) := rfl
  refine ⟨fun h => ?_, fun h => h ▸ rfl⟩
  match p with
  | .ofNat n =>
    have hpositive := isPositive_unpack_ofNat n
    rw [show Float.ofNat n = -1.0 from h, hunpack] at hpositive
    cases hpositive
  | .negSucc 0 => rfl
  | .negSucc (n + 1) =>
    have hlarge : IsLarge (Float.neg (Float.ofNat (n + 2))).toModel.unpack :=
      isLarge_unpack_pack (isLarge_neg (isLarge_unpack_ofNat (Nat.le_add_left 2 n)))
    rw [show Float.neg (Float.ofNat (n + 2)) = -1.0 from h, hunpack] at hlarge
    exact absurd hlarge.2 (by decide)

end RunCharts.Binary64
