import Mathlib
import RunCharts.Decimal.Binary64
import RunCharts.Numeral.Integer

/-! # The whole part of a double

A double is a sign, a natural number and a power of two, as the format of its bits says (`ofFloat_eq`). Cutting it to an
integer takes the rational number that it is toward zero, and from there to the nearest integer between two bounds
(`toIntClamped_ofFloat`). -/

namespace RunCharts

open Float.Model Float.Model.UnpackedFloat

def towardZero (q : ℚ) : Int := if 0 ≤ q then ⌊q⌋ else ⌈q⌉

theorem towardZero_of_nonneg {q : ℚ} (h : 0 ≤ q) : towardZero q = ⌊q⌋ := if_pos h

theorem towardZero_neg (q : ℚ) : towardZero (-q) = -towardZero q := by
  unfold towardZero
  rcases lt_trichotomy q 0 with h | rfl | h
  · rw [if_pos (by linarith), if_neg (by linarith), Int.floor_neg]
  · simp
  · rw [if_neg (by linarith), if_pos h.le, Int.ceil_neg]

/-- The whole part of a natural number times a power of two. -/
theorem floor_mul_two_pow (m : Nat) (e : Int) :
    ⌊(m : ℚ) * 2 ^ e⌋ = ((if e < 0 then m / Nat.pow 2 (-e).toNat else m * Nat.pow 2 e.toNat : Nat) : Int) := by
  split
  · rename_i h
    obtain ⟨n, hn⟩ : ∃ n : Nat, e = -(n : Int) := ⟨(-e).toNat, by omega⟩
    have hdiv : (m : ℚ) * 2 ^ e = ((m : Int) : ℚ) / ((2 ^ n : Nat) : ℚ) := by
      rw [hn, zpow_neg, zpow_natCast, div_eq_mul_inv]
      push_cast
      rfl
    have hexp : (-e).toNat = n := by omega
    rw [hdiv, Rat.floor_intCast_div_natCast, hexp]
    rfl
  · rename_i h
    obtain ⟨n, rfl⟩ : ∃ n : Nat, e = n := ⟨e.toNat, by omega⟩
    have hmul : (m : ℚ) * 2 ^ (n : Int) = ((m * 2 ^ n : Nat) : Int) := by
      rw [zpow_natCast]
      push_cast
      rfl
    rw [hmul, Int.floor_intCast]
    rfl

namespace Decimal.Binary64

def isNegative : Sign → Bool
  | .positive => false
  | .negative => true

/-- The parts of a double under the names of this library. -/
def ofUnpacked : UnpackedFloat → Binary64
  | .notANumber => .nan
  | .infinity s => .infinite (isNegative s)
  | .zero s => .finite (isNegative s) ⟨0, -1074⟩
  | .finite s m e _ => .finite (isNegative s) ⟨m, e⟩

theorem toNat_unpackMantissa (b : BitVec Format.binary64.numBits) :
    (unpackMantissa b).toNat = b.toNat % hiddenBit := by
  unfold unpackMantissa
  simp [hiddenBit]

theorem toNat_unpackExponent (b : BitVec Format.binary64.numBits) :
    (unpackExponent b).toNat = b.toNat / hiddenBit % 0x800 := by
  unfold unpackExponent
  simp [hiddenBit, Nat.shiftRight_eq_div_pow]

theorem toNat_unpackSign (b : BitVec Format.binary64.numBits) :
    (unpackSign b).toNat = b.toNat / 0x8000000000000000 := by
  unfold unpackSign
  have hlt : b.toNat < 2 ^ 64 := b.isLt
  simp [Nat.shiftRight_eq_div_pow]
  omega

theorem isNegative_unpackSign (b : BitVec Format.binary64.numBits) :
    isNegative (Sign.ofBitVec (unpackSign b)) = decide (0x8000000000000000 ≤ b.toNat) := by
  have hsign := toNat_unpackSign b
  have hlt : b.toNat < 2 ^ 64 := b.isLt
  have hzero : unpackSign b = 0#1 ↔ b.toNat < 0x8000000000000000 := by
    rw [← BitVec.toNat_inj, hsign, BitVec.toNat_ofNat]
    omega
  unfold Sign.ofBitVec
  split
  · rename_i h
    simp [isNegative, hzero.1 h]
  · rename_i h
    simp only [isNegative, true_eq_decide_iff]
    have := mt hzero.2 h
    omega

theorem unpackExponent_eq_iff {b : BitVec Format.binary64.numBits} {e : BitVec Format.binary64.exponentBits} :
    unpackExponent b = e ↔ b.toNat / hiddenBit % 0x800 = e.toNat := by
  rw [← BitVec.toNat_inj, toNat_unpackExponent]

theorem unpackMantissa_eq_zero_iff {b : BitVec Format.binary64.numBits} :
    unpackMantissa b = BitVec.ofNat Format.binary64.mantissaBitsWithoutImplicit 0 ↔ b.toNat % hiddenBit = 0 := by
  rw [← BitVec.toNat_inj, toNat_unpackMantissa]
  rfl

theorem ofBits_eq (b : BitVec Format.binary64.numBits) :
    ofBits (UInt64.ofBitVec b) = ofUnpacked (UnpackedFloat.unpack Format.binary64 b) := by
  have hnat : (UInt64.ofBitVec b).toNat = b.toNat := rfl
  have hones : unpackExponent b = -BitVec.ofNat Format.binary64.exponentBits 1 ↔ b.toNat / hiddenBit % 0x800 = 2047 :=
    unpackExponent_eq_iff
  have hleast : unpackExponent b = BitVec.ofNat Format.binary64.exponentBits 0 ↔ b.toNat / hiddenBit % 0x800 = 0 :=
    unpackExponent_eq_iff
  have hzero := unpackMantissa_eq_zero_iff (b := b)
  unfold ofBits UnpackedFloat.unpack
  dsimp only
  rw [hnat, ← isNegative_unpackSign]
  by_cases h : b.toNat / hiddenBit % 0x800 = 2047
  · rw [if_pos h, if_pos (hones.2 h)]
    by_cases hfraction : b.toNat % hiddenBit = 0
    · rw [if_pos hfraction, if_pos (hzero.2 hfraction), ofUnpacked]
    · rw [if_neg hfraction, if_neg (mt hzero.1 hfraction), ofUnpacked]
  rw [if_neg h, if_neg (mt hones.1 h)]
  by_cases h : b.toNat / hiddenBit % 0x800 = 0
  · rw [if_pos h, if_pos (hleast.2 h)]
    by_cases hfraction : b.toNat % hiddenBit = 0
    · rw [dif_pos (hzero.2 hfraction), hfraction, ofUnpacked]
    · rw [dif_neg (mt hzero.1 hfraction), ofUnpacked, toNat_unpackMantissa, toNat_unpackExponent, h]
      rfl
  · have hhidden : (1#1 ++ unpackMantissa b).toNat = hiddenBit + b.toNat % hiddenBit := by
      have hlt : (unpackMantissa b).toNat < 2 ^ 52 := (unpackMantissa b).isLt
      rw [BitVec.toNat_append, ← Nat.shiftLeft_add_eq_or_of_lt hlt, toNat_unpackMantissa]
      rfl
    rw [if_neg h, if_neg (mt hleast.1 h), ofUnpacked, hhidden, toNat_unpackExponent]
    rfl

theorem ofFloat_eq (x : Float) : ofFloat x = ofUnpacked x.toModel.unpack := ofBits_eq x.toBits.toBitVec

/-- The rational number that a finite double is. -/
def toRat (x : Float) : ℚ :=
  match x.toModel.unpack with
  | .finite s m e _ => (s.apply m : ℚ) * 2 ^ e
  | _ => 0

theorem toIntClamped_finite (least greatest : Int) (s : Sign) (m : Nat) (e : Int) :
    toIntClamped least greatest (.finite (isNegative s) ⟨m, e⟩) =
      max least (min greatest (towardZero ((s.apply m : ℚ) * 2 ^ e))) := by
  have hwhole := floor_mul_two_pow m e
  have hnonneg : (0 : ℚ) ≤ (m : ℚ) * 2 ^ e := mul_nonneg (Nat.cast_nonneg m) (zpow_nonneg zero_le_two e)
  cases s with
  | positive =>
    rw [Sign.apply, Int.cast_natCast, towardZero_of_nonneg hnonneg, hwhole]
    rfl
  | negative =>
    rw [Sign.apply, Int.cast_neg, Int.cast_natCast, neg_mul, towardZero_neg, towardZero_of_nonneg hnonneg, hwhole]
    rfl

/-- A finite double is cut toward zero and clamped to the bounds. -/
theorem toIntClamped_ofFloat {x : Float} (h : x.isFinite = true) (least greatest : Int) :
    toIntClamped least greatest (ofFloat x) = max least (min greatest (towardZero (toRat x))) := by
  have hfinite : x.toModel.unpack.isFinite = true := h
  unfold toRat
  rw [ofFloat_eq]
  cases hx : x.toModel.unpack with
  | notANumber => rw [hx] at hfinite; cases hfinite
  | infinity s => rw [hx] at hfinite; cases hfinite
  | zero s =>
    have hzero : (s.apply (0 : Nat) : ℚ) * 2 ^ (-1074 : Int) = 0 := by cases s <;> simp [Sign.apply]
    rw [ofUnpacked, toIntClamped_finite, hzero]
  | finite s m e hm => exact toIntClamped_finite least greatest s m e

theorem isFinite_iff {x : Float} : x.isFinite = true ↔ ∃ negative magnitude, ofFloat x = .finite negative magnitude := by
  show x.toModel.unpack.isFinite = true ↔ _
  rw [ofFloat_eq]
  cases x.toModel.unpack with
  | notANumber | infinity s => exact iff_of_false nofun fun ⟨_, _, h⟩ => nomatch h
  | zero s | finite s m e hm => exact iff_of_true rfl ⟨_, _, rfl⟩

end Decimal.Binary64

end RunCharts
