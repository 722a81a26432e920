import Mathlib

/-! # Adding zero to a number

Adding zero to a number of 64 bits gives the number back, unless it is the negative zero (`add_zero_of_ne`). A natural
number has the positive sign, so it stays what it is (`ofNat_add_zero`). -/

namespace RunCharts.Binary64

open Float.Model Float.Model.UnpackedFloat

theorem pack_unpack (f : Float.Model) : Float.Model.pack f.unpack = f := by
  obtain ⟨bits, hvalid⟩ := f
  rw [Float.Model.pack, Float.Model.unpack, Float.Model.mk.injEq]
  exact UInt64.toBitVec_inj.1 (pack_unpack_of_valid hvalid)

theorem add_zero_of_ne {x : Float} (h : x.toModel.unpack ≠ .zero .negative) : x + 0.0 = x := by
  obtain ⟨f⟩ := x
  have hadd : UnpackedFloat.add Format.binary64 f.unpack (.zero .positive) = f.unpack := by
    cases hf : f.unpack with
    | zero s =>
      cases s with
      | negative => exact absurd hf h
      | positive => rfl
    | _ => rfl
  have hzero : (0.0 : Float).toModel.unpack = .zero .positive := rfl
  show Float.ofModel (Float.Model.pack (UnpackedFloat.add Format.binary64 f.unpack (0.0 : Float).toModel.unpack)) = _
  rw [hzero, hadd, pack_unpack]

/-! ### Numbers with the positive sign -/

/-- The number does not have the negative sign; what is no number has none. -/
def IsPositive : UnpackedFloat → Prop
  | .infinity s | .zero s | .finite s _ _ _ => s = .positive
  | .notANumber => True

theorem unpackSign_pack {u : UnpackedFloat} (h : IsPositive u) :
    unpackSign (UnpackedFloat.pack Format.binary64 u) = 0#1 := by
  cases u with
  | notANumber => exact unpackSign_packComponents _ _ _
  | infinity s | zero s =>
    cases h
    exact unpackSign_packComponents _ _ _
  | finite s m e hm =>
    cases h
    rw [UnpackedFloat.pack]
    dsimp only
    split
    · exact unpackSign_packComponents _ _ _
    · split <;> exact unpackSign_packComponents _ _ _

theorem isPositive_unpack {b : BitVec Format.binary64.numBits} (h : unpackSign b = 0#1) :
    IsPositive (UnpackedFloat.unpack Format.binary64 b) := by
  rw [UnpackedFloat.unpack, h]
  dsimp only
  split
  · split
    · rfl
    · trivial
  · split
    · split <;> rfl
    · rfl

theorem isPositive_unpack_pack {u : UnpackedFloat} (h : IsPositive u) : IsPositive (Float.Model.pack u).unpack :=
  isPositive_unpack (unpackSign_pack h)

theorem isPositive_roundWithAccuracy (mantissa : Nat) (exponent : Int) (accuracy : Accuracy) :
    IsPositive (roundWithAccuracy Format.binary64 .positive mantissa exponent accuracy) := by
  rw [roundWithAccuracy]
  dsimp only
  split <;> rfl

theorem isPositive_ofNat (n : Nat) : IsPositive (UnpackedFloat.ofNat Format.binary64 n) := by
  rw [UnpackedFloat.ofNat, UnpackedFloat.ofInt, UnpackedFloat.normalize]
  split
  · rename_i hneg
    exact absurd (Int.compare_eq_lt.1 hneg) (by omega)
  · rfl
  · exact isPositive_roundWithAccuracy _ _ _

theorem isPositive_mul {u v : UnpackedFloat} (hu : IsPositive u) (hv : IsPositive v) :
    IsPositive (UnpackedFloat.mul Format.binary64 u v) := by
  cases u <;> cases v <;> first
    | trivial
    | (cases hu; cases hv; first | rfl | exact isPositive_roundWithAccuracy _ _ _)

theorem isPositive_finite (mantissa : Nat) (exponent : Int) (h : 0 < mantissa) :
    IsPositive (.finite .positive mantissa exponent h) := rfl

theorem isPositive_ofScientific (n : Nat) : IsPositive (UnpackedFloat.ofScientific Format.binary64 n 0) := by
  rw [UnpackedFloat.ofScientific]
  split
  · rfl
  · have hpower : (2 : Int) ^ Format.binary64.exponentBits = 2048 := rfl
    rw [hpower, if_neg (by decide), if_neg (by omega), if_pos (by decide)]
    refine isPositive_mul ?_ ?_
    · exact isPositive_finite _ _ _
    · exact isPositive_finite _ _ _

theorem isPositive_unpack_ofNat (n : Nat) : IsPositive (Float.ofNat n).toModel.unpack := by
  show IsPositive (Float.ofScientific n false 0).toModel.unpack
  rw [Float.ofScientific]
  split
  -- small numbers are exact and multiplied by one, others are rounded as decimals
  · have hone : Float.exactlyRepresentablePowersOfTen[0].toModel.unpack =
        .finite .positive (2 ^ 52) (-52) (by decide) := rfl
    refine isPositive_unpack_pack (isPositive_mul (isPositive_unpack_pack (isPositive_ofNat _)) ?_)
    rw [hone]
    exact isPositive_finite _ _ _
  · exact isPositive_unpack_pack (isPositive_ofScientific n)

theorem ofNat_add_zero (n : Nat) : Float.ofNat n + 0.0 = Float.ofNat n := by
  refine add_zero_of_ne fun hzero => ?_
  have hpositive := isPositive_unpack_ofNat n
  rw [hzero] at hpositive
  cases hpositive

end RunCharts.Binary64
