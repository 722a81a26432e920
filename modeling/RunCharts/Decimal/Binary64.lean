/-! # Double-precision numbers, taken apart

A finite double is `±m · 2^q` with natural `m`. Everything that is printed or cut to an integer is
computed from `m` and `q` in exact arithmetic. -/

namespace RunCharts

/-- The decimal `digits · 10^exponent`. -/
structure Decimal where
  digits : Nat
  exponent : Int
deriving DecidableEq, Repr

namespace Decimal

/-- The absolute value `significand · 2^exponent` of a finite double. -/
structure Magnitude where
  significand : Nat
  exponent : Int
deriving DecidableEq, Repr

/-- The least significand of 53 bits. The highest bit is not stored with a double. -/
def hiddenBit : Nat := 0x10000000000000

/-- What a double stands for. -/
inductive Binary64 where
  | nan
  | infinite (negative : Bool)
  | finite (negative : Bool) (magnitude : Magnitude)
deriving DecidableEq, Repr

namespace Binary64

/-- The double with the given bits: one for the sign, eleven for the exponent, 52 for the fraction. -/
def ofBits (bits : UInt64) : Binary64 :=
  let negative := 0x8000000000000000 ≤ bits.toNat
  let biased : Nat := bits.toNat / hiddenBit % 0x800
  let fraction : Nat := bits.toNat % hiddenBit
  if biased = 2047 then
    if fraction = 0 then .infinite negative else .nan
  else if biased = 0 then .finite negative ⟨fraction, -1074⟩
  else .finite negative ⟨hiddenBit + fraction, (biased : Int) - 1075⟩

/-- What a double stands for. -/
def ofFloat (x : Float) : Binary64 := ofBits x.toBits

/-- The number cut toward zero to an integer, and then to the nearest of `least` and `greatest` if it lies
outside them; not a number counts as zero. -/
def toIntClamped (least greatest : Int) : Binary64 → Int
  | nan => 0
  | infinite negative => if negative then least else greatest
  | finite negative ⟨m, q⟩ =>
    let size : Nat := if q < 0 then m / Nat.pow 2 (-q).toNat else m * Nat.pow 2 q.toNat
    let whole : Int := size
    max least (min greatest (if negative then -whole else whole))

end Binary64

namespace Magnitude

/-- The value as a quotient of naturals, with a positive divisor. -/
def ratio (x : Magnitude) : Nat × Nat :=
  (x.significand * Nat.pow 2 x.exponent.toNat, Nat.pow 2 (-x.exponent).toNat)

/-- The gap to the double below is half the gap to the double above. -/
def narrowBelow (x : Magnitude) : Bool :=
  x.significand == hiddenBit && -1074 < x.exponent

end Magnitude

end Decimal

end RunCharts
