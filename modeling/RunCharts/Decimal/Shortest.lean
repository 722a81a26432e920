import RunCharts.Decimal.Binary64

/-! # The fewest digits that read back

A decimal reads back as a double when it lies among the reals that round to it: from halfway to the
double below to halfway to the double above, the ends included exactly when the significand is even.
`shortest` tries the decimal grids from the coarsest on and takes the first neighbour of the value
that reads back, the closer one if both do. -/

namespace RunCharts.Decimal

/-- Where a decimal goes that is equally close to both neighbours. -/
inductive Tie where
  | toEven
  | up
deriving DecidableEq, Repr

/-- The quotient `value / 10^exponent` as a quotient of naturals. -/
def Magnitude.overPowerOfTen (x : Magnitude) (exponent : Int) : Nat × Nat :=
  let (num, den) := x.ratio
  (num * Nat.pow 10 (-exponent).toNat, den * Nat.pow 10 exponent.toNat)

/-- Whether the decimal lies among the reals that round to the value. -/
def Magnitude.readsBack (x : Magnitude) (d : Decimal) : Bool :=
  -- in quarters of a unit in the last place
  let below := if x.narrowBelow then 4 * x.significand - 1 else 4 * x.significand - 2
  let above := 4 * x.significand + 2
  let (unitNum, unitDen) := Magnitude.overPowerOfTen ⟨1, x.exponent - 2⟩ d.exponent
  let value := d.digits * unitDen
  if x.significand % 2 = 0 then below * unitNum ≤ value && value ≤ above * unitNum
  else below * unitNum < value && value < above * unitNum

def digitCount (n : Nat) : Nat := (Nat.toDigits 10 n).length

/-- The least `k` with `value < 10^k`, for a value other than zero. -/
def Magnitude.scale (x : Magnitude) : Int :=
  let (num, den) := x.ratio
  if den ≤ num then digitCount (num / den) else 1 - (digitCount ((den - 1) / num) : Int)

/-- The neighbour of the value on the grid of `10^exponent` that reads back, the closer one if both do. -/
def Magnitude.onGrid? (x : Magnitude) (tie : Tie) (exponent : Int) : Option Decimal :=
  -- in units of the grid the value is `num / den`
  let (num, den) := x.overPowerOfTen exponent
  let low : Decimal := ⟨num / den, exponent⟩
  let high : Decimal := ⟨num / den + 1, exponent⟩
  match x.readsBack low, x.readsBack high with
  | false, false => none
  | true, false => some low
  | false, true => some high
  | true, true =>
    match compare (2 * (num % den)) den with
    | .lt => some low
    | .gt => some high
    | .eq => if tie = .toEven ∧ low.digits % 2 = 0 then some low else some high

/-- The same decimal without zeros at the end of its digits. -/
def strip (d : Decimal) : Decimal :=
  let zeros := ((Nat.toDigits 10 d.digits).reverse.takeWhile (· == '0')).length
  if d.digits = 0 then ⟨0, 0⟩ else ⟨d.digits / Nat.pow 10 zeros, d.exponent + zeros⟩

/-- The exact value as a decimal. -/
def Magnitude.exact (x : Magnitude) : Decimal :=
  if 0 ≤ x.exponent then ⟨x.significand * Nat.pow 2 x.exponent.toNat, 0⟩
  else ⟨x.significand * Nat.pow 5 (-x.exponent).toNat, x.exponent⟩

/-- The decimal with the fewest digits that reads back as the value. Seventeen digits always suffice. -/
def Magnitude.shortest (x : Magnitude) (tie : Tie) : Decimal :=
  if x.significand = 0 then ⟨0, 0⟩
  else
    let grids := (List.range 17).map fun n => x.scale - (n + 1 : Nat)
    ((grids.findSome? (x.onGrid? tie)).getD x.exact).strip

end RunCharts.Decimal
