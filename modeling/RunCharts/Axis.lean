import RunCharts.Decimal.Style

/-! # Axes

An axis maps a range of data linearly to a stretch of pixels. The thousandth of a pixel that is added
before a position is cut to whole pixels keeps positions that are whole but for rounding where they
belong.

`keys low high most` spreads multiples of a round step over a range. The step is a power of ten, or its
half or its fifth, and the finest one that gives at most `most` keys. Such a position is labelled with as
few decimals as keep it within a small tolerance, and at least one. -/

namespace RunCharts

/-- A pixel coordinate. Sums leave the 32 bits on neither side: they wrap around. -/
abbrev Pixel := Int32

/-- A linear axis. -/
structure Axis where
  low : Float
  high : Float
  first : Pixel
  last : Pixel

namespace Axis

/-- The pixel of a value; values outside the range go on past the ends of the stretch. -/
def pixel (axis : Axis) (value : Float) : Pixel :=
  let length := axis.last - axis.first
  let share := (value - axis.low) / (axis.high - axis.low)
  if axis.low == axis.high then length / 2
  else if length = 0 then axis.last
  else if share.isInf then if 0.0 < share then axis.last else axis.first
  else if 0 < length then axis.first + (length.toFloat * share + 0.001).floor.toInt32
  else axis.first + (length.toFloat * share - 0.001).ceil.toInt32

/-! ### Round positions -/

/-- Differences below this one count as none. -/
def tiny : Float := 2.220446049250313e-16

/-- The smaller of two numbers; not a number is passed over. -/
def lesser (a b : Float) : Float := if a.isNaN || b < a then b else a

/-- The greater of two numbers; not a number is passed over. -/
def greater (a b : Float) : Float := if a.isNaN || a < b then b else a

/-- How far a number lies above a multiple of the step; zero where it is all but the next multiple. -/
def remainder (value step : Float) : Float :=
  let rest :=
    if 0.0 < step then value - (value / step).floor * step
    else value - (value / step).ceil * step
  if (rest - step).abs < tiny then 0.0 else rest

/-- The first multiple of the step that is not below the number. -/
def multipleFrom (value step : Float) : Float :=
  let left := value - remainder value step
  if left < value then left + step else left

/-- The last multiple of the step that is not above the number. -/
def multipleUpTo (value step : Float) : Float := value - remainder value step

/-- The range and the number of keys it may get. -/
structure KeyRange where
  low : Float
  high : Float
  most : Float

namespace KeyRange

/-- Whether a `parts`-th of the step would give too many keys. -/
def overfull (range : KeyRange) (step parts : Float) : Bool :=
  let left := multipleFrom range.low (step / parts)
  let right := multipleUpTo range.high (step / parts)
  range.most < (1.0 + (right - left) / step * parts).round

/-- Makes a step finer as long as the keys stay few enough, by at most `decades` powers of ten. `grain` stays
a tenth of the power of ten that the step was made from. -/
def refine (range : KeyRange) : Nat → (step grain : Float) → Float × Float
  | 0, step, grain => (step, grain)
  | decades + 1, step, grain =>
    if range.overfull step 2.0 then (step, grain)
    else if range.overfull step 5.0 then (step / 2.0, grain)
    else if range.overfull step 10.0 then (step / 5.0, grain)
    else range.refine decades (step / 10.0) (grain / 10.0)

/-- The step, and the grain to which keys are counted. -/
def step (range : KeyRange) : Float × Float :=
  let width := range.high - range.low
  let decade := Float.pow 10.0 (width.log / Float.log 10.0).floor
  let coarse := if range.most < 1.0 + (width / decade).floor then decade * 10.0 else decade
  -- doubles span fewer than 700 decades
  range.refine 700 coarse (coarse / 10.0)

/-- At most `n` keys `base + offset` up to `right`, the step apart. -/
def spread (step grain right base : Float) : Nat → (offset : Float) → List Float
  | 0, _ => []
  | n + 1, offset =>
    if -tiny ≤ right - offset - base then
      -- an offset that rounding has carried below the base is moved up by a grain
      let offset := if (offset / grain).round * grain < 0.0 then offset + grain else offset
      (offset + base) :: spread step grain right base n (offset + step)
    else []

end KeyRange

/-- The keys of a range, at most `most` but for rounding. -/
def keys (a b : Float) (most : Nat) : List Float :=
  let range : KeyRange := ⟨lesser a b, greater b a, Float.ofNat most⟩
  if (range.low - range.high).abs < tiny then [range.low]
  else
    let (step, grain) := range.step
    let left := multipleFrom range.low step
    let base := (left / grain).floor * grain
    KeyRange.spread step grain (multipleUpTo range.high step) base (4 * most + 4) (left - base)

/-! ### Labels of positions -/

/-- A number with few decimals close to `x`, and how many it has. The tolerance grows tenfold with each
decimal, and ends the search when it reaches one; `fuel` decimals are never exceeded. -/
def shorten : (fuel : Nat) → (x tolerance : Float) → Float × Nat
  | 0, x, _ => (x, 0)
  | fuel + 1, x, tolerance =>
    if 1.0 ≤ tolerance then (x, 0)
    else if x - x.floor < tolerance then (x.floor, 0)
    else if x.ceil - x < tolerance then (x.ceil, 0)
    else
      let (rest, places) := shorten fuel ((x - x.floor) * 10.0) (tolerance * 10.0)
      (x.floor + rest / 10.0, places + 1)

/-- The label of a position. A negative position that rounds up to zero keeps its sign. -/
def label (value : Float) : String :=
  let (x, places) := shorten 10 value 1e-5
  let size := if x < 0.0 then -x else x
  let whole := (if x < 0.0 then "-" else "") ++ Decimal.fixed 0 size.floor
  let places' := ((size - size.floor) * Float.pow 10.0 (Float.ofNat places)).round
  if places = 0 || places' == 0.0 then whole ++ ".0"
  else
    let digits := (Decimal.fixed 0 places').toList
    let padded := List.replicate (places - digits.length) '0' ++ digits
    whole ++ "." ++ String.ofList (padded.reverse.dropWhile (· = '0')).reverse

end Axis

end RunCharts
