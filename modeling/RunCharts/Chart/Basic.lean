import RunCharts.Variant

/-! # Bar charts

A chart holds what is drawn, in the units of the data. Its numbers are of any type, so that the range of
the y axis can be reasoned about over exact numbers as well. Bars are filled from a qualitative palette of soft
colors, error bars are drawn in one of strong colors. -/

namespace RunCharts

/-! ### Colors -/

structure Color where
  red : UInt8
  green : UInt8
  blue : UInt8
deriving DecidableEq, Repr

namespace Color

def hexByte (part : UInt8) : List Char :=
  [part.toNat / 16, part.toNat % 16].map fun digit => (Nat.digitChar digit).toUpper

/-- A color as `#RRGGBB`. -/
def hex (color : Color) : String :=
  String.ofList ('#' :: (hexByte color.red ++ hexByte color.green ++ hexByte color.blue))

def black : Color := ⟨0, 0, 0⟩

def white : Color := ⟨255, 255, 255⟩

/-- Soft colors, for bars. -/
def soft : List Color :=
  [⟨102, 194, 165⟩, ⟨252, 141, 98⟩, ⟨141, 160, 203⟩, ⟨231, 138, 195⟩, ⟨166, 216, 84⟩, ⟨255, 217, 47⟩,
    ⟨229, 196, 148⟩, ⟨179, 179, 179⟩]

/-- Strong colors, for error bars. -/
def strong : List Color :=
  [⟨228, 26, 28⟩, ⟨55, 126, 184⟩, ⟨77, 175, 74⟩, ⟨152, 78, 163⟩, ⟨255, 127, 0⟩, ⟨255, 255, 51⟩,
    ⟨166, 86, 40⟩, ⟨247, 129, 191⟩, ⟨153, 153, 153⟩]

/-- The color with an index, counted around a palette. -/
def cycle (palette : List Color) (i : Nat) : Color := palette[i % palette.length]?.getD black

end Color

def Variant.barColor : Variant → Color
  | lazy => Color.cycle Color.soft 0
  | nonLazy => Color.cycle Color.soft 1

def Variant.errorColor : Variant → Color
  | lazy => Color.cycle Color.strong 2
  | nonLazy => Color.cycle Color.strong 3

/-! ### Charts -/

/-- A bar from zero to the mean, with an error bar one deviation to either side of it. -/
structure Bar (R : Type) where
  x : R
  mean : R
  stdDev : R
  color : Color

/-- Bars under one entry of the legend, if they have one. -/
structure Series (R : Type) where
  label : Option String
  errorColor : Color
  bars : List (Bar R)

/-- How a bar lies to its position. -/
inductive Align where
  /-- The position is the middle of the bar. -/
  | center
  /-- The position is the left edge of the bar. -/
  | edge
deriving DecidableEq, Repr

/-- The range of the y axis. -/
inductive YRange (R : Type) where
  | fixed (low high : R)
  /-- From zero to above the highest error bar, and further by the headroom. -/
  | fitted (headroom : R)

structure Chart (R : Type) where
  series : List (Series R)
  barWidth : R
  align : Align
  xRange : R × R
  yRange : YRange R
  ticks : List (R × String)
  xLabel : Option String
  yLabel : String
  /-- Each mean is written above its bar. -/
  annotate : Bool

variable {R : Type}

/-- Where the error bar of a bar ends. -/
def Bar.top [Add R] (bar : Bar R) : R := bar.mean + bar.stdDev

section

variable [OfNat R 0] [LT R] [DecidableLT R]

/-- The highest of the numbers and zero; what cannot be compared is passed over. -/
def highest (tops : List R) : R :=
  tops.foldl (fun high top => if high < top then top else high) 0

/-- The upper end of a y axis that leaves a twentieth and the headroom above the tops. It ends at one where
that would not be above zero. -/
def fittedTop [Add R] [Mul R] [OfNat R 1] [OfScientific R] (headroom : R) (tops : List R) : R :=
  let high := highest tops * 1.05 + headroom
  if 0 < high then high else 1

end

namespace Chart

def bars (chart : Chart R) : List (Bar R) := chart.series.flatMap Series.bars

/-- The ends of the y axis. -/
def yBounds [OfNat R 0] [LT R] [DecidableLT R] [Add R] [Mul R] [OfNat R 1] [OfScientific R] (chart : Chart R) :
    R × R :=
  match chart.yRange with
  | .fixed low high => (low, high)
  | .fitted headroom => (0, fittedTop headroom (chart.bars.map Bar.top))

def span (chart : Chart Float) (x : Float) : Float × Float :=
  match chart.align with
  | .center => (x - chart.barWidth / 2.0, x + chart.barWidth / 2.0)
  | .edge => (x, x + chart.barWidth)

def center (chart : Chart Float) (x : Float) : Float :=
  let (left, right) := chart.span x
  (left + right) / 2.0

end Chart

end RunCharts
