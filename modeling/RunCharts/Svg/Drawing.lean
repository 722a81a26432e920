import RunCharts.Axis
import RunCharts.Chart.Basic
import RunCharts.Decimal.Style
import RunCharts.Svg.Element

/-! # Drawing a bar chart

`draw` lists the elements of a chart in the order in which they cover each other: the background with
fine white lines, axis titles, grid and axes, the bars of each series with error bars and notes, tick
labels and the legend. -/

namespace RunCharts.Svg

/-- The area of the bars on a canvas, and the axes that map data to it. -/
structure Frame where
  size : Size
  left : Pixel
  top : Pixel
  right : Pixel
  bottom : Pixel
  xAxis : Axis
  yAxis : Axis

/-- The nearest pixel that is not outside the bounds. -/
def clamp (low high pixel : Pixel) : Pixel :=
  if pixel < low then low else if high < pixel then high else pixel

namespace Frame

/-- The frame of a chart: room for the y axis on the left, for tick labels and the title of the x axis below,
and a margin. -/
def of (chart : Chart Float) (size : Size) : Frame :=
  let right := Int32.ofNat size.width - 10
  let bottom := Int32.ofNat size.height - 10 - (if chart.xLabel.isSome then 60 else 40)
  let (low, high) := chart.yBounds
  { size := size, left := 80, top := 10, right := right, bottom := bottom
    xAxis := ⟨chart.xRange.1, chart.xRange.2, 80, right - 1⟩
    yAxis := ⟨low, high, bottom - 1, 10⟩ }

/-- The pixel of a point of the data, moved to the border of the frame if it lies outside. -/
def inside (frame : Frame) (point : Point) : Point :=
  ⟨clamp frame.left frame.right point.x, clamp frame.top frame.bottom point.y⟩

/-- Where a point of the data is drawn. -/
def place (frame : Frame) (x y : Float) : Point :=
  frame.inside ⟨frame.xAxis.pixel x, frame.yAxis.pixel y⟩

/-- The length of the ticks on the axes. -/
def tick (frame : Frame) : Pixel :=
  let short := min (frame.right - frame.left) (frame.bottom - frame.top)
  min 5 (0.05 * short.toFloat).round.toInt32

/-- Lines across the frame at round values. -/
def gridLines (frame : Frame) (most : Nat) (stroke : Color) (opacity : Opacity) : List Element :=
  (Axis.keys frame.yAxis.low frame.yAxis.high most).map fun value =>
    let y := frame.yAxis.pixel value
    .line ⟨frame.left, y⟩ ⟨frame.right - 1, y⟩ stroke opacity

def titles (frame : Frame) (chart : Chart Float) : List Element :=
  let yTitle : Text := {
    content := chart.yLabel
    at_ := ⟨10, frame.top + (frame.bottom - frame.top) / 2⟩
    rise := .top
    anchor := .middle
    size := .title
    turned := true }
  let xTitle (label : String) : Text := {
    content := label
    at_ := ⟨frame.left + (frame.right - frame.left) / 2, Int32.ofNat frame.size.height - 10⟩
    rise := .bottom
    anchor := .middle
    size := .title }
  .text yTitle :: (chart.xLabel.map (Element.text ∘ xTitle)).toList

/-- The y axis with its labels. -/
def verticalAxis (frame : Frame) : List Element :=
  let x := frame.left - 1
  let mark (value : Float) : List Element :=
    let y := frame.yAxis.pixel value
    if frame.top ≤ y ∧ y ≤ frame.bottom - 1 then
      .text ⟨Axis.label value, ⟨frame.left - 2 * frame.tick, y⟩, .center, .finish, .label, false⟩ ::
        (if frame.tick = 0 then [] else [.polyline [⟨x - frame.tick, y⟩, ⟨x, y⟩]])
    else []
  .polyline [⟨x, frame.top⟩, ⟨x, frame.bottom - 1⟩] ::
    (Axis.keys frame.yAxis.low frame.yAxis.high 11).flatMap mark

/-- The x axis; its labels are left empty here. -/
def horizontalAxis (frame : Frame) : List Element :=
  let y := frame.bottom
  let mark (value : Float) : List Element :=
    let x := frame.xAxis.pixel value
    if frame.left ≤ x ∧ x ≤ frame.right - 1 then
      .text ⟨"", ⟨x, y + 2 * frame.tick⟩, .top, .middle, .label, false⟩ ::
        (if frame.tick = 0 then [] else [.polyline [⟨x, y⟩, ⟨x, y + frame.tick⟩]])
    else []
  .polyline [⟨frame.left, y⟩, ⟨frame.right - 1, y⟩] ::
    (Axis.keys frame.xAxis.low frame.xAxis.high 11).flatMap mark

def bar (frame : Frame) (chart : Chart Float) (bar : Bar Float) : Element :=
  let (left, right) := chart.span bar.x
  .rect (frame.place left 0.0) (frame.place right bar.mean) bar.color {}

/-- An error bar with a ring at the mean. -/
def errorBar (frame : Frame) (chart : Chart Float) (stroke : Color) (bar : Bar Float) : List Element :=
  let x := chart.center bar.x
  let low := frame.place x (bar.mean - bar.stdDev)
  let high := frame.place x (bar.mean + bar.stdDev)
  [.line ⟨low.x - 4, low.y⟩ ⟨low.x + 4, low.y⟩ stroke {},
    .line ⟨high.x - 4, high.y⟩ ⟨high.x + 4, high.y⟩ stroke {},
    .line low high stroke {},
    .circle (frame.place x bar.mean) 4 stroke]

/-- The mean of a bar, written above it. -/
def note (frame : Frame) (chart : Chart Float) (bar : Bar Float) : Element :=
  let point := frame.place (chart.center bar.x) bar.mean
  .text ⟨Decimal.fixed 2 bar.mean, ⟨point.x, point.y - 4⟩, .bottom, .middle, .note, false⟩

/-- The bars of a series, then their error bars, then their notes. -/
def series (frame : Frame) (chart : Chart Float) (series : Series Float) : List Element :=
  series.bars.map (frame.bar chart) ++ series.bars.flatMap (frame.errorBar chart series.errorColor) ++
    (if chart.annotate then series.bars.map (frame.note chart) else [])

/-- The label of a tick, below the frame. -/
def tickLabel (frame : Frame) (tick : Float × String) : Element :=
  let x := clamp 0 (Int32.ofNat frame.size.width) (frame.xAxis.pixel tick.1)
  let y := clamp 0 (Int32.ofNat frame.size.height) (frame.yAxis.pixel frame.yAxis.low + 6)
  .text ⟨tick.2, ⟨x, y⟩, .top, .middle, .label, false⟩

/-- The width that is kept for a text in the legend: seven tenths of an em for each byte. -/
def textWidth (text : String) : Pixel :=
  (14.0 / 1.24 / 1.24 * 0.7 * Float.ofNat text.utf8ByteSize).round.toInt32

/-- The distance of the lines of the legend from its first, by index. -/
def legendRow (start : Float) (i : Nat) : Pixel := (start + 17.5 * Float.ofNat i).round.toInt32

/-- The legend in the upper right corner: its background, then the labels, then the colors of the series
that have one. -/
def legend (frame : Frame) (chart : Chart Float) : List Element :=
  let entries := chart.series.filterMap fun series => series.label.map fun label =>
    (label, (series.bars.head?.map Bar.color).getD Color.black)
  match entries with
  | [] => []
  | _ :: rest =>
    let width := (entries.map fun entry => textWidth entry.1).foldl max 0 + 50
    let left := frame.right - width - 5
    let top := frame.top + 5
    let corner := frame.inside ⟨left + 40, top + 10⟩
    let bottom := top + 31 + legendRow 0.0 rest.length
    let background : Element :=
      .rect (frame.inside ⟨left, top⟩) (frame.inside ⟨left + width, bottom⟩) Color.white ⟨8⟩
    let label (i : Nat) (entry : String × Color) : Element :=
      .text ⟨entry.1, ⟨corner.x, legendRow corner.y.toFloat i⟩, .top, .start, .label, false⟩
    let mark (i : Nat) (entry : String × Color) : Element :=
      let middle := frame.top + (2 * legendRow 15.0 i + 11) / 2
      .rect (frame.inside ⟨left + 10, middle - 5⟩) (frame.inside ⟨left + 20, middle + 5⟩) entry.2 {}
    background :: (entries.mapIdx label ++ entries.mapIdx mark)

end Frame

/-- The elements of a chart, from the back to the front. -/
def draw (chart : Chart Float) (size : Size) : List Element :=
  let frame := Frame.of chart size
  .rect ⟨0, 0⟩ ⟨Int32.ofNat size.width, Int32.ofNat size.height⟩ Color.white {} ::
    (frame.gridLines 110 Color.white {} ++ frame.titles chart ++ frame.gridLines 11 Color.black ⟨2⟩ ++
      frame.verticalAxis ++ frame.horizontalAxis ++ chart.series.flatMap (frame.series chart) ++
      chart.ticks.map frame.tickLabel ++ frame.legend chart)

/-- The drawing of a chart as an SVG document. -/
def render (chart : Chart Float) (size : Size) : String := document size (draw chart size)

end RunCharts.Svg
