import RunCharts.Axis
import RunCharts.Chart.Basic

/-! # Drawings

A drawing is a list of elements on a canvas, and its text is that of an SVG document with one element
after the other. -/

namespace RunCharts.Svg

structure Point where
  x : Pixel
  y : Pixel
deriving DecidableEq

/-- How much of what lies below is covered, in tenths. -/
structure Opacity where
  tenths : Nat := 10
deriving DecidableEq

def Opacity.render (opacity : Opacity) : String :=
  if opacity.tenths = 10 then "1" else s!"0.{opacity.tenths}"

/-- Which end of a text lies at its point. -/
inductive Anchor where
  | start
  | middle
  | finish
deriving DecidableEq

def Anchor.render : Anchor → String
  | start => "start"
  | middle => "middle"
  | finish => "end"

/-- Which height of a text lies at its point. -/
inductive Rise where
  | top
  | center
  | bottom
deriving DecidableEq

/-- The shift that brings that height of a text to its point. -/
def Rise.render : Rise → String
  | top => "0.76em"
  | center => "0.5ex"
  | bottom => "-0.5ex"

inductive TextSize where
  | title
  | label
  | note
deriving DecidableEq

/-- The size in pixels of the font's em: 16, 14 or 12 for the line, divided by 1.24. -/
def TextSize.render : TextSize → String
  | title => "12.903225806451614"
  | label => "11.290322580645162"
  | note => "9.67741935483871"

structure Text where
  content : String
  at_ : Point
  rise : Rise
  anchor : Anchor
  size : TextSize
  /-- Turned to be read from bottom to top. -/
  turned : Bool := false
deriving DecidableEq

/-- What is drawn. -/
inductive Element where
  /-- A filled rectangle, by two opposite corners. -/
  | rect (a b : Point) (fill : Color) (opacity : Opacity)
  | line (a b : Point) (stroke : Color) (opacity : Opacity)
  /-- A black line through points. -/
  | polyline (points : List Point)
  /-- A ring. -/
  | circle (center : Point) (radius : Nat) (stroke : Color)
  | text (label : Text)
deriving DecidableEq

/-- A character of a text, by its name where it would be taken for markup. -/
def escapeChar (c : Char) : List Char :=
  match c with
  | '&' => "&amp;".toList
  | '<' => "&lt;".toList
  | '>' => "&gt;".toList
  | '"' => "&quot;".toList
  | '\'' => "&apos;".toList
  | c => [c]

/-- A text with the characters named that would be taken for markup. -/
def escape (text : String) : String := String.ofList (text.toList.flatMap escapeChar)

/-- A tag's name and attributes. -/
def tagText (name : String) (fields : List (String × String)) : String :=
  name ++ String.join (fields.map fun field => s!" {field.1}=\"{field.2}\"")

/-- A tag without content. -/
def emptyTag (name : String) (fields : List (String × String)) : String := s!"<{tagText name fields}/>\n"

def coordinate (pixel : Pixel) : String := toString pixel.toInt

def Text.render (text : Text) : String :=
  let x := coordinate text.at_.x
  let y := coordinate text.at_.y
  let turn := if text.turned then [("transform", s!"rotate(270, {x}, {y})")] else []
  let fields := [("x", x), ("y", y), ("dy", text.rise.render), ("text-anchor", text.anchor.render),
    ("font-family", "sans-serif"), ("font-size", text.size.render), ("opacity", "1"),
    ("fill", Color.black.hex)] ++ turn
  let tag := tagText "text" fields
  s!"<{tag}>\n{escape text.content}\n</text>\n"

/-- The markup of an element, on lines of its own. -/
def Element.render : Element → String
  | rect a b fill opacity =>
    emptyTag "rect" [("x", coordinate (min a.x b.x)), ("y", coordinate (min a.y b.y)),
      ("width", coordinate (max a.x b.x - min a.x b.x)),
      ("height", coordinate (max a.y b.y - min a.y b.y)),
      ("opacity", opacity.render), ("fill", fill.hex), ("stroke", "none")]
  | line a b stroke opacity =>
    emptyTag "line" [("opacity", opacity.render), ("stroke", stroke.hex), ("stroke-width", "1"),
      ("x1", coordinate a.x), ("y1", coordinate a.y), ("x2", coordinate b.x),
      ("y2", coordinate b.y)]
  | polyline points =>
    emptyTag "polyline" [("fill", "none"), ("opacity", "1"), ("stroke", Color.black.hex),
      ("stroke-width", "1"),
      ("points", String.join (points.map fun p => coordinate p.x ++ "," ++ coordinate p.y ++ " "))]
  | circle center radius stroke =>
    emptyTag "circle" [("cx", coordinate center.x), ("cy", coordinate center.y), ("r", toString radius),
      ("opacity", "1"), ("fill", "none"), ("stroke", stroke.hex), ("stroke-width", "1")]
  | text label => label.render

structure Size where
  width : Nat
  height : Nat
deriving DecidableEq, Repr

def document (size : Size) (elements : List Element) : String :=
  let tag := tagText "svg" [("width", toString size.width), ("height", toString size.height),
    ("viewBox", s!"0 0 {size.width} {size.height}"), ("xmlns", "http://www.w3.org/2000/svg")]
  s!"<{tag}>\n" ++ String.join (elements.map Element.render) ++ "</svg>\n"

end RunCharts.Svg
