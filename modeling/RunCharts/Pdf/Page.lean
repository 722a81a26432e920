import RunCharts.Decimal.Style
import RunCharts.Svg.Element

/-! # Drawings as PDF pages

A drawing becomes a document with one page of the size of its canvas, one point for each pixel. Text is set
in Helvetica and its width is taken as half an em for each character. A canvas without area cannot be a
page, nor can a drawing with a character that no XML document may hold. -/

namespace RunCharts.Pdf

/-- The characters that an XML document may hold. -/
def isXmlChar (c : Char) : Bool :=
  c ∈ ['\t', '\n', '\r'] || (0x20 ≤ c.toNat && c.toNat ≠ 0xFFFE && c.toNat ≠ 0xFFFF)

/-- Whether an element can stand on a page. -/
def isPrintable : Svg.Element → Bool
  | .text label => label.content.toList.all isXmlChar
  | _ => true

/-- A part of a color, from 0 to 1. -/
def colorPart (part : UInt8) : String := String.ofList (Decimal.placed 3 (part.toNat * 1000 / 255))

def colorText (color : Color) : String :=
  s!"{colorPart color.red} {colorPart color.green} {colorPart color.blue}"

def pointText (x y : Pixel) : String := s!"{x.toInt} {y.toInt}"

def pathText : List Svg.Point → String
  | [] => ""
  | start :: rest =>
    s!"{pointText start.x start.y} m" ++ String.join (rest.map fun p => s!" {pointText p.x p.y} l")

/-- The curve of a circle, a quarter at a time; `handle` is how far the handles of a quarter reach. -/
def circleText (center : Svg.Point) (radius handle : Int) : String :=
  let at_ (x y : Int) : String := s!"{center.x.toInt + x} {center.y.toInt + y}"
  let quarter (a b c : String) : String := s!" {a} {b} {c} c"
  at_ radius 0 ++ " m" ++ quarter (at_ radius handle) (at_ handle radius) (at_ 0 radius) ++
    quarter (at_ (-handle) radius) (at_ (-radius) handle) (at_ (-radius) 0) ++
    quarter (at_ (-radius) (-handle)) (at_ (-handle) (-radius)) (at_ 0 (-radius)) ++
    quarter (at_ handle (-radius)) (at_ radius (-handle)) (at_ radius 0)

/-- A character in a string of the page; one that the font lacks is a question mark. -/
def charText (c : Char) : String :=
  if c = '(' ∨ c = ')' ∨ c = '\\' then String.ofList ['\\', c]
  else if 0x20 ≤ c.toNat ∧ c.toNat ≤ 0x7E then String.ofList [c]
  else if 0xA0 ≤ c.toNat ∧ c.toNat ≤ 0xFF then String.ofList ('\\' :: Nat.toDigits 8 c.toNat)
  else "?"

/-- The size of a text in whole points. -/
def points : Svg.TextSize → Int
  | .title => 13
  | .label => 11
  | .note => 10

/-- How far a text of the given width reaches back from its point. -/
def reachBack (width : Int) : Svg.Anchor → Int
  | .start => 0
  | .middle => width / 2
  | .finish => width

/-- How far the base line of a text lies below its point. -/
def drop (size : Int) : Svg.Rise → Int
  | .top => size * 3 / 4
  | .center => size / 4
  | .bottom => -(size / 4)

/-- The operators that set a text. The page is turned upside down, and so is the text on it. -/
def textText (text : Svg.Text) : String :=
  let size := points text.size
  let back := reachBack (size * text.content.length / 2) text.anchor
  let down := drop size text.rise
  let x := text.at_.x.toInt
  let y := text.at_.y.toInt
  let place := if text.turned then s!"0 -1 -1 0 {x + down} {y + back}" else s!"1 0 0 -1 {x - back} {y + down}"
  let content := String.join (text.content.toList.map charText)
  s!"0 0 0 rg BT /F {size} Tf {place} Tm ({content}) Tj ET"

/-- The operators that draw an element. -/
def elementText : Svg.Element → String
  | .rect a b fill opacity =>
    let size := pointText (max a.x b.x - min a.x b.x) (max a.y b.y - min a.y b.y)
    s!"/O{opacity.tenths} gs {colorText fill} rg {pointText (min a.x b.x) (min a.y b.y)} {size} re f\n"
  | .line a b stroke opacity => s!"/O{opacity.tenths} gs {colorText stroke} RG {pathText [a, b]} S\n"
  | .polyline points => s!"/O10 gs 0 0 0 RG {pathText points} S\n"
  | .circle center radius stroke =>
    s!"/O10 gs {colorText stroke} RG {circleText center radius (radius / 2)} S\n"
  | .text label => s!"/O10 gs {textText label}\n"

/-- The states that set an opacity, for each number of tenths. -/
def opacityStates : String :=
  String.join ((List.range 11).map fun tenths =>
    let share := String.ofList (Decimal.placed 1 tenths)
    s!" /O{tenths} << /ca {share} /CA {share} >>")

/-- The objects of the document, in the order of their numbers. -/
def objects (size : Svg.Size) (elements : List Svg.Element) : List String :=
  let content := s!"1 0 0 -1 0 {size.height} cm\n" ++ String.join (elements.map elementText)
  let resources := s!"<< /Font << /F 5 0 R >> /ExtGState <<{opacityStates} >> >>"
  ["<< /Type /Catalog /Pages 2 0 R >>",
    "<< /Type /Pages /Kids [3 0 R] /Count 1 >>",
    s!"<< /Type /Page /Parent 2 0 R /MediaBox [0 0 {size.width} {size.height}] /Contents 4 0 R " ++
      s!"/Resources {resources} >>",
    s!"<< /Length {content.utf8ByteSize} >>\nstream\n{content}\nendstream",
    "<< /Type /Font /Subtype /Type1 /BaseFont /Helvetica /Encoding /WinAnsiEncoding >>"]

/-- The text of objects, the first of them with the number `number`, and where each starts in a document that
has `start` octets in front of them. -/
def layOut (number start : Nat) : List String → String × List Nat
  | [] => ("", [])
  | object :: rest =>
    let text := s!"{number} 0 obj\n{object}\nendobj\n"
    let (more, starts) := layOut (number + 1) (start + text.utf8ByteSize) rest
    (text ++ more, start :: starts)

/-- A place in the document, in ten digits. -/
def offsetText (offset : Nat) : String :=
  let digits := Nat.toDigits 10 offset
  String.ofList (List.replicate (10 - digits.length) '0' ++ digits)

/-- The document with one page. -/
def documentText (size : Svg.Size) (elements : List Svg.Element) : String :=
  let header := "%PDF-1.7\n"
  let all := objects size elements
  let (body, starts) := layOut 1 header.utf8ByteSize all
  let table := String.join (starts.map fun start => s!"{offsetText start} 00000 n \n")
  let count := all.length + 1
  let tableStart := (header ++ body).utf8ByteSize
  let trailer := s!"<< /Size {count} /Root 1 0 R >>"
  header ++ body ++ s!"xref\n0 {count}\n0000000000 65535 f \n{table}trailer\n{trailer}\n" ++
    s!"startxref\n{tableStart}\n%%EOF\n"

/-- The page of a drawing, if it can be one. -/
def page? (size : Svg.Size) (elements : List Svg.Element) : Option (List UInt8) :=
  if size.width = 0 ∨ size.height = 0 ∨ !elements.all isPrintable then none
  else some (documentText size elements).toUTF8.data.toList

end RunCharts.Pdf
