import RunCharts.Decimal.Shortest

/-! # How a decimal is laid out

Numbers are written with a decimal point and at least one digit on either side of it, or, when they are
very large or very small, with one digit before the point and an exponent. With a set number of places the exact binary
value is rounded to a multiple of the last place; a half goes to the even neighbour. -/

namespace RunCharts.Decimal

/-- The choices of a number format. -/
structure Style where
  /-- The least exponent of the leading digit that is written without an exponent. -/
  plainFrom : Int
  /-- The least exponent of the leading digit from there on that is written with an exponent again. -/
  plainBelow : Int
  /-- A positive exponent carries its sign. -/
  plusSign : Bool
  tie : Tie
deriving Repr

def zeros (n : Nat) : List Char := List.replicate n '0'

/-- The digits with the decimal point after the first `point` of them, filled up with zeros. -/
def pointAfter (digits : List Char) (point : Int) : List Char :=
  if point ≤ 0 then '0' :: '.' :: (zeros (-point).toNat ++ digits)
  else
    let whole := digits.take point.toNat
    let places := digits.drop point.toNat
    whole ++ zeros (point.toNat - digits.length) ++ '.' :: (if places.isEmpty then ['0'] else places)

/-- The digits in scientific notation, `exponent` being that of the leading digit. -/
def scientific (plusSign : Bool) (digits : List Char) (exponent : Int) : List Char :=
  let mantissa := match digits with
    | first :: second :: rest => first :: '.' :: second :: rest
    | short => short
  let sign := if exponent < 0 then ['-'] else if plusSign then ['+'] else []
  mantissa ++ 'e' :: sign ++ Nat.toDigits 10 exponent.natAbs

/-- A decimal without its sign. -/
def Style.layout (style : Style) (d : Decimal) : List Char :=
  let digits := Nat.toDigits 10 d.digits
  let point := d.exponent + digits.length
  if d.digits = 0 then "0.0".toList
  else if style.plainFrom < point ∧ point ≤ style.plainBelow then pointAfter digits point
  else scientific style.plusSign digits (point - 1)

/-- A finite number with the fewest digits that read back. -/
def Style.finite (style : Style) (negative : Bool) (x : Magnitude) : String :=
  String.ofList ((if negative then ['-'] else []) ++ style.layout (x.shortest style.tie))

/-- A number with the fewest digits that read back, the special values as `NaN`, `inf` and `-inf`. -/
def Style.render (style : Style) (x : Float) : String :=
  match Binary64.ofFloat x with
  | .nan => "NaN"
  | .infinite negative => if negative then "-inf" else "inf"
  | .finite negative magnitude => style.finite negative magnitude

/-! ### A set number of places -/

/-- The integer nearest to `num / den`, the even one of two. -/
def roundHalfEven (num den : Nat) : Nat :=
  match compare (2 * (num % den)) den with
  | .lt => num / den
  | .gt => num / den + 1
  | .eq => if num / den % 2 = 0 then num / den else num / den + 1

/-- The digits of `units · 10^-places`, with the point in front of the last `places` of them. -/
def placed (places units : Nat) : List Char :=
  let digits := Nat.toDigits 10 units
  let padded := List.replicate (places + 1 - digits.length) '0' ++ digits
  let whole := padded.take (padded.length - places)
  if places = 0 then whole else whole ++ '.' :: padded.drop (padded.length - places)

/-- A number with `places` decimals, the special values as `NaN`, `inf` and `-inf`. -/
def fixed (places : Nat) (x : Float) : String :=
  match Binary64.ofFloat x with
  | .nan => "NaN"
  | .infinite negative => if negative then "-inf" else "inf"
  | .finite negative magnitude =>
    let (num, den) := magnitude.ratio
    let digits := placed places (roundHalfEven (num * Nat.pow 10 places) den)
    String.ofList (if negative then '-' :: digits else digits)

end RunCharts.Decimal

namespace RunCharts.Report

/-- Numbers in reports are positional from `10^-4` up to `10^16`; elsewhere an exponent follows one digit. -/
def style : Decimal.Style := ⟨-4, 16, false, .up⟩

def number (x : Float) : String := style.render x

end RunCharts.Report
