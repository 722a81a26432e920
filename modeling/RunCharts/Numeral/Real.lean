import RunCharts.Decimal.Binary64

/-! # Reading real numbers

A real number is an optional sign, digits with at most one point among or around them, and an optional
exponent; or one of the words `inf`, `infinity` and `nan` in either case. It is read as the nearest
double. -/

namespace RunCharts.Numeral

/-- Why a text is no real number. -/
inductive RealError where
  | empty
  | invalid
deriving DecidableEq, Repr

def RealError.message : RealError → String
  | empty => "cannot parse float from empty string"
  | invalid => "invalid float literal"

/-- The number that ASCII digits spell. -/
def ofDigits (digits : List Char) : Nat :=
  digits.foldl (fun n c => 10 * n + (c.toNat - '0'.toNat)) 0

/-- The exponent after its mark: an optional sign and one or more digits. -/
def readExponent? (text : List Char) : Option Int :=
  let (negative, digits) := match text with
    | '-' :: rest => (true, rest)
    | '+' :: rest => (false, rest)
    | rest => (false, rest)
  if digits.isEmpty || !digits.all Char.isDigit then none
  else some (if negative then -(ofDigits digits : Int) else ofDigits digits)

/-- The decimal that a text without a sign spells. -/
def readDecimal? (text : List Char) : Option Decimal :=
  let whole := text.takeWhile Char.isDigit
  let afterWhole := text.dropWhile Char.isDigit
  let (places, afterPlaces) := match afterWhole with
    | '.' :: rest => (rest.takeWhile Char.isDigit, rest.dropWhile Char.isDigit)
    | rest => ([], rest)
  if whole.isEmpty && places.isEmpty then none
  else
    let exponent? := match afterPlaces with
      | [] => some 0
      | mark :: rest => if mark = 'e' ∨ mark = 'E' then readExponent? rest else none
    exponent?.map fun exponent => ⟨ofDigits (whole ++ places), exponent - places.length⟩

/-- The double nearest to a decimal. Exponents beyond the range of doubles are cut off first: their
powers of ten would be too large to write down. -/
def nearestFloat (d : Decimal) : Float :=
  let leading := d.exponent + (Nat.toDigits 10 d.digits).length
  if d.digits = 0 || leading < -400 then 0.0
  else if 400 < leading then 1.0 / 0.0
  else Float.ofScientific d.digits (d.exponent < 0) d.exponent.natAbs

/-- The double that a text without a sign spells. -/
def readUnsignedReal? (text : List Char) : Option Float :=
  let word := text.map Char.toLower
  if word = "inf".toList ∨ word = "infinity".toList then some (1.0 / 0.0)
  else if word = "nan".toList then some (0.0 / 0.0)
  else (readDecimal? text).map nearestFloat

/-- The double that a text spells. -/
def readReal (text : List Char) : Except RealError Float :=
  let read? := match text with
    | '-' :: rest => (readUnsignedReal? rest).map fun x => -x
    | '+' :: rest => readUnsignedReal? rest
    | rest => readUnsignedReal? rest
  match text, read? with
  | [], _ => .error .empty
  | _, none => .error .invalid
  | _, some x => .ok x

end RunCharts.Numeral
