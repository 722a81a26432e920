import RunCharts.Numeral.Integer
import RunCharts.Numeral.Real
import RunCharts.Yaml.Node

/-! # What plain scalars stand for

A plain scalar without a tag is nothing, a truth value, an integer, a real number or a text. Integers may be
decimal, without leading zeros, or follow `0x`, `0o` or `0b`. -/

namespace RunCharts.Yaml

/-- The value of a digit in bases up to 16. -/
def digitIn? (base : Nat) (c : Char) : Option Nat := (hexValue? c).filter (· < base)

/-- The natural number that one or more digits spell, if it is at most `limit`. -/
def natural? (base limit : Nat) (digits : List Char) : Option Nat :=
  if digits.isEmpty then none
  else (digits.foldlM (fun n c => (digitIn? base c).map (base * n + ·)) 0).filter (· ≤ limit)

/-- The text without the given sign in front, if it is there. -/
def withoutSign (sign : Char) (text : List Char) : List Char :=
  if text.head? = some sign then text.tail else text

/-- Digits with a leading zero, or more than one, are no number but a text. -/
def isPadded (text : List Char) : Bool :=
  let digits := if text.head? = some '-' then text.tail else withoutSign '+' text
  1 < digits.length && digits.head? = some '0' && digits.all Char.isDigit

/-- The natural number in decimal or behind a mark of its base. -/
def marked? (limit : Nat) : List Char → Option Nat
  | '0' :: 'x' :: digits => natural? 16 limit digits
  | '0' :: 'o' :: digits => natural? 8 limit digits
  | '0' :: 'b' :: digits => natural? 2 limit digits
  | digits => natural? 10 limit digits

/-- An integer from zero to `limit`; a plus sign may stand in front. -/
def unsigned? (limit : Nat) (text : List Char) : Option Nat :=
  if isPadded text then none else marked? limit (withoutSign '+' text)

/-- An integer with a minus sign, from `-limit` on. -/
def negative? (limit : Nat) (text : List Char) : Option Int :=
  match text with
  | '-' :: digits => if isPadded text then none else (marked? limit digits).map fun n => -(n : Int)
  | _ => none

/-- A real number; infinities and what is no number are spelled with a point in front. -/
def real? (text : List Char) : Option Float :=
  let unsigned := withoutSign '+' text
  if unsigned ∈ [".inf".toList, ".Inf".toList, ".INF".toList] then some (1.0 / 0.0)
  else if text ∈ ["-.inf".toList, "-.Inf".toList, "-.INF".toList] then some (-1.0 / 0.0)
  else if text ∈ [".nan".toList, ".NaN".toList, ".NAN".toList] then some (0.0 / 0.0)
  else if text.head? = some '+' ∧ (unsigned.head? = some '+' ∨ unsigned.head? = some '-') then none
  else
    match Numeral.readReal unsigned with
    | .ok x => if x.isFinite then some x else none
    | .error _ => none

/-- Whether a plain scalar stands for nothing. -/
def isNull (text : List Char) : Bool :=
  text ∈ ["null".toList, "Null".toList, "NULL".toList, "~".toList]

/-- The truth value that a plain scalar stands for. -/
def boolean? (text : List Char) : Option Bool :=
  if text ∈ ["true".toList, "True".toList, "TRUE".toList] then some true
  else if text ∈ ["false".toList, "False".toList, "FALSE".toList] then some false
  else none

/-- What a node is, when it is not what was asked for. -/
inductive Kind where
  | unit
  | boolean (value : Bool)
  /-- An integer that fits 64 bits, signed or not. -/
  | integer (value : Int)
  /-- An integer that fits 128 bits, signed or not. -/
  | wideInteger (value : Int)
  | real (value : Float)
  | string (text : List Char)
  | sequence
  | map

/-- The integer that a plain scalar stands for. -/
def integerKind? (text : List Char) : Option Kind :=
  match unsigned? (Numeral.unsignedLimit 64) text, negative? (Numeral.signedLimit 64 + 1) text with
  | some n, _ => some (.integer n)
  | none, some n => some (.integer n)
  | none, none =>
    match unsigned? (Numeral.unsignedLimit 128) text, negative? (Numeral.signedLimit 128 + 1) text with
    | some n, _ => some (.wideInteger n)
    | none, some n => some (.wideInteger n)
    | none, none => none

/-- What a plain scalar without a tag stands for. -/
def plainKind (text : List Char) : Kind :=
  if text.isEmpty || isNull text then .unit
  else
    match boolean? text, integerKind? text with
    | some value, _ => .boolean value
    | none, some kind => kind
    | none, none =>
      match real? text with
      | some x => if isPadded text then .string text else .real x
      | none => .string text

end RunCharts.Yaml
