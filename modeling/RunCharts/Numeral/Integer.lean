import RunCharts.Text.Character

/-! # Reading integers

An integer is an optional sign and one or more ASCII digits, leading zeros allowed. The digits are
taken from the left: the first one that leads out of the bounds, or the first character that is no
digit, decides why a text is refused. -/

namespace RunCharts.Numeral

/-! ### Integers of 64 signed bits

Times, sizes and counts are integers that fit 64 signed bits; a sum that does not fit is refused. -/

namespace Signed64

def least : Int := -0x8000000000000000

def greatest : Int := 0x7FFFFFFFFFFFFFFF

def Fits (n : Int) : Prop := least ≤ n ∧ n ≤ greatest

instance (n : Int) : Decidable (Fits n) := inferInstanceAs (Decidable (_ ∧ _))

/-- The sum, if it fits. -/
def add? (a b : Int) : Option Int := if Fits (a + b) then some (a + b) else none

theorem add?_eq_some_iff {a b c : Int} : add? a b = some c ↔ c = a + b ∧ Fits (a + b) := by
  unfold add?
  split <;> simp_all [eq_comm]

theorem add?_eq_none_iff {a b : Int} : add? a b = none ↔ ¬ Fits (a + b) := by
  simp [add?]

end Signed64

/-! ### From a text -/

/-- Why a text is no integer within the bounds. -/
inductive IntegerError where
  | empty
  | invalidDigit
  | tooLarge
  | tooSmall
deriving DecidableEq, Repr

def IntegerError.message : IntegerError → String
  | empty => "cannot parse integer from empty string"
  | invalidDigit => "invalid digit found in string"
  | tooLarge => "number too large to fit in target type"
  | tooSmall => "number too small to fit in target type"

/-- The greatest integer of `bits` bits without a sign. -/
def unsignedLimit (bits : Nat) : Nat := Nat.pow 2 bits - 1

/-- The greatest integer of `bits` bits with a sign. -/
def signedLimit (bits : Nat) : Nat := unsignedLimit (bits - 1)

/-- Appends digits to a number that must stay at most `greatest`. -/
def digitsUp (greatest : Int) (value : Int) : List Char → Except IntegerError Int
  | [] => .ok value
  | c :: rest =>
    match Text.digitValue? c with
    | none => .error .invalidDigit
    | some d =>
      let next := 10 * value + d
      if next ≤ greatest then digitsUp greatest next rest else .error .tooLarge

/-- Appends digits to a number at or below zero that must stay at least `least`. -/
def digitsDown (least : Int) (value : Int) : List Char → Except IntegerError Int
  | [] => .ok value
  | c :: rest =>
    match Text.digitValue? c with
    | none => .error .invalidDigit
    | some d =>
      let next := 10 * value - d
      if least ≤ next then digitsDown least next rest else .error .tooSmall

/-- The integer that a text spells, between `least` and `greatest`. -/
def readInteger (least greatest : Int) : List Char → Except IntegerError Int
  | [] => .error .empty
  | ['+'] | ['-'] => .error .invalidDigit
  | '+' :: rest => digitsUp greatest 0 rest
  | '-' :: rest => digitsDown least 0 rest
  | text => digitsUp greatest 0 text

/-- The 64-bit integer that a text spells, blanks around it left aside. -/
def readSigned64 (text : List Char) : Except IntegerError Int :=
  readInteger Signed64.least Signed64.greatest (Text.trim text)

end RunCharts.Numeral
