import RunCharts.Decimal.Style
import RunCharts.Text.Quoted
import RunCharts.Yaml.Number

/-! # Why a settings document is refused -/

namespace RunCharts

/-- Real numbers in messages are always positional. -/
def plainNumber (x : Float) : String := Decimal.Style.render ⟨-400, 400, false, .up⟩ x

namespace Yaml

def Kind.describe : Kind → String
  | unit => "unit value"
  | boolean value => s!"boolean `{value}`"
  | integer value => s!"integer `{value}`"
  | wideInteger value => s!"integer `{value}` as " ++ if value < 0 then "i128" else "u128"
  | real value => s!"floating point `{plainNumber value}`"
  | string text => s!"string {Text.quoted text}"
  | sequence => "sequence"
  | map => "map"

end Yaml

/-- What a place in the settings asks for. -/
inductive Expected where
  /-- An integer of 32 bits without a sign. -/
  | natural
  /-- An integer of 64 bits with a sign. -/
  | integer
  | real
  | path
  | field
  /-- The fields of a section. -/
  | fields (name : String)
deriving DecidableEq, Repr

def Expected.describe : Expected → String
  | natural => "u32"
  | integer => "i64"
  | real => "f64"
  | path => "path string"
  | field => "field identifier"
  | fields name => s!"struct {name}"

/-- The types that a tag can give to a scalar. -/
inductive Tagged where
  | boolean
  | integer
  | real
  | null
deriving DecidableEq, Repr

def Tagged.describe : Tagged → String
  | boolean => "a boolean"
  | integer => "an integer"
  | real => "a float"
  | null => "null"

inductive SettingsError where
  /-- The document breaks the rules of its format, or another one follows it. -/
  | unreadable
  /-- A value of another type than asked for. -/
  | wrongType (path : List String) (found : Yaml.Kind) (expected : Expected)
  /-- An integer that is too large. -/
  | outOfRange (path : List String) (value : Nat) (expected : Expected)
  /-- A scalar that is not of the type its tag says. -/
  | wrongTag (path : List String) (text : List Char) (tagged : Tagged)
  | unknownField (path : List String) (name : String) (known : List String)
  | duplicateField (path : List String) (name : String)

/-- A message about a place in the document. -/
def atPlace (path : List String) (message : String) : String :=
  if path.isEmpty then message else String.intercalate "." path ++ ": " ++ message

def SettingsError.message : SettingsError → String
  | unreadable => "syntax"
  | wrongType path found expected =>
    atPlace path s!"invalid type: {found.describe}, expected {expected.describe}"
  | outOfRange path value expected =>
    atPlace path s!"invalid value: integer `{value}`, expected {expected.describe}"
  | wrongTag path text tagged =>
    atPlace path s!"invalid value: string {Text.quoted text}, expected {tagged.describe}"
  | unknownField path name known =>
    let names := String.intercalate ", " (known.map fun name => s!"`{name}`")
    atPlace path s!"unknown field `{name}`, expected one of {names}"
  | duplicateField path name => atPlace path s!"duplicate field `{name}`"

end RunCharts
