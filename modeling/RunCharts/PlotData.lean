import RunCharts.Json.Value
import RunCharts.Summary

/-! # The numbers behind a chart

Each chart goes with a file that lists its groups: name, variant, samples, mean and standard deviation. -/

namespace RunCharts.PlotData

/-- Numbers in the data are positional from `10^-5` up to `10^16`; elsewhere an exponent with its sign follows
one digit. -/
def style : Decimal.Style := ⟨-5, 16, true, .toEven⟩

/-- A number; infinities and what is no number are null. -/
def ofFloat (x : Float) : Json.Value :=
  match Decimal.Binary64.ofFloat x with
  | .finite negative magnitude => .number (style.finite negative magnitude).toList
  | _ => .null

/-- A variant, or null where variants are not compared. -/
def ofVariant : Option Variant → Json.Value
  | none => .null
  | some .lazy => .string "Lazy".toList
  | some .nonLazy => .string "NonLazy".toList

def ofGroup (group : GroupSummary) : Json.Value :=
  .object
    [("name".toList, .string group.name.toList),
      ("variant".toList, ofVariant group.variant),
      ("samples".toList, .array (group.samples.map ofFloat)),
      ("mean".toList, ofFloat group.summary.mean),
      ("std_dev".toList, ofFloat group.summary.stdDev)]

/-- The text that lists groups. -/
def render (groups : List GroupSummary) : String := (Json.Value.array (groups.map ofGroup)).render

end RunCharts.PlotData
