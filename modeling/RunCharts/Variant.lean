import RunCharts.Text.Split

/-! # Lazy and non-lazy runs

The variant of a run is read off the path of its directory. Directories were never named
consistently, so each analysis tests for one marker, and everything without it is of the other
variant. -/

namespace RunCharts

/-- The two variants that the charts compare. -/
inductive Variant where
  | lazy
  | nonLazy
deriving DecidableEq, Repr

/-- The name of a variant in legends, ticks and messages. -/
def Variant.label : Variant → String
  | lazy => "Lazy"
  | nonLazy => "Non-lazy"

/-- The marker that decides the variant. -/
inductive Classifier where
  /-- A path with `-lazy` in it is lazy, any other is non-lazy. -/
  | containsLazy
  /-- A path with `-nonlazy` in it is non-lazy, any other is lazy. -/
  | containsNonLazy
deriving DecidableEq, Repr

def Classifier.classify (classifier : Classifier) (dir : String) : Variant :=
  match classifier with
  | containsLazy => if Text.occursIn "-lazy".toList dir.toList then .lazy else .nonLazy
  | containsNonLazy => if Text.occursIn "-nonlazy".toList dir.toList then .nonLazy else .lazy

end RunCharts
