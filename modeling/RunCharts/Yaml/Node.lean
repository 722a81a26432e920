import RunCharts.Yaml.Scalar

/-! # Tokens and documents

A document stream is a row of tokens, and a document a tree of scalars, sequences and mappings. Settings
hold no sequences, so what a sequence holds is left aside, and with it all that follows: a reader that comes
to a sequence refuses the document there. A document that breaks a rule further on is still a tree, with
`cut` where it cannot be read any more. -/

namespace RunCharts.Yaml

/-- A tag as it was written. -/
inductive TagText where
  /-- The whole tag. -/
  | whole (tag : List Char)
  /-- What follows a handle. -/
  | short (handle suffix : List Char)
deriving DecidableEq, Repr

/-- The tokens of a document stream. Blocks get tokens for their start and end where their indentation
changes. -/
inductive Token where
  | versionDirective (major minor : Nat)
  | tagDirective (handle tag : List Char)
  | documentStart
  | documentEnd
  | blockSequenceStart
  | blockMappingStart
  | blockEnd
  | flowSequenceStart
  | flowSequenceEnd
  | flowMappingStart
  | flowMappingEnd
  | blockEntry
  | flowEntry
  | key
  | value
  | alias (name : List Char)
  | anchor (name : List Char)
  | tag (tag : TagText)
  | scalar (text : List Char) (style : ScalarStyle)
  | streamEnd
deriving DecidableEq, Repr

/-- A scalar with its tag, if it has one of its own. -/
structure Scalar where
  text : List Char
  style : ScalarStyle := .plain
  tag : Option (List Char) := none
deriving DecidableEq, Repr

/-- Whether a scalar is nothing at all. -/
def Scalar.isEmpty (scalar : Scalar) : Bool := scalar.text.isEmpty && scalar.style = .plain

inductive Node where
  | scalar (scalar : Scalar)
  | sequence
  | mapping (entries : List (Node × Node))
  /-- Stands for the node with the given anchor. -/
  | alias (anchor : Nat)
  /-- The document cannot be read from here on. -/
  | cut

/-- A document: its root, the nodes with anchors, and whether it is the last one and has no fault behind the
root. A text without any document has no root. -/
structure Document where
  root : Option Node
  anchored : List (Nat × Node)
  sound : Bool

/-- The node that an alias stands for. -/
def Document.target (document : Document) (anchor : Nat) : Node :=
  ((document.anchored.reverse.find? (·.1 = anchor)).map (·.2)).getD .cut

end RunCharts.Yaml
