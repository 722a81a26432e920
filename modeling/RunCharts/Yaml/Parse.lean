import RunCharts.Yaml.Node
import RunCharts.Yaml.TokenStream

/-! # From tokens to a document

Where a token does not fit, the tokens behind it are thrown away; a node that has no token left is `cut`. -/

namespace RunCharts.Yaml

/-- The state of a parse. -/
structure Parse where
  tokens : List Token
  /-- What the handles of tags stand for. -/
  handles : List (List Char × List Char)
  /-- The number that each anchor's name stands for: how many other names had been used before. -/
  names : List (List Char × Nat) := []
  /-- The nodes with anchors, in the order of their starts. -/
  anchored : List (Nat × Node) := []

namespace Parse

def stop (parse : Parse) : Parse := { parse with tokens := [] }

def next (parse : Parse) : Parse := { parse with tokens := parse.tokens.tail }

/-- The full text of a tag, if its handle is known. -/
def resolve? (parse : Parse) : TagText → Option (List Char)
  | .whole tag => some tag
  | .short handle suffix => (parse.handles.lookup handle).map (· ++ suffix)

/-- The anchor of a node that starts here. -/
structure Anchor where
  number : Nat
  /-- The number of nodes with anchors that start before it. -/
  place : Nat

/-- Gives a number to an anchor's name. -/
def name (parse : Parse) (anchor : List Char) : Anchor × Parse :=
  let number := parse.names.length
  (⟨number, parse.anchored.length⟩,
    { parse with names := (anchor, number) :: parse.names.filter (·.1 ≠ anchor) })

/-- Reads the anchor and the tag in front of a node, in either order. -/
def properties (parse : Parse) : Option (List Char) × Option TagText × Parse :=
  match parse.tokens with
  | .anchor name :: .tag tag :: rest | .tag tag :: .anchor name :: rest =>
    (name, tag, { parse with tokens := rest })
  | .anchor name :: rest => (name, none, { parse with tokens := rest })
  | .tag tag :: rest => (none, tag, { parse with tokens := rest })
  | _ => (none, none, parse)

/-- Where a node stands. -/
inductive Place where
  | flow
  | block
  /-- In a block mapping, where the dashes of a sequence need not be indented. -/
  | blockMapping
deriving DecidableEq, Repr

def emptyNode : Node := .scalar { text := [] }

/-- Whether one of the given tokens comes next. -/
def atAny (parse : Parse) (tokens : List Token) : Bool := parse.tokens.head?.any (· ∈ tokens)

/-- Registers a node under its anchor, in front of those that start inside it. -/
def register (anchor : Option Anchor) (node : Node) (parse : Parse) : Node × Parse :=
  match anchor with
  | none => (node, parse)
  | some anchor =>
    (node, { parse with anchored := parse.anchored.insertIdx anchor.place (anchor.number, node) })

/-- Reads a node that must be there, or an empty one in front of the given tokens. -/
def nodeOr (read : Parse → Node × Parse) (ends : List Token) (parse : Parse) : Node × Parse :=
  if parse.atAny ends then (emptyNode, parse) else read parse

mutual

/-- Reads a node, at most `fuel` tokens deep. -/
def node : (fuel : Nat) → Place → Parse → Node × Parse
  | 0, _, parse => (.cut, parse.stop)
  | fuel + 1, place, parse =>
    match parse.tokens with
    | .alias name :: _ =>
      match parse.names.lookup name with
      | some number => (.alias number, parse.next)
      | none => (.cut, parse.stop)
    | _ =>
      let (anchorName, tagText, parse) := parse.properties
      match tagText.map parse.resolve?, parse.tokens with
      | some none, _ | _, [] => (.cut, parse.stop)
      | tag, token :: _ =>
        let tag := tag.join
        let (anchor, parse) := match anchorName with
          | some anchorName => ((parse.name anchorName).map some id)
          | none => (none, parse)
        match token, place with
        | .scalar text style, _ =>
          parse.next.register anchor (.scalar ⟨text, style, tag.filter (· ≠ ['!'])⟩)
        -- a sequence is a fault wherever it stands, so nothing behind it is read
        | .flowSequenceStart, _ | .blockSequenceStart, .block | .blockSequenceStart, .blockMapping
        | .blockEntry, .blockMapping => (.sequence, parse.stop)
        | .flowMappingStart, _ =>
          let (entries, parse) := flowEntries fuel true parse.next
          parse.register anchor (.mapping entries)
        | .blockMappingStart, .block | .blockMappingStart, .blockMapping =>
          let (entries, parse) := blockEntries fuel parse.next
          parse.register anchor (.mapping entries)
        | _, _ =>
          -- an anchor or a tag without a node stands for an empty one
          if anchor.isSome || tag.isSome then parse.register anchor (.scalar ⟨[], .plain, tag⟩)
          else (.cut, parse.stop)

/-- Reads the entries of a block mapping. -/
def blockEntries : (fuel : Nat) → Parse → List (Node × Node) × Parse
  | 0, parse => ([(.cut, .cut)], parse.stop)
  | fuel + 1, parse =>
    match parse.tokens with
    | .blockEnd :: _ => ([], parse.next)
    | .key :: _ =>
      let (key, parse) := parse.next.nodeOr (node fuel .blockMapping) [.key, .value, .blockEnd]
      let (value, parse) := match parse.tokens with
        | .value :: _ => parse.next.nodeOr (node fuel .blockMapping) [.key, .value, .blockEnd]
        | [] => (.cut, parse)
        | _ => (emptyNode, parse)
      let (rest, parse) := blockEntries fuel parse
      ((key, value) :: rest, parse)
    | _ => ([(.cut, .cut)], parse.stop)

/-- Reads the entries of a mapping in brackets; all but the first follow a comma. -/
def flowEntries : (fuel : Nat) → (first : Bool) → Parse → List (Node × Node) × Parse
  | 0, _, parse => ([(.cut, .cut)], parse.stop)
  | fuel + 1, first, parse =>
    match first, parse.tokens with
    | _, .flowMappingEnd :: _ => ([], parse.next)
    | true, _ => flowEntry fuel parse
    | false, .flowEntry :: .flowMappingEnd :: _ => ([], parse.next.next)
    | false, .flowEntry :: _ => flowEntry fuel parse.next
    | false, _ => ([(.cut, .cut)], parse.stop)

/-- Reads an entry of a mapping in brackets and those behind it. -/
def flowEntry : (fuel : Nat) → Parse → List (Node × Node) × Parse
  | 0, parse => ([(.cut, .cut)], parse.stop)
  | fuel + 1, parse =>
    let (key, value, parse) := match parse.tokens with
      | .key :: _ =>
        let (key, parse) := parse.next.nodeOr (node fuel .flow) [.value, .flowEntry, .flowMappingEnd]
        match parse.tokens with
        | .value :: _ =>
          let (value, parse) := parse.next.nodeOr (node fuel .flow) [.flowEntry, .flowMappingEnd]
          (key, value, parse)
        | [] => (key, .cut, parse)
        | _ => (key, emptyNode, parse)
      | _ =>
        let (key, parse) := node fuel .flow parse
        (key, if parse.tokens.isEmpty then .cut else emptyNode, parse)
    let (rest, parse) := flowEntries fuel false parse
    ((key, value) :: rest, parse)

end

/-- The handles that are known without a directive. -/
def defaultHandles : List (List Char × List Char) :=
  [("!".toList, "!".toList), ("!!".toList, "tag:yaml.org,2002:".toList)]

/-- Reads the directives in front of a document. There may be one version, 1.1 or 1.2, and each handle once. -/
def directives? : (versioned : Bool) → (handles : List (List Char × List Char)) → List Token →
    Option (List (List Char × List Char) × List Token)
  | versioned, handles, .versionDirective major minor :: rest =>
    if versioned || major ≠ 1 || (minor ≠ 1 && minor ≠ 2) then none else directives? true handles rest
  | versioned, handles, .tagDirective handle tag :: rest =>
    if (handles.lookup handle).isSome then none else directives? versioned (handles ++ [(handle, tag)]) rest
  | _, handles, rest => some (handles, rest)

end Parse

/-- The first document of a text. -/
def Document.of (text : List Char) : Document :=
  let tokens := tokens text
  let fuel := 2 * tokens.length + 2
  let refused : Document := ⟨some .cut, [], false⟩
  let finish (root : Node) (parse : Parse) : Document :=
    ⟨some root, parse.anchored, parse.tokens.dropWhile (· = .documentEnd) = [.streamEnd]⟩
  match tokens with
  | [.streamEnd] => ⟨none, [], true⟩
  | _ =>
    match Parse.directives? false [] tokens with
    | none => refused
    | some (handles, .documentStart :: rest) =>
      let parse : Parse := { tokens := rest, handles := handles ++ Parse.defaultHandles }
      let isDirective : Token → Bool
        | .versionDirective .. | .tagDirective .. => true
        | _ => false
      if parse.atAny [.documentStart, .documentEnd, .streamEnd] || rest.head?.any isDirective then
        finish Parse.emptyNode parse
      else
        let (root, parse) := parse.node fuel .block
        finish root parse
    | some (_, rest) =>
      -- directives ask for the mark of the document's start
      if rest.length < tokens.length then refused
      else
        let (root, parse) := Parse.node fuel .block { tokens, handles := Parse.defaultHandles }
        finish root parse

end RunCharts.Yaml
