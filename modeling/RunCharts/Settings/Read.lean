import RunCharts.Failure
import RunCharts.Files.Access
import RunCharts.Settings.Basic
import RunCharts.Yaml.Parse

/-! # Settings from a document

A document is laid over the default settings: each field that it gives replaces the default, and all others
stay. Entries are read in the order of the document, and the first fault among them is reported. -/

namespace RunCharts

/-- A node of a document, with the names of the fields that lead to it. -/
structure Place where
  document : Yaml.Document
  path : List String
  node : Yaml.Node

namespace Place

/-- The node itself, or the one that an alias stands for. -/
def resolved (place : Place) : Yaml.Node :=
  match place.node with
  | .alias anchor => place.document.target anchor
  | node => node

/-- The kind of a scalar, as its tag or else its text says. -/
def scalarKind (path : List String) (scalar : Yaml.Scalar) : Except SettingsError Yaml.Kind :=
  let text := scalar.text
  let tagged (tag : Tagged) (kind? : Option Yaml.Kind) : Except SettingsError Yaml.Kind :=
    kind?.elim (.error (.wrongTag path text tag)) .ok
  let isPlain := scalar.style = .plain
  match scalar.tag.map String.ofList with
  | none => .ok (if isPlain then Yaml.plainKind text else .string text)
  | some "tag:yaml.org,2002:bool" => tagged .boolean ((Yaml.boolean? text).map .boolean)
  | some "tag:yaml.org,2002:int" => tagged .integer (Yaml.integerKind? text)
  | some "tag:yaml.org,2002:float" => tagged .real ((Yaml.real? text).map .real)
  | some "tag:yaml.org,2002:null" => tagged .null (if Yaml.isNull text then some .unit else none)
  | some tag => .ok (if tag.startsWith "!" && isPlain then Yaml.plainKind text else .string text)

/-- The error for a node of another type than asked for. -/
def wrongType (place : Place) (expected : Expected) : SettingsError :=
  match place.resolved with
  | .scalar scalar =>
    match scalarKind place.path scalar with
    | .ok kind => .wrongType place.path kind expected
    | .error error => error
  | .sequence => .wrongType place.path .sequence expected
  | .mapping _ => .wrongType place.path .map expected
  | .alias _ | .cut => .unreadable

/-- The text of a scalar that may be a number: a plain one, or a literal block with the tag of that type. -/
def numberText? (place : Place) (tag : String) : Option (List Char) :=
  match place.resolved with
  | .scalar scalar =>
    let isTagged := scalar.style = .block .literal ∧ scalar.tag = some tag.toList
    if scalar.style = .plain ∨ isTagged then some scalar.text else none
  | _ => none

/-- An integer of 32 bits without a sign. -/
def natural (place : Place) : Except SettingsError Nat :=
  match (place.numberText? "tag:yaml.org,2002:int").bind (Yaml.unsigned? (Numeral.unsignedLimit 64)) with
  | some n => if n ≤ Numeral.unsignedLimit 32 then .ok n else .error (.outOfRange place.path n .natural)
  | none => .error (place.wrongType .natural)

/-- An integer of 64 bits with a sign. -/
def integer (place : Place) : Except SettingsError Int :=
  let read? (text : List Char) : Option Int :=
    match Yaml.unsigned? (Numeral.signedLimit 64) text with
    | some n => some n
    -- there is one more negative number than there are positive ones
    | none => Yaml.negative? (Numeral.signedLimit 64 + 1) text
  match (place.numberText? "tag:yaml.org,2002:int").bind read? with
  | some n => .ok n
  | none => .error (place.wrongType .integer)

/-- A real number; a decimal integer will do. -/
def real (place : Place) : Except SettingsError Float :=
  match (place.numberText? "tag:yaml.org,2002:float").bind Yaml.real? with
  | some x => .ok x
  | none => .error (place.wrongType .real)

/-- A path: the text of any scalar. -/
def filePath (place : Place) : Except SettingsError Files.Path :=
  match place.resolved with
  | .scalar scalar => .ok (String.ofList scalar.text)
  | _ => .error (place.wrongType .path)

/-- The name of a field: the text of any scalar. -/
def fieldName (place : Place) : Except SettingsError String :=
  match place.resolved with
  | .scalar scalar => .ok (String.ofList scalar.text)
  | _ => .error (place.wrongType .field)

end Place

/-- A field of a section: its name, and how its value is set. -/
structure Field (σ : Type) where
  name : String
  set : Place → σ → Except SettingsError σ

structure Section (σ : Type) where
  name : String
  fields : List (Field σ)
  defaults : σ

namespace Section

variable {σ : Type}

/-- The name of an entry in messages about its value; an entry whose key is an alias has none. -/
def keyLabel : Yaml.Node → String
  | .scalar scalar => String.ofList scalar.text
  | _ => "?"

/-- Reads an entry, given the names of the fields that were read before. -/
def readEntry (outline : Section σ) (place : Place) (state : σ × List String)
    (entry : Yaml.Node × Yaml.Node) : Except SettingsError (σ × List String) := do
  let name ← { place with node := entry.1 : Place }.fieldName
  match outline.fields.find? (·.name = name) with
  | none => .error (.unknownField place.path name (outline.fields.map (·.name)))
  | some field =>
    -- a name that comes twice is refused before its second value is looked at
    if name ∈ state.2 then .error (.duplicateField place.path name)
    else
      let value ← field.set ⟨place.document, place.path ++ [keyLabel entry.1], entry.2⟩ state.1
      return (value, name :: state.2)

/-- Reads a section; nothing stands for a section with the defaults. -/
def read (outline : Section σ) (place : Place) : Except SettingsError σ :=
  match place.resolved with
  | .mapping entries => do
    let (value, _) ← entries.foldlM (outline.readEntry place) (outline.defaults, [])
    return value
  | .scalar scalar =>
    if scalar.isEmpty then .ok outline.defaults else .error (place.wrongType (.fields outline.name))
  | _ => .error (place.wrongType (.fields outline.name))

end Section

namespace Settings

def bandwidthSection : Section BandwidthSettings where
  name := "BandwidthSettings"
  fields :=
    [⟨"startup_window", fun place s => return { s with windows.startup := ← place.integer }⟩,
      ⟨"after_window", fun place s => return { s with windows.after := ← place.integer }⟩,
      ⟨"startup_y_max", fun place s => return { s with startupTop := ← place.real }⟩,
      ⟨"after_y_max", fun place s => return { s with afterTop := ← place.real }⟩]
  defaults := {}

def cacheSection : Section CacheSettings where
  name := "CacheSettings"
  fields :=
    [⟨"miss_start_offset", fun place s => return { s with missStart := ← place.integer }⟩,
      ⟨"miss_headroom", fun place s => return { s with missHeadroom := ← place.real }⟩,
      ⟨"elements_headroom", fun place s => return { s with elementsHeadroom := ← place.real }⟩]
  defaults := {}

def rootSection : Section Settings where
  name := "Settings"
  fields :=
    [⟨"output_dir", fun place s => return { s with outputDir := ← place.filePath }⟩,
      ⟨"width", fun place s => return { s with width := ← place.natural }⟩,
      ⟨"height", fun place s => return { s with height := ← place.natural }⟩,
      ⟨"bandwidth", fun place s => return { s with bandwidth := ← bandwidthSection.read place }⟩,
      ⟨"cache", fun place s => return { s with cache := ← cacheSection.read place }⟩]
  defaults := {}

/-- The settings in a document. A text without a document gives the defaults. -/
def ofDocument (document : Yaml.Document) : Except SettingsError Settings := do
  let settings ← match document.root with
    | none => pure rootSection.defaults
    | some root => rootSection.read ⟨document, [], root⟩
  -- a fault in the settings comes before one in the text behind them
  if document.sound then return settings else .error .unreadable

def ofText (text : List Char) : Except SettingsError Settings := ofDocument (Yaml.Document.of text)

/-- The settings in a file. -/
def load (store : Files.Store) (path : Files.Path) : Except Failure Settings :=
  match store.read path with
  | .error error => .error (.within (.reading path) (.unreadable error))
  | .ok content =>
    match String.fromUTF8? ⟨content.toArray⟩ with
    | none => .error (.within (.reading path) (.unreadable .notUtf8))
    | some text => (ofText text.toList).mapError fun error => .within (.parsing path) (.settings error)

end Settings

end RunCharts
