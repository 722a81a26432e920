import RunCharts.Numeral.Real
import RunCharts.Yaml.Node

/-! # Anchors, aliases, tags and directives -/

namespace RunCharts.Yaml

/-- Reads the name of an anchor or an alias, behind its mark. White space or a character that cannot stand in
a name must follow. -/
def Cursor.name? (cursor : Cursor) : Option (List Char × Cursor) :=
  let cursor := cursor.skip 1
  let name := cursor.rest.takeWhile isNameChar
  let next := cursor.skip name.length
  if name.isEmpty then none
  else if endsWord next.rest || next.rest.head?.any (· ∈ ['?', ':', ',', ']', '}', '%', '@', '\x60']) then
    some (name, next)
  else none

/-- The characters of a tag; the whole form allows some more than a suffix does. -/
def isTagChar (whole : Bool) (c : Char) : Bool :=
  isNameChar c || c ∈ [';', '/', '?', ':', '@', '&', '=', '+', '$', '.', '!', '~', '*', '\'', '(', ')'] ||
    (whole && c ∈ [',', '[', ']'])

/-- The octet that a percent sign and two hexadecimal digits spell. -/
def percentOctet? : List Char → Option (UInt8 × List Char)
  | '%' :: a :: b :: rest => do return (UInt8.ofNat (16 * (← hexValue? a) + (← hexValue? b)), rest)
  | _ => none

/-- The number of octets in a character that starts with the given one. -/
def octetCount? (first : UInt8) : Option Nat :=
  if first < 0x80 then some 1
  else if first &&& 0xE0 = 0xC0 then some 2
  else if first &&& 0xF0 = 0xE0 then some 3
  else if first &&& 0xF8 = 0xF0 then some 4
  else none

/-- Reads `n` more octets that go on in a character. -/
def restOctets? : Nat → List Char → Option (List UInt8 × List Char)
  | 0, rest => some ([], rest)
  | n + 1, text => do
    let (octet, rest) ← percentOctet? text
    if octet &&& 0xC0 ≠ 0x80 then none
    let (octets, rest) ← restOctets? n rest
    return (octet :: octets, rest)

/-- The character at the start of a text whose octets are written with percent signs. -/
def percentChar? (text : List Char) : Option (List Char × List Char) := do
  let (first, rest) ← percentOctet? text
  let (octets, rest) ← restOctets? ((← octetCount? first) - 1) rest
  let char := (String.fromUTF8? ⟨(first :: octets).toArray⟩).elim ['\uFFFD'] String.toList
  return (char, rest)

/-- The longest text of a tag, at most `fuel` characters of it. -/
def tagText? (whole : Bool) : (fuel : Nat) → List Char → Option (List Char × List Char)
  | 0, rest => some ([], rest)
  | _, [] => some ([], [])
  | fuel + 1, c :: rest =>
    if c = '%' then do
      let (char, rest) ← percentChar? (c :: rest)
      (tagText? whole fuel rest).map fun (text, rest) => (char ++ text, rest)
    else if isTagChar whole c then (tagText? whole fuel rest).map fun (text, rest) => (c :: text, rest)
    else some ([], c :: rest)

/-- Reads the text of a tag. -/
def Cursor.tagText? (cursor : Cursor) (whole : Bool) : Option (List Char × Cursor) := do
  let (text, rest) ← Yaml.tagText? whole cursor.rest.length cursor.rest
  return (text, cursor.skip (cursor.rest.length - rest.length))

/-- Reads an exclamation mark, name characters and another exclamation mark, if there is one. -/
def Cursor.tagHandle? (cursor : Cursor) : Option (List Char × Cursor) :=
  match cursor.rest with
  | '!' :: rest =>
    let name := rest.takeWhile isNameChar
    let closing := (rest.drop name.length).head? = some '!'
    let handle := '!' :: name ++ (if closing then ['!'] else [])
    some (handle, cursor.skip handle.length)
  | _ => none

/-- Whether a handle is closed by an exclamation mark of its own. -/
def isClosedHandle (handle : List Char) : Bool := 1 < handle.length && handle.getLast? = some '!'

/-- Reads a tag: `!<tag>`, `!handle!suffix`, `!suffix` or a lone `!`. -/
def Cursor.tag? (cursor : Cursor) (inFlow : Bool) : Option (TagText × Cursor) := do
  let (tag, next) ←
    if cursor.rest[1]? = some '<' then do
      let (text, next) ← (cursor.skip 2).tagText? true
      if text.isEmpty || next.rest.head? ≠ some '>' then none
      pure (TagText.whole text, next.skip 1)
    else do
      let (handle, next) ← cursor.tagHandle?
      let (text, next) ← next.tagText? false
      if isClosedHandle handle then
        if text.isEmpty then none
        pure (TagText.short handle text, next)
      else
        let suffix := handle.tail ++ text
        pure (if suffix.isEmpty then TagText.whole ['!'] else TagText.short ['!'] suffix, next)
  if endsWord next.rest || (inFlow && next.rest.head? = some ',') then return (tag, next)
  none

/-- Reads a number of at most nine digits. -/
def Cursor.versionNumber? (cursor : Cursor) : Option (Nat × Cursor) :=
  let digits := cursor.rest.takeWhile Char.isDigit
  if digits.isEmpty || 9 < digits.length then none
  else some (Numeral.ofDigits digits, cursor.skip digits.length)

/-- Reads a directive, its mark included. Only `%YAML` and `%TAG` are known. -/
def Cursor.directive? (cursor : Cursor) : Option (Token × Cursor) := do
  let name := (cursor.rest.drop 1).takeWhile isNameChar
  let cursor := cursor.skip (1 + name.length)
  if !endsWord cursor.rest then none
  let cursor := cursor.skipWhile isSpacing
  let (token, cursor) ←
    if name = "YAML".toList then do
      let (major, cursor) ← cursor.versionNumber?
      if cursor.rest.head? ≠ some '.' then none
      let (minor, cursor) ← (cursor.skip 1).versionNumber?
      pure (Token.versionDirective major minor, cursor)
    else if name = "TAG".toList then do
      let (handle, cursor) ← cursor.tagHandle?
      if handle ≠ ['!'] ∧ !isClosedHandle handle then none
      if !cursor.rest.head?.any isSpacing then none
      let (tag, cursor) ← (cursor.skipWhile isSpacing).tagText? true
      if tag.isEmpty || !endsWord cursor.rest then none
      pure (Token.tagDirective handle tag, cursor)
    else none
  return (token, ← cursor.skipLineEnd?)

end RunCharts.Yaml
