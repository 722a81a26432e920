/-! # A place in a text

A cursor is what is left of a text, with the number of characters and of lines in front of it and its
column. Characters are skipped within a line; line breaks are taken one at a time. -/

namespace RunCharts.Yaml

/-- A line break ends a line; a return and a line feed behind it make one break. -/
def isBreak (c : Char) : Bool := c ∈ ['\n', '\r', '\u0085', '\u2028', '\u2029']

/-- A space or a tab. -/
def isSpacing (c : Char) : Bool := c = ' ' || c = '\t'

/-- The characters of names: ASCII letters, digits, `_` and `-`. -/
def isNameChar (c : Char) : Bool := c.isAlphanum || c = '_' || c = '-'

/-- What is left of a text, and where it starts. -/
structure Cursor where
  rest : List Char
  index : Nat := 0
  line : Nat := 0
  column : Nat := 0

/-- Whether a text starts with white space or is empty. -/
def endsWord : List Char → Bool
  | [] => true
  | c :: _ => isSpacing c || isBreak c

namespace Cursor

/-- The place `n` characters further on in the same line. -/
def skip (cursor : Cursor) (n : Nat) : Cursor :=
  { cursor with rest := cursor.rest.drop n, index := cursor.index + n, column := cursor.column + n }

/-- The place of the first character of another kind in the same line. -/
def skipWhile (cursor : Cursor) (kind : Char → Bool) : Cursor :=
  cursor.skip (cursor.rest.takeWhile kind).length

/-- The text of the line break here and the place behind it. Breaks are line feeds in the text, but for the
line and paragraph separators, which stay what they are. -/
def break? (cursor : Cursor) : Option (List Char × Cursor) :=
  let after (rest : List Char) (n : Nat) : Cursor := ⟨rest, cursor.index + n, cursor.line + 1, 0⟩
  match cursor.rest with
  | '\r' :: '\n' :: rest => some (['\n'], after rest 2)
  | c :: rest =>
    if isBreak c then some (if c = '\u2028' ∨ c = '\u2029' then [c] else ['\n'], after rest 1) else none
  | [] => none

/-- The place behind the rest of a line that may hold a comment; none if it holds anything else. -/
def skipLineEnd? (cursor : Cursor) : Option Cursor :=
  let cursor := cursor.skipWhile isSpacing
  let cursor := if cursor.rest.head? = some '#' then cursor.skipWhile (!isBreak ·) else cursor
  match cursor.break? with
  | some (_, next) => some next
  | none => if cursor.rest.isEmpty then some cursor else none

/-- Whether a line starts here with the given mark of three characters and nothing behind it but white space. -/
def atMark (cursor : Cursor) (mark : String) : Bool :=
  cursor.column = 0 && mark.toList.isPrefixOf cursor.rest && endsWord (cursor.rest.drop 3)

/-- Whether a document starts or ends here. -/
def atDocumentMark (cursor : Cursor) : Bool := cursor.atMark "---" || cursor.atMark "..."

end Cursor

/-- White space between the words of a scalar: what stands before the first line break, and the line breaks. -/
structure Gap where
  blanks : List Char := []
  breaks : List (List Char) := []

/-- What a gap stands for. Blanks around line breaks say nothing; one line feed is a space, and of more the
first one says nothing. -/
def Gap.fold (gap : Gap) : List Char :=
  match gap.breaks with
  | [] => gap.blanks
  | [['\n']] => [' ']
  | ['\n'] :: more => more.flatten
  | breaks => breaks.flatten

/-- Reads white space into a gap, at most `fuel` characters of it. A tab in front of the margin of a line is
refused. -/
def Gap.extend? (margin : Nat) : (fuel : Nat) → Gap → Cursor → Option (Gap × Cursor)
  | 0, gap, cursor => some (gap, cursor)
  | fuel + 1, gap, cursor =>
    match cursor.break?, cursor.rest.head? with
    | some (text, next), _ => extend? margin fuel { gap with breaks := gap.breaks ++ [text] } next
    | none, some c =>
      if !isSpacing c then some (gap, cursor)
      else if gap.breaks.isEmpty then
        extend? margin fuel { gap with blanks := gap.blanks ++ [c] } (cursor.skip 1)
      else if c = '\t' && cursor.column < margin then none
      else extend? margin fuel gap (cursor.skip 1)
    | none, none => some (gap, cursor)

/-- Reads the white space here into a gap. -/
def Cursor.gap? (cursor : Cursor) (margin : Nat) (start : Gap := {}) : Option (Gap × Cursor) :=
  Gap.extend? margin cursor.rest.length start cursor

end RunCharts.Yaml
