import RunCharts.Yaml.Cursor

/-! # Scalars

A scalar is written plain, between quotes or as a block of lines. -/

namespace RunCharts.Yaml

/-! ### Plain scalars

A plain scalar is made of words without any mark around them. It goes on over lines as long as they are
indented to the margin, and ends in front of a comment, a colon with white space behind it and, inside
brackets, in front of a comma or a bracket. -/

/-- The characters that end a plain scalar inside brackets. -/
def isFlowMark (c : Char) : Bool := c ∈ [',', '[', ']', '{', '}']

/-- The word at the start of a text, and what follows it. A colon right before a bracket, a comma or a
question mark is refused inside brackets. -/
def plainWord? (inFlow : Bool) : List Char → Option (List Char × List Char)
  | [] => some ([], [])
  | c :: rest =>
    if isSpacing c || isBreak c then some ([], c :: rest)
    else if inFlow && c = ':' && rest.head?.any (fun d => isFlowMark d || d = '?') then none
    else if (c = ':' && endsWord rest) || (inFlow && isFlowMark c) then some ([], c :: rest)
    else (plainWord? inFlow rest).map fun (word, rest) => (c :: word, rest)

/-- A scalar that was read: its text, the place behind it, and whether white space with a line break lies
between the two. -/
structure PlainText where
  text : List Char
  cursor : Cursor
  brokenOff : Bool

/-- Reads on at a word; `text` was read before, and then `gap`. -/
def plainFrom? (inFlow : Bool) (margin : Nat) : (fuel : Nat) → (text : List Char) → Gap → Cursor →
    Option PlainText
  | 0, text, _, cursor => some ⟨text, cursor, false⟩
  | fuel + 1, text, gap, cursor =>
    let done : Option PlainText := some ⟨text, cursor, !gap.breaks.isEmpty⟩
    if cursor.atDocumentMark || cursor.rest.head? = some '#' then done
    else do
      let (word, rest) ← plainWord? inFlow cursor.rest
      if word.isEmpty then done
      else
        let text := text ++ gap.fold ++ word
        let behind := cursor.skip word.length
        if rest.isEmpty || !endsWord rest then return ⟨text, behind, false⟩
        let (gap, next) ← behind.gap? margin
        if !inFlow && next.column < margin then return ⟨text, next, !gap.breaks.isEmpty⟩
        plainFrom? inFlow margin fuel text gap next

/-- Reads the plain scalar here. -/
def Cursor.plain? (cursor : Cursor) (inFlow : Bool) (margin : Nat) : Option PlainText :=
  plainFrom? inFlow margin (cursor.rest.length + 1) [] {} cursor

/-! ### Quoted scalars

Between single quotes only the quote itself is escaped, by writing it twice. Between double quotes a
backslash opens an escape, and one at the end of a line joins the line to the next. -/

/-- The two kinds of quotes. -/
inductive Quotes where
  | single
  | double
deriving DecidableEq, Repr

def Quotes.mark : Quotes → Char
  | single => '\''
  | double => '"'

/-- What one letter behind a backslash stands for. -/
def letterEscape? : Char → Option Char
  | '0' => some '\x00'
  | 'a' => some '\x07'
  | 'b' => some '\x08'
  | 't' => some '\t'
  | '\t' => some '\t'
  | 'n' => some '\n'
  | 'v' => some '\x0b'
  | 'f' => some '\x0c'
  | 'r' => some '\r'
  | 'e' => some '\x1b'
  | ' ' => some ' '
  | '"' => some '"'
  | '/' => some '/'
  | '\\' => some '\\'
  | 'N' => some '\u0085'
  | '_' => some '\u00a0'
  | 'L' => some '\u2028'
  | 'P' => some '\u2029'
  | _ => none

/-- The number of hexadecimal digits that a letter behind a backslash asks for. -/
def codeLength? : Char → Option Nat
  | 'x' => some 2
  | 'u' => some 4
  | 'U' => some 8
  | _ => none

def hexValue? (c : Char) : Option Nat :=
  if c.isDigit then some (c.toNat - '0'.toNat)
  else if 'a' ≤ c ∧ c ≤ 'f' then some (c.toNat - 'a'.toNat + 10)
  else if 'A' ≤ c ∧ c ≤ 'F' then some (c.toNat - 'A'.toNat + 10)
  else none

/-- The number that hexadecimal digits spell. -/
def ofHex? (digits : List Char) : Option Nat :=
  digits.foldlM (fun n c => (hexValue? c).map (16 * n + ·)) 0

/-- The character with a number, if there is one. -/
def charOf? (n : Nat) : Option Char := if n.isValidChar then some (Char.ofNat n) else none

/-- What an escape stands for, and how many characters belong to it behind its letter. -/
def escape? (letter : Char) (rest : List Char) : Option (Char × Nat) :=
  match letterEscape? letter, codeLength? letter with
  | some c, _ => some (c, 0)
  | none, some length => do
    let digits := rest.take length
    if digits.length < length then none
    return (← charOf? (← ofHex? digits), length)
  | none, none => none

/-- The word at the start of a text, with what follows it: white space, the closing quote, or a backslash at
the end of a line. -/
def quotedWord? (quotes : Quotes) (text : List Char) : Option (List Char × List Char) :=
  match text with
  | [] => some ([], [])
  | c :: rest =>
    if isSpacing c || isBreak c then some ([], c :: rest)
    else if c = quotes.mark then
      match quotes, rest with
      | .single, '\'' :: more => (quotedWord? quotes more).map fun (word, rest) => ('\'' :: word, rest)
      | _, _ => some ([], c :: rest)
    else if quotes = .double ∧ c = '\\' then
      match rest with
      | [] => none
      | letter :: more =>
        if isBreak letter then some ([], c :: rest)
        else do
          let (escaped, length) ← escape? letter more
          (quotedWord? quotes (more.drop length)).map fun (word, rest) => (escaped :: word, rest)
    else (quotedWord? quotes rest).map fun (word, rest) => (c :: word, rest)
termination_by text.length
decreasing_by all_goals simp_wf <;> omega

/-- Reads on behind the opening quote; `text` was read before. -/
def quotedFrom? (quotes : Quotes) : (fuel : Nat) → (text : List Char) → Cursor →
    Option (List Char × Cursor)
  | 0, _, _ => none
  | fuel + 1, text, cursor =>
    if cursor.atDocumentMark || cursor.rest.isEmpty then none
    else do
      let (word, rest) ← quotedWord? quotes cursor.rest
      let text := text ++ word
      let behind := cursor.skip (cursor.rest.length - rest.length)
      match rest with
      | [] => none
      | c :: _ =>
        if c = quotes.mark then return (text, behind.skip 1)
        -- an escaped break leaves no blank, so the gap starts behind it with an empty break
        let (start, from_) := if c = '\\' then ({ breaks := [[]] }, (behind.skip 1).break?.elim behind (·.2))
          else (({} : Gap), behind)
        let (gap, next) ← from_.gap? 0 start
        quotedFrom? quotes fuel (text ++ gap.fold) next

/-- Reads the quoted scalar whose opening quote is here. -/
def Cursor.quoted? (cursor : Cursor) (quotes : Quotes) : Option (List Char × Cursor) :=
  quotedFrom? quotes (cursor.rest.length + 1) [] (cursor.skip 1)

/-! ### Block scalars

A block scalar takes whole lines that are indented to its margin, as they are (`literal`) or with single
line breaks between unindented lines turned to spaces (`folded`). -/

/-- The two kinds of block scalars. -/
inductive BlockKind where
  | literal
  | folded
deriving DecidableEq, Repr

/-- What becomes of the line breaks at the end. -/
inductive Chomping where
  | strip
  | clip
  | keep
deriving DecidableEq, Repr

/-- The marks behind the indicator of a block scalar. -/
structure BlockHeader where
  chomping : Chomping := .clip
  /-- How far the lines are indented, if it is said. -/
  indent : Option Nat := none

/-- The sign that a character stands for. -/
def chomping? : Char → Option Chomping
  | '+' => some .keep
  | '-' => some .strip
  | _ => none

/-- Reads the marks behind the indicator: a sign and a digit other than zero, in either order, each of which
may be missing. -/
def blockHeader? (text : List Char) : Option (BlockHeader × Nat) :=
  let indentAt (text : List Char) : Option (Option Nat) :=
    match text with
    | c :: _ => if c = '0' then none else if c.isDigit then some (some (c.toNat - '0'.toNat)) else some none
    | [] => some none
  match text.head?.bind chomping? with
  | some chomping => do
    let indent ← indentAt text.tail
    return (⟨chomping, indent⟩, if indent.isSome then 2 else 1)
  | none => do
    match ← indentAt text with
    | none => return ({}, 0)
    | some indent =>
      match text.tail.head?.bind chomping? with
      | some chomping => return (⟨chomping, some indent⟩, 2)
      | none => return (⟨.clip, some indent⟩, 1)

/-- Skips empty lines and the indentation of the line behind them. Without a margin any number of spaces is
indentation. Gives the breaks and the width of the widest indentation; a tab in it is refused. -/
def emptyLines? (margin : Option Nat) : (fuel : Nat) → (breaks : List Char) → (widest : Nat) → Cursor →
    Option (List Char × Nat × Cursor)
  | 0, breaks, widest, cursor => some (breaks, widest, cursor)
  | fuel + 1, breaks, widest, cursor =>
    let spaces := (cursor.rest.takeWhile (· = ' ')).length
    let cursor := cursor.skip (margin.elim spaces fun margin => min spaces (margin - cursor.column))
    let widest := max widest cursor.column
    if cursor.rest.head? = some '\t' ∧ margin.all (cursor.column < ·) then none
    else
      match cursor.break? with
      | some (text, next) => emptyLines? margin fuel (breaks ++ text) widest next
      | none => some (breaks, widest, cursor)

/-- What was read of a block scalar: its text, the break behind its last line and the breaks of the empty lines
after that one. -/
structure BlockText where
  text : List Char := []
  lineBreak : List Char := []
  emptyBreaks : List Char := []
  /-- The last line starts with white space. -/
  indented : Bool := false

def BlockText.addLine (block : BlockText) (kind : BlockKind) (line lineBreak emptyBreaks : List Char) :
    BlockText :=
  let indented := line.head?.any isSpacing
  -- folding turns a single break between two lines that are not indented into a blank
  let joined :=
    if kind = .folded ∧ block.lineBreak.head? = some '\n' ∧ !block.indented ∧ !indented then
      if block.emptyBreaks.isEmpty then [' '] else []
    else block.lineBreak
  ⟨block.text ++ joined ++ block.emptyBreaks ++ line, lineBreak, emptyBreaks, indented⟩

/-- Reads the lines that are indented to the margin. -/
def blockLines? (kind : BlockKind) (margin : Nat) : (fuel : Nat) → BlockText → Cursor →
    Option (BlockText × Cursor)
  | 0, block, cursor => some (block, cursor)
  | fuel + 1, block, cursor =>
    if cursor.column ≠ margin || cursor.rest.isEmpty then some (block, cursor)
    else do
      let line := cursor.rest.takeWhile (!isBreak ·)
      let behind := cursor.skip line.length
      let (lineBreak, next) := behind.break?.getD ([], behind)
      let (emptyBreaks, _, next) ← emptyLines? (some margin) (next.rest.length + 1) [] 0 next
      blockLines? kind margin fuel (block.addLine kind line lineBreak emptyBreaks) next

/-- Reads the block scalar whose indicator is here; `outer` is the column of the block around it. -/
def Cursor.block? (cursor : Cursor) (kind : BlockKind) (outer : Option Nat) : Option (List Char × Cursor) := do
  let (header, length) ← blockHeader? cursor.rest.tail
  let start ← (cursor.skip (1 + length)).skipLineEnd?
  let given := header.indent.map (outer.getD 0 + ·)
  let (breaks, widest, first) ← emptyLines? given (start.rest.length + 1) [] 0 start
  -- without an indentation in the header, the empty lines and the first line set the margin
  let margin := given.getD (max (max widest (outer.elim 0 (· + 1))) 1)
  let (block, next) ← blockLines? kind margin (first.rest.length + 1) { emptyBreaks := breaks } first
  let ending := match header.chomping with
    | .strip => []
    | .clip => block.lineBreak
    | .keep => block.lineBreak ++ block.emptyBreaks
  return (block.text ++ ending, next)

/-- How a scalar was written. -/
inductive ScalarStyle where
  | plain
  | quoted (quotes : Quotes)
  | block (kind : BlockKind)
deriving DecidableEq, Repr

end RunCharts.Yaml
