import RunCharts.Yaml.Scalar
import RunCharts.Yaml.Property

/-! # From a text to tokens

A scanner reads one token after the other. A scalar, an alias, a property or a bracket may turn out to be
the key of a mapping when a colon follows on the same line; until that is settled, the tokens from there
on are held back, because a key token, and the start of a block mapping, may have to go in front of them.
`tokens` gives the tokens that come out before the text ends or breaks a rule; only a text that was read
to its end has the token `streamEnd`. -/

namespace RunCharts.Yaml

/-- A place that may turn out to be the start of a key. -/
structure Candidate where
  /-- The number of tokens in front of it. -/
  position : Nat
  index : Nat
  line : Nat
  column : Nat
  /-- It stands where a block mapping must go on, so it has to become a key. -/
  required : Bool

/-- The state of a scan. -/
structure Scanner where
  cursor : Cursor
  tokens : List Token := []
  /-- The columns of the open blocks, the innermost first. -/
  columns : List Nat := []
  /-- The candidate of each open bracket, the innermost first, and that of the blocks around them. -/
  candidates : List (Option Candidate) := [none]
  /-- A key may start here. -/
  keyAllowed : Bool := true

namespace Scanner

/-- Whether the scan is inside brackets. -/
def inFlow (scan : Scanner) : Bool := 1 < scan.candidates.length

/-- The least column of what belongs to the innermost block. -/
def margin (scan : Scanner) : Nat := scan.columns.head?.elim 0 (· + 1)

def push (scan : Scanner) (token : Token) : Scanner := { scan with tokens := scan.tokens ++ [token] }

/-- Adds a token and goes on at another place. -/
def pushAt (scan : Scanner) (token : Token) (cursor : Cursor) : Scanner := { scan.push token with cursor }

/-- Says whether a key may start at the next token. -/
def allowKey (scan : Scanner) (keyAllowed : Bool) : Scanner := { scan with keyAllowed }

/-- Gives the innermost candidate up; a required one must not be given up. -/
def dropCandidate? (scan : Scanner) : Option Scanner :=
  match scan.candidates with
  | some candidate :: outer =>
    if candidate.required then none else some { scan with candidates := none :: outer }
  | _ => some scan

/-- Makes the next token a candidate, if a key may start there. -/
def saveCandidate? (scan : Scanner) : Option Scanner := do
  if !scan.keyAllowed then return scan
  let required := !scan.inFlow && scan.columns.head? = some scan.cursor.column
  let candidate : Candidate := {
    position := scan.tokens.length
    index := scan.cursor.index
    line := scan.cursor.line
    column := scan.cursor.column
    required }
  let scan ← scan.dropCandidate?
  return { scan with candidates := some candidate :: scan.candidates.tail }

/-- Gives up the candidates that lie on an earlier line or more than 1024 characters back. -/
def dropStale? (scan : Scanner) : Option Scanner := do
  let isStale (candidate : Candidate) : Bool :=
    candidate.line < scan.cursor.line || candidate.index + 1024 < scan.cursor.index
  -- where a block mapping must go on, a line without a colon breaks the rules
  if scan.candidates.any (·.any fun candidate => isStale candidate && candidate.required) then none
  return { scan with candidates := scan.candidates.map (·.filter (!isStale ·)) }

/-- Opens a block at a column that is further in, its start token at the given position. -/
def openBlock (scan : Scanner) (column position : Nat) (token : Token) : Scanner :=
  if scan.inFlow || column < scan.margin then scan
  else { scan with
    columns := column :: scan.columns
    tokens := scan.tokens.insertIdx position token }

/-- Closes the blocks that `inner` says. -/
def closeBlocks (scan : Scanner) (inner : Nat → Bool) : Scanner :=
  if scan.inFlow then scan
  else
    let closed := scan.columns.takeWhile inner
    { scan with
      columns := scan.columns.drop closed.length
      tokens := scan.tokens ++ closed.map fun _ => Token.blockEnd }

/-- Skips blanks, comments and line breaks, at most `fuel` of them. Tabs count as blanks only where no key
can start. -/
def skipBlanks : (fuel : Nat) → Scanner → Scanner
  | 0, scan => scan
  | fuel + 1, scan =>
    let atByteOrderMark := scan.cursor.index = 0 && scan.cursor.rest.head? = some '\uFEFF'
    let cursor := if atByteOrderMark then scan.cursor.skip 1 else scan.cursor
    let cursor := cursor.skipWhile fun c => c = ' ' || (c = '\t' && (scan.inFlow || !scan.keyAllowed))
    let cursor := if cursor.rest.head? = some '#' then cursor.skipWhile (!isBreak ·) else cursor
    match cursor.break? with
    | some (_, next) =>
      skipBlanks fuel { scan with cursor := next, keyAllowed := scan.keyAllowed || !scan.inFlow }
    | none => { scan with cursor }

def readEnd? (scan : Scanner) : Option Scanner := do
  let cursor := scan.cursor
  -- the end of the text ends its last line
  let cursor := if cursor.column = 0 then cursor else { cursor with line := cursor.line + 1, column := 0 }
  let scan ← ({ scan with cursor }.closeBlocks fun _ => true).dropCandidate?
  return (scan.allowKey false).push .streamEnd

/-- Reads what stands at the start of a line and ends all blocks: a directive or the mark of a document. -/
def readLineStart? (scan : Scanner) (token : Token) (next : Cursor) : Option Scanner := do
  let scan ← (scan.closeBlocks fun _ => true).dropCandidate?
  return (scan.allowKey false).pushAt token next

def readOpening? (scan : Scanner) (token : Token) : Option Scanner := do
  let scan ← scan.saveCandidate?
  let scan := { scan with candidates := none :: scan.candidates }
  return (scan.allowKey true).pushAt token (scan.cursor.skip 1)

def readClosing? (scan : Scanner) (token : Token) : Option Scanner := do
  let scan ← scan.dropCandidate?
  let scan := if scan.inFlow then { scan with candidates := scan.candidates.tail } else scan
  return (scan.allowKey false).pushAt token (scan.cursor.skip 1)

def readComma? (scan : Scanner) : Option Scanner := do
  let scan ← scan.dropCandidate?
  return (scan.allowKey true).pushAt .flowEntry (scan.cursor.skip 1)

def readDash? (scan : Scanner) : Option Scanner := do
  if !scan.inFlow && !scan.keyAllowed then none
  let scan ← (scan.openBlock scan.cursor.column scan.tokens.length .blockSequenceStart).dropCandidate?
  return (scan.allowKey true).pushAt .blockEntry (scan.cursor.skip 1)

/-- Reads the question mark in front of a key. -/
def readQuestion? (scan : Scanner) : Option Scanner := do
  if !scan.inFlow && !scan.keyAllowed then none
  let scan ← (scan.openBlock scan.cursor.column scan.tokens.length .blockMappingStart).dropCandidate?
  return (scan.allowKey (!scan.inFlow)).pushAt .key (scan.cursor.skip 1)

/-- Reads the colon in front of a value. A candidate becomes a key by it. -/
def readColon? (scan : Scanner) : Option Scanner := do
  let next := scan.cursor.skip 1
  match scan.candidates with
  | some candidate :: outer =>
    let scan := { scan with
      tokens := scan.tokens.insertIdx candidate.position .key
      candidates := none :: outer }
    -- at the same position, so that the mapping starts in front of its first key
    let scan := scan.openBlock candidate.column candidate.position .blockMappingStart
    return (scan.allowKey false).pushAt .value next
  | _ =>
    -- a value without a key, or behind one that a question mark announced
    if !scan.inFlow && !scan.keyAllowed then none
    let scan := scan.openBlock scan.cursor.column scan.tokens.length .blockMappingStart
    return (scan.allowKey (!scan.inFlow)).pushAt .value next

/-- Reads a token that may be a key or the first part of one. -/
def readKeyLike? (scan : Scanner) (read? : Scanner → Option (Token × Cursor)) : Option Scanner := do
  let scan ← scan.saveCandidate?
  let (token, next) ← read? scan
  return (scan.allowKey false).pushAt token next

/-- Reads a plain scalar. A key may start behind it if it ends at a line break. -/
def readPlain? (scan : Scanner) : Option Scanner := do
  let scan ← scan.saveCandidate?
  let plain ← scan.cursor.plain? scan.inFlow scan.margin
  return (scan.allowKey plain.brokenOff).pushAt (.scalar plain.text .plain) plain.cursor

def readBlock? (scan : Scanner) (kind : BlockKind) : Option Scanner := do
  let scan ← scan.dropCandidate?
  let (text, next) ← scan.cursor.block? kind scan.columns.head?
  return (scan.allowKey true).pushAt (.scalar text (.block kind)) next

def readQuoted? (scan : Scanner) (quotes : Quotes) : Option Scanner :=
  scan.readKeyLike? fun scan => do
    let (text, next) ← scan.cursor.quoted? quotes
    return (.scalar text (.quoted quotes), next)

/-- The characters that no plain scalar starts with, but for some of them in front of a word. -/
def isIndicator (c : Char) : Bool :=
  c ∈ ['-', '?', ':', ',', '[', ']', '{', '}', '#', '&', '*', '!', '|', '>', '\'', '"', '%', '@', '\x60']

/-- Reads the token that starts with the character `c`, `rest` being what follows it. -/
def readToken? (scan : Scanner) (c : Char) (rest : List Char) : Option Scanner :=
  let cursor := scan.cursor
  if cursor.column = 0 ∧ c = '%' then do
    -- the blocks are closed before the directive is read
    let (token, next) ← cursor.directive?
    scan.readLineStart? token next
  else if cursor.atMark "---" then scan.readLineStart? .documentStart (cursor.skip 3)
  else if cursor.atMark "..." then scan.readLineStart? .documentEnd (cursor.skip 3)
  else match c with
    | '[' => scan.readOpening? .flowSequenceStart
    | '{' => scan.readOpening? .flowMappingStart
    | ']' => scan.readClosing? .flowSequenceEnd
    | '}' => scan.readClosing? .flowMappingEnd
    | ',' => scan.readComma?
    | '*' => scan.readKeyLike? fun scan => scan.cursor.name?.map fun (name, next) => (.alias name, next)
    | '&' => scan.readKeyLike? fun scan => scan.cursor.name?.map fun (name, next) => (.anchor name, next)
    | '!' =>
      scan.readKeyLike? fun scan => (scan.cursor.tag? scan.inFlow).map fun (tag, next) => (.tag tag, next)
    | '\'' => scan.readQuoted? .single
    | '"' => scan.readQuoted? .double
    | _ =>
      if c = '-' ∧ endsWord rest then scan.readDash?
      else if c = '?' ∧ (scan.inFlow ∨ endsWord rest) then scan.readQuestion?
      else if c = ':' ∧ (scan.inFlow ∨ endsWord rest) then scan.readColon?
      else if c = '|' ∧ !scan.inFlow then scan.readBlock? .literal
      else if c = '>' ∧ !scan.inFlow then scan.readBlock? .folded
      else if !(isIndicator c || endsWord [c]) || c = '-' || (!scan.inFlow && (c = '?' || c = ':')) then
        scan.readPlain?
      else none

def step? (scan : Scanner) : Option Scanner := do
  let scan ← (scan.skipBlanks (scan.cursor.rest.length + 1)).dropStale?
  let scan := scan.closeBlocks (scan.cursor.column < ·)
  let scan ← match scan.cursor.rest with
    | [] => scan.readEnd?
    | c :: rest => scan.readToken? c rest
  scan.dropStale?

/-- The tokens in front of the first candidate: nothing can be put between them any more. -/
def settled (scan : Scanner) : List Token :=
  let positions := scan.candidates.filterMap (·.map Candidate.position)
  scan.tokens.take (positions.foldl min scan.tokens.length)

/-- Reads tokens to the end of the text, at most `fuel` of them, and gives those that are settled. -/
def run : (fuel : Nat) → Scanner → List Token
  | 0, scan => scan.settled
  | fuel + 1, scan =>
    match scan.step? with
    | none => scan.settled
    | some next => if next.tokens.getLast? = some .streamEnd then next.tokens else run fuel next

end Scanner

/-- The characters that a text may hold. -/
def isAllowed (c : Char) : Bool :=
  c ∈ ['\t', '\n', '\r', '\u0085'] || (0x20 ≤ c.toNat && c.toNat ≤ 0x7E) ||
    (0xA0 ≤ c.toNat && c.toNat ≤ 0xFFFD) || 0x10000 ≤ c.toNat

/-- The tokens of a text up to its end or to the first place that breaks a rule. A byte order mark in front of
the text is skipped; a text with a character that is not allowed has no tokens. -/
def tokens (text : List Char) : List Token :=
  let text := if text.head? = some '\uFEFF' then text.tail else text
  if text.all isAllowed then Scanner.run (text.length + 2) { cursor := ⟨text, 0, 0, 0⟩ } else []

end RunCharts.Yaml
