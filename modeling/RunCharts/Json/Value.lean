/-! # JSON values

Values are laid out over lines: one item or field on each, indented by two blanks for each level, and
nothing between the brackets of an empty array or object. -/

namespace RunCharts.Json

/-- A JSON value. A number is kept as it is written. -/
inductive Value where
  | null
  | boolean (value : Bool)
  | number (literal : List Char)
  | string (text : List Char)
  | array (items : List Value)
  | object (fields : List (List Char × Value))

/-- How one character is spelled inside a string. -/
def stringChar (c : Char) : List Char :=
  match c with
  | '"' => ['\\', '"']
  | '\\' => ['\\', '\\']
  | '\x08' => ['\\', 'b']
  | '\x0c' => ['\\', 'f']
  | '\n' => ['\\', 'n']
  | '\r' => ['\\', 'r']
  | '\t' => ['\\', 't']
  | c =>
    if c.toNat < 0x20 then
      '\\' :: 'u' :: '0' :: '0' :: [Nat.digitChar (c.toNat / 16), Nat.digitChar (c.toNat % 16)]
    else [c]

def printString (text : List Char) : List Char := '"' :: (text.flatMap stringChar ++ ['"'])

/-- The start of a line at a level. -/
def newLine (level : Nat) : List Char := '\n' :: List.replicate (2 * level) ' '

mutual

/-- The text of a value that stands at a level. -/
def Value.print (level : Nat) : Value → List Char
  | .null => "null".toList
  | .boolean value => (if value then "true" else "false").toList
  | .number literal => literal
  | .string text => printString text
  | .array [] => ['[', ']']
  | .array (item :: items) =>
    '[' :: (newLine (level + 1) ++ item.print (level + 1) ++ printItems (level + 1) items ++
      newLine level ++ [']'])
  | .object [] => ['\x7b', '\x7d']
  | .object ((name, value) :: fields) =>
    '\x7b' :: (newLine (level + 1) ++ printString name ++ [':', ' '] ++ value.print (level + 1) ++
      printFields (level + 1) fields ++ newLine level ++ ['\x7d'])

/-- The items of an array behind its first. -/
def printItems (level : Nat) : List Value → List Char
  | [] => []
  | item :: items => ',' :: (newLine level ++ item.print level ++ printItems level items)

/-- The fields of an object behind its first. -/
def printFields (level : Nat) : List (List Char × Value) → List Char
  | [] => []
  | (name, value) :: fields =>
    ',' :: (newLine level ++ printString name ++ [':', ' '] ++ value.print level ++ printFields level fields)

end

def Value.render (value : Value) : String := String.ofList (value.print 0)

end RunCharts.Json
