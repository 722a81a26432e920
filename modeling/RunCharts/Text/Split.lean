/-! # Cutting and searching text

Texts are lists of characters, so that each function here is one recursion on the data. -/

namespace RunCharts.Text

/-- The fields between separators; a text without a separator is one field. -/
def fields (sep : Char) : List Char → List (List Char)
  | [] => [[]]
  | c :: rest => if c = sep then [] :: fields sep rest else (fields sep rest).modifyHead (c :: ·)

/-- What stands before and after the first separator, if there is one. -/
def splitOnce? (sep : Char) : List Char → Option (List Char × List Char)
  | [] => none
  | c :: rest =>
    if c = sep then some ([], rest)
    else (splitOnce? sep rest).map fun (before, after) => (c :: before, after)

/-- Whether `needle` occurs in the text, as one stretch of it. -/
def occursIn (needle : List Char) : List Char → Bool
  | [] => needle.isEmpty
  | c :: rest => needle.isPrefixOf (c :: rest) || occursIn needle rest

theorem occursIn_iff {needle text : List Char} : occursIn needle text = true ↔ needle <:+: text := by
  induction text with
  | nil => simp [occursIn]
  | cons c rest ih => simp [occursIn, ih, List.infix_cons_iff]

theorem fields_ne_nil (sep : Char) (text : List Char) : fields sep text ≠ [] := by
  induction text with
  | nil => simp [fields]
  | cons c rest ih =>
    simp only [fields]
    split
    · simp
    · cases h : fields sep rest with
      | nil => exact absurd h ih
      | cons f fs => simp

/-- The fields with the separators between them give the text back. -/
theorem intercalate_fields (sep : Char) (text : List Char) : [sep].intercalate (fields sep text) = text := by
  induction text with
  | nil => simp [fields]
  | cons c rest ih =>
    simp only [fields]
    cases h : fields sep rest with
    | nil => exact absurd h (fields_ne_nil sep rest)
    | cons f fs =>
      rw [h] at ih
      split
      · subst c; simp [List.intercalate, List.intersperse] at ih ⊢; simpa using ih
      · cases fs <;> simp_all [List.intercalate, List.intersperse]

end RunCharts.Text
