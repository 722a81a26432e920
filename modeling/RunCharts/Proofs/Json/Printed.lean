import RunCharts.Proofs.Json.Grammar

/-! # The text of a value

The text that is written for a value stands for it (`denotes_print`), whatever its strings hold, as long as its numbers
are literals. -/

namespace RunCharts.Json

/-! ### Strings -/

theorem spellsChar_stringChar (c : Char) : SpellsChar (stringChar c) c := by
  unfold stringChar
  split
  · exact .letter rfl
  · exact .letter rfl
  · exact .letter rfl
  · exact .letter rfl
  · exact .letter rfl
  · exact .letter rfl
  · exact .letter rfl
  · split
    · rename_i hcontrol
      have hspelled : ∀ n < 0x20, Yaml.ofHex? ['0', '0', Nat.digitChar (n / 16), Nat.digitChar (n % 16)] = some n := by
        decide
      exact .unit ⟨rfl, hspelled _ hcontrol⟩
    · rename_i hplain
      exact .plain (Nat.le_of_not_lt hplain) (by assumption) (by assumption)

theorem spells_flatMap (text : List Char) : Spells (text.flatMap stringChar) text := by
  induction text with
  | nil => exact .nil
  | cons c rest ih => exact .cons (spellsChar_stringChar c) ih

/-! ### Arrays and objects -/

theorem isSpace_newLine (level : Nat) : ∀ c ∈ newLine level, IsSpace c := by
  refine List.forall_mem_cons.2 ⟨by decide, fun c hc => ?_⟩
  rw [List.eq_of_mem_replicate hc]
  decide

/-- An item behind the comma or the bracket in front of it. -/
def itemText (level : Nat) (item : Value) : List Char := newLine level ++ item.print level

/-- A field behind the comma or the bracket in front of it. -/
def fieldText (level : Nat) (field : List Char × Value) : List Char :=
  newLine level ++ printString field.1 ++ [':', ' '] ++ field.2.print level

theorem printItems_eq (level : Nat) (items : List Value) :
    printItems level items = items.flatMap fun item => ',' :: itemText level item := by
  induction items with
  | nil => rfl
  | cons item items ih => rw [printItems, ih, List.flatMap_cons, itemText, List.cons_append]

theorem printFields_eq (level : Nat) (fields : List (List Char × Value)) :
    printFields level fields = fields.flatMap fun field => ',' :: fieldText level field := by
  induction fields with
  | nil => rfl
  | cons field fields ih => rw [printFields, ih, List.flatMap_cons, fieldText, List.cons_append]

section

variable {α : Type} {R : List Char → α → Prop} {text : α → List Char} {back : List Char} {a : α} {items : List α}

theorem separated_flatMap (hback : ∀ c ∈ back, IsSpace c)
    (h : ∀ a' ∈ a :: items, ∀ after, (∀ c ∈ after, IsSpace c) → R (text a' ++ after) a') :
    Separated R (text a ++ ((items.flatMap fun a => ',' :: text a) ++ back)) (a :: items) := by
  obtain ⟨ha, hitems⟩ := List.forall_mem_cons.1 h
  induction items generalizing a with
  | nil => exact .one (ha back hback)
  | cons next items ih =>
    have hfirst := ha [] nofun
    rw [List.append_nil] at hfirst
    rw [List.flatMap_cons, List.cons_append, List.cons_append, List.append_assoc]
    exact .more hfirst (ih hitems (List.forall_mem_cons.1 hitems).1 (List.forall_mem_cons.1 hitems).2)

theorem bracketed_flatMap (left right : Char) (hback : ∀ c ∈ back, IsSpace c)
    (h : ∀ a' ∈ a :: items, ∀ after, (∀ c ∈ after, IsSpace c) → R (text a' ++ after) a') :
    Bracketed R left right (left :: (text a ++ (items.flatMap fun a => ',' :: text a) ++ back ++ [right]))
      (a :: items) := by
  rw [List.append_assoc (text a)]
  exact .items (separated_flatMap hback h)

theorem bracketed_nil (left right : Char) : Bracketed R left right [left, right] [] :=
  show Bracketed R left right (left :: ([] ++ [right])) [] from .empty nofun

end

theorem padded_itemText {level : Nat} {item : Value} (h : Denotes (item.print level) item) {after : List Char}
    (hafter : ∀ c ∈ after, IsSpace c) : Padded Denotes (itemText level item ++ after) item := by
  rw [itemText, List.append_assoc]
  exact .mk (isSpace_newLine level) h hafter

theorem member_fieldText {level : Nat} {field : List Char × Value} (h : Denotes (field.2.print level) field.2)
    {after : List Char} (hafter : ∀ c ∈ after, IsSpace c) : Member Denotes (fieldText level field ++ after) field := by
  have hblank : ∀ c ∈ [' '], IsSpace c := List.forall_mem_singleton.2 (by decide)
  have htext : fieldText level field ++ after = newLine level ++
      '"' :: (field.1.flatMap stringChar ++ '"' :: ([] ++ ':' :: ([' '] ++ (field.2.print level ++ after)))) := by
    simp [fieldText, printString]
  rw [htext]
  exact .mk (isSpace_newLine level) (spells_flatMap field.1) nofun (.mk hblank h hafter)

/-! ### Values -/

/-- Every number in the value is a literal of the grammar. -/
inductive Value.HasNumbers : Value → Prop
  | null : HasNumbers .null
  | boolean (value) : HasNumbers (.boolean value)
  | number {literal} : IsNumber literal → HasNumbers (.number literal)
  | string (text) : HasNumbers (.string text)
  | array {items} : (∀ item ∈ items, HasNumbers item) → HasNumbers (.array items)
  | object {fields} : (∀ field ∈ fields, HasNumbers field.2) → HasNumbers (.object fields)

theorem denotes_print {value : Value} (h : value.HasNumbers) (level : Nat) : Denotes (value.print level) value := by
  induction h generalizing level with
  | null => exact .null
  | boolean value =>
    rw [Value.print]
    exact .boolean value
  | number hnumber =>
    rw [Value.print]
    exact .number hnumber
  | string text =>
    rw [Value.print]
    exact .string (spells_flatMap text)
  | @array items _ ih =>
    refine .array ?_
    cases items with
    | nil =>
      rw [Value.print]
      exact bracketed_nil '[' ']'
    | cons item items =>
      rw [Value.print, printItems_eq]
      exact bracketed_flatMap '[' ']' (isSpace_newLine level) fun item hitem after hafter =>
        padded_itemText (ih item hitem _) hafter
  | @object fields _ ih =>
    refine .object ?_
    cases fields with
    | nil =>
      rw [Value.print]
      exact bracketed_nil '\x7b' '\x7d'
    | cons field fields =>
      rw [Value.print, printFields_eq]
      exact bracketed_flatMap '\x7b' '\x7d' (isSpace_newLine level) fun field hfield after hafter =>
        member_fieldText (ih field hfield _) hafter

/-- The text of a value is a document that stands for it. -/
theorem isDocument_print {value : Value} (h : value.HasNumbers) : IsDocument (value.print 0) value := by
  have hnone : ∀ c ∈ ([] : List Char), IsSpace c := nofun
  have hdocument := Padded.mk hnone (denotes_print h 0) hnone
  rwa [List.nil_append, List.append_nil] at hdocument

end RunCharts.Json
