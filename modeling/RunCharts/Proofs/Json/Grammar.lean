import Mathlib.Tactic.IntervalCases
import RunCharts.Json.Value
import RunCharts.Proofs.Json.Number
import RunCharts.Yaml.Scalar

/-! # The grammar of JSON

`Denotes` says which texts stand for a value: blanks may stand around values, names and marks, and the characters
of a string may be escaped. A text stands for one value only (`IsDocument.unique`). What carries this through arrays
and objects is that an item ends where a comma or a closing bracket follows (`Unambiguous`), whatever is inside it. -/

namespace RunCharts.Json

/-! ### Strings -/

/-- The number that four hexadecimal digits spell. -/
def SpellsUnit (digits : List Char) (unit : Nat) : Prop := digits.length = 4 ∧ Yaml.ofHex? digits = some unit

/-- What a letter behind a backslash stands for. -/
def letterEscape? : Char → Option Char
  | '"' => some '"'
  | '\\' => some '\\'
  | '/' => some '/'
  | 'b' => some '\x08'
  | 'f' => some '\x0c'
  | 'n' => some '\n'
  | 'r' => some '\r'
  | 't' => some '\t'
  | _ => none

/-- How a character may be written inside a string. One beyond 16 bits is escaped as two halves. A half is the number of
no character, so it spells nothing alone. -/
inductive SpellsChar : List Char → Char → Prop
  | plain {c} : 0x20 ≤ c.toNat → c ≠ '"' → c ≠ '\\' → SpellsChar [c] c
  | letter {letter c} : letterEscape? letter = some c → SpellsChar ['\\', letter] c
  | unit {digits c} : SpellsUnit digits c.toNat → SpellsChar ('\\' :: 'u' :: digits) c
  | pair {digits digits' high low c} : SpellsUnit digits (0xD800 + high) → SpellsUnit digits' (0xDC00 + low) →
      high < 0x400 → low < 0x400 → c.toNat = 0x10000 + 0x400 * high + low →
      SpellsChar ('\\' :: 'u' :: (digits ++ '\\' :: 'u' :: digits')) c

/-- What may stand between the quotes of a string. -/
inductive Spells : List Char → List Char → Prop
  | nil : Spells [] []
  | cons {text c more rest} : SpellsChar text c → Spells more rest → Spells (text ++ more) (c :: rest)

/-! ### Values -/

/-- White space between the parts of a text. -/
def IsSpace (c : Char) : Prop := c ∈ [' ', '\t', '\n', '\r']

/-- The marks that follow an item. -/
def IsClosing (c : Char) : Prop := c ∈ [',', ']', '\x7d']

/-- What may follow a value. -/
def FollowsValue (c : Char) : Prop := IsSpace c ∨ IsClosing c

instance : DecidablePred IsSpace := fun c => inferInstanceAs (Decidable (c ∈ [' ', '\t', '\n', '\r']))

instance : DecidablePred IsClosing := fun c => inferInstanceAs (Decidable (c ∈ [',', ']', '\x7d']))

section

variable {α : Type}

/-- An item with white space around it. -/
inductive Padded (R : List Char → α → Prop) : List Char → α → Prop
  | mk {before text after a} : (∀ c ∈ before, IsSpace c) → R text a → (∀ c ∈ after, IsSpace c) →
      Padded R (before ++ (text ++ after)) a

/-- An item behind its name. -/
inductive Member (R : List Char → α → Prop) : List Char → List Char × α → Prop
  | mk {name text key a} {before after : List Char} : (∀ c ∈ before, IsSpace c) → Spells name key →
      (∀ c ∈ after, IsSpace c) → Padded R text a →
      Member R (before ++ '"' :: (name ++ '"' :: (after ++ ':' :: text))) (key, a)

/-- Items with commas between them. -/
inductive Separated (R : List Char → α → Prop) : List Char → List α → Prop
  | one {text a} : R text a → Separated R text [a]
  | more {text a rest items} : R text a → Separated R rest items → Separated R (text ++ ',' :: rest) (a :: items)

/-- Items between brackets, or nothing but white space between them. -/
inductive Bracketed (R : List Char → α → Prop) (left right : Char) : List Char → List α → Prop
  | empty {gap} : (∀ c ∈ gap, IsSpace c) → Bracketed R left right (left :: (gap ++ [right])) []
  | items {text items} : Separated R text items → Bracketed R left right (left :: (text ++ [right])) items

end

/-- The text stands for the value. -/
inductive Denotes : List Char → Value → Prop
  | null : Denotes "null".toList .null
  | boolean (value) : Denotes (if value then "true" else "false").toList (.boolean value)
  | number {literal} : IsNumber literal → Denotes literal (.number literal)
  | string {text content} : Spells text content → Denotes ('"' :: (text ++ ['"'])) (.string content)
  | array {text items} : Bracketed (Padded Denotes) '[' ']' text items → Denotes text (.array items)
  | object {text fields} : Bracketed (Member Denotes) '\x7b' '\x7d' text fields → Denotes text (.object fields)

/-- A whole text is one value, with white space around it. -/
def IsDocument (text : List Char) (value : Value) : Prop := Padded Denotes text value

/-! ### Strings are read in one way -/

theorem SpellsUnit.unique {digits digits' rest rest' : List Char} {unit unit' : Nat} (h : SpellsUnit digits unit)
    (h' : SpellsUnit digits' unit') (heq : digits ++ rest = digits' ++ rest') :
    digits = digits' ∧ unit = unit' ∧ rest = rest' := by
  obtain ⟨rfl, hrest⟩ := List.append_inj heq (h.1.trans h'.1.symm)
  exact ⟨rfl, Option.some.inj (h.2.symm.trans h'.2), hrest⟩

/-- The first half of an escaped character is the number of no character. -/
theorem toNat_ne_high (c : Char) {high : Nat} (h : high < 0x400) : c.toNat ≠ 0xD800 + high := by
  have hvalid := c.valid
  unfold UInt32.isValidChar Nat.isValidChar at hvalid
  have htoNat : c.toNat = c.val.toNat := rfl
  omega

theorem SpellsChar.unique {text text' rest rest' : List Char} {c c' : Char} (h : SpellsChar text c)
    (h' : SpellsChar text' c') (heq : text ++ rest = text' ++ rest') : text = text' ∧ c = c' := by
  -- the first two characters tell the ways of writing apart, but for the two that begin with a number of 16 bits
  have hu {c : Char} : letterEscape? 'u' ≠ some c := nofun
  cases h with
  | plain _ _ hbackslash =>
    cases h' with
    | plain =>
      obtain ⟨rfl, -⟩ := List.cons_eq_cons.1 heq
      exact ⟨rfl, rfl⟩
    | letter | unit | pair => exact absurd (List.cons_eq_cons.1 heq).1 hbackslash
  | letter hletter =>
    cases h' with
    | plain _ _ hbackslash => exact absurd (List.cons_eq_cons.1 heq).1.symm hbackslash
    | letter hletter' =>
      obtain ⟨rfl, -⟩ := List.cons_eq_cons.1 (List.cons.inj heq).2
      exact ⟨rfl, Option.some.inj (hletter.symm.trans hletter')⟩
    | unit | pair =>
      rw [(List.cons_eq_cons.1 (List.cons.inj heq).2).1] at hletter
      exact absurd hletter hu
  | unit hunit =>
    cases h' with
    | plain _ _ hbackslash => exact absurd (List.cons_eq_cons.1 heq).1.symm hbackslash
    | letter hletter =>
      rw [← (List.cons_eq_cons.1 (List.cons.inj heq).2).1] at hletter
      exact absurd hletter hu
    | unit hunit' =>
      obtain ⟨rfl, hsame, -⟩ := hunit.unique hunit' (List.cons.inj (List.cons.inj heq).2).2
      exact ⟨rfl, Char.toNat_inj.1 hsame⟩
    | pair hfirst _ hhigh =>
      simp only [List.cons_append, List.append_assoc] at heq
      obtain ⟨-, hsame, -⟩ := hunit.unique hfirst (List.cons.inj (List.cons.inj heq).2).2
      exact absurd hsame (toNat_ne_high _ hhigh)
  | pair hfirst hsecond hhigh hlow hc =>
    simp only [List.cons_append, List.append_assoc] at heq
    cases h' with
    | plain _ _ hbackslash => exact absurd (List.cons_eq_cons.1 heq).1.symm hbackslash
    | letter hletter =>
      rw [← (List.cons_eq_cons.1 (List.cons.inj heq).2).1] at hletter
      exact absurd hletter hu
    | unit hunit =>
      obtain ⟨-, hsame, -⟩ := hfirst.unique hunit (List.cons.inj (List.cons.inj heq).2).2
      exact absurd hsame.symm (toNat_ne_high _ hhigh)
    | pair hfirst' hsecond' hhigh' hlow' hc' =>
      simp only [List.cons_append, List.append_assoc] at heq
      obtain ⟨rfl, hsame, hrest⟩ := hfirst.unique hfirst' (List.cons.inj (List.cons.inj heq).2).2
      obtain ⟨rfl, hsame', -⟩ := hsecond.unique hsecond' (List.cons.inj (List.cons.inj hrest).2).2
      exact ⟨rfl, Char.toNat_inj.1 (by omega)⟩

theorem SpellsChar.exists_cons {text : List Char} {c : Char} (h : SpellsChar text c) :
    ∃ first rest, text = first :: rest ∧ first ≠ '"' := by
  cases h with
  | plain _ hquote _ => exact ⟨_, _, rfl, hquote⟩
  | letter | unit | pair => exact ⟨_, _, rfl, by decide⟩

/-- A string ends at the first quote that is not escaped. -/
theorem Spells.unique {text text' content content' rest rest' : List Char} (h : Spells text content)
    (h' : Spells text' content') (heq : text ++ '"' :: rest = text' ++ '"' :: rest') :
    text = text' ∧ content = content' ∧ rest = rest' := by
  have hquote {text more rest rest' : List Char} {c : Char} (h : SpellsChar text c) :
      '"' :: rest ≠ text ++ more ++ rest' := fun heq => by
    obtain ⟨first, tail, rfl, hfirst⟩ := h.exists_cons
    exact hfirst (List.cons_eq_cons.1 heq).1.symm
  induction h generalizing text' content' with
  | nil =>
    cases h' with
    | nil => exact ⟨rfl, rfl, (List.cons_eq_cons.1 heq).2⟩
    | cons hc => exact absurd heq (hquote hc)
  | cons hc _ ih =>
    cases h' with
    | nil => exact absurd heq.symm (hquote hc)
    | cons hc' hmore' =>
      rw [List.append_assoc, List.append_assoc] at heq
      obtain ⟨rfl, rfl⟩ := hc.unique hc' heq
      obtain ⟨rfl, rfl, hrest⟩ := ih hmore' (List.append_cancel_left heq)
      exact ⟨rfl, rfl, hrest⟩

/-! ### Items end where a mark follows -/

section

variable {α : Type} {R : List Char → α → Prop} {stops : Char → Prop} {a : α}

/-- Where something follows that stops an item, there is one way to read the item. -/
def Unambiguous (R : List Char → α → Prop) (stops : Char → Prop) (a : α) : Prop :=
  ∀ ⦃text text' : List Char⦄ ⦃a' : α⦄ ⦃rest rest' : List Char⦄, R text a → R text' a' →
    (∀ c ∈ rest.head?, stops c) → (∀ c ∈ rest'.head?, stops c) → text ++ rest = text' ++ rest' →
    text = text' ∧ a = a'

/-- The item does not begin with white space, nor with a mark that follows items. -/
def Begins (R : List Char → α → Prop) : Prop :=
  ∀ ⦃text a⦄, R text a → ∃ c rest, text = c :: rest ∧ ¬ IsSpace c ∧ ¬ IsClosing c

theorem not_isSpace_of_isClosing {c : Char} (h : IsClosing c) : ¬ IsSpace c := by
  have hmarks : [',', ']', '\x7d'].all (¬ IsSpace ·) = true := by decide
  exact of_decide_eq_true (List.all_eq_true.1 hmarks c h)

/-- White space ends where something else follows. -/
theorem eq_of_space {gap gap' rest rest' : List Char} {c c' : Char} (hgap : ∀ c ∈ gap, IsSpace c)
    (hgap' : ∀ c ∈ gap', IsSpace c) (hc : ¬ IsSpace c) (hc' : ¬ IsSpace c')
    (heq : gap ++ c :: rest = gap' ++ c' :: rest') : gap = gap' ∧ c = c' ∧ rest = rest' := by
  obtain ⟨rfl, hsame⟩ := eq_of_run hgap hgap' (by rintro _ ⟨⟩; exact hc) (by rintro _ ⟨⟩; exact hc') heq
  exact ⟨rfl, List.cons_eq_cons.1 hsame⟩

/-- The white space in front ends where the item begins. Behind the item it is not part of it, and ends at the mark that
follows. -/
theorem Padded.unambiguous (hbegins : Begins R) (h : Unambiguous R FollowsValue a) :
    Unambiguous (Padded R) IsClosing a := by
  rintro _ _ a' rest rest' ⟨hbefore, htext, hafter⟩ ⟨hbefore', htext', hafter'⟩ hrest hrest' heq
  have hspace {rest : List Char} (hrest : ∀ c ∈ rest.head?, IsClosing c) : ∀ c ∈ rest.head?, ¬ IsSpace c :=
    fun c hc => not_isSpace_of_isClosing (hrest c hc)
  have hstops {after rest : List Char} (hafter : ∀ c ∈ after, IsSpace c) (hrest : ∀ c ∈ rest.head?, IsClosing c) :
      ∀ c ∈ (after ++ rest).head?, FollowsValue c := by
    intro c hc
    rcases after with _ | ⟨first, after⟩
    · exact .inr (hrest c hc)
    · cases hc
      exact .inl (hafter _ List.mem_cons_self)
  obtain ⟨c, tail, rfl, hc, -⟩ := hbegins htext
  obtain ⟨c', tail', rfl, hc', -⟩ := hbegins htext'
  simp only [List.append_assoc, List.cons_append] at heq
  obtain ⟨rfl, rfl, htail⟩ := eq_of_space hbefore hbefore' hc hc' heq
  obtain ⟨hsame, rfl⟩ := h htext htext' (hstops hafter hrest) (hstops hafter' hrest')
    (congrArg (List.cons c) htail)
  obtain rfl := (List.cons.inj hsame).2
  obtain ⟨rfl, -⟩ := eq_of_run hafter hafter' (hspace hrest) (hspace hrest') (List.append_cancel_left htail)
  exact ⟨rfl, rfl⟩

theorem Member.unambiguous {name : List Char} (h : Unambiguous (Padded R) IsClosing a) :
    Unambiguous (Member R) IsClosing (name, a) := by
  have hquote : ¬ IsSpace '"' := by decide
  have hcolon : ¬ IsSpace ':' := by decide
  rintro _ _ _ rest rest' ⟨hbefore, hname, hafter, htext⟩ ⟨hbefore', hname', hafter', htext'⟩ hrest hrest' heq
  simp only [List.append_assoc, List.cons_append] at heq
  obtain ⟨rfl, -, heq⟩ := eq_of_space hbefore hbefore' hquote hquote heq
  obtain ⟨rfl, rfl, heq⟩ := hname.unique hname' heq
  obtain ⟨rfl, -, heq⟩ := eq_of_space hafter hafter' hcolon hcolon heq
  obtain ⟨rfl, rfl⟩ := h htext htext' hrest hrest' heq
  exact ⟨rfl, rfl⟩

/-- Items end at the bracket that closes them. -/
theorem Separated.unique {close : Char} (hclose : IsClosing close) (hcomma : close ≠ ',') {items items' : List α}
    (hitems : ∀ a ∈ items, Unambiguous R IsClosing a) {text text' rest rest' : List Char}
    (h : Separated R text items) (h' : Separated R text' items') (heq : text ++ close :: rest = text' ++ close :: rest') :
    text = text' ∧ items = items' ∧ rest = rest' := by
  have hend {rest : List Char} : ∀ c ∈ (close :: rest).head?, IsClosing c := by rintro _ ⟨⟩; exact hclose
  have hnext {rest : List Char} : ∀ c ∈ (',' :: rest).head?, IsClosing c := by
    rintro _ ⟨⟩
    exact List.mem_cons_self
  induction h generalizing text' items' with
  | one ha =>
    have hitem := hitems _ List.mem_cons_self
    cases h' with
    | one ha' =>
      obtain ⟨rfl, rfl⟩ := hitem ha ha' hend hend heq
      exact ⟨rfl, rfl, (List.cons_eq_cons.1 (List.append_cancel_left heq)).2⟩
    | more ha' =>
      rw [List.append_assoc] at heq
      obtain ⟨rfl, rfl⟩ := hitem ha ha' hend hnext heq
      exact absurd (List.cons_eq_cons.1 (List.append_cancel_left heq)).1 hcomma
  | more ha _ ih =>
    obtain ⟨hitem, hitems⟩ := List.forall_mem_cons.1 hitems
    rw [List.append_assoc] at heq
    cases h' with
    | one ha' =>
      obtain ⟨rfl, rfl⟩ := hitem ha ha' hnext hend heq
      exact absurd (List.cons_eq_cons.1 (List.append_cancel_left heq)).1.symm hcomma
    | more ha' hmore' =>
      rw [List.append_assoc] at heq
      obtain ⟨rfl, rfl⟩ := hitem ha ha' hnext hnext heq
      obtain ⟨rfl, rfl, hrest⟩ := ih hitems hmore' (List.cons_eq_cons.1 (List.append_cancel_left heq)).2
      exact ⟨rfl, rfl, hrest⟩

/-- Behind white space there is something else than a mark that follows items. -/
def Starts (text : List Char) : Prop :=
  ∃ gap c rest, text = gap ++ c :: rest ∧ (∀ c ∈ gap, IsSpace c) ∧ ¬ IsSpace c ∧ ¬ IsClosing c

theorem Starts.append {text : List Char} (h : Starts text) (more : List Char) : Starts (text ++ more) := by
  obtain ⟨gap, c, rest, rfl, h⟩ := h
  exact ⟨gap, c, _, List.append_assoc _ _ _, h⟩

theorem Starts.ne {text gap rest : List Char} {close : Char} (h : Starts text) (hgap : ∀ c ∈ gap, IsSpace c)
    (hclose : IsClosing close) : text ≠ gap ++ close :: rest := by
  obtain ⟨gap', c, rest', rfl, hgap', hc, hopen⟩ := h
  intro heq
  obtain ⟨-, rfl, -⟩ := eq_of_space hgap' hgap hc (not_isSpace_of_isClosing hclose) heq
  exact hopen hclose

theorem Padded.starts (hbegins : Begins R) {text : List Char} (h : Padded R text a) : Starts text := by
  obtain ⟨hbefore, htext, -⟩ := h
  obtain ⟨c, rest, rfl, hc⟩ := hbegins htext
  exact ⟨_, c, _, rfl, hbefore, hc⟩

theorem Member.starts {text : List Char} {field : List Char × α} (h : Member R text field) : Starts text := by
  obtain ⟨hbefore, -, -, -⟩ := h
  exact ⟨_, '"', _, rfl, hbefore, by decide, by decide⟩

theorem Separated.starts {items : List α} {text : List Char} (h : Separated R text items)
    (hstarts : ∀ ⦃text a⦄, R text a → Starts text) : Starts text := by
  cases h with
  | one ha => exact hstarts ha
  | more ha => exact (hstarts ha).append _

/-- Brackets end where they close, and are empty if nothing but white space is in front of that. -/
theorem Bracketed.unique {left right : Char} (hright : IsClosing right) (hcomma : right ≠ ',')
    (hstarts : ∀ ⦃text a⦄, R text a → Starts text) {items items' : List α}
    (hitems : ∀ a ∈ items, Unambiguous R IsClosing a) {text text' rest rest' : List Char}
    (h : Bracketed R left right text items) (h' : Bracketed R left right text' items')
    (heq : text ++ rest = text' ++ rest') : text = text' ∧ items = items' := by
  have hspace : ¬ IsSpace right := not_isSpace_of_isClosing hright
  cases h with
  | empty hgap =>
    cases h' with
    | empty hgap' =>
      simp only [List.cons_append, List.append_assoc] at heq
      obtain ⟨rfl, -, -⟩ := eq_of_space hgap hgap' hspace hspace (List.cons_eq_cons.1 heq).2
      exact ⟨rfl, rfl⟩
    | items hmany =>
      simp only [List.cons_append, List.append_assoc] at heq
      exact absurd (List.cons_eq_cons.1 heq).2.symm (((hmany.starts hstarts).append _).ne hgap hright)
  | items hmany =>
    cases h' with
    | empty hgap =>
      simp only [List.cons_append, List.append_assoc] at heq
      exact absurd (List.cons_eq_cons.1 heq).2 (((hmany.starts hstarts).append _).ne hgap hright)
    | items hmany' =>
      simp only [List.cons_append, List.append_assoc] at heq
      obtain ⟨rfl, rfl, -⟩ := hmany.unique hright hcomma hitems hmany' (List.cons_eq_cons.1 heq).2
      exact ⟨rfl, rfl⟩

theorem Bracketed.exists_cons {left right : Char} {text : List Char} {items : List α}
    (h : Bracketed R left right text items) : ∃ rest, text = left :: rest := by
  cases h <;> exact ⟨_, rfl⟩

end

/-! ### Values are read in one way -/

/-- What the first character of a text tells about its value. -/
inductive Kind where
  | null
  | boolean (value : Bool)
  | number
  | string
  | array
  | object
deriving DecidableEq

def Kind.ofFirst (c : Char) : Kind :=
  match c with
  | 'n' => .null
  | 't' => .boolean true
  | 'f' => .boolean false
  | '"' => .string
  | '[' => .array
  | '\x7b' => .object
  | _ => .number

def Value.kind : Value → Kind
  | .null => .null
  | .boolean value => .boolean value
  | .number _ => .number
  | .string _ => .string
  | .array _ => .array
  | .object _ => .object

theorem mem_digits {c : Char} (h : c.isDigit = true) : c ∈ ['0', '1', '2', '3', '4', '5', '6', '7', '8', '9'] := by
  have hrange := Char.isDigit_iff_toNat.1 h
  rw [show '0'.toNat = 48 from rfl, show '9'.toNat = 57 from rfl] at hrange
  obtain ⟨hleast, hgreatest⟩ := hrange
  rw [← Char.ofNat_toNat c]
  generalize c.toNat = n at hleast hgreatest
  interval_cases n <;> decide

theorem Denotes.exists_cons {text : List Char} {value : Value} (h : Denotes text value) :
    ∃ c rest, text = c :: rest ∧ Kind.ofFirst c = value.kind ∧ ¬ IsSpace c ∧ ¬ IsClosing c := by
  cases h with
  | boolean value => cases value <;> exact ⟨_, _, rfl, rfl, by decide⟩
  | number hnumber =>
    obtain ⟨c, rest, rfl, hc⟩ := hnumber.exists_cons
    have hfirst : ('-' :: ['0', '1', '2', '3', '4', '5', '6', '7', '8', '9']).all
        (fun c => Kind.ofFirst c = .number ∧ ¬ IsSpace c ∧ ¬ IsClosing c) = true := by decide
    have hmem := List.mem_cons.2 (hc.imp_right mem_digits)
    exact ⟨c, rest, rfl, of_decide_eq_true (List.all_eq_true.1 hfirst c hmem)⟩
  | array hitems =>
    obtain ⟨rest, rfl⟩ := hitems.exists_cons
    exact ⟨_, _, rfl, rfl, by decide⟩
  | object hfields =>
    obtain ⟨rest, rfl⟩ := hfields.exists_cons
    exact ⟨_, _, rfl, rfl, by decide⟩
  | null | string => exact ⟨_, _, rfl, rfl, by decide⟩

theorem begins_denotes : Begins Denotes := fun text value h => by
  obtain ⟨c, rest, rfl, -, hc⟩ := h.exists_cons
  exact ⟨c, rest, rfl, hc⟩

theorem not_isNumberChar {c : Char} (h : FollowsValue c) : ¬ IsNumberChar c := by
  have hmarks : ([' ', '\t', '\n', '\r'] ++ [',', ']', '\x7d']).all (¬ IsNumberChar ·) = true := by decide
  exact of_decide_eq_true (List.all_eq_true.1 hmarks c (List.mem_append.2 h))

section

variable {text text' rest rest' : List Char} {value value' : Value}

theorem Denotes.kind_eq (h : Denotes text value) (h' : Denotes text' value') (heq : text ++ rest = text' ++ rest') :
    value.kind = value'.kind := by
  obtain ⟨c, tail, rfl, hc, -⟩ := h.exists_cons
  obtain ⟨c', tail', rfl, hc', -⟩ := h'.exists_cons
  rw [← hc, ← hc', (List.cons_eq_cons.1 heq).1]

end

theorem unambiguous_null : Unambiguous Denotes FollowsValue .null := by
  intro text text' value' rest rest' h h' _ _ heq
  have hkind := h.kind_eq h' heq
  cases h
  cases h' with
  | null => exact ⟨rfl, rfl⟩
  | _ => cases hkind

theorem unambiguous_boolean (value : Bool) : Unambiguous Denotes FollowsValue (.boolean value) := by
  intro text text' value' rest rest' h h' _ _ heq
  have hkind := h.kind_eq h' heq
  cases h
  cases h' with
  | boolean =>
    cases hkind
    exact ⟨rfl, rfl⟩
  | _ => cases hkind

theorem unambiguous_number (literal : List Char) : Unambiguous Denotes FollowsValue (.number literal) := by
  intro text text' value' rest rest' h h' hrest hrest' heq
  have hkind := h.kind_eq h' heq
  have hend {rest : List Char} (hrest : ∀ c ∈ rest.head?, FollowsValue c) : ∀ c ∈ rest.head?, ¬ IsNumberChar c :=
    fun c hc => not_isNumberChar (hrest c hc)
  obtain ⟨⟩ | ⟨⟩ | ⟨hnumber⟩ := h
  cases h' with
  | number hnumber' =>
    obtain ⟨rfl, -⟩ := eq_of_run hnumber.isNumberChar hnumber'.isNumberChar (hend hrest) (hend hrest') heq
    exact ⟨rfl, rfl⟩
  | _ => cases hkind

theorem unambiguous_string (content : List Char) : Unambiguous Denotes FollowsValue (.string content) := by
  intro text text' value' rest rest' h h' _ _ heq
  have hkind := h.kind_eq h' heq
  cases h with
  | string hcontent =>
    cases h' with
    | string hcontent' =>
      simp only [List.cons_append, List.append_assoc] at heq
      obtain ⟨rfl, rfl, -⟩ := hcontent.unique hcontent' (List.cons_eq_cons.1 heq).2
      exact ⟨rfl, rfl⟩
    | _ => cases hkind

theorem unambiguous_array {items : List Value} (h : ∀ item ∈ items, Unambiguous Denotes FollowsValue item) :
    Unambiguous Denotes FollowsValue (.array items) := by
  intro text text' value' rest rest' hvalue hvalue' _ _ heq
  have hkind := hvalue.kind_eq hvalue' heq
  cases hvalue with
  | array hitems =>
    cases hvalue' with
    | array hitems' =>
      obtain ⟨rfl, rfl⟩ := hitems.unique (by decide) (by decide) (fun _ _ => Padded.starts begins_denotes)
        (fun item hitem => Padded.unambiguous begins_denotes (h item hitem)) hitems' heq
      exact ⟨rfl, rfl⟩
    | _ => cases hkind

theorem unambiguous_object {fields : List (List Char × Value)}
    (h : ∀ field ∈ fields, Unambiguous Denotes FollowsValue field.2) :
    Unambiguous Denotes FollowsValue (.object fields) := by
  intro text text' value' rest rest' hvalue hvalue' _ _ heq
  have hkind := hvalue.kind_eq hvalue' heq
  cases hvalue with
  | object hfields =>
    cases hvalue' with
    | object hfields' =>
      obtain ⟨rfl, rfl⟩ := hfields.unique (by decide) (by decide) (fun _ _ => Member.starts)
        (fun field hfield => Member.unambiguous (Padded.unambiguous begins_denotes (h field hfield))) hfields' heq
      exact ⟨rfl, rfl⟩
    | _ => cases hkind

-- the recursion is on the value: the text of an item is not yet known to be a part of the other text too
theorem unambiguous_denotes : (value : Value) → Unambiguous Denotes FollowsValue value
  | .null => unambiguous_null
  | .boolean value => unambiguous_boolean value
  | .number literal => unambiguous_number literal
  | .string content => unambiguous_string content
  | .array items => unambiguous_array fun item _ => unambiguous_denotes item
  | .object fields => unambiguous_object fun (name, value) hfield =>
      have : sizeOf value < sizeOf fields := by
        have hfield := List.sizeOf_lt_of_mem hfield
        rw [Prod.mk.sizeOf_spec] at hfield
        omega
      unambiguous_denotes value

/-- A text stands for one value. -/
theorem IsDocument.unique {text : List Char} {value value' : Value} (h : IsDocument text value)
    (h' : IsDocument text value') : value = value' := by
  have hnone : ∀ c ∈ ([] : List Char).head?, IsClosing c := fun c hc => nomatch hc
  exact (Padded.unambiguous begins_denotes (unambiguous_denotes value) h h' hnone hnone rfl).2

end RunCharts.Json
