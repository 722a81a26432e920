import RunCharts.Log.Bandwidth
import RunCharts.Proofs.Log.Texts

/-! # The records of a client log

A client log is its records: the lines that are no comments, cut at the commas. `tally_eq_ok_iff` says
that reading a log is reading its records. -/

namespace RunCharts.Log.Bandwidth

/-- The fields of a line. -/
abbrev Record := List (List Char)

namespace Record

/-- The event of the record starts the clock, unless an earlier one did. -/
def IsInit (record : Record) : Prop := record[1]? = some initEvent

/-- The record reports a fetch reply. -/
def IsReply (record : Record) : Prop := record[2]? = some fetchReply

instance (record : Record) : Decidable record.IsInit := inferInstanceAs (Decidable (_ = _))

instance (record : Record) : Decidable record.IsReply := inferInstanceAs (Decidable (_ = _))

/-- The 64-bit integer in a field, blanks around it left aside. -/
def number? (record : Record) (field : Nat) : Option Int :=
  record[field]?.bind fun text => (Numeral.readSigned64 text).toOption

/-- The record has the fields that every record needs, and a reply has a time and a size. -/
structure Readable (record : Record) : Prop where
  fields : 3 ≤ record.length
  time : record.IsReply → (record.number? 1).isSome
  size : record.IsReply → (record.number? 3).isSome

theorem number?_eq_some_iff {record : Record} {field : Nat} {n : Int} : record.number? field = some n ↔
    ∃ text, record[field]? = some text ∧ Numeral.readSigned64 text = .ok n := by
  have h (text : List Char) : (Numeral.readSigned64 text).toOption = some n ↔
      Numeral.readSigned64 text = .ok n := by
    cases Numeral.readSigned64 text <;> simp [Except.toOption]
  simp only [number?, Option.bind_eq_some_iff, h]

theorem IsInit.number?_one {record : Record} (h : record.IsInit) : record.number? 1 = none := by
  have hread : Numeral.readSigned64 initEvent = .error .invalidDigit := rfl
  rw [number?, show record[1]? = some initEvent from h, Option.bind_some, hread]
  rfl

/-- The event that starts the clock stands where a reply has its time. -/
theorem IsInit.not_isReply {record : Record} (h : record.IsInit) (hreadable : record.Readable) :
    ¬ record.IsReply := by
  intro hreply
  have htime := hreadable.time hreply
  rw [h.number?_one] at htime
  cases htime

end Record

/-- The records of texts: those that are no comments, cut into fields. -/
def recordsOf (texts : List (List Char)) : List Record :=
  (texts.filter fun text => text.head? ≠ some ';').map (Text.fields ',')

def records (log : Bytes) : List Record := recordsOf (texts log)

def Tally.readRecord (windows : Windows) (tally : Tally) : Record → Except Reason Tally
  | _ :: second :: third :: rest => do
    let tally ← tally.readInit windows second rest.head?
    tally.readReply second third rest.head?
  | short => .error (.fewFields short.length)

theorem Tally.step_eq (windows : Windows) (tally : Tally) (line : List Char) :
    tally.step windows line =
      if line.head? ≠ some ';' then tally.readRecord windows (Text.fields ',' line) else pure tally := by
  unfold step readRecord
  by_cases h : line.head? = some ';'
  · simp [h]
  · simp only [h, ↓reduceIte, ne_eq, not_false_eq_true]
    split <;> simp_all

theorem foldlM_step_eq (windows : Windows) (tally : Tally) (texts : List (List Char)) :
    texts.foldlM (Tally.step windows) tally = (recordsOf texts).foldlM (Tally.readRecord windows) tally := by
  rw [recordsOf, List.foldlM_map, List.foldlM_filter]
  congr 1
  funext tally line
  simp [Tally.step_eq]

theorem tally_eq_ok_iff {windows : Windows} {log : Bytes} {tally : Tally} :
    Bandwidth.tally windows log = .ok tally ↔
      (∀ line ∈ lines log, (decode? line).isSome) ∧
        (records log).foldlM (Tally.readRecord windows) {} = .ok tally := by
  rw [Bandwidth.tally, foldLines_eq_ok_iff, foldlM_step_eq, records]

end RunCharts.Log.Bandwidth
