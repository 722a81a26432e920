import RunCharts.Log.Bandwidth
import RunCharts.Proofs.Log.Records
import RunCharts.Proofs.RunningSum
import RunCharts.Proofs.Text.Trim

/-! # The fetch replies of an event log

Reading the replies of a log sums the sizes of its reply records, where blanks at the end of a line do not count
(`foldlM_step_eq_ok_iff`). Those blanks belong to the last field of the line, so they change no number in it
(`number?_recordOf`). A log is refused for its replies only: each of them needs a size, and the running sums have to
fit (`read_eq_ok_iff_counted`). -/

namespace RunCharts.Log.ReplySizes

open Bandwidth Numeral.Signed64

/-- The fields of a line, the blanks at its end left aside. -/
def recordOf (line : List Char) : Record := Text.fields ',' (Text.trimRight line)

def sizesOf (records : List Record) : List Int :=
  records.filterMap fun record => if record.IsReply then record.number? 3 else none

def Sized (records : List Record) : Prop :=
  ∀ record ∈ records, record.IsReply → (record.number? 3).isSome

/-- A count of replies with the replies of records added to it. -/
def plus (sizes : ReplySizes) (records : List Record) : ReplySizes :=
  ⟨sizes.replies + (sizesOf records).length, sizes.total + (sizesOf records).sum⟩

variable {sizes sizes' : ReplySizes} {record : Record} {records : List Record} {line : List Char}

theorem sizesOf_cons (record : Record) (records : List Record) :
    sizesOf (record :: records) = sizesOf [record] ++ sizesOf records := by
  rw [sizesOf, sizesOf, sizesOf, ← List.filterMap_append, List.singleton_append]

theorem sizesOf_of_isReply {size : Int} (h : record.IsReply) (hsize : record.number? 3 = some size) :
    sizesOf [record] = [size] := by
  simp [sizesOf, h, hsize]

theorem sizesOf_of_not_isReply (h : ¬ record.IsReply) : sizesOf [record] = [] := by
  simp [sizesOf, h]

theorem plus_cons (sizes : ReplySizes) (record : Record) (records : List Record) :
    sizes.plus (record :: records) = (sizes.plus [record]).plus records := by
  simp only [plus, sizesOf_cons record records, List.length_append, List.sum_append, Nat.add_assoc, Int.add_assoc]

theorem step_eq (sizes : ReplySizes) (line : List Char) : sizes.step line =
    if (recordOf line).IsReply then
      match (recordOf line)[3]? with
      | none => .error .replyWithoutSize
      | some field => do
        let size ← readColumn .size field
        return ⟨sizes.replies + 1, ← sum sizes.total size⟩
    else .ok sizes := by
  have hfields : Text.fields ',' (Text.trimRight line) = recordOf line := rfl
  unfold step
  rw [hfields]
  rcases recordOf line with _ | ⟨first, _ | ⟨second, _ | ⟨third, rest⟩⟩⟩
  · rfl
  · rfl
  · rfl
  · have hreply : Record.IsReply (first :: second :: third :: rest) ↔ third = fetchReply := by
      simp [Record.IsReply]
    simp only [hreply]
    cases rest <;> rfl

theorem sized_cons : Sized (record :: records) ↔ Sized [record] ∧ Sized records := by
  rw [Sized, List.forall_mem_cons, Sized, List.forall_mem_singleton, Sized]

theorem step_eq_ok_iff (hfits : Fits sizes.total) : sizes.step line = .ok sizes' ↔
    Sized [recordOf line] ∧ FitsAlong sizes.total (sizesOf [recordOf line]) ∧ sizes' = sizes.plus [recordOf line] := by
  rw [step_eq, Sized, List.forall_mem_singleton]
  by_cases hreply : (recordOf line).IsReply
  · rw [if_pos hreply]
    cases hfield : (recordOf line)[3]? with
    | none =>
      have hsize : (recordOf line).number? 3 = none := by rw [Record.number?, hfield, Option.bind_none]
      simp [hsize, hreply]
    | some field =>
      simp only [Except.bind_eq_ok_iff, readColumn_eq_ok_iff, sum_eq_ok_iff, Except.pure_eq_ok, Except.ok.injEq]
      constructor
      · rintro ⟨size, hread, _, ⟨rfl, hsum⟩, rfl⟩
        have hsize : (recordOf line).number? 3 = some size := Record.number?_eq_some_iff.2 ⟨field, hfield, hread⟩
        rw [sizesOf_of_isReply hreply hsize, plus, sizesOf_of_isReply hreply hsize, fitsAlong_cons, fitsAlong_nil]
        exact ⟨fun _ => by simp [hsize], ⟨hfits, hsum⟩, by simp⟩
      · rintro ⟨hsized, halong, rfl⟩
        obtain ⟨size, hsize⟩ := Option.isSome_iff_exists.1 (hsized hreply)
        obtain ⟨field', hfield', hread⟩ := Record.number?_eq_some_iff.1 hsize
        obtain rfl : field = field' := Option.some.inj (hfield.symm.trans hfield')
        rw [sizesOf_of_isReply hreply hsize, fitsAlong_cons, fitsAlong_nil] at halong
        rw [plus, sizesOf_of_isReply hreply hsize]
        exact ⟨size, hread, _, ⟨rfl, halong.2⟩, by simp⟩
  · rw [if_neg hreply, plus, sizesOf_of_not_isReply hreply]
    simp [hreply, hfits, eq_comm (a := sizes')]

/-- The replies of texts are counted and their sizes are summed, if each of them has one and all running sums fit. -/
theorem foldlM_step_eq_ok_iff {texts : List (List Char)} (hfits : Fits sizes.total) :
    texts.foldlM step sizes = .ok sizes' ↔ Sized (texts.map recordOf) ∧
      FitsAlong sizes.total (sizesOf (texts.map recordOf)) ∧ sizes' = sizes.plus (texts.map recordOf) := by
  induction texts generalizing sizes with
  | nil => simp [Sized, sizesOf, plus, hfits, eq_comm (a := sizes')]
  | cons line texts ih =>
    rw [List.foldlM_cons, Except.bind_eq_ok_iff, List.map_cons, sized_cons, sizesOf_cons, fitsAlong_append,
      plus_cons]
    constructor
    · rintro ⟨mid, hline, h⟩
      obtain ⟨hsized, halong, rfl⟩ := (step_eq_ok_iff hfits).1 hline
      obtain ⟨hsized', halong', rfl⟩ := (ih halong.fits_sum).1 h
      exact ⟨⟨hsized, hsized'⟩, ⟨halong, halong'⟩, rfl⟩
    · rintro ⟨⟨hsized, hsized'⟩, ⟨halong, halong'⟩, rfl⟩
      exact ⟨_, (step_eq_ok_iff hfits).2 ⟨hsized, halong, rfl⟩, (ih halong.fits_sum).2 ⟨hsized', halong', rfl⟩⟩

theorem read_eq_ok_iff {log : Bytes} : read log = .ok sizes ↔ (∀ line ∈ lines log, (decode? line).isSome) ∧
    Sized ((texts log).map recordOf) ∧ FitsAlong 0 (sizesOf ((texts log).map recordOf)) ∧
      sizes = plus {} ((texts log).map recordOf) := by
  rw [read, foldLines_eq_ok_iff, foldlM_step_eq_ok_iff fits_zero]

/-! ### The replies that are counted -/

/-- What an event log must be for its replies to be counted; other lines may have any shape. -/
structure WellFormed (log : Bytes) : Prop where
  utf8 : ∀ line ∈ lines log, (decode? line).isSome
  sized : ∀ line ∈ texts log, (recordOf line).IsReply → ((recordOf line).number? 3).isSome
  sums : FitsAlong 0 (sizesOf ((texts log).map recordOf))

def counted (log : Bytes) : ReplySizes where
  replies := (texts log).countP fun line => (recordOf line).IsReply
  total := (sizesOf ((texts log).map recordOf)).sum

theorem length_sizesOf (h : Sized records) : (sizesOf records).length = records.countP fun record => record.IsReply := by
  induction records with
  | nil => rfl
  | cons record rest ih =>
    obtain ⟨hrecord, hrest⟩ := sized_cons.1 h
    rw [sizesOf_cons, List.length_append, ih hrest, List.countP_cons]
    by_cases hreply : record.IsReply
    · obtain ⟨size, hsize⟩ := Option.isSome_iff_exists.1 (hrecord record List.mem_cons_self hreply)
      rw [sizesOf_of_isReply hreply hsize]
      simp [hreply, Nat.add_comm]
    · rw [sizesOf_of_not_isReply hreply]
      simp [hreply]

theorem plus_eq_counted {log : Bytes} (h : Sized ((texts log).map recordOf)) :
    plus {} ((texts log).map recordOf) = counted log := by
  unfold plus counted
  rw [length_sizesOf h, List.countP_map, Nat.zero_add, Int.zero_add]
  rfl

/-- The replies of a log are counted exactly if the log is well formed, and then the result is their number and the
exact sum of their sizes. Without a reply there is no average. -/
theorem read_eq_ok_iff_counted {log : Bytes} : (read log = .ok sizes ↔ WellFormed log ∧ sizes = counted log) ∧
    ((counted log).average? = none ↔ ∀ line ∈ texts log, ¬ (recordOf line).IsReply) := by
  constructor
  · rw [read_eq_ok_iff]
    constructor
    · rintro ⟨hutf8, hsized, hsums, rfl⟩
      exact ⟨⟨hutf8, List.forall_mem_map.1 hsized, hsums⟩, plus_eq_counted hsized⟩
    · rintro ⟨h, rfl⟩
      have hsized : Sized ((texts log).map recordOf) := List.forall_mem_map.2 h.sized
      exact ⟨h.utf8, hsized, h.sums, (plus_eq_counted hsized).symm⟩
  · have haverage : (counted log).average? = none ↔ (counted log).replies = 0 := by
      unfold average?
      split <;> simp_all
    rw [haverage, counted, List.countP_eq_zero]
    simp only [decide_eq_true_eq]

/-! ### Blanks at the end of a line -/

theorem readSigned64_trimRight (field : List Char) :
    Numeral.readSigned64 (Text.trimRight field) = Numeral.readSigned64 field := by
  rw [Numeral.readSigned64, Numeral.readSigned64, Text.trim_trimRight]

/-- The fields of a line, with the blanks at its end or without. -/
theorem exists_fields_eq (line : List Char) : ∃ front last, Text.fields ',' line = front ++ [last] ∧
    recordOf line = front ++ [Text.trimRight last] :=
  Text.fields_trimRight (by decide) line

theorem number?_recordOf (line : List Char) (field : Nat) :
    (recordOf line).number? field = Record.number? (Text.fields ',' line) field := by
  obtain ⟨front, last, hfields, hrecord⟩ := exists_fields_eq line
  have hlength (last : List Char) : (front ++ [last]).length = front.length + 1 := by simp
  rw [hfields, hrecord, Record.number?, Record.number?]
  rcases Nat.lt_trichotomy field front.length with hlt | heq | hgt
  · rw [List.getElem?_append_left hlt, List.getElem?_append_left hlt]
  · rw [heq, List.getElem?_concat_length, List.getElem?_concat_length, Option.bind_some, Option.bind_some,
      readSigned64_trimRight]
  · rw [List.getElem?_eq_none (by rw [hlength]; omega), List.getElem?_eq_none (by rw [hlength]; omega)]

/-- Where both readings of a line have a size, if they are replies, they agree on whether they are. A third field
that is the last one could be told from a reply by its blanks alone, but a reply without a size is refused. -/
theorem isReply_recordOf_iff {line : List Char}
    (htrimmed : (recordOf line).IsReply → ((recordOf line).number? 3).isSome)
    (hfull : Record.IsReply (Text.fields ',' line) → (Record.number? (Text.fields ',' line) 3).isSome) :
    (recordOf line).IsReply ↔ Record.IsReply (Text.fields ',' line) := by
  have hnumber := number?_recordOf line 3
  have hlength (front : List (List Char)) (last : List Char) : (front ++ [last]).length = front.length + 1 := by simp
  obtain ⟨front, last, hfields, hrecord⟩ := exists_fields_eq line
  rw [hnumber] at htrimmed
  rw [hfields] at htrimmed hfull ⊢
  rw [hrecord] at htrimmed ⊢
  -- the third field stands before the last one, is the last one, or is missing
  rcases Nat.lt_trichotomy 2 front.length with hlt | heq | hgt
  · rw [Record.IsReply, Record.IsReply, List.getElem?_append_left hlt, List.getElem?_append_left hlt]
  · have hnone : Record.number? (front ++ [last]) 3 = none := by
      rw [Record.number?, List.getElem?_eq_none (by simp [← heq]), Option.bind_none]
    rw [hnone] at htrimmed hfull
    exact iff_of_false (fun h => Bool.false_ne_true (htrimmed h)) fun h => Bool.false_ne_true (hfull h)
  · rw [Record.IsReply, Record.IsReply, List.getElem?_eq_none (by rw [hlength]; omega),
      List.getElem?_eq_none (by rw [hlength]; omega)]

end RunCharts.Log.ReplySizes
