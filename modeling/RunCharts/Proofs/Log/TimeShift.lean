import RunCharts.Proofs.Log.Phases
import RunCharts.Proofs.Log.Texts
import RunCharts.Proofs.Numeral.Digits
import RunCharts.Proofs.Text.Fields

/-! # Moving the times of a client log

What counts in a client log is how long after the first `INIT` record a reply comes. A log with all its times moved
gives the same sample (`read_moveTimes`).

The log is changed line by line (`moveTexts`), and its records change with the lines (`recordsOf_moveTexts`): only the
number in one field is another one, the field is never the first and the number has no comma, so a moved line is a
comment, a reply or an `INIT` record exactly if it was one. The cutoffs move with the first `INIT` record, so each
reply stays in its phase (`phases_map_moveReply`). Without an `INIT` record there are no phases. -/

namespace RunCharts.Log.Bandwidth

open Numeral.Signed64

/-- A field with its number moved; the blanks around it stay, and so does a field without a number. -/
def moveNumber (d : Int) (field : List Char) : List Char :=
  match Numeral.readSigned64 field with
  | .ok n => field.takeWhile Text.isBlank ++ (n + d).repr.toList ++ field.rtakeWhile Text.isBlank
  | .error _ => field

def Record.moveReply (d : Int) (record : Record) : Record :=
  if record.IsReply then record.modify 1 (moveNumber d) else record

def Record.moveInit (d : Int) (record : Record) : Record := record.modify 3 (moveNumber d)

/-- The line with its record changed, unless it is a comment. -/
def onRecord (change : Record → Record) (text : List Char) : List Char :=
  if text.head? = some ';' then text else [','].intercalate (change (Text.fields ',' text))

/-- The lines with the time of the first `INIT` record and the times of all replies moved. -/
def moveTexts (d : Int) : List (List Char) → List (List Char)
  | [] => []
  | text :: rest =>
    if text.head? ≠ some ';' ∧ Record.IsInit (Text.fields ',' text) then
      onRecord (Record.moveInit d) text :: rest.map (onRecord (Record.moveReply d))
    else onRecord (Record.moveReply d) text :: moveTexts d rest

/-- The log with the time of the first `INIT` record and the times of all replies moved, and all else as it is. -/
def moveTimes (d : Int) (log : Bytes) : Bytes := withTexts (moveTexts d (texts log)) log

def moveRecords (d : Int) : List Record → List Record
  | [] => []
  | record :: rest =>
    if record.IsInit then record.moveInit d :: rest.map (Record.moveReply d)
    else record.moveReply d :: moveRecords d rest

def initTime? (records : List Record) : Option Int := do
  let init ← records.find? fun r => r.IsInit
  init.number? 3

variable {d : Int} {record record' : Record} {text field : List Char}

/-! ### One field -/

theorem moveNumber_eq (d : Int) (field : List Char) : moveNumber d field = field ∨ ∃ n,
    moveNumber d field = field.takeWhile Text.isBlank ++ (n + d).repr.toList ++ field.rtakeWhile Text.isBlank := by
  unfold moveNumber
  split
  · rename_i n _
    exact .inr ⟨n, rfl⟩
  · exact .inl rfl

theorem readSigned64_moveNumber {n : Int} (h : Numeral.readSigned64 field = .ok n) (hfits : Fits (n + d)) :
    Numeral.readSigned64 (moveNumber d field) = .ok (n + d) := by
  rw [moveNumber, h]
  exact Numeral.readSigned64_repr hfits (fun _ => List.mem_takeWhile_imp) fun _ => List.mem_rtakeWhile_imp

theorem notMem_moveNumber {c : Char} (hc : c ≠ '-' ∧ c.isDigit = false) (h : c ∉ field) : c ∉ moveNumber d field := by
  rcases moveNumber_eq d field with heq | ⟨n, heq⟩
  · rwa [heq]
  · rw [heq]
    intro hmem
    rcases List.mem_append.1 hmem with hmem | hmem
    · rcases List.mem_append.1 hmem with hmem | hmem
      · exact h ((List.takeWhile_sublist _).subset hmem)
      · rcases eq_minus_or_isDigit_of_mem_repr hmem with hminus | hdigit
        · exact hc.1 hminus
        · rw [hc.2] at hdigit
          cases hdigit
    · exact h ((List.rtakeWhile_suffix _ _).subset hmem)

theorem moveNumber_ne_nil (h : field ≠ []) : moveNumber d field ≠ [] := by
  rcases moveNumber_eq d field with heq | ⟨n, heq⟩
  · rwa [heq]
  · rw [heq]
    intro hnil
    exact repr_toList_ne_nil _ (List.append_eq_nil_iff.1 (List.append_eq_nil_iff.1 hnil).1).2

/-- A number does not end in a return, so one that ends the moved field is a blank of the field. -/
theorem getLast?_of_moveNumber (h : (moveNumber d field).getLast? = some '\r') : field.getLast? = some '\r' := by
  rcases moveNumber_eq d field with heq | ⟨n, heq⟩
  · rwa [heq] at h
  · rw [heq] at h
    cases hback : field.rtakeWhile Text.isBlank with
    | nil =>
      rw [hback, List.append_nil, List.getLast?_append_of_ne_nil _ (repr_toList_ne_nil _)] at h
      rcases eq_minus_or_isDigit_of_mem_repr (List.mem_of_getLast? h) with hminus | hdigit
      · cases hminus
      · cases hdigit
    | cons c back =>
      obtain ⟨front, hfront⟩ := List.rtakeWhile_suffix Text.isBlank field
      rw [hback] at h hfront
      rw [List.getLast?_append_of_ne_nil _ (List.cons_ne_nil c back)] at h
      rw [← hfront, List.getLast?_append_of_ne_nil _ (List.cons_ne_nil c back), h]

/-! ### One line -/

/-- The records are the same but for the number in one field, which is not the first one. -/
def Moved (d : Int) (record record' : Record) : Prop :=
  record' = record ∨ ∃ front field behind, front ≠ [] ∧ record = front ++ field :: behind ∧
    record' = front ++ moveNumber d field :: behind

theorem moved_modify (d : Int) {i : Nat} (hi : 0 < i) (record : Record) :
    Moved d record (record.modify i (moveNumber d)) := by
  by_cases hlength : i < record.length
  · refine .inr ⟨record.take i, record[i], record.drop (i + 1), ?_, ?_, ?_⟩
    · rw [ne_eq, List.take_eq_nil_iff, not_or]
      exact ⟨Nat.ne_of_gt hi, List.ne_nil_of_length_pos (by omega)⟩
    · rw [← List.drop_eq_getElem_cons hlength, List.take_append_drop]
    · rw [List.modify_eq_take_cons_drop hlength]
  · exact .inl (List.modify_eq_self (by omega))

theorem moved_moveReply (d : Int) (record : Record) : Moved d record (record.moveReply d) := by
  rw [Record.moveReply]
  split
  · exact moved_modify d Nat.one_pos record
  · exact .inl rfl

theorem moved_moveInit (d : Int) (record : Record) : Moved d record (record.moveInit d) :=
  moved_modify d (by decide) record

theorem replaces_of_moveNumber {before after : List Char} (h : '\n' ∉ before ++ field ++ after) :
    Replaces (before ++ field ++ after) (before ++ moveNumber d field ++ after) := by
  rw [List.mem_append, List.mem_append, not_or, not_or] at h
  obtain ⟨⟨hbefore, hfield⟩, hafter⟩ := h
  refine ⟨?_, fun hlast => ?_, fun hne hnil => hne ?_⟩
  · rw [List.mem_append, List.mem_append, not_or, not_or]
    exact ⟨⟨hbefore, notMem_moveNumber (by decide) hfield⟩, hafter⟩
  · by_cases hnil : after = []
    · rw [hnil, List.append_nil] at hlast ⊢
      by_cases hempty : field = []
      · rwa [hempty] at hlast ⊢
      · rw [List.getLast?_append_of_ne_nil _ (moveNumber_ne_nil hempty)] at hlast
        rw [List.getLast?_append_of_ne_nil _ hempty]
        exact getLast?_of_moveNumber hlast
    · rw [List.getLast?_append_of_ne_nil _ hnil] at hlast ⊢
      exact hlast
  · rw [List.append_eq_nil_iff, List.append_eq_nil_iff] at hnil ⊢
    obtain ⟨⟨hbefore, hfield⟩, hafter⟩ := hnil
    refine ⟨⟨hbefore, ?_⟩, hafter⟩
    by_contra hempty
    exact moveNumber_ne_nil hempty hfield

/-- A line with the number of a field moved: it can stand in the place of the line, it starts as the line does, and
its fields are the moved ones. -/
theorem Moved.line (h : Moved d (Text.fields ',' text) record') :
    ('\n' ∉ text → Replaces text ([','].intercalate record')) ∧
      ([','].intercalate record').head? = text.head? ∧ Text.fields ',' ([','].intercalate record') = record' := by
  have htext := Text.intercalate_fields ',' text
  rcases h with rfl | ⟨front, field, behind, hfront, hfields, rfl⟩
  · rw [htext]
    exact ⟨fun hfeed => ⟨hfeed, id, id⟩, rfl, rfl⟩
  · have hcomma : ∀ part ∈ front ++ field :: behind, ',' ∉ part := fun part hmem =>
      Text.notMem_of_mem_fields (hfields ▸ hmem)
    rw [List.forall_mem_append, List.forall_mem_cons] at hcomma
    obtain ⟨hfrontComma, hfieldComma, hbehindComma⟩ := hcomma
    rw [hfields, Text.intercalate_append_cons] at htext
    rw [Text.intercalate_append_cons]
    have hne := Text.flatMap_append_ne_nil ',' hfront
    refine ⟨fun hfeed => ?_, ?_, ?_⟩
    · rw [← htext] at hfeed ⊢
      exact replaces_of_moveNumber hfeed
    · rw [← htext, List.append_assoc, List.append_assoc, List.head?_append_of_ne_nil _ hne,
        List.head?_append_of_ne_nil _ hne]
    · rw [← Text.intercalate_append_cons]
      refine Text.fields_intercalate (by simp) ?_
      rw [List.forall_mem_append, List.forall_mem_cons]
      exact ⟨hfrontComma, notMem_moveNumber (by decide) hfieldComma, hbehindComma⟩

section

variable {change : Record → Record} {all : List (List Char)}

theorem replaces_onRecord (hchange : ∀ record, Moved d record (change record)) (h : '\n' ∉ text) :
    Replaces text (onRecord change text) := by
  rw [onRecord]
  split
  · exact ⟨h, id, id⟩
  · exact (hchange _).line.1 h

theorem recordsOf_cons (text : List Char) (rest : List (List Char)) : recordsOf (text :: rest) =
    if text.head? = some ';' then recordsOf rest else Text.fields ',' text :: recordsOf rest := by
  rw [recordsOf, recordsOf, List.filter_cons]
  by_cases hcomment : text.head? = some ';' <;> simp [hcomment]

theorem recordsOf_onRecord_cons (hchange : ∀ record, Moved d record (change record)) (text : List Char)
    (rest : List (List Char)) : recordsOf (onRecord change text :: rest) =
      if text.head? = some ';' then recordsOf rest else change (Text.fields ',' text) :: recordsOf rest := by
  rw [recordsOf_cons, onRecord]
  by_cases hcomment : text.head? = some ';'
  · rw [if_pos hcomment, if_pos hcomment, if_pos hcomment]
  · obtain ⟨-, hhead, hfields⟩ := (hchange (Text.fields ',' text)).line
    rw [if_neg hcomment, hhead, if_neg hcomment, if_neg hcomment, hfields]

theorem recordsOf_map_onRecord (hchange : ∀ record, Moved d record (change record)) (all : List (List Char)) :
    recordsOf (all.map (onRecord change)) = (recordsOf all).map change := by
  induction all with
  | nil => rfl
  | cons text rest ih =>
    rw [List.map_cons, recordsOf_onRecord_cons hchange, recordsOf_cons, ih]
    split <;> rfl

theorem recordsOf_moveTexts (d : Int) (all : List (List Char)) :
    recordsOf (moveTexts d all) = moveRecords d (recordsOf all) := by
  induction all with
  | nil => rfl
  | cons text rest ih =>
    rw [moveTexts, recordsOf_cons]
    by_cases hcomment : text.head? = some ';'
    · rw [if_neg fun h => h.1 hcomment, recordsOf_onRecord_cons (moved_moveReply d), if_pos hcomment,
        if_pos hcomment, ih]
    · rw [if_neg hcomment, moveRecords]
      by_cases hinit : Record.IsInit (Text.fields ',' text)
      · rw [if_pos ⟨hcomment, hinit⟩, if_pos hinit, recordsOf_onRecord_cons (moved_moveInit d), if_neg hcomment,
          recordsOf_map_onRecord (moved_moveReply d)]
      · rw [if_neg fun h => hinit h.2, if_neg hinit, recordsOf_onRecord_cons (moved_moveReply d), if_neg hcomment, ih]

theorem replaces_moveTexts (h : ∀ text ∈ all, '\n' ∉ text) : List.Forall₂ Replaces all (moveTexts d all) := by
  induction all with
  | nil => exact .nil
  | cons text rest ih =>
    obtain ⟨htext, hrest⟩ := List.forall_mem_cons.1 h
    rw [moveTexts]
    split
    · refine .cons (replaces_onRecord (moved_moveInit d) htext) ?_
      rw [List.forall₂_map_right_iff, List.forall₂_same]
      exact fun text hmem => replaces_onRecord (moved_moveReply d) (hrest text hmem)
    · exact .cons (replaces_onRecord (moved_moveReply d) htext) (ih hrest)

theorem records_moveTimes {log : Bytes} (d : Int) (hutf8 : ∀ line ∈ lines log, (decode? line).isSome) :
    (∀ line ∈ lines (moveTimes d log), (decode? line).isSome) ∧
      records (moveTimes d log) = moveRecords d (records log) := by
  obtain ⟨hmoved, htexts⟩ := texts_withTexts hutf8 (replaces_moveTexts (d := d) fun _ => feed_notMem_of_mem_texts)
  exact ⟨hmoved, by rw [records, moveTimes, htexts, recordsOf_moveTexts, records]⟩

end

/-! ### One record -/

namespace Record

theorem number?_modify_of_ne {i j : Nat} (h : i ≠ j) (f : List Char → List Char) (record : Record) :
    number? (record.modify i f) j = record.number? j := by
  rw [number?, number?, List.getElem?_modify_ne _ _ h]

theorem number?_modify_moveNumber {i : Nat} {n : Int} (h : record.number? i = some n) (hfits : Fits (n + d)) :
    number? (record.modify i (moveNumber d)) i = some (n + d) := by
  obtain ⟨field, hfield, hread⟩ := number?_eq_some_iff.1 h
  refine number?_eq_some_iff.2 ⟨moveNumber d field, ?_, readSigned64_moveNumber hread hfits⟩
  rw [List.getElem?_modify_eq, hfield]
  rfl

/-- The record is a reply as before, and its time is the moved one. -/
structure MovedReply (d : Int) (record record' : Record) : Prop where
  isReply : record'.IsReply ↔ record.IsReply
  isInit : record'.IsInit ↔ record.IsInit
  length : record'.length = record.length
  time : record.IsReply → record'.number? 1 = (record.number? 1).map (· + d)
  size : record'.number? 3 = record.number? 3

/-- A reply is no `INIT` record, whatever its time. -/
theorem movedReply_moveReply (hreadable : record.Readable)
    (hfits : record.IsReply → ∀ time ∈ record.number? 1, Fits (time + d)) :
    MovedReply d record (record.moveReply d) := by
  rw [moveReply]
  split
  · rename_i hreply
    obtain ⟨time, htime⟩ := Option.isSome_iff_exists.1 (hreadable.time hreply)
    -- a record with a number as its time is no `INIT` record, before or after
    have hmoved := number?_modify_moveNumber htime (hfits hreply time htime)
    refine ⟨?_, iff_of_false (fun h => ?_) (fun h => ?_), List.length_modify _ _ _, fun _ => ?_, ?_⟩
    · rw [IsReply, IsReply, List.getElem?_modify_ne _ _ (by decide)]
    · rw [h.number?_one] at hmoved
      cases hmoved
    · rw [h.number?_one] at htime
      cases htime
    · rw [hmoved, htime]
      rfl
    · exact number?_modify_of_ne (by decide) _ record
  · rename_i hreply
    exact ⟨Iff.rfl, Iff.rfl, rfl, fun h => absurd h hreply, rfl⟩

theorem MovedReply.readable (h : MovedReply d record record') (hreadable : record.Readable) : record'.Readable := by
  refine ⟨h.length ▸ hreadable.fields, fun hreply => ?_, fun hreply => ?_⟩
  · rw [h.isReply] at hreply
    rw [h.time hreply, Option.isSome_map]
    exact hreadable.time hreply
  · rw [h.size]
    exact hreadable.size (h.isReply.1 hreply)

theorem isInit_moveInit : (record.moveInit d).IsInit ↔ record.IsInit := by
  rw [moveInit, IsInit, IsInit, List.getElem?_modify_ne _ _ (by decide)]

theorem isReply_moveInit : (record.moveInit d).IsReply ↔ record.IsReply := by
  rw [moveInit, IsReply, IsReply, List.getElem?_modify_ne _ _ (by decide)]

theorem IsInit.readable_moveInit (hinit : record.IsInit) (hreadable : record.Readable) :
    (record.moveInit d).Readable := by
  have hreply : ¬ (record.moveInit d).IsReply := mt isReply_moveInit.1 (hinit.not_isReply hreadable)
  refine ⟨?_, fun h => absurd h hreply, fun h => absurd h hreply⟩
  rw [moveInit, List.length_modify]
  exact hreadable.fields

end Record

/-! ### All records -/

section

variable {records before : List Record} {init : Record} {windows : Windows}

theorem moveRecords_of_forall_not_isInit (h : ∀ record ∈ records, ¬ record.IsInit) :
    moveRecords d records = records.map (Record.moveReply d) := by
  induction records with
  | nil => rfl
  | cons record rest ih =>
    obtain ⟨hrecord, hrest⟩ := List.forall_mem_cons.1 h
    rw [moveRecords, if_neg hrecord, ih hrest, List.map_cons]

theorem moveRecords_append (behind : List Record) (hbefore : ∀ record ∈ before, ¬ record.IsInit)
    (hinit : init.IsInit) : moveRecords d (before ++ init :: behind) =
      before.map (Record.moveReply d) ++ init.moveInit d :: behind.map (Record.moveReply d) := by
  induction before with
  | nil => rw [List.nil_append, moveRecords, if_pos hinit, List.map_nil, List.nil_append]
  | cons record rest ih =>
    obtain ⟨hrecord, hrest⟩ := List.forall_mem_cons.1 hbefore
    rw [List.cons_append, moveRecords, if_neg hrecord, ih hrest, List.map_cons, List.cons_append]

theorem replySizes_map_moveReply (kind : Int → Bool)
    (h : ∀ record ∈ records, Record.MovedReply d record (record.moveReply d)) :
    replySizes kind (records.map (Record.moveReply d)) = replySizes (fun time => kind (time + d)) records := by
  rw [replySizes, replySizes, List.filterMap_map]
  refine List.filterMap_congr fun record hmem => ?_
  have hmoved := h record hmem
  rw [Function.comp_apply, hmoved.size]
  by_cases hreply : record.IsReply
  · have htime : ((record.moveReply d).number? 1).any kind = (record.number? 1).any fun time => kind (time + d) := by
      rw [hmoved.time hreply, Option.any_map]
    simp only [hmoved.isReply, htime]
  · simp only [hmoved.isReply, hreply, false_and]

/-- Replies and cutoffs moved alike leave every reply in its phase. -/
theorem phases_map_moveReply (startup after : Int)
    (h : ∀ record ∈ records, Record.MovedReply d record (record.moveReply d)) :
    Cutoffs.startupSizes ⟨startup + d, after + d⟩ (records.map (Record.moveReply d)) =
        Cutoffs.startupSizes ⟨startup, after⟩ records ∧
      Cutoffs.afterSizes ⟨startup + d, after + d⟩ (records.map (Record.moveReply d)) =
        Cutoffs.afterSizes ⟨startup, after⟩ records := by
  have hstartup : (fun time : Int => decide (time + d < startup + d)) = fun time => decide (time < startup) := by
    funext time
    rw [decide_eq_decide]
    omega
  have hafter : (fun time : Int => decide (startup + d ≤ time + d ∧ time + d < after + d)) =
      fun time => decide (startup ≤ time ∧ time < after) := by
    funext time
    rw [decide_eq_decide]
    omega
  constructor
  · rw [Cutoffs.startupSizes, replySizes_map_moveReply _ h, hstartup, Cutoffs.startupSizes]
  · rw [Cutoffs.afterSizes, replySizes_map_moveReply _ h, hafter, Cutoffs.afterSizes]

/-- Moved records are accepted as well, and the phases hold the same replies. -/
def AcceptsMoved (windows : Windows) (d : Int) (records : List Record) : Prop :=
  windows.Accept (moveRecords d records) ∧
    windows.startupSizes (moveRecords d records) = windows.startupSizes records ∧
    windows.afterSizes (moveRecords d records) = windows.afterSizes records

theorem acceptsMoved_of_forall_not_isInit (h : windows.Accept records)
    (hnone : ∀ record ∈ records, ¬ record.IsInit)
    (hmoved : ∀ record ∈ records, Record.MovedReply d record (record.moveReply d)) :
    AcceptsMoved windows d records := by
  have hnoneMoved : ∀ record ∈ records.map (Record.moveReply d), ¬ record.IsInit := by
    rw [List.forall_mem_map]
    exact fun record hmem => mt (hmoved record hmem).isInit.1 (hnone record hmem)
  obtain ⟨hstartup, hafter⟩ := phases_of_forall_not_isInit windows hnone
  obtain ⟨hstartupMoved, hafterMoved⟩ := phases_of_forall_not_isInit windows hnoneMoved
  rw [AcceptsMoved, moveRecords_of_forall_not_isInit hnone, hstartup, hafter]
  refine ⟨⟨?_, fun init hfirst => ?_, ?_, ?_⟩, hstartupMoved, hafterMoved⟩
  · rw [List.forall_mem_map]
    exact fun record hmem => (hmoved record hmem).readable (h.readable record hmem)
  · have hinit := List.find?_some hfirst
    exact absurd (of_decide_eq_true hinit) (hnoneMoved init (List.mem_of_find?_eq_some hfirst))
  · rw [hstartupMoved, ← hstartup]
    exact h.startup
  · rw [hafterMoved, ← hafter]
    exact h.after

theorem acceptsMoved_append {behind : List Record} {start : Int} (h : windows.Accept (before ++ init :: behind))
    (hbefore : ∀ record ∈ before, ¬ record.IsInit) (hinit : init.IsInit) (hstart : init.number? 3 = some start)
    (hmoved : ∀ record ∈ before ++ init :: behind, Record.MovedReply d record (record.moveReply d))
    (hfits : Fits (start + d)) (hfitsStartup : Fits (start + d + windows.startup))
    (hfitsAfter : Fits (start + d + windows.startup + windows.after)) :
    AcceptsMoved windows d (before ++ init :: behind) := by
  have hreadable := h.readable
  rw [List.forall_mem_append, List.forall_mem_cons] at hmoved hreadable
  obtain ⟨hmovedBefore, -, hmovedBehind⟩ := hmoved
  obtain ⟨hreadableBefore, hreadableInit, hreadableBehind⟩ := hreadable
  have hbeforeMoved : ∀ record ∈ before.map (Record.moveReply d), ¬ record.IsInit := by
    rw [List.forall_mem_map]
    exact fun record hmem => mt (hmovedBefore record hmem).isInit.1 (hbefore record hmem)
  have hinitMoved : (init.moveInit d).IsInit := Record.isInit_moveInit.2 hinit
  have hstartMoved : (init.moveInit d).number? 3 = some (start + d) := Record.number?_modify_moveNumber hstart hfits
  obtain ⟨hstartup, hafter⟩ := phases_append windows behind hbefore hinit hstart
  obtain ⟨hstartupMoved, hafterMoved⟩ :=
    phases_append windows (behind.map (Record.moveReply d)) hbeforeMoved hinitMoved hstartMoved
  -- the cutoffs move with the start of the clock
  have hends : start + d + windows.startup = start + windows.startup + d ∧
      start + windows.startup + d + windows.after = start + windows.startup + windows.after + d := by omega
  rw [hends.1, hends.2] at hstartupMoved hafterMoved
  obtain ⟨hstartupSame, hafterSame⟩ :=
    phases_map_moveReply (start + windows.startup) (start + windows.startup + windows.after) hmovedBehind
  rw [hstartupSame, ← hstartup] at hstartupMoved
  rw [hafterSame, ← hafter] at hafterMoved
  rw [AcceptsMoved, moveRecords_append behind hbefore hinit]
  refine ⟨⟨?_, ?_, hstartupMoved ▸ h.startup, hafterMoved ▸ h.after⟩, hstartupMoved, hafterMoved⟩
  · rw [List.forall_mem_append, List.forall_mem_cons, List.forall_mem_map, List.forall_mem_map]
    exact ⟨fun record hmem => (hmovedBefore record hmem).readable (hreadableBefore record hmem),
      hinit.readable_moveInit hreadableInit,
      fun record hmem => (hmovedBehind record hmem).readable (hreadableBehind record hmem)⟩
  · rw [find?_isInit_append _ hbeforeMoved hinitMoved]
    rintro _ ⟨⟩
    exact ⟨start + d, hstartMoved, hfitsStartup, hfitsAfter⟩

theorem movedReply_of_mem (h : windows.Accept records) (hreplies : ∀ reply ∈ replies records, Fits (reply.1 + d)) :
    ∀ record ∈ records, Record.MovedReply d record (record.moveReply d) := by
  intro record hmem
  have hreadable := h.readable record hmem
  refine Record.movedReply_moveReply hreadable fun hreply time htime => ?_
  obtain ⟨size, hsize⟩ := Option.isSome_iff_exists.1 (hreadable.size hreply)
  refine hreplies (time, size) (List.mem_filterMap.2 ⟨record, hmem, ?_⟩)
  rw [if_pos hreply, Option.mem_def.1 htime, hsize]
  rfl

theorem acceptsMoved (h : windows.Accept records) (hreplies : ∀ reply ∈ replies records, Fits (reply.1 + d))
    (hinit : ∀ start ∈ initTime? records, Fits (start + d) ∧ Fits (start + d + windows.startup) ∧
      Fits (start + d + windows.startup + windows.after)) : AcceptsMoved windows d records := by
  have hmoved := movedReply_of_mem h hreplies
  cases hfind : records.find? (fun r => r.IsInit) with
  | none => exact acceptsMoved_of_forall_not_isInit h (by simpa [List.find?_eq_none] using hfind) hmoved
  | some init =>
    obtain ⟨start, hstart, -, -⟩ := h.init init hfind
    have htime : initTime? records = some start := by
      rw [initTime?, hfind]
      exact hstart
    obtain ⟨hfits, hfitsStartup, hfitsAfter⟩ := hinit start htime
    obtain ⟨hisInit, before, behind, rfl, hbefore⟩ := List.find?_eq_some_iff_append.1 hfind
    exact acceptsMoved_append h (by simpa using hbefore) (by simpa using hisInit) hstart hmoved hfits hfitsStartup
      hfitsAfter

end

/-- A log with all its times moved gives the same sample, as long as the times and the cutoffs fit. -/
theorem read_moveTimes {windows : Windows} {threads : Nat} {log : Bytes} {sample : Sample} {d : Int}
    (hread : Bandwidth.read windows threads log = .ok sample)
    (hreplies : ∀ reply ∈ replies (records log), Fits (reply.1 + d))
    (hinit : ∀ start ∈ initTime? (records log), Fits (start + d) ∧ Fits (start + d + windows.startup) ∧
      Fits (start + d + windows.startup + windows.after)) :
    Bandwidth.read windows threads (moveTimes d log) = .ok sample := by
  obtain ⟨tally, htally, rfl⟩ := Except.map_eq_ok_iff.1 hread
  obtain ⟨hwell, rfl⟩ := tally_eq_ok_iff_wellFormed.1 htally
  obtain ⟨haccept, hstartup, hafter⟩ := acceptsMoved hwell.accept hreplies hinit
  obtain ⟨hutf8, hrecords⟩ := records_moveTimes d hwell.utf8
  rw [← hrecords] at haccept hstartup hafter
  refine Except.map_eq_ok_iff.2 ⟨_, tally_eq_ok_iff_wellFormed.2 ⟨⟨hutf8, haccept⟩, rfl⟩, ?_⟩
  rw [Tally.perThread, Tally.perThread, hstartup, hafter]

/-- A log with a reply before the clock starts, a comment that looks like a start, and a second start. -/
def restarted : List (List Char) :=
  ["1, +5 ,METADATA_FetchObjectVersionReply,1".toList,
    "; 2,INIT,clock,7".toList,
    "2,INIT,clock, 100 ".toList,
    "3,-50,METADATA_FetchObjectVersionReply,10".toList,
    "4,INIT,clock,later".toList,
    "5,115,METADATA_FetchObjectVersionReply,200".toList]

theorem read_moveTimes_restarted :
    Bandwidth.read ⟨10, 10⟩ 4 (ofTexts restarted) = .ok (Tally.perThread ⟨some ⟨110, 120⟩, 10, 200⟩ 4) ∧
      Bandwidth.read ⟨10, 10⟩ 4 (moveTimes (-1000) (ofTexts restarted)) =
        .ok (Tally.perThread ⟨some ⟨110, 120⟩, 10, 200⟩ 4) := by
  have hclear : ∀ text ∈ restarted, '\n' ∉ text ∧ text.getLast? ≠ some '\r' := by decide +kernel
  have htally : Bandwidth.tally ⟨10, 10⟩ (ofTexts restarted) = .ok ⟨some ⟨110, 120⟩, 10, 200⟩ :=
    foldLines_ofTexts hclear (by decide +kernel)
  have hread : Bandwidth.read ⟨10, 10⟩ 4 (ofTexts restarted) =
      .ok (Tally.perThread ⟨some ⟨110, 120⟩, 10, 200⟩ 4) := by
    rw [Bandwidth.read, htally, Except.map]
  have hreplies : replies (records (ofTexts restarted)) = [(5, 1), (-50, 10), (115, 200)] := by
    rw [records, (texts_ofTexts hclear).2]
    decide +kernel
  have hstart : initTime? (records (ofTexts restarted)) = some 100 := by
    rw [records, (texts_ofTexts hclear).2]
    decide +kernel
  refine ⟨hread, read_moveTimes hread ?_ ?_⟩
  · rw [hreplies]
    decide
  · rw [hstart]
    decide

end RunCharts.Log.Bandwidth
