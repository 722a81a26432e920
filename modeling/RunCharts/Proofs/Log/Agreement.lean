import Mathlib.Algebra.BigOperators.Group.List.Basic
import RunCharts.Proofs.Log.Phases
import RunCharts.Proofs.Log.Replies
import RunCharts.Proofs.Log.Texts

/-! # Two readings of one log

A client log can also be read for its fetch replies alone. Both readings agree on the replies that it holds: those
of the two phases, those before the first `INIT` record, and those after both phases (`total_eq_of_read`).

The readings see different records, since one of them leaves the blanks at the end of a line aside. For a log that
both accept, a line is a reply for both or for neither and has the same size (`isReply_recordOf_iff`,
`number?_recordOf`), so their lists of sizes are equal. The list is then a permutation of the four kinds of replies
(`sizesOf_perm`), whose lengths and sums follow. -/

namespace RunCharts.Log.Bandwidth

open Numeral.Signed64 ReplySizes

def earlySizes (records : List Record) : List Int :=
  replySizes (fun _ => true) (records.takeWhile fun record => ¬ record.IsInit)

/-- The sizes of the replies that follow the first `INIT` record after both phases. -/
def Windows.lateSizes (windows : Windows) (records : List Record) : List Int :=
  (windows.cutoffsOf? records).elim [] fun cutoffs =>
    replySizes (fun time => max cutoffs.startup cutoffs.after ≤ time) (afterInit records)

section

variable {windows : Windows} {records : List Record}

/-- The replies of a kind are those that are of another one as well, and those that are not. -/
theorem replySizes_perm (kind other : Int → Bool) (records : List Record) : (replySizes kind records).Perm
    (replySizes (fun time => kind time && other time) records ++
      replySizes (fun time => kind time && !other time) records) := by
  have hsplit := List.filter_append_perm (fun reply : Int × Int => other reply.1)
    ((replies records).filter fun reply => kind reply.1)
  rw [List.filter_filter, List.filter_filter] at hsplit
  simp only [replySizes_eq, ← List.map_append, Bool.and_comm (kind _)]
  exact (hsplit.map (·.2)).symm

theorem sizesOf_eq (h : ∀ record ∈ records, record.Readable) :
    sizesOf records = replySizes (fun _ => true) records := by
  refine List.filterMap_congr fun record hmem => ?_
  by_cases hreply : record.IsReply
  · obtain ⟨time, htime⟩ := Option.isSome_iff_exists.1 ((h record hmem).time hreply)
    simp [hreply, htime]
  · simp [hreply]

theorem replySizes_phases_perm (cutoffs : Cutoffs) (records : List Record) :
    (replySizes (fun _ => true) records).Perm (cutoffs.startupSizes records ++ cutoffs.afterSizes records ++
      replySizes (fun time => max cutoffs.startup cutoffs.after ≤ time) records) := by
  have hstartup := replySizes_perm (fun _ => true) (fun time => time < cutoffs.startup) records
  have hafter :=
    replySizes_perm (fun time => !decide (time < cutoffs.startup)) (fun time => time < cutoffs.after) records
  have hone : (fun time : Int => !decide (time < cutoffs.startup) && decide (time < cutoffs.after)) =
      fun time => decide (cutoffs.startup ≤ time ∧ time < cutoffs.after) := by
    funext time
    rw [Bool.eq_iff_iff]
    simp
  have hlate : (fun time : Int => !decide (time < cutoffs.startup) && !decide (time < cutoffs.after)) =
      fun time => decide (max cutoffs.startup cutoffs.after ≤ time) := by
    funext time
    rw [Bool.eq_iff_iff]
    simp only [Bool.and_eq_true, Bool.not_eq_true', decide_eq_false_iff_not, decide_eq_true_eq]
    omega
  simp only [Bool.true_and] at hstartup
  rw [hone, hlate] at hafter
  rw [List.append_assoc]
  exact hstartup.trans (hafter.append_left _)

/-- Every reply of an accepted log lies in one of the phases, before the first `INIT` record or after both phases. -/
theorem sizesOf_perm (h : windows.Accept records) :
    (sizesOf records).Perm (windows.startupSizes records ++ windows.afterSizes records ++
      earlySizes records ++ windows.lateSizes records) := by
  rw [sizesOf_eq h.readable]
  cases hfind : records.find? (fun r => r.IsInit) with
  | none =>
    have hinit : ∀ record ∈ records, ¬ record.IsInit := by simpa [List.find?_eq_none] using hfind
    have hclock := cutoffsOf?_of_forall_not_isInit windows hinit
    have hearly : earlySizes records = replySizes (fun _ => true) records := by
      rw [earlySizes, List.takeWhile_eq_self_iff.2 (by simpa using hinit)]
    simp [Windows.startupSizes, Windows.afterSizes, Windows.lateSizes, hearly, hclock]
  | some init =>
    obtain ⟨start, hstart, -, -⟩ := h.init init hfind
    have hreadable := h.readable
    obtain ⟨hinit, before, behind, rfl, hbefore⟩ := List.find?_eq_some_iff_append.1 hfind
    replace hinit : init.IsInit := by simpa using hinit
    replace hbefore : ∀ record ∈ before, ¬ record.IsInit := by simpa using hbefore
    have hclock := cutoffsOf?_append windows behind hbefore hinit hstart
    have hbehind := afterInit_append behind hbefore hinit
    have hearly : earlySizes (before ++ init :: behind) = replySizes (fun _ => true) before := by
      rw [earlySizes, List.takeWhile_append_of_pos (by simpa using hbefore),
        List.takeWhile_cons_of_neg (by simpa using hinit), List.append_nil]
    have hnoReply : ¬ init.IsReply := hinit.not_isReply (hreadable init (by simp))
    have hall : replySizes (fun _ => true) (before ++ init :: behind) =
        replySizes (fun _ => true) before ++ replySizes (fun _ => true) behind := by
      have hcons := replySizes_cons (fun _ => true) init behind
      rw [replySizes_of_not_isReply _ hnoReply, List.nil_append] at hcons
      rw [← hcons, replySizes, replySizes, replySizes, List.filterMap_append]
    rw [hall, hearly]
    simp only [Windows.startupSizes, Windows.afterSizes, Windows.lateSizes, hclock, hbehind, Option.elim_some]
    refine (List.Perm.append_left _ (replySizes_phases_perm
      ⟨start + windows.startup, start + windows.startup + windows.after⟩ behind)).trans ?_
    rw [← List.append_assoc]
    exact List.perm_append_comm.append_right _

theorem earlySizes_of_head? {init : Record} (hhead : init ∈ records.head?) (hinit : init.IsInit) :
    earlySizes records = [] := by
  obtain ⟨behind, rfl⟩ := List.head?_eq_some_iff.1 hhead
  rw [earlySizes, List.takeWhile_cons_of_neg (by simpa using hinit)]
  rfl

/-- The second phase ends last, if it does not end before it starts. -/
theorem lateSizes_of_forall (hafter : 0 ≤ windows.after)
    (h : ∀ cutoffs ∈ windows.cutoffsOf? records, ∀ reply ∈ replies records, reply.1 < cutoffs.after) :
    windows.lateSizes records = [] := by
  rw [Windows.lateSizes]
  cases hcutoffs : windows.cutoffsOf? records with
  | none => rfl
  | some cutoffs =>
    have hsub : (afterInit records).Sublist records := (List.tail_sublist _).trans (List.dropWhile_sublist _)
    have hend : max cutoffs.startup cutoffs.after = cutoffs.after := by
      obtain ⟨init, -, hinit⟩ := Option.bind_eq_some_iff.1 hcutoffs
      obtain ⟨start, -, hstart⟩ := Option.bind_eq_some_iff.1 hinit
      cases hstart
      dsimp only
      omega
    rw [Option.elim_some, replySizes_eq, List.map_eq_nil_iff, List.filter_eq_nil_iff, hend]
    intro reply hreply
    have hbefore := h cutoffs hcutoffs reply ((hsub.filterMap _).subset hreply)
    simpa using hbefore

end

/-- A log without comments that is accepted by both readings holds the same replies for both. -/
theorem total_eq_of_read {windows : Windows} {threads : Nat} {log : Bytes} {sample : Sample} {sizes : ReplySizes}
    (hcomments : ∀ text ∈ texts log, text.head? ≠ some ';')
    (hsample : Bandwidth.read windows threads log = .ok sample) (hsizes : ReplySizes.read log = .ok sizes) :
    ∃ tally, Bandwidth.tally windows log = .ok tally ∧ sample = tally.perThread threads ∧
      tally.startup = (windows.startupSizes (records log)).sum ∧
      tally.after = (windows.afterSizes (records log)).sum ∧
      sizes.total = tally.startup + tally.after + (earlySizes (records log)).sum +
        (windows.lateSizes (records log)).sum ∧
      sizes.replies = (windows.startupSizes (records log)).length + (windows.afterSizes (records log)).length +
        (earlySizes (records log)).length + (windows.lateSizes (records log)).length ∧
      ((∃ init ∈ (records log).head?, init.IsInit) → 0 ≤ windows.after →
        (∀ cutoffs ∈ windows.cutoffsOf? (records log), ∀ reply ∈ replies (records log), reply.1 < cutoffs.after) →
          tally.startup + tally.after = sizes.total ∧
            (windows.startupSizes (records log)).length + (windows.afterSizes (records log)).length =
              sizes.replies) := by
  obtain ⟨tally, htally, hperThread⟩ := Except.map_eq_ok_iff.1 hsample
  obtain ⟨hwell, hsums⟩ := tally_eq_ok_iff_wellFormed.1 htally
  obtain ⟨-, hsized, -, hcount⟩ := ReplySizes.read_eq_ok_iff.1 hsizes
  have hrecords : records log = (texts log).map (Text.fields ',') := by
    rw [records, recordsOf, List.filter_eq_self.2 (by simpa using hcomments)]
  have hsame : sizesOf ((texts log).map recordOf) = sizesOf (records log) := by
    rw [hrecords, sizesOf, sizesOf, List.filterMap_map, List.filterMap_map]
    refine List.filterMap_congr fun text hmem => ?_
    have hreadable : Record.Readable (Text.fields ',' text) :=
      hwell.accept.readable _ (hrecords ▸ List.mem_map_of_mem hmem)
    have hreply := isReply_recordOf_iff (hsized _ (List.mem_map_of_mem hmem)) hreadable.size
    simp only [Function.comp_apply, hreply, number?_recordOf]
  have hperm := sizesOf_perm hwell.accept
  have hsum := hperm.sum_eq
  have hlength := hperm.length_eq
  simp only [List.sum_append] at hsum
  simp only [List.length_append] at hlength
  have htotal : sizes.total = tally.startup + tally.after + (earlySizes (records log)).sum +
      (windows.lateSizes (records log)).sum := by
    rw [hcount, hsums, plus, hsame, hsum]
    simp
  have hnumber : sizes.replies = (windows.startupSizes (records log)).length +
      (windows.afterSizes (records log)).length + (earlySizes (records log)).length +
      (windows.lateSizes (records log)).length := by
    rw [hcount, plus, hsame, hlength]
    simp
  refine ⟨tally, htally, hperThread.symm, by rw [hsums], by rw [hsums], htotal, hnumber, ?_⟩
  rintro ⟨init, hhead, hinit⟩ hafter hbefore
  rw [htotal, hnumber, earlySizes_of_head? hhead hinit, lateSizes_of_forall hafter hbefore]
  simp

/-- A log with a reply of each kind: before the first `INIT` record, in both phases and after them. One has blanks
around its time and at the end of its line. -/
def mixed : List (List Char) :=
  ["1,5,METADATA_FetchObjectVersionReply,1".toList,
    "2,INIT,clock,100".toList,
    "3, +50 ,METADATA_FetchObjectVersionReply,10 \u2003".toList,
    "4,115,METADATA_FetchObjectVersionReply,200,more".toList,
    "5,130,METADATA_FetchObjectVersionReply,4000".toList]

theorem total_eq_of_read_mixed :
    Bandwidth.read ⟨10, 10⟩ 4 (ofTexts mixed) = .ok (Tally.perThread ⟨some ⟨110, 120⟩, 10, 200⟩ 4) ∧
      ReplySizes.read (ofTexts mixed) = .ok ⟨4, 4211⟩ ∧
      ∃ tally, Bandwidth.tally ⟨10, 10⟩ (ofTexts mixed) = .ok tally ∧
        4211 = tally.startup + tally.after + (earlySizes (records (ofTexts mixed))).sum +
          (Windows.lateSizes ⟨10, 10⟩ (records (ofTexts mixed))).sum := by
  have hclear : ∀ text ∈ mixed, '\n' ∉ text ∧ text.getLast? ≠ some '\r' := by decide +kernel
  have hcomments : ∀ text ∈ texts (ofTexts mixed), text.head? ≠ some ';' := by
    rw [(texts_ofTexts hclear).2]
    decide +kernel
  have htally : Bandwidth.tally ⟨10, 10⟩ (ofTexts mixed) = .ok ⟨some ⟨110, 120⟩, 10, 200⟩ :=
    foldLines_ofTexts hclear (by decide +kernel)
  have hsizes : ReplySizes.read (ofTexts mixed) = .ok ⟨4, 4211⟩ := foldLines_ofTexts hclear (by decide +kernel)
  have hsample : Bandwidth.read ⟨10, 10⟩ 4 (ofTexts mixed) = .ok (Tally.perThread ⟨some ⟨110, 120⟩, 10, 200⟩ 4) := by
    rw [Bandwidth.read, htally, Except.map]
  obtain ⟨tally, hread, -, -, -, htotal, -⟩ := total_eq_of_read hcomments hsample hsizes
  exact ⟨hsample, hsizes, tally, hread, htotal⟩

end RunCharts.Log.Bandwidth
