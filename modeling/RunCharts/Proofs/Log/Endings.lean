import RunCharts.Proofs.Log.FirstRefusal

/-! # Logs with other line endings

The lines of a log without returns stay what they are when returns are put in front of some of its line feeds
(`lines_addReturns`), and when a line feed ends its last line (`lines_append_feed`). All readers see the lines only, so
they give the same result or refuse the same line for the same reason (`ignoresEndings_readers`). Behind a line feed,
or in an empty log, another line feed is a line of its own (`lines_append_of_ended`). -/

namespace RunCharts.Log

/-- The log with a return in front of each line feed that is chosen. The line feeds are counted from zero. -/
def addReturns (chosen : Nat → Bool) : Bytes → Bytes
  | [] => []
  | b :: rest =>
    if b = 10 then
      if chosen 0 then 13 :: 10 :: addReturns (fun n => chosen (n + 1)) rest
      else 10 :: addReturns (fun n => chosen (n + 1)) rest
    else b :: addReturns chosen rest

/-- Nothing stands behind the last line feed of the log. -/
def IsEnded (log : Bytes) : Prop := log = [] ∨ log.getLast? = some 10

instance (log : Bytes) : Decidable (IsEnded log) := inferInstanceAs (Decidable (_ ∨ _))

variable {log rest : Bytes} {b : UInt8}

theorem IsEnded.tail (h : IsEnded (b :: rest)) : IsEnded rest := by
  cases rest with
  | nil => exact .inl rfl
  | cons c rest =>
    rcases h with h | h
    · cases h
    · rw [List.getLast?_cons_cons] at h
      exact .inr h

theorem lines_returnFeed (rest : Bytes) : lines (13 :: 10 :: rest) = [] :: lines rest := rfl

theorem lines_cons_congr {rest' : Bytes} (hb : b ≠ 10) (hreturn : b ≠ 13) (h : lines rest' = lines rest) :
    lines (b :: rest') = lines (b :: rest) := by
  rw [lines_cons hb fun he => absurd he hreturn, lines_cons hb fun he => absurd he hreturn, h]

theorem lines_addReturns (h : 13 ∉ log) (chosen : Nat → Bool) : lines (addReturns chosen log) = lines log := by
  induction log generalizing chosen with
  | nil => rfl
  | cons b rest ih =>
    obtain ⟨hreturn, hrest⟩ := List.ne_and_not_mem_of_not_mem_cons h
    unfold addReturns
    split
    · rename_i hb
      rw [hb, lines_feed]
      split
      · rw [lines_returnFeed, ih hrest]
      · rw [lines_feed, ih hrest]
    · rename_i hb
      exact lines_cons_congr hb hreturn.symm (ih hrest chosen)

theorem lines_append_feed (h : 13 ∉ log) (hended : ¬ IsEnded log) : lines (log ++ [10]) = lines log := by
  induction log with
  | nil => exact absurd (.inl rfl) hended
  | cons b rest ih =>
    obtain ⟨hreturn, hrest⟩ := List.ne_and_not_mem_of_not_mem_cons h
    cases rest with
    | nil =>
      have hb : b ≠ 10 := fun hb => hended (.inr (by rw [hb]; rfl))
      rw [List.singleton_append, lines_cons hb fun he => absurd he hreturn.symm,
        lines_cons hb fun he => absurd he hreturn.symm]
      rfl
    | cons c rest =>
      have htail : ¬ IsEnded (c :: rest) := by
        rintro (htail | htail)
        · cases htail
        · exact hended (.inr (by rw [List.getLast?_cons_cons, htail]))
      have hlines := ih hrest htail
      rw [List.cons_append]
      by_cases hb : b = 10
      · rw [hb, lines_feed, lines_feed, hlines]
      · exact lines_cons_congr hb hreturn.symm hlines

/-- What stands behind an ended log begins with a line of its own. -/
theorem lines_append_of_ended (h : IsEnded log) (more : Bytes) : lines (log ++ more) = lines log ++ lines more := by
  fun_induction lines log with
  | case1 => rfl
  | case2 rest ih =>
    show [] :: lines (rest ++ more) = [] :: (lines rest ++ lines more)
    rw [ih h.tail.tail]
  | case3 rest hreturn ih =>
    rw [List.cons_append, lines_feed, ih h.tail, List.cons_append]
  | case4 b rest hreturn hb hrest ih =>
    rw [lines_eq_nil_iff.1 hrest] at h
    rcases h with h | h
    · cases h
    · exact absurd (Option.some.inj h) hb
  | case5 b rest hreturn hb line others hrest ih =>
    have hhead : b = 13 → (rest ++ more).head? ≠ some 10 := by
      rintro rfl hhead
      cases rest with
      | nil => cases hrest
      | cons c rest =>
        obtain rfl := Option.some.inj hhead
        exact hreturn rest rfl rfl
    rw [List.cons_append, lines_cons hb hhead, ih h.tail, hrest]
    rfl

/-- A reader of logs does not see how the lines end. -/
structure IgnoresEndings {α : Type} (read : Files.Path → Bytes → Except Fault α) : Prop where
  returns : ∀ path log chosen, 13 ∉ log → read path (addReturns chosen log) = read path log
  lastFeed : ∀ path log, 13 ∉ log → ¬ IsEnded log → read path (log ++ [10]) = read path log

theorem ignoresEndings_of_lines {α : Type} {read : Files.Path → Bytes → Except Fault α}
    (h : ∀ path log log', lines log = lines log' → read path log = read path log') : IgnoresEndings read :=
  ⟨fun path _ chosen hreturn => h path _ _ (lines_addReturns hreturn chosen),
    fun path _ hreturn hended => h path _ _ (lines_append_feed hreturn hended)⟩

theorem foldLines_congr {σ : Type} {step : σ → List Char → Except Reason σ} {start : σ} {log log' : Bytes}
    (h : lines log = lines log') : foldLines step start log = foldLines step start log' := by
  rw [foldLines, foldLines, h]

theorem ignoresEndings_readers :
    (∀ windows threads, IgnoresEndings fun path log =>
      (Bandwidth.read windows threads log).mapError (Fault.ofRefusal path)) ∧
    (∀ mode, IgnoresEndings fun path log => (Counter.read mode log).mapError (Fault.ofRefusal path)) ∧
    (IgnoresEndings fun path log => (ReplySizes.read log).mapError (Fault.ofRefusal path)) ∧
    ∀ log, IsEnded log → lines (log ++ [10]) = lines log ++ [[]] := by
  refine ⟨fun windows threads => ?_, fun mode => ?_, ?_, fun log h => lines_append_of_ended h [10]⟩
  · refine ignoresEndings_of_lines fun path log log' h => ?_
    rw [Bandwidth.read, Bandwidth.read, Bandwidth.tally, Bandwidth.tally, foldLines_congr h]
  · refine ignoresEndings_of_lines fun path log log' h => ?_
    cases mode with
    | sumFrom start => rw [Counter.read, Counter.read, Counter.sumFrom, Counter.sumFrom, foldLines_congr h]
    | peak => rw [Counter.read, Counter.read, Counter.peak, Counter.peak, foldLines_congr h]
  · refine ignoresEndings_of_lines fun path log log' h => ?_
    rw [ReplySizes.read, ReplySizes.read, foldLines_congr h]

/-- The second of two lines is refused, with a return in front of the first line feed, and with a line feed at the end. -/
theorem ignoresEndings_readers_mixed :
    (Counter.read (.sumFrom 3) [49, 59, 50, 13, 10, 51, 59, 120]).mapError (Fault.ofRefusal "polls") =
      .error (.malformed "polls" 2 (.badInteger .count ['x'] .invalidDigit)) ∧
    (Counter.read (.sumFrom 3) [49, 59, 50, 10, 51, 59, 120, 10]).mapError (Fault.ofRefusal "polls") =
      .error (.malformed "polls" 2 (.badInteger .count ['x'] .invalidDigit)) ∧
    lines [49, 59, 50, 10, 10] = [[49, 59, 50], []] := by
  obtain ⟨-, hcounter, -, hlines⟩ := ignoresEndings_readers
  have hrefused : (Counter.read (.sumFrom 3) [49, 59, 50, 10, 51, 59, 120]).mapError (Fault.ofRefusal "polls") =
      .error (.malformed "polls" 2 (.badInteger .count ['x'] .invalidDigit)) := by decide +kernel
  refine ⟨?_, ?_, ?_⟩
  · rw [← hrefused]
    exact (hcounter (.sumFrom 3)).returns "polls" [49, 59, 50, 10, 51, 59, 120] (fun n => n = 0) (by decide)
  · rw [← hrefused]
    exact (hcounter (.sumFrom 3)).lastFeed "polls" [49, 59, 50, 10, 51, 59, 120] (by decide) (by decide)
  · exact hlines [49, 59, 50, 10] (by decide)

end RunCharts.Log
