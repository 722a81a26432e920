import RunCharts.Analysis.Basic
import RunCharts.Proofs.Files.Parent
import RunCharts.Proofs.Numeral.Digits

/-! # The thread count that a name tells

The leftmost `TH-` with a decimal digit behind it decides, by the longest run of digits there, whatever else the name
holds (`threadCount_eq_iff`). A `TH-` that stands in front of a count takes part in no other place: its first character
is none of the others and no digit (`leftmostMark_append`). -/

namespace RunCharts

namespace Log

open Text

def threadMark : List Char := "TH-".toList

/-- Somewhere in the name the mark has a decimal digit right behind it. -/
def IsMarked (name : List Char) : Prop :=
  ∃ before c after, name = before ++ threadMark ++ c :: after ∧ isDecimalDigit c = true

/-- The first place in the name where the mark has a digit behind it, with the longest run of digits there. -/
structure LeftmostMark (name before digits after : List Char) : Prop where
  eq : name = before ++ threadMark ++ digits ++ after
  digits_ne_nil : digits ≠ []
  isDecimalDigit : ∀ c ∈ digits, isDecimalDigit c = true
  longest : ∀ c ∈ after.head?, Text.isDecimalDigit c = false
  leftmost : ∀ before' c after', name = before' ++ threadMark ++ c :: after' → Text.isDecimalDigit c = true →
    before.length ≤ before'.length

/-- The digits are ASCII and spell a number of threads, which fits 32 bits and is not zero. -/
structure Counts (digits : List Char) (n : Nat) : Prop where
  ascii : ∀ c ∈ digits, c.isDigit = true
  value : Nat.ofDigitChars 10 digits 0 = n
  bounds : 1 ≤ n ∧ n < UInt32.size

/-- What a name tells about the number of threads. -/
inductive Tells (name : List Char) : Except ThreadCountError Nat → Prop where
  | missing : ¬ IsMarked name → Tells name (.error .missing)
  | count {before digits after n} : LeftmostMark name before digits after → Counts digits n → Tells name (.ok n)
  | invalid {before digits after} : LeftmostMark name before digits after → (∀ n, ¬ Counts digits n) →
    Tells name (.error .invalid)

variable {name before digits after : List Char} {n : Nat}

/-! ### The leftmost mark -/

theorem takeWhile_digits (hdigits : ∀ c ∈ digits, isDecimalDigit c = true)
    (hafter : ∀ c ∈ after.head?, isDecimalDigit c = false) : (digits ++ after).takeWhile isDecimalDigit = digits := by
  rw [List.takeWhile_append_of_pos hdigits]
  cases after with
  | nil => simp
  | cons c after => simp [hafter c (by simp)]

theorem digitsAfterMark?_append (rest : List Char) : digitsAfterMark? (threadMark ++ rest) =
    if rest.takeWhile isDecimalDigit = [] then none else some (rest.takeWhile isDecimalDigit) := by
  show (if (rest.takeWhile isDecimalDigit).isEmpty then none else some (rest.takeWhile isDecimalDigit)) = _
  simp only [List.isEmpty_iff]

theorem digitsAfterMark?_eq_none (h : ∀ c after, name = threadMark ++ c :: after → isDecimalDigit c = false) :
    digitsAfterMark? name = none := by
  by_cases hname : ∃ rest, name = threadMark ++ rest
  · obtain ⟨rest, rfl⟩ := hname
    rw [digitsAfterMark?_append, if_pos]
    cases rest with
    | nil => rfl
    | cons c after => simp [h c after rfl]
  · unfold digitsAfterMark?
    split
    · exact absurd ⟨_, rfl⟩ hname
    · rfl

theorem IsMarked.cons (h : IsMarked name) (c : Char) : IsMarked (c :: name) := by
  obtain ⟨before, d, after, rfl, hd⟩ := h
  exact ⟨c :: before, d, after, rfl, hd⟩

theorem threadDigits?_eq_none (h : ¬ IsMarked name) : threadDigits? name = none := by
  induction name with
  | nil => rfl
  | cons c rest ih =>
    have hfirst : digitsAfterMark? (c :: rest) = none := by
      refine digitsAfterMark?_eq_none fun d after hname => ?_
      by_contra hd
      exact h ⟨[], d, after, hname, by simpa using hd⟩
    rw [threadDigits?, hfirst]
    exact ih fun hrest => h (hrest.cons c)

namespace LeftmostMark

theorem threadDigits? (h : LeftmostMark name before digits after) : threadDigits? name = some digits := by
  induction before generalizing name with
  | nil =>
    have hfirst : digitsAfterMark? name = some digits := by
      rw [h.eq, List.nil_append, List.append_assoc, digitsAfterMark?_append,
        takeWhile_digits h.isDecimalDigit h.longest, if_neg h.digits_ne_nil]
    cases name with
    | nil => cases hfirst
    | cons c rest => rw [Log.threadDigits?, hfirst]
  | cons b before ih =>
    have hfirst : digitsAfterMark? name = none := by
      refine digitsAfterMark?_eq_none fun c after' hname => ?_
      by_contra hc
      have := h.leftmost [] c after' hname (by simpa using hc)
      simp at this
    have hname : name = b :: (before ++ threadMark ++ digits ++ after) := h.eq
    rw [hname] at hfirst ⊢
    rw [Log.threadDigits?, hfirst]
    refine ih ⟨rfl, h.digits_ne_nil, h.isDecimalDigit, h.longest, fun before' c after' hrest hc => ?_⟩
    have := h.leftmost (b :: before') c after' (by rw [hname, hrest]; rfl) hc
    simpa using this

end LeftmostMark

theorem exists_leftmostMark (h : IsMarked name) : ∃ before digits after, LeftmostMark name before digits after := by
  induction name with
  | nil =>
    obtain ⟨before, c, after, hname, -⟩ := h
    simp at hname
  | cons b rest ih =>
    by_cases hfirst : ∃ c after, b :: rest = threadMark ++ c :: after ∧ isDecimalDigit c = true
    · obtain ⟨c, after, hname, hc⟩ := hfirst
      refine ⟨[], (c :: after).takeWhile isDecimalDigit, (c :: after).dropWhile isDecimalDigit, ?_, ?_, ?_, ?_, ?_⟩
      · rw [List.nil_append, List.append_assoc, List.takeWhile_append_dropWhile, hname]
      · simp [hc]
      · exact fun d hd => List.mem_takeWhile_imp hd
      · intro d hd
        have := List.head?_dropWhile_not isDecimalDigit (c :: after)
        rw [Option.mem_def.1 hd] at this
        exact this
      · exact fun _ _ _ _ _ => Nat.zero_le _
    · have hrest : IsMarked rest := by
        obtain ⟨before, c, after, hname, hc⟩ := h
        cases before with
        | nil => exact absurd ⟨c, after, hname, hc⟩ hfirst
        | cons b' before =>
          obtain ⟨-, rfl⟩ := List.cons_eq_cons.1 hname
          exact ⟨before, c, after, rfl, hc⟩
      obtain ⟨before, digits, after, hmark⟩ := ih hrest
      refine ⟨b :: before, digits, after, ?_, hmark.digits_ne_nil, hmark.isDecimalDigit, hmark.longest, ?_⟩
      · rw [hmark.eq]
        rfl
      · intro before' c after' hname hc
        cases before' with
        | nil => exact absurd ⟨c, after', hname, hc⟩ hfirst
        | cons b' before' =>
          obtain ⟨-, htail⟩ := List.cons_eq_cons.1 hname
          have := hmark.leftmost before' c after' htail hc
          simpa using this

theorem isMarked_iff : IsMarked name ↔ (threadDigits? name).isSome := by
  constructor
  · intro h
    obtain ⟨before, digits, after, hmark⟩ := exists_leftmostMark h
    rw [hmark.threadDigits?, Option.isSome_some]
  · intro h
    by_contra hnot
    rw [threadDigits?_eq_none hnot] at h
    cases h

instance : Decidable (IsMarked name) := decidable_of_iff _ isMarked_iff.symm

/-- No mark begins in the text in front of a mark and ends behind it. -/
theorem leftmostMark_append (hbefore : ¬ IsMarked before) (hne : digits ≠ [])
    (hdigits : ∀ c ∈ digits, isDecimalDigit c = true) (hafter : ∀ c ∈ after.head?, isDecimalDigit c = false) :
    LeftmostMark (before ++ threadMark ++ digits ++ after) before digits after := by
  refine ⟨rfl, hne, hdigits, hafter, fun before' c after' hname hc => ?_⟩
  by_contra hlt
  rw [List.append_assoc, List.append_assoc, List.append_assoc] at hname
  rcases List.append_eq_append_iff.1 hname with ⟨rest, hbefore', -⟩ | ⟨rest, hbefore', hrest⟩
  · rw [hbefore', List.length_append] at hlt
    omega
  -- the mark begins `rest.length` characters before the other one
  have hmark (text : List Char) : threadMark ++ text = 'T' :: 'H' :: '-' :: text := rfl
  rw [hmark, hmark] at hrest
  rcases rest with _ | ⟨t, _ | ⟨h, _ | ⟨dash, _ | ⟨d, rest⟩⟩⟩⟩
  · rw [hbefore', List.append_nil] at hlt
    omega
  · simp at hrest
  · simp at hrest
  · have hT : c = 'T' := by simp_all
    rw [hT] at hc
    exact absurd hc (by decide)
  · obtain ⟨rfl, rfl, rfl, rfl, -⟩ : 'T' = t ∧ 'H' = h ∧ '-' = dash ∧ c = d ∧ _ := by simpa using hrest
    exact hbefore ⟨before', c, rest, by simp [hbefore', hmark], hc⟩

/-! ### The count -/

theorem readInteger_eq_ok_iff {greatest : Nat} {m : Int} (hne : digits ≠ [])
    (hdigits : ∀ c ∈ digits, isDecimalDigit c = true) : Numeral.readInteger 0 greatest digits = .ok m ↔
      (∀ c ∈ digits, c.isDigit = true) ∧ m = Nat.ofDigitChars 10 digits 0 ∧ m ≤ greatest := by
  obtain ⟨c, rest, rfl⟩ := List.exists_cons_of_ne_nil hne
  have hc := hdigits c List.mem_cons_self
  have hplus : c ≠ '+' := by rintro rfl; exact absurd hc (by decide)
  have hminus : c ≠ '-' := by rintro rfl; exact absurd hc (by decide)
  rw [Numeral.readInteger_of_ne hplus hminus]
  exact @Numeral.digitsUp_eq_ok_iff greatest m (c :: rest) 0 (by omega)

theorem Tells.eq {result : Except ThreadCountError Nat} (h : Tells name result) : threadCount name = result := by
  have hlimit : Numeral.unsignedLimit 32 = 4294967295 := rfl
  have hsize : UInt32.size = 4294967296 := rfl
  unfold threadCount
  cases h with
  | missing h => rw [threadDigits?_eq_none h]
  | @count before digits after n h hcounts =>
    have hread : Numeral.readInteger 0 (Numeral.unsignedLimit 32) digits = .ok n := by
      rw [readInteger_eq_ok_iff h.digits_ne_nil h.isDecimalDigit, hcounts.value, hlimit]
      exact ⟨hcounts.ascii, rfl, by have := hcounts.bounds; omega⟩
    have hne : (n : Int) ≠ 0 := by have := hcounts.bounds; omega
    rw [h.threadDigits?]
    dsimp only
    rw [hread]
    dsimp only
    rw [if_neg hne, Int.toNat_natCast]
  | @invalid before digits after h hnone =>
    rw [h.threadDigits?]
    dsimp only
    cases hread : Numeral.readInteger 0 (Numeral.unsignedLimit 32) digits with
    | error error => rfl
    | ok m =>
      rw [readInteger_eq_ok_iff h.digits_ne_nil h.isDecimalDigit, hlimit] at hread
      obtain ⟨hascii, rfl, hle⟩ := hread
      have hzero : (Nat.ofDigitChars 10 digits 0 : Int) = 0 := by
        by_contra hne
        exact hnone _ ⟨hascii, rfl, by omega, by omega⟩
      dsimp only
      rw [if_pos hzero]

theorem exists_tells (name : List Char) : ∃ result, Tells name result := by
  by_cases h : IsMarked name
  · obtain ⟨before, digits, after, hmark⟩ := exists_leftmostMark h
    by_cases hcounts : ∃ n, Counts digits n
    · obtain ⟨n, hn⟩ := hcounts
      exact ⟨_, .count hmark hn⟩
    · exact ⟨_, .invalid hmark (not_exists.1 hcounts)⟩
  · exact ⟨_, .missing h⟩

theorem leftmostMark_repr (hbefore : ¬ IsMarked before) (hafter : ∀ c ∈ after.head?, isDecimalDigit c = false) (n : Nat) :
    LeftmostMark (before ++ threadMark ++ n.repr.toList ++ after) before n.repr.toList after := by
  refine leftmostMark_append hbefore ?_ ?_ hafter
  · rw [Nat.toList_repr]
    exact Nat.toDigits_ne_nil
  · intro c hc
    exact Numeral.isDecimalDigit_of_isDigit (isDigit_of_mem_repr hc)

theorem counts_repr (hbounds : 1 ≤ n ∧ n < UInt32.size) : Counts n.repr.toList n := by
  refine ⟨fun c hc => isDigit_of_mem_repr hc, ?_, hbounds⟩
  rw [Nat.toList_repr]
  exact Nat.ofDigitChars_toDigits (by decide) (by decide)

theorem threadCount_eq_iff {result : Except ThreadCountError Nat} : threadCount name = result ↔ Tells name result := by
  constructor
  · rintro rfl
    obtain ⟨result, h⟩ := exists_tells name
    rwa [h.eq]
  · exact Tells.eq

example : threadCount "TH-\u0663-TH-4".toList = .error .invalid := by decide

end Log

open Files

theorem threadCount_eq (path : Path) :
    threadCount path = (Log.threadCount (path.fileName?.getD [])).mapError (Fault.ofThreadCountError path) := by
  unfold threadCount
  cases path.fileName? <;> rfl

theorem mapError_ofThreadCountError_inj {path : Path} {told told' : Except Log.ThreadCountError Nat} :
    told.mapError (Fault.ofThreadCountError path) = told'.mapError (Fault.ofThreadCountError path) ↔ told = told' := by
  rcases told with (_ | _) | _ <;> rcases told' with (_ | _) | _ <;>
    simp [Except.mapError, Fault.ofThreadCountError]

theorem fileName?_join_of_isName {dir : Path} {name : String} (h : IsName name) :
    (dir.join name).fileName? = some name.toList := by
  obtain ⟨front, hsteps⟩ := Path.exists_steps_join dir h
  obtain ⟨parts, hends⟩ := Path.exists_endsIn_of_steps hsteps h.1
  exact hends.fileName?

theorem isName_mark {before after : List Char} (hbefore : '/' ∉ before) (hafter : '/' ∉ after) :
    IsName (String.ofList (before ++ Log.threadMark ++ after)) := by
  have hmark : 'T' ∈ before ++ Log.threadMark ++ after := by simp [Log.threadMark]
  constructor
  · intro h
    simp only [List.mem_cons, List.not_mem_nil, or_false] at h
    rcases h with h | h | h
    all_goals
      rw [← String.toList_inj, String.toList_ofList] at h
      rw [h] at hmark
      exact absurd hmark (by decide)
  · rw [String.toList_ofList]
    simp [hbefore, hafter, Log.threadMark]

/-- The file name of a path alone tells the number of threads. A number behind a mark is told as it is, if no mark
stands in front of it that has a digit behind it. -/
theorem threadCount_eq_iff_tells :
    (∀ (path : Path) result, threadCount path = result.mapError (Fault.ofThreadCountError path) ↔
      Log.Tells (path.fileName?.getD []) result) ∧
    ∀ (dir : Path) (before after : List Char) (n : Nat), ¬ Log.IsMarked before →
      (∀ c ∈ after.head?, Text.isDecimalDigit c = false) → '/' ∉ before → '/' ∉ after → 1 ≤ n → n < UInt32.size →
        threadCount (dir.join (String.ofList (before ++ Log.threadMark ++ n.repr.toList ++ after))) = .ok n := by
  constructor
  · intro path result
    rw [threadCount_eq, mapError_ofThreadCountError_inj, Log.threadCount_eq_iff]
  · intro dir before after n hbefore hafter hslash hslash' hpos hle
    have hdigits : '/' ∉ n.repr.toList := fun h => absurd (isDigit_of_mem_repr h) (by decide)
    have hname : IsName (String.ofList (before ++ Log.threadMark ++ n.repr.toList ++ after)) := by
      rw [List.append_assoc]
      refine isName_mark hslash ?_
      rw [List.mem_append, not_or]
      exact ⟨hdigits, hslash'⟩
    rw [threadCount_eq, fileName?_join_of_isName hname, String.toList_ofList]
    dsimp only [Option.getD]
    rw [(Log.Tells.count (Log.leftmostMark_repr hbefore hafter n) (Log.counts_repr ⟨hpos, hle⟩)).eq]
    rfl

theorem threadCount_eq_iff_tells_marks :
    ¬ Log.IsMarked "TH-".toList ∧ threadCount "runs/TH-x/TH-TH-16-TH-0.log" = .ok 16 := by
  have hmark : ¬ Log.IsMarked "TH-".toList := by decide
  have hafter : ∀ c ∈ "-TH-0.log".toList.head?, Text.isDecimalDigit c = false := by
    intro c hc
    obtain rfl : '-' = c := by simpa using hc
    decide
  exact ⟨hmark, threadCount_eq_iff_tells.2 "runs/TH-x" "TH-".toList "-TH-0.log".toList 16 hmark hafter (by decide)
    (by decide) (by decide) (by decide)⟩

end RunCharts
