import RunCharts.Proofs.Float.Magnitude
import RunCharts.Proofs.Numeral.Digits
import RunCharts.Yaml.Number

/-! # Integers in documents

The decimal digits of an integer stand for that integer (`integerKind?_repr`), and where a real number is asked for, for
the double that it becomes (`real?_repr`). -/

namespace RunCharts

theorem head?_toDigits_ne {n : Nat} (h : 0 < n) : (Nat.toDigits 10 n).head? ≠ some '0' := by
  induction n using Nat.strongRecOn with
  | ind n ih =>
    by_cases hn : n < 10
    · rw [Nat.toDigits_of_lt_base hn]
      interval_cases n <;> decide
    · have hfront := ih (n / 10) (by omega) (by omega)
      obtain ⟨c, rest, hcons⟩ := List.exists_cons_of_ne_nil (Nat.toDigits_ne_nil (n := n / 10) (b := 10))
      rw [Nat.toDigits_of_base_le (by decide) (by omega)]
      rw [hcons] at hfront ⊢
      exact hfront

namespace Yaml

variable {limit : Nat} {digits : List Char}

theorem toNat_sub_lt_of_isDigit {c : Char} (h : c.isDigit = true) : c.toNat - '0'.toNat < 10 := by
  have hrange := Char.isDigit_iff_toNat.1 h
  have hnine : '9'.toNat = 57 := rfl
  have hzero : '0'.toNat = 48 := rfl
  omega

theorem digitIn?_of_isDigit {c : Char} (h : c.isDigit = true) : digitIn? 10 c = some (c.toNat - '0'.toNat) := by
  rw [digitIn?, hexValue?, if_pos h, Option.filter_some, if_pos (decide_eq_true (toNat_sub_lt_of_isDigit h))]

theorem foldlM_digitIn? (h : ∀ c ∈ digits, c.isDigit = true) (value : Nat) :
    digits.foldlM (fun n c => (digitIn? 10 c).map (10 * n + ·)) value = some (Nat.ofDigitChars 10 digits value) := by
  induction digits generalizing value with
  | nil => rfl
  | cons c rest ih =>
    obtain ⟨hc, hrest⟩ := List.forall_mem_cons.1 h
    rw [List.foldlM_cons, digitIn?_of_isDigit hc, Nat.ofDigitChars_cons]
    exact ih hrest _

theorem isDigit_of_mem {n : Nat} : ∀ c ∈ n.repr.toList, c.isDigit = true := fun _ => isDigit_of_mem_repr

theorem exists_cons_repr (n : Nat) : ∃ c rest, n.repr.toList = c :: rest := by
  rw [Nat.toList_repr]
  exact List.exists_cons_of_ne_nil Nat.toDigits_ne_nil

theorem natural?_repr (n : Nat) : natural? 10 limit n.repr.toList = (some n).filter (· ≤ limit) := by
  obtain ⟨c, rest, hcons⟩ := exists_cons_repr n
  have hne : n.repr.toList.isEmpty = false := by rw [hcons]; rfl
  rw [natural?, hne, if_neg Bool.false_ne_true, foldlM_digitIn? isDigit_of_mem, Nat.toList_repr,
    Nat.ofDigitChars_ten_toDigits]

/-- No mark of a base stands in front of digits alone. -/
theorem marked?_repr (n : Nat) : marked? limit n.repr.toList = (some n).filter (· ≤ limit) := by
  have hdigits := isDigit_of_mem (n := n)
  rw [← natural?_repr]
  generalize n.repr.toList = text at hdigits
  unfold marked?
  split
  · exact absurd (hdigits 'x' (by simp)) (by decide)
  · exact absurd (hdigits 'o' (by simp)) (by decide)
  · exact absurd (hdigits 'b' (by simp)) (by decide)
  · rfl

theorem head?_repr_ne (n : Nat) {c : Char} (h : c.isDigit = false) : n.repr.toList.head? ≠ some c := by
  intro hhead
  rw [isDigit_of_mem c (List.mem_of_head? hhead)] at h
  cases h

theorem isPadded_repr (n : Nat) : isPadded n.repr.toList = false ∧ isPadded ('-' :: n.repr.toList) = false := by
  have hnone : (1 < n.repr.toList.length && n.repr.toList.head? = some '0') = false := by
    rw [Bool.and_eq_false_iff, decide_eq_false_iff_not, decide_eq_false_iff_not, Nat.toList_repr]
    rcases Nat.eq_zero_or_pos n with rfl | hpos
    · exact .inl (by decide)
    · exact .inr (head?_toDigits_ne hpos)
  constructor
  · rw [isPadded, if_neg (head?_repr_ne n (by decide)), withoutSign, if_neg (head?_repr_ne n (by decide)), hnone,
      Bool.false_and]
  · rw [isPadded, List.head?_cons, if_pos rfl, List.tail_cons, hnone, Bool.false_and]

theorem unsigned?_repr (n : Nat) : unsigned? limit n.repr.toList = (some n).filter (· ≤ limit) := by
  rw [unsigned?, (isPadded_repr n).1, if_neg Bool.false_ne_true, withoutSign, if_neg (head?_repr_ne n (by decide)),
    marked?_repr]

theorem negative?_repr (n : Nat) : negative? limit n.repr.toList = none ∧
    negative? limit ('-' :: n.repr.toList) = ((some n).filter (· ≤ limit)).map fun n => -(n : Int) := by
  constructor
  · have hhead := head?_repr_ne n (c := '-') (by decide)
    generalize n.repr.toList = text at hhead
    unfold negative?
    split
    · exact absurd rfl hhead
    · rfl
  · rw [negative?, (isPadded_repr n).2, if_neg Bool.false_ne_true, marked?_repr]

theorem unsigned?_minus (text : List Char) : unsigned? limit ('-' :: text) = none := by
  rw [unsigned?]
  split
  · rfl
  · rfl

theorem integerKind?_repr {n : Int} (h : Numeral.Signed64.Fits n) :
    integerKind? n.repr.toList = some (.integer n) := by
  have hleast : -9223372036854775808 ≤ n := h.1
  have hgreatest : n ≤ 9223372036854775807 := h.2
  have hsigned : Numeral.signedLimit 64 + 1 = 9223372036854775808 := rfl
  have hunsigned : Numeral.unsignedLimit 64 = 18446744073709551615 := rfl
  rw [integerKind?, toList_repr]
  by_cases hneg : n < 0
  · rw [if_pos hneg, unsigned?_minus, (negative?_repr n.natAbs).2, Option.filter_some,
      if_pos (decide_eq_true (by omega))]
    show some (Kind.integer (-(n.natAbs : Int))) = _
    rw [show -(n.natAbs : Int) = n by omega]
  · rw [if_neg hneg, unsigned?_repr, Option.filter_some, if_pos (decide_eq_true (by omega))]
    show some (Kind.integer (n.natAbs : Int)) = _
    rw [show (n.natAbs : Int) = n by omega]

/-! ### Bounds -/

theorem natural?_filter {base bound : Nat} (h : limit ≤ bound) :
    natural? base limit digits = (natural? base bound digits).filter (· ≤ limit) := by
  rw [natural?, natural?]
  split
  · rfl
  · rw [Option.filter_filter]
    congr 1
    funext n
    rw [eq_comm, Bool.and_eq_right_iff_imp, decide_eq_true_eq, decide_eq_true_eq]
    exact fun hn => hn.trans h

theorem marked?_filter {bound : Nat} (h : limit ≤ bound) :
    marked? limit digits = (marked? bound digits).filter (· ≤ limit) := by
  unfold marked?
  split <;> exact natural?_filter h

theorem unsigned?_filter {bound : Nat} (h : limit ≤ bound) (text : List Char) :
    unsigned? limit text = (unsigned? bound text).filter (· ≤ limit) := by
  rw [unsigned?, unsigned?]
  split
  · rfl
  · exact marked?_filter h

theorem le_of_negative? {text : List Char} {n : Int} (h : negative? limit text = some n) :
    -(limit : Int) ≤ n ∧ n ≤ 0 ∧ ∃ rest, text = '-' :: rest := by
  unfold negative? at h
  split at h
  · rename_i rest
    split at h
    · cases h
    · rw [marked?_filter le_rfl] at h
      obtain ⟨_, hlifted, rfl⟩ := Option.map_eq_some_iff.1 h
      obtain ⟨m, hm, hcast⟩ := Option.bind_eq_some_iff.1 hlifted
      cases hcast
      have hle : m ≤ limit := of_decide_eq_true (Option.filter_eq_some_iff.1 hm).2
      exact ⟨by omega, by omega, rest, rfl⟩
  · cases h

theorem signed?_eq_some_iff {text : List Char} {n : Int} :
    (match unsigned? (Numeral.signedLimit 64) text with
      | some n => some (n : Int)
      | none => negative? (Numeral.signedLimit 64 + 1) text) = some n ↔
    Numeral.Signed64.Fits n ∧ integerKind? text = some (.integer n) := by
  have hfits : Numeral.Signed64.Fits n ↔ -9223372036854775808 ≤ n ∧ n ≤ 9223372036854775807 := Iff.rfl
  have hsigned : Numeral.signedLimit 64 = 9223372036854775807 := rfl
  have hle : Numeral.signedLimit 64 ≤ Numeral.unsignedLimit 64 := by decide
  rw [unsigned?_filter hle, integerKind?, hfits]
  cases hunsigned : unsigned? (Numeral.unsignedLimit 64) text with
  | some m =>
    rw [Option.filter_some]
    by_cases hm : m ≤ Numeral.signedLimit 64
    · rw [if_pos (decide_eq_true hm)]
      simp only [Option.some.injEq, Kind.integer.injEq]
      omega
    · -- too large for a sign, and a minus sign there is not
      have hnone : negative? (Numeral.signedLimit 64 + 1) text = none := by
        rw [Option.eq_none_iff_forall_ne_some]
        intro k hk
        obtain ⟨-, -, rest, rfl⟩ := le_of_negative? hk
        rw [unsigned?_minus] at hunsigned
        cases hunsigned
      rw [if_neg (by simpa using hm), hnone]
      simp only [Option.some.injEq, Kind.integer.injEq, reduceCtorEq, false_iff]
      omega
  | none =>
    rw [Option.filter_none]
    cases hnegative : negative? (Numeral.signedLimit 64 + 1) text with
    | some k =>
      obtain ⟨hleast, hgreatest, -⟩ := le_of_negative? hnegative
      simp only [Option.some.injEq, Kind.integer.injEq]
      omega
    | none =>
      simp only [reduceCtorEq, false_iff, not_and]
      intro _
      split <;> simp

/-! ### Real numbers -/

theorem readDecimal?_of_digits (hne : digits ≠ []) (h : ∀ c ∈ digits, c.isDigit = true) :
    Numeral.readDecimal? digits = some ⟨Nat.ofDigitChars 10 digits 0, 0⟩ := by
  have hall : digits.takeWhile Char.isDigit = digits := List.takeWhile_eq_self_iff.2 h
  have hnone : digits.dropWhile Char.isDigit = [] := List.dropWhile_eq_nil_iff.2 h
  have hsome : digits.isEmpty = false := List.isEmpty_eq_false_iff.2 hne
  rw [Numeral.readDecimal?, hall, hnone]
  dsimp only
  rw [hsome, Bool.false_and, if_neg Bool.false_ne_true, List.append_nil]
  rfl

theorem nearestFloat_of_length {n : Nat} (h : (Nat.toDigits 10 n).length ≤ 400) :
    Numeral.nearestFloat ⟨n, 0⟩ = Float.ofNat n := by
  rcases Nat.eq_zero_or_pos n with rfl | hpos
  · rfl
  · have hsome : (decide (n = 0) || decide ((0 : Int) + (Nat.toDigits 10 n).length < -400)) = false := by
      rw [Bool.or_eq_false_iff, decide_eq_false_iff_not, decide_eq_false_iff_not]
      omega
    rw [Numeral.nearestFloat]
    dsimp only
    rw [hsome, if_neg Bool.false_ne_true, if_neg (by omega)]
    rfl

theorem length_toDigits_le {n k : Nat} (hk : 0 < k) (h : n.log2 < 3 * k) : (Nat.toDigits 10 n).length ≤ k := by
  rw [Nat.length_toDigits_le_iff (by decide) hk]
  calc
    n < 2 ^ (n.log2 + 1) := Nat.lt_log2_self
    _ ≤ 2 ^ (3 * k) := Nat.pow_le_pow_right (by decide) h
    _ = 8 ^ k := pow_mul 2 3 k
    _ ≤ 10 ^ k := Nat.pow_le_pow_left (by decide) k

theorem toLower_of_isDigit {c : Char} (h : c.isDigit = true) : c.toLower = c := by
  have hrange := Char.isDigit_iff_toNat.1 h
  rw [Char.toLower, dif_neg]
  rintro ⟨hupper, -⟩
  have hnine : '9'.toNat = 57 := rfl
  have hle : 65 ≤ c.toNat := UInt32.le_iff_toNat_le.1 hupper
  omega

theorem readUnsignedReal?_repr {n : Nat} (h : n.log2 < 1022) :
    Numeral.readUnsignedReal? n.repr.toList = some (Float.ofNat n) := by
  obtain ⟨c, rest, hcons⟩ := exists_cons_repr n
  have hlower : n.repr.toList.map Char.toLower = n.repr.toList :=
    (List.map_congr_left fun c hc => toLower_of_isDigit (isDigit_of_mem c hc)).trans (List.map_id _)
  have hword {word : List Char} {a : Char} (ha : a.isDigit = false) (hhead : word.head? = some a) :
      n.repr.toList ≠ word := fun heq => head?_repr_ne n ha (heq ▸ hhead)
  have hinf : n.repr.toList ≠ "inf".toList := hword (by decide) rfl
  have hinfinity : n.repr.toList ≠ "infinity".toList := hword (by decide) rfl
  have hnan : n.repr.toList ≠ "nan".toList := hword (by decide) rfl
  rw [Numeral.readUnsignedReal?, hlower, if_neg (not_or_intro hinf hinfinity), if_neg hnan,
    readDecimal?_of_digits (by rw [hcons]; exact List.cons_ne_nil c rest) isDigit_of_mem, Option.map_some,
    Nat.toList_repr, Nat.ofDigitChars_ten_toDigits,
    nearestFloat_of_length (length_toDigits_le (by decide) (by omega))]

theorem readReal_of_unsigned {c : Char} {rest : List Char} {x : Float} (hplus : c ≠ '+') (hminus : c ≠ '-')
    (h : Numeral.readUnsignedReal? (c :: rest) = some x) : Numeral.readReal (c :: rest) = .ok x := by
  unfold Numeral.readReal
  split
  · simp_all
  · simp_all
  · rw [h]

theorem readReal_repr {n : Int} (h : n.natAbs.log2 < 1022) :
    Numeral.readReal n.repr.toList = .ok (Float.ofInt n) := by
  have hread := readUnsignedReal?_repr h
  rw [toList_repr]
  cases n with
  | ofNat n =>
    obtain ⟨c, rest, hcons⟩ := exists_cons_repr n
    have hdigit : c.isDigit = true := isDigit_of_mem (n := n) c (by simp [hcons])
    have hsign {sign : Char} (hsign : sign.isDigit = false) : c ≠ sign := fun heq => by
      rw [heq, hsign] at hdigit
      cases hdigit
    have hnonneg : ¬ Int.ofNat n < 0 := (Int.natCast_nonneg n).not_gt
    rw [show (Int.ofNat n).natAbs = n from rfl, hcons] at hread
    rw [if_neg hnonneg, show (Int.ofNat n).natAbs = n from rfl, hcons]
    exact readReal_of_unsigned (hsign (by decide)) (hsign (by decide)) hread
  | negSucc n =>
    rw [if_pos (Int.negSucc_lt_zero n)]
    unfold Numeral.readReal
    simp only [hread]
    rfl

theorem real?_repr {n : Int} (h : n.natAbs.log2 < 1022) : real? n.repr.toList = some (Float.ofInt n) := by
  have hpoint : '.' ∉ n.repr.toList := fun hmem => by
    rcases eq_minus_or_isDigit_of_mem_repr hmem with hminus | hdigit
    · exact absurd hminus (by decide)
    · exact absurd hdigit (by decide)
  have hplus : n.repr.toList.head? ≠ some '+' := fun hhead => by
    rcases eq_minus_or_isDigit_of_mem_repr (List.mem_of_head? hhead) with hminus | hdigit
    · exact absurd hminus (by decide)
    · exact absurd hdigit (by decide)
  have hword {words : List (List Char)} (hwords : ∀ word ∈ words, '.' ∈ word) : n.repr.toList ∉ words :=
    fun hmem => hpoint (hwords _ hmem)
  rw [real?, withoutSign, if_neg hplus, if_neg (hword (by decide)), if_neg (hword (by decide)),
    if_neg (hword (by decide)), if_neg fun hsign => hplus hsign.1, readReal_repr h]
  exact if_pos (Binary64.isFinite_ofInt h)

end Yaml

end RunCharts
