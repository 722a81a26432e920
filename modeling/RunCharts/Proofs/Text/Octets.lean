import RunCharts.Analysis.Basic

/-! # Texts in the order of their octets

Texts are compared character by character. Comparing their octets instead makes no difference
(`octets_lt_octets`), and no two texts have the same octets (`octets_injective`). -/

namespace RunCharts

theorem octets_injective : Function.Injective octets := fun a b h => by
  have hbytes : a.toUTF8 = b.toUTF8 := ByteArray.ext (Array.toList_inj.1 h)
  exact String.toByteArray_inj.1 hbytes

theorem octets_ofList (text : List Char) :
    octets (String.ofList text) = text.flatMap String.utf8EncodeChar := by
  simp [octets, String.toUTF8, List.utf8Encode]

/-- The octets of a lesser character come first, whatever follows. -/
theorem utf8EncodeChar_append_lt {c d : Char} (h : c < d) (x y : List UInt8) :
    String.utf8EncodeChar c ++ x < String.utf8EncodeChar d ++ y := by
  have hlt : c.val.toNat < d.val.toNat := h
  have hd : d.val.toNat < 0x110000 := by
    have := d.valid
    unfold UInt32.isValidChar Nat.isValidChar at this
    omega
  unfold String.utf8EncodeChar
  dsimp only
  generalize c.val.toNat = m at *
  generalize d.val.toNat = n at *
  have hdiv (k : Nat) : k / 4096 = k / 64 / 64 ∧ k / 262144 = k / 64 / 64 / 64 := by omega
  have hbyte (k : Nat) : (k % 32 + 192) % 256 = k % 32 + 192 ∧ (k % 16 + 224) % 256 = k % 16 + 224 ∧
      (k % 8 + 240) % 256 = k % 8 + 240 ∧ (k % 64 + 128) % 256 = k % 64 + 128 := by omega
  -- the first octet shows the number of octets; of two equal numbers the digits to base 64 decide
  repeat' split
  all_goals
    simp only [List.cons_append, List.nil_append, List.cons_lt_cons_iff, UInt8.lt_iff_toNat_lt,
      ← UInt8.toNat_inj, UInt8.toNat_ofNat', Nat.reducePow, hdiv, hbyte]
    omega

theorem flatMap_utf8EncodeChar_lt {s t : List Char} (h : s < t) :
    s.flatMap String.utf8EncodeChar < t.flatMap String.utf8EncodeChar := by
  induction s generalizing t with
  | nil =>
    cases t with
    | nil => exact absurd h (List.lt_irrefl _)
    | cons d t =>
      rw [List.flatMap_nil, List.flatMap_cons]
      obtain ⟨octet, more, hd⟩ := List.exists_cons_of_ne_nil (String.utf8EncodeChar_ne_nil (c := d))
      rw [hd, List.cons_append]
      exact List.nil_lt_cons _ _
  | cons c s ih =>
    cases t with
    | nil => exact absurd h (List.not_lt_nil _)
    | cons d t =>
      rw [List.flatMap_cons, List.flatMap_cons]
      rcases List.cons_lt_cons_iff.1 h with hlt | ⟨rfl, hlt⟩
      · exact utf8EncodeChar_append_lt hlt _ _
      · exact List.append_left_lt (ih hlt)

theorem octets_lt_octets {a b : String} (h : a < b) : octets a < octets b := by
  rw [← String.ofList_toList (s := a), ← String.ofList_toList (s := b), octets_ofList, octets_ofList]
  exact flatMap_utf8EncodeChar_lt h

end RunCharts
