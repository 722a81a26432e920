import RunCharts.Proofs.FirstError
import RunCharts.Proofs.Log.Pieces

/-! # The texts of lines

A log is accepted when all its lines are UTF-8 and the reading of their texts goes through
(`foldLines_eq_ok_iff`); the numbers of the lines only matter to refusals. A line that is UTF-8 is the octets
of its text. Texts can be put on the lines of a log in the place of those that stand there, the endings left
as they are (`texts_withTexts`). -/

namespace RunCharts.Log

/-! ### Accepted logs -/

section

variable {σ : Type} {step : σ → List Char → Except Reason σ} {state state' : σ}

def texts (log : Bytes) : List (List Char) := (lines log).filterMap decode?

theorem stepLine_eq_ok_iff {line : Bytes × Nat} : stepLine step state line = .ok state' ↔
    ∃ text, decode? line.1 = some text ∧ step state text = .ok state' := by
  unfold stepLine
  split
  · rename_i h; simp [h]
  · rename_i text h; simp [h, Except.mapError_eq_ok_iff]

theorem foldlM_stepLine_eq_ok_iff {rest : List Bytes} {n : Nat} :
    (rest.zipIdx n).foldlM (stepLine step) state = .ok state' ↔
      (∀ line ∈ rest, (decode? line).isSome) ∧
        (rest.filterMap decode?).foldlM step state = .ok state' := by
  induction rest generalizing state n with
  | nil => simp
  | cons line rest ih =>
    rw [List.zipIdx_cons, List.foldlM_cons, Except.bind_eq_ok_iff]
    simp only [stepLine_eq_ok_iff, ih, List.forall_mem_cons]
    cases h : decode? line with
    | none => simp
    | some text =>
      simp only [List.filterMap_cons, h, List.foldlM_cons, Except.bind_eq_ok_iff, Option.some.injEq,
        exists_eq_left', Option.isSome_some, true_and]
      constructor
      · rintro ⟨next, hnext, hutf, hfold⟩
        exact ⟨hutf, next, hnext, hfold⟩
      · rintro ⟨hutf, next, hnext, hfold⟩
        exact ⟨next, hnext, hutf, hfold⟩

theorem foldLines_eq_ok_iff {log : Bytes} : foldLines step state log = .ok state' ↔
    (∀ line ∈ lines log, (decode? line).isSome) ∧ (texts log).foldlM step state = .ok state' :=
  foldlM_stepLine_eq_ok_iff

end

/-! ### Texts and their octets -/

def encode (text : List Char) : Bytes := text.flatMap String.utf8EncodeChar

theorem toArray_encode (text : List Char) : (⟨(encode text).toArray⟩ : ByteArray) = text.utf8Encode := by
  apply ByteArray.ext
  simp [List.utf8Encode, encode]

theorem decode?_encode (text : List Char) : decode? (encode text) = some text := by
  have hvalid : text.utf8Encode.IsValidUTF8 := .intro text rfl
  have hstring : String.fromUTF8 text.utf8Encode hvalid = String.ofList text := rfl
  rw [decode?, toArray_encode, String.fromUTF8?, dif_pos hvalid, Option.map_some, hstring, String.toList_ofList]

theorem decode?_eq_some_iff {line : Bytes} {text : List Char} : decode? line = some text ↔ line = encode text := by
  constructor
  · intro h
    obtain ⟨string, hstring, -⟩ := Option.map_eq_some_iff.1 h
    have hvalid : ByteArray.IsValidUTF8 ⟨line.toArray⟩ := by
      by_contra hnot
      rw [String.fromUTF8?, dif_neg hnot] at hstring
      cases hstring
    obtain ⟨text', htext'⟩ := hvalid
    have hline : line = encode text' := by
      rw [← toArray_encode] at htext'
      exact List.toArray_inj (congrArg ByteArray.data htext')
    rw [hline, decode?_encode] at h
    rw [hline, Option.some.inj h]
  · rintro rfl
    exact decode?_encode text

/-- An octet below 128 is that of a character of its own. -/
theorem toNat_of_mem_utf8EncodeChar {b : UInt8} {c : Char} (h : b.toNat < 128) (hmem : b ∈ String.utf8EncodeChar c) :
    c.toNat = b.toNat := by
  have hc : c.toNat = c.val.toNat := rfl
  have hlimit : c.val.toNat < 0x110000 := by
    have := c.valid
    unfold UInt32.isValidChar Nat.isValidChar at this
    omega
  unfold String.utf8EncodeChar at hmem
  dsimp only at hmem
  rw [hc]
  generalize c.val.toNat = n at *
  have hoctet (k : Nat) : (UInt8.ofNat k).toNat = k % 256 := UInt8.toNat_ofNat'
  -- all octets of a character that has more than one are at least 128
  repeat' split at hmem
  all_goals simp only [List.mem_cons, List.not_mem_nil, or_false] at hmem
  · rw [hmem, hoctet]
    omega
  · rcases hmem with rfl | rfl <;> rw [hoctet] at h <;> omega
  · rcases hmem with rfl | rfl | rfl <;> rw [hoctet] at h <;> omega
  · rcases hmem with rfl | rfl | rfl | rfl <;> rw [hoctet] at h <;> omega

theorem eq_of_mem_utf8EncodeChar {b : UInt8} {c d : Char} (hd : d.toNat < 128) (hb : b.toNat = d.toNat)
    (hmem : b ∈ String.utf8EncodeChar c) : c = d := by
  have hnat : c.toNat = d.toNat := (toNat_of_mem_utf8EncodeChar (by omega) hmem).trans hb
  exact Char.toNat_inj.1 hnat

theorem feed_notMem_encode {text : List Char} (h : '\n' ∉ text) : 10 ∉ encode text := by
  intro hmem
  obtain ⟨c, hc, hoctet⟩ := List.mem_flatMap.1 hmem
  have hfeed : c = '\n' := eq_of_mem_utf8EncodeChar (by decide) rfl hoctet
  exact h (hfeed ▸ hc)

theorem feed_notMem_of_mem_texts {log : Bytes} {text : List Char} (h : text ∈ texts log) : '\n' ∉ text := by
  obtain ⟨line, hline, htext⟩ := List.mem_filterMap.1 h
  rw [← map_line_pieces] at hline
  obtain ⟨piece, hpiece, rfl⟩ := List.mem_map.1 hline
  intro hfeed
  refine ((areClear_pieces log).clear piece hpiece).feed_notMem ?_
  rw [decode?_eq_some_iff.1 htext]
  exact List.mem_flatMap.2 ⟨'\n', hfeed, List.mem_singleton_self 10⟩

theorem getLast?_encode_eq_return_iff {text : List Char} :
    (encode text).getLast? = some 13 ↔ text.getLast? = some '\r' := by
  rcases List.eq_nil_or_concat text with rfl | ⟨front, c, rfl⟩
  · exact iff_of_false nofun nofun
  · have hencode : encode (front ++ [c]) = encode front ++ String.utf8EncodeChar c := by
      simp [encode]
    rw [List.concat_eq_append, hencode, List.getLast?_append_of_ne_nil _ String.utf8EncodeChar_ne_nil,
      List.getLast?_concat]
    constructor
    · intro h
      have hreturn : c = '\r' := eq_of_mem_utf8EncodeChar (by decide) rfl (List.mem_of_getLast? h)
      rw [hreturn]
    · intro h
      rw [Option.some.inj h]
      rfl

theorem encode_eq_nil_iff {text : List Char} : encode text = [] ↔ text = [] := by
  cases text with
  | nil => exact iff_of_true rfl rfl
  | cons c rest =>
    rw [encode, List.flatMap_cons, List.append_eq_nil_iff]
    exact iff_of_false (fun h => String.utf8EncodeChar_ne_nil h.1) (List.cons_ne_nil c rest)

/-- The text in front of a feed is a line, unless it ends in a return. -/
theorem lines_encode_feed {text : List Char} (hfeed : '\n' ∉ text) (hreturn : text.getLast? ≠ some '\r')
    (behind : List Char) : lines (encode (text ++ '\n' :: behind)) = encode text :: lines (encode behind) := by
  have hclear : Piece.IsClear ⟨encode text, .feed⟩ :=
    ⟨feed_notMem_encode hfeed, fun _ => mt getLast?_encode_eq_return_iff.1 hreturn, fun hnone => by cases hnone⟩
  have hsplit : encode (text ++ '\n' :: behind) = Piece.bytes ⟨encode text, .feed⟩ ++ encode behind := by
    simp [encode, Piece.bytes, Ending.bytes]
    rfl
  rw [hsplit, lines_piece_append hclear fun hnone => by cases hnone]

theorem foldLines_of_first {σ : Type} {step : σ → List Char → Except Reason σ} {state : σ} {reason : Reason}
    {text : List Char} (hfeed : '\n' ∉ text) (hreturn : text.getLast? ≠ some '\r')
    (h : step state text = .error reason) (behind : List Char) :
    foldLines step state (encode (text ++ '\n' :: behind)) = .error (.malformed 1 reason) := by
  have hfirst : stepLine step state (encode text, 1) = .error (.malformed 1 reason) := by
    rw [stepLine, decode?_encode]
    dsimp only
    rw [h]
    rfl
  rw [foldLines, lines_encode_feed hfeed hreturn, List.zipIdx_cons, List.foldlM_cons, hfirst]
  rfl

/-! ### Other texts on the lines of a log -/

/-- The text can stand on a line in the place of another one: the ending shows still where the line stops. -/
structure Replaces (old new : List Char) : Prop where
  feed_notMem : '\n' ∉ new
  getLast? : new.getLast? = some '\r' → old.getLast? = some '\r'
  ne_nil : old ≠ [] → new ≠ []

/-- The log with other texts on its lines. -/
def withTexts (news : List (List Char)) (log : Bytes) : Bytes :=
  glue (List.zipWith (fun text piece => ⟨encode text, piece.ending⟩) news (pieces log))

theorem Piece.IsClear.replace {piece : Piece} {old new : List Char} (h : piece.IsClear)
    (hold : decode? piece.line = some old) (hnew : Replaces old new) : Piece.IsClear ⟨encode new, piece.ending⟩ := by
  rw [decode?_eq_some_iff] at hold
  refine ⟨feed_notMem_encode hnew.feed_notMem, fun hfeed hlast => ?_, fun hnone => ?_⟩
  · refine h.feed hfeed ?_
    rw [hold, getLast?_encode_eq_return_iff]
    exact hnew.getLast? (getLast?_encode_eq_return_iff.1 hlast)
  · rw [ne_eq, encode_eq_nil_iff]
    refine hnew.ne_nil fun hnil => h.none hnone ?_
    rw [hold, hnil]
    rfl

theorem zipWith_replaces {pieces : List Piece} {news : List (List Char)}
    (h : List.Forall₂ (fun piece new => ∃ old, decode? (Piece.line piece) = some old ∧ Replaces old new) pieces news)
    (hclear : ∀ piece ∈ pieces, piece.IsClear) :
    let replaced := List.zipWith (fun text piece => (⟨encode text, piece.ending⟩ : Piece)) news pieces
    (∀ piece ∈ replaced, piece.IsClear) ∧ replaced.map Piece.line = news.map encode ∧
      replaced.map Piece.ending = pieces.map Piece.ending := by
  induction h with
  | nil => exact ⟨nofun, rfl, rfl⟩
  | cons hnew _ ih =>
    obtain ⟨old, hold, hreplaces⟩ := hnew
    obtain ⟨hpiece, hrest⟩ := List.forall_mem_cons.1 hclear
    obtain ⟨hall, hlines, hendings⟩ := ih hrest
    refine ⟨List.forall_mem_cons.2 ⟨hpiece.replace hold hreplaces, hall⟩, ?_, ?_⟩
    · rw [List.zipWith_cons_cons, List.map_cons, List.map_cons, hlines]
    · rw [List.zipWith_cons_cons, List.map_cons, List.map_cons, hendings]

theorem lines_withTexts {log : Bytes} {news : List (List Char)}
    (h : List.Forall₂ (fun line new => ∃ old, decode? line = some old ∧ Replaces old new) (lines log) news) :
    lines (withTexts news log) = news.map encode := by
  have hpieces := areClear_pieces log
  rw [← map_line_pieces, List.forall₂_map_left_iff] at h
  obtain ⟨hclear, hlines, hendings⟩ := zipWith_replaces h hpieces.clear
  have hended : (List.map Piece.ending (pieces log)).Pairwise fun ending _ => ending ≠ .none :=
    List.pairwise_map.2 hpieces.ended
  rw [← hendings, List.pairwise_map] at hended
  rw [withTexts, lines_glue ⟨hclear, hended⟩, hlines]

theorem filterMap_decode?_encode (texts : List (List Char)) : (texts.map encode).filterMap decode? = texts := by
  have hdecode : decode? ∘ encode = some := funext decode?_encode
  rw [List.filterMap_map, hdecode, List.filterMap_some]

theorem map_encode_texts {log : Bytes} (hutf8 : ∀ line ∈ lines log, (decode? line).isSome) :
    (texts log).map encode = lines log := by
  rw [texts, List.map_filterMap]
  have hencode : ∀ line ∈ lines log, (decode? line).map encode = some line := by
    intro line hline
    obtain ⟨text, htext⟩ := Option.isSome_iff_exists.1 (hutf8 line hline)
    rw [htext, Option.map_some, decode?_eq_some_iff.1 htext]
  rw [List.filterMap_congr hencode, List.filterMap_some]

/-- Texts that replace those of a log are the texts of the log that they make. -/
theorem texts_withTexts {log : Bytes} {news : List (List Char)} (hutf8 : ∀ line ∈ lines log, (decode? line).isSome)
    (h : List.Forall₂ Replaces (texts log) news) :
    (∀ line ∈ lines (withTexts news log), (decode? line).isSome) ∧ texts (withTexts news log) = news := by
  have hall : List.Forall₂ (fun line new => ∃ old, decode? line = some old ∧ Replaces old new) (lines log) news := by
    rw [← map_encode_texts hutf8, List.forall₂_map_left_iff]
    exact h.imp fun old new hnew => ⟨old, decode?_encode old, hnew⟩
  rw [texts, lines_withTexts hall, filterMap_decode?_encode]
  refine ⟨fun line hline => ?_, rfl⟩
  obtain ⟨text, -, rfl⟩ := List.mem_map.1 hline
  rw [decode?_encode]
  rfl

/-- The log with each text on a line of its own. -/
def ofTexts (all : List (List Char)) : Bytes := glue (all.map fun text => ⟨encode text, .feed⟩)

theorem lines_ofTexts {all : List (List Char)} (h : ∀ text ∈ all, '\n' ∉ text ∧ text.getLast? ≠ some '\r') :
    lines (ofTexts all) = all.map encode := by
  have hclear : AreClear (all.map fun text => ⟨encode text, .feed⟩) := by
    refine ⟨?_, List.pairwise_map.2 (List.pairwise_of_forall fun _ _ => nofun)⟩
    rw [List.forall_mem_map]
    intro text hmem
    obtain ⟨hfeed, hlast⟩ := h text hmem
    exact ⟨feed_notMem_encode hfeed, fun _ => mt getLast?_encode_eq_return_iff.1 hlast, nofun⟩
  rw [ofTexts, lines_glue hclear, List.map_map]
  rfl

theorem texts_ofTexts {all : List (List Char)} (h : ∀ text ∈ all, '\n' ∉ text ∧ text.getLast? ≠ some '\r') :
    (∀ line ∈ lines (ofTexts all), (decode? line).isSome) ∧ texts (ofTexts all) = all := by
  rw [texts, lines_ofTexts h, filterMap_decode?_encode, List.forall_mem_map]
  refine ⟨fun text _ => ?_, rfl⟩
  rw [decode?_encode]
  rfl

theorem foldLines_ofTexts {σ : Type} {step : σ → List Char → Except Reason σ} {state state' : σ}
    {all : List (List Char)} (h : ∀ text ∈ all, '\n' ∉ text ∧ text.getLast? ≠ some '\r')
    (hfold : all.foldlM step state = .ok state') : foldLines step state (ofTexts all) = .ok state' := by
  obtain ⟨hutf8, htexts⟩ := texts_ofTexts h
  rw [foldLines_eq_ok_iff, htexts]
  exact ⟨hutf8, hfold⟩

end RunCharts.Log
