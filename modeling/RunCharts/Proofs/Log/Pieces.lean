import RunCharts.Log.Line

/-! # Lines and their endings

A log is its lines with their endings, one after the other (`glue_pieces`). Any lines and endings that can stand
in a log are the pieces of one (`lines_glue`), so that lines can be left out or put in the place of others. -/

namespace RunCharts.Log

/-- What stands behind a line. -/
inductive Ending where
  | feed
  | returnFeed
  /-- The log stops there. -/
  | none
deriving DecidableEq

def Ending.bytes : Ending → Bytes
  | feed => [10]
  | returnFeed => [13, 10]
  | none => []

structure Piece where
  line : Bytes
  ending : Ending

def Piece.bytes (piece : Piece) : Bytes := piece.line ++ piece.ending.bytes

def pieces : Bytes → List Piece
  | [] => []
  | 13 :: 10 :: rest => ⟨[], .returnFeed⟩ :: pieces rest
  | b :: rest =>
    if b = 10 then ⟨[], .feed⟩ :: pieces rest
    else match pieces rest with
      | [] => [⟨[b], .none⟩]
      | piece :: more => ⟨b :: piece.line, piece.ending⟩ :: more

def glue (pieces : List Piece) : Bytes := pieces.flatMap Piece.bytes

/-- The piece can stand in a log: its ending shows where its line stops. -/
structure Piece.IsClear (piece : Piece) : Prop where
  feed_notMem : 10 ∉ piece.line
  feed : piece.ending = .feed → piece.line.getLast? ≠ some 13
  none : piece.ending = .none → piece.line ≠ []

/-- The pieces can stand in a log one after the other: only the last one has no ending. -/
structure AreClear (pieces : List Piece) : Prop where
  clear : ∀ piece ∈ pieces, piece.IsClear
  ended : pieces.Pairwise fun piece _ => piece.ending ≠ .none

theorem glue_cons (piece : Piece) (rest : List Piece) : glue (piece :: rest) = piece.bytes ++ glue rest := by
  rw [glue, glue, List.flatMap_cons]

theorem glue_pieces (log : Bytes) : glue (pieces log) = log := by
  fun_induction pieces log with
  | case1 => rfl
  | case2 rest ih => rw [glue_cons, ih]; rfl
  | case3 rest hcr ih => rw [glue_cons, ih]; rfl
  | case4 b rest hcr hb hrest ih =>
    rw [hrest] at ih
    rw [← ih]
    rfl
  | case5 b rest hcr hb piece more hrest ih =>
    rw [hrest, glue_cons] at ih
    rw [glue_cons, ← ih]
    rfl

theorem lines_feed (rest : Bytes) : lines (10 :: rest) = [] :: lines rest := by
  rw [lines]
  · rfl
  · intro _ h
    cases h

theorem lines_cons {b : UInt8} {rest : Bytes} (hb : b ≠ 10) (hreturn : b = 13 → rest.head? ≠ some 10) :
    lines (b :: rest) = match lines rest with
      | [] => [[b]]
      | line :: more => (b :: line) :: more := by
  rw [lines]
  · exact if_neg hb
  · rintro rest' rfl rfl
    exact hreturn rfl rfl

/-- What stands in front of an ending is a line. -/
theorem lines_piece_append {piece : Piece} (h : piece.IsClear) (hended : piece.ending ≠ .none) (rest : Bytes) :
    lines (piece.bytes ++ rest) = piece.line :: lines rest := by
  obtain ⟨line, ending⟩ := piece
  induction line with
  | nil =>
    cases ending with
    | feed => exact lines_feed rest
    | returnFeed => rfl
    | none => exact absurd rfl hended
  | cons b line ih =>
    obtain ⟨hb, hline⟩ := List.ne_and_not_mem_of_not_mem_cons h.feed_notMem
    have hclear : Piece.IsClear ⟨line, ending⟩ := by
      refine ⟨hline, fun hfeed hlast => ?_, fun hnone => absurd hnone hended⟩
      refine h.feed hfeed ?_
      rw [List.getLast?_cons, hlast]
      rfl
    have hreturn : b = 13 → (Piece.bytes ⟨line, ending⟩ ++ rest).head? ≠ some 10 := by
      rintro rfl hhead
      cases line with
      | nil =>
        cases ending with
        | feed => exact h.feed rfl rfl
        | returnFeed => cases hhead
        | none => exact hended rfl
      | cons c line =>
        obtain rfl := Option.some.inj hhead
        exact hline List.mem_cons_self
    have hcons : Piece.bytes ⟨b :: line, ending⟩ ++ rest = b :: (Piece.bytes ⟨line, ending⟩ ++ rest) := rfl
    rw [hcons, lines_cons hb.symm hreturn, ih hclear hended]

theorem lines_of_notMem {line : Bytes} (hne : line ≠ []) (h : 10 ∉ line) : lines line = [line] := by
  induction line with
  | nil => exact absurd rfl hne
  | cons b rest ih =>
    obtain ⟨hb, hrest⟩ := List.ne_and_not_mem_of_not_mem_cons h
    have hreturn : b = 13 → rest.head? ≠ some 10 := fun _ hhead => hrest (List.mem_of_mem_head? hhead)
    rw [lines_cons hb.symm hreturn]
    cases rest with
    | nil => rfl
    | cons c rest => rw [ih (List.cons_ne_nil c rest) hrest]

theorem lines_glue {pieces : List Piece} (h : AreClear pieces) : lines (glue pieces) = pieces.map Piece.line := by
  induction pieces with
  | nil => rfl
  | cons piece rest ih =>
    obtain ⟨hpiece, hrest⟩ := List.forall_mem_cons.1 h.clear
    obtain ⟨hended, hpairs⟩ := List.pairwise_cons.1 h.ended
    rw [glue_cons, List.map_cons]
    by_cases hending : piece.ending = .none
    · have hnil : rest = [] := List.eq_nil_iff_forall_not_mem.2 fun next hnext => hended next hnext hending
      have hbytes : piece.bytes ++ glue rest = piece.line := by
        rw [hnil, Piece.bytes, hending]
        simp [glue, Ending.bytes]
      rw [hbytes, hnil, lines_of_notMem (hpiece.none hending) hpiece.feed_notMem]
      rfl
    · rw [lines_piece_append hpiece hending, ih ⟨hrest, hpairs⟩]

theorem AreClear.cons {piece : Piece} {rest : List Piece} (hpiece : piece.IsClear) (hended : piece.ending ≠ .none)
    (h : AreClear rest) : AreClear (piece :: rest) :=
  ⟨List.forall_mem_cons.2 ⟨hpiece, h.clear⟩, List.pairwise_cons.2 ⟨fun _ _ => hended, h.ended⟩⟩

theorem AreClear.sublist {part all : List Piece} (h : AreClear all) (hpart : part.Sublist all) : AreClear part :=
  ⟨fun piece hmem => h.clear piece (hpart.subset hmem), h.ended.sublist hpart⟩

theorem areClear_pieces (log : Bytes) : AreClear (pieces log) := by
  fun_induction pieces log with
  | case1 => exact ⟨fun _ h => absurd h List.not_mem_nil, List.Pairwise.nil⟩
  | case2 rest ih => exact ih.cons ⟨List.not_mem_nil, nofun, nofun⟩ nofun
  | case3 rest hreturn ih => exact ih.cons ⟨List.not_mem_nil, nofun, nofun⟩ nofun
  | case4 b rest hreturn hb hrest ih =>
    refine ⟨?_, List.pairwise_singleton _ _⟩
    rw [List.forall_mem_singleton]
    exact ⟨by simpa using Ne.symm hb, nofun, fun _ => List.cons_ne_nil _ _⟩
  | case5 b rest hreturn hb piece more hrest ih =>
    rw [hrest] at ih
    obtain ⟨hpiece, hmore⟩ := List.forall_mem_cons.1 ih.clear
    refine ⟨List.forall_mem_cons.2 ⟨⟨?_, fun hfeed hlast => ?_, fun _ => List.cons_ne_nil _ _⟩, hmore⟩, ?_⟩
    · rw [List.mem_cons, not_or]
      exact ⟨Ne.symm hb, hpiece.feed_notMem⟩
    · cases hline : piece.line with
      | nil =>
        -- a return before the line feed would belong to the ending
        have hrest' : rest = 10 :: glue more := by
          rw [← glue_pieces rest, hrest, glue_cons, Piece.bytes, hline, show piece.ending = .feed from hfeed]
          rfl
        rw [hline] at hlast
        exact hreturn _ (Option.some.inj hlast) hrest'
      | cons c line =>
        refine hpiece.feed hfeed ?_
        rw [hline] at hlast ⊢
        rwa [List.getLast?_cons_cons] at hlast
    · obtain ⟨hended, hpairs⟩ := List.pairwise_cons.1 ih.ended
      exact List.pairwise_cons.2 ⟨hended, hpairs⟩

theorem map_line_pieces (log : Bytes) : (pieces log).map Piece.line = lines log := by
  rw [← lines_glue (areClear_pieces log), glue_pieces]

end RunCharts.Log
