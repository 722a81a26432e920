import RunCharts.Proofs.Analysis.Marks
import RunCharts.Proofs.Analysis.Sight
import RunCharts.Proofs.Files.Relocation

/-! # Reading a tree in another place

Where the tree of a run has been moved below a parent, the run with its path below the parent has the same files
(`selected_join`), and the same is read from them (`readAll_join`). What cannot be read fails in the same way, with the
paths below the parent (`Failure.mapPaths`). -/

namespace RunCharts

open Files

/-! ### Failures with other paths -/

def Fault.mapPaths (f : Path → Path) : Fault → Fault
  | missingThreadCount path => missingThreadCount (f path)
  | invalidThreadCount path => invalidThreadCount (f path)
  | malformed path line reason => malformed (f path) line reason
  | file path error => file (f path) error
  | other => other

def Context.mapPaths (f : Path → Path) : Context → Context
  | readingClientLog path => readingClientLog (f path)
  | reading path => reading (f path)
  | parsing path => parsing (f path)

/-- The same failure, with other paths in its texts. -/
def Failure.mapPaths (f : Path → Path) : Failure → Failure
  | fault cause => .fault (cause.mapPaths f)
  | within context failure => within (context.mapPaths f) (failure.mapPaths f)
  | other => other

variable {α : Type} {query : FileQuery} {parent path root : Path} {old new : Store} {place : Location → Location → Prop}

/-! ### The readers of the analyses -/

theorem threadCount_join (h : (parent.join path).fileName? = path.fileName?) :
    threadCount (parent.join path) = (threadCount path).mapError (Fault.mapPaths parent.join) := by
  rw [threadCount, threadCount, h]
  cases path.fileName? with
  | none => rfl
  | some name =>
    dsimp only
    rcases Log.threadCount name with (_ | _) | threads <;> rfl

namespace Outline

open Analysis Analysis.Cache Analysis.Bandwidth

theorem contents_join (h : new.read (parent.join path) = old.read path) :
    contents (parent.join path) new = (contents path old).mapError (Failure.mapPaths parent.join) := by
  rw [contents, contents, h]
  cases old.read path <;> rfl

theorem refusal_join {β : Type} (parent path : Path) (read : Except Log.Refusal β) :
    ((read.mapError (Fault.ofRefusal (parent.join path))).mapError Failure.fault) =
      ((read.mapError (Fault.ofRefusal path)).mapError Failure.fault).mapError (Failure.mapPaths parent.join) := by
  rcases read with (_ | _) | value <;> rfl

theorem counter_join (mode : Log.Counter.Mode) (h : new.read (parent.join path) = old.read path) :
    counter mode (parent.join path) new = (counter mode path old).mapError (Failure.mapPaths parent.join) := by
  rw [counter, counter, contents_join h]
  cases contents path old with
  | error failure => rfl
  | ok log => exact refusal_join parent path _

theorem sample_join (windows : Log.Bandwidth.Windows) (h : new.read (parent.join path) = old.read path)
    (hname : (parent.join path).fileName? = path.fileName?) : sample windows (parent.join path) new =
      (sample windows path old).mapError (Failure.mapPaths parent.join) := by
  rw [sample, sample, threadCount_join hname, contents_join h]
  cases threadCount path with
  | error fault => rfl
  | ok threads =>
    cases contents path old with
    | error failure => rfl
    | ok log =>
      have hread := refusal_join parent path (Log.Bandwidth.read windows threads log)
      simp only [Except.mapError, Except.ok_bind] at hread ⊢
      rw [hread]
      rcases Log.Bandwidth.read windows threads log with (_ | _) | value <;> rfl

variable {outline : Outline} {settings : Settings}

theorem reader_join (h : outline ∈ all) (hread : new.read (parent.join path) = old.read path)
    (hname : (parent.join path).fileName? = path.fileName?) : outline.reader settings (parent.join path) new =
      (outline.reader settings path old).mapError (Failure.mapPaths parent.join) := by
  rcases mem_all_iff.1 h with rfl | rfl | rfl | rfl
  · exact sample_join _ hread hname
  · simp only [cacheMisses, misses, counter_join _ hread]
    cases counter (.sumFrom settings.cache.missStart) path old <;> rfl
  · simp only [queryCacheMisses, misses, counter_join _ hread]
    cases counter (.sumFrom settings.cache.missStart) path old <;> rfl
  · simp only [cacheElements, elements, counter_join _ hread]
    cases counter .peak path old <;> rfl

theorem asksForMark (h : outline ∈ all) : outline.query.AsksForMark := by
  rcases mem_all_iff.1 h with rfl | rfl | rfl | rfl
  · intro text htext
    cases htext
  · rintro text ⟨⟩
    exact ⟨"scout-", by decide, rfl⟩
  · rintro text ⟨⟩
    exact ⟨"scout-", by decide, rfl⟩
  · rintro text ⟨⟩
    exact ⟨"scout-", by decide, rfl⟩

end Outline

/-! ### The files of a run -/

namespace FileQuery

open Files.Store

theorem isFile_and_selects_join (h : Brings place parent old new root) (hplace : Relocates place old new)
    (hquery : query.AsksForMark) (hmarks : IsUnmarked parent) (hpath : old.LooksUp root path) :
    (new.isFile (parent.join path) && query.selects (parent.join path)) = (old.isFile path && query.selects path) := by
  rw [h.isFile_join hplace hpath]
  cases hfile : old.isFile path with
  | false => rfl
  | true =>
    obtain ⟨front, last, hends⟩ := exists_endsIn_of_isFile hfile
    rw [selects_join hquery hends hmarks h.parent_ne_empty (h.relative_of_looksUp hpath)]

theorem selected_join (h : Brings place parent old new root) (hplace : Relocates place old new)
    (hquery : query.AsksForMark) (hmarks : IsUnmarked parent) : query.selected (parent.join root) new =
      ((query.selected root old).map (List.map parent.join)).mapError (Failure.mapPaths parent.join) := by
  have hstat := h.stat_join hplace (.inl rfl)
  cases hold : old.stat root with
  | error error =>
    rw [selected, selected, find_of_error hold, find_of_error (hstat.trans hold)]
    cases error <;> rfl
  | ok node =>
    obtain ⟨at_, hroot, hnode⟩ := exists_resolve_of_stat hold
    obtain ⟨at_', hroot', hnode'⟩ := exists_resolve_of_stat (hstat.trans hold)
    have hsame := h.sameEnd_root hplace
    rw [hroot, hroot'] at hsame
    cases hsame with
    | found hat =>
      have hlooks (names : List String) (hnames : names ∈ old.visited at_) : old.LooksUp root (root.below names) :=
        .inr ⟨at_, names, hroot, hnames, rfl⟩
      have hbelow (names : List String) (hnames : names ∈ old.visited at_) :
          (parent.join root).below names = parent.join (root.below names) :=
        (Path.join_below h.parent_ne_empty h.ne_empty h.relative (isEntered_of_mem_visited hnames).1).symm
      rw [query.selected_eq hroot hnode, query.selected_eq hroot' hnode', hplace.visited_eq hat]
      simp only [Except.map, Except.mapError, List.map_map]
      have hkept : ((old.visited at_).filter fun names =>
          new.isFile ((parent.join root).below names) && query.selects ((parent.join root).below names)) =
          (old.visited at_).filter fun names => old.isFile (root.below names) && query.selects (root.below names) :=
        List.filter_congr fun names hnames => by
          rw [hbelow names hnames, isFile_and_selects_join h hplace hquery hmarks (hlooks names hnames)]
      rw [hkept]
      refine congrArg Except.ok (List.map_congr_left fun names hnames => ?_)
      exact hbelow names (List.mem_filter.1 hnames).1

theorem readAll_join {reader : Reader α} (h : Brings place parent old new root) (hplace : Relocates place old new)
    (hquery : query.AsksForMark) (hmarks : IsUnmarked parent)
    (hreader : ∀ path, new.read (parent.join path) = old.read path →
      (parent.join path).fileName? = path.fileName? →
        reader (parent.join path) new = (reader path old).mapError (Failure.mapPaths parent.join)) :
    query.readAll reader new (parent.join root) =
      (query.readAll reader old root).mapError (Failure.mapPaths parent.join) := by
  rw [readAll, readAll, selected_join h hplace hquery hmarks]
  cases hfiles : query.selected root old with
  | error failure => rfl
  | ok files =>
    simp only [Except.map, Except.mapError, Except.ok_bind]
    rw [List.mapM_map]
    refine (Except.mapM_congr fun file hfile => ?_).trans (Except.mapError_mapM _ _ files).symm
    obtain ⟨at_, names, hroot, hnames, hisFile, -, rfl⟩ := exists_of_mem_selected hfiles hfile
    have hlooks : old.LooksUp root (root.below names) := .inr ⟨at_, names, hroot, hnames, rfl⟩
    obtain ⟨front, last, hends⟩ := exists_endsIn_of_isFile hisFile
    obtain ⟨front', hjoined⟩ := hends.join h.parent_ne_empty (h.relative_of_looksUp hlooks)
    exact hreader _ (h.read_join hplace hlooks) (hjoined.fileName?.trans hends.fileName?.symm)

end FileQuery

end RunCharts
