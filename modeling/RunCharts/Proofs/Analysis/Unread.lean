import RunCharts.Proofs.Analysis.OwnFiles
import RunCharts.Proofs.Analysis.Sight
import RunCharts.Proofs.Files.SameBut

/-! # Files that are not read

The steps of an analysis do the same in stores that differ out of their way (`sameBut_perform`). So files that an
analysis overlooks make no difference to what it gives, prints and writes (`Outline.run_eq_of_overlooked`). -/

namespace RunCharts

open Files Command

variable {hidden : Location → Prop} {store old new : Store} {world : World} {step : Step} {steps : List Step}
  {query : FileQuery} {runs : List RunDir} {settings : Settings}

/-- The path of what a step makes or writes. -/
def Step.path : Step → Path
  | .dir path => path
  | .file path _ => path

namespace Outline

open Analysis Analysis.Cache

variable {outline : Outline} {session session' : Session}

/-- The same store with a file that is not selected. -/
def noted : Store := logs.put ["scout-1", "notes"] (.file [])

/-- A store with a link that leads nowhere before the output directory is there. -/
def cut : Store where
  nodes := [([], .dir), (["scout-1"], .dir), (["scout-1", "miss-no-object-count"], .link "../out/../secret")]
  sorted := by decide
  root_mem := by decide
  parent_mem := by decide
  named := by decide

/-- The same store with the file to which the link leads then. -/
def whole : Store := cut.put ["secret"] (.file [])

def cutMade : Store := cut.put ["out"] .dir

def wholeMade : Store := whole.put ["out"] .dir

theorem link_cut {at_ : Location} {target : Path} (h : cut.node? at_ = some (.link target)) :
    at_ = ["scout-1", "miss-no-object-count"] ∧ target = "../out/../secret" := by
  have hmem := Store.node?_eq_some_iff.1 h
  simp only [cut, List.mem_cons, Prod.mk.injEq, reduceCtorEq, and_false, Node.link.injEq, List.not_mem_nil, or_false,
    false_or] at hmem
  exact hmem

theorem sameShape_whole : Store.SameShape cut whole ∧ ∀ p, whole.node? p ≠ cut.node? p → p = ["secret"] :=
  Store.sameShape_put (by decide) (by decide) (by decide)

theorem resolve_scout {store : Store} (hstart : store.start = []) (hnode : store.node? ["scout-1"] = some .dir) :
    store.resolve "scout-1" = .ok ["scout-1"] :=
  (Store.IsStraight.of_isName (by decide) (by decide) (by decide)).resolve_of_dir hstart hnode

theorem sameBut_made : Store.SameBut (· = ["secret"]) cutMade wholeMade := by
  have hsame : Store.SameBut (· = ["secret"]) cut whole :=
    ⟨sameShape_whole.1, fun p hp => not_not.1 fun hne => hp (sameShape_whole.2 p hne)⟩
  exact hsame.set rfl rfl (Store.node?_put .dir (by decide) (by decide) (by decide))
    (Store.node?_put .dir (by decide) (by decide) (by decide))

theorem resolve_cutMade_log : cutMade.resolve "scout-1/miss-no-object-count" = .ok ["secret"] :=
  Store.resolve_of_walkWithin 6 (by decide) rfl

theorem outcome_run_whole :
    (cacheMisses.analysis.run [⟨some "a", "scout-1"⟩] { outputDir := "out" }).outcome { store := whole } =
      (.error (.fault (.seriesLengthMismatch 0 1)), wholeMade) := by
  have hlog := sameBut_made.frames.resolve resolve_cutMade_log
  have hwhole : wholeMade.isFile "scout-1/miss-no-object-count" = true := Store.isFile_iff.2 ⟨_, _, hlog, rfl⟩
  have hroot : wholeMade.resolve "scout-1" = .ok ["scout-1"] := resolve_scout rfl rfl
  have hselected := selected_scout hroot rfl (by decide)
  rw [hwhole] at hselected
  have hread : cacheMisses.reader { outputDir := "out" } "scout-1/miss-no-object-count" wholeMade =
      .ok (Float.ofInt 0) := misses_of_read (Store.read_eq_ok_iff.2 ⟨_, hlog, rfl⟩)
  have hverdict : cacheMisses.verdict? [⟨some "a", "scout-1"⟩] { outputDir := "out" } wholeMade =
      some (.fault (.seriesLengthMismatch 0 1)) := verdict?_of_unmatched hselected hread (by decide)
  exact outcome_run_of_verdict (by simp [all]) (outcome_ensureDir_out rfl rfl) hverdict

end Outline

end RunCharts
