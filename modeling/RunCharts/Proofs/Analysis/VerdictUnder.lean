import Mathlib.Data.List.Find
import RunCharts.Proofs.Analysis.Pages
import RunCharts.Proofs.Analysis.Relabelled
import RunCharts.Proofs.Analysis.Verdict

/-! # What goes wrong with runs under other paths

Where the same is read from runs below a parent, what is wrong with them there is what was wrong with them before
(`Outline.verdict?_under`). And so it is with what cannot stand on a page, unless the path of the parent is shown there
(`Outline.exists_printed_under`). -/

namespace RunCharts

open Files

variable {α : Type} {parent : Path} {run : RunDir} {runs : List RunDir} {old new : Store} {settings : Settings}

/-- Failures of the same kind: the same with other paths, or for want of samples of the same run. -/
inductive SameKind (parent : Path) (runs : List RunDir) : Failure → Failure → Prop
  | moved (failure : Failure) : SameKind parent runs failure (failure.mapPaths parent.join)
  | short (run : RunDir) (hrun : run ∈ runs) :
    SameKind parent runs (.fault (.emptySampleSet run.label)) (.fault (.emptySampleSet (run.under parent).label))

/-! ### What is wrong -/

namespace FileQuery

variable {query : FileQuery} {reader : Reader α}

theorem isBare_iff (reader : Reader α) {store : Store} {path : Path} :
    query.isBare store path = true ↔ query.readAll reader store path = .ok [] := by
  constructor
  · intro h
    rw [isBare] at h
    rw [readAll]
    rcases hfiles : query.selected path store with failure | _ | _ <;> rw [hfiles] at h
    · cases h
    · rfl
    · cases h
  · intro h
    rw [← isEmpty_readAll h]
    rfl

variable (hread : ∀ run ∈ runs, query.readAll reader new (parent.join run.path) =
  (query.readAll reader old run.path).mapError (Failure.mapPaths parent.join))
include hread

theorem failure?_under : ((runs.map (RunDir.under parent)).findSome? fun run => query.failure? reader new run.path) =
    (runs.findSome? fun run => query.failure? reader old run.path).map (Failure.mapPaths parent.join) := by
  induction runs with
  | nil => rfl
  | cons run rest ih =>
    obtain ⟨hrun, hrest⟩ := List.forall_mem_cons.1 hread
    have hfailure := congrArg Except.error? hrun
    rw [Except.error?_mapError, error?_readAll, error?_readAll] at hfailure
    rw [List.map_cons, List.findSome?_cons, List.findSome?_cons, ih hrest, RunDir.under, hfailure]
    cases query.failure? reader old run.path <;> rfl

theorem shortage?_under : query.shortage? new (runs.map (RunDir.under parent)) =
    (runs.find? fun run => query.isBare old run.path).map fun run => .emptySampleSet (run.under parent).label := by
  have hbare : ∀ run ∈ runs, query.isBare new (run.under parent).path = query.isBare old run.path := by
    intro run hrun
    rw [Bool.eq_iff_iff, isBare_iff reader, isBare_iff reader, RunDir.under, hread run hrun, Except.mapError_eq_ok_iff]
  rw [shortage?, List.find?_map, Option.map_map]
  exact congrArg (Option.map _) (List.find?_congr hbare)

end FileQuery

theorem Classifier.count_under {classifier : Classifier}
    (h : ∀ run ∈ runs, classifier.classify (parent.join run.path) = classifier.classify run.path) (variant : Variant) :
    classifier.count ((runs.map (RunDir.under parent)).map (·.path)) variant =
      classifier.count (runs.map (·.path)) variant := by
  rw [count, count, List.countP_map, List.countP_map, List.countP_map]
  refine List.countP_congr fun run hrun => ?_
  rw [Function.comp_apply, Function.comp_apply, Function.comp_apply, RunDir.under, h run hrun]

namespace Outline

variable {outline : Outline}

theorem unmatched?_under (hmem : outline ∈ all) (h : outline.ReadsUnder parent runs settings old new) :
    outline.unmatched? ((runs.map (RunDir.under parent)).map (·.path)) = outline.unmatched? (runs.map (·.path)) := by
  have hcount (classifier : Classifier) := classifier.count_under fun run hrun => h.variants run hrun classifier
  rcases mem_all_iff.1 hmem with rfl | rfl | rfl | rfl
  · simp only [bandwidth, Classifier.missing?, hcount]
  · simp only [cacheMisses, Classifier.unpaired?, hcount]
  · rfl
  · simp only [cacheElements, Classifier.unpaired?, hcount]

/-- What is wrong with variants is said without paths. -/
theorem mapPaths_of_unmatched? (hmem : outline ∈ all) {dirs : List Path} {fault : Fault}
    (h : outline.unmatched? dirs = some fault) (f : Path → Path) : fault.mapPaths f = fault := by
  have hmissing (classifier : Classifier) (h : classifier.missing? dirs = some fault) : fault.mapPaths f = fault := by
    rw [Classifier.missing?] at h
    split at h
    · cases h
      rfl
    · split at h <;> cases h
      rfl
  have hunpaired (classifier : Classifier) (h : classifier.unpaired? dirs = some fault) : fault.mapPaths f = fault := by
    rw [Classifier.unpaired?] at h
    split at h <;> cases h
    rfl
  rcases mem_all_iff.1 hmem with rfl | rfl | rfl | rfl
  · exact hmissing _ h
  · exact hunpaired _ h
  · cases h
  · exact hunpaired _ h

theorem verdict?_under (hmem : outline ∈ all) (h : outline.ReadsUnder parent runs settings old new) :
    Option.Rel (SameKind parent runs) (outline.verdict? runs settings old)
      (outline.verdict? (runs.map (RunDir.under parent)) settings new) := by
  rw [verdict?, verdict?, FileQuery.failure?_under h.reads, FileQuery.shortage?_under h.reads, unmatched?_under hmem h,
    FileQuery.shortage?]
  cases runs.findSome? fun run => outline.query.failure? (outline.reader settings) old run.path with
  | some failure => exact .some (.moved failure)
  | none =>
    cases hshort : runs.find? fun run => outline.query.isBare old run.path with
    | some run => exact .some (.short run (List.mem_of_find?_eq_some hshort))
    | none =>
      cases hunmatched : outline.unmatched? (runs.map (·.path)) with
      | none => exact .none
      | some fault =>
        have hsame : SameKind parent runs (.fault fault) (.fault (fault.mapPaths parent.join)) := .moved (.fault fault)
        rw [mapPaths_of_unmatched? hmem hunmatched] at hsame
        exact .some hsame

end Outline

/-! ### What can stand on a page -/

namespace Pdf

theorem isXmlText_append_iff {a b : String} : IsXmlText (a ++ b) ↔ IsXmlText a ∧ IsXmlText b := by
  refine ⟨fun h => ⟨fun c hc => h c ?_, fun c hc => h c ?_⟩, fun h => h.1.append h.2⟩ <;> rw [String.toList_append]
  · exact List.mem_append_left _ hc
  · exact List.mem_append_right _ hc

theorem isXmlText_join_iff {path : Path} (h : IsXmlText parent) : IsXmlText (parent.join path) ↔ IsXmlText path := by
  have hslash : IsXmlText "/" := by decide
  rw [Path.join]
  split
  · rfl
  · split
    · rw [isXmlText_append_iff, and_iff_right h]
    · rw [isXmlText_append_iff, isXmlText_append_iff, and_iff_right ⟨h, hslash⟩]

end Pdf

theorem RunDir.isXmlText_label_under (h : run.name = none → Pdf.IsXmlText parent) :
    Pdf.IsXmlText (run.under parent).label ↔ Pdf.IsXmlText run.label := by
  obtain ⟨_ | name, path⟩ := run
  · exact Pdf.isXmlText_join_iff (h rfl)
  · rfl

theorem Sheet.SameUnder.isPrintable_iff {sheet sheet' : Sheet} (h : sheet.SameUnder parent runs sheet')
    (hlabels : ∀ run ∈ runs, run.name = none → Pdf.IsXmlText parent) :
    sheet'.IsPrintable settings ↔ sheet.IsPrintable settings := by
  have hticks : (∀ text ∈ sheet'.chart.ticks.map (·.2), Pdf.IsXmlText text) ↔
      ∀ text ∈ sheet.chart.ticks.map (·.2), Pdf.IsXmlText text := by
    rcases h.ticks with hsame | ⟨shown, hshown, hticks, hticks'⟩
    · rw [hsame]
    · rw [hticks, hticks', List.map_map, List.map_map, List.forall_mem_map, List.forall_mem_map]
      refine forall₂_congr fun tick htick => RunDir.isXmlText_label_under ?_
      exact hlabels _ (hshown.subset (List.mem_map_of_mem htick))
  rw [Sheet.isPrintable_iff, Sheet.isPrintable_iff, h.chart]
  simp only [Chart.texts, List.forall_mem_cons, List.forall_mem_append, hticks]

namespace Outline

variable {outline : Outline} {sheets : List Sheet}

/-- The sheets below the parent can be pages if those before can, unless the path of the parent is shown. -/
theorem exists_printed_under (hmem : outline ∈ all) (h : outline.ReadsUnder parent runs settings old new)
    (hlabels : outline = bandwidth ∨ ∀ run ∈ runs, run.name = none → Pdf.IsXmlText parent)
    (hsheets : outline.sheets runs settings old = .ok sheets) :
    ∃ sheets', outline.sheets (runs.map (RunDir.under parent)) settings new = .ok sheets' ∧
      List.Forall₂ (Sheet.SameUnder parent runs) sheets sheets' ∧
      ((∀ sheet ∈ sheets', sheet.IsPrintable settings) ↔ ∀ sheet ∈ sheets, sheet.IsPrintable settings) := by
  have hall {sheets' : List Sheet} (hprints : List.Forall₂ (fun sheet sheet' : Sheet =>
      sheet'.IsPrintable settings ↔ sheet.IsPrintable settings) sheets sheets') :
      (∀ sheet ∈ sheets', sheet.IsPrintable settings) ↔ ∀ sheet ∈ sheets, sheet.IsPrintable settings := by
    clear hsheets
    induction hprints with
    | nil => rfl
    | cons hsheet hrest ih => rw [List.forall_mem_cons, List.forall_mem_cons, hsheet, ih]
  rcases hlabels with rfl | hlabels
  · obtain ⟨sheets', hsheets', hsame⟩ := exists_bandwidthSheets_under h hsheets
    refine ⟨sheets', hsheets', hsame.imp fun _ _ hsheet => hsheet.1, hall (hsame.imp fun _ _ hsheet => ?_)⟩
    rw [Sheet.IsPrintable, hsheet.2, Sheet.IsPrintable]
  · obtain ⟨sheets', hsheets', hsame⟩ := exists_sheets_under hmem h hsheets
    exact ⟨sheets', hsheets', hsame, hall (hsame.imp fun _ _ hsheet => hsheet.isPrintable_iff hlabels)⟩

end Outline

end RunCharts
