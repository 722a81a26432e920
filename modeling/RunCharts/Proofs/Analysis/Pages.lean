import RunCharts.Proofs.Analysis.Rerun

/-! # What keeps sheets from being written

Where the store takes the files of an analysis, its sheets are written unless one of their drawings cannot be a page
(`perform_of_canWrite`). -/

namespace RunCharts

open Files

variable {settings : Settings} {store left : Store} {world : World} {step : Step} {steps : List Step} {path : Path}
  {sheet : Sheet} {sheets : List Sheet} {stems : List String}

/-! ### Steps with nothing to write -/

theorem Step.eq_file_none_of_perform (h : step.perform world store = (.error (.fault .render), left)) :
    ∃ path, step = .file path none := by
  cases step with
  | dir path =>
    rw [perform] at h
    split at h
    · cases h
    · cases hrefused : world.refuses path <;> rw [hrefused] at h
      · rcases hmade : (store.makeDirs path).2 <;> rw [hmade] at h <;> cases h
      · cases h
  | file path content =>
    cases content with
    | none => exact ⟨path, rfl⟩
    | some content =>
      rw [perform] at h
      cases hrefused : world.refuses path <;> rw [hrefused] at h <;> dsimp only at h
      · cases hwritten : store.write path content <;> rw [hwritten] at h <;> cases h
      · cases h

theorem exists_file_none_of_perform (h : perform world steps store = (.error (.fault .render), left)) :
    ∃ path, Step.file path none ∈ steps := by
  induction steps generalizing store with
  | nil => cases h
  | cons step rest ih =>
    rw [perform] at h
    rcases hstep : step.perform world store with ⟨failure | _, mid⟩ <;> rw [hstep] at h
    · obtain ⟨hfailure, -⟩ := Prod.mk.inj h
      rw [Except.error.inj hfailure] at hstep
      obtain ⟨path, rfl⟩ := Step.eq_file_none_of_perform hstep
      exact ⟨path, List.mem_cons_self⟩
    · obtain ⟨path, hpath⟩ := ih h
      exact ⟨path, List.mem_cons_of_mem _ hpath⟩

theorem file_none_notMem_of_perform (h : perform world steps store = (.ok (), left)) :
    Step.file path none ∉ steps := by
  intro hmem
  obtain ⟨_, _, hstep, -⟩ := exists_step_of_perform h hmem
  cases hstep

/-! ### Sheets -/

/-- The store takes the files of sheets with these stems; what is left to go wrong are their pages. -/
def Settings.CanWrite (settings : Settings) (stems : List String) (store : Store) : Prop :=
  ∀ sheets : List Sheet, sheets.map (·.stem) = stems → ∀ failure left,
    perform .actual (sheets.flatMap (Sheet.steps .actual settings)) store = (.error failure, left) →
      failure = .fault .render

theorem exists_file_none_flatMap_iff : (∃ path, Step.file path none ∈ sheets.flatMap (Sheet.steps .actual settings)) ↔
    ∃ sheet ∈ sheets, ¬ sheet.IsPrintable settings := by
  simp only [← Sheet.exists_file_none_iff, List.mem_flatMap]
  constructor
  · rintro ⟨path, sheet, hsheet, hmem⟩
    exact ⟨sheet, hsheet, path, hmem⟩
  · rintro ⟨sheet, hsheet, path, hmem⟩
    exact ⟨path, sheet, hsheet, hmem⟩

theorem perform_of_canWrite (h : settings.CanWrite stems store) (hstems : sheets.map (·.stem) = stems) :
    ((∀ sheet ∈ sheets, sheet.IsPrintable settings) ∧
      ∃ left, perform .actual (sheets.flatMap (Sheet.steps .actual settings)) store = (.ok (), left)) ∨
    ((¬ ∀ sheet ∈ sheets, sheet.IsPrintable settings) ∧
      ∃ left, perform .actual (sheets.flatMap (Sheet.steps .actual settings)) store =
        (.error (.fault .render), left)) := by
  rcases hperform : perform .actual (sheets.flatMap (Sheet.steps .actual settings)) store with ⟨failure | _, left⟩
  · obtain rfl := h sheets hstems failure left hperform
    obtain ⟨sheet, hsheet, hprintable⟩ := exists_file_none_flatMap_iff.1 (exists_file_none_of_perform hperform)
    exact .inr ⟨fun hall => hprintable (hall sheet hsheet), left, rfl⟩
  · refine .inl ⟨fun sheet hsheet => by_contra fun hprintable => ?_, left, rfl⟩
    obtain ⟨path, hpath⟩ := exists_file_none_flatMap_iff.2 ⟨sheet, hsheet, hprintable⟩
    exact file_none_notMem_of_perform hperform hpath

/-- A store that is open to all steps but those with nothing to write takes the files. -/
theorem canWrite_of_isOpen (h : ∀ sheet : Sheet, sheet.stem ∈ stems → ∀ step ∈ sheet.steps .actual settings,
    (∃ path, step = .file path none) ∨ step.IsOpen store) : settings.CanWrite stems store := by
  rintro sheets rfl failure left hperform
  have hsteps : ∀ step ∈ sheets.flatMap (Sheet.steps .actual settings),
      (∃ path, step = .file path none) ∨ step.IsOpen store := by
    intro step hstep
    obtain ⟨sheet, hsheet, hstep⟩ := List.mem_flatMap.1 hstep
    exact h sheet (List.mem_map_of_mem hsheet) step hstep
  generalize sheets.flatMap (Sheet.steps .actual settings) = steps at hsteps hperform
  classical
  cases hfirst : steps.find? fun step => decide (∃ path, step = .file path none) with
  | none =>
    rw [List.find?_eq_none] at hfirst
    simp only [decide_eq_true_eq] at hfirst
    obtain ⟨_, hdone⟩ := exists_perform_of_isOpen fun step hstep => (hsteps step hstep).resolve_left (hfirst step hstep)
    rw [hdone] at hperform
    cases hperform
  | some step =>
    obtain ⟨hnone, front, rest, rfl, hfront⟩ := List.find?_eq_some_iff_append.1 hfirst
    simp only [decide_eq_true_eq, Bool.not_eq_true', decide_eq_false_iff_not] at hnone hfront
    obtain ⟨path, rfl⟩ := hnone
    obtain ⟨_, hdone⟩ := exists_perform_of_isOpen fun step hstep =>
      (hsteps step (List.mem_append_left _ hstep)).resolve_left (hfront step hstep)
    rw [perform_append, hdone] at hperform
    exact (Except.error.inj (Prod.mk.inj hperform).1).symm

/-! ### The outcome -/

theorem Outline.outcome_run_of_made {outline : Outline} (hmem : outline ∈ Outline.all) (runs : List RunDir)
    {session : Session} {base : Store}
    (hmade : (Command.ensureDir settings.outputDir).outcome session = (.ok (), base)) :
    (outline.analysis.run runs settings).outcome session =
      match outline.sheets runs settings base with
      | .error failure => (.error failure, base)
      | .ok sheets =>
        ((perform .actual (sheets.flatMap (Sheet.steps .actual settings)) base).1.map fun _ =>
          sheets.map (settings.pagePath ·.stem),
          (perform .actual (sheets.flatMap (Sheet.steps .actual settings)) base).2) := by
  have heffects := outcome_run_eq_effects hmem runs settings session
  rw [effects, ← Command.outcome_ensureDir_eq_perform, hmade] at heffects
  exact heffects

end RunCharts
