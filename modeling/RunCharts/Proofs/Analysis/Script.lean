import RunCharts.Proofs.Analysis.Outline
import RunCharts.Proofs.Files.Straight
import RunCharts.Proofs.Pdf.Printable

/-! # What an analysis does to the store, step by step

Once its sheets are made out, an analysis goes through a list of steps, each of which makes a directory or writes a
file (`Sheet.steps`). Here the steps are performed in a world that may refuse any of them, and that decides which
drawings can be pages; in the actual world they are what the analysis does (`outcome_run_eq_effects`). -/

namespace RunCharts

open Files Command

variable {α β : Type} {settings : Settings} {store : Store}

/-- A step of an analysis. -/
inductive Step where
  /-- Makes a directory, unless it is there. -/
  | dir (path : Path)
  /-- Writes a file; there is nothing to write where a drawing cannot be a page. -/
  | file (path : Path) (content : Option (List UInt8))

/-- What the store does not decide: which drawings can be pages, and what is refused all the same. -/
structure World where
  page? : Svg.Size → List Svg.Element → Option (List UInt8)
  refuses : Path → Option FileError

/-- The world in which nothing is refused. -/
def World.actual : World := ⟨Pdf.page?, fun _ => none⟩

/-- A step is performed as a whole, or refused, or fails as the store says. -/
def Step.perform (world : World) (store : Store) : Step → Except Failure Unit × Store
  | .dir path =>
    if path = "" ∨ store.exists? path = true then (.ok (), store)
    else
      match world.refuses path with
      | some error => (.error (.fault (.file path error)), store)
      | none => (((store.makeDirs path).2.mapError (Fault.file path)).mapError .fault, (store.makeDirs path).1)
  | .file _ none => (.error (.fault .render), store)
  | .file path (some content) =>
    match world.refuses path with
    | some error => (.error (.fault (.file path error)), store)
    | none =>
      match store.write path content with
      | .ok left => (.ok (), left)
      | .error error => (.error (.fault (.file path error)), store)

/-- What a step comes to, and what it leaves. -/
inductive Step.Does (world : World) (store : Store) : Step → Except Failure Unit → Store → Prop
  | there {path : Path} (h : path = "" ∨ store.exists? path = true) : Does world store (.dir path) (.ok ()) store
  | made {path : Path} {result : Except Failure Unit} {left : Store} (hallowed : world.refuses path = none)
      (hresult : ((store.makeDirs path).2.mapError (Fault.file path)).mapError .fault = result)
      (hleft : (store.makeDirs path).1 = left) : Does world store (.dir path) result left
  | wrote {path : Path} {content : List UInt8} {left : Store} (hallowed : world.refuses path = none)
      (hwrite : store.write path content = .ok left) : Does world store (.file path (some content)) (.ok ()) left
  | refused (step : Step) (failure : Failure) : Does world store step (.error failure) store

theorem Step.does {world : World} {step : Step} {result : Except Failure Unit} {left : Store}
    (h : step.perform world store = (result, left)) : step.Does world store result left := by
  cases step with
  | dir path =>
    rw [perform] at h
    split at h
    · rename_i hthere
      obtain ⟨rfl, rfl⟩ := Prod.mk.inj h
      exact .there hthere
    · cases hallowed : world.refuses path with
      | some error =>
        rw [hallowed] at h
        obtain ⟨rfl, rfl⟩ := Prod.mk.inj h
        exact .refused _ _
      | none =>
        rw [hallowed] at h
        obtain ⟨hresult, hleft⟩ := Prod.mk.inj h
        exact .made hallowed hresult hleft
  | file path content =>
    cases content with
    | none =>
      obtain ⟨rfl, rfl⟩ := Prod.mk.inj h
      exact .refused _ _
    | some content =>
      rw [perform] at h
      cases hallowed : world.refuses path with
      | some error =>
        rw [hallowed] at h
        obtain ⟨rfl, rfl⟩ := Prod.mk.inj h
        exact .refused _ _
      | none =>
        rw [hallowed] at h
        dsimp only at h
        cases hwrite : store.write path content with
        | error error =>
          rw [hwrite] at h
          obtain ⟨rfl, rfl⟩ := Prod.mk.inj h
          exact .refused _ _
        | ok written =>
          rw [hwrite] at h
          obtain ⟨rfl, rfl⟩ := Prod.mk.inj h
          exact .wrote hallowed hwrite

/-- Performs steps up to the first that fails. -/
def perform (world : World) : List Step → Store → Except Failure Unit × Store
  | [], store => (.ok (), store)
  | step :: rest, store =>
    match step.perform world store with
    | (.ok (), left) => perform world rest left
    | (.error failure, left) => (.error failure, left)

theorem perform_append (world : World) (steps more : List Step) (store : Store) :
    perform world (steps ++ more) store =
      match perform world steps store with
      | (.ok (), left) => perform world more left
      | (.error failure, left) => (.error failure, left) := by
  induction steps generalizing store with
  | nil => rfl
  | cons step rest ih =>
    rw [List.cons_append, perform, perform]
    rcases step.perform world store with ⟨failure | done, left⟩
    · rfl
    · exact ih left

/-- The drawing is written before the page. -/
def Sheet.pageSteps (world : World) (settings : Settings) (sheet : Sheet) : List Step :=
  [.file ((settings.pagePath sheet.stem).withExtension "svg")
      (some (octets (Svg.render sheet.chart ⟨settings.width, settings.height⟩))),
    .file (settings.pagePath sheet.stem) (world.page? ⟨settings.width, settings.height⟩
      (Svg.draw sheet.chart ⟨settings.width, settings.height⟩))]

/-- The numbers behind the chart are written after its page. -/
def Sheet.steps (world : World) (settings : Settings) (sheet : Sheet) : List Step :=
  (settings.pagePath sheet.stem).parent?.toList.map Step.dir ++ sheet.pageSteps world settings ++
    [.dir settings.dataDir, .file (settings.dataPath sheet.stem) (some (octets (PlotData.render sheet.groups)))]

/-- What an analysis gives and leaves in a world: it makes its output directory, makes out its sheets, and then goes
through their steps. -/
def Outline.effects (outline : Outline) (world : World) (runs : List RunDir) (settings : Settings) (store : Store) :
    Except Failure (List Path) × Store :=
  match (Step.dir settings.outputDir).perform world store with
  | (.error failure, made) => (.error failure, made)
  | (.ok (), made) =>
    match outline.sheets runs settings made with
    | .error failure => (.error failure, made)
    | .ok sheets =>
      ((perform world (sheets.flatMap (Sheet.steps world settings)) made).1.map fun _ =>
        sheets.map (settings.pagePath ·.stem),
        (perform world (sheets.flatMap (Sheet.steps world settings)) made).2)

/-- An analysis succeeds if its output directory and its sheets can be made, and all of their steps are performed. -/
theorem Outline.effects_eq_ok_iff {outline : Outline} {world : World} {runs : List RunDir} {left : Store}
    {paths : List Path} : outline.effects world runs settings store = (.ok paths, left) ↔
      ∃ made sheets, (Step.dir settings.outputDir).perform world store = (.ok (), made) ∧
        outline.sheets runs settings made = .ok sheets ∧ sheets.map (settings.pagePath ·.stem) = paths ∧
        perform world (sheets.flatMap (Sheet.steps world settings)) made = (.ok (), left) := by
  rw [effects]
  constructor
  · intro h
    rcases hdir : (Step.dir settings.outputDir).perform world store with ⟨failure | _, made⟩ <;> rw [hdir] at h
    · cases h
    dsimp only at h
    cases hsheets : outline.sheets runs settings made with
    | error failure =>
      rw [hsheets] at h
      cases h
    | ok sheets =>
      rw [hsheets] at h
      obtain ⟨hpaths, hleft⟩ := Prod.mk.inj h
      obtain ⟨⟨⟩, hresult, hpaths⟩ := Except.map_eq_ok_iff.1 hpaths
      exact ⟨made, sheets, rfl, hsheets, hpaths, Prod.ext hresult hleft⟩
  · rintro ⟨made, sheets, hdir, hsheets, rfl, hperform⟩
    rw [hdir]
    dsimp only
    rw [hsheets]
    dsimp only
    rw [hperform]
    rfl

/-! ### In the actual world -/

/-- A step that the store allows. -/
def Step.IsOpen (store : Store) : Step → Prop
  | .dir path => path = "" ∨ store.exists? path = true
  | .file path content => store.IsWritable path ∧ content.isSome = true

theorem perform_cons {world : World} {step : Step} {left : Store} (h : step.perform world store = (.ok (), left))
    (rest : List Step) : perform world (step :: rest) store = perform world rest left := by
  rw [perform, h]

theorem Step.perform_dir_of_exists {path : Path} (h : path = "" ∨ store.exists? path = true) :
    (Step.dir path).perform .actual store = (.ok (), store) := by
  rw [perform, if_pos h]

theorem Step.perform_file {path : Path} {content : List UInt8} {left : Store} (h : store.write path content = .ok left) :
    (Step.file path (some content)).perform .actual store = (.ok (), left) := by
  rw [perform]
  dsimp only [World.actual]
  rw [h]

/-- A missing directory is made. -/
theorem Step.perform_dir_of_missing {path : Path} {at_ : Location} (h : store.IsStraight path at_)
    (hstart : store.start = []) (hmissing : store.node? at_ = none) :
    (Step.dir path).perform .actual store = (.ok (), store.put at_ .dir) := by
  have hnone : ¬ (path = "" ∨ store.exists? path = true) := by
    rw [h.exists?_of_missing hstart hmissing]
    exact not_or.2 ⟨h.checked.2.2, Bool.false_ne_true⟩
  rw [perform, if_neg hnone, h.makeDirs hstart hmissing]
  rfl

/-- Steps that the store allows can be performed one after the other. -/
theorem exists_perform_of_isOpen {steps : List Step} (h : ∀ step ∈ steps, step.IsOpen store) :
    ∃ left, perform .actual steps store = (.ok (), left) := by
  induction steps generalizing store with
  | nil => exact ⟨store, rfl⟩
  | cons step rest ih =>
    obtain ⟨hstep, hrest⟩ := List.forall_mem_cons.1 h
    cases step with
    | dir path =>
      obtain ⟨left, hleft⟩ := ih hrest
      have hthere : path = "" ∨ store.exists? path = true := hstep
      exact ⟨left, (perform_cons (Step.perform_dir_of_exists hthere) rest).trans hleft⟩
    | file path content =>
      obtain ⟨hwritable, hcontent⟩ := hstep
      obtain ⟨content, rfl⟩ := Option.isSome_iff_exists.1 hcontent
      obtain ⟨written, hwritten⟩ := Store.exists_write hwritable content
      have hopen : ∀ step ∈ rest, step.IsOpen written := by
        intro step hstep
        have hbefore := hrest step hstep
        cases step with
        | dir path => exact hbefore.imp_right (Store.keeps_write hwritten).exists?
        | file path content => exact ⟨hbefore.1.write hwritten, hbefore.2⟩
      obtain ⟨left, hleft⟩ := ih hopen
      exact ⟨left, (perform_cons (Step.perform_file hwritten) rest).trans hleft⟩

/-- The drawing of the sheet can be a page. -/
def Sheet.IsPrintable (settings : Settings) (sheet : Sheet) : Prop :=
  (Pdf.page? ⟨settings.width, settings.height⟩ (Svg.draw sheet.chart ⟨settings.width, settings.height⟩)).isSome = true

theorem Sheet.isPrintable_iff {sheet : Sheet} : sheet.IsPrintable settings ↔
    0 < settings.width ∧ 0 < settings.height ∧ ∀ text ∈ sheet.chart.texts, Pdf.IsXmlText text :=
  Pdf.isSome_page?_draw _ _

theorem Sheet.exists_file_none_iff {sheet : Sheet} :
    (∃ path, Step.file path none ∈ sheet.steps .actual settings) ↔ ¬ sheet.IsPrintable settings := by
  rw [IsPrintable, Bool.not_eq_true, Option.isSome_eq_false_iff, Option.isNone_iff_eq_none]
  simp [steps, pageSteps, World.actual, eq_comm]

/-- The store allows to write the files of a sheet: the directories are there, and no directory is in the way of a
file. -/
theorem isOpen_steps_or {sheet : Sheet}
    (hdir : ∀ dir ∈ (settings.pagePath sheet.stem).parent?, dir = "" ∨ store.exists? dir = true)
    (hdrawing : store.IsWritable ((settings.pagePath sheet.stem).withExtension "svg"))
    (hpage : store.IsWritable (settings.pagePath sheet.stem))
    (hdataDir : store.exists? settings.dataDir = true) (hdata : store.IsWritable (settings.dataPath sheet.stem)) :
    ∀ step ∈ sheet.steps .actual settings, (∃ path, step = .file path none) ∨ step.IsOpen store := by
  intro step hstep
  rw [Sheet.steps, Sheet.pageSteps, List.mem_append, List.mem_append] at hstep
  rcases hstep with (hstep | hstep) | hstep
  · obtain ⟨dir, hmem, rfl⟩ := List.mem_map.1 hstep
    exact .inr (hdir dir (Option.mem_toList.1 hmem))
  · simp only [List.mem_cons, List.not_mem_nil, or_false] at hstep
    rcases hstep with rfl | rfl
    · exact .inr ⟨hdrawing, rfl⟩
    · generalize World.actual.page? _ _ = page
      cases page with
      | none => exact .inl ⟨_, rfl⟩
      | some page => exact .inr ⟨hpage, rfl⟩
  · simp only [List.mem_cons, List.not_mem_nil, or_false] at hstep
    rcases hstep with rfl | rfl
    · exact .inr (.inr hdataDir)
    · exact .inr ⟨hdata, rfl⟩

/-- Where its drawing can be a page, the store allows to write the sheet. -/
theorem isOpen_steps {sheet : Sheet}
    (hdir : ∀ dir ∈ (settings.pagePath sheet.stem).parent?, dir = "" ∨ store.exists? dir = true)
    (hdrawing : store.IsWritable ((settings.pagePath sheet.stem).withExtension "svg"))
    (hpage : store.IsWritable (settings.pagePath sheet.stem))
    (hdataDir : store.exists? settings.dataDir = true) (hdata : store.IsWritable (settings.dataPath sheet.stem))
    (hprintable : (Pdf.page? ⟨settings.width, settings.height⟩
      (Svg.draw sheet.chart ⟨settings.width, settings.height⟩)).isSome = true) :
    ∀ step ∈ sheet.steps .actual settings, step.IsOpen store := by
  intro step hstep
  refine (isOpen_steps_or hdir hdrawing hpage hdataDir hdata step hstep).resolve_left ?_
  rintro ⟨path, rfl⟩
  exact Sheet.exists_file_none_iff.1 ⟨path, hstep⟩ hprintable

namespace Command

/-- The command goes through the steps, and then gives `a`. -/
def Performs (command : Command α) (steps : List Step) (a : α) : Prop := ∀ session, command.outcome session =
  ((perform .actual steps session.store).1.map fun _ => a, (perform .actual steps session.store).2)

namespace Performs

theorem pure (a : α) : (Pure.pure a : Command α).Performs [] a := fun _ => rfl

theorem bind {command : Command α} {next : α → Command β} {steps more : List Step} {a : α} {b : β}
    (h : command.Performs steps a) (hnext : (next a).Performs more b) :
    (command >>= next).Performs (steps ++ more) b := by
  intro session
  have hrun := h session
  rw [outcome] at hrun
  obtain ⟨hvalue, hstore⟩ := Prod.mk.inj hrun
  rw [outcome_bind, perform_append]
  rcases hsteps : perform .actual steps session.store with ⟨failure | done, left⟩ <;> rw [hsteps] at hvalue hstore
  · rcases hcommand : command.runOn session with ⟨value, after⟩
    rw [hcommand] at hvalue hstore
    dsimp only [Except.map] at hvalue hstore ⊢
    subst hvalue
    rw [← hstore]
  · rcases hcommand : command.runOn session with ⟨value, after⟩
    rw [hcommand] at hvalue hstore
    dsimp only [Except.map] at hvalue hstore ⊢
    rw [hvalue, ← hstore]
    exact hnext after

theorem mapM {command : α → Command β} {steps : α → List Step} {value : α → β}
    (h : ∀ a, (command a).Performs (steps a) (value a)) (list : List α) :
    (list.mapM command).Performs (list.flatMap steps) (list.map value) := by
  induction list with
  | nil => exact pure []
  | cons a rest ih =>
    rw [List.mapM_cons, List.flatMap_cons, List.map_cons, ← List.append_nil (rest.flatMap steps)]
    exact (h a).bind (ih.bind (pure _))

end Performs

theorem performs_ensureDir (path : Path) : (ensureDir path).Performs [.dir path] () := by
  intro session
  rw [perform, Step.perform]
  by_cases hexists : path = "" ∨ session.store.exists? path = true
  · rw [if_pos hexists, outcome_ensureDir_of_exists hexists]
    rfl
  · rw [if_neg hexists, outcome_ensureDir, if_neg (not_or.1 hexists).2]
    rcases session.store.makeDirs path with ⟨made, error | done⟩ <;> rfl

theorem outcome_ensureDir_eq_perform (path : Path) (session : Session) :
    (ensureDir path).outcome session = (Step.dir path).perform .actual session.store := by
  rw [performs_ensureDir path session, perform]
  rcases (Step.dir path).perform .actual session.store with ⟨failure | _, left⟩ <;> rfl

theorem performs_writeFile (path : Path) (content : List UInt8) :
    (writeFile path content).Performs [.file path (some content)] () := by
  intro session
  rw [outcome_writeFile, perform, Step.perform]
  cases session.store.write path content <;> rfl

theorem performs_writePage (path : Path) (page : Option (List UInt8)) : Performs (match page with
    | none => refuse .render
    | some page => writeFile path page) [.file path page] () := by
  cases page with
  | none => exact fun _ => rfl
  | some page => exact performs_writeFile path page

theorem performs_note (notice : Notice) : (note notice).Performs [] () := fun _ => rfl

theorem performs_emit (settings : Settings) (sheet : Sheet) :
    (sheet.emit settings).Performs (sheet.steps .actual settings) (settings.pagePath sheet.stem) := by
  have hfiles : (writeFiles (settings.pagePath sheet.stem) sheet.chart ⟨settings.width, settings.height⟩).Performs
      (sheet.pageSteps .actual settings) () :=
    (performs_writeFile _ _).bind (performs_writePage _ _)
  have hchart : (writeChart (settings.pagePath sheet.stem) sheet.chart ⟨settings.width, settings.height⟩).Performs
      ((settings.pagePath sheet.stem).parent?.toList.map Step.dir ++ sheet.pageSteps .actual settings) () := by
    rw [writeChart]
    cases (settings.pagePath sheet.stem).parent? with
    | none => exact hfiles
    | some dir => exact (performs_ensureDir dir).bind hfiles
  have hdata : (writeData settings sheet.stem sheet.groups).Performs
      [.dir settings.dataDir, .file (settings.dataPath sheet.stem) (some (octets (PlotData.render sheet.groups)))]
      (settings.dataPath sheet.stem) :=
    (performs_ensureDir settings.dataDir).bind ((performs_writeFile _ _).bind (Performs.pure _))
  have hdone : (do
      note (.wrote (settings.pagePath sheet.stem))
      return settings.pagePath sheet.stem).Performs [] (settings.pagePath sheet.stem) :=
    (performs_note _).bind (Performs.pure _)
  exact hchart.bind (hdata.bind hdone)

end Command

theorem exists_emitAll_of_isOpen {sheets : List Sheet}
    (h : ∀ sheet ∈ sheets, ∀ step ∈ sheet.steps .actual settings, step.IsOpen store) :
    ∃ left, (sheets.mapM (Sheet.emit settings)).outcome { store } =
      (.ok (sheets.map (settings.pagePath ·.stem)), left) := by
  have hopen : ∀ step ∈ sheets.flatMap (Sheet.steps .actual settings), step.IsOpen store := by
    intro step hstep
    obtain ⟨sheet, hsheet, hstep⟩ := List.mem_flatMap.1 hstep
    exact h sheet hsheet step hstep
  obtain ⟨left, hleft⟩ := exists_perform_of_isOpen hopen
  refine ⟨left, ?_⟩
  rw [Performs.mapM (performs_emit settings) sheets { store }, hleft]
  rfl

theorem Outline.outcome_run_eq_effects {outline : Outline} (h : outline ∈ Outline.all) (runs : List RunDir)
    (settings : Settings) (session : Session) : (outline.analysis.run runs settings).outcome session =
      outline.effects .actual runs settings session.store := by
  rw [Analysis.outcome_run (Outline.plans h runs settings), outcome_ensureDir_eq_perform, Outline.effects]
  rcases (Step.dir settings.outputDir).perform .actual session.store with ⟨failure | done, made⟩
  · rfl
  · dsimp only
    cases hsheets : outline.sheets runs settings made with
    | error failure => rfl
    | ok sheets => exact Performs.mapM (performs_emit settings) sheets { store := made }

theorem Outline.outcome_run_eq_ok_iff {outline : Outline} (h : outline ∈ Outline.all) {runs : List RunDir}
    {session : Session} {paths : List Path} {left : Store} :
    (outline.analysis.run runs settings).outcome session = (.ok paths, left) ↔
      ∃ made sheets, (Step.dir settings.outputDir).perform .actual session.store = (.ok (), made) ∧
        outline.sheets runs settings made = .ok sheets ∧ sheets.map (settings.pagePath ·.stem) = paths ∧
        perform .actual (sheets.flatMap (Sheet.steps .actual settings)) made = (.ok (), left) := by
  rw [outcome_run_eq_effects h, effects_eq_ok_iff]

/-- An analysis of sheets that can be made and written succeeds. -/
theorem Outline.exists_run_of_isOpen {outline : Outline} (h : outline ∈ Outline.all) {runs : List RunDir}
    {sheets : List Sheet} (hdir : settings.outputDir = "" ∨ store.exists? settings.outputDir = true)
    (hsheets : outline.sheets runs settings store = .ok sheets)
    (hopen : ∀ sheet ∈ sheets, ∀ step ∈ sheet.steps .actual settings, step.IsOpen store) :
    ∃ left, (outline.analysis.run runs settings).runOn { store } =
      (.ok (sheets.map (settings.pagePath ·.stem)), left) := by
  obtain ⟨left, hleft⟩ := exists_emitAll_of_isOpen hopen
  have hrun : (outline.analysis.run runs settings).outcome { store } =
      (.ok (sheets.map (settings.pagePath ·.stem)), left) := by
    rw [Analysis.outcome_run (Outline.plans h runs settings), outcome_ensureDir_of_exists hdir]
    dsimp only
    rw [hsheets]
    exact hleft
  obtain ⟨hvalue, -⟩ := Prod.mk.inj hrun
  exact ⟨_, Prod.ext hvalue rfl⟩

end RunCharts
