import RunCharts.Analysis.Basic
import RunCharts.Proofs.Analysis.Outcome
import RunCharts.Proofs.Files.Growth

/-! # Writing sheets

A sheet is a chart with the groups behind it and the stem of its files. Where the output directory is there,
writing sheets fails at one of their own files only (`ends_emitAll`). -/

namespace RunCharts

open Files Command

/-- A chart with the groups behind it, and the stem of its files. -/
structure Sheet where
  stem : String
  chart : Chart Float
  groups : List GroupSummary

def Sheet.emit (settings : Settings) (sheet : Sheet) : Command Path :=
  RunCharts.emit settings sheet.stem sheet.chart sheet.groups

/-- The files that are written for a stem, and the directory of the numbers behind charts. -/
def Settings.outputPaths (settings : Settings) (stem : String) : List Path :=
  [(settings.pagePath stem).withExtension "svg", settings.pagePath stem, settings.dataDir, settings.dataPath stem]

/-- A drawing that cannot be a page, or an error of a file that is written. -/
def Settings.IsOutputFault (settings : Settings) (stems : List String) (fault : Fault) : Prop :=
  fault = .render ∨ ∃ stem ∈ stems, ∃ path ∈ settings.outputPaths stem, ∃ error, fault = .file path error

namespace Command

variable {α β : Type} {base : Store} {allowed : Fault → Prop}

/-- A command that is run on a store that keeps `base` leaves one that does, and fails with an allowed fault
only. -/
def Ends (base : Store) (allowed : Fault → Prop) (command : Command α) : Prop :=
  ∀ session, Store.Keeps base session.store → Store.Keeps base (command.outcome session).2 ∧
    ∀ failure, (command.outcome session).1 = .error failure → ∃ fault, failure = .fault fault ∧ allowed fault

namespace Ends

theorem pure (a : α) : Ends base allowed (Pure.pure a : Command α) := fun session h =>
  ⟨h, fun _ hfail => by cases hfail⟩

theorem bind {command : Command α} {next : α → Command β} (h : Ends base allowed command)
    (hnext : ∀ a, Ends base allowed (next a)) : Ends base allowed (command >>= next) := by
  intro session hkeeps
  obtain ⟨hleft, hfail⟩ := h session hkeeps
  rw [outcome] at hleft hfail
  rw [outcome_bind]
  rcases hrun : command.runOn session with ⟨failure | a, left⟩ <;> rw [hrun] at hleft hfail
  · refine ⟨hleft, fun failure' heq => ?_⟩
    rw [← Except.error.inj heq]
    exact hfail failure rfl
  · exact hnext a left hleft

theorem mapM {command : α → Command β} {list : List α} (h : ∀ a ∈ list, Ends base allowed (command a)) :
    Ends base allowed (list.mapM command) := by
  induction list with
  | nil => exact pure []
  | cons a rest ih =>
    rw [List.mapM_cons]
    refine (h a List.mem_cons_self).bind fun _ => ?_
    exact (ih fun a ha => h a (List.mem_cons_of_mem _ ha)).bind fun _ => pure _

theorem mono {allowed' : Fault → Prop} {command : Command α} (h : Ends base allowed command)
    (hsub : ∀ fault, allowed fault → allowed' fault) : Ends base allowed' command := by
  intro session hkeeps
  refine ⟨(h session hkeeps).1, fun failure hfail => ?_⟩
  obtain ⟨fault, hfault, hallowed⟩ := (h session hkeeps).2 failure hfail
  exact ⟨fault, hfault, hsub fault hallowed⟩

end Ends

theorem ends_note (notice : Notice) : Ends base allowed (note notice) := fun session h =>
  ⟨h, fun _ hfail => by cases hfail⟩

theorem ends_refuse {fault : Fault} (h : allowed fault) : Ends base allowed (refuse fault : Command α) :=
  fun _ hkeeps => ⟨hkeeps, fun _ hfail => ⟨fault, (Except.error.inj hfail).symm, h⟩⟩

theorem ends_writeFile {path : Path} (h : ∀ error, allowed (.file path error)) (content : List UInt8) :
    Ends base allowed (writeFile path content) := by
  intro session hkeeps
  rw [outcome_writeFile]
  cases hwrite : session.store.write path content with
  | ok store => exact ⟨hkeeps.trans (Store.keeps_write hwrite), fun _ hfail => by cases hfail⟩
  | error error => exact ⟨hkeeps, fun _ hfail => ⟨_, (Except.error.inj hfail).symm, h error⟩⟩

theorem ends_ensureDir {path : Path} (h : ∀ error, allowed (.file path error)) :
    Ends base allowed (ensureDir path) := by
  intro session hkeeps
  rw [outcome_ensureDir]
  split
  · exact ⟨hkeeps, fun _ hfail => by cases hfail⟩
  · refine ⟨hkeeps.trans (Store.grows_makeDirs session.store path).keeps, fun failure hfail => ?_⟩
    cases hresult : (session.store.makeDirs path).2 with
    | ok done => rw [hresult] at hfail; cases hfail
    | error error =>
      rw [hresult] at hfail
      exact ⟨_, (Except.error.inj hfail).symm, h error⟩

/-- The empty path is that of a relative file, whose directory is there. -/
theorem outcome_ensureDir_of_exists {path : Path} {session : Session}
    (h : path = "" ∨ session.store.exists? path = true) :
    (ensureDir path).outcome session = (.ok (), session.store) := by
  rw [outcome_ensureDir]
  rcases h with rfl | h
  · by_cases hexists : session.store.exists? "" = true
    · rw [if_pos hexists]
    · rw [if_neg hexists]
      rfl
  · rw [if_pos h]

theorem ends_ensureDir_of_exists {path : Path} (h : path = "" ∨ base.exists? path = true) :
    Ends base allowed (ensureDir path) := by
  intro session hkeeps
  rw [outcome_ensureDir_of_exists (h.imp_right hkeeps.exists?)]
  exact ⟨hkeeps, fun _ hfail => by cases hfail⟩

end Command

/-! ### Writing a sheet -/

/-- Writes a chart as a drawing and as a page, where their directory is there. -/
def writeFiles (path : Path) (chart : Chart Float) (size : Svg.Size) : Command Unit := do
  writeFile (path.withExtension "svg") (octets (Svg.render chart size))
  match Pdf.page? size (Svg.draw chart size) with
  | none => refuse .render
  | some page => writeFile path page

variable {settings : Settings} {session : Session} {base : Store} {allowed : Fault → Prop} {path : Path}

theorem isPlain_writePage (path : Path) (page : Option (List UInt8)) : IsPlain (match page with
    | none => refuse .render
    | some page => writeFile path page) := by
  cases page with
  | none => exact fun _ => rfl
  | some page => exact isPlain_writeFile path page

theorem isPlain_writeFiles (path : Path) (chart : Chart Float) (size : Svg.Size) :
    (writeFiles path chart size).IsPlain :=
  (isPlain_writeFile _ _).bind fun _ => isPlain_writePage _ _

theorem isPlain_writeChart (path : Path) (chart : Chart Float) (size : Svg.Size) :
    (writeChart path chart size).IsPlain := by
  rw [writeChart]
  cases path.parent? with
  | none => exact isPlain_writeFiles path chart size
  | some dir => exact (isPlain_ensureDir dir).bind fun _ => isPlain_writeFiles path chart size

theorem isPlain_writeData (settings : Settings) (stem : String) (groups : List GroupSummary) :
    (writeData settings stem groups).IsPlain :=
  (isPlain_ensureDir _).bind fun _ => (isPlain_writeFile _ _).bind fun _ => .pure _

theorem isPlain_emit (settings : Settings) (sheet : Sheet) : (sheet.emit settings).IsPlain :=
  (isPlain_writeChart _ _ _).bind fun _ => (isPlain_writeData _ _ _).bind fun _ =>
    (reads_note _).isPlain.bind fun _ => .pure _

theorem ends_writeChart (chart : Chart Float) (size : Svg.Size)
    (hdir : ∀ dir ∈ path.parent?, dir = "" ∨ base.exists? dir = true) (hrender : allowed .render)
    (hdrawing : ∀ error, allowed (.file (path.withExtension "svg") error))
    (hpage : ∀ error, allowed (.file path error)) : Ends base allowed (writeChart path chart size) := by
  have hfiles : Ends base allowed (writeFiles path chart size) := by
    refine (ends_writeFile hdrawing _).bind fun _ => ?_
    cases Pdf.page? size (Svg.draw chart size) with
    | none => exact ends_refuse hrender
    | some page => exact ends_writeFile hpage page
  rw [writeChart]
  cases hparent : path.parent? with
  | none => exact hfiles
  | some dir => exact (ends_ensureDir_of_exists (hdir dir hparent)).bind fun _ => hfiles

theorem ends_emit {sheet : Sheet}
    (hdir : ∀ dir ∈ (settings.pagePath sheet.stem).parent?, dir = "" ∨ base.exists? dir = true) :
    Ends base (settings.IsOutputFault [sheet.stem]) (sheet.emit settings) := by
  have houtput {path : Path} (h : path ∈ settings.outputPaths sheet.stem) (error : FileError) :
      settings.IsOutputFault [sheet.stem] (.file path error) :=
    .inr ⟨_, List.mem_singleton_self _, path, h, error, rfl⟩
  refine (ends_writeChart _ _ hdir (.inl rfl) (houtput (by simp [Settings.outputPaths]))
    (houtput (by simp [Settings.outputPaths]))).bind fun _ => ?_
  refine ((ends_ensureDir (houtput (by simp [Settings.outputPaths]))).bind fun _ =>
    (ends_writeFile (houtput (by simp [Settings.outputPaths])) _).bind fun _ => .pure _).bind fun _ => ?_
  exact (ends_note _).bind fun _ => .pure _

/-! ### What writing a sheet leaves -/

theorem outcome_writeFiles (path : Path) (chart : Chart Float) (size : Svg.Size) :
    (writeFiles path chart size).outcome session =
      match session.store.write (path.withExtension "svg") (octets (Svg.render chart size)) with
      | .error error => (.error (.fault (.file (path.withExtension "svg") error)), session.store)
      | .ok drawn =>
        match Pdf.page? size (Svg.draw chart size) with
        | none => (.error (.fault .render), drawn)
        | some page =>
          match drawn.write path page with
          | .error error => (.error (.fault (.file path error)), drawn)
          | .ok paged => (.ok (), paged) := by
  rw [writeFiles, outcome_bind_plain fun _ => isPlain_writePage _ _, outcome_writeFile]
  cases session.store.write (path.withExtension "svg") (octets (Svg.render chart size)) with
  | error error => rfl
  | ok drawn =>
    cases Pdf.page? size (Svg.draw chart size) with
    | none => rfl
    | some page =>
      dsimp only
      rw [outcome_writeFile]
      cases drawn.write path page <;> rfl

theorem outcome_writeChart (chart : Chart Float) (size : Svg.Size)
    (hdir : ∀ dir ∈ path.parent?, dir = "" ∨ session.store.exists? dir = true) :
    (writeChart path chart size).outcome session = (writeFiles path chart size).outcome session := by
  rw [writeChart]
  cases hparent : path.parent? with
  | none => rfl
  | some dir =>
    refine (outcome_bind_plain fun _ => isPlain_writeFiles path chart size).trans ?_
    rw [outcome_ensureDir_of_exists (hdir dir hparent)]
    exact (isPlain_writeFiles path chart size session).symm

theorem outcome_writeData (settings : Settings) (stem : String) (groups : List GroupSummary) :
    (writeData settings stem groups).outcome session =
      match (ensureDir settings.dataDir).outcome session with
      | (.error failure, left) => (.error failure, left)
      | (.ok _, data) =>
        match data.write (settings.dataPath stem) (octets (PlotData.render groups)) with
        | .error error => (.error (.fault (.file (settings.dataPath stem) error)), data)
        | .ok left => (.ok (settings.dataPath stem), left) := by
  rw [writeData, outcome_bind_plain fun _ => (isPlain_writeFile _ _).bind fun _ => .pure _]
  rcases (ensureDir settings.dataDir).outcome session with ⟨failure | done, data⟩
  · rfl
  · dsimp only
    rw [outcome_bind_plain fun _ => .pure _, outcome_writeFile]
    cases data.write (settings.dataPath stem) (octets (PlotData.render groups)) <;> rfl

theorem outcome_emit (settings : Settings) (sheet : Sheet) : (sheet.emit settings).outcome session =
    match (writeChart (settings.pagePath sheet.stem) sheet.chart ⟨settings.width, settings.height⟩).outcome
      session with
    | (.error failure, left) => (.error failure, left)
    | (.ok _, paged) =>
      match (writeData settings sheet.stem sheet.groups).outcome { store := paged } with
      | (.error failure, left) => (.error failure, left)
      | (.ok _, left) => (.ok (settings.pagePath sheet.stem), left) := by
  have hnote : IsPlain (do
      note (.wrote (settings.pagePath sheet.stem))
      return settings.pagePath sheet.stem) := (reads_note _).isPlain.bind fun _ => .pure _
  rw [Sheet.emit, emit, outcome_bind_plain fun _ => (isPlain_writeData _ _ _).bind fun _ => hnote]
  rcases (writeChart (settings.pagePath sheet.stem) sheet.chart ⟨settings.width, settings.height⟩).outcome
    session with ⟨failure | done, paged⟩
  · rfl
  · dsimp only
    rw [outcome_bind_plain fun _ => hnote]
    rcases (writeData settings sheet.stem sheet.groups).outcome { store := paged } with
      ⟨failure | path, left⟩ <;> rfl

theorem read_of_writeData {stem : String} {groups : List GroupSummary} {left : Store}
    (h : (writeData settings stem groups).outcome session = (.ok path, left)) :
    path = settings.dataPath stem ∧ left.read path = .ok (octets (PlotData.render groups)) := by
  rw [outcome_writeData] at h
  rcases hdir : (ensureDir settings.dataDir).outcome session with ⟨failure | done, data⟩ <;> rw [hdir] at h
  · cases h
  dsimp only at h
  cases hwrite : data.write (settings.dataPath stem) (octets (PlotData.render groups)) with
  | error error =>
    rw [hwrite] at h
    cases h
  | ok new =>
    rw [hwrite] at h
    cases h
    exact ⟨rfl, Store.read_write hwrite⟩

/-- The numbers behind a chart are written last, so they are there when it has been written. -/
theorem read_dataPath_of_emit {sheet : Sheet} {left : Store}
    (h : (sheet.emit settings).outcome session = (.ok path, left)) :
    left.read (settings.dataPath sheet.stem) = .ok (octets (PlotData.render sheet.groups)) := by
  rw [outcome_emit] at h
  rcases hchart : (writeChart (settings.pagePath sheet.stem) sheet.chart ⟨settings.width, settings.height⟩).outcome
    session with ⟨failure | done, paged⟩ <;> rw [hchart] at h
  · cases h
  dsimp only at h
  rcases hdata : (writeData settings sheet.stem sheet.groups).outcome { store := paged } with ⟨failure | path', left'⟩ <;>
    rw [hdata] at h
  · cases h
  · cases h
    obtain ⟨rfl, hread⟩ := read_of_writeData hdata
    exact hread

end RunCharts
