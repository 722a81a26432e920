import RunCharts.Analysis.Basic
import RunCharts.Proofs.FirstError

/-! # What a command does to the store

No command looks at the printed lines or at the notices. So what counts of a command is its outcome: what it
gives, and the store that it leaves. A command that reads leaves the store as it was (`Reads`). -/

namespace RunCharts

/-- The files of a run that a query selects; a run that does not exist has none. -/
def FileQuery.selected (query : FileQuery) (run : Files.Path) (store : Files.Store) :
    Except Failure (List Files.Path) :=
  match query.find store run with
  | .ok files => .ok files
  | .error .notFound => .ok []
  | .error error => .error (.fault (.file run error))

namespace Command

open Files

variable {α β : Type} {session session' : Session}

/-- What a command gives, and the store that it leaves. -/
def outcome (command : Command α) (session : Session) : Except Failure α × Store :=
  ((command.runOn session).1, (command.runOn session).2.store)

/-- The outcome depends on the store alone. -/
def IsPlain (command : Command α) : Prop :=
  ∀ session, command.outcome session = command.outcome { store := session.store }

/-- The command gives what `result` says of the store, and leaves the store as it was. -/
def Reads (command : Command α) (result : Store → Except Failure α) : Prop :=
  ∀ session, command.outcome session = (result session.store, session.store)

/-! ### Running one command after the other -/

theorem runOn_bind (command : Command α) (next : α → Command β) :
    (command >>= next).runOn session =
      match command.runOn session with
      | (.ok a, left) => (next a).runOn left
      | (.error failure, left) => (.error failure, left) := by
  simp only [runOn, ExceptT.run_bind, StateT.run_bind]
  rcases StateT.run (ExceptT.run command) session with ⟨_ | _, _⟩ <;> rfl

theorem outcome_bind (command : Command α) (next : α → Command β) :
    (command >>= next).outcome session =
      match command.runOn session with
      | (.ok a, left) => (next a).outcome left
      | (.error failure, left) => (.error failure, left.store) := by
  rw [outcome, runOn_bind]
  rcases command.runOn session with ⟨_ | _, _⟩ <;> rfl

theorem outcome_store_bind (next : Store → Command β) :
    (store >>= next).outcome session = (next session.store).outcome session := by
  rw [outcome_bind]
  rfl

/-- What comes after a plain command runs on the store that this leaves. -/
theorem outcome_bind_plain {command : Command α} {next : α → Command β} (hnext : ∀ a, (next a).IsPlain) :
    (command >>= next).outcome session =
      match command.outcome session with
      | (.ok a, store) => (next a).outcome { store }
      | (.error failure, store) => (.error failure, store) := by
  rw [outcome_bind, outcome]
  rcases command.runOn session with ⟨_ | a, left⟩
  · rfl
  · exact hnext a left

theorem IsPlain.pure (a : α) : (pure a : Command α).IsPlain := fun _ => rfl

theorem IsPlain.bind {command : Command α} {next : α → Command β} (h : command.IsPlain)
    (hnext : ∀ a, (next a).IsPlain) : (command >>= next).IsPlain := by
  intro session
  rw [outcome_bind_plain hnext, outcome_bind_plain hnext, h session]

theorem IsPlain.mapM {command : α → Command β} {list : List α} (h : ∀ a ∈ list, (command a).IsPlain) :
    (list.mapM command).IsPlain := by
  induction list with
  | nil => exact IsPlain.pure []
  | cons a rest ih =>
    rw [List.mapM_cons]
    refine (h a List.mem_cons_self).bind fun b => ?_
    exact (ih fun a ha => h a (List.mem_cons_of_mem _ ha)).bind fun _ => IsPlain.pure _

theorem outcome_mapM_singleton (command : α → Command β) (a : α) : ([a].mapM command).outcome session =
    match (command a).outcome session with
    | (.ok b, store) => (.ok [b], store)
    | (.error failure, store) => (.error failure, store) := by
  rw [List.mapM_cons, List.mapM_nil]
  simp only [pure_bind]
  rw [outcome_bind_plain fun _ => .pure _]
  rcases (command a).outcome session with ⟨_ | b, store⟩ <;> rfl

theorem outcome_bind_of_handsOn {command : Command α} {next : α → Command α}
    (hnext : ∀ a session, (next a).outcome session = (.ok a, session.store)) :
    (command >>= next).outcome session = command.outcome session := by
  rw [outcome_bind, outcome]
  rcases command.runOn session with ⟨failure | a, left⟩
  · rfl
  · exact hnext a left

/-! ### Commands that read -/

namespace Reads

variable {command : Command α} {result : Store → Except Failure α}

theorem isPlain (h : command.Reads result) : command.IsPlain := fun session => by
  rw [h, h]

theorem congr {result' : Store → Except Failure α} (h : command.Reads result)
    (heq : ∀ store, result store = result' store) : command.Reads result' := fun session => by
  rw [h, heq]

theorem pure (a : α) : (pure a : Command α).Reads fun _ => .ok a := fun _ => rfl

theorem bind {next : α → Command β} {result' : α → Store → Except Failure β} (h : command.Reads result)
    (hnext : ∀ a, (next a).Reads (result' a)) :
    (command >>= next).Reads fun store => result store >>= fun a => result' a store := by
  intro session
  rw [outcome_bind_plain fun a => (hnext a).isPlain, h session]
  cases hresult : result session.store with
  | error failure => simp only [hresult, Except.error_bind]
  | ok a =>
    simp only [hresult, Except.ok_bind]
    exact hnext a _

theorem mapM {command : α → Command β} {result : α → Store → Except Failure β}
    (h : ∀ a, (command a).Reads (result a)) (list : List α) :
    (list.mapM command).Reads fun store => list.mapM (result · store) := by
  induction list with
  | nil => exact pure []
  | cons a rest ih =>
    simp only [List.mapM_cons]
    exact (h a).bind fun b => ih.bind fun _ => pure _

theorem forM {command : α → Command PUnit} {result : α → Store → Except Failure PUnit}
    (h : ∀ a, (command a).Reads (result a)) (list : List α) :
    (list.forM command).Reads fun store => list.forM (result · store) := by
  induction list with
  | nil => exact pure _
  | cons a rest ih => exact (h a).bind fun _ => ih

theorem forM_ok {command : α → Command PUnit} (h : ∀ a, (command a).Reads fun _ => .ok ⟨⟩) (list : List α) :
    (list.forM command).Reads fun _ => .ok ⟨⟩ := by
  refine (forM h list).congr fun store => ?_
  induction list with
  | nil => rfl
  | cons a rest ih => exact ih

end Reads

theorem reads_note (notice : Notice) : (note notice).Reads fun _ => .ok () := fun _ => rfl

theorem reads_print (line : String) : (print line).Reads fun _ => .ok () := fun _ => rfl

theorem reads_ofExcept (value : Except Fault α) : (ofExcept value).Reads fun _ => value.mapError .fault := by
  cases value <;> exact fun _ => rfl

theorem reads_store : store.Reads .ok := fun _ => rfl

theorem reads_readFile (path : Path) :
    (readFile path).Reads fun store => ((store.read path).mapError (Fault.file path)).mapError .fault :=
  reads_store.bind fun store => reads_ofExcept ((store.read path).mapError (Fault.file path))

theorem Reads.within {command : Command α} {result : Store → Except Failure α} (h : command.Reads result)
    (context : Context) : (command.within context).Reads fun store => (result store).mapError (.within context) := by
  intro session
  have hrun : (command.within context).runOn session =
      ((command.runOn session).1.mapError (.within context), (command.runOn session).2) := by
    simp only [Command.within, runOn, ExceptT.run_tryCatch, StateT.run_bind]
    rcases StateT.run (ExceptT.run command) session with ⟨_ | _, _⟩ <;> rfl
  rw [outcome, hrun]
  have hresult : (command.runOn session).1 = result session.store := congrArg Prod.fst (h session)
  have hstore : (command.runOn session).2.store = session.store := congrArg Prod.snd (h session)
  rw [hresult, hstore]

/-! ### The selected files of a run -/

theorem reads_findFiles (query : FileQuery) (run : Path) : (findFiles query run).Reads (query.selected run) := by
  intro session
  rw [findFiles, outcome_store_bind, FileQuery.selected]
  cases query.find session.store run with
  | ok files =>
    exact ((Reads.forM_ok (fun file => reads_note (.found file)) files).bind fun _ => Reads.pure files) session
  | error error =>
    by_cases hmissing : error = .notFound
    · subst hmissing
      exact ((reads_note (.runMissing run)).bind fun _ => Reads.pure []) session
    · cases error <;> first | exact absurd rfl hmissing | rfl

/-! ### Commands that change the store -/

theorem outcome_ofExcept (value : Except Fault α) :
    (ofExcept value).outcome session = (value.mapError .fault, session.store) :=
  reads_ofExcept value session

theorem outcome_writeFile (path : Path) (content : List UInt8) : (writeFile path content).outcome session =
    match session.store.write path content with
    | .ok store => (.ok (), store)
    | .error error => (.error (.fault (.file path error)), session.store) := by
  rw [writeFile, outcome_store_bind]
  cases session.store.write path content <;> rfl

theorem outcome_ensureDir (path : Path) : (ensureDir path).outcome session =
    if session.store.exists? path then (.ok (), session.store)
    else (((session.store.makeDirs path).2.mapError (Fault.file path)).mapError .fault,
      (session.store.makeDirs path).1) := by
  rw [ensureDir, outcome_store_bind]
  by_cases hexists : session.store.exists? path = true
  · rw [if_pos hexists, if_pos hexists]
    rfl
  · rw [if_neg hexists, if_neg hexists]
    exact outcome_ofExcept _

theorem isPlain_writeFile (path : Path) (content : List UInt8) : (writeFile path content).IsPlain := by
  intro session
  rw [outcome_writeFile, outcome_writeFile]

theorem isPlain_ensureDir (path : Path) : (ensureDir path).IsPlain := fun session => by
  rw [outcome_ensureDir, outcome_ensureDir]

end Command

end RunCharts
