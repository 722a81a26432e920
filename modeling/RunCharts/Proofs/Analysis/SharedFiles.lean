import Mathlib.Data.List.Pairwise
import RunCharts.Proofs.Analysis.Rerun
import RunCharts.Proofs.Analysis.TwoPhases
import RunCharts.Proofs.Log.ThreadMark
import RunCharts.Proofs.Text.Infix

/-! # Files of different charts

The name of a file tells which chart it belongs to, and for how long its phases last: two decimals with a minus
between them can be taken apart again, whatever their signs (`repr_append_minus_inj`). So a file that two runs have
written is of the same chart in both (`Outline.sharesChart_of_hasWritten`). -/

namespace RunCharts

open Files

/-! ### Names -/

theorem repr_append_minus_inj {m n : Int} {rest rest' : List Char}
    (h : m.repr.toList ++ '-' :: rest = n.repr.toList ++ '-' :: rest') : m = n ∧ rest = rest' := by
  have hminus (n : Nat) : '-' ∉ n.repr.toList := fun hmem => absurd (isDigit_of_mem_repr hmem) (by decide)
  have hhead (n : Nat) (behind more : List Char) : n.repr.toList ++ behind ≠ '-' :: more := by
    intro hsame
    have hne : n.repr.toList ≠ [] := by
      rw [Nat.toList_repr]
      exact Nat.toDigits_ne_nil
    obtain ⟨c, digits, hcons⟩ := List.exists_cons_of_ne_nil hne
    rw [hcons, List.cons_append, List.cons_eq_cons] at hsame
    exact hminus n (by rw [hcons, hsame.1]; exact List.mem_cons_self)
  have hdigits {m n : Nat} (hsame : m.repr.toList ++ '-' :: rest = n.repr.toList ++ '-' :: rest') :
      m = n ∧ rest = rest' := by
    have hfront : m.repr.toList = n.repr.toList :=
      (Text.prefix_of_append_eq (hminus m) hsame).eq_of_length_le
        (Text.prefix_of_append_eq (hminus n) hsame.symm).length_le
    rw [hfront, List.append_cancel_left_eq, List.cons_eq_cons] at hsame
    have hvalue := congrArg (Nat.ofDigitChars 10 · 0) hfront
    simp only [Nat.toList_repr, Nat.ofDigitChars_ten_toDigits] at hvalue
    exact ⟨hvalue, hsame.2⟩
  rw [toList_repr, toList_repr] at h
  split at h <;> split at h
  · obtain ⟨habs, hrest⟩ := hdigits (List.cons_eq_cons.1 h).2
    exact ⟨by omega, hrest⟩
  · exact absurd h.symm (hhead _ _ _)
  · exact absurd h (hhead _ _ _)
  · obtain ⟨habs, hrest⟩ := hdigits h
    exact ⟨by omega, hrest⟩

theorem int_repr_inj {m n : Int} (h : m.repr.toList = n.repr.toList) : m = n :=
  (repr_append_minus_inj (congrArg (· ++ ['-']) h)).1

namespace Analysis.Bandwidth

open Outline

variable {windows windows' : Log.Bandwidth.Windows}

theorem startup_eq_of_startupStem_eq (h : startupStem windows = startupStem windows') :
    windows.startup = windows'.startup := by
  rw [startupStem_eq, startupStem_eq, ← String.toList_inj, String.toList_append, String.toList_append,
    List.append_cancel_left_eq] at h
  exact int_repr_inj h

theorem afterStem_injective : Function.Injective afterStem := by
  intro windows windows' h
  have hlists := congrArg String.toList h
  simp only [afterStem_eq, String.toList_append, List.append_assoc, List.append_cancel_left_eq] at hlists
  obtain ⟨hstartup, hafter⟩ := repr_append_minus_inj hlists
  obtain ⟨startup, after⟩ := windows
  obtain ⟨startup', after'⟩ := windows'
  obtain rfl : startup = startup' := hstartup
  obtain rfl : after = after' := int_repr_inj hafter
  rfl

theorem startupStem_ne_afterStem (windows windows' : Log.Bandwidth.Windows) :
    startupStem windows ≠ afterStem windows' := by
  intro h
  have hletter := congrArg (fun stem => stem.toList[21]?) h
  simp only [startupStem_eq, afterStem_eq, String.toList_append] at hletter
  cases hletter

end Analysis.Bandwidth

/-! ### Files -/

/-- The paths stand for one file: they are the same, or they lead to the same place, each in a store without a link on
its way. -/
def Files.Path.SameFile (path path' : Path) : Prop :=
  path = path' ∨ ∃ (store store' : Store) (at_ : Location), store.IsDirect path ∧ store.resolve path = .ok at_ ∧
    store'.IsDirect path' ∧ store'.resolve path' = .ok at_

theorem Files.Path.SameFile.eq_name {dir dir' : Path} {name name' : String} (hname : IsName name)
    (hname' : IsName name') (h : (dir.join name).SameFile (dir'.join name')) : name = name' := by
  rcases h with hpath | ⟨store, store', at_, hdirect, hresolve, hdirect', hresolve'⟩
  · have hlast : (dir.join name).fileName? = some name.toList := fileName?_join_of_isName hname
    rw [hpath, fileName?_join_of_isName hname'] at hlast
    exact (String.toList_inj.1 (Option.some.inj hlast)).symm
  · have hlast := hdirect.getLast?_of_join hname hresolve
    rw [hdirect'.getLast?_of_join hname' hresolve'] at hlast
    exact (Option.some.inj hlast).symm

variable {settings settings' : Settings}

/-- A file of a stem is a file of no other stem. -/
theorem Settings.eq_of_sameFile {stem stem' : String} {file file' : Path × String}
    (hfile : file ∈ settings.fileNames stem) (hfile' : file' ∈ settings'.fileNames stem') (hname : IsName file.2)
    (hname' : IsName file'.2) (h : (file.1.join file.2).SameFile (file'.1.join file'.2)) : stem = stem' := by
  obtain ⟨ending, hending, heq⟩ := mem_fileNames hfile
  obtain ⟨ending', hending', heq'⟩ := mem_fileNames hfile'
  have hsame := h.eq_name hname hname'
  rw [heq, heq'] at hsame
  exact (eq_of_append_ending hending hending' hsame).1

namespace Outline

open Analysis Analysis.Bandwidth

variable {outline outline' : Outline} {world : World} {runs : List RunDir} {store : Store}
  {file : Path × List UInt8} {path path' : Path}

/-- A run has written the file: it has made out its sheets, and the file is among those of the steps that it has
performed, whether or not it has performed all of them. -/
def HasWritten (outline : Outline) (world : World) (runs : List RunDir) (settings : Settings) (store : Store)
    (file : Path × List UInt8) : Prop :=
  ∃ made sheets done rest left, (Step.dir settings.outputDir).perform world store = (.ok (), made) ∧
    outline.sheets runs settings made = .ok sheets ∧ sheets.flatMap (Sheet.steps world settings) = done ++ rest ∧
    perform world done made = (.ok (), left) ∧ file ∈ done.filterMap Step.written?

theorem HasWritten.mem_files (h : outline ∈ all) (hwritten : outline.HasWritten world runs settings store file) :
    file.1 ∈ settings.files (outline.stems settings) := by
  obtain ⟨made, sheets, done, rest, left, -, hsheets, hsteps, -, hfile⟩ := hwritten
  obtain ⟨step, hstep, hwrites⟩ := List.mem_filterMap.1 hfile
  have htarget : step.target? = some file.1 := by
    cases step with
    | dir path => cases hwrites
    | file path content =>
      cases content with
      | none => cases hwrites
      | some content =>
        cases hwrites
        rfl
  rw [← filterMap_target?_sheets h hsheets, hsteps]
  exact List.mem_filterMap.2 ⟨step, List.mem_append_left rest hstep, htarget⟩

/-- A run that succeeds has written all of its files. -/
theorem exists_hasWritten_of_run (h : outline ∈ all) {session : Session} {paths : List Path} {left : Store}
    (hrun : (outline.analysis.run runs settings).outcome session = (.ok paths, left))
    (hpath : path ∈ settings.files (outline.stems settings)) :
    ∃ content, outline.HasWritten .actual runs settings session.store (path, content) := by
  obtain ⟨made, sheets, hmade, hsheets, -, hperform⟩ := (outcome_run_eq_ok_iff h).1 hrun
  rw [← filterMap_target?_sheets h hsheets] at hpath
  obtain ⟨step, hstep, htarget⟩ := List.mem_filterMap.1 hpath
  obtain ⟨before, after, hdone, -⟩ := exists_step_of_perform hperform hstep
  rw [(wrote_of_step hdone).2] at htarget
  obtain ⟨⟨path, content⟩, hcontent, rfl⟩ := Option.map_eq_some_iff.1 htarget
  exact ⟨content, made, sheets, _, [], left, hmade, hsheets, (List.append_nil _).symm, hperform,
    List.mem_filterMap.2 ⟨step, hstep, hcontent⟩⟩

/-- The files are of the same chart: of the same analysis and, for the bandwidth, of the same phase with the windows that
it depends on. -/
inductive SharesChart (settings settings' : Settings) (path path' : Path) : Outline → Outline → Prop
  | startup (hpath : path ∈ settings.files [startupStem settings.bandwidth.windows])
      (hpath' : path' ∈ settings'.files [startupStem settings'.bandwidth.windows])
      (hstartup : settings.bandwidth.windows.startup = settings'.bandwidth.windows.startup) :
      SharesChart settings settings' path path' bandwidth bandwidth
  | after (hpath : path ∈ settings.files [afterStem settings.bandwidth.windows])
      (hpath' : path' ∈ settings'.files [afterStem settings'.bandwidth.windows])
      (hwindows : settings.bandwidth.windows = settings'.bandwidth.windows) :
      SharesChart settings settings' path path' bandwidth bandwidth
  | cacheMisses : SharesChart settings settings' path path' cacheMisses cacheMisses
  | queryCacheMisses : SharesChart settings settings' path path' queryCacheMisses queryCacheMisses
  | cacheElements : SharesChart settings settings' path path' cacheElements cacheElements

/-- The name of a file of the bandwidth says so behind the name of the program. -/
theorem getElem?_of_mem_stems {stem : String} (hstem : stem ∈ bandwidth.stems settings) :
    stem.toList[11]? = some 'b' := by
  simp only [bandwidth, List.mem_cons, List.not_mem_nil, or_false] at hstem
  rcases hstem with rfl | rfl
  · rw [startupStem_eq, String.toList_append]
    rfl
  · rw [afterStem_eq, String.toList_append, String.toList_append, String.toList_append]
    rfl

/-- The analyses have no stem in common. -/
def StemsApart (outline outline' : Outline) : Prop := ∀ (settings settings' : Settings) (stem : String),
  stem ∈ outline.stems settings → stem ∉ outline'.stems settings'

instance : Std.Symm StemsApart where
  symm _ _ h settings settings' stem hstem hstem' := h settings' settings stem hstem' hstem

theorem pairwise_stemsApart : all.Pairwise StemsApart := by
  have hbandwidth {name : String} (hname : name.toList[11]? ≠ some 'b') (settings : Settings) (stem : String)
      (hstem : stem ∈ bandwidth.stems settings) : stem ∉ [name] := fun hmem =>
    hname (List.mem_singleton.1 hmem ▸ getElem?_of_mem_stems hstem)
  have hcache {name name' : String} (hne : name ≠ name') (stem : String) (hstem : stem ∈ [name]) : stem ∉ [name'] :=
    fun hmem => hne ((List.mem_singleton.1 hstem).symm.trans (List.mem_singleton.1 hmem))
  refine .cons ?_ (.cons ?_ (.cons ?_ (.cons (by simp) .nil)))
  · simp only [List.forall_mem_cons, List.not_mem_nil, false_imp_iff, implies_true, and_true]
    exact ⟨fun settings _ => hbandwidth (by decide) settings, fun settings _ => hbandwidth (by decide) settings,
      fun settings _ => hbandwidth (by decide) settings⟩
  · simp only [List.forall_mem_cons, List.not_mem_nil, false_imp_iff, implies_true, and_true]
    exact ⟨fun _ _ => hcache (by decide), fun _ _ => hcache (by decide)⟩
  · simp only [List.forall_mem_cons, List.not_mem_nil, false_imp_iff, implies_true, and_true]
    exact fun _ _ => hcache (by decide)

theorem eq_of_mem_stems (h : outline ∈ all) (h' : outline' ∈ all) {stem : String}
    (hstem : stem ∈ outline.stems settings) (hstem' : stem ∈ outline'.stems settings') : outline = outline' := by
  by_contra hne
  exact pairwise_stemsApart.forall h h' hne settings settings' stem hstem hstem'

theorem sharesChart_of_mem_files (h : outline ∈ all) (h' : outline' ∈ all)
    (hpath : path ∈ settings.files (outline.stems settings))
    (hpath' : path' ∈ settings'.files (outline'.stems settings')) (hsame : path.SameFile path') :
    SharesChart settings settings' path path' outline outline' := by
  obtain ⟨stem, hstem, file, hfile, rfl⟩ := mem_files hpath
  obtain ⟨stem', hstem', file', hfile', rfl⟩ := mem_files hpath'
  obtain rfl := Settings.eq_of_sameFile hfile hfile' (isName_of_mem_fileNames h hstem hfile)
    (isName_of_mem_fileNames h' hstem' hfile') hsame
  obtain rfl := eq_of_mem_stems h h' hstem hstem'
  have hself (settings : Settings) {file : Path × String} (hfile : file ∈ settings.fileNames stem) :
      file.1.join file.2 ∈ settings.files [stem] :=
    List.mem_map_of_mem (List.mem_flatMap.2 ⟨stem, List.mem_singleton_self stem, hfile⟩)
  rcases mem_all_iff.1 h with rfl | rfl | rfl | rfl
  · simp only [bandwidth, List.mem_cons, List.not_mem_nil, or_false] at hstem hstem'
    rcases hstem with rfl | rfl <;> rcases hstem' with heq | heq
    · exact .startup (hself _ hfile) (heq ▸ hself _ hfile') (startup_eq_of_startupStem_eq heq)
    · exact absurd heq (startupStem_ne_afterStem _ _)
    · exact absurd heq.symm (startupStem_ne_afterStem _ _)
    · exact .after (hself _ hfile) (heq ▸ hself _ hfile') (afterStem_injective heq)
  · exact .cacheMisses
  · exact .queryCacheMisses
  · exact .cacheElements

theorem pairwise_files_apart (h : outline ∈ all) (settings : Settings) :
    (settings.files (outline.stems settings)).Pairwise fun path path' => ¬ path.SameFile path' := by
  rw [Settings.files, List.pairwise_map]
  have hnames : (((outline.stems settings).flatMap settings.fileNames).map (·.2)).Nodup :=
    nodup_names (nodup_stems h settings)
  have hname (file : Path × String) (hfile : file ∈ (outline.stems settings).flatMap settings.fileNames) :
      IsName file.2 := by
    obtain ⟨stem, hstem, hmem⟩ := List.mem_flatMap.1 hfile
    exact isName_of_mem_fileNames h hstem hmem
  exact (List.pairwise_map.1 hnames).imp_of_mem fun {file file'} hfile hfile' hne hsame =>
    hne (hsame.eq_name (hname file hfile) (hname file' hfile'))

/-- A file that two runs have written, whatever they have read and whether or not they have gone through, is of the same
chart in both. In one run all files are different. -/
theorem sharesChart_of_hasWritten :
    (∀ outline ∈ all, ∀ outline' ∈ all, ∀ (world world' : World) (runs runs' : List RunDir)
      (settings settings' : Settings) (store store' : Store) (file file' : Path × List UInt8),
      outline.HasWritten world runs settings store file → outline'.HasWritten world' runs' settings' store' file' →
        file.1.SameFile file'.1 → SharesChart settings settings' file.1 file'.1 outline outline') ∧
    (∀ outline ∈ all, ∀ settings : Settings,
      (settings.files (outline.stems settings)).Pairwise fun path path' => ¬ path.SameFile path') ∧
    Function.Injective afterStem :=
  ⟨fun _ h _ h' _ _ _ _ _ _ _ _ _ _ hwritten hwritten' hsame =>
    sharesChart_of_mem_files h h' (hwritten.mem_files h) (hwritten'.mem_files h') hsame,
    fun _ h settings => pairwise_files_apart h settings, afterStem_injective⟩

/-- Runs whose second phases differ, by a sign that stands in a name, write the same chart of the first phase. -/
theorem sharesChart_of_hasWritten_phases : ∃ content content',
    bandwidth.HasWritten .actual [lazyRun, nonLazyRun] { outputDir := "" } phases
      ("swiftlinks-bandwidth-startup-30000.svg", content) ∧
    bandwidth.HasWritten .actual [lazyRun, nonLazyRun]
      { outputDir := "", bandwidth := { windows := ⟨30000, -60000⟩ } } phases
      ("swiftlinks-bandwidth-startup-30000.svg", content') ∧
    SharesChart { outputDir := "" } { outputDir := "", bandwidth := { windows := ⟨30000, -60000⟩ } }
      "swiftlinks-bandwidth-startup-30000.svg" "swiftlinks-bandwidth-startup-30000.svg" bandwidth bandwidth := by
  have hmem : bandwidth ∈ all := by simp [all]
  have hwrites (settings : Settings) (hdir : settings.outputDir = "")
      (hsize : settings.width = 640 ∧ settings.height = 480)
      (hstartup : IsBeside (startupStem settings.bandwidth.windows))
      (hafter : IsBeside (afterStem settings.bandwidth.windows))
      (hfile : "swiftlinks-bandwidth-startup-30000.svg" ∈ settings.files (bandwidth.stems settings)) : ∃ content,
      bandwidth.HasWritten .actual [lazyRun, nonLazyRun] settings phases
        ("swiftlinks-bandwidth-startup-30000.svg", content) := by
    obtain ⟨paths, left, hrun⟩ := exists_run_phases settings (.inl rfl) hdir hsize hstartup hafter
    have houtcome : (bandwidth.analysis.run [lazyRun, nonLazyRun] settings).outcome { store := phases } =
        (.ok paths, left.store) := by
      rw [Command.outcome]
      exact congrArg (fun result => (result.1, result.2.store)) hrun
    exact exists_hasWritten_of_run hmem houtcome hfile
  obtain ⟨content, hwritten⟩ := hwrites { outputDir := "" } rfl ⟨rfl, rfl⟩ isBeside_default.1 isBeside_default.2
    (by decide)
  obtain ⟨content', hwritten'⟩ := hwrites { outputDir := "", bandwidth := { windows := ⟨30000, -60000⟩ } } rfl
    ⟨rfl, rfl⟩ ⟨by decide, by decide⟩ ⟨by decide, by decide⟩ (by decide)
  exact ⟨content, content', hwritten, hwritten', sharesChart_of_hasWritten.1 _ hmem _ hmem _ _ _ _ _ _ _ _ _ _
    hwritten hwritten' (.inl rfl)⟩

end Outline

end RunCharts
