import RunCharts.Proofs.Analysis.TwoPhases
import RunCharts.Proofs.Log.ThreadMark
import RunCharts.Settings.Read

/-! # What is divided by

Bytes are shared out among threads, sums of samples are divided by their number, the bytes of replies by the number of
replies, and rates are taken over the startup window. The first three are never zero: what a division by zero would
give can be anything (`Divides`) without a change to the program (`eq_of_divides`). The window comes from the settings
as it is. A window of zero is accepted, and all that is shown has then been divided by zero (`shown_of_zero_window`). -/

namespace RunCharts

open Files Command

/-- Divides by integers as `/` does, and by zero in any way. -/
def Divides (div : Float → Int → Float) : Prop := ∀ a n, n ≠ 0 → div a n = a / Float.ofInt n

variable {div : Float → Int → Float}

/-! ### The divisions, each with a division of its own -/

def Log.Bandwidth.Tally.perThreadBy (div : Float → Int → Float) (tally : Tally) (threads : Nat) : Sample where
  startup := div (Float.ofInt tally.startup) threads
  after := div (Float.ofInt tally.after) threads

def readClientLogBy (div : Float → Int → Float) (windows : Log.Bandwidth.Windows) (path : Path) :
    Command Log.Bandwidth.Sample := do
  let threads ← ofExcept (threadCount path)
  let log ← readFile path
  ofExcept (((Log.Bandwidth.tally windows log).map (·.perThreadBy div threads)).mapError (Fault.ofRefusal path))

def Summary.ofBy? (div : Float → Int → Float) (samples : List Float) : Option Summary :=
  if samples.isEmpty then none
  else
    let mean := div (total samples) samples.length
    let variance := div (total (samples.map fun x => (x - mean) * (x - mean))) samples.length
    some ⟨mean, variance.sqrt⟩

def Log.ReplySizes.averageBy? (div : Float → Int → Float) (sizes : ReplySizes) : Option Float :=
  if sizes.replies = 0 then none else some (div (Float.ofInt sizes.total) sizes.replies)

def Analysis.Bandwidth.ratesBy (div : Float → Int → Float) (settings : Settings) (groups : List SampleGroup) :
    List SampleGroup :=
  groups.map (SampleGroup.map (div · settings.bandwidth.windows.startup))

/-! ### No divisor is zero but the window -/

theorem Log.threadCount_ne_zero {name : List Char} {threads : Nat} (h : Log.threadCount name = .ok threads) :
    threads ≠ 0 := by
  cases Log.threadCount_eq_iff.1 h with
  | count _ hcounts =>
    have := hcounts.bounds
    omega

theorem threadCount_ne_zero {path : Path} {threads : Nat} (h : threadCount path = .ok threads) : threads ≠ 0 := by
  unfold threadCount at h
  split at h
  · cases h
  · exact Log.threadCount_ne_zero (Except.mapError_eq_ok_iff.1 h)

theorem readClientLogBy_eq (hdiv : Divides div) (windows : Log.Bandwidth.Windows) (path : Path) :
    readClientLogBy div windows path = readClientLog windows path := by
  unfold readClientLogBy readClientLog
  cases hthreads : threadCount path with
  | error fault => rfl
  | ok threads =>
    have hne : (threads : Int) ≠ 0 := Int.natCast_ne_zero.2 (threadCount_ne_zero hthreads)
    have hshare (tally : Log.Bandwidth.Tally) : tally.perThreadBy div threads = tally.perThread threads := by
      rw [Log.Bandwidth.Tally.perThreadBy, hdiv _ _ hne, hdiv _ _ hne]
      rfl
    simp only [Command.ofExcept, pure_bind, hshare, Log.Bandwidth.read]

theorem Summary.ofBy?_eq (hdiv : Divides div) (samples : List Float) : Summary.ofBy? div samples = Summary.of? samples := by
  unfold Summary.ofBy? Summary.of?
  split
  · rfl
  · rename_i hne
    have hcount : (samples.length : Int) ≠ 0 := by
      rw [List.isEmpty_iff_length_eq_zero] at hne
      omega
    simp only [hdiv _ _ hcount]
    rfl

theorem Log.ReplySizes.averageBy?_eq (hdiv : Divides div) (sizes : Log.ReplySizes) :
    sizes.averageBy? div = sizes.average? := by
  unfold Log.ReplySizes.averageBy? Log.ReplySizes.average?
  split
  · rfl
  · rename_i hne
    rw [hdiv _ _ (Int.natCast_ne_zero.2 hne)]
    rfl

/-- What a division by zero gives has no influence on samples, summaries and averages, and on rates only if the startup
window is zero. -/
theorem eq_of_divides (hdiv : Divides div) :
    (∀ windows path, readClientLogBy div windows path = readClientLog windows path) ∧
    (∀ samples, Summary.ofBy? div samples = Summary.of? samples) ∧
    (∀ sizes, Log.ReplySizes.averageBy? div sizes = sizes.average?) ∧
    ∀ (settings : Settings) groups, settings.bandwidth.windows.startup ≠ 0 →
      Analysis.Bandwidth.ratesBy div settings groups = Analysis.Bandwidth.ratesOf settings groups := by
  refine ⟨readClientLogBy_eq hdiv, Summary.ofBy?_eq hdiv, Log.ReplySizes.averageBy?_eq hdiv,
    fun settings groups hwindow => ?_⟩
  rw [Analysis.Bandwidth.ratesBy, Analysis.Bandwidth.ratesOf]
  simp only [hdiv _ _ hwindow]

/-- A division that gives zero where the divisor is zero. -/
def divideOrZero (a : Float) (n : Int) : Float := if n = 0 then 0.0 else a / Float.ofInt n

theorem eq_of_divides_orZero : Divides divideOrZero ∧
    Log.ReplySizes.averageBy? divideOrZero ⟨2, 5⟩ = some 2.5 ∧
      Analysis.Bandwidth.ratesBy divideOrZero {} [⟨"a", "a", [60000.0]⟩] = [⟨"a", "a", [2.0]⟩] := by
  have hdiv : Divides divideOrZero := fun a n hn => if_neg hn
  obtain ⟨-, -, haverage, hrates⟩ := eq_of_divides hdiv
  refine ⟨hdiv, ?_, ?_⟩
  · rw [haverage]
    decide +kernel
  · rw [hrates {} _ (by decide)]
    have hrate : (60000.0 : Float) / Float.ofInt 30000 = 2.0 := by decide +kernel
    exact congrArg (fun rate => [(⟨"a", "a", [rate]⟩ : SampleGroup)]) hrate

/-! ### A window of zero -/

namespace Analysis.Bandwidth

theorem shown_of_zero_window : ∃ settings : Settings,
    Settings.ofText "output_dir: ''\nbandwidth:\n  startup_window: 0\n".toList = .ok settings ∧
      ∃ paths left base mid readings view, (bandwidth.run [lazyRun, nonLazyRun] settings).runOn { store := phases } =
          (.ok paths, left) ∧
        Shown [lazyRun, nonLazyRun] settings { store := phases } left paths base mid readings view ∧
        ∀ phase, List.Forall₂ (fun reading entry => reading.logs ≠ [] ∧
          entry.samples = reading.logs.map fun log => bytesOf phase log.2 / Float.ofInt 0) readings (view phase).entries := by
  have hread : (Settings.ofText "output_dir: ''\nbandwidth:\n  startup_window: 0\n".toList).toOption.map
      (fun settings => (settings.outputDir, settings.width, settings.height, settings.bandwidth.windows)) =
        some ("", 640, 480, ⟨0, 60000⟩) := by decide +kernel
  cases hsettings : Settings.ofText "output_dir: ''\nbandwidth:\n  startup_window: 0\n".toList with
  | error error =>
    rw [hsettings] at hread
    cases hread
  | ok settings =>
    rw [hsettings] at hread
    obtain ⟨hdir, hwidth, hheight, hwindows⟩ : settings.outputDir = "" ∧ settings.width = 640 ∧
        settings.height = 480 ∧ settings.bandwidth.windows = ⟨0, 60000⟩ := by
      simpa [Except.toOption] using hread
    have hstartup : IsBeside (startupStem settings.bandwidth.windows) := by
      rw [hwindows]
      exact ⟨by decide, by decide⟩
    have hafter : IsBeside (afterStem settings.bandwidth.windows) := by
      rw [hwindows]
      exact ⟨by decide, by decide⟩
    obtain ⟨paths, left, hrun⟩ := exists_run_phases settings (.inl rfl) hdir ⟨hwidth, hheight⟩ hstartup hafter
    obtain ⟨base, mid, readings, view, hshown⟩ := exists_shown hrun
    refine ⟨settings, rfl, paths, left, base, mid, readings, view, hrun, hshown, fun phase => ?_⟩
    have heach : List.Forall₂ (EntryOf settings phase) readings (view phase).entries := by
      cases phase
      · exact hshown.startup.each
      · exact hshown.after.each
    refine heach.imp fun reading entry hentry => ⟨fun hnil => ?_, ?_⟩
    · have hsummary := hentry.summary
      rw [hentry.samples, hnil] at hsummary
      cases hsummary
    · rw [hentry.samples, hwindows]

end Analysis.Bandwidth

end RunCharts
