import RunCharts.Proofs.Analysis.Plan

/-! # The four analyses

What the analyses that draw charts have in common (`Outline`): each reads files of its runs, demands something
of their variants, and makes out sheets that it then writes (`Outline.plans`). -/

namespace RunCharts

open Files Command

/-- An analysis, with the files that it reads, what it reads them as, what it demands of the variants of
directories, the sheets that it makes out, and the stems of their files. -/
structure Outline where
  Value : Type
  analysis : Analysis
  query : FileQuery
  reader : Settings → Reader Value
  /-- The directories have the variants that the chart needs. -/
  Matched : List Path → Prop
  /-- What is wrong with directories that do not. -/
  unmatched? : List Path → Option Fault
  sheets : List RunDir → Settings → Store → Except Failure (List Sheet)
  stems : Settings → List String

namespace Outline

open Analysis Analysis.Cache Analysis.Bandwidth

def bandwidth : Outline where
  Value := Log.Bandwidth.Sample
  analysis := Analysis.bandwidth
  query := clientLogs
  reader settings := sample settings.bandwidth.windows
  Matched dirs := 0 < Classifier.containsNonLazy.count dirs .lazy ∧ 0 < Classifier.containsNonLazy.count dirs .nonLazy
  unmatched? := Classifier.containsNonLazy.missing?
  sheets := bandwidthSheets
  stems settings := [startupStem settings.bandwidth.windows, afterStem settings.bandwidth.windows]

def cacheMisses : Outline where
  Value := Float
  analysis := Analysis.cacheMisses
  query := scoutLogs "miss-no-object-count"
  reader settings := misses settings.cache.missStart
  Matched dirs := Classifier.containsLazy.count dirs .lazy = Classifier.containsLazy.count dirs .nonLazy
  unmatched? := Classifier.containsLazy.unpaired?
  sheets := cacheMissesSheets
  stems _ := ["swiftlinks-cache-misses"]

def queryCacheMisses : Outline where
  Value := Float
  analysis := Analysis.queryCacheMisses
  query := scoutLogs "miss-no-object-count"
  reader settings := misses settings.cache.missStart
  Matched _ := True
  unmatched? _ := none
  sheets := queryCacheMissesSheets
  stems _ := ["swiftlinks-cache-misses-query-cache"]

def cacheElements : Outline where
  Value := Float
  analysis := Analysis.cacheElements
  query := scoutLogs "size-elements-poll"
  reader _ := elements
  Matched dirs := Classifier.containsLazy.count dirs .lazy = Classifier.containsLazy.count dirs .nonLazy
  unmatched? := Classifier.containsLazy.unpaired?
  sheets := cacheElementsSheets
  stems _ := ["swiftlinks-cache-elements"]

/-- The analyses that draw charts. -/
def all : List Outline := [bandwidth, cacheMisses, queryCacheMisses, cacheElements]

theorem mem_all_iff {outline : Outline} : outline ∈ all ↔
    outline = bandwidth ∨ outline = cacheMisses ∨ outline = queryCacheMisses ∨ outline = cacheElements := by
  simp [all]

theorem plans {outline : Outline} (h : outline ∈ all) (runs : List RunDir) (settings : Settings) :
    (outline.analysis.charts runs settings).Plans settings (outline.sheets runs settings) := by
  rcases mem_all_iff.1 h with rfl | rfl | rfl | rfl
  · exact plans_bandwidth runs settings
  · exact plans_cacheMisses runs settings
  · exact plans_queryCacheMisses runs settings
  · exact plans_cacheElements runs settings

theorem stem_phaseSheet {stem : String} {top : Float} {rates : List SampleGroup} {sheet : Sheet}
    (h : phaseSheet stem top rates = .ok sheet) : sheet.stem = stem := by
  obtain ⟨_, -, h⟩ := Except.bind_eq_ok_iff.1 h
  obtain ⟨_, -, h⟩ := Except.bind_eq_ok_iff.1 h
  obtain ⟨_, -, h⟩ := Except.bind_eq_ok_iff.1 h
  cases h
  rfl

theorem map_stem {outline : Outline} (h : outline ∈ all) {runs : List RunDir} {settings : Settings} {store : Store}
    {sheets : List Sheet} (hsheets : outline.sheets runs settings store = .ok sheets) :
    sheets.map (·.stem) = outline.stems settings := by
  rcases mem_all_iff.1 h with rfl | rfl | rfl | rfl
  · obtain ⟨_, -, h⟩ := Except.bind_eq_ok_iff.1 hsheets
    obtain ⟨startup, hstartup, h⟩ := Except.bind_eq_ok_iff.1 h
    obtain ⟨after, hafter, h⟩ := Except.bind_eq_ok_iff.1 h
    cases h
    rw [List.map_cons, List.map_cons, stem_phaseSheet hstartup, stem_phaseSheet hafter]
    rfl
  · obtain ⟨_, -, h⟩ := Except.bind_eq_ok_iff.1 hsheets
    obtain ⟨_, -, h⟩ := Except.bind_eq_ok_iff.1 h
    obtain ⟨_, -, h⟩ := Except.bind_eq_ok_iff.1 h
    cases h
    rfl
  · obtain ⟨_, -, h⟩ := Except.bind_eq_ok_iff.1 hsheets
    obtain ⟨_, -, h⟩ := Except.bind_eq_ok_iff.1 h
    cases h
    rfl
  · obtain ⟨_, -, h⟩ := Except.bind_eq_ok_iff.1 hsheets
    obtain ⟨_, -, h⟩ := Except.bind_eq_ok_iff.1 h
    obtain ⟨_, -, h⟩ := Except.bind_eq_ok_iff.1 h
    cases h
    rfl

end Outline

end RunCharts
