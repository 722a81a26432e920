import RunCharts.Analysis.Cache
import RunCharts.Proofs.Chart.Sides
import RunCharts.Proofs.Float.AddZero

/-! # Charts of pairs

A chart of pairs shows each entry once, in the series of its variant, and has a tick for every second entry
(`showsPairs_of_pairsChart`). Where the entries come in pairs of one name and both variants, each tick names the bars
to both sides of it (`map_name_entriesOf`). -/

namespace RunCharts

open Analysis.Cache

/-! ### Every second of a list -/

section

variable {α β : Type}

theorem getElem?_everySecond (list : List α) (j : Nat) : (everySecond list)[j]? = list[2 * j]? := by
  induction list using everySecond.induct generalizing j with
  | case1 => rfl
  | case2 a => cases j <;> simp [everySecond]
  | case3 a b rest ih =>
    cases j with
    | zero => rfl
    | succ j =>
      rw [everySecond, List.getElem?_cons_succ, ih, Nat.mul_succ]
      rfl

theorem two_mul_length_everySecond {list : List α} {n : Nat} (h : list.length = 2 * n) :
    (everySecond list).length = n := by
  induction list using everySecond.induct generalizing n with
  | case1 =>
    rw [List.length_nil] at h
    rw [everySecond, List.length_nil]
    omega
  | case2 a =>
    rw [List.length_singleton] at h
    omega
  | case3 a b rest ih =>
    rw [List.length_cons, List.length_cons] at h
    rw [everySecond, List.length_cons, ih (n := n - 1) (by omega)]
    omega

theorem map_everySecond (f : α → β) (list : List α) : (everySecond list).map f = everySecond (list.map f) := by
  induction list using everySecond.induct with
  | case1 => rfl
  | case2 a => rfl
  | case3 a b rest ih =>
    rw [everySecond, List.map_cons, ih]
    rfl

theorem everySecond_sublist (list : List α) : (everySecond list).Sublist list := by
  induction list using everySecond.induct with
  | case1 => exact .slnil
  | case2 a => exact .refl _
  | case3 a b rest ih => exact (ih.cons b).cons_cons a

end

/-! ### The bars and ticks of a chart of pairs -/

/-- The bars of entries, each with the mean and the deviation of its entry. -/
def barsAt (x : Nat → Float) (color : Color) (entries : List GroupSummary) : List (Bar Float) :=
  entries.mapIdx fun j entry => ⟨x j, entry.summary.mean, entry.summary.stdDev, color⟩

/-- The chart shows entries side by side, lazy and non-lazy ones, with a tick for every second one. -/
structure Chart.ShowsPairs (chart : Chart Float) (entries : List GroupSummary) : Prop where
  /-- The bars of a variant are those of its entries in order, from 0 on and from 0.35 on. -/
  series : chart.series =
    [⟨some "Lazy", Variant.lazy.errorColor,
        barsAt (fun j => Float.ofNat j) Variant.lazy.barColor (entriesOf .lazy entries)⟩,
      ⟨some "Non-lazy", Variant.nonLazy.errorColor,
        barsAt (fun j => Float.ofNat j + 0.35) Variant.nonLazy.barColor (entriesOf .nonLazy entries)⟩]
  /-- Every entry is drawn exactly once. -/
  drawn : (entriesOf .lazy entries ++ entriesOf .nonLazy entries).Perm entries
  bars : ∀ series ∈ chart.series, 2 * series.bars.length = entries.length
  ticks_length : 2 * chart.ticks.length = entries.length
  ticks : ∀ j, chart.ticks[j]? = entries[2 * j]?.map fun entry => (Float.ofNat j + 0.35, entry.name)

variable {groups : List SampleGroup} {entries : List GroupSummary} {chart : Chart Float} {yLabel : String}
  {headroom : Float}

theorem length_barsAt (x : Nat → Float) (color : Color) (entries : List GroupSummary) :
    (barsAt x color entries).length = entries.length := List.length_mapIdx

theorem barsOf_zero (color : Color) (entries : List GroupSummary) :
    Chart.barsOf entries 0.0 (fun _ => color) = barsAt (fun j => Float.ofNat j) color entries := by
  rw [Chart.barsOf, barsAt]
  congr 1
  funext j entry
  rw [Binary64.ofNat_add_zero]

theorem map_name_of_ofGroups {classifier : Classifier} (h : GroupSummary.ofGroups classifier groups = .ok entries) :
    groups.map (·.name) = entries.map (·.name) := by
  refine (Except.map_eq_of_mapM h fun group entry hentry => ?_).symm
  exact (GroupSummary.of_eq_ok_iff.1 hentry).1

theorem pairsChart_eq_ok (hentries : GroupSummary.ofGroups .containsLazy groups = .ok entries)
    (hchart : pairsChart groups yLabel headroom = .ok chart) :
    (entriesOf .lazy entries).length = (entriesOf .nonLazy entries).length ∧
      chart.series = [⟨some "Lazy", Variant.lazy.errorColor,
          barsAt (fun j => Float.ofNat j) Variant.lazy.barColor (entriesOf .lazy entries)⟩,
        ⟨some "Non-lazy", Variant.nonLazy.errorColor,
          barsAt (fun j => Float.ofNat j + 0.35) Variant.nonLazy.barColor (entriesOf .nonLazy entries)⟩] ∧
      chart.ticks = ((everySecond (entries.map (·.name))).take (entriesOf .lazy entries).length).mapIdx
        fun j name => (Float.ofNat j + 0.35, name) := by
  rw [pairsChart, VariantSeries.ofGroups_eq, hentries, Except.map, Except.ok_bind, Chart.grouped, map_everySecond,
    map_name_of_ofGroups hentries] at hchart
  dsimp only at hchart
  split at hchart
  · cases hchart
  rename_i heven
  cases hchart
  refine ⟨not_not.1 heven, ?_, rfl⟩
  rw [barsOf_zero]
  rfl

theorem showsPairs_of_pairsChart (hentries : GroupSummary.ofGroups .containsLazy groups = .ok entries)
    (hchart : pairsChart groups yLabel headroom = .ok chart) : chart.ShowsPairs entries := by
  have hvariants := variant_ne_none_of_ofGroups hentries
  have hlength := length_entriesOf hvariants
  obtain ⟨hsame, hseries, hticks⟩ := pairsChart_eq_ok hentries hchart
  have hhalf : (everySecond (entries.map (·.name))).length = (entriesOf .lazy entries).length :=
    two_mul_length_everySecond (by rw [List.length_map]; omega)
  rw [← hhalf, List.take_length] at hticks
  refine ⟨hseries, entriesOf_perm hvariants, ?_, ?_, fun j => ?_⟩
  · rw [hseries, List.forall_mem_cons, List.forall_mem_singleton, length_barsAt, length_barsAt]
    omega
  · rw [hticks, List.length_mapIdx]
    omega
  · rw [hticks, List.getElem?_mapIdx, getElem?_everySecond, List.getElem?_map, Option.map_map]
    rfl

theorem Chart.ShowsPairs.map_ticks (h : chart.ShowsPairs entries) :
    chart.ticks.map (·.2) = everySecond (entries.map (·.name)) := by
  refine List.ext_getElem? fun j => ?_
  rw [getElem?_everySecond, List.getElem?_map, List.getElem?_map, h.ticks, Option.map_map]
  rfl

/-! ### Entries in pairs -/

/-- Entries of one name and both variants, one pair after the other. -/
def ComeInPairs (entries : List GroupSummary) : Prop :=
  ∀ (j : Nat) first second, entries[2 * j]? = some first → entries[2 * j + 1]? = some second →
    first.name = second.name ∧ first.variant ≠ second.variant

theorem ComeInPairs.tail {first second : GroupSummary} {rest : List GroupSummary}
    (h : ComeInPairs (first :: second :: rest)) : ComeInPairs rest := fun j => h (j + 1)

/-- Of each pair there is one entry in either series, with the name of its first one. -/
theorem map_name_entriesOf {n : Nat} (hlength : entries.length = 2 * n)
    (hvariants : ∀ entry ∈ entries, entry.variant ≠ none) (h : ComeInPairs entries) (variant : Variant) :
    (entriesOf variant entries).map (·.name) = everySecond (entries.map (·.name)) := by
  induction entries using everySecond.induct generalizing n with
  | case1 => rfl
  | case2 entry =>
    rw [List.length_singleton] at hlength
    omega
  | case3 first second rest ih =>
    rw [List.length_cons, List.length_cons] at hlength
    rw [List.forall_mem_cons, List.forall_mem_cons] at hvariants
    obtain ⟨hfirst, hsecond, hrest⟩ := hvariants
    obtain ⟨hname, hother⟩ := h 0 first second rfl rfl
    have hmore := ih (n := n - 1) (by omega) hrest h.tail
    rw [List.map_cons, List.map_cons, everySecond, ← hmore]
    obtain ⟨a, ha⟩ := Option.ne_none_iff_exists'.1 hfirst
    obtain ⟨b, hb⟩ := Option.ne_none_iff_exists'.1 hsecond
    -- the two variants are different, so the pair has one entry of each
    have hone : entriesOf variant (first :: second :: rest) =
        (if a = variant then first else second) :: entriesOf variant rest := by
      cases a <;> cases b <;> cases variant <;> simp [entriesOf, ha, hb] at hother ⊢
    rw [hone, List.map_cons]
    split
    · rfl
    · rw [hname]

end RunCharts
