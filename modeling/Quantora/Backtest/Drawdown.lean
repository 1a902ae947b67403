import Mathlib.Tactic.FieldSimp
import Mathlib.Tactic.Linarith
import Mathlib.Tactic.NormNum
import Quantora.Backtest.Metrics
import Quantora.Framework.Peaks

/-! # Drawdown means what it says

    The drawdown of `metrics.py` comes from a running maximum and a counter. Over
    a positive curve both are what a reader takes them for.

    * `declines` — the value at every bar against every earlier one.
    * `Underwater`, `Spell` — the bars below an earlier peak, and blocks of them.
    * `exists_max_drawdown` — the worst decline.
    * `drawdown_exact` — depth and duration. -/

namespace Quantora

namespace metrics

/-- The value at a bar against the value at an earlier bar, or at itself. -/
def declines (equity : List ℚ) : Set ℚ :=
  {d | ∃ (i j : ℕ) (a b : ℚ), i ≤ j ∧ equity[i]? = some a ∧ equity[j]? = some b ∧ d = b / a - 1}

/-- No value is below an earlier one. -/
def NeverFalls (equity : List ℚ) : Prop :=
  ∀ (i j : ℕ) (a b : ℚ), i ≤ j → equity[i]? = some a → equity[j]? = some b → a ≤ b

/-- The value at bar `j` is below an earlier one. -/
def Underwater (equity : List ℚ) (j : ℕ) : Prop :=
  ∃ (i : ℕ) (a b : ℚ), i < j ∧ equity[i]? = some a ∧ equity[j]? = some b ∧ b < a

/-- The `n` bars from `start` on are there and under water. -/
structure Spell (equity : List ℚ) (start n : ℕ) : Prop where
  fits : start + n ≤ equity.length
  underwater : ∀ j, start ≤ j → j < start + n → Underwater equity j

section Curve

variable {equity : List ℚ}

@[simp] theorem length_cummax (equity : List ℚ) : (cummax equity).length = equity.length :=
  Peaks.length_running_max equity

/-- The peak at a bar is the greatest value up to it. -/
theorem isGreatest_cummax {j : ℕ} {peak : ℚ} (h : (cummax equity)[j]? = some peak) :
    IsGreatest {x | ∃ i ≤ j, equity[i]? = some x} peak :=
  Peaks.isGreatest_running_max h

theorem cummax_pos (hpos : ∀ e ∈ equity, 0 < e) {j : ℕ} {peak : ℚ}
    (h : (cummax equity)[j]? = some peak) : 0 < peak := by
  obtain ⟨⟨i, -, hi⟩, -⟩ := isGreatest_cummax h
  exact hpos peak (List.mem_of_getElem? hi)

/-- The drawdowns as numbers. -/
def depths (equity : List ℚ) : List ℚ :=
  List.zipWith (fun value peak => value / peak - 1) equity (cummax equity)

/-- A positive curve divides by positive peaks. -/
theorem drawdown_curve_eq (hpos : ∀ e ∈ equity, 0 < e) :
    drawdown_curve equity = (depths equity).map Python.Float.num := by
  rw [drawdown_curve, depths, List.map_zipWith]
  refine List.ext_getElem? fun j => ?_
  rw [List.getElem?_zipWith, List.getElem?_zipWith]
  cases hvalue : equity[j]? with
  | none => rfl
  | some value =>
    cases hpeak : (cummax equity)[j]? with
    | none => rfl
    | some peak =>
      have hne : peak ≠ 0 := (cummax_pos hpos hpeak).ne'
      simp [Python.Float.div, Python.Float.sub, Python.Float.neg, Python.Float.add, hne,
        sub_eq_add_neg]

theorem mem_depths {d : ℚ} :
    d ∈ depths equity ↔ ∃ (j : ℕ) (value peak : ℚ), equity[j]? = some value ∧
      (cummax equity)[j]? = some peak ∧ d = value / peak - 1 := by
  rw [depths, List.mem_iff_getElem?]
  refine exists_congr fun j => ?_
  rw [List.getElem?_zipWith]
  cases equity[j]? with
  | none => simp
  | some value =>
    cases (cummax equity)[j]? with
    | none => simp
    | some peak => simp [eq_comm]

/-! ## Depth -/

theorem exists_max_drawdown (hne : equity ≠ []) (hpos : ∀ e ∈ equity, 0 < e) :
    ∃ m, max_drawdown equity = .num m ∧ IsLeast (declines equity) m := by
  have hdepths : depths equity ≠ [] := by
    rw [← List.length_pos_iff, depths, List.length_zipWith, length_cummax, Nat.min_self]
    exact List.length_pos_iff.mpr hne
  obtain ⟨m, hm, hmem, hlower⟩ := Python.Float.exists_minimum hdepths
  refine ⟨m, ?_, ?_, ?_⟩
  · rw [max_drawdown, if_neg (by simpa using hne), drawdown_curve_eq hpos, hm]
  · -- The worst drawdown is from its peak, which is an earlier value.
    obtain ⟨j, value, peak, hvalue, hpeak, rfl⟩ := mem_depths.mp hmem
    obtain ⟨⟨i, hij, hi⟩, -⟩ := isGreatest_cummax hpeak
    exact ⟨i, j, peak, value, hij, hi, hvalue, rfl⟩
  · -- A decline from an earlier value is no worse than the one from the peak.
    rintro d ⟨i, j, a, b, hij, ha, hb, rfl⟩
    obtain ⟨peak, hpeak⟩ : ∃ peak, (cummax equity)[j]? = some peak := by
      have hj := (List.getElem?_eq_some_iff.mp hb).1
      exact ⟨_, List.getElem?_eq_getElem (by rwa [length_cummax])⟩
    have hdepth : m ≤ b / peak - 1 := hlower (mem_depths.mpr ⟨j, b, peak, hb, hpeak, rfl⟩)
    have hle : a ≤ peak := (isGreatest_cummax hpeak).2 ⟨i, hij, ha⟩
    have hdiv : b / peak ≤ b / a :=
      div_le_div_of_nonneg_left (hpos b (List.mem_of_getElem? hb)).le
        (hpos a (List.mem_of_getElem? ha)) hle
    linarith

/-- Positive values never lose everything. -/
theorem neg_one_lt_decline (hpos : ∀ e ∈ equity, 0 < e) {d : ℚ} (hd : d ∈ declines equity) :
    -1 < d := by
  obtain ⟨i, j, a, b, -, ha, hb, rfl⟩ := hd
  have hratio : 0 < b / a :=
    div_pos (hpos b (List.mem_of_getElem? hb)) (hpos a (List.mem_of_getElem? ha))
  linarith

/-- The first bar against itself. -/
theorem zero_mem_declines (hne : equity ≠ []) (hpos : ∀ e ∈ equity, 0 < e) :
    (0 : ℚ) ∈ declines equity := by
  cases equity with
  | nil => exact absurd rfl hne
  | cons x equity =>
    have hx := hpos x List.mem_cons_self
    exact ⟨0, 0, x, x, le_refl 0, rfl, rfl, by rw [div_self hx.ne', sub_self]⟩

theorem worst_eq_zero_iff (hne : equity ≠ []) (hpos : ∀ e ∈ equity, 0 < e) {m : ℚ}
    (hm : IsLeast (declines equity) m) : m = 0 ↔ NeverFalls equity := by
  constructor
  · rintro rfl i j a b hij ha hb
    have hle : (0 : ℚ) ≤ b / a - 1 := hm.2 ⟨i, j, a, b, hij, ha, hb, rfl⟩
    exact (one_le_div (hpos a (List.mem_of_getElem? ha))).mp (by linarith)
  · intro hnever
    refine le_antisymm (hm.2 (zero_mem_declines hne hpos)) ?_
    obtain ⟨i, j, a, b, hij, ha, hb, rfl⟩ := hm.1
    have hratio := (one_le_div (hpos a (List.mem_of_getElem? ha))).mpr (hnever i j a b hij ha hb)
    linarith

/-! ## Duration -/

theorem underwater_flag_iff {j : ℕ} :
    (underwater equity)[j]? = some true ↔ Underwater equity j := by
  rw [underwater, List.getElem?_zipWith]
  constructor
  · intro h
    cases hvalue : equity[j]? with
    | none =>
      rw [hvalue] at h
      cases h
    | some value =>
      cases hpeak : (cummax equity)[j]? with
      | none =>
        rw [hvalue, hpeak] at h
        cases h
      | some peak =>
        rw [hvalue, hpeak] at h
        have hlt : value < peak := by simpa using h
        obtain ⟨⟨i, hij, hi⟩, -⟩ := isGreatest_cummax hpeak
        refine ⟨i, peak, value, lt_of_le_of_ne hij ?_, hi, hvalue, hlt⟩
        -- A bar is not below itself.
        rintro rfl
        exact hlt.ne (Option.some.inj (hvalue.symm.trans hi))
  · rintro ⟨i, a, b, hij, ha, hb, hlt⟩
    have hj := (List.getElem?_eq_some_iff.mp hb).1
    have hpeak : (cummax equity)[j]? = some _ :=
      List.getElem?_eq_getElem (by rwa [length_cummax])
    have hle := (isGreatest_cummax hpeak).2 ⟨i, hij.le, ha⟩
    rw [hb, hpeak]
    simpa using hlt.trans_le hle

@[simp] theorem length_underwater (equity : List ℚ) :
    (underwater equity).length = equity.length := by
  rw [underwater, List.length_zipWith, length_cummax, Nat.min_self]

theorem block_iff_spell {start n : ℕ} :
    Peaks.Block (underwater equity) start n ↔ Spell equity start n := by
  constructor
  · rintro ⟨hfits, hset⟩
    exact ⟨by rwa [length_underwater] at hfits,
      fun j hj hlt => underwater_flag_iff.mp (hset j hj hlt)⟩
  · rintro ⟨hfits, hunder⟩
    exact ⟨by rwa [length_underwater],
      fun j hj hlt => underwater_flag_iff.mpr (hunder j hj hlt)⟩

theorem isGreatest_duration (hne : equity ≠ []) :
    IsGreatest {n | ∃ start, Spell equity start n} (max_drawdown_duration equity) := by
  have hlongest : IsGreatest {n | ∃ start, Peaks.Block (underwater equity) start n}
      (longest_run (underwater equity)).1 := Peaks.isGreatest_longest_block _
  rw [max_drawdown_duration, if_neg (by simpa using hne)]
  simpa only [block_iff_spell] using hlongest

/-- One bar under water makes a spell. -/
theorem duration_eq_zero_iff {n : ℕ} (h : IsGreatest {n | ∃ start, Spell equity start n} n) :
    n = 0 ↔ ∀ j, ¬ Underwater equity j := by
  constructor
  · rintro rfl j hj
    have hlen : j + 1 ≤ equity.length := by
      obtain ⟨i, a, b, -, -, hb, -⟩ := hj
      exact (List.getElem?_eq_some_iff.mp hb).1
    have hspell : Spell equity j 1 := ⟨hlen, fun k hk hlt => by
      rwa [show k = j by omega]⟩
    exact absurd (h.2 ⟨j, hspell⟩) (by omega)
  · intro hdry
    obtain ⟨start, hspell⟩ := h.1
    by_contra hn
    exact hdry start (hspell.underwater start (le_refl start) (by omega))

theorem neverFalls_iff : NeverFalls equity ↔ ∀ j, ¬ Underwater equity j := by
  constructor
  · rintro hnever j ⟨i, a, b, hij, ha, hb, hlt⟩
    exact (hnever i j a b hij.le ha hb).not_gt hlt
  · intro hdry i j a b hij ha hb
    rcases hij.eq_or_lt with rfl | hij
    · exact (Option.some.inj (ha.symm.trans hb)).le
    · by_contra hlt
      exact hdry j ⟨i, a, b, hij, ha, hb, not_le.mp hlt⟩

end Curve

/-- **Main result**: over a positive curve the maximum drawdown is the worst
    decline from an earlier value, and its duration the longest block of bars
    below an earlier one. -/
theorem drawdown_exact {equity : List ℚ} (hne : equity ≠ []) (hpos : ∀ e ∈ equity, 0 < e) :
    ∃ m : ℚ, max_drawdown equity = .num m ∧ IsLeast (declines equity) m ∧ -1 < m ∧ m ≤ 0 ∧
      (m = 0 ↔ NeverFalls equity) ∧
      IsGreatest {n | ∃ start, Spell equity start n} (max_drawdown_duration equity) ∧
      (max_drawdown_duration equity = 0 ↔ m = 0) := by
  obtain ⟨m, hm, hleast⟩ := exists_max_drawdown hne hpos
  have hduration := isGreatest_duration hne
  have hzero := worst_eq_zero_iff hne hpos hleast
  refine ⟨m, hm, hleast, neg_one_lt_decline hpos hleast.1, hleast.2 (zero_mem_declines hne hpos),
    hzero, hduration, ?_⟩
  rw [duration_eq_zero_iff hduration, hzero, neverFalls_iff]

/-- On a curve with two drawdowns. -/
theorem drawdown_exact_on_five_bars :
    ∃ m : ℚ, max_drawdown [100, 120, 90, 150, 80] = .num m ∧
      IsLeast (declines [100, 120, 90, 150, 80]) m ∧ -1 < m ∧ m ≤ 0 ∧
      (m = 0 ↔ NeverFalls [100, 120, 90, 150, 80]) ∧
      IsGreatest {n | ∃ start, Spell [100, 120, 90, 150, 80] start n}
        (max_drawdown_duration [100, 120, 90, 150, 80]) ∧
      (max_drawdown_duration [100, 120, 90, 150, 80] = 0 ↔ m = 0) :=
  drawdown_exact (by decide) (by decide +kernel)

end metrics

end Quantora
