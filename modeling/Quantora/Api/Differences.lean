import Quantora.Api.Experiment

/-! # The differences between two runs

    The verdict of a rerun rests on an empty list of differences. For the
    metrics of the loop an empty list says that both runs have the number or
    neither has it; `trade_count` is compared in a branch of its own, which asks
    for both numbers first.

    * `MetricAgrees`, `TradeCountAgrees` — what it is for two runs to agree.
    * `diffMetrics_eq_nil_iff` — when the list is empty.
    * `differences_exact_iff` — when an empty list says that the runs agree. -/

namespace Quantora

namespace experiment

variable {original rerun : Go.Map}

/-- Neither run has the metric, or both have it within the tolerance. -/
def MetricAgrees (original rerun : Go.Map) (name : String) : Prop :=
  Option.Rel (fun a b => |a - b| ≤ metricTolerance) (asFloat original name) (asFloat rerun name)

/-- Neither run has a trade count, or both have the same. -/
def TradeCountAgrees (original rerun : Go.Map) : Prop :=
  Option.Rel (fun a b => a = b) (asFloat original "trade_count") (asFloat rerun "trade_count")

/-- An empty list of differences says that the runs agree in every number that
    is compared, and it is empty whichever run comes first. -/
def DifferencesExact (original rerun : Go.Map) : Prop :=
  (diffMetrics original rerun = [] ↔
      (∀ name ∈ comparedMetrics, MetricAgrees original rerun name) ∧
        TradeCountAgrees original rerun) ∧
    (diffMetrics original rerun = [] ↔ diffMetrics rerun original = [])

theorem diffMetric_eq_nil_iff {name : String} :
    diffMetric original rerun name = [] ↔ MetricAgrees original rerun name := by
  unfold diffMetric MetricAgrees
  cases asFloat original name with
  | none => cases asFloat rerun name <;> simp
  | some a =>
    cases asFloat rerun name with
    | none => simp
    | some b => simp

/-- A count that only one side has is no difference. -/
theorem diffTradeCount_eq_nil_iff :
    diffTradeCount original rerun = [] ↔
      ∀ a ∈ asFloat original "trade_count", ∀ b ∈ asFloat rerun "trade_count", a = b := by
  unfold diffTradeCount
  cases asFloat original "trade_count" with
  | none => simp
  | some a => cases asFloat rerun "trade_count" <;> simp

theorem tradeCountAgrees_iff :
    TradeCountAgrees original rerun ↔
      ((asFloat original "trade_count").isSome = (asFloat rerun "trade_count").isSome ∧
        ∀ a ∈ asFloat original "trade_count", ∀ b ∈ asFloat rerun "trade_count", a = b) := by
  unfold TradeCountAgrees
  cases asFloat original "trade_count" with
  | none => cases asFloat rerun "trade_count" <;> simp
  | some a => cases asFloat rerun "trade_count" <;> simp

/-- The list is empty when the metrics of the loop agree and two counts that are
    there do. -/
theorem diffMetrics_eq_nil_iff :
    diffMetrics original rerun = [] ↔
      (∀ name ∈ comparedMetrics, MetricAgrees original rerun name) ∧
        diffTradeCount original rerun = [] := by
  rw [diffMetrics_eq_nil_iff_each]
  exact and_congr_left' (forall₂_congr fun name _ => diffMetric_eq_nil_iff)

/-! ## Either order -/

theorem MetricAgrees.symm {name : String} (h : MetricAgrees original rerun name) :
    MetricAgrees rerun original name := by
  unfold MetricAgrees at h ⊢
  generalize asFloat original name = a at h ⊢
  generalize asFloat rerun name = b at h ⊢
  cases h with
  | some hclose => exact .some (by rwa [abs_sub_comm])
  | none => exact .none

theorem diffTradeCount_eq_nil_symm (h : diffTradeCount original rerun = []) :
    diffTradeCount rerun original = [] := by
  rw [diffTradeCount_eq_nil_iff] at h ⊢
  exact fun a ha b hb => (h b hb a ha).symm

theorem diffMetrics_eq_nil_symm (h : diffMetrics original rerun = []) :
    diffMetrics rerun original = [] := by
  obtain ⟨hmetrics, hcount⟩ := diffMetrics_eq_nil_iff.mp h
  exact diffMetrics_eq_nil_iff.mpr
    ⟨fun name hname => (hmetrics name hname).symm, diffTradeCount_eq_nil_symm hcount⟩

/-! ## What an empty list says -/

/-- **Main result**: an empty list of differences says that the runs agree,
    unless they agree in every metric of the loop and only one of them has a
    trade count. -/
theorem differences_exact_iff (original rerun : Go.Map) :
    DifferencesExact original rerun ↔
      ((∀ name ∈ comparedMetrics, MetricAgrees original rerun name) →
        (asFloat original "trade_count").isSome = (asFloat rerun "trade_count").isSome) := by
  constructor
  · rintro ⟨hempty, -⟩ hmetrics
    by_contra hone
    -- One side has no count, so the branch compares nothing.
    have hcount : diffTradeCount original rerun = [] := by
      rw [diffTradeCount_eq_nil_iff]
      intro a ha b hb
      rw [Option.mem_def.mp ha, Option.mem_def.mp hb] at hone
      exact absurd rfl hone
    have hagree := hempty.mp (diffMetrics_eq_nil_iff.mpr ⟨hmetrics, hcount⟩)
    exact hone (tradeCountAgrees_iff.mp hagree.2).1
  · intro hboth
    refine ⟨?_, diffMetrics_eq_nil_symm, diffMetrics_eq_nil_symm⟩
    rw [diffMetrics_eq_nil_iff]
    refine and_congr_right fun hmetrics => ?_
    rw [tradeCountAgrees_iff, diffTradeCount_eq_nil_iff]
    exact (and_iff_right (hboth hmetrics)).symm

/-- A run of 48 trades, and one whose trade count is missing. -/
theorem missing_count_unreported :
    ¬ ∀ original rerun : Go.Map, DifferencesExact original rerun := by
  intro h
  have hagree := (h [("total_return", .float64 (1 / 10)), ("trade_count", .float64 48)]
    [("total_return", .float64 (1 / 10)), ("trade_count", .nil)]).1.mp (by decide +kernel)
  have hcount := (tradeCountAgrees_iff.mp hagree.2).1
  exact absurd hcount (by decide +kernel)

end experiment

end Quantora
