import Quantora.Backtest.Steps

/-! # Runs over given targets

    `simulate_targets` checks its arguments once. After that nothing in it can
    raise: the loop is a loop with a total body (`given_bar`), followed by
    `finish`. `simulate_targets_eq_ok` states exactly that, and is all that the
    two-run arguments below need to know of the function. -/

namespace Quantora

open Python (PyError)

/-- The decision that the arguments of `simulate_targets` prescribe at bar `i`. -/
def given_decision (targets : List ℚ) (reasons : Option (List String)) (i : ℕ) : TargetDecision :=
  (targets[i]?.getD 0, (reasons.bind (·[i]?)).getD "")

/-- The loop body of `simulate_targets`. -/
def given_bar (symbol : String) (config : BacktestConfig) (targets : List ℚ)
    (reasons : Option (List String)) (i : ℕ) (step : Bar × Option Timestamp)
    (st : LoopState Unit) : LoopState Unit :=
  let market := step.1.market symbol
  let observed := st.observe symbol config i market
  match step.2 with
  | none => observed
  | some execution_timestamp =>
    observed.place symbol market execution_timestamp (given_decision targets reasons i, ())

/-- The state in which every run starts. -/
def LoopState.start {σ : Type} (config : BacktestConfig) (closure : σ) : LoopState σ :=
  { portfolio := Portfolio.new config.initial_cash, closure := closure }

/-- The close-out of a frame whose last bar is `last`. -/
def finish {σ : Type} (symbol : String) (config : BacktestConfig) (last : Bar) (bar_count : ℕ)
    (st : LoopState σ) : LoopState σ :=
  if config.liquidate_at_end then liquidate symbol last config bar_count st else st

theorem close_out_eq_ok {σ : Type} {symbol : String} {frame : List Bar} {config : BacktestConfig}
    {last : Bar} (st : LoopState σ) (hlast : frame.getLast? = some last) :
    close_out symbol frame config st = .ok (finish symbol config last frame.length st) := by
  simp only [close_out, finish, hlast]
  split_ifs <;> rfl

/-- The arguments that `simulate_targets` accepts. -/
structure TargetsFit (frame : List Bar) (targets : List ℚ) (reasons : Option (List String)) :
    Prop where
  bars : frame ≠ []
  targets : targets.length = frame.length
  reasons : ∀ r ∈ reasons, r.length = frame.length

section

variable {frame : List Bar} {targets : List ℚ} {reasons : Option (List String)}

theorem simulate_targets_decide_eq_ok (hfit : TargetsFit frame targets reasons) {i : ℕ}
    (hi : i < frame.length) (portfolio : Portfolio) (closure : Unit) (market : MarketEvent)
    (equity : ℚ) (position : PositionState) :
    simulate_targets_decide targets reasons portfolio closure i market equity position
      = .ok (given_decision targets reasons i, ()) := by
  have hi' : i < targets.length := hfit.targets.symm ▸ hi
  have htarget : targets[i]? = some targets[i] := List.getElem?_eq_getElem hi'
  cases reasons with
  | none => simp [simulate_targets_decide, given_decision, htarget]
  | some r =>
    have hr : i < r.length := (hfit.reasons r rfl).symm ▸ hi
    have hreason : r[i]? = some r[i] := List.getElem?_eq_getElem hr
    simp [simulate_targets_decide, given_decision, htarget, hreason]

/-- **Step lemma**: an iteration that finds its order scheduled never raises. -/
theorem run_bar_targets (hfit : TargetsFit frame targets reasons) (symbol : String)
    (config : BacktestConfig) {j : ℕ} {step : Bar × Option Timestamp} {st : LoopState Unit}
    (hstep : (Loop.withNext Bar.timestamp frame)[j]? = some step)
    (hsched : ScheduledAt frame j st) :
    run_bar symbol config (simulate_targets_decide targets reasons) j step st
        = .ok (given_bar symbol config targets reasons j step st) ∧
      ScheduledAt frame (j + 1) (given_bar symbol config targets reasons j step st) := by
  have hitem := hstep
  rw [Loop.withNext_getElem?] at hitem
  obtain ⟨bar, hbar, rfl⟩ := Option.map_eq_some_iff.mp hitem
  have hrun : run_bar symbol config (simulate_targets_decide targets reasons) j
      (bar, frame[j + 1]?.map Bar.timestamp) st
      = .ok (given_bar symbol config targets reasons j
          (bar, frame[j + 1]?.map Bar.timestamp) st) := by
    rw [run_bar_eq (hsched bar hbar)]
    cases hnext : frame[j + 1]?.map Bar.timestamp with
    | none => rfl
    | some execution_timestamp =>
      have hj : j < frame.length := (List.getElem?_eq_some_iff.mp hbar).1
      simp only [simulate_targets_decide_eq_ok hfit hj]
      rfl
  exact ⟨hrun, run_bar_scheduled hstep hsched hrun⟩

/-- The state in which a run over `frame` is after its first `j` bars. -/
def given_state (symbol : String) (config : BacktestConfig) (frame : List Bar) (targets : List ℚ)
    (reasons : Option (List String)) (j : ℕ) : LoopState Unit :=
  Loop.run (given_bar symbol config targets reasons) 0
    ((Loop.withNext Bar.timestamp frame).take j) (LoopState.start config ())

/-- The loop never raises, wherever it is stopped. -/
theorem run_bars_targets (hfit : TargetsFit frame targets reasons) (symbol : String)
    (config : BacktestConfig) (j : ℕ) :
    Loop.runE (run_bar symbol config (simulate_targets_decide targets reasons)) 0
        ((Loop.withNext Bar.timestamp frame).take j) (LoopState.start config ())
      = .ok (given_state symbol config frame targets reasons j) := by
  have hstart : ScheduledAt frame 0 (LoopState.start config ()) := by
    intro bar _ order horder
    cases horder
  refine Loop.runE_eq_ok (fun j st => ScheduledAt frame j st) ?_ hstart
  intro k step st hstep hsched
  rw [Nat.zero_add] at hsched ⊢
  have hitem : (Loop.withNext Bar.timestamp frame)[k]? = some step := by
    rw [List.getElem?_take] at hstep
    split_ifs at hstep
    exact hstep
  exact run_bar_targets hfit symbol config hitem hsched

/-- The whole run of `simulate_targets` on arguments that fit. -/
def given_run (symbol : String) (config : BacktestConfig) (frame : List Bar) (targets : List ℚ)
    (reasons : Option (List String)) : LoopState Unit :=
  Loop.run (given_bar symbol config targets reasons) 0 (Loop.withNext Bar.timestamp frame)
    (LoopState.start config ())

theorem given_state_length (symbol : String) (config : BacktestConfig) :
    given_state symbol config frame targets reasons frame.length
      = given_run symbol config frame targets reasons := by
  rw [given_state, List.take_of_length_le (by simp)]
  rfl

theorem given_state_succ (symbol : String) (config : BacktestConfig) {j : ℕ}
    {step : Bar × Option Timestamp} (hstep : (Loop.withNext Bar.timestamp frame)[j]? = some step) :
    given_state symbol config frame targets reasons (j + 1)
      = given_bar symbol config targets reasons j step
          (given_state symbol config frame targets reasons j) := by
  have hj := (List.getElem?_eq_some_iff.mp hstep).1
  have hlen : ((Loop.withNext Bar.timestamp frame).take j).length = j := by
    rw [List.length_take]
    omega
  unfold given_state
  rw [List.take_add_one, hstep, Loop.run_append, hlen, Nat.zero_add]
  rfl

/-- Every bar adds one point to the curve. -/
theorem equity_values_given_state_succ (symbol : String) (config : BacktestConfig)
    (targets : List ℚ) (reasons : Option (List String)) {j : ℕ} (hj : j < frame.length) :
    ∃ equity, (given_state symbol config frame targets reasons (j + 1)).equity_values
      = (given_state symbol config frame targets reasons j).equity_values ++ [equity] := by
  have hlt : j < (Loop.withNext Bar.timestamp frame).length := by
    rw [Loop.withNext_length]
    exact hj
  obtain ⟨⟨bar, next⟩, hstep⟩ : ∃ step, (Loop.withNext Bar.timestamp frame)[j]? = some step :=
    ⟨_, List.getElem?_eq_getElem hlt⟩
  rw [given_state_succ symbol config hstep]
  cases next <;>
    exact ⟨_, by
      simp [given_bar, LoopState.observe, LoopState.settle, LoopState.mark, LoopState.place]; rfl⟩

theorem equity_values_given_state (symbol : String) (config : BacktestConfig) (targets : List ℚ)
    (reasons : Option (List String)) {j : ℕ} (hj : j ≤ frame.length) :
    (given_state symbol config frame targets reasons j).equity_values.length = j := by
  induction j with
  | zero => rfl
  | succ j ih =>
    obtain ⟨equity, hvalues⟩ := equity_values_given_state_succ symbol config targets reasons hj
    rw [hvalues, List.length_append, ih (by omega)]
    rfl

theorem simulate_targets_eq (hfit : TargetsFit frame targets reasons) (symbol : String)
    (config : BacktestConfig) (strategy : String) {last : Bar}
    (hlast : frame.getLast? = some last) :
    simulate_targets frame targets symbol reasons config strategy
      = .ok ((finish symbol config last frame.length
          (given_run symbol config frame targets reasons)).output symbol strategy none frame) := by
  have hbars : frame.isEmpty = false := by simpa using hfit.bars
  have hreasons : ¬ ∃ r ∈ reasons, r.length ≠ frame.length := by
    rintro ⟨r, hr, hne⟩
    exact hne (hfit.reasons r hr)
  have hrun : run_bars symbol config (simulate_targets_decide targets reasons) frame
      { portfolio := Portfolio.new config.initial_cash, closure := () }
      = .ok (given_run symbol config frame targets reasons) := by
    have hall := run_bars_targets hfit symbol config frame.length
    rw [given_state_length, List.take_of_length_le (by simp)] at hall
    exact hall
  simp only [simulate_targets, hbars, hfit.targets, hreasons, ne_eq, not_true, if_false,
    run_execution, Bool.false_eq_true, hrun]
  simp only [bind, Except.bind, close_out_eq_ok _ hlast]

/-- Every other argument is rejected. -/
theorem targetsFit_of_eq_ok {symbol : String} {config : BacktestConfig} {strategy : String}
    {out : SimulationOutput}
    (h : simulate_targets frame targets symbol reasons config strategy = .ok out) :
    TargetsFit frame targets reasons := by
  unfold simulate_targets at h
  split_ifs at h with hbars htargets hreasons
  refine ⟨?_, not_not.mp htargets, ?_⟩
  · rintro rfl
    exact hbars rfl
  · intro r hr
    by_contra hne
    exact hreasons ⟨r, hr, hne⟩

end

/-- Three bars on which ten units are bought, held and liquidated. -/
def three_bars : List Bar :=
  [ { timestamp := 0, open_ := 100, high := 102, low := 99, close := 101, adj_close := 101,
      volume := 1000 },
    { timestamp := 1, open_ := 102, high := 104, low := 101, close := 103, adj_close := 103,
      volume := 1000 },
    { timestamp := 2, open_ := 103, high := 103, low := 97, close := 98, adj_close := 98,
      volume := 1000 } ]

theorem three_bars_positive : ∀ bar ∈ three_bars, bar.Positive := by
  intro bar hbar
  simp only [three_bars, List.mem_cons, List.not_mem_nil, or_false] at hbar
  rcases hbar with rfl | rfl | rfl <;> constructor <;> norm_num

end Quantora
