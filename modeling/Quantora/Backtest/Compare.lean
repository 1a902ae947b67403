import Quantora.Backtest.Affordability
import Quantora.Data.Types
import Quantora.Framework.Keyed
import Quantora.Framework.Numbering
import Quantora.Python.Runtime

/-! # Comparisons

    `compare.py`: the labels that key every column of a comparison and the
    buy-and-hold reference that stands beside the strategies.

    * `unique_labels_distinct_iff` — the labels are distinct unless a numbered
      label is a label of its own.
    * `buy_and_hold_affordable_iff` — the reference stays within the cash when the
      cash buys as many units with the commission as without it. -/

namespace Quantora

/-! ## Labels -/

/-- One entry in a comparison. The keys of `parameters` are distinct. -/
structure StrategySpec where
  strategy : String
  parameters : List (String × Json) := []
  label : Option String := none

/-- `f"{value}"`. -/
def format_value (rt : Runtime) : Json → String
  | .str text => text
  | value => rt.repr value

def StrategySpec.display_label (rt : Runtime) (spec : StrategySpec) : String :=
  match spec.label.filter (fun label => label ≠ "") with
  | some label => label
  | none =>
    if spec.parameters.isEmpty then spec.strategy
    else
      let detail := (spec.parameters.mergeSort (fun a b => a.1 ≤ b.1)).map
        (fun parameter => parameter.1 ++ "=" ++ format_value rt parameter.2)
      spec.strategy ++ " (" ++ ", ".intercalate detail ++ ")"

/-- A label that was used before, with its number. -/
def numbered (base : String) (count : ℕ) : String := base ++ " #" ++ toString count

/-- The loop of `_unique_labels`; `seen` counts the labels so far. -/
def unique_labels_from (rt : Runtime) : (String → ℕ) → List StrategySpec → List String
  | _, [] => []
  | seen, spec :: specs =>
    let base := spec.display_label rt
    let count := seen base
    (if count = 0 then base else numbered base (count + 1))
      :: unique_labels_from rt (Function.update seen base (count + 1)) specs

def unique_labels (rt : Runtime) (specs : List StrategySpec) : List String :=
  unique_labels_from rt (fun _ => 0) specs

/-- `equity_curves[label] = …`, and the other maps that the labels key. -/
def columns {α : Type} (runs : List (String × α)) : Keyed (Prod.fst : String × α → String) :=
  Keyed.ofList runs

section

variable {rt : Runtime} {specs : List StrategySpec}

theorem unique_labels_from_eq {seen : String → ℕ} :
    unique_labels_from rt seen specs
      = (Numbering.ranked seen (specs.map (StrategySpec.display_label rt))).map
          (Numbering.label numbered) := by
  induction specs generalizing seen with
  | nil => rfl
  | cons spec specs ih =>
    rw [unique_labels_from, ih, List.map_cons, Numbering.ranked, List.map_cons]
    simp only [Numbering.label, Nat.add_eq_right]

/-- A number can be read back from the label that has it. -/
theorem numbered_inj (a b : String) (j k : ℕ) (h : numbered a j = numbered b k) :
    a = b ∧ j = k := by
  have htext := congrArg String.toList h
  have hsplit : ∀ (base : String) (n : ℕ), (numbered base n).toList
      = (base.toList ++ [' ']) ++ '#' :: (toString n).toList := by
    intro base n
    simp [numbered]
  rw [hsplit, hsplit] at htext
  obtain ⟨hbase, hcount⟩ := Numbering.append_toString_inj (by decide) htext
  exact ⟨String.toList_inj.mp (List.append_cancel_right hbase), hcount⟩

theorem length_unique_labels : (unique_labels rt specs).length = specs.length := by
  rw [unique_labels, unique_labels_from_eq, List.length_map, Numbering.length_ranked,
    List.length_map]

variable (rt specs) in
/-- One label for each entry, all of them distinct, so that every entry keeps its
    column: unless a repeated label gets a number that makes it a label of the
    comparison. -/
theorem unique_labels_distinct_iff :
    ((unique_labels rt specs).length = specs.length ∧ (unique_labels rt specs).Nodup ∧
      ∀ curves : List Json, curves.length = specs.length →
        (columns ((unique_labels rt specs).zip curves)).items.length = specs.length) ↔
      ∀ base k, 2 ≤ k → k ≤ (specs.map (StrategySpec.display_label rt)).count base →
        numbered base k ∉ specs.map (StrategySpec.display_label rt) := by
  have hlength : (unique_labels rt specs).length = specs.length := length_unique_labels
  have hcolumns : (unique_labels rt specs).Nodup → ∀ curves : List Json,
      curves.length = specs.length →
        (columns ((unique_labels rt specs).zip curves)).items.length = specs.length := by
    intro hdistinct curves hcurves
    have hkept : ((unique_labels rt specs).zip curves).map Prod.fst = unique_labels rt specs :=
      List.map_fst_zip (by omega)
    rw [columns, (Keyed.length_ofList_iff _).mpr (hkept.symm ▸ hdistinct), List.length_zip]
    omega
  rw [and_iff_right hlength, and_iff_left_of_imp hcolumns, unique_labels, unique_labels_from_eq]
  exact Numbering.nodup_labels_iff numbered_inj

end

/-- Two entries called `A`, after one called `A #2`. -/
def three_entries : List StrategySpec :=
  [{ strategy := "macd", label := some "A #2" }, { strategy := "bollinger", label := some "A" },
    { strategy := "dual_thrust", label := some "A" }]

/-- Three curves end up in two columns. -/
theorem unique_labels_collide :
    unique_labels default three_entries = ["A #2", "A", "A #2"] ∧
      ¬ (unique_labels default three_entries).Nodup ∧
      (columns ((unique_labels default three_entries).zip
        [Json.arr [.int 1], Json.arr [.int 2], Json.arr [.int 3]])).items.length = 2 := by
  decide +kernel

/-! ## Buy and hold -/

/-- A buy-and-hold reference for the same instrument and window. -/
structure BuyAndHold where
  label : String
  total_return : ℚ
  final_equity : ℚ
  entry_price : ℚ
  exit_price : ℚ
  quantity : ℚ
  total_costs : ℚ
  note : String
  deriving DecidableEq, Repr

/-- What the entry leaves of the initial cash. -/
def cash_left (config : BacktestConfig) (quantity entry_price : ℚ) : ℚ :=
  config.initial_cash - quantity * entry_price
    - config.cost_model.commission (quantity * entry_price)

def buy_and_hold_note : String :=
  "Bought at the first bar's open and sold at the last bar's close, paying the same commission, "
    ++ "slippage and spread as the strategies. Fully invested throughout."

/-- `_buy_and_hold`, or the reason why it is not available. -/
def buy_and_hold (frame : PriceFrame) (config : BacktestConfig) : Except String BuyAndHold :=
  match frame.bars with
  | [] => .error "Fewer than two bars in the window."
  | [_] => .error "Fewer than two bars in the window."
  | first :: second :: rest =>
    let costs := config.cost_model
    let entry_price := costs.fill_price first.open_ .BUY
    let exit_price := costs.fill_price ((second :: rest).getLast (by simp)).close .SELL
    if entry_price ≤ 0 then .error "The opening price is not positive."
    else
      let quantity : ℚ := Python.truncate (config.initial_cash / entry_price)
      if quantity ≤ 0 then
        .error ("Starting capital of " ++ Python.fmt_thousands 0 config.initial_cash
          ++ " cannot buy a whole unit at " ++ Python.fmt_thousands 2 entry_price ++ ".")
      else
        let entry_commission := costs.commission (quantity * entry_price)
        let exit_commission := costs.commission (quantity * exit_price)
        let final_equity := cash_left config quantity entry_price + quantity * exit_price
          - exit_commission
        .ok
          { label := "Buy and hold"
            total_return := final_equity / config.initial_cash - 1
            final_equity := final_equity
            entry_price := entry_price
            exit_price := exit_price
            quantity := quantity
            total_costs := entry_commission + exit_commission
            note := buy_and_hold_note }

/-- What the reference buys, and at what price. -/
theorem buy_and_hold_eq_ok {frame : PriceFrame} {config : BacktestConfig}
    {reference : BuyAndHold} (h : buy_and_hold frame config = .ok reference) :
    ∃ first ∈ frame.bars.head?,
      reference.entry_price = config.cost_model.fill_price first.open_ .BUY ∧
      0 < reference.entry_price ∧
      reference.quantity = Python.truncate (config.initial_cash / reference.entry_price) ∧
      0 < reference.quantity := by
  unfold buy_and_hold at h
  match hbars : frame.bars with
  | [] =>
    rw [hbars] at h
    cases h
  | [_] =>
    rw [hbars] at h
    cases h
  | first :: second :: rest =>
    rw [hbars] at h
    simp only at h
    split_ifs at h with hprice hquantity
    obtain rfl := Except.ok.inj h
    exact ⟨first, rfl, rfl, not_le.mp hprice, rfl, not_le.mp hquantity⟩

/-- Of two quotients the smaller has the same whole part when it reaches the
    whole part of the larger. -/
theorem floor_eq_iff_le {x y : ℚ} (h : x ≤ y) : ⌊x⌋ = ⌊y⌋ ↔ (⌊y⌋ : ℚ) ≤ x := by
  constructor
  · intro heq
    rw [← heq]
    exact Int.floor_le x
  · intro hle
    exact le_antisymm (Int.floor_le_floor h) (Int.le_floor.mpr hle)

/-- The larger of the two commissions is charged, and both must be paid for. -/
theorem cash_left_nonneg_iff {config : BacktestConfig} {quantity entry_price : ℚ}
    (hquantity : 0 ≤ quantity) (hprice : 0 < entry_price) :
    0 ≤ cash_left config quantity entry_price ↔
      quantity ≤ config.initial_cash / (entry_price * (1 + commission_rate config)) ∧
        quantity ≤ (config.initial_cash - config.cost_model.commission_min) / entry_price := by
  have hrate := commission_rate_nonneg config
  have hunit : 0 < entry_price * (1 + commission_rate config) := by positivity
  have hnotional : 0 ≤ quantity * entry_price := by positivity
  have hcommission : config.cost_model.commission (quantity * entry_price)
      = max config.cost_model.commission_min
          (quantity * entry_price * commission_rate config) := by
    rw [CostModel.commission, abs_of_nonneg hnotional, commission_rate, mul_div_assoc]
  rw [le_div_iff₀ hunit, le_div_iff₀ hprice, cash_left, hcommission]
  constructor
  · intro h
    have hmin := le_max_left config.cost_model.commission_min
      (quantity * entry_price * commission_rate config)
    have hshare := le_max_right config.cost_model.commission_min
      (quantity * entry_price * commission_rate config)
    constructor <;> linarith
  · rintro ⟨hshare, hmin⟩
    have hmax : max config.cost_model.commission_min
        (quantity * entry_price * commission_rate config)
        ≤ config.initial_cash - quantity * entry_price :=
      max_le (by linarith) (by linarith)
    linarith

/-- The test of the engine, for a portfolio that holds the initial cash. -/
theorem can_afford_iff_cash_left {config : BacktestConfig} {quantity entry_price : ℚ} :
    (Portfolio.new config.initial_cash).can_afford .BUY quantity entry_price
        (config.cost_model.commission (quantity * entry_price)) = true ↔
      0 ≤ cash_left config quantity entry_price := by
  show decide (config.initial_cash ≥ _) = true ↔ _
  rw [decide_eq_true_eq, cash_left, ge_iff_le, sub_sub, sub_nonneg]

/-- The reference stays within the cash, and the engine would have filled it,
    exactly when the cash buys as many units with the proportional commission, and
    with the minimum, as without any. -/
theorem buy_and_hold_affordable_iff {frame : PriceFrame} {config : BacktestConfig}
    {reference : BuyAndHold} {first : Bar} (hfirst : frame.bars.head? = some first)
    (h : buy_and_hold frame config = .ok reference) :
    (0 ≤ cash_left config reference.quantity reference.entry_price ∧
      (Portfolio.new config.initial_cash).can_afford .BUY reference.quantity
        reference.entry_price
        (config.cost_model.commission (reference.quantity * reference.entry_price)) = true) ↔
      ⌊config.initial_cash
          / (config.cost_model.fill_price first.open_ .BUY * (1 + commission_rate config))⌋
        = ⌊config.initial_cash / config.cost_model.fill_price first.open_ .BUY⌋ ∧
      ⌊(config.initial_cash - config.cost_model.commission_min)
          / config.cost_model.fill_price first.open_ .BUY⌋
        = ⌊config.initial_cash / config.cost_model.fill_price first.open_ .BUY⌋ := by
  obtain ⟨opening, hopening, hprice, hpos, hquantity, hunits⟩ := buy_and_hold_eq_ok h
  obtain rfl : opening = first := Option.some.inj (hopening.symm.trans hfirst)
  rw [← hprice]
  have hcash := config.initial_cash_pos
  have hrate := commission_rate_nonneg config
  have hmin := config.cost_model.commission_min_nonneg
  have hfloor : reference.quantity = ⌊config.initial_cash / reference.entry_price⌋ := by
    rw [hquantity, Python.truncate, if_pos (by positivity)]
  have hshare : config.initial_cash / (reference.entry_price * (1 + commission_rate config))
      ≤ config.initial_cash / reference.entry_price := by
    apply div_le_div_of_nonneg_left hcash.le hpos
    have := mul_nonneg hpos.le hrate
    linarith
  have hless : (config.initial_cash - config.cost_model.commission_min) / reference.entry_price
      ≤ config.initial_cash / reference.entry_price :=
    div_le_div_of_nonneg_right (by linarith) hpos.le
  rw [can_afford_iff_cash_left, and_self, cash_left_nonneg_iff hunits.le hpos,
    floor_eq_iff_le hshare, floor_eq_iff_le hless, ← hfloor]

/-- Two flat bars. -/
def flat_frame : PriceFrame where
  bars := [⟨0, 10, 10, 10, 10, 10, 1⟩, ⟨86400000000000, 10, 10, 10, 10, 10, 1⟩]
  increasing := by decide

/-- Ten basis points of commission and no other cost. -/
def ten_bps (initial_cash : ℚ) (h : 0 < initial_cash) : BacktestConfig where
  initial_cash := initial_cash
  cost_model := { CostModel.zero with
    commission_bps := 10
    commission_bps_nonneg := by decide }
  initial_cash_pos := h
  risk_free_rate_ge := by decide
  risk_free_rate_le := by decide

/-- Half a unit's price is left over for the commission. -/
theorem buy_and_hold_affordable_at_105 :
    ∃ reference, buy_and_hold flat_frame (ten_bps 105 (by decide)) = .ok reference ∧
      reference.quantity = 10 ∧
      0 ≤ cash_left (ten_bps 105 (by decide)) reference.quantity reference.entry_price := by
  have h : buy_and_hold flat_frame (ten_bps 105 (by decide)) = .ok
      { label := "Buy and hold", total_return := -1 / 525, final_equity := 524 / 5,
        entry_price := 10, exit_price := 10, quantity := 10, total_costs := 1 / 5,
        note := buy_and_hold_note } := by decide +kernel
  exact ⟨_, h, rfl, ((buy_and_hold_affordable_iff rfl h).mpr (by decide +kernel)).1⟩

/-- A hundred pays for ten units and not for the commission. -/
theorem buy_and_hold_overspends :
    ∃ reference, buy_and_hold flat_frame (ten_bps 100 (by decide)) = .ok reference ∧
      reference.quantity = 10 ∧ reference.entry_price = 10 ∧
      cash_left (ten_bps 100 (by decide)) reference.quantity reference.entry_price = -1 / 10 ∧
      (Portfolio.new 100).can_afford .BUY reference.quantity reference.entry_price (1 / 10)
        = false := by
  have h : buy_and_hold flat_frame (ten_bps 100 (by decide)) = .ok
      { label := "Buy and hold", total_return := -1 / 500, final_equity := 499 / 5,
        entry_price := 10, exit_price := 10, quantity := 10, total_costs := 1 / 5,
        note := buy_and_hold_note } := by decide +kernel
  exact ⟨_, h, rfl, rfl, by decide +kernel, by decide +kernel⟩

end Quantora
