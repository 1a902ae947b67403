import Mathlib.Data.List.Sort
import Mathlib.Algebra.BigOperators.Ring.List
import Mathlib.Algebra.Order.BigOperators.Group.List
import Mathlib.Tactic.Ring
import Mathlib.Tactic.FieldSimp
import Mathlib.Tactic.Linarith
import Quantora.Framework.Keyed
import Quantora.Data.Service

/-! # Holdings

    `portfolio/holdings.py`: what a user holds, what it is worth at one moment,
    and how concentrated it is.

    * `Holding`, `Portfolio` — carry what their constructors check.
    * `Portfolio.value` — price every holding; derive weights, concentration and
      sectors.
    * `Portfolio.from_weights` — the holdings that have given weights.

    Numbers are exact. A weight map is a dictionary: `Keyed`, in the order of
    insertion. -/

namespace Quantora

/-- What leaves the Python portfolio code as an exception. -/
inductive PortfolioError where
  | data (error : DataError)
  /-- The model ends here: see `LoadError`. -/
  | infinite_price
  | IndexError
  | KeyError (key : String)
  | ZeroDivisionError
  deriving DecidableEq, Repr

def PortfolioError.invalid (message : String) : PortfolioError :=
  .data (.InvalidRequestError message)

def PortfolioError.of_load : LoadError → PortfolioError
  | .data error => .data error
  | .infinite_price => .infinite_price

namespace risk

/-- How many of the largest positions the top-N figure covers. -/
def DEFAULT_TOP_N : ℕ := 3

/-- At or below this a total market value counts as zero. -/
def holdings.EPSILON : ℚ := 1 / 1000000000

def UNCLASSIFIED : String := "Unclassified"

/-- A map of weights by symbol. -/
abbrev Weights := Keyed (Prod.fst : String × ℚ → String)

/-- The weight of a symbol, zero if it has none: `weights.get(symbol, 0.0)`. -/
def weight_of (weights : Weights) (symbol : String) : ℚ :=
  ((weights.get? symbol).map Prod.snd).getD 0

theorem weight_of_mem {weights : Weights} {item : String × ℚ} (h : item ∈ weights.items) :
    weight_of weights item.1 = item.2 := by
  unfold weight_of
  rw [Keyed.get?_of_mem h]
  rfl

theorem isSome_get?_iff {weights : Weights} {symbol : String} :
    (weights.get? symbol).isSome = true ↔ symbol ∈ weights.items.map Prod.fst := by
  rw [List.mem_map]
  constructor
  · intro h
    obtain ⟨item, hitem⟩ := Option.isSome_iff_exists.mp h
    exact ⟨item, Keyed.mem_of_get? hitem, Keyed.key_of_get? hitem⟩
  · rintro ⟨item, hitem, rfl⟩
    rw [Keyed.get?_of_mem hitem]
    rfl

/-- The columns that have a weight carry all of it. -/
theorem sum_weight_of_columns {weights : Weights} {columns : List String}
    (hcolumns : columns.Nodup) (hcovered : ∀ item ∈ weights.items, item.1 ∈ columns) :
    ((columns.filter (fun s => (weights.get? s).isSome)).map (weight_of weights)).sum
      = (weights.items.map Prod.snd).sum := by
  have hperm : (columns.filter (fun s => (weights.get? s).isSome)).Perm
      (weights.items.map Prod.fst) := by
    rw [List.perm_ext_iff_of_nodup (hcolumns.filter _) weights.nodup]
    intro s
    rw [List.mem_filter, isSome_get?_iff]
    refine ⟨fun h => h.2, fun h => ⟨?_, h⟩⟩
    obtain ⟨item, hitem, rfl⟩ := List.mem_map.mp h
    exact hcovered item hitem
  rw [(hperm.map _).sum_eq, List.map_map]
  congr 1
  apply List.map_congr_left
  intro item hitem
  exact weight_of_mem hitem

/-- A `Mapping` of prices, read one symbol at a time. -/
abbrev Prices := String → Option Python.Float

/-- `sorted(symbols)`. -/
def sorted (symbols : List String) : List String := symbols.insertionSort (· ≤ ·)

/-- `", ".join(symbols)`. -/
def join (symbols : List String) : String := ", ".intercalate symbols

/-- `get_instrument(symbol).sector`; the indices have none. -/
def sector : String → Option String
  | "RELIANCE.NS" => some "Energy"
  | "TCS.NS" => some "Information Technology"
  | "HDFCBANK.NS" => some "Financials"
  | "INFY.NS" => some "Information Technology"
  | "ICICIBANK.NS" => some "Financials"
  | _ => none

/-! ## Holdings and portfolios -/

/-- One position: how much of what, and optionally what it cost. -/
structure Holding where
  symbol : String
  quantity : ℚ
  cost_basis : Option ℚ
  known : ∃ instrument, get_instrument symbol = .ok instrument
  quantity_pos : 0 < quantity
  cost_basis_nonneg : ∀ c ∈ cost_basis, 0 ≤ c

theorem cost_basis_none : ∀ c ∈ (none : Option ℚ), 0 ≤ c := by
  intro c hc
  cases hc

/-- A cost basis that is finite and not negative, if one is given. -/
def checked_cost_basis : Option Python.Float → Option {cost : Option ℚ // ∀ c ∈ cost, 0 ≤ c}
  | none => some ⟨none, cost_basis_none⟩
  | some (.num c) =>
    if h : 0 ≤ c then some ⟨some c, by rintro x ⟨⟩; exact h⟩ else none
  | some _ => none

/-- `Holding(symbol, quantity, cost_basis)`, as `__post_init__` checks it. -/
def Holding.new (rt : Runtime) (symbol : String) (quantity : Python.Float)
    (cost_basis : Option Python.Float) : Except PortfolioError Holding :=
  if symbol = "" ∨ Python.strip symbol = "" then .error (.invalid "A holding needs a symbol.")
  else
    match hknown : get_instrument symbol with
    | .error err => .error (.data err)
    | .ok instrument =>
      match quantity with
      | .num amount =>
        if hpos : 0 < amount then
          match checked_cost_basis cost_basis with
          | some cost =>
            .ok
              { symbol := symbol
                quantity := amount
                cost_basis := cost.1
                known := ⟨instrument, hknown⟩
                quantity_pos := hpos
                cost_basis_nonneg := cost.2 }
          | none =>
            .error (.invalid ("Cost basis for " ++ symbol
              ++ " must be a non-negative number, got "
              ++ rt.repr (cost_basis.elim .null .float) ++ "."))
        else
          .error (.invalid ("Quantity for " ++ symbol ++ " must be positive, got "
            ++ rt.repr (.float quantity)
            ++ ". Short positions are not modelled by the portfolio engine."))
      | _ =>
        .error (.invalid ("Quantity for " ++ symbol ++ " must be a finite number, got "
          ++ rt.repr (.float quantity) ++ "."))

/-- A set of holdings, at most one row per symbol. -/
structure Portfolio where
  holdings : List Holding
  name : String
  base_currency : String
  benchmark : String
  nonempty : holdings ≠ []
  distinct : (holdings.map Holding.symbol).Nodup
  benchmark_known : ∃ instrument, get_instrument benchmark = .ok instrument

def Portfolio.symbols (p : Portfolio) : List String := p.holdings.map Holding.symbol

/-- `Portfolio(holdings, name, base_currency, benchmark)`. -/
def Portfolio.new (holdings : List Holding) (name base_currency benchmark : String) :
    Except PortfolioError Portfolio :=
  if hne : holdings = [] then .error (.invalid "A portfolio needs at least one holding.")
  else if hdistinct : (holdings.map Holding.symbol).Nodup then
    match hknown : get_instrument benchmark with
    | .error err => .error (.data err)
    | .ok instrument =>
      .ok
        { holdings := holdings
          name := name
          base_currency := base_currency
          benchmark := benchmark
          nonempty := hne
          distinct := hdistinct
          benchmark_known := ⟨instrument, hknown⟩ }
  else
    let symbols := holdings.map Holding.symbol
    let duplicates := sorted (symbols.dedup.filter (fun s => 1 < symbols.count s))
    .error (.invalid ("Duplicate holding(s): " ++ join duplicates
      ++ ". Combine them into one row with the total quantity."))

/-! ## Valuation -/

/-- One holding priced at an as-of date. -/
structure PositionValue where
  symbol : String
  quantity : ℚ
  price : ℚ
  market_value : ℚ
  weight : ℚ
  cost_basis : Option ℚ
  /-- `none`, not zero, when no cost basis was recorded. -/
  unrealized_pnl : Option ℚ
  unrealized_return : Option ℚ
  deriving Repr

/-- How much of the portfolio rides on how few positions. -/
structure Concentration where
  largest_symbol : String
  largest_weight : ℚ
  top_n : ℕ
  top_n_weight : ℚ
  top_n_symbols : List String
  /-- The sum of squared weights. -/
  hhi : ℚ
  effective_holdings : Python.Float
  deriving Repr

/-- Weight by sector, with the unclassified remainder. -/
structure SectorExposure where
  sectors : List (String × ℚ)
  classified_weight : ℚ
  unclassified_weight : ℚ
  unclassified_symbols : List String
  note : String
  deriving Repr

/-- A portfolio priced at one moment. -/
structure Allocation where
  positions : List PositionValue
  total_value : ℚ
  total_cost : Option ℚ
  weights : Weights
  concentration : Concentration
  sector_exposure : SectorExposure

/-- The order of `sorted(weights.items(), key=lambda item: (-item[1], item[0]))`. -/
def heavier (a b : String × ℚ) : Prop := b.2 < a.2 ∨ a.2 = b.2 ∧ a.1 ≤ b.1

instance : DecidableRel heavier := fun a b =>
  inferInstanceAs (Decidable (b.2 < a.2 ∨ a.2 = b.2 ∧ a.1 ≤ b.1))

/-- `sum(w * w for w in weights.values())`. -/
def hhi_of (weights : List (String × ℚ)) : ℚ := (weights.map (fun item => item.2 * item.2)).sum

/-- Largest weight, top-N weight and HHI of a weight vector. -/
def concentration (weights : List (String × ℚ)) (top_n : ℕ) :
    Except PortfolioError Concentration :=
  match weights.insertionSort heavier with
  | [] => .error (.invalid "Concentration needs at least one weight.")
  | largest :: rest =>
    let effective_n := min top_n (largest :: rest).length
    let top := (largest :: rest).take effective_n
    let hhi := hhi_of weights
    .ok
      { largest_symbol := largest.1
        largest_weight := largest.2
        top_n := effective_n
        top_n_weight := (top.map Prod.snd).sum
        top_n_symbols := top.map Prod.fst
        hhi := hhi
        effective_holdings := if holdings.EPSILON < hhi then .num (1 / hhi) else .nan }

/-- What the loop of `sector_exposure` carries. -/
structure SectorTotals where
  sectors : Weights
  unclassified : List String
  unclassified_weight : ℚ

/-- One pass of the loop. -/
def SectorTotals.add (totals : SectorTotals) (symbol : String) (weight : ℚ) : SectorTotals :=
  match sector symbol with
  | none =>
    { totals with
      unclassified := totals.unclassified ++ [symbol]
      unclassified_weight := totals.unclassified_weight + weight }
  | some name =>
    { totals with
      sectors := totals.sectors.upsert (name, weight_of totals.sectors name + weight) }

/-- The loop over the weights. -/
def sector_totals : SectorTotals → List (String × ℚ) → Except PortfolioError SectorTotals
  | totals, [] => .ok totals
  | totals, (symbol, weight) :: rest =>
    match get_instrument symbol with
    | .error err => .error (.data err)
    | .ok _ => sector_totals (totals.add symbol weight) rest

/-- Weight by sector, reporting the unclassified remainder. -/
def sector_exposure (weights : List (String × ℚ)) : Except PortfolioError SectorExposure := do
  let totals ← sector_totals ⟨∅, [], 0⟩ weights
  let sectors :=
    if holdings.EPSILON < totals.unclassified_weight then
      totals.sectors.upsert (UNCLASSIFIED, totals.unclassified_weight)
    else totals.sectors
  .ok
    { sectors := sectors.items.insertionSort (fun a b => a.1 ≤ b.1)
      classified_weight :=
        ((sectors.items.filter (fun item => item.1 ≠ UNCLASSIFIED)).map Prod.snd).sum
      unclassified_weight := totals.unclassified_weight
      unclassified_symbols := sorted totals.unclassified
      note :=
        if totals.unclassified = [] then "Every holding has a sector in the instrument universe."
        else
          Python.fmt_percent 1 totals.unclassified_weight
            ++ " of the portfolio has no sector in the instrument universe ("
            ++ join (sorted totals.unclassified) ++ ") and is reported as '" ++ UNCLASSIFIED
            ++ "' rather than being dropped." }

/-- `float(prices[symbol])`, once every price has been checked. -/
def price_of (prices : Prices) (symbol : String) : ℚ :=
  match prices symbol with
  | some (.num price) => price
  | _ => 0

/-- A price that a position can be valued at. -/
def usable_price : Option Python.Float → Bool
  | some (.num price) => 0 < price
  | _ => false

def market_value (prices : Prices) (holding : Holding) : ℚ :=
  holding.quantity * price_of prices holding.symbol

/-- `_position_value`. -/
def position_value (holding : Holding) (price market_value total_value : ℚ) : PositionValue :=
  let cost := holding.cost_basis.map (fun cost_basis => holding.quantity * cost_basis)
  { symbol := holding.symbol
    quantity := holding.quantity
    price := price
    market_value := market_value
    weight := market_value / total_value
    cost_basis := holding.cost_basis
    unrealized_pnl := cost.map (fun cost => market_value - cost)
    unrealized_return := cost.bind (fun cost =>
      if holdings.EPSILON < cost then some ((market_value - cost) / cost) else none) }

/-- The sum of the costs, if every holding has one. -/
def total_cost (holdings : List Holding) : Option ℚ :=
  let costs := holdings.filterMap
    (fun h => h.cost_basis.map (fun cost_basis => h.quantity * cost_basis))
  if costs.length = holdings.length then some costs.sum else none

namespace Portfolio

variable (p : Portfolio) (prices : Prices)

/-- `sum(market_values.values())`. -/
def total_market_value : ℚ := (p.holdings.map (market_value prices)).sum

/-- Each holding's share of the total, in the order of the holdings. -/
def weights : Weights :=
  ⟨p.holdings.map (fun h => (h.symbol, market_value prices h / p.total_market_value prices)), by
    rw [List.map_map]
    exact p.distinct⟩

/-- Price every holding and derive weights, concentration and sectors. -/
def value (top_n : ℕ := DEFAULT_TOP_N) : Except PortfolioError Allocation :=
  let missing := sorted (p.symbols.filter (fun s => (prices s).isNone))
  if missing ≠ [] then
    .error (.invalid ("No price available for " ++ join missing
      ++ ", so the portfolio cannot be valued. "
      ++ "Every holding must be priced at the same moment for weights to mean anything."))
  else
    let bad := sorted (p.symbols.filter (fun s => ¬ usable_price (prices s)))
    if bad ≠ [] then
      .error (.invalid ("Non-positive or non-finite price for " ++ join bad
        ++ "; the portfolio cannot be valued."))
    else
      let total_value := p.total_market_value prices
      if total_value ≤ holdings.EPSILON then
        .error (.invalid ("The portfolio's total market value is zero, so allocation weights are "
          ++ "undefined."))
      else do
        let concentration ← concentration (p.weights prices).items top_n
        let sector_exposure ← sector_exposure (p.weights prices).items
        .ok
          { positions := p.holdings.map (fun h =>
              position_value h (price_of prices h.symbol) (market_value prices h) total_value)
            total_value := total_value
            total_cost := total_cost p.holdings
            weights := p.weights prices
            concentration := concentration
            sector_exposure := sector_exposure }

end Portfolio

theorem sorted_eq_nil {symbols : List String} : sorted symbols = [] ↔ symbols = [] := by
  unfold sorted
  rw [← List.length_eq_zero_iff, List.length_insertionSort, List.length_eq_zero_iff]

theorem price_of_usable {prices : Prices} {symbol : String}
    (h : usable_price (prices symbol) = true) :
    prices symbol = some (.num (price_of prices symbol)) ∧ 0 < price_of prices symbol := by
  unfold usable_price at h
  unfold price_of
  split at h
  · next price heq =>
    rw [heq]
    exact ⟨rfl, of_decide_eq_true h⟩
  · cases h

namespace Portfolio

variable {p : Portfolio} {prices : Prices} {top_n : ℕ} {allocation : Allocation}

/-- Every holding has a price, and together they are worth something. -/
structure Valued (p : Portfolio) (prices : Prices) : Prop where
  priced : ∀ s ∈ p.symbols, usable_price (prices s) = true
  worth : holdings.EPSILON < p.total_market_value prices

/-- What an allocation says of the portfolio that was valued. -/
theorem value_eq_ok (h : p.value prices top_n = .ok allocation) :
    Valued p prices ∧ allocation.total_value = p.total_market_value prices ∧
      allocation.weights = p.weights prices ∧
      concentration (p.weights prices).items top_n = .ok allocation.concentration ∧
      sector_exposure (p.weights prices).items = .ok allocation.sector_exposure := by
  unfold value at h
  simp only [ne_eq, sorted_eq_nil, ite_not] at h
  split_ifs at h with hmissing hbad hworth
  obtain ⟨concentrated, hconcentration, h⟩ := Outcome.bind_eq_ok.mp h
  obtain ⟨exposure, hexposure, h⟩ := Outcome.bind_eq_ok.mp h
  obtain rfl := Except.ok.inj h
  refine ⟨⟨fun s hs => ?_, not_le.mp hworth⟩, rfl, rfl, hconcentration, hexposure⟩
  simpa using List.filter_eq_nil_iff.mp hbad s hs

/-! Nothing else can go wrong. -/

theorem isOk_concentration {weights : List (String × ℚ)} (h : weights ≠ []) (top_n : ℕ) :
    (concentration weights top_n).isOk = true := by
  unfold concentration
  cases hsorted : weights.insertionSort heavier with
  | nil =>
    have hlen := List.length_insertionSort heavier weights
    rw [hsorted] at hlen
    exact absurd (List.length_eq_zero_iff.mp hlen.symm) h
  | cons largest rest => rfl

theorem isOk_sector_totals {weights : List (String × ℚ)}
    (h : ∀ item ∈ weights, ∃ instrument, get_instrument item.1 = .ok instrument)
    (totals : SectorTotals) : (sector_totals totals weights).isOk = true := by
  induction weights generalizing totals with
  | nil => rfl
  | cons item weights ih =>
    obtain ⟨⟨instrument, hinstrument⟩, hrest⟩ := List.forall_mem_cons.mp h
    obtain ⟨symbol, weight⟩ := item
    rw [sector_totals, hinstrument]
    exact ih hrest _

theorem weights_known (p : Portfolio) (prices : Prices) :
    ∀ item ∈ (p.weights prices).items, ∃ instrument, get_instrument item.1 = .ok instrument := by
  intro item hitem
  obtain ⟨h, -, rfl⟩ := List.mem_map.mp hitem
  exact h.known

theorem weights_ne_nil (p : Portfolio) (prices : Prices) : (p.weights prices).items ≠ [] :=
  fun hnil => p.nonempty (List.map_eq_nil_iff.mp hnil)

theorem isOk_value (h : Valued p prices) : ∃ allocation, p.value prices top_n = .ok allocation := by
  -- None of the three checks fails.
  have hmissing : sorted (p.symbols.filter (fun s => (prices s).isNone)) = [] := by
    rw [sorted_eq_nil, List.filter_eq_nil_iff]
    intro s hs
    rw [(price_of_usable (h.priced s hs)).1]
    simp
  have hbad : sorted (p.symbols.filter (fun s => ¬ usable_price (prices s))) = [] := by
    rw [sorted_eq_nil, List.filter_eq_nil_iff]
    intro s hs
    simp [h.priced s hs]
  obtain ⟨concentrated, hconcentration⟩ := Outcome.exists_eq_ok
    (isOk_concentration (weights_ne_nil p prices) top_n)
  obtain ⟨totals, htotals⟩ := Outcome.exists_eq_ok
    (isOk_sector_totals (weights_known p prices) ⟨∅, [], 0⟩)
  unfold value
  simp only [hmissing, hbad, ne_eq, not_true_eq_false, if_false, not_le.mpr h.worth]
  rw [hconcentration]
  unfold sector_exposure
  rw [htotals]
  exact ⟨_, rfl⟩

/-- The weights of a portfolio that is worth something add up to 1. -/
theorem sum_weights (h : Valued p prices) :
    ((p.weights prices).items.map Prod.snd).sum = 1 := by
  have hpos : 0 < p.total_market_value prices :=
    lt_trans (by norm_num [holdings.EPSILON]) h.worth
  show ((p.holdings.map _).map Prod.snd).sum = 1
  rw [List.map_map]
  have hdiv : p.holdings.map (Prod.snd ∘ fun h =>
      (h.symbol, market_value prices h / p.total_market_value prices))
      = p.holdings.map (fun h => market_value prices h * (p.total_market_value prices)⁻¹) := by
    apply List.map_congr_left
    intro h _
    exact div_eq_mul_inv _ _
  rw [hdiv, List.sum_map_mul_right]
  exact mul_inv_cancel₀ hpos.ne'

theorem weights_pos (h : Valued p prices) : ∀ item ∈ (p.weights prices).items, 0 < item.2 := by
  have hpos : 0 < p.total_market_value prices :=
    lt_trans (by norm_num [holdings.EPSILON]) h.worth
  intro item hitem
  obtain ⟨holding, hholding, rfl⟩ := List.mem_map.mp hitem
  have hprice := (price_of_usable (h.priced _ (List.mem_map_of_mem hholding))).2
  exact div_pos (mul_pos holding.quantity_pos hprice) hpos

end Portfolio

/-! ## Holdings from weights -/

/-- One holding of a rebuilt portfolio: `weight * total_value / float(prices[symbol])`. -/
def holding_from_weight (rt : Runtime) (prices : Prices) (total_value : ℚ)
    (item : String × ℚ) : Except PortfolioError Holding :=
  match prices item.1 with
  | none => .error (.KeyError item.1)
  | some price =>
    if price = .num 0 then .error .ZeroDivisionError
    else Holding.new rt item.1 ((Python.Float.num (item.2 * total_value)).div price) none

/-- Rebuild a portfolio that holds `weights` of `total_value`. Zero weights are
    dropped. -/
def Portfolio.from_weights (rt : Runtime) (weights : Weights) (prices : Prices) (total_value : ℚ)
    (name base_currency benchmark : String) : Except PortfolioError Portfolio := do
  let holdings ← (weights.items.filter (fun item => 0 < item.2)).mapM
    (holding_from_weight rt prices total_value)
  if holdings = [] then
    .error (.invalid "The scenario leaves the portfolio with no positions.")
  else Portfolio.new holdings name base_currency benchmark

end risk

end Quantora
