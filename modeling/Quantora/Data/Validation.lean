import Quantora.Data.Types
import Quantora.Python.Floats

/-! # Validation

    `data/validation.py`: the hard rules every dataset must satisfy. A frame as
    a provider returns it may repeat or disorder its timestamps and may have
    missing cells; every broken rule is reported, with the number of rows.

    A frame that passes, and whose cells are numbers, is a `PriceFrame`. -/

namespace Quantora

/-- One row of a frame that was not validated. -/
structure RawBar where
  timestamp : Timestamp
  open_ : Python.Float
  high : Python.Float
  low : Python.Float
  close : Python.Float
  adj_close : Python.Float
  volume : Python.Float
  deriving DecidableEq, Repr

abbrev RawFrame := List RawBar

namespace RawBar

/-- `_PRICE_COLUMNS`. -/
def prices (bar : RawBar) : List Python.Float :=
  [bar.open_, bar.high, bar.low, bar.close, bar.adj_close]

/-- A cell of the row is NaN. -/
def missing (bar : RawBar) : Bool := (bar.prices ++ [bar.volume]).any (· = .nan)

end RawBar

/-- One failed validation rule. -/
structure Violation where
  rule : String
  message : String
  row_count : ℕ
  deriving DecidableEq, Repr

/-! ## Timestamps -/

/-- `index.duplicated(keep=False)`: the timestamps of the rows that repeat one. -/
def duplicated (index : List Timestamp) : List Timestamp :=
  index.filter (fun t => 1 < index.count t)

/-- Consecutive pairs that do not increase. -/
def non_increasing (index : List Timestamp) : List (Timestamp × Timestamp) :=
  (index.zip index.tail).filter (fun pair => pair.2 ≤ pair.1)

def check_timestamps (frame : RawFrame) : List Violation :=
  let index := frame.map RawBar.timestamp
  let repeated := duplicated index
  (if repeated = [] then []
    else [⟨"duplicate_timestamp", toString repeated.dedup.length
      ++ " timestamp(s) appear more than once. Duplicated bars would be "
      ++ "counted twice by the backtester.", repeated.length⟩])
    -- `is_monotonic_increasing` allows repetitions; the count does not.
    ++ (if (index.zip index.tail).all (fun pair => pair.1 ≤ pair.2) then []
    else [⟨"non_monotonic_timestamp",
      "Timestamps are not strictly increasing. Out-of-order bars would let a later "
        ++ "price influence an earlier decision (look-ahead bias).",
      (non_increasing index).length⟩])

/-! ## Values -/

/-- The violation of a rule that some rows of a frame break. -/
def row_violation (rule : String) (message : ℕ → String) (broken : RawBar → Bool)
    (frame : RawFrame) : List Violation :=
  let rows := frame.countP broken
  if rows = 0 then [] else [⟨rule, message rows, rows⟩]

def missing_value : RawFrame → List Violation :=
  row_violation "missing_value" (fun rows => toString rows
    ++ " row(s) contain NaN in an OHLCV field. The rows are not "
    ++ "forward-filled: an invented price is worse than a refused answer.") RawBar.missing

def non_positive_price : RawFrame → List Violation :=
  row_violation "non_positive_price" (fun rows => toString rows ++ " row(s) contain a price <= 0.")
    (fun bar => bar.prices.any (·.le (.num 0)))

def negative_volume : RawFrame → List Violation :=
  row_violation "negative_volume" (fun rows => toString rows ++ " row(s) report negative volume.")
    (fun bar => bar.volume.lt (.num 0))

def high_below_low : RawFrame → List Violation :=
  row_violation "high_below_low" (fun rows => toString rows ++ " row(s) have high < low.")
    (fun bar => bar.high.lt bar.low)

def open_out_of_range : RawFrame → List Violation :=
  row_violation "open_out_of_range" (fun rows => toString rows
    ++ " row(s) violate low <= open <= high. "
    ++ "An open outside the bar's range makes every fill simulated at the open wrong.")
    (fun bar => bar.open_.lt bar.low || bar.high.lt bar.open_)

def close_out_of_range : RawFrame → List Violation :=
  row_violation "close_out_of_range"
    (fun rows => toString rows ++ " row(s) violate low <= close <= high.")
    (fun bar => bar.close.lt bar.low || bar.high.lt bar.close)

/-- The value rules are evaluated on the complete rows only. -/
def check_values (frame : RawFrame) : List Violation :=
  let complete := frame.filter (fun bar => ¬ bar.missing)
  missing_value frame ++ non_positive_price complete ++ negative_volume complete
    ++ high_below_low complete ++ open_out_of_range complete ++ close_out_of_range complete

/-- What `validate_prices` collects before it raises. -/
def violations (frame : RawFrame) : List Violation :=
  check_timestamps frame ++ check_values frame

/-! ## A frame that passed -/

/-- A cell as a number. -/
def RawBar.cell : Python.Float → Option ℚ
  | .num x => some x
  | _ => none

def RawBar.to_bar (bar : RawBar) : Option Bar := do
  .some ⟨bar.timestamp, ← cell bar.open_, ← cell bar.high, ← cell bar.low, ← cell bar.close,
    ← cell bar.adj_close, ← cell bar.volume⟩

/-- A frame of numbers on an increasing index. -/
def PriceFrame.of_raw (frame : RawFrame) : Option PriceFrame :=
  match frame.mapM RawBar.to_bar with
  | none => none
  | some bars => if h : bars.Pairwise (fun a b => a.timestamp < b.timestamp) then some ⟨bars, h⟩
    else none

/-! ## What a passed frame promises -/

theorem RawBar.cell_eq_some {x : Python.Float} {q : ℚ} : cell x = some q ↔ x = .num q := by
  cases x with
  | nan => simp [cell]
  | inf negative => simp [cell]
  | num x => simp [cell]

/-- A row of numbers has no missing cell. -/
theorem RawBar.of_to_bar {raw : RawBar} {bar : Bar} (h : raw.to_bar = some bar) :
    raw = ⟨bar.timestamp, .num bar.open_, .num bar.high, .num bar.low, .num bar.close,
      .num bar.adj_close, .num bar.volume⟩ := by
  unfold to_bar at h
  obtain ⟨open_, hopen, h⟩ := Option.bind_eq_some_iff.mp h
  obtain ⟨high, hhigh, h⟩ := Option.bind_eq_some_iff.mp h
  obtain ⟨low, hlow, h⟩ := Option.bind_eq_some_iff.mp h
  obtain ⟨close, hclose, h⟩ := Option.bind_eq_some_iff.mp h
  obtain ⟨adj_close, hadj, h⟩ := Option.bind_eq_some_iff.mp h
  obtain ⟨volume, hvolume, h⟩ := Option.bind_eq_some_iff.mp h
  obtain rfl := Option.some.inj h
  rw [cell_eq_some] at hopen hhigh hlow hclose hadj hvolume
  show raw = ⟨raw.timestamp, _, _, _, _, _, _⟩
  rw [← hopen, ← hhigh, ← hlow, ← hclose, ← hadj, ← hvolume]

/-- Each bar comes from a row. -/
theorem exists_raw_of_mapM {frame : RawFrame} {bars : List Bar}
    (h : frame.mapM RawBar.to_bar = some bars) :
    ∀ bar ∈ bars, ∃ raw ∈ frame, raw.to_bar = some bar := by
  induction frame generalizing bars with
  | nil =>
    obtain rfl := Option.some.inj h
    intro bar hbar
    cases hbar
  | cons raw frame ih =>
    rw [List.mapM_cons] at h
    obtain ⟨first, hfirst, h⟩ := Option.bind_eq_some_iff.mp h
    obtain ⟨rest, hrest, h⟩ := Option.bind_eq_some_iff.mp h
    obtain rfl := Option.some.inj h
    refine List.forall_mem_cons.mpr ⟨⟨raw, List.mem_cons_self, hfirst⟩, fun bar hbar => ?_⟩
    obtain ⟨raw', hraw', heq⟩ := ih hrest bar hbar
    exact ⟨raw', List.mem_cons_of_mem _ hraw', heq⟩

theorem PriceFrame.positive_of_raw {raw : RawFrame} {frame : PriceFrame}
    (hvalid : violations raw = []) (h : PriceFrame.of_raw raw = some frame) :
    ∀ bar ∈ frame.bars, bar.Positive := by
  have hprices : non_positive_price (raw.filter (fun bar => ¬ bar.missing)) = [] := by
    unfold violations check_values at hvalid
    simp only [List.append_eq_nil_iff] at hvalid
    exact hvalid.2.1.1.1.1.2
  unfold PriceFrame.of_raw at h
  cases hbars : raw.mapM RawBar.to_bar with
  | none =>
    rw [hbars] at h
    cases h
  | some bars =>
    rw [hbars] at h
    simp only at h
    split_ifs at h
    obtain rfl := Option.some.inj h
    intro bar hbar
    obtain ⟨row, hrow, hto_bar⟩ := exists_raw_of_mapM hbars bar hbar
    have hcells := RawBar.of_to_bar hto_bar
    have hcomplete : row ∈ raw.filter (fun bar => ¬ bar.missing) := by
      rw [List.mem_filter]
      refine ⟨hrow, ?_⟩
      rw [hcells]
      simp [RawBar.missing, RawBar.prices]
    -- No complete row has a price that is zero or less.
    have hnone : (raw.filter (fun bar => ¬ bar.missing)).countP
        (fun bar => bar.prices.any (·.le (.num 0))) = 0 := by
      unfold non_positive_price row_violation at hprices
      by_contra hne
      rw [if_neg hne] at hprices
      cases hprices
    have hrow_prices := List.countP_eq_zero.mp hnone row hcomplete
    rw [hcells] at hrow_prices
    simp only [RawBar.prices, List.any_cons, List.any_nil, Python.Float.le, Bool.or_false,
      Bool.or_eq_true, decide_eq_true_eq, not_or, not_le] at hrow_prices
    obtain ⟨hopen, hhigh, hlow, hclose, -⟩ := hrow_prices
    exact ⟨hopen, hhigh, hlow, hclose⟩

end Quantora
