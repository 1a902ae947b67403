import Mathlib.Algebra.BigOperators.Ring.List
import Mathlib.Algebra.Order.Field.Basic
import Quantora.Framework.Equivariance
import Quantora.Strategy.Registry
import Quantora.Strategy.Warmups

/-! # Signals in another currency

    Prices quoted in another currency are multiplied by a rate. A strategy that
    compares prices with averages, ranges and bands of prices says the same.

    * `PriceSeries.convert` — the same bars in another currency.
    * The indicators are equivariant: a line of prices is multiplied by the rate,
      a ratio of prices stays.
    * `generate_signals_convert` — the same rows, for a strategy of one series. -/

namespace Quantora

/-- Units of the new currency for one of the old. -/
abbrev Rate := {c : ℚ // 0 < c}

namespace Rate

variable (c : Rate) (x : ℚ)

theorem mul_nonpos_iff : c.1 * x ≤ 0 ↔ x ≤ 0 := by
  simpa using mul_le_mul_iff_of_pos_left (b := x) (c := 0) c.2

theorem mul_neg_iff : c.1 * x < 0 ↔ x < 0 := by
  simpa using mul_lt_mul_iff_of_pos_left (b := x) (c := 0) c.2

theorem sum_map_mul (values : List ℚ) : (values.map (c.1 * ·)).sum = c.1 * values.sum := by
  rw [List.sum_map_mul_left, List.map_id']

end Rate

/-- The root of an amount is in the currency. -/
def Runtime.RootConverts (rt : Runtime) (c : Rate) : Prop :=
  ∀ x, 0 ≤ x → rt.sqrt (c * c * x) = c * rt.sqrt x

/-- Prices are multiplied, volumes stay. -/
def Bar.convert (c : Rate) (bar : Bar) : Bar where
  timestamp := bar.timestamp
  open_ := c * bar.open_
  high := c * bar.high
  low := c * bar.low
  close := c * bar.close
  adj_close := c * bar.adj_close
  volume := bar.volume

@[simp] theorem Bar.timestamp_convert (c : Rate) (bar : Bar) :
    (bar.convert c).timestamp = bar.timestamp := rfl

def PriceFrame.convert (c : Rate) (frame : PriceFrame) : PriceFrame where
  bars := frame.bars.map (Bar.convert c)
  increasing := List.pairwise_map.mpr frame.increasing

@[simp] theorem PriceFrame.index_convert (c : Rate) (frame : PriceFrame) :
    (frame.convert c).index = frame.index := by
  show (frame.bars.map (Bar.convert c)).map Bar.timestamp = frame.bars.map Bar.timestamp
  rw [List.map_map]
  rfl

def PriceSeries.convert (c : Rate) (series : PriceSeries) : PriceSeries where
  symbol := series.symbol
  interval := series.interval
  frame := series.frame.convert c
  provenance := series.provenance

/-! ## Cells -/

namespace Cell

def convert (c : Rate) : Cell → Cell := Option.map (c * ·)

variable (c : Rate) (a b : Cell)

theorem sub_convert : sub (convert c a) (convert c b) = convert c (sub a b) := by
  cases a <;> cases b <;> simp [sub, convert, mul_sub]

theorem add_convert : add (convert c a) (convert c b) = convert c (add a b) := by
  cases a <;> cases b <;> simp [add, convert, mul_add]

/-- A factor without a unit. -/
theorem mul_convert (k : Cell) : mul k (convert c a) = convert c (mul k a) := by
  cases a <;> cases k <;> simp [mul, convert, mul_left_comm]

theorem div_convert : div (convert c a) (convert c b) = div a b := by
  cases a <;> cases b <;> simp [div, convert, mul_div_mul_left _ _ c.2.ne']

theorem maximum_convert : maximum (convert c a) (convert c b) = convert c (maximum a b) := by
  cases a <;> cases b <;> simp [maximum, convert, mul_max_of_nonneg _ _ c.2.le]

theorem lt_convert : lt (convert c a) (convert c b) = lt a b := by
  cases a <;> cases b <;> simp [lt, convert, c.2]

theorem le_convert : le (convert c a) (convert c b) = le a b := by
  cases a <;> cases b <;> simp [le, convert, c.2]

theorem mask_zero_convert : mask_zero (convert c a) = convert c (mask_zero a) := by
  cases a with
  | none => rfl
  | some x =>
    by_cases hx : x = 0
    · simp [mask_zero, convert, Option.filter, hx]
    · simp [mask_zero, convert, Option.filter, hx, c.2.ne']

theorem isSome_convert : (convert c a).isSome = a.isSome := by cases a <;> rfl

/-- Zero is zero in any currency. -/
theorem convert_zero : convert c (some 0) = some 0 := by simp [convert]

end Cell

/-! ## Indicators -/

namespace indicators

variable (c : Rate) (values : List ℚ)

theorem mean_convert : mean (values.map (c * ·)) = c * mean values := by
  rw [mean, mean, c.sum_map_mul, List.length_map, mul_div_assoc]

/-- A variance is a square. -/
theorem variance_convert : variance (values.map (c * ·)) = c * c * variance values := by
  have hsquares : (values.map (c.1 * ·)).map (fun x =>
      (x - mean (values.map (c.1 * ·))) * (x - mean (values.map (c.1 * ·))))
        = (values.map (fun x => (x - mean values) * (x - mean values))).map
            ((c.1 * c.1) * ·) := by
    rw [mean_convert, List.map_map, List.map_map]
    refine List.map_congr_left fun x _ => ?_
    simp only [Function.comp]
    ring
  have hcc : 0 < c.1 * c.1 := mul_pos c.2 c.2
  rw [variance, hsquares]
  exact mean_convert ⟨c.1 * c.1, hcc⟩ _

theorem max?_convert : (values.map (c.1 * ·)).max? = Cell.convert c values.max? := by
  cases values with
  | nil => rfl
  | cons x xs =>
    rw [List.map_cons, List.max?_cons', List.max?_cons']
    refine congrArg some ?_
    -- Induction over the rest; the greatest value so far is generalised.
    induction xs generalizing x with
    | nil => rfl
    | cons y ys ih =>
      rw [List.map_cons, List.foldl_cons, List.foldl_cons, ← mul_max_of_nonneg _ _ c.2.le]
      exact ih (max x y)

theorem min?_convert : (values.map (c.1 * ·)).min? = Cell.convert c values.min? := by
  cases values with
  | nil => rfl
  | cons x xs =>
    rw [List.map_cons, List.min?_cons', List.min?_cons']
    refine congrArg some ?_
    induction xs generalizing x with
    | nil => rfl
    | cons y ys ih =>
      rw [List.map_cons, List.foldl_cons, List.foldl_cons, ← mul_min_of_nonneg _ _ c.2.le]
      exact ih (min x y)

variable {c}

theorem mapM_id_convert (cells : List Cell) :
    (cells.map (Cell.convert c)).mapM id = (cells.mapM id).map (List.map (c.1 * ·)) := by
  induction cells with
  | nil => rfl
  | cons cell cells ih =>
    rw [List.map_cons, List.mapM_cons, List.mapM_cons, ih]
    cases cell with
    | none => rfl
    | some x => cases cells.mapM id <;> rfl

/-- A statistic that is multiplied by a rate of its own. -/
theorem rolling_convert (window : ℕ) {statistic : List ℚ → Cell} (d : Rate)
    (h : ∀ values, statistic (values.map (c.1 * ·)) = Cell.convert d (statistic values)) :
    Equivariant (Cell.convert c) (Cell.convert d) (rolling window statistic) := by
  refine Equivariant.prefixes fun seen => ?_
  rw [List.length_map, ← List.map_drop, mapM_id_convert]
  split_ifs
  · rfl
  · cases (seen.drop (seen.length - window)).mapM id with
    | none => rfl
    | some values => exact h values

theorem sma_convert (window : ℕ) :
    Equivariant (Cell.convert c) (Cell.convert c) (fun xs => sma xs window) :=
  rolling_convert window c fun values => congrArg some (mean_convert c values)

/-- The root of a variance is in the currency, when a square comes out of the
    root. -/
theorem rolling_std_convert {rt : Runtime} (hroot : rt.RootConverts c) (window : ℕ) :
    Equivariant (Cell.convert c) (Cell.convert c) (fun xs => rolling_std rt xs window) :=
  rolling_convert window c fun values => congrArg some (by
    rw [variance_convert, hroot _ (variance_nonneg values)])

theorem shift_convert : Equivariant (Cell.convert c) (Cell.convert c) shift := by
  refine Equivariant.map Equivariant.shift Option.join fun cell => ?_
  cases cell <;> rfl

theorem ema_convert (span : ℕ) :
    Equivariant (c.1 * ·) (Cell.convert c) (fun values => ema values span) := by
  intro values
  simp only [ema, List.length_map]
  split_ifs
  · rw [List.map_replicate]
    rfl
  · have hloop : ∀ (alpha seed : ℚ) (rest : List ℚ),
        ema_loop alpha (c.1 * seed) (rest.map (c.1 * ·))
          = (ema_loop alpha seed rest).map (Cell.convert c) := by
      intro alpha seed rest
      refine Equivariant.scan (c.1 * ·) (fun current value => ?_) seed rest
      have hmix : alpha * (c.1 * value) + (1 - alpha) * (c.1 * current)
          = c.1 * (alpha * value + (1 - alpha) * current) := by ring
      simp only [hmix, Cell.convert, Option.map_some]
    rw [← List.map_take, ← List.map_drop, mean_convert, hloop, List.map_append, List.map_cons,
      List.map_replicate]
    rfl

theorem macd_convert (values : List ℚ) (fast slow signal : ℕ) :
    let lines := macd values fast slow signal
    let converted := macd (values.map (c.1 * ·)) fast slow signal
    converted.macd = lines.macd.map (Cell.convert c) ∧
      converted.signal = lines.signal.map (Cell.convert c) ∧
      converted.histogram = lines.histogram.map (Cell.convert c) := by
  have hline : Equivariant (c.1 * ·) (Cell.convert c)
      (fun values => List.zipWith Cell.sub (ema values fast) (ema values slow)) :=
    (ema_convert fast).zipWith (ema_convert slow) Cell.sub (Cell.sub_convert c)
  have hsignal : Equivariant (c.1 * ·) (Cell.convert c) (fun values =>
      Column.onDefined (fun seeded => ema seeded signal)
        (List.zipWith Cell.sub (ema values fast) (ema values slow))) :=
    Equivariant.comp (Equivariant.onDefined (ema_convert signal)) hline
  exact ⟨hline values, hsignal values, hline.zipWith hsignal Cell.sub (Cell.sub_convert c) values⟩

end indicators

/-! ## Held signals -/

/-- The target of a bar and its reason, without the values they were made from. -/
def BarSignal.target (signal : BarSignal) : SignalDirection × String :=
  (signal.direction, signal.reason)

/-- The events and reasons are in no currency. -/
theorem held_signals_target {φ : Type} {event : φ → Option SignalDirection}
    {reason : Bool → φ → String} {columns columns' : φ → List (String × Cell)} (u : φ → φ)
    (hevent : ∀ fact, event (u fact) = event fact)
    (hreason : ∀ changed fact, reason changed (u fact) = reason changed fact) (facts : List φ) :
    (held_signals event reason columns' (facts.map u)).map BarSignal.target
      = (held_signals event reason columns facts).map BarSignal.target := by
  have hevents : (facts.map u).map event = facts.map event := by
    rw [List.map_map]
    exact List.map_congr_left fun fact _ => hevent fact
  simp only [held_signals, hevents, List.map_zipWith, List.zipWith_map_right, BarSignal.target,
    hreason]

/-- A row reads the time of its bar, and the target. -/
theorem rows_convert (c : Rate) {bars : List Bar} {signals signals' : List BarSignal}
    (h : signals'.map BarSignal.target = signals.map BarSignal.target) :
    List.zipWith BarSignal.row (bars.map (Bar.convert c)) signals'
      = List.zipWith BarSignal.row bars signals := by
  have hrow : ∀ (bars : List Bar) (signals : List BarSignal),
      List.zipWith BarSignal.row bars signals
        = List.zipWith (fun (t : Timestamp) (target : SignalDirection × String) =>
            (⟨t, target.1, if target.1 ≠ .FLAT then 1 else 0, target.2⟩ : SignalRow))
          (bars.map Bar.timestamp) (signals.map BarSignal.target) := by
    intro bars signals
    rw [List.zipWith_map]
    rfl
  rw [hrow, hrow, h, List.map_map]
  rfl

/-! ## The strategies of one series -/

section Strategies

variable {c : Rate}

namespace MACD

def Facts.convert (c : Rate) (f : Facts) : Facts :=
  ⟨Cell.convert c f.macd, Cell.convert c f.signal, Cell.convert c f.histogram,
    Cell.convert c f.previous⟩

variable (p : Parameters)

theorem facts_convert (bars : List Bar) :
    facts p (bars.map (Bar.convert c)) = (facts p bars).map (Facts.convert c) := by
  obtain ⟨hmacd, hsignal, hhistogram⟩ := indicators.macd_convert (bars.map Bar.close)
    p.fast.1.toNat p.slow.1.toNat p.signal.1.toNat (c := c)
  have hcloses : (bars.map (Bar.convert c)).map Bar.close = (bars.map Bar.close).map (c.1 * ·) := by
    rw [List.map_map, List.map_map]
    rfl
  simp only [facts, hcloses, hmacd, hsignal, hhistogram, indicators.shift_convert _,
    List.zip_map, List.zipWith_map, List.map_zipWith]
  rfl

theorem crossed_up_convert (f : Facts) : crossed_up p (f.convert c) = crossed_up p f := by
  have hpositive : ∀ cell, Cell.lt (some 0) (Cell.convert c cell) = Cell.lt (some 0) cell := by
    intro cell
    rw [← Cell.lt_convert c (some 0) cell, Cell.convert_zero]
  have hnonpositive : Cell.le (Cell.convert c f.previous) (some 0)
      = Cell.le f.previous (some 0) := by
    rw [← Cell.le_convert c f.previous (some 0), Cell.convert_zero]
  simp only [crossed_up, Facts.convert, hpositive, hnonpositive]

theorem crossed_down_convert (f : Facts) : crossed_down p (f.convert c) = crossed_down p f := by
  have hnegative : ∀ cell, Cell.lt (Cell.convert c cell) (some 0) = Cell.lt cell (some 0) := by
    intro cell
    rw [← Cell.lt_convert c cell (some 0), Cell.convert_zero]
  have hnonnegative : Cell.le (some 0) (Cell.convert c f.previous)
      = Cell.le (some 0) f.previous := by
    rw [← Cell.le_convert c (some 0) f.previous, Cell.convert_zero]
  simp only [crossed_down, Facts.convert, hnegative, hnonnegative]

theorem bar_signals_convert (bars : List Bar) :
    (bar_signals p (bars.map (Bar.convert c))).map BarSignal.target
      = (bar_signals p bars).map BarSignal.target := by
  rw [bar_signals, bar_signals, facts_convert]
  refine held_signals_target (Facts.convert c) (fun f => ?_) (fun _ f => ?_) _
  · simp only [event, crossed_up_convert, crossed_down_convert]
  · simp only [reason, crossed_up_convert, crossed_down_convert]

end MACD

namespace DualThrust

def Facts.convert (c : Rate) (f : Facts) : Facts := ⟨f.bar.convert c, Cell.convert c f.range⟩

variable (p : Parameters)

/-- A window of one price column. -/
theorem prior_convert {statistic : List ℚ → Cell} {column : Bar → ℚ}
    (hcolumn : ∀ bar, column (bar.convert c) = c * column bar)
    (hstatistic : ∀ values, statistic (values.map (c.1 * ·)) = Cell.convert c (statistic values)) :
    Equivariant (Bar.convert c) (Cell.convert c) (prior p statistic column) := by
  have hcells : Equivariant (Bar.convert c) (Cell.convert c)
      (fun bars : List Bar => bars.map (fun bar => (some (column bar) : Cell))) :=
    Equivariant.id.map _ fun bar => by rw [hcolumn]; rfl
  exact (indicators.rolling_convert _ c hstatistic).comp (indicators.shift_convert.comp hcells)

theorem facts_convert (bars : List Bar) :
    facts p (bars.map (Bar.convert c)) = (facts p bars).map (Facts.convert c) := by
  have hmax : ∀ column : Bar → ℚ, (∀ bar, column (bar.convert c) = c * column bar) →
      Equivariant (Bar.convert c) (Cell.convert c) (prior p List.max? column) :=
    fun _ hcolumn => prior_convert p hcolumn (indicators.max?_convert c)
  have hmin : ∀ column : Bar → ℚ, (∀ bar, column (bar.convert c) = c * column bar) →
      Equivariant (Bar.convert c) (Cell.convert c) (prior p List.min? column) :=
    fun _ hcolumn => prior_convert p hcolumn (indicators.min?_convert c)
  have hhighs := (hmax Bar.high fun _ => rfl).zipWith (hmin Bar.close fun _ => rfl)
    Cell.sub (Cell.sub_convert c)
  have hlows := (hmax Bar.close fun _ => rfl).zipWith (hmin Bar.low fun _ => rfl)
    Cell.sub (Cell.sub_convert c)
  have hrange : Equivariant (Bar.convert c) (Cell.convert c) (range p) :=
    hhighs.zipWith hlows Cell.maximum (Cell.maximum_convert c)
  exact Equivariant.id.zipWith hrange Facts.mk (fun _ _ => rfl) bars

/-- A range of zero is none in any currency. -/
theorem range_pos_convert (f : Facts) :
    Cell.lt (some 0) (f.convert c).range = Cell.lt (some 0) f.range := by
  have hrange := Cell.lt_convert c (some 0) f.range
  rwa [Cell.convert_zero] at hrange

theorem broke_up_convert (f : Facts) : broke_up p (f.convert c) = broke_up p f := by
  have htrigger : upper_trigger p (f.convert c) = Cell.convert c (upper_trigger p f) := by
    rw [upper_trigger, upper_trigger, ← Cell.add_convert, ← Cell.mul_convert]
    rfl
  have hprice : (some (if p.trigger_on.1 = "close" then (f.convert c).bar.close
        else (f.convert c).bar.high) : Cell)
      = Cell.convert c (some (if p.trigger_on.1 = "close" then f.bar.close else f.bar.high)) := by
    split_ifs <;> rfl
  rw [broke_up, broke_up, range_pos_convert, htrigger, hprice, Cell.le_convert]

theorem broke_down_convert (f : Facts) : broke_down p (f.convert c) = broke_down p f := by
  have htrigger : lower_trigger p (f.convert c) = Cell.convert c (lower_trigger p f) := by
    rw [lower_trigger, lower_trigger, ← Cell.sub_convert, ← Cell.mul_convert]
    rfl
  have hprice : (some (if p.trigger_on.1 = "close" then (f.convert c).bar.close
        else (f.convert c).bar.low) : Cell)
      = Cell.convert c (some (if p.trigger_on.1 = "close" then f.bar.close else f.bar.low)) := by
    split_ifs <;> rfl
  rw [broke_down, broke_down, range_pos_convert, htrigger, hprice, Cell.le_convert]

theorem bar_signals_convert (bars : List Bar) :
    (bar_signals p (bars.map (Bar.convert c))).map BarSignal.target
      = (bar_signals p bars).map BarSignal.target := by
  rw [bar_signals, bar_signals, facts_convert]
  refine held_signals_target (Facts.convert c) (fun f => ?_) (fun _ f => ?_) _
  · simp only [event, broke_up_convert, broke_down_convert]
  · simp only [reason, broke_up_convert, broke_down_convert]

end DualThrust

namespace Bollinger

/-- The bandwidth and the position in the band are ratios. -/
def Facts.convert (c : Rate) (f : Facts) : Facts where
  close := Cell.convert c f.close
  previous_close := Cell.convert c f.previous_close
  middle := Cell.convert c f.middle
  previous_middle := Cell.convert c f.previous_middle
  upper := Cell.convert c f.upper
  lower := Cell.convert c f.lower
  bandwidth := f.bandwidth
  percent_b := f.percent_b

variable {rt : Runtime} (p : Parameters)

theorem facts_convert (hroot : rt.RootConverts c) (bars : List Bar) :
    facts rt p (bars.map (Bar.convert c)) = (facts rt p bars).map (Facts.convert c) := by
  have hclose : Equivariant (Bar.convert c) (Cell.convert c)
      (fun bars : List Bar => bars.map (fun bar => (some bar.close : Cell))) :=
    Equivariant.id.map _ fun _ => rfl
  have hmiddle := (indicators.sma_convert p.window.1.toNat).comp hclose
  have hwidth := ((indicators.rolling_std_convert hroot p.window.1.toNat).comp hclose).map
    (Cell.mul p.num_std.1) fun width => Cell.mul_convert c width p.num_std.1
  have hupper := hmiddle.zipWith hwidth Cell.add (Cell.add_convert c)
  have hlower := hmiddle.zipWith hwidth Cell.sub (Cell.sub_convert c)
  have hband := hupper.zipWith hlower Cell.sub (Cell.sub_convert c)
  have hbandwidth := hband.zipWith hmiddle (l := id) Cell.div (Cell.div_convert c)
  have hpercent := (hclose.zipWith hlower Cell.sub (Cell.sub_convert c)).zipWith (l := id)
    (hband.map Cell.mask_zero (Cell.mask_zero_convert c)) Cell.div (Cell.div_convert c)
  exact (hclose.zip (indicators.shift_convert.comp hclose)).zipWith (l := Facts.convert c)
    (((hmiddle.zip (indicators.shift_convert.comp hmiddle)).zip (hupper.zip hlower)).zip
      (hbandwidth.zip hpercent))
    (fun prices bands => ⟨prices.1, prices.2, bands.1.1.1, bands.1.1.2, bands.1.2.1, bands.1.2.2,
      bands.2.1, bands.2.2⟩) (fun _ _ => rfl) bars

theorem above_upper_convert (f : Facts) : above_upper (f.convert c) = above_upper f := by
  simp only [above_upper, Facts.convert, Cell.lt_convert, Cell.isSome_convert]

theorem below_lower_convert (f : Facts) : below_lower (f.convert c) = below_lower f := by
  simp only [below_lower, Facts.convert, Cell.lt_convert, Cell.isSome_convert]

theorem crossed_above_middle_convert (f : Facts) :
    crossed_above_middle (f.convert c) = crossed_above_middle f := by
  simp only [crossed_above_middle, Facts.convert, Cell.lt_convert, Cell.le_convert]

theorem crossed_below_middle_convert (f : Facts) :
    crossed_below_middle (f.convert c) = crossed_below_middle f := by
  simp only [crossed_below_middle, Facts.convert, Cell.lt_convert, Cell.le_convert]

theorem event_convert (f : Facts) : event p (f.convert c) = event p f := by
  simp only [event, above_upper_convert, below_lower_convert, crossed_above_middle_convert,
    crossed_below_middle_convert]

theorem reason_convert (changed : Bool) (f : Facts) :
    reason p changed (f.convert c) = reason p changed f := by
  simp only [reason, above_upper_convert, below_lower_convert, crossed_above_middle_convert,
    crossed_below_middle_convert]

theorem bar_signals_convert (hroot : rt.RootConverts c) (bars : List Bar) :
    (bar_signals rt p (bars.map (Bar.convert c))).map BarSignal.target
      = (bar_signals rt p bars).map BarSignal.target := by
  rw [bar_signals, bar_signals, facts_convert p hroot]
  exact held_signals_target (Facts.convert c) (event_convert p) (reason_convert p) _

end Bollinger

/-- A strategy of one series emits the same rows in any currency. Bollinger bands
    take roots of squares of prices, so the root has to give the rate back. -/
theorem generate_signals_convert {rt : Runtime} {strategy : RegisteredStrategy}
    (halone : strategy.auxiliary_symbols = [])
    (hroot : ∀ p, strategy = .bollinger p → rt.RootConverts c)
    (series : PriceSeries) :
    Outcome.Related (fun signals signals' => signals'.frame = signals.frame)
      (strategy.generate_signals rt none series)
      (strategy.generate_signals rt none (series.convert c)) := by
  have hlength : (series.convert c).frame.bars.length = series.frame.bars.length :=
    List.length_map _
  have hwarmup : ∀ name warmup_bars,
      require_warmup name warmup_bars (series.convert c)
        = require_warmup name warmup_bars series := by
    intro name warmup_bars
    rw [require_warmup, require_warmup, hlength]
  cases strategy with
  | macd p =>
    simp only [RegisteredStrategy.generate_signals, MACD.generate_signals, hwarmup]
    cases require_warmup "macd" p.warmup_bars series with
    | error e => exact .error e
    | ok => exact .ok (rows_convert c (MACD.bar_signals_convert p _))
  | bollinger p =>
    simp only [RegisteredStrategy.generate_signals, Bollinger.generate_signals, hwarmup]
    cases require_warmup "bollinger" p.warmup_bars series with
    | error e => exact .error e
    | ok => exact .ok (rows_convert c (Bollinger.bar_signals_convert p (hroot p rfl) _))
  | dual_thrust p =>
    simp only [RegisteredStrategy.generate_signals, DualThrust.generate_signals, hwarmup]
    cases require_warmup "dual_thrust" p.warmup_bars series with
    | error e => exact .error e
    | ok => exact .ok (rows_convert c (DualThrust.bar_signals_convert p _))
  | pair_trading p => cases halone

end Strategies

end Quantora
