import Quantora.Framework.Switching
import Quantora.Strategy.FirstSignals

/-! # Fewer events, no more transitions

    Two runs over the same bars, of which one has only some of the events of the
    other, do not have to change their target at the same bars. They are compared
    by counting: `Column.cost_holdFrom_le` says that removing events does not add
    switches.

    * `countP_transitions` — the number of transitions to a direction is the cost
      of switching to it.
    * `fewer_transitions` — so it does not grow when events are removed.
    * `wider_trigger_fewer_longs` — a wider upper trigger of Dual Thrust removes
      upward breakouts.
    * `filters_only_remove_trades` — the zero-line filter removes crossovers, and
      without `exit_at_middle` the exits are removed. -/

namespace Quantora

open Column

/-! ## Counting -/

section Count

variable (P : SignalDirection → Bool)

/-- A switch to a direction that counts. -/
def CountedSwitch (a b : SignalDirection) : Prop := a ≠ b ∧ P b = true

instance : DecidableRel (CountedSwitch P) := fun _ _ => inferInstanceAs (Decidable (_ ∧ _))

theorem distance_countedSwitch : Distance (indicator (CountedSwitch P)) := by
  apply distance_indicator
  · exact fun a h => h.1 rfl
  · rintro a b c ⟨hac, hc⟩
    -- If the detour already is at `c`, it got there on its first leg.
    by_cases hbc : b = c
    · subst hbc
      exact Or.inl ⟨hac, hc⟩
    · exact Or.inr ⟨hbc, hc⟩

/-- The rows at which the direction differs from the one before. Induction over
    the rows; `before` is the direction that the machine of `shift` remembers. -/
theorem countP_changed (rows : List SignalRow) (before : SignalDirection) :
    (((rows.zip (List.zipWith (fun direction before => decide (before ≠ some direction))
        (rows.map SignalRow.direction)
        (scan (fun before x => (some x, before)) (some before) (rows.map SignalRow.direction)))
      ).filter Prod.snd).map Prod.fst).countP (fun row => P row.direction)
      = cost (indicator (CountedSwitch P)) before (rows.map SignalRow.direction) := by
  induction rows generalizing before with
  | nil => rfl
  | cons row rows ih =>
    have hrest := ih row.direction
    rw [List.map_cons, scan, List.zipWith_cons_cons, List.zip_cons_cons, cost, ← hrest]
    by_cases hsame : before = row.direction
    · rw [List.filter_cons_of_neg (by simpa using hsame), indicator,
        if_neg (fun h => h.1 hsame), Nat.zero_add]
    · rw [List.filter_cons_of_pos (by simpa using hsame), List.map_cons, List.countP_cons,
        indicator, Nat.add_comm]
      congr 1
      exact if_congr (by simp [CountedSwitch, hsame]) rfl rfl

/-- The transitions to the directions that count: the first row, and what the
    others cost. -/
theorem countP_transitions (signals : SignalSet) {row : SignalRow} {rows : List SignalRow}
    (hframe : signals.frame = row :: rows) :
    signals.transitions.countP (fun row => P row.direction)
      = (if P row.direction then 1 else 0)
        + cost (indicator (CountedSwitch P)) row.direction (rows.map SignalRow.direction) := by
  unfold SignalSet.transitions changed shift
  rw [hframe, List.map_cons, scan, List.zipWith_cons_cons, List.zip_cons_cons,
    List.filter_cons_of_pos (by simp), List.map_cons, List.countP_cons, Nat.add_comm]
  congr 1
  exact countP_changed P rows row.direction

end Count

/-! ## Rows and their events -/

/-- The directions of the rows are the events carried forward. -/
theorem directions_eq {φ : Type} {event : φ → Option SignalDirection}
    {reason : Bool → φ → String} {columns : φ → List (String × Cell)} {facts : List φ}
    {bars : List Bar} (h : facts.length = bars.length) :
    (List.zipWith BarSignal.row bars (held_signals event reason columns facts)).map
      SignalRow.direction = holdFrom .FLAT (facts.map event) := by
  rw [← map_ffill]
  change _ = (held event facts).map _
  apply List.ext_getElem?
  intro i
  by_cases hi : i < facts.length
  · obtain ⟨e, c, he, hs⟩ : ∃ e c, (held event facts)[i]? = some e ∧
        (held_signals event reason columns facts)[i]?
          = some ⟨e.getD .FLAT, reason c facts[i], columns facts[i]⟩ :=
      exists_held_signal (List.getElem?_eq_getElem hi)
    have hbar : bars[i]? = some bars[i] := List.getElem?_eq_getElem (h ▸ hi)
    rw [List.getElem?_map, List.getElem?_map, exists_row hbar hs, he]
    rfl
  · rw [List.getElem?_eq_none, List.getElem?_eq_none]
    · rw [List.length_map, length_held]
      omega
    · rw [List.length_map, List.length_zipWith]
      omega

/-- Without an event at the first bar both runs start flat, and from there on
    fewer events do not switch more often. -/
theorem fewer_transitions (P : SignalDirection → Bool) {signals signals' : SignalSet}
    {events events' : List (Option SignalDirection)}
    (h : signals.frame.map SignalRow.direction = holdFrom .FLAT events)
    (h' : signals'.frame.map SignalRow.direction = holdFrom .FLAT events')
    (hfewer : Fewer events' events) (hfirst : ∀ e ∈ events.head?, e = none) :
    signals'.transitions.countP (fun row => P row.direction)
      ≤ signals.transitions.countP (fun row => P row.direction) := by
  cases hfewer with
  | nil =>
    have hnil : signals'.frame = [] := List.map_eq_nil_iff.mp h'
    unfold SignalSet.transitions
    rw [hnil]
    exact Nat.zero_le _
  | @cons e' e events' events he hrest =>
    obtain rfl : e = none := hfirst e rfl
    obtain rfl : e' = none := he.elim id id
    obtain ⟨row, rows, hframe, hrow, hrows⟩ := List.map_eq_cons_iff.mp h
    obtain ⟨row', rows', hframe', hrow', hrows'⟩ := List.map_eq_cons_iff.mp h'
    have hdistance := distance_countedSwitch P
    have hle := cost_holdFrom_le hdistance hrest SignalDirection.FLAT SignalDirection.FLAT
    rw [hdistance.self, Nat.zero_add] at hle
    rw [countP_transitions P signals hframe, countP_transitions P signals' hframe', hrows, hrows',
      hrow, hrow']
    exact Nat.add_le_add_left hle _

/-- The same for two strategies that look at the same facts of the bars. -/
theorem fewer_transitions_of_facts (P : SignalDirection → Bool) {φ : Type}
    {event event' : φ → Option SignalDirection} {reason reason' : Bool → φ → String}
    {columns columns' : φ → List (String × Cell)} {facts : List φ} {bars : List Bar}
    {signals signals' : SignalSet} (hlen : facts.length = bars.length)
    (h : signals.frame
      = List.zipWith BarSignal.row bars (held_signals event reason columns facts))
    (h' : signals'.frame
      = List.zipWith BarSignal.row bars (held_signals event' reason' columns' facts))
    (hfewer : ∀ f ∈ facts, event' f = none ∨ event' f = event f)
    (hfirst : ∀ f, facts[0]? = some f → event f = none) :
    signals'.transitions.countP (fun row => P row.direction)
      ≤ signals.transitions.countP (fun row => P row.direction) := by
  refine fewer_transitions P (by rw [h, directions_eq hlen]) (by rw [h', directions_eq hlen])
    (fewer_map facts hfewer) ?_
  intro e he
  rw [List.head?_map, Option.mem_def] at he
  obtain ⟨f, hf, rfl⟩ := Option.map_eq_some_iff.mp he
  exact hfirst f (by rw [← hf, List.head?_eq_getElem?])

/-! ## A wider upper trigger -/

namespace DualThrust

variable {p : Parameters} {k : DualThrust.k_upper.Value} {f : Facts}

/-- What reaches the wider trigger reaches the narrower one. -/
theorem broke_up_of_wider (hk : Cell.le p.k_upper.1 k.1 = true)
    (h : broke_up { p with k_upper := k } f = true) : broke_up p f = true := by
  obtain ⟨hrange, hreached⟩ := of_decide_eq_true h
  refine decide_eq_true ⟨hrange, ?_⟩
  obtain ⟨narrow, wide, hnarrow, hwide, hle⟩ := Cell.exists_of_le hk
  obtain ⟨zero, r, hzero, hr, hpos⟩ := Cell.exists_of_lt hrange
  obtain rfl := Option.some.inj hzero
  unfold upper_trigger at hreached ⊢
  rw [hr] at hreached ⊢
  rw [show ({ p with k_upper := k } : Parameters).k_upper.1 = some wide from hwide] at hreached
  rw [hnarrow]
  have hreached : f.bar.open_ + wide * r ≤ _ := (Cell.le_some _ _).mp hreached
  refine (Cell.le_some _ _).mpr (le_trans ?_ hreached)
  have := mul_le_mul_of_nonneg_right hle hpos.le
  linarith

/-- A wider trigger leaves downward breakouts alone, and they win. -/
theorem event_of_wider (hk : Cell.le p.k_upper.1 k.1 = true) :
    event { p with k_upper := k } f = none ∨ event { p with k_upper := k } f = event p f := by
  unfold event
  by_cases hdown : broke_down p f = true
  · rw [if_pos (show broke_down { p with k_upper := k } f = true from hdown), if_pos hdown]
    exact Or.inr rfl
  · rw [if_neg (show ¬ broke_down { p with k_upper := k } f = true from hdown), if_neg hdown]
    by_cases hup : broke_up { p with k_upper := k } f = true
    · rw [if_pos hup, if_pos (broke_up_of_wider hk hup)]
      exact Or.inr rfl
    · rw [if_neg hup]
      exact Or.inl rfl

theorem length_facts (p : Parameters) (bars : List Bar) : (facts p bars).length = bars.length := by
  have hlen := (causal_bar_signals p).length bars
  rwa [bar_signals, (causal_held_signals _ _ _).length] at hlen

/-- The first bar has no range. -/
theorem event_first {bars : List Bar} (hf : (facts p bars)[0]? = some f) : event p f = none := by
  rw [Option.eq_none_iff_forall_not_mem]
  intro d hd
  have hwarm := warmup_of_event hf hd
  have hlookback : (2 : ℤ) ≤ p.lookback.1 := p.lookback.2.1
  unfold Parameters.warmup_bars at hwarm
  omega

/-- **Main result**: with a wider upper trigger there are no more transitions to
    a long position. -/
theorem wider_trigger_fewer_longs {series : PriceSeries} {signals signals' : SignalSet}
    (hk : Cell.le p.k_upper.1 k.1 = true) (h : generate_signals p series = .ok signals)
    (h' : generate_signals { p with k_upper := k } series = .ok signals') :
    signals'.transitions.countP (fun row => row.direction = .LONG)
      ≤ signals.transitions.countP (fun row => row.direction = .LONG) := by
  -- The range does not depend on the trigger, so both runs look at the same facts.
  have hframe' : signals'.frame = List.zipWith BarSignal.row series.frame.bars
      (held_signals (event { p with k_upper := k }) (fun _ => reason { p with k_upper := k })
        (columns { p with k_upper := k }) (facts p series.frame.bars)) := frame_eq h'
  exact fewer_transitions_of_facts (fun d => d = .LONG) (length_facts p series.frame.bars)
    (frame_eq h) hframe' (fun _ _ => event_of_wider hk) (fun _ => event_first)

/-- Half the range over two bars, both ways. -/
def half_range : Parameters where
  lookback := ⟨2, by decide +kernel⟩
  k_upper := ⟨some (1 / 2), by simp [DualThrust.k_upper]; norm_num⟩
  k_lower := ⟨some (1 / 2), by simp [DualThrust.k_lower]; norm_num⟩
  allow_short := false
  trigger_on := ⟨"close", by decide +kernel⟩

/-- A breakout, a breakdown and a breakout. -/
def breakouts : PriceSeries where
  symbol := "INFY.NS"
  interval := "1d"
  frame :=
    { bars :=
        [⟨0, 10, 11, 9, 10, 10, 0⟩, ⟨1, 10, 11, 9, 10, 10, 0⟩, ⟨2, 10, 14, 9, 12, 12, 0⟩,
          ⟨3, 12, 14, 8, 8, 8, 0⟩, ⟨4, 8, 20, 8, 20, 20, 0⟩]
      increasing := by decide +kernel }
  provenance := ⟨"yfinance", "INFY.NS", "split_and_dividend_adjusted", "2024-01-01", "2024-06-30"⟩

/-- Both are bought at half the range, neither at three times. -/
theorem wider_trigger_on_breakouts :
    ∃ signals signals', generate_signals half_range breakouts = .ok signals ∧
      generate_signals { half_range with
        k_upper := ⟨some 3, by simp [DualThrust.k_upper]; norm_num⟩ } breakouts = .ok signals' ∧
      signals.transitions.countP (fun row => row.direction = .LONG) = 2 ∧
      signals'.transitions.countP (fun row => row.direction = .LONG)
        ≤ signals.transitions.countP (fun row => row.direction = .LONG) := by
  obtain ⟨signals, hsignals, htwo⟩ := Outcome.exists_of_any
    (show (generate_signals half_range breakouts).toOption.any (fun signals =>
      signals.transitions.countP (fun row => row.direction = .LONG) = 2) = true by decide +kernel)
  obtain ⟨signals', hsignals'⟩ := Outcome.exists_eq_ok
    (x := generate_signals { half_range with
      k_upper := ⟨some 3, by simp [DualThrust.k_upper]; norm_num⟩ } breakouts) (by decide +kernel)
  exact ⟨signals, signals', hsignals, hsignals', of_decide_eq_true htwo,
    wider_trigger_fewer_longs (by decide +kernel) hsignals hsignals'⟩

end DualThrust

/-! ## Filters -/

namespace MACD

variable {p : Parameters} {f : Facts}

/-- With the zero-line filter a crossover may be missed, and no other is found. -/
theorem event_of_filter (p : Parameters) (f : Facts) :
    event { p with require_zero_line := true } f = none ∨
      event { p with require_zero_line := true } f
        = event { p with require_zero_line := false } f := by
  by_cases hup : crossed_up { p with require_zero_line := true } f = true
  · obtain ⟨hprevious, hhistogram, -⟩ := crossed_up_iff.mp hup
    have hplain : crossed_up { p with require_zero_line := false } f = true :=
      crossed_up_iff.mpr ⟨hprevious, hhistogram, fun h => nomatch h⟩
    rw [event_eq_LONG_iff.mpr hup, event_eq_LONG_iff.mpr hplain]
    exact Or.inr rfl
  · by_cases hdown : crossed_down { p with require_zero_line := true } f = true
    · obtain ⟨hprevious, hhistogram, -⟩ := crossed_down_iff.mp hdown
      have hplain : crossed_down { p with require_zero_line := false } f = true :=
        crossed_down_iff.mpr ⟨hprevious, hhistogram, fun h => nomatch h⟩
      unfold event
      rw [if_pos hdown, if_pos hplain]
      exact Or.inr rfl
    · exact Or.inl (event_eq_none_iff.mpr ⟨hup, hdown⟩)

theorem event_first {bars : List Bar} (hf : (facts p bars)[0]? = some f) : event p f = none := by
  rw [Option.eq_none_iff_forall_not_mem]
  intro d hd
  obtain ⟨a, ha⟩ := exists_previous_of_event hd
  rw [previous_first hf] at ha
  cases ha

theorem filtered_transitions_le {series : PriceSeries} {signals signals' : SignalSet}
    (h : generate_signals { p with require_zero_line := false } series = .ok signals)
    (h' : generate_signals { p with require_zero_line := true } series = .ok signals') :
    signals'.transitions.length ≤ signals.transitions.length := by
  have hframe : signals.frame = List.zipWith BarSignal.row series.frame.bars
      (held_signals (event { p with require_zero_line := false })
        (fun _ => reason { p with require_zero_line := false }) columns
        (facts p series.frame.bars)) := frame_eq h
  have hframe' : signals'.frame = List.zipWith BarSignal.row series.frame.bars
      (held_signals (event { p with require_zero_line := true })
        (fun _ => reason { p with require_zero_line := true }) columns
        (facts p series.frame.bars)) := frame_eq h'
  have hle := fewer_transitions_of_facts (fun _ => true) ((causal_facts p).length _) hframe hframe'
    (fun f _ => event_of_filter p f)
    (fun f hf => event_first (p := { p with require_zero_line := false }) hf)
  rwa [List.countP_true] at hle

end MACD

namespace Bollinger

variable {rt : Runtime} {p : Parameters} {f : Facts}

/-- Without exits at the middle band the touches are left, and a touch decides the
    same either way. -/
theorem event_of_touches (p : Parameters) (f : Facts) :
    event { p with exit_at_middle := false } f = none ∨
      event { p with exit_at_middle := false } f = event { p with exit_at_middle := true } f := by
  unfold event
  by_cases habove : above_upper f = true
  · rw [if_pos habove, if_pos habove]
    exact Or.inr rfl
  rw [if_neg habove, if_neg habove]
  by_cases hbelow : below_lower f = true
  · rw [if_pos hbelow, if_pos hbelow]
    exact Or.inr rfl
  rw [if_neg hbelow, if_neg (fun h => nomatch h.1)]
  exact Or.inl rfl

theorem event_first {bars : List Bar} (hf : (facts rt p bars)[0]? = some f) :
    event p f = none := by
  rw [Option.eq_none_iff_forall_not_mem]
  intro d hd
  have hwarm := warmup_of_event hf hd
  have hwindow : (2 : ℤ) ≤ p.window.1 := p.window.2.1
  unfold Parameters.warmup_bars at hwarm
  omega

theorem touches_transitions_le {series : PriceSeries} {signals signals' : SignalSet}
    (h : generate_signals rt { p with exit_at_middle := true } series = .ok signals)
    (h' : generate_signals rt { p with exit_at_middle := false } series = .ok signals') :
    signals'.transitions.length ≤ signals.transitions.length := by
  have hframe : signals.frame = List.zipWith BarSignal.row series.frame.bars
      (held_signals (event { p with exit_at_middle := true })
        (reason { p with exit_at_middle := true }) columns
        (facts rt p series.frame.bars)) := frame_eq h
  have hframe' : signals'.frame = List.zipWith BarSignal.row series.frame.bars
      (held_signals (event { p with exit_at_middle := false })
        (reason { p with exit_at_middle := false }) columns
        (facts rt p series.frame.bars)) := frame_eq h'
  have hle := fewer_transitions_of_facts (fun _ => true) ((causal_facts rt p).length _) hframe
    hframe' (fun f _ => event_of_touches p f)
    (fun f hf => event_first (p := { p with exit_at_middle := true }) hf)
  rwa [List.countP_true] at hle

end Bollinger

/-- **Main result**: MACD has no more transitions with the zero-line filter than
    without it, and the bands no more without the exit at the middle band. -/
theorem filters_only_remove_trades :
    (∀ (p : MACD.Parameters) (series : PriceSeries) (signals signals' : SignalSet),
      MACD.generate_signals { p with require_zero_line := false } series = .ok signals →
      MACD.generate_signals { p with require_zero_line := true } series = .ok signals' →
      signals'.transitions.length ≤ signals.transitions.length) ∧
    (∀ (rt : Runtime) (p : Bollinger.Parameters) (series : PriceSeries)
        (signals signals' : SignalSet),
      Bollinger.generate_signals rt { p with exit_at_middle := true } series = .ok signals →
      Bollinger.generate_signals rt { p with exit_at_middle := false } series = .ok signals' →
      signals'.transitions.length ≤ signals.transitions.length) :=
  ⟨fun _ _ _ _ => MACD.filtered_transitions_le, fun _ _ _ _ _ => Bollinger.touches_transitions_le⟩

/-- A price that jumps and falls back, without the filter and with it; a dip, with
    the exit and without it. -/
theorem filters_on_jump_and_dip :
    (∃ signals signals', MACD.generate_signals (MACD.short_spans false) MACD.jump = .ok signals ∧
      MACD.generate_signals (MACD.short_spans true) MACD.jump = .ok signals' ∧
      signals.transitions.length = 3 ∧
      signals'.transitions.length ≤ signals.transitions.length) ∧
    (∃ signals signals',
      Bollinger.generate_signals default Bollinger.narrow_bands Bollinger.dip
        = .ok signals ∧
      Bollinger.generate_signals default
        { Bollinger.narrow_bands with exit_at_middle := false } Bollinger.dip = .ok signals' ∧
      signals.transitions.length = 3 ∧
      signals'.transitions.length ≤ signals.transitions.length) := by
  obtain ⟨crossed, hcrossed, hthree⟩ := Outcome.exists_of_any
    (show (MACD.generate_signals (MACD.short_spans false) MACD.jump).toOption.any
      (fun signals => signals.transitions.length = 3) = true by decide +kernel)
  obtain ⟨filtered, hfiltered⟩ := Outcome.exists_eq_ok
    (x := MACD.generate_signals (MACD.short_spans true) MACD.jump) (by decide +kernel)
  obtain ⟨exited, hexited, hthree'⟩ := Outcome.exists_of_any
    (show (Bollinger.generate_signals default Bollinger.narrow_bands
      Bollinger.dip).toOption.any (fun signals => signals.transitions.length = 3) = true by
      decide +kernel)
  obtain ⟨touched, htouched⟩ := Outcome.exists_eq_ok
    (x := Bollinger.generate_signals default
      { Bollinger.narrow_bands with exit_at_middle := false } Bollinger.dip) (by decide +kernel)
  exact ⟨⟨crossed, filtered, hcrossed, hfiltered, of_decide_eq_true hthree,
      filters_only_remove_trades.1 (MACD.short_spans false) MACD.jump crossed filtered hcrossed
        hfiltered⟩,
    ⟨exited, touched, hexited, htouched, of_decide_eq_true hthree',
      filters_only_remove_trades.2 default Bollinger.narrow_bands Bollinger.dip exited
        touched hexited htouched⟩⟩

end Quantora
