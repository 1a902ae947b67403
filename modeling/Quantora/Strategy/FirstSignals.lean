import Quantora.Strategy.Crossovers
import Quantora.Strategy.MiddleBand
import Quantora.Strategy.PairEntries

/-! # The first signals

    `warmup_bars` is a formula of its own in each strategy. It has to agree with
    the bar from which the indicators under the decision are defined.

    * `warmup_of_event` — in each family, a decision (for pair trading: one for a
      position) is made no earlier than the last bar of the warm-up.
    * `silent_before_warmup` — so every row before that bar is flat. -/

namespace Quantora

open Column

/-! ## Crossovers, band touches and breakouts -/

namespace MACD

variable {p : Parameters} {bars : List Bar} {i : ℕ} {f : Facts} {d : SignalDirection}

/-- The first bar has no histogram before it. -/
theorem previous_first (hf : (facts p bars)[0]? = some f) : f.previous = none := by
  obtain ⟨-, hhistogram, hprevious⟩ := of_facts hf
  rw [indicators.shift_first (List.ne_nil_of_mem (List.mem_of_getElem? hhistogram))] at hprevious
  exact (Option.some.inj hprevious).symm

/-- A crossover compares two histograms. -/
theorem exists_previous_of_event (h : event p f = some d) : ∃ a, f.previous = some a := by
  by_cases hup : crossed_up p f = true
  · obtain ⟨a, -, ha, -, -⟩ := Cell.exists_of_le (crossed_up_iff.mp hup).1
    exact ⟨a, ha⟩
  · by_cases hdown : crossed_down p f = true
    · obtain ⟨-, a, -, ha, -⟩ := Cell.exists_of_le (crossed_down_iff.mp hdown).1
      exact ⟨a, ha⟩
    · rw [event_eq_none_iff.mpr ⟨hup, hdown⟩] at h
      cases h

/-- The slow average seeds the line, the signal average the histogram, and the
    bar after that has two of them. -/
theorem warmup_of_event (hf : (facts p bars)[i]? = some f) (h : event p f = some d) :
    p.warmup_bars - 1 ≤ i := by
  obtain ⟨a, ha⟩ := exists_previous_of_event h
  cases i with
  | zero =>
    rw [previous_first hf] at ha
    cases ha
  | succ i =>
    have hlen : i < (facts p bars).length := by
      have := (List.getElem?_eq_some_iff.mp hf).1
      omega
    have hbefore : (facts p bars)[i]? = some (facts p bars)[i] := List.getElem?_eq_getElem hlen
    obtain ⟨-, hhistogram, -⟩ := of_facts hbefore
    rw [previous_eq hbefore hf] at ha
    have hdefined := ((definedFrom_lines p (bars.map Bar.close)).2 i _ hhistogram).mp
      (by rw [ha]; rfl)
    have hsignal : (2 : ℤ) ≤ p.signal.1 := p.signal.2.1
    have hslow : (3 : ℤ) ≤ p.slow.1 := p.slow.2.1
    unfold Parameters.warmup_bars
    omega

end MACD

namespace Bollinger

variable {rt : Runtime} {p : Parameters} {bars : List Bar} {i : ℕ} {f : Facts}
  {d : SignalDirection}

/-- Whatever is decided, the middle band is there. -/
theorem exists_middle_of_event (h : event p f = some d) : f.middle.isSome := by
  unfold event at h
  by_cases habove : above_upper f = true
  · exact (of_decide_eq_true habove).1
  rw [if_neg habove] at h
  by_cases hbelow : below_lower f = true
  · exact (of_decide_eq_true hbelow).1
  rw [if_neg hbelow] at h
  split_ifs at h with hmiddle
  rcases hmiddle.2 with hcross | hcross
  · obtain ⟨m, -, hm, -, -⟩ := Cell.exists_of_lt (of_decide_eq_true hcross).2
    rw [hm]
    rfl
  · obtain ⟨-, m, -, hm, -⟩ := Cell.exists_of_lt (of_decide_eq_true hcross).2
    rw [hm]
    rfl

theorem warmup_of_event (hf : (facts rt p bars)[i]? = some f) (h : event p f = some d) :
    p.warmup_bars - 1 ≤ i := by
  obtain ⟨-, -, hmiddle, -⟩ := of_facts hf
  exact (indicators.definedFrom_sma _ p.window.1.toNat i _ hmiddle).mp (exists_middle_of_event h)

theorem frame_eq {series : PriceSeries} {signals : SignalSet}
    (h : generate_signals rt p series = .ok signals) :
    signals.frame
      = List.zipWith BarSignal.row series.frame.bars (bar_signals rt p series.frame.bars) := by
  rw [eq_of_require_warmup h]
  rfl

end Bollinger

namespace DualThrust

variable {p : Parameters} {bars : List Bar} {i : ℕ} {f : Facts} {d : SignalDirection}

theorem of_facts (hf : (facts p bars)[i]? = some f) :
    bars[i]? = some f.bar ∧ (range p bars)[i]? = some f.range := by
  obtain ⟨bar, range, hbar, hrange, rfl⟩ := List.getElem?_zipWith_eq_some.mp hf
  exact ⟨hbar, hrange⟩

/-- A statistic of the bars before this one needs `lookback` of them. -/
theorem warmup_of_prior {statistic : List ℚ → Cell} {column : Bar → ℚ} {x : ℚ}
    (h : (prior p statistic column bars)[i]? = some (some x)) : p.lookback.1.toNat ≤ i := by
  by_cases hbars : bars = []
  · subst hbars
    cases h
  · exact indicators.warmup_of_rolling
      (indicators.shift_first (List.map_eq_nil_iff.not.mpr hbars)) h

/-- Either breakout is one of a range. -/
theorem exists_range_of_event (h : event p f = some d) : ∃ r, f.range = some r := by
  have hrange : Cell.lt (some 0) f.range = true := by
    unfold event at h
    by_cases hdown : broke_down p f = true
    · exact (of_decide_eq_true hdown).1
    · rw [if_neg hdown] at h
      by_cases hup : broke_up p f = true
      · exact (of_decide_eq_true hup).1
      · rw [if_neg hup] at h
        cases h
  obtain ⟨-, r, -, hr, -⟩ := Cell.exists_of_lt hrange
  exact ⟨r, hr⟩

theorem warmup_of_event (hf : (facts p bars)[i]? = some f) (h : event p f = some d) :
    p.warmup_bars - 1 ≤ i := by
  obtain ⟨-, hrange⟩ := of_facts hf
  obtain ⟨r, hr⟩ := exists_range_of_event h
  rw [hr] at hrange
  obtain ⟨highs, lows, hhighs, -, hmax⟩ := List.getElem?_zipWith_eq_some.mp hrange
  obtain ⟨x, y, rfl, -, -⟩ := Option.map₂_eq_some_iff.mp hmax
  obtain ⟨hh, lc, hhh, -, hsub⟩ := List.getElem?_zipWith_eq_some.mp hhighs
  obtain ⟨high, low, rfl, -, -⟩ := Option.map₂_eq_some_iff.mp hsub
  exact warmup_of_prior hhh

theorem frame_eq {series : PriceSeries} {signals : SignalSet}
    (h : generate_signals p series = .ok signals) :
    signals.frame
      = List.zipWith BarSignal.row series.frame.bars (bar_signals p series.frame.bars) := by
  rw [eq_of_require_warmup h]
  rfl

end DualThrust

/-! ## Pair entries -/

namespace PairTrading

variable {rt : Runtime} {p : Parameters} {common : List (Bar × Bar)} {k : ℕ} {f : Facts}
  {d : SignalDirection}

theorem correlation_of_facts (hf : (facts rt p common)[k]? = some f) :
    (correlation rt p common)[k]? = some f.correlation := by
  obtain ⟨-, rest, -, hrest, rfl⟩ := List.getElem?_zipWith_eq_some.mp hf
  exact (List.getElem?_zip_eq_some.mp hrest).1

/-- An entry has a correlation, and a correlation has `lookback` differences. -/
theorem warmup_of_event (hd : d ≠ .FLAT) (hf : (facts rt p common)[k]? = some f)
    (h : event p f = some d) : p.warmup_bars - 1 ≤ k := by
  obtain ⟨-, hcorrelation, -⟩ := entered_of_event hd h
  obtain ⟨c, hc⟩ := Option.isSome_iff_exists.mp hcorrelation
  have hcolumn := correlation_of_facts hf
  rw [hc] at hcolumn
  refine indicators.warmup_of_correlation ?_ hcolumn
  have hlen := (causal_facts rt p).length common
  intro hnil
  rw [log_primary, List.map_eq_nil_iff] at hnil
  rw [hnil, List.length_nil] at hlen
  have hk := (List.getElem?_eq_some_iff.mp hf).1
  rw [hnil] at hk
  omega

/-- A common bar has at least as many bars before it in the primary series as
    common ones. Induction over those. -/
theorem index_le_of_common {primary pair : List Bar}
    (hprimary : primary.Pairwise (fun a b => a.timestamp < b.timestamp)) {i k : ℕ}
    {legs : Bar × Bar} (hlegs : (align primary pair)[k]? = some legs)
    (hbar : primary[i]? = some legs.1) : k ≤ i := by
  induction k generalizing i legs with
  | zero => exact Nat.zero_le i
  | succ k ih =>
    have hlen : k < (align primary pair).length := by
      have := (List.getElem?_eq_some_iff.mp hlegs).1
      omega
    have hbefore : (align primary pair)[k]? = some (align primary pair)[k] :=
      List.getElem?_eq_getElem hlen
    obtain ⟨⟨j, hj⟩, -⟩ := counterpart_of_common hbefore
    have hlt : (align primary pair)[k].1.timestamp < legs.1.timestamp :=
      (Causal.time_lt_iff (align_increasing pair hprimary) hbefore hlegs).mpr (by omega)
    have hji : j < i := (Causal.time_lt_iff hprimary hj hbar).mp hlt
    have hkj : k ≤ j := ih hbefore hj
    omega

end PairTrading

/-! ## Rows -/

/-- Where no position was decided so far, there is none. -/
theorem flat_of_undecided {φ : Type} {event : φ → Option SignalDirection}
    {reason : Bool → φ → String} {columns : φ → List (String × Cell)} {facts : List φ}
    {bars : List Bar} {i : ℕ} {row : SignalRow}
    (hrow : (List.zipWith BarSignal.row bars (held_signals event reason columns facts))[i]?
      = some row)
    (h : ∀ (j : ℕ) f d, facts[j]? = some f → event f = some d → i < j) :
    row.direction = .FLAT := by
  obtain ⟨bar, s, -, hs, rfl⟩ := of_row hrow
  show s.direction = .FLAT
  by_contra hd
  obtain ⟨-, j, hji, ⟨f, hf, hevent⟩, -⟩ := held_iff.mp ((direction_iff hd hs).mp rfl)
  have := h j f _ hf hevent
  omega

/-- Conviction is binary in every row. -/
theorem strength_of_row {bars : List Bar} {said : List BarSignal} {i : ℕ} {row : SignalRow}
    (hrow : (List.zipWith BarSignal.row bars said)[i]? = some row) :
    row.strength = if row.direction ≠ .FLAT then 1 else 0 := by
  obtain ⟨bar, s, -, -, rfl⟩ := of_row hrow
  rfl

section Silence

variable {rt : Runtime} {strategy : RegisteredStrategy} {pair : Option PriceSeries}
  {series : PriceSeries} {signals : SignalSet} {i : ℕ} {row : SignalRow}

theorem strength_eq (h : strategy.generate_signals rt pair series = .ok signals)
    (hrow : signals.frame[i]? = some row) :
    row.strength = if row.direction ≠ .FLAT then 1 else 0 := by
  cases strategy with
  | macd p =>
    rw [MACD.frame_eq h] at hrow
    exact strength_of_row hrow
  | bollinger p =>
    rw [Bollinger.frame_eq h] at hrow
    exact strength_of_row hrow
  | dual_thrust p =>
    rw [DualThrust.frame_eq h] at hrow
    exact strength_of_row hrow
  | pair_trading p =>
    cases pair with
    | none => cases h
    | some pair =>
      rw [PairTrading.generate_signals_eq rt p h] at hrow
      exact strength_of_row hrow

theorem flat_before_warmup (h : strategy.generate_signals rt pair series = .ok signals)
    (hrow : signals.frame[i]? = some row) (hi : i < strategy.warmup_bars - 1) :
    row.direction = .FLAT := by
  cases strategy with
  | macd p =>
    rw [MACD.frame_eq h] at hrow
    refine flat_of_undecided hrow fun j f d hf hevent => ?_
    exact hi.trans_le (MACD.warmup_of_event hf hevent)
  | bollinger p =>
    rw [Bollinger.frame_eq h] at hrow
    refine flat_of_undecided hrow fun j f d hf hevent => ?_
    exact hi.trans_le (Bollinger.warmup_of_event hf hevent)
  | dual_thrust p =>
    rw [DualThrust.frame_eq h] at hrow
    refine flat_of_undecided hrow fun j f d hf hevent => ?_
    exact hi.trans_le (DualThrust.warmup_of_event hf hevent)
  | pair_trading p =>
    cases pair with
    | none => cases h
    | some pair =>
      -- A position needs a common bar that has warmed up, and common bars are not
      -- ahead of the primary series.
      by_contra hd
      obtain ⟨bar, hbar, -⟩ := PairTrading.exists_bar_of_row h hrow
      rcases PairTrading.missing_or_common pair.frame.bars (List.mem_of_getElem? hbar) with
        hmissing | ⟨k, legs, hk, rfl⟩
      · exact hd (PairTrading.row_flat_of_missing h hrow hbar hmissing)
      have hheld := (PairTrading.row_direction_iff h hrow hbar hk rfl hd).mp rfl
      obtain ⟨-, j, hjk, ⟨f, hf, hevent⟩, -⟩ := held_iff.mp hheld
      have hwarm := PairTrading.warmup_of_event hd hf hevent
      have hki := PairTrading.index_le_of_common series.frame.increasing hk hbar
      change i < p.warmup_bars - 1 at hi
      omega

/-- **Main result**: before the last bar of its warm-up a strategy says nothing,
    and its conviction is full exactly while it has a position. -/
theorem silent_before_warmup (h : strategy.generate_signals rt pair series = .ok signals) :
    ∀ (i : ℕ) row, signals.frame[i]? = some row →
      (i < strategy.warmup_bars - 1 → row.direction = .FLAT ∧ row.strength = 0) ∧
      (row.strength = 1 ↔ row.direction ≠ .FLAT) := by
  intro i row hrow
  have hstrength := strength_eq h hrow
  constructor
  · intro hi
    have hflat := flat_before_warmup h hrow hi
    refine ⟨hflat, ?_⟩
    rw [hstrength, hflat, if_neg (not_not.mpr rfl)]
  · by_cases hflat : row.direction = .FLAT
    · rw [hstrength, if_neg (not_not.mpr hflat)]
      simp [hflat]
    · rw [hstrength, if_pos hflat]
      simp [hflat]

end Silence

/-- The jump of a price, by the shortest MACD: its first signal is at the bar at
    which the warm-up ends. -/
theorem jump_silent_before_warmup :
    ∃ signals, (RegisteredStrategy.macd (MACD.short_spans false)).generate_signals default
        none MACD.jump = .ok signals ∧
      signals.frame.map SignalRow.direction = [.FLAT, .FLAT, .FLAT, .FLAT, .LONG, .SHORT, .SHORT] ∧
      (RegisteredStrategy.macd (MACD.short_spans false)).warmup_bars = 5 ∧
      ∀ (i : ℕ) row, signals.frame[i]? = some row →
        (i < (RegisteredStrategy.macd (MACD.short_spans false)).warmup_bars - 1 →
          row.direction = .FLAT ∧ row.strength = 0) ∧
        (row.strength = 1 ↔ row.direction ≠ .FLAT) := by
  obtain ⟨signals, hsignals, hdirections⟩ := Outcome.exists_of_any
    (show ((RegisteredStrategy.macd (MACD.short_spans false)).generate_signals default none
      MACD.jump).toOption.any (fun signals => signals.frame.map SignalRow.direction
        = [.FLAT, .FLAT, .FLAT, .FLAT, .LONG, .SHORT, .SHORT]) = true by decide +kernel)
  exact ⟨signals, hsignals, of_decide_eq_true hdirections, by decide +kernel,
    silent_before_warmup hsignals⟩

end Quantora
