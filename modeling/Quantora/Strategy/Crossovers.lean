import Quantora.Strategy.Causality
import Quantora.Strategy.Rows
import Quantora.Strategy.Warmups

/-! # MACD positions between crossovers

    A MACD position is decided at a crossover and held until the next one, so
    what it owes to the crossover has to survive the bars in between.

    * `rows_on_their_side` — without the zero-line filter, the histogram is on
      the side of the position at every bar: it cannot change sides without a
      crossover, an exact zero included.
    * `zero_line_iff` — with the filter, the crossovers that count are those
      beyond the zero line, and the MACD line itself can change sides without
      one. The position respects the line exactly when the first bar on the wrong
      side is such a crossover. -/

namespace Quantora

namespace MACD

open Column

section Facts

variable {p : Parameters} {bars : List Bar} {i : ℕ} {f g : Facts}

/-- The lines that a bar's facts are read from. -/
theorem of_facts (hf : (facts p bars)[i]? = some f) :
    let result := indicators.macd (bars.map Bar.close) p.fast.1.toNat p.slow.1.toNat
      p.signal.1.toNat
    result.macd[i]? = some f.macd ∧ result.histogram[i]? = some f.histogram ∧
      (indicators.shift result.histogram)[i]? = some f.previous := by
  intro result
  obtain ⟨lines, histograms, hlines, hhistograms, rfl⟩ := List.getElem?_zipWith_eq_some.mp hf
  obtain ⟨hline, -⟩ := List.getElem?_zip_eq_some.mp hlines
  obtain ⟨hhistogram, hprevious⟩ := List.getElem?_zip_eq_some.mp hhistograms
  exact ⟨hline, hhistogram, hprevious⟩

theorem definedFrom_lines (p : Parameters) (values : List ℚ) :
    let result := indicators.macd values p.fast.1.toNat p.slow.1.toNat p.signal.1.toNat
    DefinedFrom (p.slow.1.toNat - 1) result.macd ∧
      DefinedFrom (p.slow.1.toNat - 1 + (p.signal.1.toNat - 1)) result.histogram := by
  have hfast : (2 : ℤ) ≤ p.fast.1 := p.fast.2.1
  have hsignal : (2 : ℤ) ≤ p.signal.1 := p.signal.2.1
  have hslow : p.fast.1 < p.slow.1 := p.fast_lt_slow
  exact indicators.definedFrom_macd values (by omega) (by omega) (by omega)

/-- `previous` is the histogram of the bar before. -/
theorem previous_eq (hf : (facts p bars)[i]? = some f) (hg : (facts p bars)[i + 1]? = some g) :
    g.previous = f.histogram := by
  obtain ⟨-, hfhistogram, -⟩ := of_facts hf
  obtain ⟨-, hghistogram, hprevious⟩ := of_facts hg
  have hshift := getElem?_shift_succ hfhistogram hghistogram
  rw [indicators.shift, List.getElem?_map, hshift] at hprevious
  exact (Option.some.inj hprevious).symm

/-- The histogram has no gaps. -/
theorem histogram_next {a : ℚ} (hf : (facts p bars)[i]? = some f) (ha : f.histogram = some a)
    (hg : (facts p bars)[i + 1]? = some g) : ∃ b, g.histogram = some b := by
  obtain ⟨-, hfhistogram, -⟩ := of_facts hf
  obtain ⟨-, hghistogram, -⟩ := of_facts hg
  rw [ha] at hfhistogram
  exact Option.isSome_iff_exists.mp ((definedFrom_lines p _).2.next hfhistogram hghistogram)

/-- Nor has the line. -/
theorem line_later {j : ℕ} {a : ℚ} (hf : (facts p bars)[j]? = some f) (ha : f.macd = some a)
    (hji : j ≤ i) (hg : (facts p bars)[i]? = some g) : ∃ b, g.macd = some b := by
  obtain ⟨hfline, -⟩ := of_facts hf
  obtain ⟨hgline, -⟩ := of_facts hg
  have hdefined := (definedFrom_lines p (bars.map Bar.close)).1
  have hj : p.slow.1.toNat - 1 ≤ j := (hdefined j _ hfline).mp (by rw [ha]; rfl)
  exact Option.isSome_iff_exists.mp ((hdefined i _ hgline).mpr (by omega))

end Facts

/-! ## Crossovers as events -/

section Events

variable {p : Parameters} {f : Facts}

theorem crossed_up_iff : crossed_up p f = true ↔
    Cell.le f.previous (some 0) = true ∧ Cell.lt (some 0) f.histogram = true ∧
      (p.require_zero_line = true → Cell.lt (some 0) f.macd = true) :=
  decide_eq_true_iff

theorem crossed_down_iff : crossed_down p f = true ↔
    Cell.le (some 0) f.previous = true ∧ Cell.lt f.histogram (some 0) = true ∧
      (p.require_zero_line = true → Cell.lt f.macd (some 0) = true) :=
  decide_eq_true_iff

/-- The histogram is above zero or below it. -/
theorem not_crossed_both (hup : crossed_up p f = true) : crossed_down p f = false := by
  rw [← Bool.not_eq_true]
  intro hdown
  obtain ⟨-, habove, -⟩ := crossed_up_iff.mp hup
  obtain ⟨-, hbelow, -⟩ := crossed_down_iff.mp hdown
  obtain ⟨x, y, hx, hy, hxy⟩ := Cell.exists_of_lt habove
  obtain rfl := Option.some.inj hx
  rw [hy, Cell.lt_some] at hbelow
  exact absurd hxy hbelow.not_gt

theorem event_eq_LONG_iff : event p f = some .LONG ↔ crossed_up p f = true := by
  unfold event
  constructor
  · intro h
    by_cases hdown : crossed_down p f = true
    · rw [if_pos hdown] at h
      cases hshort : p.allow_short <;> rw [hshort] at h <;> cases h
    · rw [if_neg hdown] at h
      by_contra hup
      rw [if_neg hup] at h
      cases h
  · intro hup
    rw [if_neg (by rw [not_crossed_both hup]; exact Bool.false_ne_true), if_pos hup]

theorem event_eq_SHORT_iff :
    event p f = some .SHORT ↔ crossed_down p f = true ∧ p.allow_short = true := by
  unfold event
  by_cases hdown : crossed_down p f = true
  · rw [if_pos hdown]
    cases hshort : p.allow_short <;> simp [hdown]
  · rw [if_neg hdown]
    by_cases hup : crossed_up p f = true
    · simp [hup, hdown]
    · simp [hup, hdown]

theorem event_eq_none_iff :
    event p f = none ↔ ¬ crossed_up p f = true ∧ ¬ crossed_down p f = true := by
  unfold event
  by_cases hdown : crossed_down p f = true
  · simp [hdown]
  · by_cases hup : crossed_up p f = true
    · simp [hdown, hup]
    · simp [hdown, hup]

end Events

/-! ## Without the filter -/

/-- The side of the histogram that goes with a held target. -/
def OnSide (f : Facts) : SignalDirection → Prop
  | .LONG => Cell.le (some 0) f.histogram = true
  | .FLAT => Cell.le f.histogram (some 0) = true
  | .SHORT => Cell.le f.histogram (some 0) = true

/-- A crossover has happened by the bar at index `i`. -/
def CrossedBy (p : Parameters) (facts : List Facts) (i : ℕ) : Prop :=
  ∃ j f, j ≤ i ∧ facts[j]? = some f ∧ (crossed_up p f = true ∨ crossed_down p f = true)

section Unfiltered

variable {p : Parameters} {f g : Facts} {d : SignalDirection}

theorem le_of_zero_lt {c : Cell} (h : Cell.lt (some 0) c = true) : Cell.le (some 0) c = true := by
  obtain ⟨x, y, hx, rfl, hxy⟩ := Cell.exists_of_lt h
  obtain rfl := Option.some.inj hx
  exact (Cell.le_some 0 y).mpr hxy.le

theorem le_of_lt_zero {c : Cell} (h : Cell.lt c (some 0) = true) : Cell.le c (some 0) = true := by
  obtain ⟨x, y, rfl, hy, hxy⟩ := Cell.exists_of_lt h
  obtain rfl := Option.some.inj hy
  exact (Cell.le_some x 0).mpr hxy.le

/-- A crossover puts the histogram on the side of its target. -/
theorem on_side_of_event (h : event p f = some d) : OnSide f d := by
  by_cases hup : crossed_up p f = true
  · rw [event_eq_LONG_iff.mpr hup] at h
    obtain rfl := Option.some.inj h
    exact le_of_zero_lt (crossed_up_iff.mp hup).2.1
  · -- Then it was a downward one, and the target is short or flat.
    have hdown : crossed_down p f = true := by
      by_contra hdown
      rw [event_eq_none_iff.mpr ⟨hup, hdown⟩] at h
      cases h
    have hbelow := le_of_lt_zero (crossed_down_iff.mp hdown).2.1
    cases d with
    | LONG => exact absurd (event_eq_LONG_iff.mp h) hup
    | FLAT => exact hbelow
    | SHORT => exact hbelow

/-- Without a crossover the histogram stays on its side: had it left a closed
    half-line, through zero or at once, that would have been one. -/
theorem on_side_of_quiet (hfilter : p.require_zero_line = false) {a b : ℚ}
    (hf : f.histogram = some a) (hg : g.histogram = some b) (hprevious : g.previous = f.histogram)
    (hquiet : event p g = none) (h : OnSide f d) : OnSide g d := by
  obtain ⟨hup, hdown⟩ := event_eq_none_iff.mp hquiet
  rw [crossed_up_iff, hprevious, hf, hg, Cell.le_some, Cell.lt_some, hfilter] at hup
  rw [crossed_down_iff, hprevious, hf, hg, Cell.le_some, Cell.lt_some, hfilter] at hdown
  -- Either inequality failing at `g` is the crossover that did not happen.
  have hstays_up : 0 ≤ a → 0 ≤ b := by
    intro ha
    by_contra hb
    exact hdown ⟨ha, not_le.mp hb, fun h => nomatch h⟩
  have hstays_down : a ≤ 0 → b ≤ 0 := by
    intro ha
    by_contra hb
    exact hup ⟨ha, not_le.mp hb, fun h => nomatch h⟩
  unfold OnSide at h ⊢
  rw [hf] at h
  rw [hg]
  cases d with
  | LONG => exact (Cell.le_some _ _).mpr (hstays_up ((Cell.le_some _ _).mp h))
  | FLAT => exact (Cell.le_some _ _).mpr (hstays_down ((Cell.le_some _ _).mp h))
  | SHORT => exact (Cell.le_some _ _).mpr (hstays_down ((Cell.le_some _ _).mp h))

/-- On a side is defined. -/
theorem exists_histogram (h : OnSide f d) : ∃ a, f.histogram = some a := by
  cases d with
  | LONG =>
    obtain ⟨-, a, -, ha, -⟩ := Cell.exists_of_le h
    exact ⟨a, ha⟩
  | FLAT =>
    obtain ⟨a, -, ha, -⟩ := Cell.exists_of_le h
    exact ⟨a, ha⟩
  | SHORT =>
    obtain ⟨a, -, ha, -⟩ := Cell.exists_of_le h
    exact ⟨a, ha⟩

/-- The held target and the histogram, at every bar. -/
theorem held_on_side (hfilter : p.require_zero_line = false) {bars : List Bar} {i : ℕ}
    (hf : (facts p bars)[i]? = some f)
    (hheld : (held (event p) (facts p bars))[i]? = some (some d)) : OnSide f d := by
  refine held_invariant (P := OnSide) ?_ ?_ i f d hf hheld
  · exact fun _ _ _ _ hevent => on_side_of_event hevent
  · intro i f g d hf hg hquiet hside
    obtain ⟨a, ha⟩ := exists_histogram hside
    obtain ⟨b, hb⟩ := histogram_next hf ha hg
    exact on_side_of_quiet hfilter ha hb (previous_eq hf hg) hquiet hside

end Unfiltered

theorem frame_eq {p : Parameters} {series : PriceSeries} {signals : SignalSet}
    (h : generate_signals p series = .ok signals) :
    signals.frame
      = List.zipWith BarSignal.row series.frame.bars (bar_signals p series.frame.bars) := by
  obtain ⟨-, -, h⟩ := Outcome.bind_eq_ok.mp h
  obtain rfl := Except.ok.inj h
  rfl

/-- A law of the rows with one direction, as a law of the held events. -/
theorem frame_rows_iff (p : Parameters) (bars : List Bar) {d : SignalDirection} (hd : d ≠ .FLAT)
    (Good : Facts → Prop) :
    (∀ (i : ℕ) row f, (List.zipWith BarSignal.row bars (bar_signals p bars))[i]? = some row →
        (facts p bars)[i]? = some f → row.direction = d → Good f) ↔
      ∀ (i : ℕ) f, (facts p bars)[i]? = some f →
        (held (event p) (facts p bars))[i]? = some (some d) → Good f :=
  forall_rows_iff ((causal_facts p).length _) hd Good

/-- **Main result**: without the zero-line filter a position is on the
    histogram's side at every bar, and after the first crossover so is the
    absence of a long one. -/
theorem rows_on_their_side {p : Parameters} {series : PriceSeries} {signals : SignalSet}
    (hfilter : p.require_zero_line = false) (h : generate_signals p series = .ok signals) :
    ∀ (i : ℕ) row f, signals.frame[i]? = some row →
      (facts p series.frame.bars)[i]? = some f →
      (row.direction = .LONG → Cell.le (some 0) f.histogram = true) ∧
      (row.direction = .SHORT → Cell.le f.histogram (some 0) = true) ∧
      (CrossedBy p (facts p series.frame.bars) i → row.direction ≠ .LONG →
        Cell.le f.histogram (some 0) = true) := by
  intro i row f hrow hf
  rw [frame_eq h] at hrow
  obtain ⟨bar, s, -, hs, rfl⟩ := of_row hrow
  show (s.direction = .LONG → _) ∧ (s.direction = .SHORT → _) ∧ (_ → s.direction ≠ .LONG → _)
  refine ⟨?_, ?_, ?_⟩
  · intro hlong
    exact held_on_side hfilter hf ((direction_iff (by decide) hs).mp hlong)
  · intro hshort
    exact held_on_side hfilter hf ((direction_iff (by decide) hs).mp hshort)
  · intro hcrossed hnot
    obtain ⟨j, f', hji, hf', hcross⟩ := hcrossed
    obtain ⟨f'', e, c, hf'', he, rfl⟩ := of_held_signal hs
    -- A crossover has happened, so an event is held, and it is not the long one.
    have hevent : (event p f').isSome := by
      rw [Option.isSome_iff_ne_none, ne_eq, event_eq_none_iff]
      tauto
    obtain ⟨d, rfl⟩ := Option.isSome_iff_exists.mp (held_isSome hf' hevent hji he)
    have hside := held_on_side hfilter hf he
    cases d with
    | LONG => exact absurd rfl hnot
    | FLAT => exact hside
    | SHORT => exact hside

/-- The shortest spans the strategy accepts, with a short side. -/
def short_spans (require_zero_line : Bool) : Parameters where
  fast := ⟨2, by decide +kernel⟩
  slow := ⟨3, by decide +kernel⟩
  signal := ⟨2, by decide +kernel⟩
  allow_short := true
  require_zero_line := require_zero_line
  fast_lt_slow := by decide +kernel

/-- A price that jumps and falls back. -/
def jump : PriceSeries := daily_series "INFY.NS" [10, 10, 10, 10, 13, 12, 11]

/-- The jump, without the filter: long at the jump, short after it. -/
theorem jump_on_its_side :
    ∃ signals, generate_signals (short_spans false) jump = .ok signals ∧
      signals.frame.map SignalRow.direction = [.FLAT, .FLAT, .FLAT, .FLAT, .LONG, .SHORT, .SHORT] ∧
      ∀ (i : ℕ) row f, signals.frame[i]? = some row →
        (facts (short_spans false) jump.frame.bars)[i]? = some f →
        (row.direction = .LONG → Cell.le (some 0) f.histogram = true) ∧
        (row.direction = .SHORT → Cell.le f.histogram (some 0) = true) ∧
        (CrossedBy (short_spans false) (facts (short_spans false) jump.frame.bars) i →
          row.direction ≠ .LONG → Cell.le f.histogram (some 0) = true) := by
  obtain ⟨signals, hsignals, hdirections⟩ := Outcome.exists_of_any
    (show (generate_signals (short_spans false) jump).toOption.any (fun signals =>
      signals.frame.map SignalRow.direction
        = [.FLAT, .FLAT, .FLAT, .FLAT, .LONG, .SHORT, .SHORT]) = true by decide +kernel)
  exact ⟨signals, hsignals, of_decide_eq_true hdirections, rows_on_their_side rfl hsignals⟩

/-! ## With the filter -/

/-- When the MACD line falls to zero or below, for the first time since an upward
    crossover above zero, that bar is a downward crossover below zero; and the
    mirror image on the short side. -/
def LineDecides (p : Parameters) (facts : List Facts) : Prop :=
  (∀ (j i : ℕ) f g, j < i → facts[j]? = some f → facts[i]? = some g → crossed_up p f = true →
    (∀ k h, j < k → k < i → facts[k]? = some h → Cell.lt (some 0) h.macd = true) →
    Cell.le g.macd (some 0) = true → crossed_down p g = true) ∧
  (p.allow_short = true → ∀ (j i : ℕ) f g, j < i → facts[j]? = some f → facts[i]? = some g →
    crossed_down p f = true →
    (∀ k h, j < k → k < i → facts[k]? = some h → Cell.lt h.macd (some 0) = true) →
    Cell.le (some 0) g.macd = true → crossed_up p g = true)

section Filtered

variable {p : Parameters} {f : Facts}

theorem above_of_crossed_up (hfilter : p.require_zero_line = true) (h : crossed_up p f = true) :
    Cell.lt (some 0) f.macd = true :=
  (crossed_up_iff.mp h).2.2 hfilter

theorem below_of_crossed_down (hfilter : p.require_zero_line = true)
    (h : crossed_down p f = true) : Cell.lt f.macd (some 0) = true :=
  (crossed_down_iff.mp h).2.2 hfilter

theorem not_above_and_below (habove : Cell.lt (some 0) f.macd = true) :
    ¬ Cell.lt f.macd (some 0) = true := by
  intro hbelow
  obtain ⟨x, y, hx, hy, hxy⟩ := Cell.exists_of_lt habove
  obtain rfl := Option.some.inj hx
  rw [hy, Cell.lt_some] at hbelow
  exact absurd hxy hbelow.not_gt

/-- Long rows keep to the line exactly when the first bar off it is a downward
    crossover. -/
theorem long_rows_iff (hfilter : p.require_zero_line = true) (bars : List Bar) :
    (∀ (i : ℕ) f, (facts p bars)[i]? = some f →
        (held (event p) (facts p bars))[i]? = some (some .LONG) →
        Cell.lt (some 0) f.macd = true) ↔
      ∀ (j i : ℕ) f g, j < i → (facts p bars)[j]? = some f → (facts p bars)[i]? = some g →
        crossed_up p f = true →
        (∀ k h, j < k → k < i → (facts p bars)[k]? = some h → Cell.lt (some 0) h.macd = true) →
        Cell.le g.macd (some 0) = true → crossed_down p g = true := by
  apply held_good_iff_leave
  · exact fun f => event_eq_LONG_iff
  · exact fun f => event_eq_none_iff
  · exact fun f => above_of_crossed_up hfilter
  · exact fun f hdown habove => not_above_and_below habove (below_of_crossed_down hfilter hdown)
  · intro j i f g hji hf hg habove
    obtain ⟨-, a, -, ha, -⟩ := Cell.exists_of_lt habove
    obtain ⟨b, hb⟩ := line_later hf ha hji.le hg
    rw [hb, Cell.le_some, Cell.lt_some, not_lt]

/-- The mirror image, for a strategy with a short side. -/
theorem short_rows_iff (hfilter : p.require_zero_line = true) (bars : List Bar) :
    (∀ (i : ℕ) f, (facts p bars)[i]? = some f →
        (held (event p) (facts p bars))[i]? = some (some .SHORT) →
        Cell.lt f.macd (some 0) = true) ↔
      (p.allow_short = true → ∀ (j i : ℕ) f g, j < i → (facts p bars)[j]? = some f →
        (facts p bars)[i]? = some g → crossed_down p f = true →
        (∀ k h, j < k → k < i → (facts p bars)[k]? = some h → Cell.lt h.macd (some 0) = true) →
        Cell.le (some 0) g.macd = true → crossed_up p g = true) := by
  by_cases hshort : p.allow_short = true
  · rw [forall_prop_of_true hshort]
    -- Entering and leaving change roles.
    apply held_good_iff_leave
    · intro f
      rw [event_eq_SHORT_iff, hshort]
      simp
    · exact fun f => event_eq_none_iff.trans and_comm
    · exact fun f => below_of_crossed_down hfilter
    · exact fun f hup hbelow => not_above_and_below (above_of_crossed_up hfilter hup) hbelow
    · intro j i f g hji hf hg hbelow
      obtain ⟨a, -, ha, -, -⟩ := Cell.exists_of_lt hbelow
      obtain ⟨b, hb⟩ := line_later hf ha hji.le hg
      rw [hb, Cell.le_some, Cell.lt_some, not_lt]
  · -- No event is a short one.
    refine iff_of_true ?_ fun hallowed => absurd hallowed hshort
    intro i f hf hheld
    obtain ⟨-, j, -, ⟨f', -, hevent⟩, -⟩ := held_iff.mp hheld
    exact absurd (event_eq_SHORT_iff.mp hevent).2 hshort

end Filtered

/-- **Main result**: with the zero-line filter a position is on the MACD line's
    side at every bar exactly when crossovers beyond zero decide where the line
    changes sides. -/
theorem zero_line_iff {p : Parameters} {series : PriceSeries} {signals : SignalSet}
    (hfilter : p.require_zero_line = true) (h : generate_signals p series = .ok signals) :
    (∀ (i : ℕ) row f, signals.frame[i]? = some row →
        (facts p series.frame.bars)[i]? = some f →
        (row.direction = .LONG → Cell.lt (some 0) f.macd = true) ∧
        (row.direction = .SHORT → Cell.lt f.macd (some 0) = true)) ↔
      LineDecides p (facts p series.frame.bars) := by
  have hlong := (frame_rows_iff p series.frame.bars (by decide)
    fun f => Cell.lt (some 0) f.macd = true).trans (long_rows_iff hfilter series.frame.bars)
  have hshort := (frame_rows_iff p series.frame.bars (by decide)
    fun f => Cell.lt f.macd (some 0) = true).trans (short_rows_iff hfilter series.frame.bars)
  rw [frame_eq h]
  -- One conjunct of the condition for each direction.
  constructor
  · intro hrows
    exact ⟨hlong.mp fun i row f hrow hf => (hrows i row f hrow hf).1,
      hshort.mp fun i row f hrow hf => (hrows i row f hrow hf).2⟩
  · intro hdecides i row f hrow hf
    exact ⟨hlong.mpr hdecides.1 i row f hrow hf, hshort.mpr hdecides.2 i row f hrow hf⟩

/-- A price that jumps, with the filter: the law on its rows, or its condition. -/
theorem zero_line_iff_on_jump :
    ∃ signals, generate_signals (short_spans true) jump = .ok signals ∧
      ((∀ (i : ℕ) row f, signals.frame[i]? = some row →
          (facts (short_spans true) jump.frame.bars)[i]? = some f →
          (row.direction = .LONG → Cell.lt (some 0) f.macd = true) ∧
          (row.direction = .SHORT → Cell.lt f.macd (some 0) = true)) ↔
        LineDecides (short_spans true) (facts (short_spans true) jump.frame.bars)) := by
  obtain ⟨signals, hsignals⟩ := Outcome.exists_eq_ok
    (show (generate_signals (short_spans true) jump).isOk = true by decide +kernel)
  exact ⟨signals, hsignals, zero_line_iff rfl hsignals⟩

/-- The jump falls back: the histogram turns while the line is above zero, which
    does not count, and the line falls below zero with the position still long. -/
theorem long_below_zero_line :
    ∃ signals row f, generate_signals (short_spans true) jump = .ok signals ∧
      signals.frame[6]? = some row ∧ (facts (short_spans true) jump.frame.bars)[6]? = some f ∧
      row.direction = .LONG ∧ ¬ Cell.lt (some 0) f.macd = true := by
  obtain ⟨signals, hsignals, hlong⟩ := Outcome.exists_of_any
    (show (generate_signals (short_spans true) jump).toOption.any (fun signals =>
      signals.frame[6]?.any (fun row => row.direction = .LONG)) = true by decide +kernel)
  obtain ⟨row, hrow, hlong⟩ := (Option.any_eq_true _ _).mp hlong
  obtain ⟨f, hf, hbelow⟩ := (Option.any_eq_true _ _).mp
    (show (facts (short_spans true) jump.frame.bars)[6]?.any
      (fun f => ¬ Cell.lt (some 0) f.macd = true) = true by decide +kernel)
  exact ⟨signals, row, f, hsignals, hrow, hf, of_decide_eq_true hlong, of_decide_eq_true hbelow⟩

end MACD

end Quantora
