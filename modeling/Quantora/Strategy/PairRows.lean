import Quantora.Strategy.Causality
import Quantora.Strategy.Rows

/-! # Rows of a pair strategy

    The signals are decided on the common bars and put back on the index of the
    primary series.

    * `event_eq_LONG_iff`, `event_eq_SHORT_iff`, `event_eq_none_iff` — what each
      decision at a common bar says about its facts.
    * `view` — what is said at a bar of the primary series: the signal of its
      common bar (`view_common`), or no view without one (`view_missing`). -/

namespace Quantora

namespace PairTrading

open Column

/-! ## Decisions -/

section Events

variable {p : Parameters} {f : Facts}

/-- A z-score and a correlation are there, and the pair has not decoupled. -/
theorem usable_iff : unusable p f = false ↔
    f.z.isSome ∧ f.correlation.isSome ∧ ¬ Cell.lt f.correlation p.min_correlation.1 = true := by
  rw [← Bool.not_eq_true, unusable, decide_eq_true_iff, decoupled]
  cases f.z <;> cases f.correlation <;> simp

theorem enter_long_iff : enter_long p f = true ↔
    Cell.le f.z (Cell.neg p.entry_z.1) = true ∧ unusable p f = false := by
  rw [← Bool.not_eq_true]
  exact decide_eq_true_iff

theorem enter_short_iff : enter_short p f = true ↔
    Cell.le p.entry_z.1 f.z = true ∧ unusable p f = false := by
  rw [← Bool.not_eq_true]
  exact decide_eq_true_iff

theorem revert_flat_iff : revert_flat p f = true ↔
    Cell.le (Cell.abs f.z) p.exit_z.1 = true ∧ unusable p f = false := by
  rw [← Bool.not_eq_true]
  exact decide_eq_true_iff

theorem entry_bounds {n : ℚ} (h : p.entry_z.1 = some n) : 1 / 2 ≤ n :=
  (p.entry_z.2 n h).1

theorem exit_bounds {e : ℚ} (h : p.exit_z.1 = some e) : 0 ≤ e :=
  (p.exit_z.2 e h).1

theorem exit_lt_entry {e n : ℚ} (he : p.exit_z.1 = some e) (hn : p.entry_z.1 = some n) :
    e < n := by
  have hband := p.exit_below_entry
  rw [he, hn, ← Bool.not_eq_true, Cell.le_some] at hband
  exact not_le.mp hband

theorem of_enter_long (h : enter_long p f = true) :
    ∃ z n, f.z = some z ∧ p.entry_z.1 = some n ∧ 1 / 2 ≤ n ∧ z ≤ -n := by
  obtain ⟨z, m, hz, hm, hzm⟩ := Cell.exists_of_le (enter_long_iff.mp h).1
  obtain ⟨n, hn, rfl⟩ := Option.map_eq_some_iff.mp hm
  exact ⟨z, n, hz, hn, entry_bounds hn, hzm⟩

theorem of_enter_short (h : enter_short p f = true) :
    ∃ z n, f.z = some z ∧ p.entry_z.1 = some n ∧ 1 / 2 ≤ n ∧ n ≤ z := by
  obtain ⟨n, z, hn, hz, hnz⟩ := Cell.exists_of_le (enter_short_iff.mp h).1
  exact ⟨z, n, hz, hn, entry_bounds hn, hnz⟩

/-- Inside the exit band is not as far out as the entry bands. -/
theorem of_revert_flat (h : revert_flat p f = true) :
    ∃ z, f.z = some z ∧ ∀ n, p.entry_z.1 = some n → |z| < n := by
  obtain ⟨y, e, hy, he, hye⟩ := Cell.exists_of_le (revert_flat_iff.mp h).1
  obtain ⟨z, hz, rfl⟩ := Option.map_eq_some_iff.mp hy
  exact ⟨z, hz, fun n hn => hye.trans_lt (exit_lt_entry he hn)⟩

theorem not_revert_of_enter (h : enter_long p f = true ∨ enter_short p f = true) :
    ¬ revert_flat p f = true := by
  intro hrevert
  obtain ⟨z, hz, hband⟩ := of_revert_flat hrevert
  rcases h with hlong | hshort
  · obtain ⟨z', n, hz', hn, -, hle⟩ := of_enter_long hlong
    obtain rfl := Option.some.inj (hz ▸ hz')
    have := neg_abs_le z
    linarith [hband n hn]
  · obtain ⟨z', n, hz', hn, -, hle⟩ := of_enter_short hshort
    obtain rfl := Option.some.inj (hz ▸ hz')
    have := le_abs_self z
    linarith [hband n hn]

theorem not_enter_both (hlong : enter_long p f = true) : ¬ enter_short p f = true := by
  intro hshort
  obtain ⟨z, n, hz, hn, hpos, hle⟩ := of_enter_long hlong
  obtain ⟨z', n', hz', hn', -, hle'⟩ := of_enter_short hshort
  obtain rfl := Option.some.inj (hz ▸ hz')
  obtain rfl := Option.some.inj (hn ▸ hn')
  linarith

theorem event_eq_LONG_iff : event p f = some .LONG ↔ enter_long p f = true := by
  unfold event
  constructor
  · intro h
    by_contra hlong
    split_ifs at h <;> cases h
  · intro hlong
    have husable : ¬ unusable p f = true := by
      rw [Bool.not_eq_true]
      exact (enter_long_iff.mp hlong).2
    rw [if_neg husable, if_neg (not_revert_of_enter (Or.inl hlong)), if_neg (not_enter_both hlong),
      if_pos hlong]

theorem event_eq_SHORT_iff : event p f = some .SHORT ↔ enter_short p f = true := by
  unfold event
  constructor
  · intro h
    by_contra hshort
    split_ifs at h <;> cases h
  · intro hshort
    have husable : ¬ unusable p f = true := by
      rw [Bool.not_eq_true]
      exact (enter_short_iff.mp hshort).2
    rw [if_neg husable, if_neg (not_revert_of_enter (Or.inr hshort)), if_pos hshort]

/-- Nothing is decided between the bands of a usable pair. -/
theorem event_eq_none_iff : event p f = none ↔ unusable p f = false ∧ ¬ revert_flat p f = true ∧
    ¬ enter_short p f = true ∧ ¬ enter_long p f = true := by
  unfold event
  split_ifs <;> simp_all

end Events

/-! ## What is said at a bar of the primary series -/

section View

variable {rt : Runtime} {p : Parameters} {symbol : String} {primary pair : List Bar}
  {bar : Bar} {k : ℕ} {legs : Bar × Bar}

/-- The signal at a bar of the primary series. -/
def view (table : List (Timestamp × BarSignal)) (bar : Bar) : BarSignal :=
  ((table.find? (fun row => row.1 = bar.timestamp)).map Prod.snd).getD no_view

theorem mem_align (h : legs ∈ align primary pair) :
    legs.1 ∈ primary ∧ legs.2 ∈ pair ∧ legs.2.timestamp = legs.1.timestamp := by
  obtain ⟨bar, hbar, hlegs⟩ := List.mem_filterMap.mp h
  obtain ⟨other, hother, rfl⟩ := Option.map_eq_some_iff.mp hlegs
  have hsame : other.timestamp = bar.timestamp := by simpa using List.find?_some hother
  exact ⟨hbar, List.mem_of_find?_eq_some hother, hsame⟩

/-- A bar with a counterpart is a common bar. -/
theorem exists_align {other : Bar} (hbar : bar ∈ primary) (hother : other ∈ pair)
    (h : other.timestamp = bar.timestamp) :
    ∃ (k : ℕ) (legs : Bar × Bar), (align primary pair)[k]? = some legs ∧ legs.1 = bar := by
  obtain ⟨found, hfound⟩ : ∃ found,
      pair.find? (fun other => other.timestamp = bar.timestamp) = some found := by
    rw [← Option.isSome_iff_exists, List.find?_isSome]
    exact ⟨other, hother, decide_eq_true h⟩
  have hmem : (bar, found) ∈ align primary pair :=
    List.mem_filterMap.mpr ⟨bar, hbar, Option.map_eq_some_iff.mpr ⟨found, hfound, rfl⟩⟩
  obtain ⟨k, hk⟩ := List.mem_iff_getElem?.mp hmem
  exact ⟨k, (bar, found), hk, rfl⟩

/-- A common bar is a bar of the primary series, and it has a counterpart. -/
theorem counterpart_of_common {primary pair : List Bar} {k : ℕ} {legs : Bar × Bar}
    (hlegs : (align primary pair)[k]? = some legs) :
    (∃ n : ℕ, primary[n]? = some legs.1) ∧
      ∃ other ∈ pair, other.timestamp = legs.1.timestamp := by
  obtain ⟨hmem, hcounter, hsame⟩ := mem_align (List.mem_of_getElem? hlegs)
  exact ⟨List.mem_iff_getElem?.mp hmem, legs.2, hcounter, hsame⟩

theorem exists_facts (rt : Runtime) (p : Parameters) {k : ℕ} {legs : Bar × Bar}
    {common : List (Bar × Bar)} (hlegs : common[k]? = some legs) :
    ∃ f, (facts rt p common)[k]? = some f := by
  have hlen : k < (facts rt p common).length := by
    rw [(causal_facts rt p).length]
    exact (List.getElem?_eq_some_iff.mp hlegs).1
  exact ⟨_, List.getElem?_eq_getElem hlen⟩

theorem exists_legs {k : ℕ} {f : Facts} {common : List (Bar × Bar)}
    (hf : (facts rt p common)[k]? = some f) : ∃ legs, common[k]? = some legs := by
  have hlen : k < common.length := by
    rw [← (causal_facts rt p).length]
    exact (List.getElem?_eq_some_iff.mp hf).1
  exact ⟨_, List.getElem?_eq_getElem hlen⟩

/-- The signal of its common bar. -/
theorem view_common (hprimary : primary.Pairwise (fun a b => a.timestamp < b.timestamp))
    (hlegs : (align primary pair)[k]? = some legs) {s : BarSignal}
    (hs : (held_signals (event p) (fun _ => reason p symbol) columns
      (facts rt p (align primary pair)))[k]? = some s)
    (hbar : bar.timestamp = legs.1.timestamp) :
    view (common_signals rt p symbol (align primary pair)) bar = s := by
  have hrow : (common_signals rt p symbol (align primary pair))[k]?
      = some (legs.1.timestamp, s) := by
    refine List.getElem?_zip_eq_some.mpr ⟨?_, hs⟩
    rw [List.getElem?_map, hlegs]
    rfl
  -- The table is in order of time, so the lookup finds this row.
  have hsorted : (common_signals rt p symbol (align primary pair)).Pairwise
      (fun a b => a.1 < b.1) := by
    rw [← List.pairwise_map (f := Prod.fst) (R := (· < ·)), map_fst_common_signals,
      List.pairwise_map]
    exact align_increasing pair hprimary
  rw [view, hbar, Causal.find?_of_mem hsorted (List.mem_of_getElem? hrow)]
  rfl

/-- No view, without a counterpart. -/
theorem view_missing (h : ∀ other ∈ pair, other.timestamp ≠ bar.timestamp) :
    view (common_signals rt p symbol (align primary pair)) bar = no_view := by
  have hnone : (common_signals rt p symbol (align primary pair)).find?
      (fun row => row.1 = bar.timestamp) = none := by
    rw [List.find?_eq_none]
    intro row hrow
    have htime : row.1 ∈ (align primary pair).map (fun legs => legs.1.timestamp) := by
      rw [← map_fst_common_signals rt p symbol]
      exact List.mem_map_of_mem hrow
    obtain ⟨legs, hlegs, heq⟩ := List.mem_map.mp htime
    obtain ⟨-, hother, hsame⟩ := mem_align hlegs
    rw [decide_eq_true_iff, ← heq, ← hsame]
    exact h legs.2 hother
  rw [view, hnone]
  rfl

end View

/-! ## Rows -/

section Rows

variable {rt : Runtime} {p : Parameters} {pair series : PriceSeries} {signals : SignalSet}

theorem row_eq (h : generate_signals rt p (some pair) series = .ok signals) (i : ℕ) :
    signals.frame[i]? = series.frame.bars[i]?.map fun bar =>
      (view (common_signals rt p series.symbol (align series.frame.bars pair.frame.bars)) bar).row
        bar := by
  obtain rfl := generate_signals_eq rt p h
  show (List.zipWith BarSignal.row series.frame.bars (series.frame.bars.map (view _)))[i]? = _
  rw [List.zipWith_map_right, List.zipWith_self, List.getElem?_map]

theorem row_direction (h : generate_signals rt p (some pair) series = .ok signals) {i : ℕ}
    {row : SignalRow} {bar : Bar} (hrow : signals.frame[i]? = some row)
    (hbar : series.frame.bars[i]? = some bar) :
    row.direction = (view (common_signals rt p series.symbol
      (align series.frame.bars pair.frame.bars)) bar).direction := by
  rw [row_eq h i, hbar] at hrow
  rw [← Option.some.inj hrow]
  rfl

/-- At a common bar the row has the direction that is held there. -/
theorem row_direction_iff (h : generate_signals rt p (some pair) series = .ok signals) {i k : ℕ}
    {row : SignalRow} {bar : Bar} {legs : Bar × Bar} (hrow : signals.frame[i]? = some row)
    (hbar : series.frame.bars[i]? = some bar)
    (hlegs : (align series.frame.bars pair.frame.bars)[k]? = some legs)
    (htime : bar.timestamp = legs.1.timestamp) {d : SignalDirection} (hd : d ≠ .FLAT) :
    row.direction = d ↔ (held (event p)
      (facts rt p (align series.frame.bars pair.frame.bars)))[k]? = some (some d) := by
  have hlen : k < (held_signals (event p) (fun _ => reason p series.symbol) columns
      (facts rt p (align series.frame.bars pair.frame.bars))).length := by
    rw [(causal_held_signals _ _ _).length, (causal_facts rt p).length]
    exact (List.getElem?_eq_some_iff.mp hlegs).1
  have hs := List.getElem?_eq_getElem hlen
  rw [← direction_iff hd hs, row_direction h hrow hbar,
    view_common series.frame.increasing hlegs hs htime]

/-- At a bar without a counterpart the row is flat. -/
theorem row_flat_of_missing (h : generate_signals rt p (some pair) series = .ok signals) {i : ℕ}
    {row : SignalRow} {bar : Bar} (hrow : signals.frame[i]? = some row)
    (hbar : series.frame.bars[i]? = some bar)
    (hmissing : ∀ other ∈ pair.frame.bars, other.timestamp ≠ bar.timestamp) :
    row.direction = .FLAT := by
  rw [row_direction h hrow hbar, view_missing hmissing]
  rfl

/-- Every bar of the primary series has a row. -/
theorem exists_row_of_bar (h : generate_signals rt p (some pair) series = .ok signals) {i : ℕ}
    {bar : Bar} (hbar : series.frame.bars[i]? = some bar) :
    ∃ row, signals.frame[i]? = some row := by
  rw [row_eq h i, hbar]
  exact ⟨_, rfl⟩

theorem exists_bar_of_row (h : generate_signals rt p (some pair) series = .ok signals) {i : ℕ}
    {row : SignalRow} (hrow : signals.frame[i]? = some row) :
    ∃ bar, series.frame.bars[i]? = some bar ∧ row.timestamp = bar.timestamp := by
  rw [row_eq h i] at hrow
  obtain ⟨bar, hbar, rfl⟩ := Option.map_eq_some_iff.mp hrow
  exact ⟨bar, hbar, rfl⟩

/-- A law of the rows of the common bars with one direction, as a law of the held
    decisions. -/
theorem common_rows_iff (h : generate_signals rt p (some pair) series = .ok signals)
    {d : SignalDirection} (hd : d ≠ .FLAT) (Good : Facts → Prop) :
    (∀ (k i : ℕ) legs f row, (align series.frame.bars pair.frame.bars)[k]? = some legs →
        (facts rt p (align series.frame.bars pair.frame.bars))[k]? = some f →
        signals.frame[i]? = some row → row.timestamp = legs.1.timestamp →
        row.direction = d → Good f) ↔
      ∀ (k : ℕ) f, (facts rt p (align series.frame.bars pair.frame.bars))[k]? = some f →
        (held (event p) (facts rt p (align series.frame.bars pair.frame.bars)))[k]?
          = some (some d) → Good f := by
  constructor
  · intro hrows k f hf hheld
    obtain ⟨legs, hlegs⟩ := exists_legs hf
    obtain ⟨⟨i, hi⟩, -⟩ := counterpart_of_common hlegs
    obtain ⟨row, hrow⟩ := exists_row_of_bar h hi
    obtain ⟨bar, hbar, htime⟩ := exists_bar_of_row h hrow
    obtain rfl := Option.some.inj (hi ▸ hbar)
    -- The row of the common bar is the one at its index in the primary series.
    exact hrows k i legs f row hlegs hf hrow htime
      ((row_direction_iff h hrow hi hlegs rfl hd).mpr hheld)
  · intro hheld k i legs f row hlegs hf hrow htime hdirection
    obtain ⟨bar, hbar, hbartime⟩ := exists_bar_of_row h hrow
    exact hheld k f hf
      ((row_direction_iff h hrow hbar hlegs (hbartime.symm.trans htime) hd).mp hdirection)

end Rows

end PairTrading

end Quantora
