import Quantora.Strategy.Causality
import Quantora.Strategy.Rows
import Quantora.Strategy.Warmups

/-! # Bollinger positions and the middle band

    A band touch opens a mean-reversion position outside the bands; the middle
    band is where the reversion it waits for is complete. With `exit_at_middle`
    the position is never carried to the other side of it.

    * `below_middle`, `above_middle` — a touch is on its own side of the middle
      band, since the bands are no narrower than the middle.
    * `reverting_of_quiet` — a close on the far side of the middle band is a
      crossing, hence an event.
    * `rows_before_the_middle` — so the close stays on the position's side. -/

namespace Quantora

namespace Bollinger

open Column

section Facts

variable {rt : Runtime} {p : Parameters} {bars : List Bar} {i : ℕ} {f g : Facts}

theorem map_close (bars : List Bar) :
    bars.map (fun bar => (some bar.close : Cell)) = (bars.map Bar.close).map some := by
  rw [List.map_map]
  rfl

/-- The columns that a bar's facts are read from. -/
theorem of_facts (hf : (facts rt p bars)[i]? = some f) :
    let close : List Cell := (bars.map Bar.close).map some
    let result := indicators.bollinger_bands rt close p.window.1.toNat p.num_std.1
    close[i]? = some f.close ∧ (indicators.shift close)[i]? = some f.previous_close ∧
      result.middle[i]? = some f.middle ∧
      (indicators.shift result.middle)[i]? = some f.previous_middle ∧
      result.upper[i]? = some f.upper ∧ result.lower[i]? = some f.lower := by
  unfold facts at hf
  rw [map_close] at hf
  obtain ⟨prices, bands, hprices, hbands, rfl⟩ := List.getElem?_zipWith_eq_some.mp hf
  obtain ⟨hclose, hprevious⟩ := List.getElem?_zip_eq_some.mp hprices
  obtain ⟨hlevels, -⟩ := List.getElem?_zip_eq_some.mp hbands
  obtain ⟨hmiddles, hbounds⟩ := List.getElem?_zip_eq_some.mp hlevels
  obtain ⟨hmiddle, hprevious_middle⟩ := List.getElem?_zip_eq_some.mp hmiddles
  obtain ⟨hupper, hlower⟩ := List.getElem?_zip_eq_some.mp hbounds
  exact ⟨hclose, hprevious, hmiddle, hprevious_middle, hupper, hlower⟩

theorem exists_close (hf : (facts rt p bars)[i]? = some f) : ∃ c, f.close = some c := by
  obtain ⟨hclose, -⟩ := of_facts hf
  rw [List.getElem?_map] at hclose
  obtain ⟨c, -, hc⟩ := Option.map_eq_some_iff.mp hclose
  exact ⟨c, hc.symm⟩

/-- The previous close and the previous middle band are those of the bar before. -/
theorem previous_eq (hf : (facts rt p bars)[i]? = some f)
    (hg : (facts rt p bars)[i + 1]? = some g) :
    g.previous_close = f.close ∧ g.previous_middle = f.middle := by
  obtain ⟨hclose, -, hmiddle, -⟩ := of_facts hf
  obtain ⟨hclose', hprevious, hmiddle', hprevious_middle, -⟩ := of_facts hg
  rw [indicators.shift, List.getElem?_map, getElem?_shift_succ hclose hclose'] at hprevious
  rw [indicators.shift, List.getElem?_map, getElem?_shift_succ hmiddle hmiddle']
    at hprevious_middle
  exact ⟨(Option.some.inj hprevious).symm, (Option.some.inj hprevious_middle).symm⟩

/-- The middle band has no gaps. -/
theorem middle_next {m : ℚ} (hf : (facts rt p bars)[i]? = some f) (hm : f.middle = some m)
    (hg : (facts rt p bars)[i + 1]? = some g) : ∃ m', g.middle = some m' := by
  obtain ⟨-, -, hmiddle, -⟩ := of_facts hf
  obtain ⟨-, -, hmiddle', -⟩ := of_facts hg
  rw [hm] at hmiddle
  exact Option.isSome_iff_exists.mp
    ((indicators.definedFrom_sma _ p.window.1.toNat).next hmiddle hmiddle')

/-- The bands lie around the middle band. -/
theorem bands_ordered (hsqrt : ∀ x, 0 ≤ x → 0 ≤ rt.sqrt x) (hf : (facts rt p bars)[i]? = some f) :
    (∀ l, f.lower = some l → ∃ m, f.middle = some m ∧ l ≤ m) ∧
      (∀ u, f.upper = some u → ∃ m, f.middle = some m ∧ m ≤ u) := by
  obtain ⟨-, -, hmiddle, -, hupper, hlower⟩ := of_facts hf
  obtain ⟨middle, width, hm, hw, hlower⟩ := List.getElem?_zipWith_eq_some.mp hlower
  obtain ⟨middle', width', hm', hw', hupper⟩ := List.getElem?_zipWith_eq_some.mp hupper
  obtain rfl : middle = f.middle := Option.some.inj (hm ▸ hmiddle)
  obtain rfl : middle' = f.middle := Option.some.inj (hm' ▸ hmiddle)
  obtain rfl : width = width' := Option.some.inj (hw ▸ hw')
  -- The width is a multiple of a root.
  have hwidth : ∀ w, width = some w → 0 ≤ w := by
    intro w hw0
    rw [List.getElem?_map] at hw
    obtain ⟨std, hstd, hmul⟩ := Option.map_eq_some_iff.mp hw
    rw [hw0] at hmul
    obtain ⟨q, s, hq, hs, rfl⟩ := Option.map₂_eq_some_iff.mp hmul
    have hq0 : (1 / 10 : ℚ) ≤ q := (p.num_std.2 q hq).1
    have hs0 : 0 ≤ s := by
      rw [indicators.getElem?_rolling hstd] at hs
      by_cases hwarm : i + 1 < p.window.1.toNat
      · rw [if_pos hwarm] at hs
        cases hs
      · rw [if_neg hwarm] at hs
        obtain rfl := Option.some.inj hs
        exact hsqrt _ (indicators.variance_nonneg _)
    have : 0 ≤ q := by linarith
    positivity
  constructor
  · intro l hl
    rw [hl] at hlower
    obtain ⟨m, w, hm, hw, rfl⟩ := Option.map₂_eq_some_iff.mp hlower
    exact ⟨m, hm, sub_le_self m (hwidth w hw)⟩
  · intro u hu
    rw [hu] at hupper
    obtain ⟨m, w, hm, hw, rfl⟩ := Option.map₂_eq_some_iff.mp hupper
    exact ⟨m, hm, le_add_of_nonneg_right (hwidth w hw)⟩

/-- A touch of the lower band is below the middle band. -/
theorem below_middle (hsqrt : ∀ x, 0 ≤ x → 0 ≤ rt.sqrt x) (hf : (facts rt p bars)[i]? = some f)
    (h : below_lower f = true) : Cell.le f.close f.middle = true := by
  obtain ⟨-, hlt⟩ := of_decide_eq_true h
  obtain ⟨c, l, hc, hl, hcl⟩ := Cell.exists_of_lt hlt
  obtain ⟨m, hm, hlm⟩ := (bands_ordered hsqrt hf).1 l hl
  rw [hc, hm, Cell.le_some]
  exact hcl.le.trans hlm

/-- A touch of the upper band is above it. -/
theorem above_middle (hsqrt : ∀ x, 0 ≤ x → 0 ≤ rt.sqrt x) (hf : (facts rt p bars)[i]? = some f)
    (h : above_upper f = true) : Cell.le f.middle f.close = true := by
  obtain ⟨-, hlt⟩ := of_decide_eq_true h
  obtain ⟨u, c, hu, hc, huc⟩ := Cell.exists_of_lt hlt
  obtain ⟨m, hm, hmu⟩ := (bands_ordered hsqrt hf).2 u hu
  rw [hc, hm, Cell.le_some]
  exact hmu.trans huc.le

end Facts

/-! ## Events -/

/-- The reversion has not gone past the middle band. -/
def Reverting (f : Facts) : SignalDirection → Prop
  | .LONG => Cell.le f.close f.middle = true
  | .FLAT => True
  | .SHORT => Cell.le f.middle f.close = true

section Events

variable {rt : Runtime} {p : Parameters} {bars : List Bar} {i : ℕ} {f g : Facts}
  {d : SignalDirection}

/-- **Inversion**: a bar touches the upper band, touches the lower band, exits at
    the middle band, or decides nothing. -/
theorem event_cases (p : Parameters) (f : Facts) :
    (above_upper f = true ∧ event p f = some (if p.allow_short then .SHORT else .FLAT)) ∨
    (below_lower f = true ∧ event p f = some .LONG) ∨
    (p.exit_at_middle = true ∧ event p f = some .FLAT) ∨
    (¬ (p.exit_at_middle = true ∧
        (crossed_above_middle f = true ∨ crossed_below_middle f = true)) ∧
      event p f = none) := by
  unfold event
  by_cases habove : above_upper f = true
  · rw [if_pos habove]
    exact Or.inl ⟨habove, rfl⟩
  rw [if_neg habove]
  by_cases hbelow : below_lower f = true
  · rw [if_pos hbelow]
    exact Or.inr (Or.inl ⟨hbelow, rfl⟩)
  rw [if_neg hbelow]
  by_cases hmiddle : p.exit_at_middle ∧ (crossed_above_middle f ∨ crossed_below_middle f)
  · rw [if_pos hmiddle]
    exact Or.inr (Or.inr (Or.inl ⟨hmiddle.1, rfl⟩))
  · rw [if_neg hmiddle]
    exact Or.inr (Or.inr (Or.inr ⟨hmiddle, rfl⟩))

/-- A long event is a touch of the lower band, a short one of the upper band. -/
theorem touch_of_event (h : event p f = some d) :
    (d = .LONG → below_lower f = true) ∧ (d = .SHORT → above_upper f = true) := by
  rcases event_cases p f with ⟨habove, hevent⟩ | ⟨hbelow, hevent⟩ | ⟨-, hevent⟩ | ⟨-, hevent⟩
  · rw [hevent] at h
    obtain rfl := Option.some.inj h
    refine ⟨fun hlong => ?_, fun _ => habove⟩
    -- A touch of the upper band is never long.
    cases hshort : p.allow_short <;> rw [hshort] at hlong <;> cases hlong
  · rw [hevent] at h
    obtain rfl := Option.some.inj h
    exact ⟨fun _ => hbelow, fun hshort => nomatch hshort⟩
  · rw [hevent] at h
    obtain rfl := Option.some.inj h
    exact ⟨fun hlong => (nomatch hlong), fun hshort => nomatch hshort⟩
  · rw [hevent] at h
    cases h

theorem not_crossed_of_quiet (hexit : p.exit_at_middle = true) (h : event p f = none) :
    ¬ crossed_above_middle f = true ∧ ¬ crossed_below_middle f = true := by
  rcases event_cases p f with ⟨-, hevent⟩ | ⟨-, hevent⟩ | ⟨-, hevent⟩ | ⟨hmiddle, -⟩
  · rw [hevent] at h
    cases h
  · rw [hevent] at h
    cases h
  · rw [hevent] at h
    cases h
  · constructor
    · exact fun hcross => hmiddle ⟨hexit, Or.inl hcross⟩
    · exact fun hcross => hmiddle ⟨hexit, Or.inr hcross⟩

/-- A close past the middle band that was not past it before is a crossing. -/
theorem reverting_of_quiet (hexit : p.exit_at_middle = true)
    (hf : (facts rt p bars)[i]? = some f) (hg : (facts rt p bars)[i + 1]? = some g)
    (hquiet : event p g = none) (h : Reverting f d) : Reverting g d := by
  obtain ⟨habove, hbelow⟩ := not_crossed_of_quiet hexit hquiet
  obtain ⟨hclose, hmiddle⟩ := previous_eq hf hg
  obtain ⟨c', hc'⟩ := exists_close hg
  cases d with
  | FLAT => trivial
  | LONG =>
    obtain ⟨c, m, hc, hm, hcm⟩ := Cell.exists_of_le h
    obtain ⟨m', hm'⟩ := middle_next hf hm hg
    show Cell.le g.close g.middle = true
    rw [hc', hm', Cell.le_some]
    -- Past the band it would have crossed it upward.
    by_contra hpast
    apply habove
    apply decide_eq_true
    rw [hclose, hmiddle, hc, hm, hc', hm', Cell.le_some, Cell.lt_some]
    exact ⟨hcm, not_le.mp hpast⟩
  | SHORT =>
    obtain ⟨m, c, hm, hc, hmc⟩ := Cell.exists_of_le h
    obtain ⟨m', hm'⟩ := middle_next hf hm hg
    show Cell.le g.middle g.close = true
    rw [hc', hm', Cell.le_some]
    -- Here downward.
    by_contra hpast
    apply hbelow
    apply decide_eq_true
    rw [hclose, hmiddle, hc, hm, hc', hm', Cell.le_some, Cell.lt_some]
    exact ⟨hmc, not_le.mp hpast⟩

/-- The held target and the middle band, at every bar. -/
theorem held_reverting (hsqrt : ∀ x, 0 ≤ x → 0 ≤ rt.sqrt x) (hexit : p.exit_at_middle = true)
    (hf : (facts rt p bars)[i]? = some f)
    (hheld : (held (event p) (facts rt p bars))[i]? = some (some d)) : Reverting f d := by
  refine held_invariant (P := Reverting) ?_ ?_ i f d hf hheld
  · intro i f d hf hevent
    obtain ⟨hlong, hshort⟩ := touch_of_event hevent
    cases d with
    | LONG => exact below_middle hsqrt hf (hlong rfl)
    | FLAT => trivial
    | SHORT => exact above_middle hsqrt hf (hshort rfl)
  · exact fun i f g d hf hg hquiet h => reverting_of_quiet hexit hf hg hquiet h

end Events

/-- **Main result**: with `exit_at_middle` no position is carried past the middle
    band. -/
theorem rows_before_the_middle {rt : Runtime} (hsqrt : ∀ x, 0 ≤ x → 0 ≤ rt.sqrt x)
    {p : Parameters} (hexit : p.exit_at_middle = true) {series : PriceSeries}
    {signals : SignalSet} (h : generate_signals rt p series = .ok signals) :
    ∀ (i : ℕ) row f, signals.frame[i]? = some row →
      (facts rt p series.frame.bars)[i]? = some f →
      (row.direction = .LONG → Cell.le f.close f.middle = true) ∧
      (row.direction = .SHORT → Cell.le f.middle f.close = true) := by
  intro i row f hrow hf
  obtain ⟨-, -, h⟩ := Outcome.bind_eq_ok.mp h
  obtain rfl := Except.ok.inj h
  obtain ⟨bar, s, -, hs, rfl⟩ := of_row hrow
  constructor
  · intro hlong
    exact held_reverting hsqrt hexit hf ((direction_iff (by decide) hs).mp hlong)
  · intro hshort
    exact held_reverting hsqrt hexit hf ((direction_iff (by decide) hs).mp hshort)

/-- Two bars and half a deviation, with a short side. -/
def narrow_bands : Parameters where
  window := ⟨2, by decide +kernel⟩
  num_std := ⟨some (1 / 2), by simp [Bollinger.num_std]; norm_num⟩
  exit_at_middle := true
  allow_short := true

/-- A dip that reverts. Every variance is zero or one, which are their own
    roots. -/
def dip : PriceSeries := daily_series "INFY.NS" [10, 10, 8, 8, 10, 10]

/-- The dip is bought, held while the close is at the middle band, and sold. -/
theorem dip_before_the_middle :
    ∃ signals, generate_signals default narrow_bands dip = .ok signals ∧
      signals.frame.map SignalRow.direction = [.FLAT, .FLAT, .LONG, .LONG, .SHORT, .SHORT] ∧
      ∀ (i : ℕ) row f, signals.frame[i]? = some row →
        (facts default narrow_bands dip.frame.bars)[i]? = some f →
        (row.direction = .LONG → Cell.le f.close f.middle = true) ∧
        (row.direction = .SHORT → Cell.le f.middle f.close = true) := by
  obtain ⟨signals, hsignals, hdirections⟩ := Outcome.exists_of_any
    (show (generate_signals default narrow_bands dip).toOption.any (fun signals =>
      signals.frame.map SignalRow.direction = [.FLAT, .FLAT, .LONG, .LONG, .SHORT, .SHORT]) = true
      by decide +kernel)
  exact ⟨signals, hsignals, of_decide_eq_true hdirections,
    rows_before_the_middle (fun _ h => h) rfl hsignals⟩

end Bollinger

end Quantora
