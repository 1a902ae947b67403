import Quantora.Strategy.PairRows

/-! # Pair positions and the exit band

    A position is closed on a bar whose z-score lies in the exit band. Between
    two bars the z-score can leap over the band, and then the position is held on
    the far side of it.

    * `NoLeap` — after an entry, while the z-score has not come back to the exit
      band, no step takes it to between the bands on the other side. The short
      side is the same of `-z`.
    * `held_iff_no_leap` — one side: held positions keep to their side of the
      exit band exactly when there is no leap.
    * `exits_iff` — both sides, on the rows of the common bars. -/

namespace Quantora

namespace PairTrading

open Column

/-- No step leaps over the exit band from the side of a position, where `w` is
    low, to between the exit band and the entry band on the other side. -/
def NoLeap (p : Parameters) (facts : List Facts) (w : Facts → Cell) : Prop :=
  ∀ (j i : ℕ) f g, j < i → facts[j]? = some f → facts[i]? = some g →
    (unusable p f = false ∧ Cell.le (w f) (Cell.neg p.entry_z.1) = true) →
    (∀ k h, j < k → k < i → facts[k]? = some h →
      unusable p h = false ∧ Cell.lt (w h) (Cell.neg p.exit_z.1) = true) →
    ¬ (unusable p g = false ∧ Cell.lt p.exit_z.1 (w g) = true ∧ Cell.lt (w g) p.entry_z.1 = true)

/-- The z-score, seen from the long side and from the short side. -/
def from_long (f : Facts) : Cell := f.z

def from_short (f : Facts) : Cell := Cell.neg f.z

/-- Reversion is seen: a NaN exit band is never reached, so then there must be no
    entry; and no step leaps over the band. -/
def ReversionSeen (p : Parameters) (facts : List Facts) : Prop :=
  (p.exit_z.1 = none → ∀ f ∈ facts, ¬ enter_long p f = true ∧ ¬ enter_short p f = true) ∧
  NoLeap p facts from_long ∧ NoLeap p facts from_short

/-! ## One side -/

section Side

variable {p : Parameters} {facts : List Facts} {w : Facts → Cell} {d : SignalDirection}

/-- A usable bar is decided on `w` alone: the entry of this side, the exit band,
    and the entry of the other side. -/
structure Side (p : Parameters) (w : Facts → Cell) (d : SignalDirection) : Prop where
  enter : ∀ f, event p f = some d ↔
    unusable p f = false ∧ Cell.le (w f) (Cell.neg p.entry_z.1) = true
  quiet : ∀ f, event p f = none ↔ unusable p f = false ∧
    ¬ Cell.le (Cell.abs (w f)) p.exit_z.1 = true ∧ ¬ Cell.le p.entry_z.1 (w f) = true ∧
    ¬ Cell.le (w f) (Cell.neg p.entry_z.1) = true
  defined : ∀ f, unusable p f = false → ∃ x, w f = some x

/-- Below the exit band, on the side of the position. -/
def Below (p : Parameters) (w : Facts → Cell) (f : Facts) : Prop :=
  unusable p f = false ∧ Cell.lt (w f) (Cell.neg p.exit_z.1) = true

theorem side_long (p : Parameters) : Side p from_long .LONG where
  enter f := by
    rw [event_eq_LONG_iff, enter_long_iff, and_comm]
    rfl
  quiet f := by
    rw [event_eq_none_iff, revert_flat_iff, enter_short_iff, enter_long_iff]
    unfold from_long
    tauto
  defined f h := Option.isSome_iff_exists.mp (usable_iff.mp h).1

theorem side_short (p : Parameters) : Side p from_short .SHORT where
  enter f := by
    rw [event_eq_SHORT_iff, enter_short_iff, and_comm, from_short, Cell.le_of_neg]
  quiet f := by
    rw [event_eq_none_iff, revert_flat_iff, enter_short_iff, enter_long_iff, from_short,
      Cell.abs_of_neg, Cell.le_of_neg, Cell.le_neg_swap p.entry_z.1]
    tauto
  defined f h := by
    obtain ⟨z, hz⟩ := Option.isSome_iff_exists.mp (usable_iff.mp h).1
    exact ⟨-z, by rw [from_short, hz]; rfl⟩

/-- An entry is below the exit band. -/
theorem below_of_entry {e : ℚ} (he : p.exit_z.1 = some e) {f : Facts}
    (h : unusable p f = false ∧ Cell.le (w f) (Cell.neg p.entry_z.1) = true) : Below p w f := by
  obtain ⟨husable, hentry⟩ := h
  obtain ⟨x, m, hx, hm, hxm⟩ := Cell.exists_of_le hentry
  obtain ⟨n, hn, rfl⟩ := Option.map_eq_some_iff.mp hm
  refine ⟨husable, ?_⟩
  rw [hx, he]
  show Cell.lt (some x) (some (-e)) = true
  rw [Cell.lt_some]
  linarith [exit_lt_entry he hn]

/-- Nothing is decided below the exit band but an entry of this side. -/
theorem quiet_or_entry_of_below (hside : Side p w d) {f : Facts} (h : Below p w f) :
    event p f = none ∨ event p f = some d := by
  obtain ⟨husable, hbelow⟩ := h
  obtain ⟨x, m, hx, hm, hxm⟩ := Cell.exists_of_lt hbelow
  obtain ⟨e, he, rfl⟩ := Option.map_eq_some_iff.mp hm
  have hpos := exit_bounds he
  by_cases hentry : Cell.le (w f) (Cell.neg p.entry_z.1) = true
  · exact Or.inr ((hside.enter f).mpr ⟨husable, hentry⟩)
  · refine Or.inl ((hside.quiet f).mpr ⟨husable, ?_, ?_, hentry⟩)
    · rw [hx, he]
      show ¬ Cell.le (some |x|) (some e) = true
      rw [Cell.le_some, not_le]
      linarith [neg_le_abs x]
    · intro hother
      obtain ⟨n, y, hn, hy, hny⟩ := Cell.exists_of_le hother
      obtain rfl := Option.some.inj (hx ▸ hy)
      linarith [entry_bounds hn]

/-- A bar that loses the side without a decision is a leap. -/
theorem leap_iff (hside : Side p w d) {e n : ℚ} (he : p.exit_z.1 = some e)
    (hn : p.entry_z.1 = some n) (g : Facts) :
    (¬ Below p w g ∧ event p g = none) ↔
      unusable p g = false ∧ Cell.lt p.exit_z.1 (w g) = true ∧
        Cell.lt (w g) p.entry_z.1 = true := by
  have hpos := exit_bounds he
  have hband := exit_lt_entry he hn
  rw [hside.quiet, Below, he, hn]
  by_cases husable : unusable p g = false
  · obtain ⟨x, hx⟩ := hside.defined g husable
    rw [hx]
    show (¬ (_ ∧ Cell.lt (some x) (some (-e)) = true) ∧ _ ∧ ¬ Cell.le (some |x|) (some e) = true ∧
      ¬ Cell.le (some n) (some x) = true ∧ ¬ Cell.le (some x) (some (-n)) = true) ↔ _
    simp only [Cell.lt_some, Cell.le_some, husable, true_and, not_lt, not_le]
    constructor
    · rintro ⟨hhigh, hout, hlow, -⟩
      refine ⟨?_, hlow⟩
      -- Outside the band and not below it.
      rcases lt_abs.mp hout with h | h
      · exact h
      · linarith
    · rintro ⟨hout, hlow⟩
      refine ⟨by linarith, ?_, hlow, by linarith⟩
      exact lt_abs.mpr (Or.inl hout)
  · simp [husable]

/-- A held bar short of the far edge of the band is below the band: it is an entry,
    or nothing is decided on it and then it is outside the band. -/
theorem below_of_held (hside : Side p w d) {e : ℚ} (he : p.exit_z.1 = some e) {k : ℕ} {f : Facts}
    (hf : facts[k]? = some f) (hheld : (held (event p) facts)[k]? = some (some d))
    (hshort_of : Cell.lt (w f) p.exit_z.1 = true) : Below p w f := by
  rcases quiet_or_event_of_held hf hheld with hquiet | hentry
  · obtain ⟨husable, hout, -, -⟩ := (hside.quiet f).mp hquiet
    obtain ⟨x, y, hx, hy, hxe⟩ := Cell.exists_of_lt hshort_of
    obtain rfl := Option.some.inj (he ▸ hy)
    refine ⟨husable, ?_⟩
    rw [hx, he] at hout ⊢
    have hfar : e < |x| := not_le.mp fun h => hout ((Cell.le_some _ _).mpr h)
    rcases lt_abs.mp hfar with h | h
    · exact absurd hxe h.not_gt
    · exact (Cell.lt_some _ _).mpr (by linarith)
  · exact below_of_entry he ((hside.enter f).mp hentry)

/-- Below the band is short of its far edge. -/
theorem short_of_below {e : ℚ} (he : p.exit_z.1 = some e) {f : Facts} (h : Below p w f) :
    Cell.lt (w f) p.exit_z.1 = true := by
  have hpos := exit_bounds he
  obtain ⟨x, y, hx, hy, hxy⟩ := Cell.exists_of_lt h.2
  rw [he] at hy
  obtain rfl := Option.some.inj hy
  rw [hx, he, Cell.lt_some]
  linarith

/-- **One side**: what is held on this side stays on this side of the exit band
    exactly when no step leaps over the band. -/
theorem held_iff_no_leap (hside : Side p w d) {e : ℚ} (he : p.exit_z.1 = some e) :
    (∀ (k : ℕ) f, facts[k]? = some f → (held (event p) facts)[k]? = some (some d) →
        Cell.lt (w f) p.exit_z.1 = true) ↔ NoLeap p facts w := by
  -- On a held bar, short of the far edge of the band is below the band.
  have hbelow : (∀ (k : ℕ) f, facts[k]? = some f → (held (event p) facts)[k]? = some (some d) →
      Cell.lt (w f) p.exit_z.1 = true) ↔
      ∀ (k : ℕ) f, facts[k]? = some f → (held (event p) facts)[k]? = some (some d) →
        Below p w f := by
    constructor
    · intro hall k f hf hheld
      exact below_of_held hside he hf hheld (hall k f hf hheld)
    · intro hall k f hf hheld
      exact short_of_below he (hall k f hf hheld)
  rw [hbelow, held_good_iff (Below p w) (fun f h => below_of_entry he ((hside.enter f).mp h))
    (fun f => quiet_or_entry_of_below hside)]
  constructor
  · intro hend j i f g hji hf hg hentry hbetween hleap
    obtain ⟨-, m, -, hm, -⟩ := Cell.exists_of_le hentry.2
    obtain ⟨n, hn, -⟩ := Option.map_eq_some_iff.mp hm
    obtain ⟨hlost, hquiet⟩ := (leap_iff hside he hn g).mpr hleap
    exact hend j i f g hji hf hg ((hside.enter f).mpr hentry) hbetween hlost hquiet
  · intro hno j i f g hji hf hg hevent hbetween hlost hquiet
    have hentry := (hside.enter f).mp hevent
    obtain ⟨-, m, -, hm, -⟩ := Cell.exists_of_le hentry.2
    obtain ⟨n, hn, -⟩ := Option.map_eq_some_iff.mp hm
    exact hno j i f g hji hf hg hentry hbetween ((leap_iff hside he hn g).mp ⟨hlost, hquiet⟩)

end Side

/-! ## Both sides -/

/-- A NaN exit band: the law fails at every entry, and there is nothing to leap
    over. -/
theorem reversion_seen_of_nan {p : Parameters} {facts : List Facts} (he : p.exit_z.1 = none) :
    ReversionSeen p facts ↔ (∀ f ∈ facts, event p f ≠ some .LONG) ∧
      ∀ f ∈ facts, event p f ≠ some .SHORT := by
  have hno_leap : ∀ w, NoLeap p facts w := by
    intro w j i f g hji hf hg hentry hbetween hleap
    obtain ⟨-, hout, -⟩ := hleap
    rw [he] at hout
    cases hout
  simp only [ne_eq, event_eq_LONG_iff, event_eq_SHORT_iff]
  constructor
  · intro hseen
    exact ⟨fun f hf => (hseen.1 he f hf).1, fun f hf => (hseen.1 he f hf).2⟩
  · intro hnone
    exact ⟨fun _ f hf => ⟨hnone.1 f hf, hnone.2 f hf⟩, hno_leap _, hno_leap _⟩

/-- Nothing is short of a NaN band, so a held position breaks the law. -/
theorem never_held_iff_of_nan {p : Parameters} {facts : List Facts} {d : SignalDirection}
    {Short : Facts → Prop} (hshort : ∀ f, ¬ Short f) :
    (∀ (k : ℕ) f, facts[k]? = some f → (held (event p) facts)[k]? = some (some d) → Short f) ↔
      ∀ f ∈ facts, event p f ≠ some d := by
  rw [← never_held_iff]
  constructor
  · intro hall k hheld
    have hk : k < facts.length := by
      rw [← length_held (event p) facts]
      exact (List.getElem?_eq_some_iff.mp hheld).1
    have hf : facts[k]? = some facts[k] := List.getElem?_eq_getElem hk
    exact hshort _ (hall k _ hf hheld)
  · intro hnever k f _ hheld
    exact absurd hheld (hnever k)

/-- The held decisions, on both sides. -/
theorem held_iff_reversion_seen (p : Parameters) (facts : List Facts) :
    ((∀ (k : ℕ) f, facts[k]? = some f → (held (event p) facts)[k]? = some (some .LONG) →
        Cell.lt f.z p.exit_z.1 = true) ∧
      ∀ (k : ℕ) f, facts[k]? = some f → (held (event p) facts)[k]? = some (some .SHORT) →
        Cell.lt (Cell.neg p.exit_z.1) f.z = true) ↔ ReversionSeen p facts := by
  cases he : p.exit_z.1 with
  | none =>
    have hlong : ∀ f : Facts, ¬ Cell.lt f.z none = true := by
      intro f h
      obtain ⟨x, y, hx, hy, hxy⟩ := Cell.exists_of_lt h
      cases hy
    have hshort : ∀ f : Facts, ¬ Cell.lt (Cell.neg none) f.z = true := by
      intro f h
      obtain ⟨x, y, hx, hy, hxy⟩ := Cell.exists_of_lt h
      cases hx
    rw [reversion_seen_of_nan he, never_held_iff_of_nan hlong, never_held_iff_of_nan hshort]
  | some e =>
    have hlong : (∀ (k : ℕ) f, facts[k]? = some f →
        (held (event p) facts)[k]? = some (some .LONG) → Cell.lt f.z (some e) = true) ↔
        NoLeap p facts from_long := by
      rw [← he]
      exact held_iff_no_leap (side_long p) he
    have hshort : (∀ (k : ℕ) f, facts[k]? = some f →
        (held (event p) facts)[k]? = some (some .SHORT) →
        Cell.lt (Cell.neg (some e)) f.z = true) ↔ NoLeap p facts from_short := by
      simp only [Cell.neg_lt_swap (some e)]
      rw [← he]
      exact held_iff_no_leap (side_short p) he
    rw [hlong, hshort, ReversionSeen]
    -- The condition on a NaN band is void.
    refine ⟨fun hno => ⟨fun hnan => ?_, hno⟩, fun hseen => hseen.2⟩
    rw [he] at hnan
    cases hnan

/-- **Main result**: at every common bar a position is on its side of the exit
    band exactly when no step of the z-score leaps over the band. -/
theorem exits_iff {rt : Runtime} {p : Parameters} {pair series : PriceSeries}
    {signals : SignalSet} (h : generate_signals rt p (some pair) series = .ok signals) :
    (∀ (k i : ℕ) legs f row, (align series.frame.bars pair.frame.bars)[k]? = some legs →
        (facts rt p (align series.frame.bars pair.frame.bars))[k]? = some f →
        signals.frame[i]? = some row → row.timestamp = legs.1.timestamp →
        (row.direction = .LONG → Cell.lt f.z p.exit_z.1 = true) ∧
        (row.direction = .SHORT → Cell.lt (Cell.neg p.exit_z.1) f.z = true)) ↔
      ReversionSeen p (facts rt p (align series.frame.bars pair.frame.bars)) := by
  have hlong := common_rows_iff h (d := .LONG) (by decide)
    fun f => Cell.lt f.z p.exit_z.1 = true
  have hshort := common_rows_iff h (d := .SHORT) (by decide)
    fun f => Cell.lt (Cell.neg p.exit_z.1) f.z = true
  rw [← held_iff_reversion_seen, ← hlong, ← hshort]
  -- One law for each direction.
  constructor
  · intro hrows
    exact ⟨fun k i legs f row hlegs hf hrow htime => (hrows k i legs f row hlegs hf hrow htime).1,
      fun k i legs f row hlegs hf hrow htime => (hrows k i legs f row hlegs hf hrow htime).2⟩
  · rintro ⟨hlong, hshort⟩ k i legs f row hlegs hf hrow htime
    exact ⟨hlong k i legs f row hlegs hf hrow htime, hshort k i legs f row hlegs hf hrow htime⟩

/-- A cheap day, and the day after the spread is back beyond its mean. -/
def leaping : PriceSeries := daily_series "INFY.NS" (alternating_then_cheap ++ [32])

def leaping_pair : PriceSeries := daily_series "TCS.NS" (alternating ++ [2])

/-- The law and its condition, on the leap. -/
theorem exits_iff_on_leap :
    ∃ signals, generate_signals decimal_runtime short_pair (some leaping_pair) leaping
        = .ok signals ∧
      ((∀ (k i : ℕ) legs f row,
          (align leaping.frame.bars leaping_pair.frame.bars)[k]? = some legs →
          (facts decimal_runtime short_pair
            (align leaping.frame.bars leaping_pair.frame.bars))[k]? = some f →
          signals.frame[i]? = some row → row.timestamp = legs.1.timestamp →
          (row.direction = .LONG → Cell.lt f.z short_pair.exit_z.1 = true) ∧
          (row.direction = .SHORT → Cell.lt (Cell.neg short_pair.exit_z.1) f.z = true)) ↔
        ReversionSeen short_pair (facts decimal_runtime short_pair
          (align leaping.frame.bars leaping_pair.frame.bars))) := by
  obtain ⟨signals, hsignals⟩ := Outcome.exists_eq_ok
    (show (generate_signals decimal_runtime short_pair (some leaping_pair) leaping).isOk = true by
      decide +kernel)
  exact ⟨signals, hsignals, exits_iff hsignals⟩

/-- The z-score goes from below -2 to above 0.5 in one day, and the position is
    still long. -/
theorem long_after_the_leap :
    ∃ signals legs f row, generate_signals decimal_runtime short_pair (some leaping_pair) leaping
        = .ok signals ∧
      (align leaping.frame.bars leaping_pair.frame.bars)[11]? = some legs ∧
      (facts decimal_runtime short_pair
        (align leaping.frame.bars leaping_pair.frame.bars))[11]? = some f ∧
      signals.frame[11]? = some row ∧ row.timestamp = legs.1.timestamp ∧
      row.direction = .LONG ∧ ¬ Cell.lt f.z short_pair.exit_z.1 = true := by
  obtain ⟨signals, hsignals, hobserved⟩ := Outcome.exists_of_any
    (show (generate_signals decimal_runtime short_pair (some leaping_pair) leaping).toOption.any
      (fun signals => signals.frame[11]?.any (fun row =>
        (align leaping.frame.bars leaping_pair.frame.bars)[11]?.any (fun legs =>
          row.timestamp = legs.1.timestamp ∧ row.direction = .LONG))) = true by decide +kernel)
  obtain ⟨row, hrow, hobserved⟩ := (Option.any_eq_true _ _).mp hobserved
  obtain ⟨legs, hlegs, hobserved⟩ := (Option.any_eq_true _ _).mp hobserved
  obtain ⟨htime, hlong⟩ := of_decide_eq_true hobserved
  obtain ⟨f, hf, hz⟩ := (Option.any_eq_true _ _).mp
    (show (facts decimal_runtime short_pair
      (align leaping.frame.bars leaping_pair.frame.bars))[11]?.any
      (fun f => ¬ Cell.lt f.z short_pair.exit_z.1 = true) = true by decide +kernel)
  exact ⟨signals, legs, f, row, hsignals, hlegs, hf, hrow, htime, hlong, of_decide_eq_true hz⟩

end PairTrading

end Quantora
