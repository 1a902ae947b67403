import Quantora.Strategy.PairRows

/-! # Pair entries across missing bars

    A bar of the primary series that the pair did not trade is flat, but the
    decision held on the common bars is carried over it: at the next common bar
    the position is back without a new entry.

    * `Entered` — what an entry needs at its own bar.
    * `FreshEntries` — every row that takes up a position is an entry.
    * `HeldBarsMatched` — the condition on the calendars: while a decision is
      carried from an entry, every bar of the primary series has a counterpart.
    * `entries_iff` — the two are equivalent. -/

namespace Quantora

namespace PairTrading

open Column

/-- A z-score at least `entry_z` away from zero, on the opposite side of the
    position, and a correlation that is not below `min_correlation`. -/
def Entered (p : Parameters) (f : Facts) (d : SignalDirection) : Prop :=
  (∃ z n, f.z = some z ∧ p.entry_z.1 = some n ∧ n ≤ |z| ∧
    (d = .LONG → z < 0) ∧ (d = .SHORT → 0 < z)) ∧
  f.correlation.isSome ∧ ¬ Cell.lt f.correlation p.min_correlation.1 = true

/-- The row at index `i` takes up a position: it is not flat, and the row before,
    if there is one, has another direction. -/
def TakesUp (rows : List SignalRow) (i : ℕ) (row : SignalRow) : Prop :=
  rows[i]? = some row ∧ row.direction ≠ .FLAT ∧
    ∀ j before, i = j + 1 → rows[j]? = some before → before.direction ≠ row.direction

/-- Every row that takes up a position is at a common bar that enters it. -/
def FreshEntries (rt : Runtime) (p : Parameters) (primary pair : List Bar)
    (rows : List SignalRow) : Prop :=
  ∀ i row, TakesUp rows i row →
    ∃ (k : ℕ) (legs : Bar × Bar) (f : Facts), (align primary pair)[k]? = some legs ∧
      legs.1.timestamp = row.timestamp ∧ (facts rt p (align primary pair))[k]? = some f ∧
      Entered p f row.direction

/-- From an entry, for as long as the pair is usable and its z-score stays between
    the exit band and the entry bands, no bar of the primary series lacks a
    counterpart. -/
def HeldBarsMatched (rt : Runtime) (p : Parameters) (primary pair : List Bar) : Prop :=
  ∀ (j i : ℕ) f (a b : Bar × Bar) bar, j < i →
    (facts rt p (align primary pair))[j]? = some f →
    (enter_long p f = true ∨ enter_short p f = true) →
    (∀ k h, j < k → k ≤ i → (facts rt p (align primary pair))[k]? = some h →
      unusable p h = false ∧ ¬ revert_flat p h = true ∧ ¬ enter_short p h = true ∧
        ¬ enter_long p h = true) →
    (align primary pair)[j]? = some a → (align primary pair)[i]? = some b → bar ∈ primary →
    a.1.timestamp < bar.timestamp → bar.timestamp < b.1.timestamp →
    ∃ other ∈ pair, other.timestamp = bar.timestamp

/-! ## Entries and decisions -/

section Entries

variable {p : Parameters} {f : Facts} {d : SignalDirection}

/-- A decision for a position is an entry. -/
theorem entered_of_event (hd : d ≠ .FLAT) (h : event p f = some d) : Entered p f d := by
  cases d with
  | FLAT => exact absurd rfl hd
  | LONG =>
    have hlong := event_eq_LONG_iff.mp h
    obtain ⟨z, n, hz, hn, hpos, hzn⟩ := of_enter_long hlong
    obtain ⟨-, hcorrelation, hcoupled⟩ := usable_iff.mp (enter_long_iff.mp hlong).2
    refine ⟨⟨z, n, hz, hn, ?_, fun _ => by linarith, fun hshort => nomatch hshort⟩,
      hcorrelation, hcoupled⟩
    linarith [neg_le_abs z]
  | SHORT =>
    have hshort := event_eq_SHORT_iff.mp h
    obtain ⟨z, n, hz, hn, hpos, hnz⟩ := of_enter_short hshort
    obtain ⟨-, hcorrelation, hcoupled⟩ := usable_iff.mp (enter_short_iff.mp hshort).2
    refine ⟨⟨z, n, hz, hn, ?_, fun hlong => (nomatch hlong), fun _ => by linarith⟩,
      hcorrelation, hcoupled⟩
    linarith [le_abs_self z]

/-- And an entry is a decision. -/
theorem event_of_entered (h : Entered p f d) : event p f ≠ none := by
  obtain ⟨⟨z, n, hz, hn, hnz, -, -⟩, hcorrelation, hcoupled⟩ := h
  have husable : unusable p f = false := usable_iff.mpr ⟨by rw [hz]; rfl, hcorrelation, hcoupled⟩
  intro hquiet
  obtain ⟨-, -, hshort, hlong⟩ := event_eq_none_iff.mp hquiet
  rw [enter_short_iff, hz, hn, Cell.le_some] at hshort
  rw [enter_long_iff, hz, hn] at hlong
  rcases le_abs.mp hnz with hhigh | hlow
  · exact hshort ⟨hhigh, husable⟩
  · exact hlong ⟨(Cell.le_some z (-n)).mpr (by linarith), husable⟩

theorem enter_of_event (hd : d ≠ .FLAT) (h : event p f = some d) :
    enter_long p f = true ∨ enter_short p f = true := by
  cases d with
  | FLAT => exact absurd rfl hd
  | LONG => exact Or.inl (event_eq_LONG_iff.mp h)
  | SHORT => exact Or.inr (event_eq_SHORT_iff.mp h)

theorem exists_event_of_enter (h : enter_long p f = true ∨ enter_short p f = true) :
    ∃ d, d ≠ SignalDirection.FLAT ∧ event p f = some d := by
  rcases h with hlong | hshort
  · exact ⟨.LONG, by decide, event_eq_LONG_iff.mpr hlong⟩
  · exact ⟨.SHORT, by decide, event_eq_SHORT_iff.mpr hshort⟩

end Entries

/-! ## Rows and calendars -/

section Calendars

variable {rt : Runtime} {p : Parameters} {pair series : PriceSeries} {signals : SignalSet}

/-- A bar of the primary series lacks a counterpart, or it is a common bar. -/
theorem missing_or_common {primary : List Bar} (pair : List Bar) {bar : Bar}
    (hmem : bar ∈ primary) :
    (∀ other ∈ pair, other.timestamp ≠ bar.timestamp) ∨
      ∃ (k : ℕ) (legs : Bar × Bar), (align primary pair)[k]? = some legs ∧ legs.1 = bar := by
  by_cases hmissing : ∀ other ∈ pair, other.timestamp ≠ bar.timestamp
  · exact Or.inl hmissing
  · push Not at hmissing
    obtain ⟨other, hother, hsame⟩ := hmissing
    exact Or.inr (exists_align hmem hother hsame)

/-- Before a bar later than a common bar there is a bar no earlier than that one. -/
theorem exists_bar_before {primary pair : List Bar}
    (hprimary : primary.Pairwise (fun a b => a.timestamp < b.timestamp)) {i j : ℕ} {bar : Bar}
    {a : Bar × Bar} (hbar : primary[i]? = some bar) (ha : (align primary pair)[j]? = some a)
    (hlater : a.1.timestamp < bar.timestamp) :
    ∃ (i' : ℕ) (bar' : Bar), i = i' + 1 ∧ primary[i']? = some bar' ∧
      a.1.timestamp ≤ bar'.timestamp ∧ bar'.timestamp < bar.timestamp := by
  obtain ⟨⟨m, hm⟩, -⟩ := counterpart_of_common ha
  have hmi : m < i := (Causal.time_lt_iff hprimary hm hbar).mp hlater
  obtain ⟨i', rfl⟩ : ∃ i', i = i' + 1 := ⟨i - 1, by omega⟩
  have hlen : i' < primary.length := by
    have : i' + 1 < primary.length := (List.getElem?_eq_some_iff.mp hbar).1
    omega
  have hbar' := List.getElem?_eq_getElem hlen
  exact ⟨i', _, rfl, hbar', (Causal.time_le_iff hprimary hm hbar').mpr (by omega),
    (Causal.time_lt_iff hprimary hbar' hbar).mpr (by omega)⟩

/-- Where an older decision is carried to a common bar, the row before has its
    direction: the bar before has a counterpart, so it carries the decision too. -/
theorem direction_before (h : generate_signals rt p (some pair) series = .ok signals)
    (hmatched : HeldBarsMatched rt p series.frame.bars pair.frame.bars) {d : SignalDirection}
    (hd : d ≠ .FLAT) {i j k : ℕ} {legs : Bar × Bar} {f : Facts} (hjk : j < k)
    (hbar : series.frame.bars[i]? = some legs.1)
    (hk : (align series.frame.bars pair.frame.bars)[k]? = some legs)
    (hf : (facts rt p (align series.frame.bars pair.frame.bars))[j]? = some f)
    (hevent : event p f = some d)
    (hsince : ∀ k' g, j < k' → k' ≤ k →
      (facts rt p (align series.frame.bars pair.frame.bars))[k']? = some g → event p g = none) :
    ∃ (i' : ℕ) (before : SignalRow), i = i' + 1 ∧ signals.frame[i']? = some before ∧
      before.direction = d := by
  have hprimary := series.frame.increasing
  have hcommon := align_increasing pair.frame.bars hprimary
  obtain ⟨a, ha⟩ := exists_legs hf
  obtain ⟨i', bar, rfl, hbar', hafter, hearlier⟩ :=
    exists_bar_before hprimary hbar ha ((Causal.time_lt_iff hcommon ha hk).mpr hjk)
  obtain ⟨before, hrow⟩ := exists_row_of_bar h hbar'
  refine ⟨i', before, rfl, hrow, ?_⟩
  rcases missing_or_common pair.frame.bars (List.mem_of_getElem? hbar') with
    hmissing | ⟨n, legs', hn, hlegs'⟩
  · -- Without a counterpart it is not the entry bar, so the decision is carried over it.
    exfalso
    obtain ⟨-, counter, hcounter, hsame⟩ := counterpart_of_common ha
    have hne : a.1.timestamp ≠ bar.timestamp := by
      rw [← hsame]
      exact hmissing counter hcounter
    obtain ⟨other, hother, hsame⟩ := hmatched j k f a legs bar hjk hf (enter_of_event hd hevent)
      (fun k' g hk' hk'' hg => event_eq_none_iff.mp (hsince k' g hk' hk'' hg)) ha hk
      (List.mem_of_getElem? hbar') (lt_of_le_of_ne hafter hne) hearlier
    exact hmissing other hother hsame
  · have hjn : j ≤ n := by
      rw [← Causal.time_le_iff hcommon ha hn, hlegs']
      exact hafter
    have hnk : n < k := by
      rw [← Causal.time_lt_iff hcommon hn hk, hlegs']
      exact hearlier
    obtain ⟨g, hg⟩ := exists_facts rt p hn
    have hheld := held_iff.mpr ⟨(List.getElem?_eq_some_iff.mp hg).1, j, hjn, ⟨f, hf, hevent⟩,
      fun k' g hk' hk'' => hsince k' g hk' (by omega)⟩
    exact (row_direction_iff h hrow hbar' hn (by rw [hlegs']) hd).mpr hheld

/-- A position that is taken up without an entry was held at the common bar
    before, so the bar in between has no counterpart. -/
theorem fresh_of_matched (h : generate_signals rt p (some pair) series = .ok signals)
    (hmatched : HeldBarsMatched rt p series.frame.bars pair.frame.bars) :
    FreshEntries rt p series.frame.bars pair.frame.bars signals.frame := by
  intro i row htakes
  obtain ⟨hrow, hd, hbefore⟩ := htakes
  obtain ⟨bar, hbar, htime⟩ := exists_bar_of_row h hrow
  rcases missing_or_common pair.frame.bars (List.mem_of_getElem? hbar) with
    hmissing | ⟨k, legs, hk, rfl⟩
  · exact absurd (row_flat_of_missing h hrow hbar hmissing) hd
  have hheld := (row_direction_iff h hrow hbar hk rfl hd).mp rfl
  obtain ⟨-, j, hjk, ⟨f, hf, hevent⟩, hsince⟩ := held_iff.mp hheld
  by_cases hnow : j = k
  · subst hnow
    exact ⟨j, legs, f, hk, htime.symm, hf, entered_of_event hd hevent⟩
  · -- The decision is older, so the row before has the direction already.
    obtain ⟨i', before, hi, hrow', hsame⟩ :=
      direction_before h hmatched hd (by omega) hbar hk hf hevent hsince
    exact absurd hsame (hbefore i' before hi hrow')

/-- After a bar without a counterpart comes a first one that has one again, if
    there is any. -/
theorem exists_common_after_missing {primary pair : List Bar} {n n' : ℕ} {bar bar' : Bar}
    (hn : primary[n]? = some bar) (hn' : primary[n']? = some bar') (hle : n ≤ n')
    (hmissing : ∀ other ∈ pair, other.timestamp ≠ bar.timestamp)
    (hcounter : ∃ other ∈ pair, other.timestamp = bar'.timestamp) :
    ∃ (m k : ℕ) (legs : Bar × Bar), n < m ∧ m ≤ n' ∧ primary[m]? = some legs.1 ∧
      (align primary pair)[k]? = some legs ∧
      ∀ m' before, m = m' + 1 → primary[m']? = some before →
        ∀ other ∈ pair, other.timestamp ≠ before.timestamp := by
  let Missing : ℕ → Prop := fun m => ∀ bar, primary[m]? = some bar →
    ∀ other ∈ pair, other.timestamp ≠ bar.timestamp
  have hstart : Missing n := by
    intro b hb
    obtain rfl := Option.some.inj (hn ▸ hb)
    exact hmissing
  have hstop : ¬ Missing n' := by
    intro hall
    obtain ⟨other, hother, hsame⟩ := hcounter
    exact hall bar' hn' other hother hsame
  -- The first index at which that fails.
  obtain ⟨m, hnm, hmn', hfound, hbetween⟩ := exists_first_failure hstart hle hstop
  obtain ⟨b, hb, hmatched⟩ : ∃ b, primary[m]? = some b ∧
      ¬ ∀ other ∈ pair, other.timestamp ≠ b.timestamp := by
    by_contra hall
    push Not at hall
    exact hfound hall
  rcases missing_or_common pair (List.mem_of_getElem? hb) with hnone | ⟨k, legs, hk, rfl⟩
  · exact absurd hnone hmatched
  · exact ⟨m, k, legs, hnm, hmn', hb, hk,
      fun m' before hm hbefore => hbetween m' (by omega) (by omega) before hbefore⟩

/-- After a bar without a counterpart the position that was carried over it is
    taken up again at a bar with one, where nothing is decided. -/
theorem matched_of_fresh (h : generate_signals rt p (some pair) series = .ok signals)
    (hfresh : FreshEntries rt p series.frame.bars pair.frame.bars signals.frame) :
    HeldBarsMatched rt p series.frame.bars pair.frame.bars := by
  have hprimary := series.frame.increasing
  have hcommon := align_increasing pair.frame.bars hprimary
  intro j i f a b bar hji hf henter hquiet ha hb hmem hlow hhigh
  by_contra hnone
  push Not at hnone
  obtain ⟨d, hd, hevent⟩ := exists_event_of_enter henter
  obtain ⟨n, hn⟩ := List.mem_iff_getElem?.mp hmem
  obtain ⟨⟨n', hn'⟩, hcounter⟩ := counterpart_of_common hb
  have hnn' : n < n' := (Causal.time_lt_iff hprimary hn hn').mp hhigh
  obtain ⟨m, k, legs, hnm, hmn', hbar, hk, hbefore⟩ :=
    exists_common_after_missing hn hn' hnn'.le hnone hcounter
  -- It lies between the entry and the bar at `i`, so the position is held there.
  have hjk : j < k := by
    rw [← Causal.time_lt_iff hcommon ha hk]
    exact hlow.trans ((Causal.time_lt_iff hprimary hn hbar).mpr hnm)
  have hki : k ≤ i := by
    rw [← Causal.time_le_iff hcommon hk hb]
    exact (Causal.time_le_iff hprimary hbar hn').mpr hmn'
  obtain ⟨g, hg⟩ := exists_facts rt p hk
  have hheld := held_iff.mpr ⟨(List.getElem?_eq_some_iff.mp hg).1, j, hjk.le, ⟨f, hf, hevent⟩,
    fun k' g' hk' hk'' hg' => event_eq_none_iff.mpr (hquiet k' g' hk' (by omega) hg')⟩
  obtain ⟨row, hrow⟩ := exists_row_of_bar h hbar
  have hdirection := (row_direction_iff h hrow hbar hk rfl hd).mpr hheld
  -- The row before it is flat, so it has to be an entry.
  have htakes : TakesUp signals.frame m row := by
    refine ⟨hrow, hdirection ▸ hd, ?_⟩
    intro m' before hm hrow'
    obtain ⟨bar', hbar', -⟩ := exists_bar_of_row h hrow'
    rw [row_flat_of_missing h hrow' hbar' (hbefore m' bar' hm hbar'), hdirection]
    exact hd.symm
  obtain ⟨k', legs', g', hk', htime, hg', hentered⟩ := hfresh m row htakes
  obtain ⟨bar', hbar', hrowtime⟩ := exists_bar_of_row h hrow
  obtain rfl := Option.some.inj (hbar ▸ hbar')
  have hkk' : k' = k := by
    have hle := (Causal.time_le_iff hcommon hk' hk).mp (by rw [htime, hrowtime])
    have hge := (Causal.time_le_iff hcommon hk hk').mp (by rw [htime, hrowtime])
    omega
  subst hkk'
  exact event_of_entered hentered (event_eq_none_iff.mpr (hquiet k' g' hjk hki hg'))

end Calendars

/-- **Main result**: every position is taken up by an entry at its own bar exactly
    when no position is carried over a bar without a counterpart. -/
theorem entries_iff {rt : Runtime} {p : Parameters} {pair series : PriceSeries}
    {signals : SignalSet} (h : generate_signals rt p (some pair) series = .ok signals) :
    FreshEntries rt p series.frame.bars pair.frame.bars signals.frame ↔
      HeldBarsMatched rt p series.frame.bars pair.frame.bars :=
  ⟨matched_of_fresh h, fresh_of_matched h⟩

/-- A cheap day and two days after it. -/
def cheap : PriceSeries := daily_series "INFY.NS" (alternating_then_cheap ++ [8, 8])

/-- The same days for the second leg, but for a halt on the day after the cheap
    one. -/
def halted_pair : PriceSeries where
  symbol := "TCS.NS"
  interval := "1d"
  frame :=
    { bars := (daily_frame (alternating ++ [2, 2])).bars.eraseIdx 11
      increasing := (daily_frame _).increasing.sublist (List.eraseIdx_sublist _ _) }
  provenance := ⟨"yfinance", "TCS.NS", "split_and_dividend_adjusted", "2024-01-01", "2024-06-30"⟩

/-- The law and its condition, across the halt. -/
theorem entries_iff_across_a_halt :
    ∃ signals, generate_signals decimal_runtime short_pair (some halted_pair) cheap = .ok signals ∧
      (FreshEntries decimal_runtime short_pair cheap.frame.bars halted_pair.frame.bars
          signals.frame ↔
        HeldBarsMatched decimal_runtime short_pair cheap.frame.bars halted_pair.frame.bars) := by
  obtain ⟨signals, hsignals⟩ := Outcome.exists_eq_ok
    (show (generate_signals decimal_runtime short_pair (some halted_pair) cheap).isOk = true by
      decide +kernel)
  exact ⟨signals, hsignals, entries_iff hsignals⟩

/-- Flat over the halt, and long again after it with a z-score inside the entry
    bands. -/
theorem resumed_after_a_halt :
    ∃ signals, generate_signals decimal_runtime short_pair (some halted_pair) cheap = .ok signals ∧
      ¬ FreshEntries decimal_runtime short_pair cheap.frame.bars halted_pair.frame.bars
        signals.frame := by
  obtain ⟨signals, hsignals, hobserved⟩ := Outcome.exists_of_any
    (show (generate_signals decimal_runtime short_pair (some halted_pair) cheap).toOption.any
      (fun signals => signals.frame[12]?.any (fun row => row.direction = .LONG ∧
        signals.frame[11]?.any (fun before => before.direction = .FLAT) = true ∧
        ((align cheap.frame.bars halted_pair.frame.bars).zip (facts decimal_runtime short_pair
          (align cheap.frame.bars halted_pair.frame.bars))).all (fun here =>
            here.1.1.timestamp = row.timestamp → Cell.lt (Cell.abs here.2.z) (some 2)) = true))
        = true by decide +kernel)
  refine ⟨signals, hsignals, ?_⟩
  obtain ⟨row, hrow, hobserved⟩ := (Option.any_eq_true _ _).mp hobserved
  obtain ⟨hlong, hflat, hinside⟩ := of_decide_eq_true hobserved
  obtain ⟨before, hbefore, hflat⟩ := (Option.any_eq_true _ _).mp hflat
  have htakes : TakesUp signals.frame 12 row := by
    refine ⟨hrow, by rw [hlong]; decide, ?_⟩
    intro j before' hj hbefore'
    obtain rfl : j = 11 := by omega
    obtain rfl := Option.some.inj (hbefore ▸ hbefore')
    rw [of_decide_eq_true hflat, hlong]
    decide
  intro hfresh
  obtain ⟨k, legs, f, hlegs, htime, hf, ⟨z, n, hz, hn, hnz, -, -⟩, -, -⟩ := hfresh 12 row htakes
  -- It would be an entry, two deviations away from zero.
  have hmem : (legs, f) ∈ (align cheap.frame.bars halted_pair.frame.bars).zip
      (facts decimal_runtime short_pair (align cheap.frame.bars halted_pair.frame.bars)) :=
    List.mem_of_getElem? (List.getElem?_zip_eq_some.mpr ⟨hlegs, hf⟩)
  have hbelow := of_decide_eq_true (List.all_eq_true.mp hinside _ hmem) htime
  rw [hz] at hbelow
  obtain rfl : 2 = n := Option.some.inj hn
  exact absurd ((Cell.lt_some |z| 2).mp hbelow) hnz.not_gt

end PairTrading

end Quantora
