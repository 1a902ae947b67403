import Quantora.Strategy.FirstSignals

/-! # Every change of view is explained

    A reason is written where an event happens, and a held target changes only
    at an event. Pair trading has two further ways to change its target: a bar
    without a counterpart is flat, and a bar without a z-score or a correlation
    blocks silently.

    * `Explained` — every row after the first that has another direction than
      the row before has a reason.
    * `explained_of_events` — the families whose events all have a reason.
    * `HeldInSight` — the condition for pair trading: a decision is not carried
      to a bar without a counterpart, nor to one that blocks silently.
    * `explained_iff` — for a registered strategy, the law and its condition. -/

namespace Quantora

open Column

/-- Every change of direction after the first row has a reason. -/
def Explained (rows : List SignalRow) : Prop :=
  ∀ (i : ℕ) before row, rows[i]? = some before → rows[i + 1]? = some row →
    row.direction ≠ before.direction → row.reason ≠ ""

/-! ## Events explain changes -/

section Held

variable {φ : Type} {event : φ → Option SignalDirection} {reason : Bool → φ → String}
  {columns : φ → List (String × Cell)} {facts : List φ} {i : ℕ}

/-- A change of the held target happens at an event, and its reason is that of a
    change. -/
theorem event_of_change {before s : BarSignal}
    (hbefore : (held_signals event reason columns facts)[i]? = some before)
    (hs : (held_signals event reason columns facts)[i + 1]? = some s)
    (hne : s.direction ≠ before.direction) :
    ∃ f d, facts[i + 1]? = some f ∧ event f = some d ∧ s.reason = reason true f := by
  obtain ⟨targets, f, htargets, hf, hsaid⟩ := List.getElem?_zipWith_eq_some.mp hs
  obtain ⟨targets', f', htargets', -, hsaid'⟩ := List.getElem?_zipWith_eq_some.mp hbefore
  obtain ⟨hdirection, hflag⟩ := List.getElem?_zip_eq_some.mp htargets
  obtain ⟨hdirection', -⟩ := List.getElem?_zip_eq_some.mp htargets'
  rw [← hsaid, ← hsaid'] at hne
  have hflag : targets.2 = true := by
    unfold changed at hflag
    obtain ⟨direction, last, hdirection'', hlast, hflag⟩ := List.getElem?_zipWith_eq_some.mp hflag
    rw [getElem?_shift_succ hdirection' hdirection] at hlast
    obtain rfl := Option.some.inj hlast
    obtain rfl := Option.some.inj (hdirection ▸ hdirection'')
    rw [← hflag]
    exact decide_eq_true fun heq => hne (Option.some.inj heq).symm
  cases hevent : event f with
  | some d =>
    refine ⟨f, d, hf, hevent, ?_⟩
    rw [← hsaid, hflag]
  | none =>
    -- Without an event the target would still be the one before.
    exfalso
    have hheld := held_of_quiet hf hevent
    unfold hold at hdirection hdirection'
    rw [List.getElem?_map] at hdirection hdirection'
    change Option.map _ (held event facts)[i + 1]? = _ at hdirection
    rw [hheld] at hdirection
    exact hne (Option.some.inj (hdirection.symm.trans hdirection'))

end Held

/-- If every event has a reason, every change has. -/
theorem explained_of_events {φ : Type} {event : φ → Option SignalDirection}
    {reason : Bool → φ → String} {columns : φ → List (String × Cell)} {facts : List φ}
    {bars : List Bar} (h : ∀ f d, event f = some d → reason true f ≠ "") :
    Explained (List.zipWith BarSignal.row bars (held_signals event reason columns facts)) := by
  intro i before row hbefore hrow hne
  obtain ⟨_, said, -, hsaid, rfl⟩ := of_row hbefore
  obtain ⟨_, s, -, hs, rfl⟩ := of_row hrow
  obtain ⟨f, d, -, hevent, hreason⟩ := event_of_change hsaid hs hne
  show s.reason ≠ ""
  rw [hreason]
  exact h f d hevent

theorem MACD.reason_ne_empty {p : Parameters} {f : Facts} {d : SignalDirection}
    (h : event p f = some d) : reason p f ≠ "" := by
  unfold event at h
  unfold reason
  split_ifs at h ⊢ <;> simp

theorem Bollinger.reason_ne_empty {p : Parameters} {f : Facts} {d : SignalDirection}
    (h : event p f = some d) : reason p true f ≠ "" := by
  unfold event at h
  unfold reason
  rw [if_neg (not_not.mpr rfl)]
  by_cases habove : above_upper f = true
  · rw [if_pos habove]
    split_ifs <;> simp
  rw [if_neg habove] at h ⊢
  by_cases hbelow : below_lower f = true
  · rw [if_pos hbelow]
    simp
  rw [if_neg hbelow] at h ⊢
  split_ifs at h with hmiddle
  -- An exit is one of the two crossings of the middle band.
  rcases hmiddle.2 with hup | hdown
  · rw [if_pos (show p.exit_at_middle ∧ crossed_above_middle f from ⟨hmiddle.1, hup⟩)]
    split_ifs <;> simp
  · rw [if_pos (show p.exit_at_middle ∧ crossed_below_middle f from ⟨hmiddle.1, hdown⟩)]
    simp

theorem DualThrust.reason_ne_empty {p : Parameters} {f : Facts} {d : SignalDirection}
    (h : event p f = some d) : reason p f ≠ "" := by
  unfold event at h
  unfold reason up_reason down_reason
  split_ifs at h ⊢ <;> simp

/-! ## Pair trading -/

namespace PairTrading

/-- A position is entered at or before a common bar, and nothing has been decided
    since: the pair stayed usable and its z-score between the bands. -/
def Carried (p : Parameters) (facts : List Facts) (k : ℕ) : Prop :=
  ∃ j f, j ≤ k ∧ facts[j]? = some f ∧ (enter_long p f = true ∨ enter_short p f = true) ∧
    ∀ m g, j < m → m ≤ k → facts[m]? = some g →
      unusable p g = false ∧ ¬ revert_flat p g = true ∧ ¬ enter_short p g = true ∧
        ¬ enter_long p g = true

/-- The next bar of the primary series has a counterpart, and it does not block
    without saying so: where it is unusable the pair has decoupled. -/
def HeldInSight (rt : Runtime) (p : Parameters) (primary pair : List Bar) : Prop :=
  ∀ (k n : ℕ) legs next, Carried p (facts rt p (align primary pair)) k →
    (align primary pair)[k]? = some legs → primary[n]? = some legs.1 →
    primary[n + 1]? = some next →
    (∃ other ∈ pair, other.timestamp = next.timestamp) ∧
      ∀ g, (facts rt p (align primary pair))[k + 1]? = some g → unusable p g = true →
        decoupled p g = true

section Decisions

variable {p : Parameters} {f : Facts} {d : SignalDirection} {symbol : String}

/-- A position is carried exactly where it is held. -/
theorem carried_iff {facts : List Facts} {k : ℕ} (hlen : k < facts.length) :
    Carried p facts k ↔ ∃ d, d ≠ SignalDirection.FLAT ∧
      (held (event p) facts)[k]? = some (some d) := by
  constructor
  · rintro ⟨j, f, hjk, hf, henter, hsince⟩
    obtain ⟨d, hd, hevent⟩ := exists_event_of_enter henter
    exact ⟨d, hd, held_iff.mpr ⟨hlen, j, hjk, ⟨f, hf, hevent⟩,
      fun m g hjm hmk hg => event_eq_none_iff.mpr (hsince m g hjm hmk hg)⟩⟩
  · rintro ⟨d, hd, hheld⟩
    obtain ⟨-, j, hjk, ⟨f, hf, hevent⟩, hsince⟩ := held_iff.mp hheld
    exact ⟨j, f, hjk, hf, enter_of_event hd hevent,
      fun m g hjm hmk hg => event_eq_none_iff.mp (hsince m g hjm hmk hg)⟩

/-- Decisions are explained, unless the pair is unusable for want of a number. -/
theorem reason_ne_empty (h : event p f = some d)
    (hspoken : unusable p f = true → decoupled p f = true) : reason p symbol f ≠ "" := by
  unfold reason
  by_cases hdecoupled : decoupled p f = true
  · rw [if_pos hdecoupled]
    simp [String.append_eq_empty_iff]
  rw [if_neg hdecoupled]
  have husable : ¬ unusable p f = true := fun h => hdecoupled (hspoken h)
  unfold event at h
  rw [if_neg husable] at h
  by_cases hrevert : revert_flat p f = true
  · rw [if_pos hrevert]
    simp [String.append_eq_empty_iff]
  rw [if_neg hrevert] at h ⊢
  by_cases hshort : enter_short p f = true
  · rw [if_pos hshort]
    simp [String.append_eq_empty_iff]
  rw [if_neg hshort] at h ⊢
  by_cases hlong : enter_long p f = true
  · rw [if_pos hlong]
    simp [String.append_eq_empty_iff]
  · rw [if_neg hlong] at h
    cases h

/-- There, nothing is said. -/
theorem reason_of_silent (hunusable : unusable p f = true) (hcoupled : ¬ decoupled p f = true) :
    reason p symbol f = "" := by
  have hblocked : ¬ unusable p f = false := by rw [hunusable]; exact Bool.noConfusion
  unfold reason
  rw [if_neg hcoupled, if_neg (fun h => hblocked (revert_flat_iff.mp h).2),
    if_neg (fun h => hblocked (enter_short_iff.mp h).2),
    if_neg (fun h => hblocked (enter_long_iff.mp h).2)]

theorem event_of_unusable (hunusable : unusable p f = true) : event p f = some .FLAT := by
  unfold event
  rw [if_pos hunusable]

end Decisions

/-! ### Rows and common bars -/

section Rows

variable {rt : Runtime} {p : Parameters} {pair series : PriceSeries} {signals : SignalSet}
  {i k : ℕ} {row : SignalRow}

/-- What the row of a common bar says. -/
theorem row_common (h : generate_signals rt p (some pair) series = .ok signals)
    (hrow : signals.frame[i]? = some row) {legs : Bar × Bar} {f : Facts}
    (hbar : series.frame.bars[i]? = some legs.1)
    (hlegs : (align series.frame.bars pair.frame.bars)[k]? = some legs)
    (hf : (facts rt p (align series.frame.bars pair.frame.bars))[k]? = some f) :
    ∃ e, (held (event p) (facts rt p (align series.frame.bars pair.frame.bars)))[k]? = some e ∧
      row.direction = e.getD .FLAT ∧ row.reason = reason p series.symbol f := by
  obtain ⟨e, c, he, hs⟩ : ∃ e c,
      (held (event p) (facts rt p (align series.frame.bars pair.frame.bars)))[k]? = some e ∧
      (held_signals (event p) (fun _ => reason p series.symbol) columns
        (facts rt p (align series.frame.bars pair.frame.bars)))[k]?
          = some ⟨e.getD .FLAT, (fun _ => reason p series.symbol) c f, columns f⟩ :=
    exists_held_signal hf
  rw [row_eq h i, hbar, Option.map_some, view_common series.frame.increasing hlegs hs rfl] at hrow
  rw [← Option.some.inj hrow]
  exact ⟨e, he, rfl, rfl⟩

/-- The row of a bar without a counterpart says nothing. -/
theorem row_missing (h : generate_signals rt p (some pair) series = .ok signals)
    (hrow : signals.frame[i]? = some row) {bar : Bar} (hbar : series.frame.bars[i]? = some bar)
    (hmissing : ∀ other ∈ pair.frame.bars, other.timestamp ≠ bar.timestamp) :
    row.direction = .FLAT ∧ row.reason = "" := by
  rw [row_eq h i, hbar, Option.map_some, view_missing hmissing] at hrow
  rw [← Option.some.inj hrow]
  exact ⟨rfl, rfl⟩

/-- No common bar lies between a bar and the next one. -/
theorem common_next {primary pair : List Bar}
    (hprimary : primary.Pairwise (fun a b => a.timestamp < b.timestamp)) {n k k' : ℕ}
    {a b : Bar × Bar} (ha : (align primary pair)[k]? = some a) (hn : primary[n]? = some a.1)
    (hb : (align primary pair)[k']? = some b) (hn' : primary[n + 1]? = some b.1) :
    k' = k + 1 := by
  have hcommon := align_increasing pair hprimary
  have hlt : k < k' := by
    rw [← Causal.time_lt_iff hcommon ha hb]
    exact (Causal.time_lt_iff hprimary hn hn').mpr (by omega)
  by_contra hne
  have hlen : k + 1 < (align primary pair).length := by
    have := (List.getElem?_eq_some_iff.mp hb).1
    omega
  have hc := List.getElem?_eq_getElem hlen
  obtain ⟨⟨m, hm⟩, -⟩ := counterpart_of_common hc
  have hnm : n < m := by
    rw [← Causal.time_lt_iff hprimary hn hm]
    exact (Causal.time_lt_iff hcommon ha hc).mpr (by omega)
  have hmn : m < n + 1 := by
    rw [← Causal.time_lt_iff hprimary hm hn']
    exact (Causal.time_lt_iff hcommon hc hb).mpr (by omega)
  omega

/-- A row with a position is that of a common bar to which a position is carried. -/
theorem exists_carried (h : generate_signals rt p (some pair) series = .ok signals)
    (hrow : signals.frame[i]? = some row) (hd : row.direction ≠ .FLAT) :
    ∃ (k : ℕ) (legs : Bar × Bar), (align series.frame.bars pair.frame.bars)[k]? = some legs ∧
      series.frame.bars[i]? = some legs.1 ∧
      Carried p (facts rt p (align series.frame.bars pair.frame.bars)) k := by
  obtain ⟨bar, hbar, -⟩ := exists_bar_of_row h hrow
  rcases missing_or_common pair.frame.bars (List.mem_of_getElem? hbar) with
    hmissing | ⟨k, legs, hk, rfl⟩
  · exact absurd (row_missing h hrow hbar hmissing).1 hd
  · have hheld := (row_direction_iff h hrow hbar hk rfl hd).mp rfl
    refine ⟨k, legs, hk, hbar, (carried_iff ?_).mpr ⟨_, hd, hheld⟩⟩
    rw [← length_held (event p)]
    exact (List.getElem?_eq_some_iff.mp hheld).1

/-- Where nothing is decided a position that is held was carried there. -/
theorem carried_of_quiet {facts : List Facts} {f : Facts} {d : SignalDirection}
    (hd : d ≠ .FLAT) (hf : facts[k]? = some f) (hquiet : event p f = none)
    (hheld : (held (event p) facts)[k]? = some (some d)) :
    ∃ k', k = k' + 1 ∧ Carried p facts k' := by
  obtain ⟨-, j, hjk, ⟨f', hf', hevent⟩, -⟩ := held_iff.mp hheld
  have hjk' : j ≠ k := by
    rintro rfl
    rw [hf] at hf'
    rw [← Option.some.inj hf', hquiet] at hevent
    cases hevent
  obtain ⟨k', rfl⟩ : ∃ k', k = k' + 1 := ⟨k - 1, by omega⟩
  rw [held_of_quiet hf hquiet] at hheld
  refine ⟨k', rfl, (carried_iff ?_).mpr ⟨d, hd, hheld⟩⟩
  rw [← length_held (event p)]
  exact (List.getElem?_eq_some_iff.mp hheld).1

/-- In sight, the common bar after one to which a position is carried is the next
    bar of the primary series. -/
theorem HeldInSight.next_common {primary pair : List Bar}
    (hprimary : primary.Pairwise (fun a b => a.timestamp < b.timestamp))
    (hsight : HeldInSight rt p primary pair) {n : ℕ} {a b : Bar × Bar}
    (hcarried : Carried p (facts rt p (align primary pair)) k)
    (ha : (align primary pair)[k]? = some a) (hn : primary[n]? = some a.1)
    (hb : (align primary pair)[k + 1]? = some b) (hi : primary[i]? = some b.1) : i = n + 1 := by
  have hni : n < i := by
    rw [← Causal.time_lt_iff hprimary hn hi]
    exact (Causal.time_lt_iff (align_increasing pair hprimary) ha hb).mpr (by omega)
  have hlen : n + 1 < primary.length := by
    have := (List.getElem?_eq_some_iff.mp hi).1
    omega
  have hnext := List.getElem?_eq_getElem hlen
  obtain ⟨⟨other, hother, hsame⟩, -⟩ := hsight k n _ _ hcarried ha hn hnext
  obtain ⟨m, legs, hm, hlegs⟩ := exists_align (List.mem_of_getElem? hnext) hother hsame
  rw [← hlegs] at hnext
  obtain rfl := common_next hprimary ha hn hm hnext
  obtain rfl := Option.some.inj (hm ▸ hb)
  have hle := (Causal.time_le_iff hprimary hi hnext).mp le_rfl
  omega

/-- Where nothing is decided the direction of the row before stays, as long as
    nothing lies between the two common bars. -/
theorem direction_of_quiet (h : generate_signals rt p (some pair) series = .ok signals)
    (hsight : HeldInSight rt p series.frame.bars pair.frame.bars) {before : SignalRow}
    {legs : Bar × Bar} {f : Facts} (hbefore : signals.frame[i]? = some before)
    (hrow : signals.frame[i + 1]? = some row) (hbar : series.frame.bars[i + 1]? = some legs.1)
    (hlegs : (align series.frame.bars pair.frame.bars)[k]? = some legs)
    (hf : (facts rt p (align series.frame.bars pair.frame.bars))[k]? = some f)
    (hquiet : event p f = none) : row.direction = before.direction := by
  have hprimary := series.frame.increasing
  by_contra hne
  obtain ⟨bar, hbar', -⟩ := exists_bar_of_row h hbefore
  rcases missing_or_common pair.frame.bars (List.mem_of_getElem? hbar') with
    hmissing | ⟨k', legs', hk', rfl⟩
  · -- The row before is flat, so this one has a position, carried from a common bar
    -- before the missing one: its next bar would have to be this one.
    rw [(row_missing h hbefore hbar' hmissing).1] at hne
    have hheld := (row_direction_iff h hrow hbar hlegs rfl hne).mp rfl
    obtain ⟨k', rfl, hcarried⟩ := carried_of_quiet hne hf hquiet hheld
    have hlen : k' < (align series.frame.bars pair.frame.bars).length := by
      have := (List.getElem?_eq_some_iff.mp hlegs).1
      omega
    have hk' := List.getElem?_eq_getElem hlen
    obtain ⟨⟨n, hn⟩, other, hother, hsame⟩ := counterpart_of_common hk'
    have hnext := hsight.next_common hprimary hcarried hk' hn hlegs hbar
    obtain rfl : n = i := by omega
    obtain rfl := Option.some.inj (hn ▸ hbar')
    exact hmissing other hother hsame
  · -- Two common bars in a row hold the same.
    obtain rfl := common_next hprimary hk' hbar' hlegs hbar
    obtain ⟨g, hg⟩ := exists_facts rt p hk'
    obtain ⟨e, he, hdirection, -⟩ := row_common h hrow hbar hlegs hf
    obtain ⟨e', he', hdirection', -⟩ := row_common h hbefore hbar' hk' hg
    rw [held_of_quiet hf hquiet, he'] at he
    rw [hdirection, hdirection', Option.some.inj he] at hne
    exact hne rfl

theorem explained_of_in_sight (h : generate_signals rt p (some pair) series = .ok signals)
    (hsight : HeldInSight rt p series.frame.bars pair.frame.bars) : Explained signals.frame := by
  intro i before row hbefore hrow hne
  obtain ⟨bar, hbar, -⟩ := exists_bar_of_row h hrow
  -- Whatever is flat after a position is the next bar of a common one.
  have hleft : row.direction = .FLAT → ∃ (k : ℕ) (legs : Bar × Bar),
      (align series.frame.bars pair.frame.bars)[k]? = some legs ∧
      series.frame.bars[i]? = some legs.1 ∧
      Carried p (facts rt p (align series.frame.bars pair.frame.bars)) k := by
    intro hflat
    exact exists_carried h hbefore fun hflat' => hne (hflat.trans hflat'.symm)
  rcases missing_or_common pair.frame.bars (List.mem_of_getElem? hbar) with
    hmissing | ⟨k, legs, hk, rfl⟩
  · obtain ⟨k, legs, hk, hbar', hcarried⟩ := hleft (row_missing h hrow hbar hmissing).1
    obtain ⟨⟨other, hother, hsame⟩, -⟩ := hsight k i legs bar hcarried hk hbar' hbar
    exact absurd hsame (hmissing other hother)
  · obtain ⟨f, hf⟩ := exists_facts rt p hk
    obtain ⟨e, he, hdirection, hreason⟩ := row_common h hrow hbar hk hf
    rw [hreason]
    cases hevent : event p f with
    | none => exact absurd (direction_of_quiet h hsight hbefore hrow hbar hk hf hevent) hne
    | some d =>
      refine reason_ne_empty hevent fun hunusable => ?_
      rw [held_of_event hf (event_of_unusable hunusable)] at he
      rw [← Option.some.inj he] at hdirection
      obtain ⟨k', legs', hk', hbar', hcarried⟩ := hleft hdirection
      obtain rfl := common_next series.frame.increasing hk' hbar' hk hbar
      exact (hsight k' i legs' legs.1 hcarried hk' hbar' hbar).2 f hf hunusable

theorem in_sight_of_explained (h : generate_signals rt p (some pair) series = .ok signals)
    (hexplained : Explained signals.frame) :
    HeldInSight rt p series.frame.bars pair.frame.bars := by
  intro k n legs next hcarried hlegs hn hnext
  have hlen : k < (facts rt p (align series.frame.bars pair.frame.bars)).length := by
    rw [(causal_facts rt p).length]
    exact (List.getElem?_eq_some_iff.mp hlegs).1
  obtain ⟨d, hd, hheld⟩ := (carried_iff hlen).mp hcarried
  obtain ⟨before, hbefore⟩ := exists_row_of_bar h hn
  obtain ⟨row, hrow⟩ := exists_row_of_bar h hnext
  have hposition := (row_direction_iff h hbefore hn hlegs rfl hd).mpr hheld
  have hspeaks : row.direction = .FLAT → row.reason ≠ "" := by
    intro hflat
    apply hexplained n before row hbefore hrow
    rw [hflat, hposition]
    exact hd.symm
  rcases missing_or_common pair.frame.bars (List.mem_of_getElem? hnext) with
    hmissing | ⟨k', legs', hk', rfl⟩
  · obtain ⟨hflat, hsilent⟩ := row_missing h hrow hnext hmissing
    exact absurd hsilent (hspeaks hflat)
  obtain rfl := common_next series.frame.increasing hlegs hn hk' hnext
  refine ⟨(counterpart_of_common hk').2, fun g hg hunusable => ?_⟩
  by_contra hcoupled
  obtain ⟨e, he, hdirection, hreason⟩ := row_common h hrow hnext hk' hg
  rw [held_of_event hg (event_of_unusable hunusable)] at he
  rw [← Option.some.inj he] at hdirection
  exact hspeaks hdirection (hreason.trans (reason_of_silent hunusable hcoupled))

end Rows

end PairTrading

/-! ## Registered strategies -/

/-- Pair trading explains its changes while its positions are in sight; the other
    families always do. -/
def ExplainsWhen (rt : Runtime) (pair : Option PriceSeries) (series : PriceSeries) :
    RegisteredStrategy → Prop
  | .pair_trading p => ∀ second ∈ pair,
      PairTrading.HeldInSight rt p series.frame.bars second.frame.bars
  | _ => True

/-- **Main result**: a registered strategy explains every change of its view
    exactly when it is not a pair whose position is carried out of sight. -/
theorem explained_iff {rt : Runtime} {strategy : RegisteredStrategy} {pair : Option PriceSeries}
    {series : PriceSeries} {signals : SignalSet}
    (h : strategy.generate_signals rt pair series = .ok signals) :
    Explained signals.frame ↔ ExplainsWhen rt pair series strategy := by
  cases strategy with
  | macd p =>
    refine iff_of_true ?_ trivial
    rw [MACD.frame_eq h]
    exact explained_of_events fun f d => MACD.reason_ne_empty
  | bollinger p =>
    refine iff_of_true ?_ trivial
    rw [Bollinger.frame_eq h]
    exact explained_of_events fun f d => Bollinger.reason_ne_empty
  | dual_thrust p =>
    refine iff_of_true ?_ trivial
    rw [DualThrust.frame_eq h]
    exact explained_of_events fun f d => DualThrust.reason_ne_empty
  | pair_trading p =>
    cases pair with
    | none => cases h
    | some pair =>
      constructor
      · intro hexplained second hsecond
        obtain rfl := Option.some.inj hsecond
        exact PairTrading.in_sight_of_explained h hexplained
      · exact fun hsight => PairTrading.explained_of_in_sight h (hsight pair rfl)

/-- The law and its condition, for a pair with a halt. -/
theorem explained_iff_across_a_halt :
    ∃ signals, (RegisteredStrategy.pair_trading short_pair).generate_signals
        PairTrading.decimal_runtime (some PairTrading.halted_pair) PairTrading.cheap
          = .ok signals ∧
      (Explained signals.frame ↔ ExplainsWhen PairTrading.decimal_runtime
        (some PairTrading.halted_pair) PairTrading.cheap (.pair_trading short_pair)) := by
  obtain ⟨signals, hsignals⟩ := Outcome.exists_eq_ok
    (show ((RegisteredStrategy.pair_trading short_pair).generate_signals
      PairTrading.decimal_runtime (some PairTrading.halted_pair) PairTrading.cheap).isOk = true by
      decide +kernel)
  exact ⟨signals, hsignals, explained_iff hsignals⟩

/-- The long position of the day before the halt is gone at the halt, and nothing
    says why. -/
theorem unexplained_at_a_halt :
    ∃ signals, (RegisteredStrategy.pair_trading short_pair).generate_signals
        PairTrading.decimal_runtime (some PairTrading.halted_pair) PairTrading.cheap
          = .ok signals ∧ ¬ Explained signals.frame := by
  obtain ⟨signals, hsignals, hobserved⟩ := Outcome.exists_of_any
    (show ((RegisteredStrategy.pair_trading short_pair).generate_signals
      PairTrading.decimal_runtime (some PairTrading.halted_pair)
      PairTrading.cheap).toOption.any (fun signals =>
        signals.frame[10]?.any (fun before => before.direction = .LONG) = true ∧
        signals.frame[11]?.any (fun row => row.direction = .FLAT ∧ row.reason = "") = true) = true
      by decide +kernel)
  obtain ⟨hbefore, hrow⟩ := of_decide_eq_true hobserved
  obtain ⟨before, hbefore, hlong⟩ := (Option.any_eq_true _ _).mp hbefore
  obtain ⟨row, hrow, hsilent⟩ := (Option.any_eq_true _ _).mp hrow
  obtain ⟨hflat, hsilent⟩ := of_decide_eq_true hsilent
  refine ⟨signals, hsignals, fun hexplained => hexplained 10 before row hbefore hrow ?_ hsilent⟩
  rw [hflat, of_decide_eq_true hlong]
  decide

end Quantora
