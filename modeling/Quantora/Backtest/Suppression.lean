import Quantora.Backtest.LongOnly

/-! # No re-entry after an exit

    After a discretionary exit `simulate` suppresses re-entry until the signal
    changes its mind. The flag remembers one direction only, that of the position
    left last, so the suppression lasts as long as the position stays on the side
    that was exited until it is flat.

    * `decision_at` — what `decide` sees and returns at a bar of a run.
    * `over_covered_at` — the one way to leave that side: a buy that covers a
      short cannot be paid in full, and is "reduced" to a larger quantity,
      because the affordable quantity leaves out the minimum commission.
    * `Leaving` — the invariant from the exit on. -/

namespace Quantora

/-! ## Decisions of a run -/

/-- One decision of a run, with what it depends on. -/
structure BarDecision where
  /-- The side of the position that is held when the decision is made. -/
  held : SignalDirection
  /-- The reason of the exit, if one is taken. -/
  exit : Option String
  /-- The direction of the signal, as far as the configuration allows it. -/
  effective : SignalDirection
  target : ℚ
  deriving DecidableEq, Repr

section Run

variable (series : PriceSeries) (strategy : Strategy) (signals : SignalSet)
  (config : BacktestConfig)

/-- The decision at bar `i`: `none` where the run takes none. -/
def decision_at (i : ℕ) : Option BarDecision := do
  let bar ← series.frame.bars[i]?
  let _ ← series.frame.bars[i + 1]?
  let row ← signals.frame[i]?
  let st ← (state_after series strategy signals config i).toOption
  let market := bar.market series.symbol
  let observed := st.observe series.symbol config i market
  let settled := st.settle config i market
  let position := settled.portfolio.position series.symbol
  let exit ← (exit_reason strategy series.symbol signals observed.portfolio i market
    position).toOption
  let decision ← (simulate_decide strategy config series.symbol signals observed.portfolio
    st.closure i market (settled.equity series.symbol market) position).toOption
  some
    { held := direction_of position.quantity
      exit := exit
      effective := allowed_direction config row.direction
      target := decision.1.1 }

/-- The fill of a buy would exceed the order. -/
def over_filled (config : BacktestConfig) (portfolio : Portfolio) (market : MarketEvent)
    (order : OrderEvent) : Bool :=
  let fill_price := config.cost_model.fill_price (config.execution_model.price_of market) .BUY
  order.side = .BUY ∧
    portfolio.can_afford .BUY order.quantity fill_price
      (config.cost_model.commission (order.quantity * fill_price)) = false ∧
    order.quantity
      < portfolio.max_affordable_quantity fill_price (config.cost_model.commission_bps / BPS)

/-- At bar `i`, while re-entry on the short side is suppressed, a waiting buy
    would be filled for more than it asks for. -/
def over_covered_at (i : ℕ) : Bool :=
  match series.frame.bars[i]?, state_after series strategy signals config i with
  | some bar, .ok st =>
    st.closure = some .SHORT ∧
      st.pending.any (over_filled config st.portfolio (bar.market series.symbol))
  | _, _ => false

/-- After an exit from `d` the decided target is zero, up to the first bar at
    which the signal is no longer `d` and no exit is taken. -/
def NoReentry : Prop :=
  ∀ i j d e, i < j → decision_at series strategy signals config i = some d →
    d.exit.isSome → decision_at series strategy signals config j = some e →
    (∀ k f, i < k → k ≤ j → decision_at series strategy signals config k = some f →
      f.effective = d.held ∨ f.exit.isSome) →
    e.target = 0

end Run

/-! ## Leaving a position -/

theorem direction_of_eq_flat {q : ℚ} : direction_of q = .FLAT ↔ q = 0 := by
  unfold direction_of
  split_ifs with hpos hneg
  · simp [hpos.ne']
  · simp [hneg.ne]
  · simp [le_antisymm (not_lt.mp hpos) (not_lt.mp hneg)]

/-- A quantity on the side `d`, or none. -/
def OnSide (d : SignalDirection) (q : ℚ) : Prop := q = 0 ∨ direction_of q = d

theorem sign_eq_value (position : PositionState) :
    position.sign = (direction_of position.quantity).value := by
  unfold PositionState.sign direction_of
  split_ifs <;> rfl

theorem onSide_of_nonneg {d : SignalDirection} {q : ℚ} (hd : d ≠ .FLAT)
    (h : 0 ≤ (d.value : ℚ) * q) : OnSide d q := by
  by_cases hzero : q = 0
  · exact Or.inl hzero
  right
  cases d with
  | FLAT => exact absurd rfl hd
  | LONG =>
    have hpos : 0 < q := lt_of_le_of_ne (by simpa using h) (Ne.symm hzero)
    simp [direction_of, hpos]
  | SHORT =>
    have hneg : q < 0 := lt_of_le_of_ne (by simpa using h) hzero
    simp [direction_of, hneg, hneg.le]

/-- The order that leaves a position trades against it. -/
theorem sign_of_leaving_side {q : ℚ} (hopen : q ≠ 0) :
    (if 0 - q > 0 then OrderSide.BUY else OrderSide.SELL).sign = -(direction_of q).value := by
  rcases lt_or_gt_of_ne hopen with hneg | hpos
  · simp [direction_of, hneg, not_lt.mpr hneg.le]
  · simp [direction_of, hpos, not_lt.mpr hpos.le]

/-- A position is being left: the side exited is the suppressed one, nothing is
    held on the other, and the order that waits is for all of it. -/
structure Leaving (symbol : String) (d : SignalDirection)
    (st : LoopState (Option SignalDirection)) : Prop where
  suppressed : st.closure = some d
  side : OnSide d (st.portfolio.quantity symbol)
  pending : ∀ order ∈ st.pending, order.symbol = symbol ∧
    order.quantity = |st.portfolio.quantity symbol| ∧
    order.side = (if 0 - st.portfolio.quantity symbol > 0 then .BUY else .SELL)

section Leave

variable {symbol : String} {config : BacktestConfig} {d : SignalDirection}
  {st : LoopState (Option SignalDirection)} {market : MarketEvent}

/-- A fill is at most the order, unless it is over-filled. -/
theorem fill_quantity_le {order : OrderEvent} {portfolio : Portfolio} {fill : FillEvent}
    (hexact : over_filled config portfolio market order = false)
    (hfill : (fill_order order market portfolio config).1 = some fill) :
    fill.quantity ≤ order.quantity := by
  unfold fill_order at hfill
  cases hside : order.side with
  | SELL =>
    simp only [hside, Option.some.injEq] at hfill
    rw [← hfill]
    exact le_refl _
  | BUY =>
    simp only [over_filled, hside, true_and, decide_eq_false_iff_not, not_and, not_lt] at hexact
    simp only [hside, fill_of] at hfill
    split_ifs at hfill with hafford hnone
    · rw [← Option.some.inj hfill]
    · rw [← Option.some.inj hfill]
      exact hexact (Bool.eq_false_iff.mpr hafford)

/-- **Step lemma**: the order that waits moves the position towards flat. -/
theorem Leaving.settle (h : Leaving symbol d st) (i : ℕ)
    (hexact : d = .SHORT → st.pending.any (over_filled config st.portfolio market) = false) :
    OnSide d ((st.settle config i market).portfolio.quantity symbol) := by
  simp only [LoopState.settle, LoopState.portfolio_book]
  cases hfill : (st.settlement config market).1 with
  | none => exact h.side
  | some fill =>
    unfold LoopState.settlement at hfill
    cases hpending : st.pending with
    | none =>
      rw [hpending] at hfill
      cases hfill
    | some order =>
      rw [hpending] at hfill hexact
      obtain ⟨hsymbol, hquantity, hside⟩ := h.pending order hpending
      have hopen : st.portfolio.quantity symbol ≠ 0 := by
        intro hzero
        have hpos := order.quantity_pos
        rw [hquantity, hzero, abs_zero] at hpos
        exact lt_irrefl _ hpos
      have hheld : direction_of (st.portfolio.quantity symbol) = d := h.side.resolve_left hopen
      obtain ⟨quantity, hfill_eq, hpos, -⟩ := fill_order_eq_some hfill
      have hfill_side : fill.side = order.side := by rw [hfill_eq]; rfl
      have hfill_symbol : fill.symbol = symbol := by rw [hfill_eq]; exact hsymbol
      have hpos' : 0 < fill.quantity := by rw [hfill_eq]; exact hpos
      -- The order is for the whole position, on the other side.
      have hexact' : over_filled config st.portfolio market order = false := by
        by_cases hlong : 0 - st.portfolio.quantity symbol > 0
        · apply hexact
          rw [← hheld]
          have hneg : st.portfolio.quantity symbol < 0 := by linarith
          simp [direction_of, hneg, hneg.le]
        · rw [if_neg hlong] at hside
          simp [over_filled, hside]
      have hle : fill.quantity ≤ |st.portfolio.quantity symbol| := by
        rw [← hquantity]
        exact fill_quantity_le hexact' hfill
      have hagainst : (st.portfolio.position symbol).sign = -fill.side.sign := by
        rw [hfill_side, hside, sign_of_leaving_side hopen, neg_neg]
        exact sign_eq_value _
      have hrest := PositionState.take_fill_toward_flat i hagainst hopen hpos' hle
      have hposition := st.portfolio.position_apply_fill_self fill i
      rw [hfill_symbol] at hposition
      rw [← hposition, sign_eq_value] at hrest
      have hd : d ≠ .FLAT := by
        rw [← hheld, Ne, direction_of_eq_flat]
        exact hopen
      apply onSide_of_nonneg hd
      rw [← hheld]
      exact hrest

/-- An exit is taken from an open position. -/
theorem open_of_exit {strategy : Strategy} {signals : SignalSet} {portfolio : Portfolio} {i : ℕ}
    {position : PositionState} {reason : String}
    (h : exit_reason strategy symbol signals portfolio i market position = .ok (some reason)) :
    position.quantity ≠ 0 := by
  intro hzero
  have hflat : position.is_flat = true := PositionState.is_flat_iff.mpr hzero
  rw [exit_reason, if_pos hflat] at h
  cases h

/-- **The decision while a position is being left**: whichever way `decide` takes,
    the target is flat and the suppression stays. -/
theorem decision_while_leaving {strategy : Strategy} {signals : SignalSet} {portfolio : Portfolio}
    {i : ℕ} {equity : ℚ} {position : PositionState}
    {decision : TargetDecision × Option SignalDirection}
    (hflat : ∀ context, context.direction = .FLAT → strategy.position_size context = 0)
    (hside : OnSide d position.quantity)
    (hsignal : ∀ row, exit_reason strategy symbol signals portfolio i market position = .ok none →
      signals.frame[i]? = some row → allowed_direction config row.direction = d)
    (h : simulate_decide strategy config symbol signals portfolio (some d) i market equity
      position = .ok decision) :
    decision.1.1 = 0 ∧ decision.2 = some d := by
  obtain ⟨⟨target, reason⟩, suppressed⟩ := decision
  rcases simulate_decide_cases h with
    ⟨r, hexit, rfl, rfl⟩ | ⟨row, hstays, hrow, rfl, hsized⟩
  · -- Another exit, from the same side.
    exact ⟨rfl, congrArg some (hside.resolve_left (open_of_exit hexit))⟩
  -- No exit, so the signal decides: it still points to the side that was left.
  · have hresolved : target_direction config (some d) row = (.FLAT, some d) := by
      rw [target_direction, hsignal row hstays hrow, resolve_suppression, if_pos rfl]
    rw [hresolved] at hsized ⊢
    refine ⟨?_, rfl⟩
    rcases hsized with ⟨hkeep, rfl⟩ | ⟨-, rfl⟩
    · -- A flat position is kept.
      simp only [keeps_position, decide_eq_true_eq] at hkeep
      exact direction_of_eq_flat.mp hkeep.1.symm
    · exact hflat _ rfl

/-- What a flat target leaves to the next bar. -/
theorem leaving_place {st : LoopState (Option SignalDirection)} {execution_timestamp : Timestamp}
    {decision : TargetDecision × Option SignalDirection}
    (hside : OnSide d (st.portfolio.quantity symbol)) (htarget : decision.1.1 = 0)
    (hsuppressed : decision.2 = some d) :
    Leaving symbol d (st.place symbol market execution_timestamp decision) := by
  refine ⟨hsuppressed, hside, fun order horder => ?_⟩
  obtain ⟨-, -, hsymbol, hquantity, -, hside⟩ := pending_order_eq_some horder
  rw [htarget] at hquantity hside
  refine ⟨hsymbol, ?_, hside⟩
  rw [hquantity, zero_sub, abs_neg]
  rfl

end Leave

/-! ## From the exit on -/

section Run

variable {series : PriceSeries} {strategy : Strategy} {signals : SignalSet}
  {config : BacktestConfig} {i : ℕ} {d : BarDecision} {bar : Bar} {row : SignalRow}
  {st : LoopState (Option SignalDirection)} {decision : TargetDecision × Option SignalDirection}

/-- What a decision of a run was made from. -/
structure DecidedFrom (series : PriceSeries) (strategy : Strategy) (signals : SignalSet)
    (config : BacktestConfig) (i : ℕ) (d : BarDecision) (bar : Bar) (row : SignalRow)
    (st : LoopState (Option SignalDirection))
    (decision : TargetDecision × Option SignalDirection) : Prop where
  bar_at : series.frame.bars[i]? = some bar
  next_at : ∃ next, series.frame.bars[i + 1]? = some next
  row_at : signals.frame[i]? = some row
  state_at : state_after series strategy signals config i = .ok st
  exit : exit_reason strategy series.symbol signals
    (st.observe series.symbol config i (bar.market series.symbol)).portfolio i
    (bar.market series.symbol)
    ((st.settle config i (bar.market series.symbol)).portfolio.position series.symbol) = .ok d.exit
  decided : simulate_decide strategy config series.symbol signals
    (st.observe series.symbol config i (bar.market series.symbol)).portfolio st.closure i
    (bar.market series.symbol)
    ((st.settle config i (bar.market series.symbol)).equity series.symbol
      (bar.market series.symbol))
    ((st.settle config i (bar.market series.symbol)).portfolio.position series.symbol)
      = .ok decision
  held : d.held = direction_of
    ((st.settle config i (bar.market series.symbol)).portfolio.quantity series.symbol)
  effective : d.effective = allowed_direction config row.direction
  target : d.target = decision.1.1

theorem decidedFrom_of_decision_at (h : decision_at series strategy signals config i = some d) :
    ∃ bar row st decision,
      DecidedFrom series strategy signals config i d bar row st decision := by
  unfold decision_at at h
  simp only [Option.bind_eq_bind, Option.bind_eq_some_iff, Option.some.injEq] at h
  obtain ⟨bar, hbar, next, hnext, row, hrow, st, hst, exit, hexit, decision, hdecided, rfl⟩ := h
  exact ⟨bar, row, st, decision, hbar, ⟨next, hnext⟩, hrow, Outcome.toOption_eq_some.mp hst,
    Outcome.toOption_eq_some.mp hexit, Outcome.toOption_eq_some.mp hdecided, rfl, rfl, rfl⟩

theorem decision_at_of_decidedFrom
    (h : DecidedFrom series strategy signals config i d bar row st decision) :
    decision_at series strategy signals config i = some d := by
  obtain ⟨next, hnext⟩ := h.next_at
  unfold decision_at
  simp only [Option.bind_eq_bind, Option.bind_eq_some_iff, Option.some.injEq]
  refine ⟨bar, h.bar_at, next, hnext, row, h.row_at, st,
    Outcome.toOption_eq_some.mpr h.state_at, d.exit,
    Outcome.toOption_eq_some.mpr h.exit, decision, Outcome.toOption_eq_some.mpr h.decided, ?_⟩
  rw [← h.effective, ← h.target]
  have hheld := h.held
  unfold Portfolio.quantity at hheld
  rw [← hheld]

theorem not_over_filled (hexact : over_covered_at series strategy signals config i = false)
    (hbar : series.frame.bars[i]? = some bar)
    (hst : state_after series strategy signals config i = .ok st)
    (hshort : st.closure = some .SHORT) :
    st.pending.any (over_filled config st.portfolio (bar.market series.symbol)) = false := by
  simpa [over_covered_at, hbar, hst, hshort] using hexact

/-- An exit asks for a flat position and suppresses the side it leaves. -/
theorem decision_at_exit (h : DecidedFrom series strategy signals config i d bar row st decision)
    (hexit : d.exit.isSome) : decision.1.1 = 0 ∧ decision.2 = some d.held := by
  obtain ⟨reason, hreason⟩ := Option.isSome_iff_exists.mp hexit
  have hleaves := h.exit
  rw [hreason] at hleaves
  obtain ⟨⟨target, text⟩, suppressed⟩ := decision
  rcases simulate_decide_cases h.decided with ⟨r, -, rfl, rfl⟩ | ⟨row, hstays, -⟩
  · exact ⟨rfl, congrArg some h.held.symm⟩
  · rw [hstays] at hleaves
    cases hleaves

/-- Where no exit is taken, the signal is what is known of the decision. -/
theorem signal_while_leaving {next : Bar} {direction : SignalDirection}
    (hbar : series.frame.bars[i]? = some bar) (hnext : series.frame.bars[i + 1]? = some next)
    (hst : state_after series strategy signals config i = .ok st)
    (hdecided : simulate_decide strategy config series.symbol signals
      (st.observe series.symbol config i (bar.market series.symbol)).portfolio st.closure i
      (bar.market series.symbol)
      ((st.settle config i (bar.market series.symbol)).equity series.symbol
        (bar.market series.symbol))
      ((st.settle config i (bar.market series.symbol)).portfolio.position series.symbol)
        = .ok decision)
    (hknown : ∀ f, decision_at series strategy signals config i = some f →
      f.effective = direction ∨ f.exit.isSome) :
    ∀ row, exit_reason strategy series.symbol signals
        (st.observe series.symbol config i (bar.market series.symbol)).portfolio i
        (bar.market series.symbol)
        ((st.settle config i (bar.market series.symbol)).portfolio.position series.symbol)
          = .ok none →
      signals.frame[i]? = some row → allowed_direction config row.direction = direction := by
  intro row hstays hrow
  -- What `decision_at` reports of this bar, with no exit.
  have hfrom : DecidedFrom series strategy signals config i
      { held := direction_of
          ((st.settle config i (bar.market series.symbol)).portfolio.quantity series.symbol)
        exit := none
        effective := allowed_direction config row.direction
        target := decision.1.1 } bar row st decision :=
    ⟨hbar, ⟨next, hnext⟩, hrow, hst, hstays, hdecided, rfl, rfl, rfl⟩
  rcases hknown _ (decision_at_of_decidedFrom hfrom) with heffective | hexit
  · exact heffective
  · cases hexit

/-- **Run lemma**: from the bar after an exit on, the position is being left. -/
theorem leaving_after_exit
    (hflat : ∀ context, context.direction = .FLAT → strategy.position_size context = 0)
    (hexact : ∀ k < series.frame.bars.length,
      over_covered_at series strategy signals config k = false)
    (hexit_at : decision_at series strategy signals config i = some d) (hexit : d.exit.isSome)
    {k : ℕ} (hik : i < k) (hk : k < series.frame.bars.length)
    (hpast : ∀ k' f, i < k' → k' < k → decision_at series strategy signals config k' = some f →
      f.effective = d.held ∨ f.exit.isSome)
    (hst : state_after series strategy signals config k = .ok st) :
    Leaving series.symbol d.held st := by
  induction k, hik using Nat.le_induction generalizing st with
  | base =>
    -- The bar of the exit itself: it targets zero and suppresses the side held.
    obtain ⟨bar, row, past, decision, hfrom⟩ := decidedFrom_of_decision_at hexit_at
    obtain ⟨s, hs, hrun⟩ := (state_after_succ hfrom.bar_at).mp hst
    obtain rfl := Except.ok.inj (hs.symm.trans hfrom.state_at)
    obtain ⟨next, hnext⟩ := hfrom.next_at
    rw [hnext] at hrun
    obtain ⟨decision', hdecide, rfl⟩ := run_bar_mid hrun
    obtain rfl := Except.ok.inj (hfrom.decided.symm.trans hdecide)
    obtain ⟨htarget, hsuppressed⟩ := decision_at_exit hfrom hexit
    apply leaving_place _ htarget hsuppressed
    rw [LoopState.observe, LoopState.quantity_mark]
    exact Or.inr hfrom.held.symm
  | succ k hik ih =>
    obtain ⟨bar, hbar⟩ : ∃ bar, series.frame.bars[k]? = some bar :=
      ⟨_, List.getElem?_eq_getElem (by omega)⟩
    obtain ⟨next, hnext⟩ : ∃ next, series.frame.bars[k + 1]? = some next :=
      ⟨_, List.getElem?_eq_getElem hk⟩
    obtain ⟨s, hs, hrun⟩ := (state_after_succ hbar).mp hst
    have hleaving := ih (by omega) (fun k' f hik' hk' => hpast k' f hik' (by omega)) hs
    -- Settling the order of the bar before does not carry the position across zero.
    have hside := hleaving.settle k fun hshort =>
      not_over_filled (hexact k (by omega)) hbar hs (hshort ▸ hleaving.suppressed)
    rw [hnext] at hrun
    obtain ⟨decision, hdecide, rfl⟩ := run_bar_mid hrun
    have hsignal := signal_while_leaving hbar hnext hs hdecide (hpast k · hik (by omega))
    rw [hleaving.suppressed] at hdecide
    obtain ⟨htarget, hsuppressed⟩ := decision_while_leaving hflat hside hsignal hdecide
    apply leaving_place _ htarget hsuppressed
    rw [LoopState.observe, LoopState.quantity_mark]
    exact hside

end Run

/-- **No re-entry after an exit**, for every strategy whose size for a flat target
    is zero and in every run in which no covering buy is over-filled. -/
theorem no_reentry {series : PriceSeries} {strategy : Strategy} {signals : SignalSet}
    {config : BacktestConfig}
    (hflat : ∀ context, context.direction = .FLAT → strategy.position_size context = 0)
    (hexact : ∀ k < series.frame.bars.length,
      over_covered_at series strategy signals config k = false) :
    NoReentry series strategy signals config := by
  intro i j d e hij hd hexit he hbetween
  obtain ⟨bar, row, st, decision, hfrom⟩ := decidedFrom_of_decision_at he
  obtain ⟨next, hnext⟩ := hfrom.next_at
  have hj : j < series.frame.bars.length := (List.getElem?_eq_some_iff.mp hfrom.bar_at).1
  -- Up to bar `j` the position is being left, so the decision there is flat.
  have hleaving := leaving_after_exit hflat hexact hd hexit hij hj
    (fun k f hik hkj => hbetween k f hik hkj.le) hfrom.state_at
  have hside := hleaving.settle j fun hshort =>
    not_over_filled (hexact j hj) hfrom.bar_at hfrom.state_at (hshort ▸ hleaving.suppressed)
  have hsignal := signal_while_leaving hfrom.bar_at hnext hfrom.state_at hfrom.decided
    (hbetween j · hij le_rfl)
  have hdecided := hfrom.decided
  rw [hleaving.suppressed] at hdecided
  rw [hfrom.target]
  exact (decision_while_leaving hflat hside hsignal hdecided).1

/-! ## A covering buy that is over-filled -/

/-- A short entered at 10 and stopped out at 15. -/
def stop_out_bars : PriceSeries where
  symbol := "TCS.NS"
  interval := "1d"
  frame :=
    { bars :=
        [ { timestamp := 0, open_ := 10, high := 10, low := 10, close := 10, adj_close := 10,
            volume := 1000 },
          { timestamp := 1, open_ := 10, high := 15, low := 10, close := 15, adj_close := 15,
            volume := 1000 },
          { timestamp := 2, open_ := 15, high := 15, low := 15, close := 15, adj_close := 15,
            volume := 1000 },
          { timestamp := 3, open_ := 15, high := 15, low := 15, close := 15, adj_close := 15,
            volume := 1000 },
          { timestamp := 4, open_ := 15, high := 15, low := 15, close := 15, adj_close := 15,
            volume := 1000 } ]
      increasing := by simp }
  provenance :=
    { provider := "yfinance", provider_ticker := "TCS.NS", adjustment_policy := "raw",
      requested_start := "2024-01-01", requested_end := "2024-01-06" }

/-- Short at every bar. -/
def short_signals : SignalSet where
  symbol := "TCS.NS"
  strategy := "stopped"
  parameters := []
  frame :=
    [ { timestamp := 0, direction := .SHORT, strength := 1, reason := "" },
      { timestamp := 1, direction := .SHORT, strength := 1, reason := "" },
      { timestamp := 2, direction := .SHORT, strength := 1, reason := "" },
      { timestamp := 3, direction := .SHORT, strength := 1, reason := "" },
      { timestamp := 4, direction := .SHORT, strength := 1, reason := "" } ]
  indicators := []
  warmup_bars := 0
  monotonic := by simp

/-- Nine units a side, and out when the close reaches 15. -/
def stopped_strategy : Strategy where
  name := "stopped"
  position_size := fun context => 9 * context.direction.value
  exit_signal := fun context =>
    if context.price ≥ 15 then ExitDecision.exit "stop" else ExitDecision.hold

def shorting_account : BacktestConfig := { small_account with allow_short := true }

/-- The buy that covers nine short units costs 165 with its commission, of a cash
    of 160. It is reduced to the ten units that 160 would buy without one. The
    long unit is exited at the next bar, so what is suppressed from then on is
    the long side, and the short is entered again. -/
theorem reenters_after_stop :
    (∀ bar ∈ stop_out_bars.frame.bars, bar.Positive) ∧
      shorting_account.cost_model.AdmittedByApi ∧
      stopped_strategy.rebalances_continuously = false ∧
      (∀ context, context.direction = .FLAT → stopped_strategy.position_size context = 0) ∧
      (simulate stop_out_bars stopped_strategy short_signals shorting_account).isOk = true ∧
      ¬ NoReentry stop_out_bars stopped_strategy short_signals shorting_account := by
  have hexit : decision_at stop_out_bars stopped_strategy short_signals shorting_account 1
      = some { held := .SHORT, exit := some "stop", effective := .SHORT, target := 0 } := by
    decide +kernel
  have hagain : decision_at stop_out_bars stopped_strategy short_signals shorting_account 2
      = some { held := .LONG, exit := some "stop", effective := .SHORT, target := 0 } := by
    decide +kernel
  have hreenter : decision_at stop_out_bars stopped_strategy short_signals shorting_account 3
      = some { held := .FLAT, exit := none, effective := .SHORT, target := -9 } := by
    decide +kernel
  -- Stopped out of the short at bar 1, out of one long unit at bar 2, short again at 3.
  refine ⟨?_, ?_, rfl, ?_, by decide +kernel, fun hno => ?_⟩
  · intro bar hbar
    simp only [stop_out_bars, List.mem_cons, List.not_mem_nil, or_false] at hbar
    rcases hbar with rfl | rfl | rfl | rfl | rfl <;> constructor <;> norm_num
  · constructor <;> norm_num [shorting_account, small_account, CostModel.zero]
  · intro context hflat
    simp [stopped_strategy, hflat]
  · have hzero := hno 1 3 _ _ (by decide) hexit rfl hreenter (by
      intro k f hlow hhigh hf
      obtain rfl | rfl : k = 2 ∨ k = 3 := by omega
      · obtain rfl := Option.some.inj (hagain.symm.trans hf)
        exact Or.inl rfl
      · obtain rfl := Option.some.inj (hreenter.symm.trans hf)
        exact Or.inl rfl)
    norm_num at hzero

/-- With more cash the same stop is final. -/
theorem no_reentry_of_stopped_strategy :
    NoReentry stop_out_bars stopped_strategy short_signals
      { (default : BacktestConfig) with allow_short := true } :=
  no_reentry (fun context hflat => by simp [stopped_strategy, hflat]) (by decide +kernel)

end Quantora
