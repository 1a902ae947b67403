import Quantora.Backtest.Reconciliation

/-! # Costs are conserved

    A fill's costs are attached to the position it opens and released to the
    trades that close it. `charged` is what the books hold of them at any time:
    the costs of the closed trades and the costs still open. Every fill moves it
    by exactly its own costs, whichever of the four accounting cases it takes.

    `costs_conserved` is the statement over any sequence of fills, with the
    equity identity that follows from the same books. -/

namespace Quantora

namespace Portfolio

/-- The costs that the books hold, on closed trades and on open positions. -/
def charged (p : Portfolio) : ℚ := p.trade_costs + p.open_costs

theorem Booked.charged_eq {p : Portfolio} (h : p.Booked) :
    p.charged = p.total_commission + p.total_slippage := by
  rw [charged, add_comm]
  exact h.costs

theorem initial_cash_apply_all (p : Portfolio) (fills : List (FillEvent × ℕ)) :
    (p.apply_all fills).initial_cash = p.initial_cash := by
  induction fills generalizing p with
  | nil => rfl
  | cons f fs ih => exact ih (p.apply_fill f.1 f.2)

/-- **Step lemma**: a fill is charged once, with its own costs. -/
theorem Booked.charged_apply_fill {p : Portfolio} (h : p.Booked) (fill : FillEvent)
    (bar_index : ℕ) (hwhole : Whole fill.quantity) (hpos : 0 < fill.quantity) :
    (p.apply_fill fill bar_index).charged = p.charged + fill.total_cost := by
  rw [(h.apply_fill fill bar_index hwhole hpos).charged_eq, h.charged_eq]
  show p.total_commission + fill.commission + (p.total_slippage + fill.slippage_cost)
    = p.total_commission + p.total_slippage + fill.total_cost
  unfold FillEvent.total_cost
  ring

/-- **Cost conservation.** After any whole fills on any symbols, the costs of the
    trades and the costs still open are all commissions and all slippage; each
    fill adds its own costs and nothing else; and the equity at any marks of the
    open positions is the initial cash with the gross PnL, realized and not, less
    the commissions. -/
theorem costs_conserved (initial_cash : ℚ) (fills : List (FillEvent × ℕ))
    (hfills : ∀ f ∈ fills, Whole f.1.quantity ∧ 0 < f.1.quantity) :
    ((new initial_cash).apply_all fills).trade_costs
        + ((new initial_cash).apply_all fills).open_costs
      = ((new initial_cash).apply_all fills).total_commission
        + ((new initial_cash).apply_all fills).total_slippage ∧
    (∀ marks : Prices, ((new initial_cash).apply_all fills).Marked marks →
      ((new initial_cash).apply_all fills).equity marks
        = initial_cash + ((new initial_cash).apply_all fills).gross_pnl
          + ((new initial_cash).apply_all fills).unrealized_pnl marks
          - ((new initial_cash).apply_all fills).total_commission) ∧
    (∀ before f, before ++ [f] <+: fills →
      ((new initial_cash).apply_all (before ++ [f])).charged
        = ((new initial_cash).apply_all before).charged + f.1.total_cost) := by
  -- The invariant of the whole run gives the first two; the third needs it before `f`.
  have hbooked := (booked_new initial_cash).apply_all hfills
  refine ⟨hbooked.charged_eq, fun marks hmarks => ?_, fun before f hbefore => ?_⟩
  · have hequity := hbooked.equity_eq_gross hmarks
    rw [initial_cash_apply_all] at hequity
    exact hequity
  · have hmem : ∀ g ∈ before ++ [f], Whole g.1.quantity ∧ 0 < g.1.quantity :=
      fun g hg => hfills g (hbefore.subset hg)
    obtain ⟨hwhole, hpos⟩ := hmem f (by simp)
    have hbooked' := (booked_new initial_cash).apply_all
      (fun g hg => hmem g (List.mem_append_left [f] hg))
    rw [apply_all_append]
    exact hbooked'.charged_apply_fill f.1 f.2 hwhole hpos

/-- Open, add, close a part, reverse. -/
def reversing_fills : List (FillEvent × ℕ) :=
  [ ({ timestamp := 0, symbol := "RELIANCE.NS", side := .BUY, quantity := 10,
       reference_price := 100, fill_price := 101, commission := 1 }, 0),
    ({ timestamp := 1, symbol := "RELIANCE.NS", side := .BUY, quantity := 5,
       reference_price := 102, fill_price := 103, commission := 2 }, 1),
    ({ timestamp := 2, symbol := "RELIANCE.NS", side := .SELL, quantity := 6,
       reference_price := 105, fill_price := 104, commission := 3 }, 2),
    ({ timestamp := 3, symbol := "RELIANCE.NS", side := .SELL, quantity := 20,
       reference_price := 99, fill_price := 98, commission := 4 }, 3) ]

/-- Conservation where all four accounting cases occur. -/
theorem costs_conserved_on_reversal :
    (∀ f ∈ reversing_fills, Whole f.1.quantity ∧ 0 < f.1.quantity) ∧
      ((new 100000).apply_all reversing_fills).trade_costs
          + ((new 100000).apply_all reversing_fills).open_costs
        = ((new 100000).apply_all reversing_fills).total_commission
          + ((new 100000).apply_all reversing_fills).total_slippage := by
  have hfills : ∀ f ∈ reversing_fills, Whole f.1.quantity ∧ 0 < f.1.quantity := by decide +kernel
  exact ⟨hfills, (costs_conserved 100000 reversing_fills hfills).1⟩

end Portfolio

end Quantora
