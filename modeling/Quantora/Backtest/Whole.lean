import Quantora.Backtest.Steps

/-! # Whole states

    The affordable quantity of a reduced buy is whole. Orders of whole size are
    therefore filled in whole quantities, whatever the prices are, and a loop
    whose targets are whole never holds or orders a part of a unit.

    `WholeState` is that invariant, with its step lemmas. In a whole state a fill
    moves the quantity by exactly its signed quantity (`WholeState.settle`), and
    the close-out leaves nothing behind (`WholeState.liquidate`). -/

namespace Quantora

theorem whole_max_affordable_quantity (p : Portfolio) (fill_price commission_rate : ℚ) :
    Whole (p.max_affordable_quantity fill_price commission_rate) := by
  unfold Portfolio.max_affordable_quantity
  split_ifs
  · exact whole_zero
  · simp only
    split_ifs
    · exact whole_intCast _
    · exact whole_zero

/-- Everything held or ordered is a whole number of units of one symbol. -/
structure WholeState {σ : Type} (symbol : String) (st : LoopState σ) : Prop where
  sound : (st.portfolio.position symbol).Sound
  pending : ∀ order ∈ st.pending, Whole order.quantity ∧ order.symbol = symbol

section Settle

variable {σ : Type} {symbol : String} {config : BacktestConfig} {st : LoopState σ}

/-- A fill of a whole order is whole. -/
theorem WholeState.of_settlement (h : WholeState symbol st) {market : MarketEvent}
    {fill : FillEvent} (hfill : fill ∈ (st.settlement config market).1) :
    Whole fill.quantity ∧ 0 < fill.quantity ∧ fill.symbol = symbol := by
  unfold LoopState.settlement at hfill
  cases hpending : st.pending with
  | none => rw [hpending] at hfill; cases hfill
  | some order =>
    rw [hpending] at hfill
    obtain ⟨hwhole, hsym⟩ := h.pending order hpending
    obtain ⟨quantity, rfl, hpos, rfl | rfl⟩ := fill_order_eq_some hfill
    · exact ⟨hwhole, hpos, hsym⟩
    · exact ⟨whole_max_affordable_quantity _ _ _, hpos, hsym⟩

/-- Settling moves the quantity by the fill, and keeps the position sound. -/
theorem WholeState.settle (h : WholeState symbol st) (config : BacktestConfig) (i : ℕ)
    (market : MarketEvent) :
    ((st.settle config i market).portfolio.position symbol).Sound ∧
      (st.settle config i market).portfolio.quantity symbol = st.portfolio.quantity symbol
        + ((st.settlement config market).1.map FillEvent.signed_quantity).getD 0 := by
  simp only [LoopState.settle, LoopState.portfolio_book]
  cases hfill : (st.settlement config market).1 with
  | none => simpa using h.sound
  | some fill =>
    obtain ⟨hwhole, hpos, rfl⟩ := h.of_settlement hfill
    have hsettled := PositionState.take_fill_settled (st.portfolio.position fill.symbol) fill i
      h.sound hwhole hpos
    have hposition := st.portfolio.position_apply_fill_self fill i
    simp only [Option.elim_some, Portfolio.quantity, Option.map_some, Option.getD_some, hposition]
    exact ⟨hsettled.sound, hsettled.quantity⟩

/-- Observing a bar moves the quantity by its fill. -/
theorem WholeState.quantity_observe (h : WholeState symbol st) (config : BacktestConfig) (i : ℕ)
    (market : MarketEvent) :
    (st.observe symbol config i market).portfolio.quantity symbol = st.portfolio.quantity symbol
      + ((st.settlement config market).1.map FillEvent.signed_quantity).getD 0 := by
  rw [← (h.settle config i market).2]
  simp [LoopState.observe]

theorem WholeState.observe (h : WholeState symbol st) (config : BacktestConfig) (i : ℕ)
    (market : MarketEvent) :
    WholeState symbol (st.observe symbol config i market) := by
  refine ⟨?_, fun order horder => by cases horder⟩
  have := (h.settle config i market).1
  simpa [LoopState.observe] using this

theorem WholeState.place (h : WholeState symbol st) (market : MarketEvent)
    (execution_timestamp : Timestamp) {decision : TargetDecision × σ}
    (hwhole : Whole decision.1.1) :
    WholeState symbol (st.place symbol market execution_timestamp decision) := by
  refine ⟨h.sound, fun order horder => ?_⟩
  obtain ⟨-, -, hsym, hquantity, -, -⟩ := pending_order_eq_some horder
  exact ⟨hquantity ▸ (hwhole.sub h.sound.whole).abs, hsym⟩

/-- **The close-out ends flat**: it sells or covers exactly what is held. -/
theorem WholeState.liquidate (h : WholeState symbol st) (last : Bar) (bar_count : ℕ) :
    (liquidate symbol last config bar_count st).portfolio.quantity symbol = 0 := by
  by_cases hflat : (st.portfolio.position symbol).is_flat = true
  · simp only [Quantora.liquidate, if_pos hflat]
    exact PositionState.is_flat_iff.mp hflat
  have hopen : st.portfolio.quantity symbol ≠ 0 := fun h => hflat (PositionState.is_flat_iff.mpr h)
  have hsettled := PositionState.take_fill_settled (st.portfolio.position symbol)
    (liquidation_fill symbol last config (st.portfolio.position symbol)) (bar_count - 1) h.sound
    h.sound.whole.abs (abs_pos.mpr hopen)
  have hposition := st.portfolio.position_apply_fill_self
    (liquidation_fill symbol last config (st.portfolio.position symbol)) (bar_count - 1)
  have hsymbol : (liquidation_fill symbol last config
      (st.portfolio.position symbol)).symbol = symbol := rfl
  rw [hsymbol] at hposition
  simp only [Quantora.liquidate, if_neg hflat, LoopState.book]
  rw [Portfolio.quantity, hposition, hsettled.quantity]
  -- The closing fill is the position with the other sign.
  simp only [FillEvent.signed_quantity, liquidation_fill]
  by_cases hlong : (st.portfolio.position symbol).quantity > 0
  · rw [if_pos hlong, abs_of_pos hlong, OrderSide.sign_SELL]
    push_cast
    ring
  · rw [if_neg hlong, abs_of_nonpos (not_lt.mp hlong), OrderSide.sign_BUY]
    push_cast
    ring

end Settle

end Quantora
