import Quantora.Framework.Projection
import Quantora.Backtest.Steps

/-! # Symbols do not interfere

    A portfolio holds several symbols, and fills of different symbols may arrive
    in any order. What one symbol sees of the portfolio (`SymbolBooks`: its
    position and its trades) changes with its own fills and as a function of
    itself; the cash and the totals are sums over all fills.

    `symbols_do_not_interfere` puts the two together: the books of a symbol are
    those of its own fills alone, and a reordering that keeps the order within
    each symbol changes neither the books nor the totals. -/

namespace Quantora

/-- Every trade that a fill closes is a trade of the position's symbol. -/
theorem PositionState.symbol_of_take_fill {position : PositionState} {fill : FillEvent}
    {bar_index : ℕ} {trade : Trade} (h : trade ∈ (position.take_fill fill bar_index).2) :
    trade.symbol = position.symbol := by
  unfold take_fill at h
  split at h
  · cases h
  split at h
  · cases h
  -- Reducing and reversing close one trade, the same in both cases.
  have htrade : trade = (position.close fill (min |fill.signed_quantity| |position.quantity|)
      fill.total_cost bar_index).2 := by
    simp only at h
    split at h <;> exact List.mem_singleton.mp h
  rw [htrade]
  rfl

namespace Portfolio

/-! ## What one symbol sees -/

/-- The position in a symbol and the trades that closed it. -/
structure SymbolBooks where
  position : PositionState
  trades : List Trade

/-- The books of one symbol. -/
def books (p : Portfolio) (symbol : String) : SymbolBooks where
  position := p.position symbol
  trades := p.trades.filter (fun trade => trade.symbol = symbol)

/-- A fill of the symbol, seen from its books. -/
def SymbolBooks.take_fill (b : SymbolBooks) (f : FillEvent × ℕ) : SymbolBooks where
  position := (b.position.take_fill f.1 f.2).1
  trades := b.trades ++ (b.position.take_fill f.1 f.2).2

/-- **Step lemma**: a symbol's books take its fills on their own. -/
theorem books_apply_fill (p : Portfolio) (f : FillEvent × ℕ) {symbol : String}
    (h : f.1.symbol = symbol) :
    (p.apply_fill f.1 f.2).books symbol = (p.books symbol).take_fill f := by
  subst h
  have hclosed : ((p.position f.1.symbol).take_fill f.1 f.2).2.filter
      (fun trade => trade.symbol = f.1.symbol) = ((p.position f.1.symbol).take_fill f.1 f.2).2 := by
    rw [List.filter_eq_self]
    intro trade htrade
    have hsymbol := PositionState.symbol_of_take_fill htrade
    rw [position_symbol] at hsymbol
    exact decide_eq_true hsymbol
  simp only [books, SymbolBooks.take_fill, position_apply_fill_self]
  congr 1
  show (p.trades ++ ((p.position f.1.symbol).take_fill f.1 f.2).2).filter _ = _
  rw [List.filter_append, hclosed]

theorem position_apply_fill_of_ne (p : Portfolio) (fill : FillEvent) (bar_index : ℕ)
    {symbol : String} (h : fill.symbol ≠ symbol) :
    (p.apply_fill fill bar_index).position symbol = p.position symbol := by
  have hsym : ((p.position fill.symbol).take_fill fill bar_index).1.symbol = fill.symbol := by
    rw [PositionState.take_fill_symbol, position_symbol]
  have hne : symbol ≠ ((p.position fill.symbol).take_fill fill bar_index).1.symbol := by
    rw [hsym]
    exact h.symm
  have hget := p.positions.get?_upsert_of_ne hne
  rw [position, apply_fill]
  simp only
  rw [hget]
  rfl

/-- **Frame**: a fill of another symbol leaves the books alone. -/
theorem books_apply_fill_of_ne (p : Portfolio) (f : FillEvent × ℕ) {symbol : String}
    (h : f.1.symbol ≠ symbol) : (p.apply_fill f.1 f.2).books symbol = p.books symbol := by
  have hclosed : ((p.position f.1.symbol).take_fill f.1 f.2).2.filter
      (fun trade => trade.symbol = symbol) = [] := by
    rw [List.filter_eq_nil_iff]
    intro trade htrade
    have hsymbol := PositionState.symbol_of_take_fill htrade
    rw [position_symbol] at hsymbol
    simpa [hsymbol] using h
  simp only [books, p.position_apply_fill_of_ne f.1 f.2 h]
  congr 1
  show (p.trades ++ ((p.position f.1.symbol).take_fill f.1 f.2).2).filter _ = _
  rw [List.filter_append, hclosed, List.append_nil]

/-! ## The totals -/

/-- The fields that every fill adds to, whatever its symbol. -/
structure Totals where
  cash : ℚ
  commission : ℚ
  slippage : ℚ
  traded_notional : ℚ

def totals (p : Portfolio) : Totals where
  cash := p.cash
  commission := p.total_commission
  slippage := p.total_slippage
  traded_notional := p.total_traded_notional

/-- The totals of `p` with the contributions of the fills added. -/
def totals_with (p : Portfolio) (fills : List (FillEvent × ℕ)) : Totals where
  cash := p.cash + (fills.map fun f => f.1.cash_delta).sum
  commission := p.total_commission + (fills.map fun f => f.1.commission).sum
  slippage := p.total_slippage + (fills.map fun f => f.1.slippage_cost).sum
  traded_notional := p.total_traded_notional + (fills.map fun f => |f.1.notional|).sum

@[simp] theorem cash_apply_fill (p : Portfolio) (fill : FillEvent) (bar_index : ℕ) :
    (p.apply_fill fill bar_index).cash = p.cash + fill.cash_delta := rfl

@[simp] theorem total_commission_apply_fill (p : Portfolio) (fill : FillEvent) (bar_index : ℕ) :
    (p.apply_fill fill bar_index).total_commission = p.total_commission + fill.commission := rfl

@[simp] theorem total_slippage_apply_fill (p : Portfolio) (fill : FillEvent) (bar_index : ℕ) :
    (p.apply_fill fill bar_index).total_slippage = p.total_slippage + fill.slippage_cost := rfl

@[simp] theorem total_traded_notional_apply_fill (p : Portfolio) (fill : FillEvent)
    (bar_index : ℕ) : (p.apply_fill fill bar_index).total_traded_notional
      = p.total_traded_notional + |fill.notional| := rfl

theorem totals_apply_all (p : Portfolio) (fills : List (FillEvent × ℕ)) :
    (p.apply_all fills).totals = p.totals_with fills := by
  unfold totals totals_with apply_all
  congr 1
  · exact Projection.foldl_add (fun p f => cash_apply_fill p f.1 f.2) fills p
  · exact Projection.foldl_add (fun p f => total_commission_apply_fill p f.1 f.2) fills p
  · exact Projection.foldl_add (fun p f => total_slippage_apply_fill p f.1 f.2) fills p
  · exact Projection.foldl_add (fun p f => total_traded_notional_apply_fill p f.1 f.2) fills p

/-- The contributions do not depend on the order of the fills. -/
theorem totals_with_perm (p : Portfolio) {fills fills' : List (FillEvent × ℕ)}
    (h : fills.Perm fills') : p.totals_with fills = p.totals_with fills' := by
  simp only [totals_with, (h.map _).sum_eq]

/-! ## Any interleaving -/

/-- **Symbols do not interfere.** After any fills on any symbols, the books of
    each symbol are those of its own fills alone, and the totals are the initial
    ones plus what each fill contributes. Fills of different symbols may be
    reordered without a change to either. -/
theorem symbols_do_not_interfere (p : Portfolio) (fills : List (FillEvent × ℕ)) :
    (∀ symbol, (p.apply_all fills).books symbol
      = (p.apply_all (fills.filter fun f => f.1.symbol = symbol)).books symbol) ∧
    (p.apply_all fills).totals = p.totals_with fills ∧
    (∀ fills', Projection.Reordered (fun f => f.1.symbol) fills fills' →
      (∀ symbol, (p.apply_all fills').books symbol = (p.apply_all fills).books symbol) ∧
      (p.apply_all fills').totals = (p.apply_all fills).totals) := by
  -- Of any fills, so that both orders can be projected.
  have halone : ∀ (gs : List (FillEvent × ℕ)) symbol, (p.apply_all gs).books symbol
      = (p.apply_all (gs.filter fun f => f.1.symbol = symbol)).books symbol := by
    intro gs symbol
    exact Projection.foldl_filter (fun (p : Portfolio) => p.books symbol)
      (fun f => decide (f.1.symbol = symbol)) SymbolBooks.take_fill
      (fun p f hf => p.books_apply_fill f (of_decide_eq_true hf))
      (fun p f hf => p.books_apply_fill_of_ne f (of_decide_eq_false hf)) gs p
  refine ⟨halone fills, p.totals_apply_all fills, fun fills' hreordered => ⟨?_, ?_⟩⟩
  · intro symbol
    rw [halone fills', halone fills, hreordered symbol]
  · rw [totals_apply_all, totals_apply_all, p.totals_with_perm hreordered.perm]

end Portfolio

end Quantora
