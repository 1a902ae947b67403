import Mathlib.Tactic.Ring
import Quantora.Python.Conversions

/-! # Market data

    `data/types.py`: the shape every component consumes. A frame is a list of
    bars on a strictly increasing index; a series is a frame with its symbol,
    its interval and where it came from.

    `data_version` hashes the bar values, rounded to six decimals. The hash
    function is a parameter. -/

namespace Quantora

/-- One row of a price frame. -/
structure Bar where
  timestamp : Timestamp
  open_ : ℚ
  high : ℚ
  low : ℚ
  close : ℚ
  adj_close : ℚ
  volume : ℚ
  deriving DecidableEq, Repr

/-- A bar whose prices are all positive. -/
structure Bar.Positive (bar : Bar) : Prop where
  open_ : 0 < bar.open_
  high : 0 < bar.high
  low : 0 < bar.low
  close : 0 < bar.close

/-- A frame of bars on a strictly increasing index. -/
structure PriceFrame where
  bars : List Bar
  increasing : bars.Pairwise (fun a b => a.timestamp < b.timestamp)
  deriving DecidableEq

def PriceFrame.index (frame : PriceFrame) : List Timestamp := frame.bars.map Bar.timestamp

theorem PriceFrame.index_increasing (frame : PriceFrame) : frame.index.Pairwise (· < ·) :=
  List.pairwise_map.mpr frame.increasing

/-- Where a dataset came from and how it was treated. -/
structure Provenance where
  provider : String
  provider_ticker : String
  adjustment_policy : String
  requested_start : String
  requested_end : String
  deriving DecidableEq, Repr

/-- Validated bars for one instrument, with their provenance. -/
structure PriceSeries where
  symbol : String
  interval : String
  frame : PriceFrame
  provenance : Provenance
  deriving DecidableEq

/-! ## The data version -/

/-- `round(x, 6)`: to the nearest millionth, ties to even. -/
def round6 (x : ℚ) : ℚ :=
  (if x < 0 then -1 else 1) * (Python.round_half_even (|x| * 1000000) : ℚ) / 1000000

/-- At most six decimals. -/
def SixDecimals (x : ℚ) : Prop := ∃ n : ℤ, x * 1000000 = n

instance (x : ℚ) : Decidable (SixDecimals x) :=
  decidable_of_iff ((x * 1000000).den = 1)
    ⟨fun h => ⟨_, ((Rat.den_eq_one_iff _).mp h).symm⟩, by
      rintro ⟨n, hn⟩
      rw [hn, Rat.den_intCast]⟩

theorem round_half_even_natCast (n : ℕ) : Python.round_half_even n = n := by
  have hfloor : ⌊(n : ℚ)⌋.toNat = n := by simp
  simp only [Python.round_half_even, hfloor, sub_self]
  norm_num

/-- Rounding changes nothing that has no more decimals. -/
theorem round6_eq {x : ℚ} (h : SixDecimals x) : round6 x = x := by
  obtain ⟨n, hn⟩ := h
  have habs : |x| * 1000000 = (n.natAbs : ℚ) := by
    rw [Nat.cast_natAbs, Int.cast_abs, ← hn, abs_mul]
    norm_num
  rw [round6, habs, round_half_even_natCast, ← habs]
  by_cases hneg : x < 0
  · rw [if_pos hneg, abs_of_neg hneg]
    ring
  · rw [if_neg hneg, abs_of_nonneg (not_lt.mp hneg)]
    ring

/-- The prices of a bar have at most six decimals. -/
structure Bar.SixDecimals (bar : Bar) : Prop where
  open_ : Quantora.SixDecimals bar.open_
  high : Quantora.SixDecimals bar.high
  low : Quantora.SixDecimals bar.low
  close : Quantora.SixDecimals bar.close
  adj_close : Quantora.SixDecimals bar.adj_close

instance (bar : Bar) : Decidable bar.SixDecimals :=
  decidable_of_iff
    (Quantora.SixDecimals bar.open_ ∧ Quantora.SixDecimals bar.high ∧
      Quantora.SixDecimals bar.low ∧ Quantora.SixDecimals bar.close ∧
      Quantora.SixDecimals bar.adj_close)
    ⟨fun ⟨hopen, hhigh, hlow, hclose, hadj⟩ => ⟨hopen, hhigh, hlow, hclose, hadj⟩,
      fun h => ⟨h.open_, h.high, h.low, h.close, h.adj_close⟩⟩

def PriceSeries.SixDecimals (series : PriceSeries) : Prop :=
  ∀ bar ∈ series.frame.bars, bar.SixDecimals

instance (series : PriceSeries) : Decidable series.SixDecimals :=
  inferInstanceAs (Decidable (∀ bar ∈ series.frame.bars, bar.SixDecimals))

/-- What `data_version` serialises before hashing. -/
structure DataPayload where
  symbol : String
  provider : String
  provider_ticker : String
  interval : String
  adjustment_policy : String
  rows : List (Timestamp × List ℚ)
  deriving DecidableEq, Repr

namespace PriceSeries

/-- One row of the payload, in the order of `OHLCV_COLUMNS`. -/
def payload_row (bar : Bar) : Timestamp × List ℚ :=
  (bar.timestamp, [bar.open_, bar.high, bar.low, bar.close, bar.adj_close, bar.volume].map round6)

def payload (series : PriceSeries) : DataPayload where
  symbol := series.symbol
  provider := series.provenance.provider
  provider_ticker := series.provenance.provider_ticker
  interval := series.interval
  adjustment_policy := series.provenance.adjustment_policy
  rows := series.frame.bars.map payload_row

/-- A content hash identifying exactly this data: `digest` stands for the first
    32 digits of the SHA-256 of the payload's canonical JSON. -/
def data_version (digest : DataPayload → String) (series : PriceSeries) : String :=
  "sha256:" ++ digest series.payload

end PriceSeries

end Quantora
