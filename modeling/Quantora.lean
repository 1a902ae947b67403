import Quantora.Backtest.CostDrag
import Quantora.Backtest.RoundedBuys
import Quantora.Backtest.AverageCost
import Quantora.Backtest.Divisions
import Quantora.Backtest.FiniteMetrics
import Quantora.Backtest.Conservation
import Quantora.Backtest.Interleaving
import Quantora.Backtest.Solvency
import Quantora.Backtest.Tracking
import Quantora.Backtest.Recording
import Quantora.Backtest.Suppression
import Quantora.Cpp.Parity
import Quantora.Strategy.Crossovers
import Quantora.Strategy.MiddleBand
import Quantora.Strategy.PairEntries
import Quantora.Strategy.PairExits
import Quantora.Strategy.Explanations
import Quantora.Strategy.Transitions
import Quantora.Api.Resurrection
import Quantora.Api.Snapshot
import Quantora.Api.Reproducibility
import Quantora.Api.RoundTrip
import Quantora.Api.CostDefaults
import Quantora.Api.StoreRoundTrip
import Quantora.Risk.Comparison
import Quantora.Backtest.Compare
import Quantora.Data.Adjustment
import Quantora.Api.Differences
import Quantora.Api.MemoryStore
import Quantora.Backtest.Drawdown
import Quantora.Strategy.Forgetting
import Quantora.Risk.Allocation
import Quantora.Risk.Wealth
import Quantora.Backtest.Reresolution
import Quantora.Backtest.MetricTable
import Quantora.Api.Journal
import Quantora.Backtest.Currency
import Quantora.Backtest.Hindsight
import Quantora.Risk.Diversification
