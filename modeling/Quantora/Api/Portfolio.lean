import Mathlib.Data.Rat.Defs
import Mathlib.Algebra.Order.Ring.Rat
import Quantora.Go.Strings

/-! # Saved portfolios: domain types

    The Go package `portfolio`: the holdings a user maintains, the request that
    saves them and its validation. Quantities and cost bases are numbers of a
    JSON document, so they are finite.
-/

namespace Quantora

namespace portfolio

/-- A `time.Time`, in nanoseconds. -/
abbrev Time := ℤ

def defaultBenchmark : String := "NIFTY"

def defaultCurrency : String := "INR"

structure Holding where
  Symbol : String
  Quantity : ℚ
  CostBasis : Option ℚ := none
  deriving DecidableEq, Repr

structure Portfolio where
  ID : String
  Name : String
  Description : String
  BaseCurrency : String
  Benchmark : String
  Holdings : List Holding
  CreatedAt : Time
  UpdatedAt : Time
  deriving DecidableEq, Repr

structure SaveRequest where
  Name : String
  Description : String := ""
  BaseCurrency : String := ""
  Benchmark : String := ""
  Holdings : List Holding
  deriving DecidableEq, Repr

/-- What `Service.resolve` reads of an `AnalyzeRequest`. -/
structure AnalyzeRequest where
  PortfolioID : String := ""
  Holdings : List Holding := []
  Benchmark : String := ""
  deriving DecidableEq, Repr

/-- Why a statement failed. The driver's own texts are not modelled. -/
inductive SqlError
  | invalid_text
  | check_violation (constraint : String)
  | unique_violation (constraint : String)
  | foreign_key_violation
  | numeric_overflow
  | invalid_date
  | unavailable
  deriving DecidableEq, Repr

/-- The errors of the package, and a failed database call with its context. -/
inductive Error
  | ErrNotFound (id : String)
  | ErrInvalid (text : String)
  | failed (context : String) (cause : SqlError)
  deriving DecidableEq, Repr

/-- `fmt.Errorf("<context>: %w", err)`. -/
def Error.wrap (context : String) : Error → Error
  | .failed inner cause => .failed (context ++ ": " ++ inner) cause
  | err => err

/-! ## `SaveRequest.Validate` -/

/-- The problems with holding `i`, given the symbols of the earlier ones. -/
def holding_problems (i : ℕ) (h : Holding) (seen : List String) : List String :=
  let symbol := Go.TrimSpace h.Symbol
  if symbol = "" then ["holdings[" ++ toString i ++ "] is missing a symbol"]
  else
    (if symbol ∈ seen then
      [symbol ++ " appears twice; combine the rows into one with the total quantity"] else []) ++
    (if ¬ 0 < h.Quantity then
      ["holdings[" ++ toString i ++ "] (" ++ symbol
        ++ ") needs a positive quantity; short positions are not modelled"] else []) ++
    (if ∃ c ∈ h.CostBasis, c < 0 then
      ["holdings[" ++ toString i ++ "] (" ++ symbol ++ ") has a negative cost basis"] else [])

/-- The loop over the holdings. A holding without a symbol is not remembered. -/
def holdings_problems : ℕ → List String → List Holding → List String
  | _, _, [] => []
  | i, seen, h :: holdings =>
    holding_problems i h seen ++
      holdings_problems (i + 1)
        (if Go.TrimSpace h.Symbol = "" then seen else Go.TrimSpace h.Symbol :: seen) holdings

def SaveRequest.problems (r : SaveRequest) : List String :=
  (if Go.TrimSpace r.Name = "" then ["name is required"] else []) ++
  (if r.Holdings = [] then ["at least one holding is required"] else []) ++
  holdings_problems 0 [] r.Holdings

/-- `SaveRequest.Validate`: the error, if the request is rejected. -/
def SaveRequest.Validate (r : SaveRequest) : Option Error :=
  if r.problems = [] then none else some (.ErrInvalid (Go.join_problems r.problems))

end portfolio

end Quantora
