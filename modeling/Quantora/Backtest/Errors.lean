import Quantora.Backtest.Runner

/-! # What an error says

    The text and the class of every error that a run can end with: `str(exc)`
    and `type(exc).__name__`. -/

namespace Quantora

open Python (PyError)

/-- `str(exc)` of `data/errors.py`. -/
def DataError.message (rt : Runtime) : DataError → String
  | UnknownSymbolError symbol known =>
    "Unknown symbol " ++ rt.repr (.str symbol) ++ ". Known symbols: " ++ ", ".intercalate known
      ++ ". Symbols outside the configured universe are rejected rather than "
      ++ "passed through to the provider untested."
  | InvalidRequestError message => message
  | ProviderError message => message
  | DataValidationError symbol violations =>
    "Market data for " ++ symbol ++ " failed validation: "
      ++ "; ".intercalate (violations.map (fun v => v.rule ++ " (" ++ toString v.row_count
        ++ " row(s))"))
      ++ ". The data was not repaired or partially used — fix the source or narrow the date range."
  | OverflowError => "date value out of range"

def DataError.type_name : DataError → String
  | UnknownSymbolError _ _ => "UnknownSymbolError"
  | InvalidRequestError _ => "InvalidRequestError"
  | ProviderError _ => "ProviderError"
  | DataValidationError _ _ => "DataValidationError"
  | OverflowError => "OverflowError"

/-- `str(exc)` of the strategy layer. -/
def StrategyError.message (rt : Runtime) : StrategyError → String
  | InsufficientDataError strategy required available =>
    "Strategy " ++ rt.repr (.str strategy) ++ " needs at least " ++ toString required
      ++ " bars to warm up its indicators but only " ++ toString available
      ++ " were supplied. Widen the date range, or lower the strategy's lookback parameters."
  | InvalidParametersError message => message
  | PairDataMissingError strategy pair_symbol =>
    "Strategy " ++ rt.repr (.str strategy) ++ " needs price bars for its second leg "
      ++ rt.repr (.str pair_symbol) ++ " before it can generate signals, and none were supplied. "
      ++ "Load them with `load_pair_series(pair_symbol, start, end, interval)` from "
      ++ "services.quant.strategies.pair_trading, then inject them with "
      ++ "`strategy.set_pair_series(series)` — or pass `pair_series=` to the "
      ++ "constructor — before calling generate_signals()."
  | UnknownStrategyError name known =>
    "Unknown strategy " ++ rt.repr (.str name) ++ ". Available: "
      ++ (if known = [] then "none" else ", ".intercalate known) ++ "."
  -- The type of the object, which the text begins with, is not kept.
  | AttributeError name => "object has no attribute '" ++ name ++ "'"
  | NotImplementedError message => message
  | OverflowError message => message

def StrategyError.type_name : StrategyError → String
  | InsufficientDataError _ _ _ => "InsufficientDataError"
  | InvalidParametersError _ => "InvalidParametersError"
  | PairDataMissingError _ _ => "PairDataMissingError"
  | UnknownStrategyError _ _ => "UnknownStrategyError"
  | AttributeError _ => "AttributeError"
  | NotImplementedError _ => "NotImplementedError"
  | OverflowError _ => "OverflowError"

/-- `str(exc)` of the exceptions of the language. -/
def Python.PyError.message : PyError → String
  | .ValueError message => message
  | .AssertionError message => message
  | .RuntimeError message => message
  | .IndexError => "single positional indexer is out-of-bounds"
  | .ZeroDivisionError => "float division by zero"
  | .OverflowError message => message

def Python.PyError.type_name : PyError → String
  | .ValueError _ => "ValueError"
  | .AssertionError _ => "AssertionError"
  | .RuntimeError _ => "RuntimeError"
  | .IndexError => "IndexError"
  | .ZeroDivisionError => "ZeroDivisionError"
  | .OverflowError _ => "OverflowError"

def EngineError.message (rt : Runtime) : EngineError → String
  | data error => error.message rt
  -- Not an error of the source.
  | infinite_price => "infinite price"
  | strategy error => error.message rt
  | python error => error.message

def EngineError.type_name : EngineError → String
  | data error => error.type_name
  | infinite_price => "infinite price"
  | strategy error => error.type_name
  | python error => error.type_name

end Quantora
