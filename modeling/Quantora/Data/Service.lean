import Quantora.Framework.Outcome
import Quantora.Data.Validation
import Quantora.Python.Dates
import Quantora.Python.Rounded

/-! # The data service

    `data/service.py` and `data/universe.py`: `get_prices` resolves the symbol,
    fetches, trims, adjusts and validates, and stamps where the bars came from.

    The provider is a parameter: `fetch` is what the `PriceProvider` protocol
    promises, a frame in the canonical columns or a `ProviderError`.

    * `apply_adjustment` — with the ratio and the products as the machine rounds
      them.
    * `get_prices` — a validated series. No rule rejects an infinite price.
    * `load_prices` — the series as the numbers that the engine computes with. -/

namespace Quantora

/-- `data/errors.py`. -/
inductive DataError where
  | UnknownSymbolError (symbol : String) (known : List String)
  | InvalidRequestError (message : String)
  | ProviderError (message : String)
  | DataValidationError (symbol : String) (violations : List Violation)
  /-- `timedelta` past the last day of year 9999. -/
  | OverflowError
  deriving DecidableEq, Repr

/-! ## The universe -/

structure Instrument where
  symbol : String
  provider_ticker : String
  deriving DecidableEq, Repr

def INSTRUMENTS : List Instrument :=
  [⟨"NIFTY", "^NSEI"⟩, ⟨"BANKNIFTY", "^NSEBANK"⟩, ⟨"RELIANCE.NS", "RELIANCE.NS"⟩,
    ⟨"TCS.NS", "TCS.NS"⟩, ⟨"HDFCBANK.NS", "HDFCBANK.NS"⟩, ⟨"INFY.NS", "INFY.NS"⟩,
    ⟨"ICICIBANK.NS", "ICICIBANK.NS"⟩]

/-- Resolve a user-facing symbol to its instrument definition. -/
def get_instrument (symbol : String) : Except DataError Instrument :=
  match INSTRUMENTS.find? (fun instrument => instrument.symbol = symbol) with
  | some instrument => .ok instrument
  | none => .error (.UnknownSymbolError symbol (INSTRUMENTS.map Instrument.symbol))

theorem symbol_of_get_instrument {symbol : String} {instrument : Instrument}
    (h : get_instrument symbol = .ok instrument) : instrument.symbol = symbol := by
  unfold get_instrument at h
  cases hfind : INSTRUMENTS.find? (fun instrument => instrument.symbol = symbol) with
  | none =>
    rw [hfind] at h
    cases h
  | some found =>
    rw [hfind] at h
    cases h
    simpa using List.find?_some hfind

/-! ## Requests -/

def SUPPORTED_INTERVALS : List String := ["1d", "1wk", "1mo", "1h", "30m", "15m", "5m"]

/-- `_as_iso_date` of a text. -/
def as_iso_date (rt : Runtime) (value field : String) : Except DataError Python.Date :=
  match Python.Date.fromisoformat value with
  | some date => .ok date
  | none => .error (.InvalidRequestError (field ++ " must be an ISO date (YYYY-MM-DD), got "
      ++ rt.repr (.str value) ++ "."))

inductive AdjustmentPolicy where
  | raw
  | split_and_dividend_adjusted
  deriving DecidableEq, Repr

def AdjustmentPolicy.label : AdjustmentPolicy → String
  | raw => "raw"
  | split_and_dividend_adjusted => "split_and_dividend_adjusted"

/-- Back-adjust OHLC by the adjusted-close ratio. -/
def apply_adjustment (frame : RawFrame) : RawFrame :=
  frame.map fun bar =>
    let ratio := (bar.adj_close.div bar.close).rounded
    { bar with
      open_ := (bar.open_.mul ratio).rounded
      high := (bar.high.mul ratio).rounded
      low := (bar.low.mul ratio).rounded
      close := bar.adj_close }

def AdjustmentPolicy.apply : AdjustmentPolicy → RawFrame → RawFrame
  | raw, frame => frame
  | split_and_dividend_adjusted, frame => apply_adjustment frame

structure PriceProvider where
  name : String
  /-- `fetch(provider_ticker, start, end, interval)`. -/
  fetch : String → String → String → String → Except DataError RawFrame

/-- The bars of the requested window, `end` included. -/
def trim_window (start end_ : Python.Date) (frame : RawFrame) : RawFrame :=
  frame.filter fun bar =>
    start.midnight ≤ bar.timestamp ∧ bar.timestamp < end_.midnight + 86400000000000

/-- Validated bars for one instrument, as they are returned. -/
structure RawSeries where
  symbol : String
  interval : String
  frame : RawFrame
  provenance : Provenance
  deriving DecidableEq

/-- Fetch validated OHLCV bars for one instrument. -/
def get_prices (rt : Runtime) (provider : PriceProvider) (symbol start end_ interval : String)
    (adjustment : AdjustmentPolicy := .split_and_dividend_adjusted) :
    Except DataError RawSeries := do
  let instrument ← get_instrument symbol
  if interval ∉ SUPPORTED_INTERVALS then
    .error (.InvalidRequestError ("Unsupported interval " ++ rt.repr (.str interval)
      ++ ". Supported: " ++ ", ".intercalate SUPPORTED_INTERVALS ++ "."))
  else do
    let start ← as_iso_date rt start "start"
    let end_ ← as_iso_date rt end_ "end"
    if end_.isoformat < start.isoformat then
      .error (.InvalidRequestError ("start (" ++ start.isoformat ++ ") must not be after end ("
        ++ end_.isoformat ++ ")."))
    else
      match end_.next_day with
      | none => .error .OverflowError
      | some fetch_end => do
        let fetched ← provider.fetch instrument.provider_ticker start.isoformat
          fetch_end.isoformat interval
        let frame := adjustment.apply (trim_window start end_ fetched)
        if violations frame ≠ [] then .error (.DataValidationError symbol (violations frame))
        else
          .ok
            { symbol := instrument.symbol
              interval := interval
              frame := frame
              provenance :=
                { provider := provider.name
                  provider_ticker := instrument.provider_ticker
                  adjustment_policy := adjustment.label
                  requested_start := start.isoformat
                  requested_end := end_.isoformat } }

/-! ## The series that the engine reads -/

/-- The series in numbers, if every cell is one. -/
def RawSeries.numbers (series : RawSeries) : Option PriceSeries :=
  (PriceFrame.of_raw series.frame).map fun frame =>
    ⟨series.symbol, series.interval, frame, series.provenance⟩

/-- Why the engine has no series to read. -/
inductive LoadError where
  | data (error : DataError)
  /-- Not an error of the source: what the engine makes of an infinite price is
      not modelled. -/
  | infinite_price
  deriving DecidableEq, Repr

/-- `get_prices`, for the engine. -/
def load_prices (rt : Runtime) (provider : PriceProvider) (symbol start end_ interval : String)
    (adjustment : AdjustmentPolicy := .split_and_dividend_adjusted) :
    Except LoadError PriceSeries :=
  match get_prices rt provider symbol start end_ interval adjustment with
  | .error error => .error (.data error)
  | .ok series =>
    match series.numbers with
    | none => .error .infinite_price
    | some series => .ok series

/-! ## What a request determines -/

theorem as_iso_date_eq_ok {rt : Runtime} {value field : String} {date : Python.Date} :
    as_iso_date rt value field = .ok date ↔ Python.Date.fromisoformat value = some date := by
  unfold as_iso_date
  cases Python.Date.fromisoformat value with
  | none => simp
  | some found => simp

/-- A series records the request it answers: its symbol, its interval and its
    window, the dates in their canonical form. -/
structure Answers (symbol start end_ interval : String) (series : PriceSeries) : Prop where
  symbol_eq : series.symbol = symbol
  known : ∃ instrument, get_instrument symbol = .ok instrument
  interval_eq : series.interval = interval
  supported : interval ∈ SUPPORTED_INTERVALS
  requested_start : ∃ date, Python.Date.fromisoformat start = some date ∧
    series.provenance.requested_start = date.isoformat
  requested_end : ∃ date, Python.Date.fromisoformat end_ = some date ∧
    series.provenance.requested_end = date.isoformat
  ordered : ¬ series.provenance.requested_end < series.provenance.requested_start

/-- What a request that succeeds has passed, the frame it fetched, and the series
    that it returns. -/
theorem exists_fetched_of_get_prices {rt : Runtime} {provider : PriceProvider}
    {symbol start end_ interval : String} {adjustment : AdjustmentPolicy} {series : RawSeries}
    (h : get_prices rt provider symbol start end_ interval adjustment = .ok series) :
    ∃ instrument first last fetch_end fetched, get_instrument symbol = .ok instrument ∧
      interval ∈ SUPPORTED_INTERVALS ∧
      Python.Date.fromisoformat start = some first ∧ Python.Date.fromisoformat end_ = some last ∧
      ¬ last.isoformat < first.isoformat ∧ last.next_day = some fetch_end ∧
      provider.fetch instrument.provider_ticker first.isoformat fetch_end.isoformat interval
        = .ok fetched ∧
      violations (adjustment.apply (trim_window first last fetched)) = [] ∧
      series = ⟨instrument.symbol, interval, adjustment.apply (trim_window first last fetched),
        ⟨provider.name, instrument.provider_ticker, adjustment.label, first.isoformat,
          last.isoformat⟩⟩ := by
  obtain ⟨instrument, hinstrument, h⟩ := Outcome.bind_eq_ok.mp h
  by_cases hinterval : interval ∉ SUPPORTED_INTERVALS
  · rw [if_pos hinterval] at h
    cases h
  rw [if_neg hinterval] at h
  obtain ⟨first, hfirst, h⟩ := Outcome.bind_eq_ok.mp h
  obtain ⟨last, hlast, h⟩ := Outcome.bind_eq_ok.mp h
  by_cases horder : last.isoformat < first.isoformat
  · rw [if_pos horder] at h
    cases h
  rw [if_neg horder] at h
  cases hnext : last.next_day with
  | none =>
    rw [hnext] at h
    cases h
  | some fetch_end =>
    rw [hnext] at h
    obtain ⟨fetched, hfetched, h⟩ := Outcome.bind_eq_ok.mp h
    by_cases hvalid : violations (adjustment.apply (trim_window first last fetched)) ≠ []
    · simp only [if_pos hvalid] at h
      cases h
    simp only [if_neg hvalid] at h
    exact ⟨instrument, first, last, fetch_end, fetched, hinstrument, not_not.mp hinterval,
      as_iso_date_eq_ok.mp hfirst, as_iso_date_eq_ok.mp hlast, horder, hnext, hfetched,
      not_not.mp hvalid, (Except.ok.inj h).symm⟩

/-- A series that is loaded is one that `get_prices` returns. -/
theorem load_prices_eq_ok {rt : Runtime} {provider : PriceProvider}
    {symbol start end_ interval : String} {adjustment : AdjustmentPolicy} {series : PriceSeries}
    (h : load_prices rt provider symbol start end_ interval adjustment = .ok series) :
    ∃ returned, get_prices rt provider symbol start end_ interval adjustment = .ok returned ∧
      returned.numbers = some series := by
  unfold load_prices at h
  cases hprices : get_prices rt provider symbol start end_ interval adjustment with
  | error error =>
    rw [hprices] at h
    cases h
  | ok returned =>
    rw [hprices] at h
    simp only at h
    cases hnumbers : returned.numbers with
    | none =>
      rw [hnumbers] at h
      cases h
    | some found =>
      rw [hnumbers] at h
      exact ⟨returned, rfl, hnumbers.trans (congrArg some (Except.ok.inj h))⟩

/-- The request that a series answers, the frame that was fetched, and the numbers
    that are left of it. -/
theorem exists_fetched_of_load_prices {rt : Runtime} {provider : PriceProvider}
    {symbol start end_ interval : String} {adjustment : AdjustmentPolicy} {series : PriceSeries}
    (h : load_prices rt provider symbol start end_ interval adjustment = .ok series) :
    ∃ instrument first last fetch_end fetched frame, get_instrument symbol = .ok instrument ∧
      interval ∈ SUPPORTED_INTERVALS ∧
      Python.Date.fromisoformat start = some first ∧ Python.Date.fromisoformat end_ = some last ∧
      ¬ last.isoformat < first.isoformat ∧ last.next_day = some fetch_end ∧
      provider.fetch instrument.provider_ticker first.isoformat fetch_end.isoformat interval
        = .ok fetched ∧
      violations (adjustment.apply (trim_window first last fetched)) = [] ∧
      PriceFrame.of_raw (adjustment.apply (trim_window first last fetched)) = some frame ∧
      series = ⟨instrument.symbol, interval, frame, ⟨provider.name, instrument.provider_ticker,
        adjustment.label, first.isoformat, last.isoformat⟩⟩ := by
  obtain ⟨returned, hprices, hnumbers⟩ := load_prices_eq_ok h
  obtain ⟨instrument, first, last, fetch_end, fetched, hinstrument, hinterval, hfirst, hlast,
    horder, hnext, hfetched, hvalid, rfl⟩ := exists_fetched_of_get_prices hprices
  obtain ⟨frame, hframe, rfl⟩ := Option.map_eq_some_iff.mp hnumbers
  exact ⟨instrument, first, last, fetch_end, fetched, frame, hinstrument, hinterval, hfirst,
    hlast, horder, hnext, hfetched, hvalid, hframe, rfl⟩

theorem answers_of_load_prices {rt : Runtime} {provider : PriceProvider}
    {symbol start end_ interval : String} {adjustment : AdjustmentPolicy} {series : PriceSeries}
    (h : load_prices rt provider symbol start end_ interval adjustment = .ok series) :
    Answers symbol start end_ interval series := by
  obtain ⟨instrument, first, last, fetch_end, fetched, frame, hinstrument, hinterval, hfirst,
    hlast, horder, -, -, -, -, rfl⟩ := exists_fetched_of_load_prices h
  exact
    { symbol_eq := symbol_of_get_instrument hinstrument
      known := ⟨instrument, hinstrument⟩
      interval_eq := rfl
      supported := hinterval
      requested_start := ⟨first, hfirst, rfl⟩
      requested_end := ⟨last, hlast, rfl⟩
      ordered := horder }

/-- The bars that the engine reads have positive prices. -/
theorem positive_of_load_prices {rt : Runtime} {provider : PriceProvider}
    {symbol start end_ interval : String} {adjustment : AdjustmentPolicy} {series : PriceSeries}
    (h : load_prices rt provider symbol start end_ interval adjustment = .ok series) :
    ∀ bar ∈ series.frame.bars, bar.Positive := by
  obtain ⟨instrument, first, last, fetch_end, fetched, frame, -, -, -, -, -, -, -, hvalid, hframe,
    rfl⟩ := exists_fetched_of_load_prices h
  exact PriceFrame.positive_of_raw hvalid hframe

/-- Texts of the same dates ask for the same bars. -/
theorem load_prices_congr {rt : Runtime} {provider : PriceProvider} {symbol interval : String}
    {start end_ start' end_' : String} {first last : Python.Date}
    (hstart : Python.Date.fromisoformat start = some first)
    (hend : Python.Date.fromisoformat end_ = some last)
    (hstart' : Python.Date.fromisoformat start' = some first)
    (hend' : Python.Date.fromisoformat end_' = some last) :
    load_prices rt provider symbol start' end_' interval
      = load_prices rt provider symbol start end_ interval := by
  simp only [load_prices, get_prices, as_iso_date, hstart, hend, hstart', hend']

end Quantora
