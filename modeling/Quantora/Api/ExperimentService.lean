import Quantora.Framework.Requests
import Quantora.Api.Backtest
import Quantora.Api.MemoryStore
import Quantora.Api.Rerun

/-! # Experiments: concurrent requests

    The requests that `experiment.Service` and `backtest.Service` serve,
    interleaved. A request is a process that stands before its next statement, or
    waits for the engine; the database runs one statement at a time, and the
    memory store one call.

    * `Process` — where a request stands, with the values it has read.
    * `move` — what it does next: a statement, with or without an answer that
      reaches it, or what it makes of an answer of the engine.
    * `service` — the requests over one database and one memory store.
    * `Moves` — all that a move can do. -/

namespace Quantora

namespace postgres

open experiment (Error Experiment)

/-- `ExperimentRepository.Delete`. -/
def Delete (experiments : Experiments) (id : String) : Except Error Experiments :=
  match text id with
  | .error cause => .error (.failed ("delete experiment " ++ id) cause)
  | .ok id =>
    if (experiments.get? id).isSome then .ok (experiments.filter (fun row => row.id ≠ id))
    else .error (.ErrNotFound id)

variable {input : DateInput} {experiments experiments' : Experiments}

theorem Save_eq_ok {e : Experiment} (h : Save input experiments e = .ok experiments') :
    ∃ row, experiment_row input e = .ok row ∧ experiments.get? row.id = none ∧
      experiments' = experiments.upsert row := by
  unfold Save at h
  cases hrow : experiment_row input e with
  | error cause =>
    rw [hrow] at h
    cases h
  | ok row =>
    rw [hrow] at h
    simp only at h
    split_ifs at h with hsome
    exact ⟨row, rfl, by simpa using hsome, (Except.ok.inj h).symm⟩

theorem Get_eq_ok {id : String} {e : Experiment} (h : Get experiments id = .ok e) :
    ∃ row, experiments.get? id = some row ∧ e = row.experiment := by
  unfold Get at h
  cases htext : text id with
  | error cause =>
    rw [htext] at h
    cases h
  | ok id' =>
    obtain rfl := text_eq_ok htext
    rw [htext] at h
    simp only at h
    cases hget : experiments.get? id' with
    | none =>
      rw [hget] at h
      cases h
    | some row =>
      rw [hget] at h
      exact ⟨row, rfl, (Except.ok.inj h).symm⟩

theorem Delete_eq_ok {id : String} (h : Delete experiments id = .ok experiments') :
    ∃ row, experiments.get? id = some row ∧
      experiments' = experiments.filter (fun row => row.id ≠ id) := by
  unfold Delete at h
  cases htext : text id with
  | error cause =>
    rw [htext] at h
    cases h
  | ok id' =>
    obtain rfl := text_eq_ok htext
    rw [htext] at h
    simp only at h
    split_ifs at h with hsome
    obtain ⟨row, hrow⟩ := Option.isSome_iff_exists.mp hsome
    exact ⟨row, hrow, (Except.ok.inj h).symm⟩

end postgres

/-! ## What is kept of a completed backtest -/

namespace backtest

open experiment (field stringField stringTyped intTyped intField mapField)

/-- A field of type `*float64`: a number, or absent or null. -/
def pointerTyped (result : Go.Any) (name : String) : Bool :=
  match experiment.field result name with
  | none | some .nil | some (.float64 _) => true
  | _ => false

def pointerField (result : Go.Any) (name : String) : Option ℚ :=
  match experiment.field result name with
  | some (.float64 x) => some x
  | _ => none

/-- `json.Unmarshal` into the view of `projectFields` succeeds. -/
def projectable (result : Go.Any) : Bool :=
  let metrics := (experiment.field result "metrics").getD .nil
  (match result with
    | .map _ | .nil => true
    | _ => false)
    && ["symbol", "strategy", "start", "end", "data_version"].all (stringTyped result)
    && experiment.mapTyped result "metrics"
    && ["total_return", "cagr", "sharpe", "max_drawdown"].all (pointerTyped metrics)
    && intTyped metrics "trade_count"

/-- `projectFields`: the few fields that the API reads out of a result. A result
    that does not have them leaves the record as it is. -/
def projectFields (record : Record) : Record :=
  match Go.unmarshal record.Result with
  | none => record
  | some result =>
    if projectable result then
      let metrics := Go.Any.map (mapField result "metrics")
      let orKept := fun (name kept : String) =>
        if stringField result name = "" then kept else stringField result name
      { record with
        Symbol := orKept "symbol" record.Symbol
        Strategy := orKept "strategy" record.Strategy
        Start := orKept "start" record.Start
        End := orKept "end" record.End
        DataVersion := stringField result "data_version"
        MetricsBrief :=
          { TotalReturn := pointerField metrics "total_return"
            CAGR := pointerField metrics "cagr"
            Sharpe := pointerField metrics "sharpe"
            MaxDrawdown := pointerField metrics "max_drawdown"
            TradeCount := intField metrics "trade_count" } }
    else record

/-- The record of a run, before `projectFields`. -/
def Request.record (r : Request) (id : String) (now : Timestamp) (result : Json) : Record where
  ID := id
  Symbol := r.Symbol
  Strategy := r.Strategy
  Start := r.Start
  End := r.End
  DataVersion := ""
  CreatedAt := now
  Result := result
  MetricsBrief := ⟨none, none, none, none, 0⟩

end backtest

namespace experiment

open portfolio (Time)
open postgres (DateInput Experiments ExperimentRow experiment_row)

/-! ## Requests -/

/-- What a caller supplies to persist a run: the identity of a backtest that was
    already run, or the configuration of a new one. -/
structure SaveRequest where
  Name : String := ""
  Notes : String := ""
  BacktestID : String := ""
  Symbol : String := ""
  Strategy : String := ""
  Start : String := ""
  End : String := ""
  Interval : String := ""
  Parameters : Go.Map := []
  InitialCash : ℚ := 0
  CostModel : Option quant.CostModel := none
  ExecutionModel : String := ""
  AllowShort : Bool := false
  LiquidateAtEnd : Option Bool := none
  RiskFreeRate : ℚ := 0

def SaveRequest.problems (r : SaveRequest) : List String :=
  if Go.TrimSpace r.BacktestID ≠ "" then []
  else
    (if Go.TrimSpace r.Symbol = "" then ["symbol is required (or supply backtest_id)"] else [])
    ++ (if Go.TrimSpace r.Strategy = "" then ["strategy is required (or supply backtest_id)"]
      else [])
    ++ (if backtest.isISODate r.Start ∧ backtest.isISODate r.End then []
      else ["start and end must be ISO dates (YYYY-MM-DD)"])

/-- `Validate`: the error, if the request is rejected. -/
def SaveRequest.Validate (r : SaveRequest) : Option Error :=
  if r.problems = [] then none else some (.ErrInvalid (Go.join_problems r.problems))

/-- The request that `Save` posts for a new run. -/
def SaveRequest.posted (r : SaveRequest) : quant.BacktestRequest where
  Symbol := r.Symbol
  Strategy := r.Strategy
  Start := r.Start
  End := r.End
  Interval := orDefault r.Interval "1d"
  Parameters := r.Parameters
  InitialCash := if r.InitialCash ≤ 0 then 1000000 else r.InitialCash
  CostModel := r.CostModel
  ExecutionModel := orDefault r.ExecutionModel "next_bar_open"
  AllowShort := r.AllowShort
  LiquidateAtEnd := r.LiquidateAtEnd.getD true
  RiskFreeRate := r.RiskFreeRate

/-- A request. `newID` and `time.Now` are drawn when it arrives. -/
inductive Request where
  /-- `backtest.Service.Run`. -/
  | Run (id : String) (now : Timestamp) (req : backtest.Request)
  | Save (id : String) (now : Time) (req : SaveRequest)
  | Get (id : String)
  | Delete (id : String)
  | Rerun (id : String)

/-- Why a request failed. -/
inductive Failure where
  | service (error : Error)
  | upstream (error : ApiError)
  | backtest (error : backtest.Error)
  | ErrInvalidRequest (text : String)
  deriving DecidableEq, Repr

inductive Response where
  | ran (record : backtest.Record)
  | saved (exp : Experiment)
  | got (exp : Experiment)
  | deleted (id : String)
  | rerun (outcome : RerunOutcome)

/-- Where a request stands. -/
inductive Process where
  /-- `Run`, at the engine with what it posted. -/
  | backtesting (id : String) (now : Timestamp) (req : backtest.Request)
      (posted : quant.BacktestRequest)
  /-- `Run`, before `store.Save`. -/
  | recording (record : backtest.Record)
  /-- `Save`, before `backtests.Get`. -/
  | promoting (id : String) (now : Time) (req : SaveRequest)
  /-- `Save`, at the engine with what it posted. -/
  | running (id : String) (now : Time) (req : SaveRequest) (posted : quant.BacktestRequest)
  /-- `Save`, before its `INSERT`. -/
  | inserting (exp : Experiment)
  | selecting (id : String)
  | deleting (id : String)
  /-- `Rerun`, before its `SELECT`. -/
  | loading (id : String)
  /-- `Rerun`, at the engine with what it posted. -/
  | rerunning (original : Experiment) (posted : quant.BacktestRequest)
  | finished (result : Except Failure Response)
  /-- The statement had its effect, and the request got an error instead of the
      response. -/
  | unheard (response : Response)

/-- A request up to its first call. -/
def start : Request → Process
  | .Run id now req =>
    match req.Validate with
    | some text => .finished (.error (.ErrInvalidRequest text))
    | none => .backtesting id now req (req.posted id)
  | .Save id now req =>
    match req.Validate with
    | some err => .finished (.error (.service err))
    | none =>
      if Go.TrimSpace req.BacktestID ≠ "" then .promoting id now req
      else .running id now req req.posted
  | .Get id => .selecting id
  | .Delete id => .deleting id
  | .Rerun id => .loading id

/-! ## Moves -/

structure Store where
  experiments : Experiments
  backtests : backtest.MemoryStore

inductive Move where
  /-- The engine answers. -/
  | answer (result : Except ApiError Json)
  /-- The next statement runs. -/
  | advance
  /-- The next statement fails before it has any effect. -/
  | fail
  /-- The next statement runs, and the connection is lost before its answer. -/
  | lose

/-- `Save`, once the result is there. -/
def kept (id : String) (now : Time) (req : SaveRequest) (result : Json) : Process :=
  match experimentFromRaw result with
  | .error err => .finished (.error (.service err))
  | .ok exp => .inserting (exp.named id now req.Name req.Notes)

/-- A failure of the database. -/
def unavailable (context : String) : Process :=
  .finished (.error (.service (.failed context .unavailable)))

/-- What a process does next. -/
def move (input : DateInput) : Move → Store → Process → Option (Store × Process)
  | .answer (.error err), s, .backtesting _ _ _ _ => some (s, .finished (.error (.upstream err)))
  | .answer (.ok result), s, .backtesting id now req _ =>
    some (s, .recording (backtest.projectFields (req.record id now result)))
  | .advance, s, .recording record =>
    some ({ s with backtests := s.backtests.Save record }, .finished (.ok (.ran record)))
  | .advance, s, .promoting id now req =>
    match s.backtests.Get (Go.TrimSpace req.BacktestID) with
    | .error err => some (s, .finished (.error (.backtest err)))
    | .ok record => some (s, kept id now req record.Result)
  | .answer (.error err), s, .running _ _ _ _ => some (s, .finished (.error (.upstream err)))
  | .answer (.ok result), s, .running id now req _ => some (s, kept id now req result)
  | .advance, s, .inserting exp =>
    match postgres.Save input s.experiments exp with
    | .error err => some (s, .finished (.error (.service (err.wrap "persist experiment"))))
    | .ok experiments => some ({ s with experiments := experiments }, .finished (.ok (.saved exp)))
  | .fail, s, .inserting exp =>
    some (s, unavailable ("persist experiment: insert experiment " ++ exp.ID))
  | .lose, s, .inserting exp =>
    match postgres.Save input s.experiments exp with
    | .error _ => none
    | .ok experiments => some ({ s with experiments := experiments }, .unheard (.saved exp))
  | .advance, s, .selecting id =>
    match postgres.Get s.experiments id with
    | .error err => some (s, .finished (.error (.service err)))
    | .ok exp => some (s, .finished (.ok (.got exp)))
  | .fail, s, .selecting id => some (s, unavailable ("load experiment " ++ id))
  | .advance, s, .deleting id =>
    match postgres.Delete s.experiments id with
    | .error err => some (s, .finished (.error (.service err)))
    | .ok experiments => some ({ s with experiments := experiments }, .finished (.ok (.deleted id)))
  | .fail, s, .deleting id => some (s, unavailable ("delete experiment " ++ id))
  | .lose, s, .deleting id =>
    match postgres.Delete s.experiments id with
    | .error _ => none
    | .ok experiments => some ({ s with experiments := experiments }, .unheard (.deleted id))
  | .advance, s, .loading id =>
    match postgres.Get s.experiments id with
    | .error err => some (s, .finished (.error (.service err)))
    | .ok original => some (s, .rerunning original (rerunRequest original))
  | .fail, s, .loading id => some (s, unavailable ("load experiment " ++ id))
  | .answer (.error err), s, .rerunning _ _ => some (s, .finished (.error (.upstream err)))
  | .answer (.ok result), s, .rerunning original _ =>
    some (s, .finished (.ok (.rerun (compareRuns original ((Go.unmarshal result).getD .nil)))))
  | _, _, _ => none

/-- The requests over one database and one memory store. -/
def service (input : DateInput) : Requests.Service Store Process Request Move where
  start := start
  move := move input

abbrev World := Requests.World Store Process

abbrev Action := Requests.Action Request Move

/-- Nothing saved, and nobody connected. -/
def quiet (capacity : ℤ) : World where
  store := { experiments := ∅, backtests := backtest.NewMemoryStore capacity }
  requests := fun _ => none

/-! ## What a move can do -/

/-- The identity that an `INSERT` of the process may still use. -/
def Process.pending : Process → Option String
  | .promoting id _ _ => some id
  | .running id _ _ _ => some id
  | .inserting exp => some exp.ID
  | _ => none

/-- What the process has done, whether its client heard of it or not. -/
def Process.did : Process → Option Response
  | .finished (.ok response) => some response
  | .unheard response => some response
  | _ => none

/-- The result of the engine that a `Save` goes on with: its own, or that of the
    backtest that it names. -/
inductive Process.Receives (s : Store) :
    Process → Move → String → Time → SaveRequest → Json → Prop
  | running (id : String) (now : Time) (req : SaveRequest) (posted : quant.BacktestRequest)
    (result : Json) :
    Receives s (.running id now req posted) (.answer (.ok result)) id now req result
  | promoting (id : String) (now : Time) (req : SaveRequest) (record : backtest.Record)
    (hrecord : s.backtests.Get (Go.TrimSpace req.BacktestID) = .ok record) :
    Receives s (.promoting id now req) .advance id now req record.Result

/-- All that a move can do. -/
inductive Moves (input : DateInput) (s : Store) : Process → Move → Store → Process → Prop
  | failed (process : Process) (m : Move) (err : Failure) (hdid : process.did = none) :
    Moves input s process m s (.finished (.error err))
  | ran (id : String) (now : Timestamp) (req : backtest.Request) (posted : quant.BacktestRequest)
    (result : Json) :
    Moves input s (.backtesting id now req posted) (.answer (.ok result)) s
      (.recording (backtest.projectFields (req.record id now result)))
  | recorded (record : backtest.Record) :
    Moves input s (.recording record) .advance { s with backtests := s.backtests.Save record }
      (.finished (.ok (.ran record)))
  | kept {process : Process} {m : Move} {id : String} {now : Time} {req : SaveRequest}
    {result : Json} {exp : Experiment} (hreceives : process.Receives s m id now req result)
    (hexp : experimentFromRaw result = .ok exp) :
    Moves input s process m s (.inserting (exp.named id now req.Name req.Notes))
  | inserted (exp : Experiment) (m : Move) (row : ExperimentRow) (process : Process)
    (hrow : experiment_row input exp = .ok row) (hnew : s.experiments.get? row.id = none)
    (hdid : process.did = some (.saved exp)) (hpending : process.pending = none) :
    Moves input s (.inserting exp) m { s with experiments := s.experiments.upsert row } process
  | got (id : String) (row : ExperimentRow) (hrow : s.experiments.get? id = some row) :
    Moves input s (.selecting id) .advance s (.finished (.ok (.got row.experiment)))
  | deleted (id : String) (m : Move) (row : ExperimentRow) (process : Process)
    (hrow : s.experiments.get? id = some row) (hdid : process.did = some (.deleted id))
    (hpending : process.pending = none) :
    Moves input s (.deleting id) m
      { s with experiments := s.experiments.filter (fun row => row.id ≠ id) } process
  | loaded (id : String) (row : ExperimentRow) (hrow : s.experiments.get? id = some row) :
    Moves input s (.loading id) .advance s (.rerunning row.experiment (rerunRequest row.experiment))
  | reran (original : Experiment) (posted : quant.BacktestRequest) (result : Json) :
    Moves input s (.rerunning original posted) (.answer (.ok result)) s
      (.finished (.ok (.rerun (compareRuns original ((Go.unmarshal result).getD .nil)))))

theorem moves_kept {input : DateInput} {s : Store} {process : Process} {m : Move} {id : String}
    {now : Time} {req : SaveRequest} {result : Json} (hdid : process.did = none)
    (h : process.Receives s m id now req result) :
    Moves input s process m s (kept id now req result) := by
  unfold kept
  cases hexp : experimentFromRaw result with
  | error err => exact .failed _ _ _ hdid
  | ok exp => exact .kept h hexp

/-- An `INSERT` that ran, whether its answer arrives or not. -/
theorem moves_inserted {input : DateInput} {m : Move} {s : Store} {experiments : Experiments}
    {exp : Experiment} {process : Process}
    (hsave : postgres.Save input s.experiments exp = .ok experiments)
    (hdid : process.did = some (.saved exp)) (hpending : process.pending = none) :
    Moves input s (.inserting exp) m { s with experiments := experiments } process := by
  obtain ⟨row, hrow, hnew, rfl⟩ := postgres.Save_eq_ok hsave
  exact .inserted exp m row process hrow hnew hdid hpending

/-- A `DELETE` that ran. -/
theorem moves_deleted {input : DateInput} {m : Move} {s : Store} {experiments : Experiments}
    {id : String} {process : Process}
    (hdelete : postgres.Delete s.experiments id = .ok experiments)
    (hdid : process.did = some (.deleted id)) (hpending : process.pending = none) :
    Moves input s (.deleting id) m { s with experiments := experiments } process := by
  obtain ⟨row, hrow, rfl⟩ := postgres.Delete_eq_ok hdelete
  exact .deleted id m row process hrow hdid hpending

/-- **Inversion**: a move does one of these things. -/
theorem moves_of_move {input : DateInput} {m : Move} {s s' : Store} {process process' : Process}
    (h : move input m s process = some (s', process')) : Moves input s process m s' process' := by
  unfold move at h
  split at h
  -- `Run`
  · cases h
    exact .failed _ _ _ rfl
  · cases h
    exact .ran ..
  · cases h
    exact .recorded _
  -- `Save`
  · next id now req =>
    split at h
    · cases h
      exact .failed _ _ _ rfl
    · next record hget =>
      cases h
      exact moves_kept rfl (.promoting id now req record hget)
  · cases h
    exact .failed _ _ _ rfl
  · cases h
    exact moves_kept rfl (.running ..)
  · split at h
    · cases h
      exact .failed _ _ _ rfl
    · next hsave =>
      cases h
      exact moves_inserted hsave rfl rfl
  · cases h
    exact .failed _ _ _ rfl
  · split at h
    · cases h
    · next hsave =>
      cases h
      exact moves_inserted hsave rfl rfl
  -- `Get`
  · next id =>
    split at h
    · cases h
      exact .failed _ _ _ rfl
    · next hget =>
      cases h
      obtain ⟨row, hrow, rfl⟩ := postgres.Get_eq_ok hget
      exact .got id row hrow
  · cases h
    exact .failed _ _ _ rfl
  -- `Delete`
  · split at h
    · cases h
      exact .failed _ _ _ rfl
    · next hdelete =>
      cases h
      exact moves_deleted hdelete rfl rfl
  · cases h
    exact .failed _ _ _ rfl
  · split at h
    · cases h
    · next hdelete =>
      cases h
      exact moves_deleted hdelete rfl rfl
  -- `Rerun`
  · next id =>
    split at h
    · cases h
      exact .failed _ _ _ rfl
    · next hget =>
      cases h
      obtain ⟨row, hrow, rfl⟩ := postgres.Get_eq_ok hget
      exact .loaded id row hrow
  · cases h
    exact .failed _ _ _ rfl
  · cases h
    exact .failed _ _ _ rfl
  · cases h
    exact .reran ..
  · cases h

end experiment

end Quantora
