import Quantora.Framework.Runs
import Quantora.Api.Postgres

/-! # Saved portfolios: concurrent requests

    The requests that `portfolio.Service` serves, interleaved. A request is a
    process that stands before its next database statement; the database runs
    one statement, or one transaction, at a time.

    * `Process` — where a request stands, with the values it has read.
    * `advance` — what it does next: one statement of the database, or the
      code between `GetPortfolio` and what its caller does with the result.
    * `World`, `step` — the database and all requests. Requests arrive, advance
      and lose their connection in any order.
-/

namespace Quantora

namespace portfolio

open postgres (Database PortfolioRow)

/-- A request to the service. `newID` and the first `time.Now` are drawn when it
    arrives. -/
inductive Request
  | Save (id : String) (now : Time) (req : SaveRequest)
  | Update (id : String) (req : SaveRequest)
  | Get (id : String)
  | Delete (id : String)
  | resolve (req : AnalyzeRequest)
  deriving DecidableEq, Repr

/-- Who called `GetPortfolio`. -/
inductive Caller
  | Get
  | Update (req : SaveRequest)
  | resolve (req : AnalyzeRequest)
  deriving DecidableEq, Repr

inductive Response
  | stored (p : Portfolio)
  | deleted (id : String)
  | resolved (holdings : List Holding) (benchmark currency name : String)
  deriving DecidableEq, Repr

/-- Where a request stands. -/
inductive Process
  /-- `GetPortfolio`, before its first statement. -/
  | selectPortfolio (caller : Caller) (id : String)
  /-- `GetPortfolio`, between its two statements. -/
  | selectPositions (caller : Caller) (id : String) (header : PortfolioRow)
  /-- `GetPortfolio` has returned. -/
  | gotPortfolio (caller : Caller) (p : Portfolio)
  /-- Before the transaction of `SavePortfolio`. -/
  | savePortfolio (p : Portfolio)
  /-- Before the statement of `DeletePortfolio`. -/
  | deletePortfolio (id : String)
  | finished (result : Except Error Response)
  deriving DecidableEq

/-! ## One request -/

/-- `Service.Save` up to the database. -/
def created (id : String) (now : Time) (req : SaveRequest) : Portfolio where
  ID := id
  Name := Go.TrimSpace req.Name
  Description := Go.TrimSpace req.Description
  BaseCurrency := orDefault req.BaseCurrency defaultCurrency
  Benchmark := orDefault req.Benchmark defaultBenchmark
  Holdings := req.Holdings
  CreatedAt := now
  UpdatedAt := now

/-- `Service.Update` between its two database calls. -/
def updated (existing : Portfolio) (now : Time) (req : SaveRequest) : Portfolio where
  ID := existing.ID
  Name := Go.TrimSpace req.Name
  Description := Go.TrimSpace req.Description
  BaseCurrency := orDefault req.BaseCurrency existing.BaseCurrency
  Benchmark := orDefault req.Benchmark existing.Benchmark
  Holdings := req.Holdings
  CreatedAt := existing.CreatedAt
  UpdatedAt := now

/-- `Service.resolve` after its database call. -/
def resolved (req : AnalyzeRequest) (saved : Portfolio) : Except Error Response :=
  if saved.Holdings = [] then
    .error (.ErrInvalid ("portfolio " ++ Go.TrimSpace req.PortfolioID
      ++ " has no holdings, so there is nothing to analyse"))
  else
    .ok (.resolved saved.Holdings (orDefault req.Benchmark saved.Benchmark) saved.BaseCurrency
      saved.Name)

/-- A request up to its first database call. -/
def start : Request → Process
  | .Save id now req =>
    match req.Validate with
    | some err => .finished (.error err)
    | none => .savePortfolio (created id now req)
  | .Update id req =>
    match req.Validate with
    | some err => .finished (.error err)
    | none => .selectPortfolio (.Update req) id
  | .Get id => .selectPortfolio .Get id
  | .Delete id => .deletePortfolio id
  | .resolve req =>
    if Go.TrimSpace req.PortfolioID ≠ "" then
      .selectPortfolio (.resolve req) (Go.TrimSpace req.PortfolioID)
    else
      .finished (.ok (.resolved req.Holdings (orDefault req.Benchmark defaultBenchmark)
        defaultCurrency ""))

/-- What the caller of `GetPortfolio` does with its result. -/
def returned (p : Portfolio) (now : Time) : Caller → Process
  | .Get => .finished (.ok (.stored p))
  | .Update req => .savePortfolio (updated p now req)
  | .resolve req => .finished (resolved req p)

/-- The next step of a request that has not finished, at time `now`. -/
def advance (now : Time) (db : Database) : Process → Option (Database × Process)
  | .selectPortfolio caller id =>
    match db.select_portfolio id with
    | .error err => some (db, .finished (.error err))
    | .ok header => some (db, .selectPositions caller id header)
  | .selectPositions caller id header =>
    some (db, .gotPortfolio caller (header.portfolio (db.select_positions id)))
  | .gotPortfolio caller p => some (db, returned p now caller)
  | .savePortfolio p =>
    match db.SavePortfolio p with
    | .error err => some (db, .finished (.error (err.wrap "persist portfolio")))
    | .ok db' => some (db', .finished (.ok (.stored p)))
  | .deletePortfolio id =>
    match db.DeletePortfolio id with
    | .error err => some (db, .finished (.error err))
    | .ok db' => some (db', .finished (.ok (.deleted id)))
  | .finished _ => none

/-! ## All requests -/

structure World where
  db : Database
  requests : ℕ → Option Process

/-- The world with request `r` at another place. -/
def World.put (w : World) (db : Database) (r : ℕ) (process : Process) : World where
  db := db
  requests := Function.update w.requests r (some process)

@[simp] theorem World.put_db (w : World) (db : Database) (r : ℕ) (process : Process) :
    (w.put db r process).db = db := rfl

@[simp] theorem World.put_self (w : World) (db : Database) (r : ℕ) (process : Process) :
    (w.put db r process).requests r = some process := by
  simp [World.put]

theorem World.put_of_ne (w : World) (db : Database) {r r' : ℕ} (process : Process) (h : r' ≠ r) :
    (w.put db r process).requests r' = w.requests r' := by
  simp [World.put, h]

inductive Action
  | arrive (r : ℕ) (request : Request)
  | advance (r : ℕ) (now : Time)
  /-- The database call of the request fails before it has any effect. -/
  | fail (r : ℕ) (context : String)
  deriving DecidableEq, Repr

/-- The request that an action moves. -/
def Action.request : Action → ℕ
  | .arrive r _ => r
  | .advance r _ => r
  | .fail r _ => r

def step : Action → World → Option World
  | .arrive r request, w =>
    match w.requests r with
    | none => some (w.put w.db r (start request))
    | some _ => none
  | .advance r now, w => do
    let process ← w.requests r
    let (db, process) ← portfolio.advance now w.db process
    some (w.put db r process)
  | .fail r context, w =>
    match w.requests r with
    | none => none
    | some (.gotPortfolio _ _) => none
    | some (.finished _) => none
    | some _ => some (w.put w.db r (.finished (.error (.failed context .unavailable))))

/-- One saved portfolio, and nobody connected. -/
def one_portfolio : World where
  db :=
    { collation := fun a b => a ≤ b
      portfolios := ⟨[⟨"pf_1", "Core", none, "INR", "NIFTY", 0, 0, by decide⟩], by simp⟩
      positions := ⟨[⟨"pf_1", "TCS.NS", 10, none, by norm_num, by simp⟩], by simp⟩
      risk_reports := ∅
      positions_reference := by simp [Keyed.get?]
      reports_reference := by simp }
  requests := fun _ => none

/-! ## What a step can do -/

section Steps

variable {w w' : World} {db db' : Database} {process process' : Process} {now : Time}

/-- A request either leaves the database alone, without claiming a deletion, or
    commits one of the two writes. -/
theorem advance_eq_some (h : portfolio.advance now db process = some (db', process')) :
    (db' = db ∧ ∀ id, process' ≠ .finished (.ok (.deleted id))) ∨
    (∃ p, process = .savePortfolio p ∧ db.SavePortfolio p = .ok db' ∧
      process' = .finished (.ok (.stored p))) ∨
    (∃ id, process = .deletePortfolio id ∧ db.DeletePortfolio id = .ok db' ∧
      process' = .finished (.ok (.deleted id))) := by
  cases process with
  | selectPortfolio caller id =>
    simp only [portfolio.advance] at h
    cases hselect : db.select_portfolio id with
    | error err => rw [hselect] at h; cases h; exact .inl ⟨rfl, by simp⟩
    | ok header => rw [hselect] at h; cases h; exact .inl ⟨rfl, by simp⟩
  | selectPositions caller id header => cases h; exact .inl ⟨rfl, by simp⟩
  | gotPortfolio caller p =>
    cases h
    refine .inl ⟨rfl, fun id => ?_⟩
    cases caller with
    | Get => simp [returned]
    | Update req => simp [returned]
    | resolve req =>
      simp only [returned, resolved]
      split_ifs <;> simp
  | savePortfolio p =>
    simp only [portfolio.advance] at h
    cases hsave : db.SavePortfolio p with
    | error err => rw [hsave] at h; cases h; exact .inl ⟨rfl, by simp⟩
    | ok next => rw [hsave] at h; cases h; exact .inr (.inl ⟨p, rfl, hsave, rfl⟩)
  | deletePortfolio id =>
    simp only [portfolio.advance] at h
    cases hdelete : db.DeletePortfolio id with
    | error err => rw [hdelete] at h; cases h; exact .inl ⟨rfl, by simp⟩
    | ok next => rw [hdelete] at h; cases h; exact .inr (.inr ⟨id, rfl, hdelete, rfl⟩)
  | finished result => cases h

/-- Every step moves one request, which has not finished: it arrives, advances,
    or fails without any effect on the database. -/
theorem step_eq_some {a : Action} (h : step a w = some w') :
    ∃ db' process', w' = w.put db' a.request process' ∧
      (∀ result, w.requests a.request ≠ some (.finished result)) ∧
      ((∃ request, db' = w.db ∧ process' = start request) ∨
       (∃ now process, a = .advance a.request now ∧ w.requests a.request = some process ∧
          portfolio.advance now w.db process = some (db', process')) ∨
       (∃ err, db' = w.db ∧ process' = .finished (.error err))) := by
  cases a with
  | arrive r request =>
    simp only [step] at h
    cases hr : w.requests r with
    | some process => rw [hr] at h; cases h
    | none =>
      rw [hr] at h
      cases h
      exact ⟨_, _, rfl, by simp [Action.request, hr], .inl ⟨request, rfl, rfl⟩⟩
  | advance r now =>
    simp only [step] at h
    obtain ⟨process, hr, h⟩ := Option.bind_eq_some_iff.mp h
    obtain ⟨⟨db', process'⟩, hadvance, h⟩ := Option.bind_eq_some_iff.mp h
    cases h
    refine ⟨db', process', rfl, ?_, .inr (.inl ⟨now, process, rfl, hr, hadvance⟩)⟩
    rintro result hresult
    obtain rfl := Option.some.inj (hr.symm.trans hresult)
    cases hadvance
  | fail r context =>
    simp only [step] at h
    cases hr : w.requests r with
    | none => rw [hr] at h; cases h
    | some process =>
      rw [hr] at h
      cases process with
      | gotPortfolio caller p => cases h
      | finished result => cases h
      | _ => cases h; exact ⟨_, _, rfl, by simp [Action.request, hr], .inr (.inr ⟨_, rfl, rfl⟩)⟩

/-- A step leaves every other request where it stands. -/
theorem requests_step_of_ne {a : Action} {r : ℕ} (h : step a w = some w') (hr : r ≠ a.request) :
    w'.requests r = w.requests r := by
  obtain ⟨db', process', rfl, -⟩ := step_eq_some h
  exact World.put_of_ne _ _ _ hr

end Steps

end portfolio

end Quantora
