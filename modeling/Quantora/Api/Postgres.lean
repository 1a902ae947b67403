import Mathlib.Data.List.Sort
import Mathlib.Data.Rat.Floor
import Mathlib.Algebra.Order.Group.Unbundled.Abs
import Quantora.Framework.Keyed
import Quantora.Framework.Outcome
import Quantora.Api.Portfolio

/-! # Saved portfolios: the database

    The tables `portfolios`, `positions` and `risk_reports` with the constraints
    of their migrations, and the statements of `PortfolioRepository` on them.

    * A row carries the `CHECK` constraints of its table.
    * A `Database` carries the foreign keys, so no statement can leave a
      position or a report behind that points at no portfolio.
    * `SavePortfolio` is one transaction: a statement that fails leaves no
      trace. `GetPortfolio` is two statements, which other clients' statements
      may come between.
-/

namespace Quantora

namespace postgres

open portfolio

/-! ## Column types -/

/-- A `TEXT` parameter: any string without a NUL. -/
def text (s : String) : Except SqlError String :=
  if '\x00' ∈ s.toList then .error .invalid_text else .ok s

theorem text_eq_ok {s t : String} (h : text s = .ok t) : t = s := by
  unfold text at h
  split_ifs at h
  exact (Except.ok.inj h).symm

/-- Round half away from zero to `scale` decimals. -/
def round_decimals (scale : ℕ) (x : ℚ) : ℚ :=
  let units : ℤ := ⌊|x| * 10 ^ scale + 1 / 2⌋
  (if x < 0 then -units else units) / 10 ^ scale

/-- `NUMERIC(24, 8)`. -/
def numeric_24_8 (x : ℚ) : Except SqlError ℚ :=
  if 10 ^ 16 ≤ |round_decimals 8 x| then .error .numeric_overflow else .ok (round_decimals 8 x)

/-- `TIMESTAMPTZ` keeps microseconds. -/
def timestamptz (t : Time) : Time := t / 1000 * 1000

/-- `btrim(s)`. -/
def btrim (s : String) : String := Text.trim (· = ' ') s

/-! ## Tables -/

structure PortfolioRow where
  id : String
  name : String
  description : Option String
  base_currency : String
  benchmark : String
  created_at : Time
  updated_at : Time
  portfolios_name_not_blank : btrim name ≠ ""
  deriving DecidableEq

structure PositionRow where
  portfolio_id : String
  symbol : String
  quantity : ℚ
  cost_basis : Option ℚ
  positions_quantity_positive : 0 < quantity
  positions_cost_basis_non_negative : ∀ c ∈ cost_basis, 0 ≤ c
  deriving DecidableEq

/-- `positions_one_row_per_symbol`. -/
def PositionRow.key (row : PositionRow) : String × String := (row.portfolio_id, row.symbol)

/-- A report, as far as the statements here see it. -/
structure ReportRow where
  id : String
  portfolio_id : Option String
  deriving DecidableEq

structure Database where
  /-- The order that `ORDER BY` puts texts in. -/
  collation : String → String → Bool
  portfolios : Keyed PortfolioRow.id
  positions : Keyed PositionRow.key
  risk_reports : Keyed ReportRow.id
  positions_reference : ∀ row ∈ positions.items, (portfolios.get? row.portfolio_id).isSome
  reports_reference : ∀ row ∈ risk_reports.items, ∀ id ∈ row.portfolio_id,
    (portfolios.get? id).isSome

namespace Database

variable (db : Database)

/-- The portfolio exists. -/
def Has (id : String) : Prop := (db.portfolios.get? id).isSome

instance (id : String) : Decidable (db.Has id) := inferInstanceAs (Decidable (_ = true))

/-! ## The statements of `SavePortfolio` -/

/-- The row of a portfolio, if the columns admit it. -/
def portfolio_row (p : Portfolio) : Except SqlError PortfolioRow := do
  let id ← text p.ID
  let name ← text p.Name
  let description ← (nullIfEmpty p.Description).mapM text
  let base_currency ← text p.BaseCurrency
  let benchmark ← text p.Benchmark
  if h : btrim name ≠ "" then
    .ok
      { id := id
        name := name
        description := description
        base_currency := base_currency
        benchmark := benchmark
        created_at := timestamptz p.CreatedAt
        updated_at := timestamptz p.UpdatedAt
        portfolios_name_not_blank := h }
  else .error (.check_violation "portfolios_name_not_blank")

/-- What `ON CONFLICT (id) DO UPDATE` writes: everything but `created_at`. -/
def excluded (row : PortfolioRow) : PortfolioRow :=
  match db.portfolios.get? row.id with
  | none => row
  | some old => { row with created_at := old.created_at }

@[simp] theorem excluded_id (row : PortfolioRow) : (db.excluded row).id = row.id := by
  unfold excluded
  cases db.portfolios.get? row.id <;> rfl

theorem isSome_get?_upsert (row : PortfolioRow) {id : String}
    (h : (db.portfolios.get? id).isSome) : ((db.portfolios.upsert row).get? id).isSome := by
  by_cases hid : id = row.id
  · subst hid
    rw [Keyed.get?_upsert_self]
    rfl
  · rwa [Keyed.get?_upsert_of_ne _ hid]

/-- `INSERT INTO portfolios … ON CONFLICT (id) DO UPDATE`. -/
def upsert_portfolio (row : PortfolioRow) : Database :=
  { db with
    portfolios := db.portfolios.upsert (db.excluded row)
    positions_reference := fun pos hpos =>
      db.isSome_get?_upsert _ (db.positions_reference pos hpos)
    reports_reference := fun report hreport id hid =>
      db.isSome_get?_upsert _ (db.reports_reference report hreport id hid) }

/-- `DELETE FROM positions WHERE portfolio_id = $1`. -/
def clear_positions (id : String) : Database :=
  { db with
    positions := db.positions.filter (fun row => row.portfolio_id ≠ id)
    positions_reference := fun pos hpos =>
      db.positions_reference pos (List.mem_filter.mp hpos).1 }

/-- The row of a holding, if the columns admit it. -/
def position_row (id : String) (holding : Holding) : Except SqlError PositionRow := do
  let symbol ← text holding.Symbol
  let quantity ← numeric_24_8 holding.Quantity
  let cost_basis ← holding.CostBasis.mapM numeric_24_8
  if hquantity : 0 < quantity then
    if hcost : ∀ c ∈ cost_basis, 0 ≤ c then
      .ok
        { portfolio_id := id
          symbol := symbol
          quantity := quantity
          cost_basis := cost_basis
          positions_quantity_positive := hquantity
          positions_cost_basis_non_negative := hcost }
    else .error (.check_violation "positions_cost_basis_non_negative")
  else .error (.check_violation "positions_quantity_positive")

/-- Add a row whose key is new and whose portfolio exists. -/
def insert_row (row : PositionRow) : Except SqlError Database :=
  if (db.positions.get? row.key).isSome then
    .error (.unique_violation "positions_one_row_per_symbol")
  else if h : (db.portfolios.get? row.portfolio_id).isSome then
    .ok
      { db with
        positions := db.positions.upsert row
        positions_reference := fun pos hpos =>
          (Keyed.mem_upsert hpos).elim (fun heq => heq ▸ h)
            (fun hmem => db.positions_reference pos hmem.1) }
  else .error .foreign_key_violation

/-- `INSERT INTO positions`. -/
def insert_position (id : String) (holding : Holding) : Except SqlError Database := do
  let row ← position_row id holding
  db.insert_row row

/-- The loop over the holdings. -/
def insert_positions (id : String) : Database → List Holding → Except Error Database
  | db, [] => .ok db
  | db, holding :: holdings =>
    match db.insert_position id holding with
    | .error cause =>
      .error (.failed ("insert position " ++ holding.Symbol ++ " for " ++ id) cause)
    | .ok db' => insert_positions id db' holdings

/-- `PortfolioRepository.SavePortfolio`: the whole transaction. -/
def SavePortfolio (p : Portfolio) : Except Error Database :=
  match portfolio_row p with
  | .error cause => .error (.failed ("upsert portfolio " ++ p.ID) cause)
  | .ok row => insert_positions p.ID ((db.upsert_portfolio row).clear_positions p.ID) p.Holdings

/-! ## The statements of `GetPortfolio` -/

/-- `SELECT … FROM portfolios WHERE id = $1`. -/
def select_portfolio (id : String) : Except Error PortfolioRow :=
  match text id with
  | .error cause => .error (.failed ("load portfolio " ++ id) cause)
  | .ok id =>
    match db.portfolios.get? id with
    | none => .error (.ErrNotFound id)
    | some row => .ok row

/-- `SELECT … FROM positions WHERE portfolio_id = $1 ORDER BY symbol`. -/
def select_positions (id : String) : List Holding :=
  let rows := db.positions.items.filter (fun row => row.portfolio_id = id)
  (rows.insertionSort (fun a b => db.collation a.symbol b.symbol = true)).map
    (fun row => ⟨row.symbol, row.quantity, row.cost_basis⟩)

end Database

/-- What `GetPortfolio` returns: the header of one statement, the holdings of
    the other. -/
def PortfolioRow.portfolio (header : PortfolioRow) (holdings : List Holding) : Portfolio where
  ID := header.id
  Name := header.name
  Description := header.description.getD ""
  BaseCurrency := header.base_currency
  Benchmark := header.benchmark
  Holdings := holdings
  CreatedAt := header.created_at
  UpdatedAt := header.updated_at

namespace Database

variable (db : Database)

/-- The committed version of a portfolio: its header and holdings in one
    state of the database. -/
def version (id : String) : Option Portfolio :=
  (db.portfolios.get? id).map (fun header => header.portfolio (db.select_positions id))

/-! ## `DeletePortfolio` -/

/-- The rows without the portfolio, its positions and its reports. -/
def without (id : String) : Database :=
  { db with
    portfolios := db.portfolios.filter (fun row => row.id ≠ id)
    positions := db.positions.filter (fun row => row.portfolio_id ≠ id)
    risk_reports := db.risk_reports.filter (fun row => row.portfolio_id ≠ some id)
    positions_reference := fun pos hpos => by
      obtain ⟨hmem, hne⟩ := List.mem_filter.mp hpos
      rw [Keyed.get?_filter_of_keep _ (fun row hrow => by simpa [hrow] using hne)]
      exact db.positions_reference pos hmem
    reports_reference := fun report hreport other hother => by
      obtain ⟨hmem, hne⟩ := List.mem_filter.mp hreport
      have hid : other ≠ id := by
        rintro rfl
        simp [Option.mem_def.mp hother] at hne
      rw [Keyed.get?_filter_of_keep _ (fun row hrow => by simpa [hrow] using hid)]
      exact db.reports_reference report hmem other hother }

/-- `PortfolioRepository.DeletePortfolio`. Positions and reports cascade. -/
def DeletePortfolio (id : String) : Except Error Database :=
  match text id with
  | .error cause => .error (.failed ("delete portfolio " ++ id) cause)
  | .ok id => if db.Has id then .ok (db.without id) else .error (.ErrNotFound id)

/-! ## What the transactions do to the portfolios -/

variable {db}

theorem id_of_portfolio_row {p : Portfolio} {row : PortfolioRow} (h : portfolio_row p = .ok row) :
    row.id = p.ID := by
  unfold portfolio_row at h
  obtain ⟨id, hid, h⟩ := Outcome.bind_eq_ok.mp h
  obtain ⟨name, -, h⟩ := Outcome.bind_eq_ok.mp h
  obtain ⟨description, -, h⟩ := Outcome.bind_eq_ok.mp h
  obtain ⟨base_currency, -, h⟩ := Outcome.bind_eq_ok.mp h
  obtain ⟨benchmark, -, h⟩ := Outcome.bind_eq_ok.mp h
  split_ifs at h
  obtain rfl := Except.ok.inj h
  exact text_eq_ok hid

theorem key_of_position_row {id : String} {holding : Holding} {row : PositionRow}
    (h : position_row id holding = .ok row) : row.key = (id, holding.Symbol) := by
  unfold position_row at h
  obtain ⟨symbol, hsymbol, h⟩ := Outcome.bind_eq_ok.mp h
  obtain ⟨quantity, -, h⟩ := Outcome.bind_eq_ok.mp h
  obtain ⟨cost_basis, -, h⟩ := Outcome.bind_eq_ok.mp h
  split_ifs at h
  obtain rfl := Except.ok.inj h
  rw [PositionRow.key, text_eq_ok hsymbol]

/-- The insert of a new row succeeds as soon as the columns admit it. -/
theorem insert_position_eq_ok {id : String} {holding : Holding} {db' : Database} :
    db.insert_position id holding = .ok db' ↔
      ∃ row, position_row id holding = .ok row ∧ db.insert_row row = .ok db' := by
  unfold insert_position
  cases position_row id holding with
  | error e => simp [bind, Except.bind]
  | ok row => simp [bind, Except.bind]

theorem insert_row_frame {row : PositionRow} {db' : Database} (h : db.insert_row row = .ok db') :
    db'.portfolios = db.portfolios ∧ db'.positions = db.positions.upsert row := by
  unfold insert_row at h
  split_ifs at h
  obtain rfl := Except.ok.inj h
  exact ⟨rfl, rfl⟩

/-- Inserting positions leaves the portfolios alone. -/
theorem portfolios_insert_positions {id : String} {holdings : List Holding} {db' : Database}
    (h : insert_positions id db holdings = .ok db') : db'.portfolios = db.portfolios := by
  induction holdings generalizing db with
  | nil =>
    obtain rfl := Except.ok.inj h
    rfl
  | cons holding holdings ih =>
    unfold insert_positions at h
    cases hinsert : db.insert_position id holding with
    | error cause => rw [hinsert] at h; cases h
    | ok next =>
      rw [hinsert] at h
      obtain ⟨row, -, hrow⟩ := insert_position_eq_ok.mp hinsert
      exact (ih h).trans (insert_row_frame hrow).1

/-- A transaction that commits has upserted the header. -/
theorem portfolios_SavePortfolio {p : Portfolio} {db' : Database}
    (h : db.SavePortfolio p = .ok db') :
    ∃ row, row.id = p.ID ∧ db'.portfolios = db.portfolios.upsert row := by
  unfold SavePortfolio at h
  cases hrow : portfolio_row p with
  | error cause => rw [hrow] at h; cases h
  | ok row =>
    rw [hrow] at h
    refine ⟨db.excluded row, ?_, portfolios_insert_positions h⟩
    rw [excluded_id, id_of_portfolio_row hrow]

theorem has_SavePortfolio {p : Portfolio} {db' : Database} (h : db.SavePortfolio p = .ok db') :
    db'.Has p.ID := by
  obtain ⟨row, hid, hportfolios⟩ := portfolios_SavePortfolio h
  rw [Has, hportfolios, ← hid, Keyed.get?_upsert_self]
  rfl

theorem get?_SavePortfolio_of_ne {p : Portfolio} {db' : Database} {id : String}
    (h : db.SavePortfolio p = .ok db') (hne : p.ID ≠ id) :
    db'.portfolios.get? id = db.portfolios.get? id := by
  obtain ⟨row, hid, hportfolios⟩ := portfolios_SavePortfolio h
  rw [hportfolios, Keyed.get?_upsert_of_ne]
  exact fun heq => hne (hid.symm.trans heq.symm)

theorem DeletePortfolio_eq_ok {id : String} {db' : Database} (h : db.DeletePortfolio id = .ok db') :
    db' = db.without id := by
  unfold DeletePortfolio at h
  cases htext : text id with
  | error cause => rw [htext] at h; cases h
  | ok id' =>
    obtain rfl := text_eq_ok htext
    rw [htext] at h
    simp only at h
    split_ifs at h
    exact (Except.ok.inj h).symm

theorem select_portfolio_eq_ok {id : String} {header : PortfolioRow}
    (h : db.select_portfolio id = .ok header) : db.portfolios.get? id = some header := by
  unfold select_portfolio at h
  cases htext : text id with
  | error cause => rw [htext] at h; cases h
  | ok id' =>
    obtain rfl := text_eq_ok htext
    rw [htext] at h
    cases hget : db.portfolios.get? id' with
    | none => simp only [hget] at h; cases h
    | some row => simp only [hget] at h; cases h; rfl

theorem not_has_without (db : Database) (id : String) : ¬ (db.without id).Has id := by
  have hnone : (db.without id).portfolios.get? id = none :=
    Keyed.get?_filter_of_drop _ fun row hrow => by simp [hrow]
  simp [Has, hnone]

theorem get?_without_of_ne (db : Database) {id other : String} (hne : other ≠ id) :
    (db.without id).portfolios.get? other = db.portfolios.get? other :=
  Keyed.get?_filter_of_keep _ fun row hrow => by simpa [hrow] using hne

/-! ## When the transaction commits -/

/-- The columns admit every value of the portfolio, and no symbol is repeated. -/
structure Admitted (p : Portfolio) : Prop where
  header : (portfolio_row p).isOk = true
  holdings : ∀ holding ∈ p.Holdings, (position_row p.ID holding).isOk = true
  symbols : (p.Holdings.map Holding.Symbol).Nodup

/-- An insert succeeds exactly when the columns admit the row and its symbol is
    new. -/
theorem isOk_insert_position {id : String} (hid : db.Has id) (holding : Holding) :
    (db.insert_position id holding).isOk = true ↔
      (position_row id holding).isOk = true ∧
        db.positions.get? (id, holding.Symbol) = none := by
  rw [insert_position, Outcome.isOk_bind]
  constructor
  · rintro ⟨row, hrow, hinsert⟩
    refine ⟨Outcome.isOk_of_eq_ok hrow, ?_⟩
    rw [← key_of_position_row hrow]
    unfold insert_row at hinsert
    by_cases hkey : (db.positions.get? row.key).isSome
    · rw [if_pos hkey] at hinsert
      cases hinsert
    · simpa using hkey
  · rintro ⟨hrow, hnew⟩
    obtain ⟨row, hrow⟩ := Outcome.exists_eq_ok hrow
    have hkey := key_of_position_row hrow
    have hportfolio : (db.portfolios.get? row.portfolio_id).isSome := by
      rwa [show row.portfolio_id = id from congrArg Prod.fst hkey]
    refine ⟨row, hrow, ?_⟩
    rw [insert_row, if_neg (by simp [hkey, hnew]), dif_pos hportfolio]
    rfl

/-- Induction over the holdings; the symbols inserted so far are those that the
    table already has. -/
theorem isOk_insert_positions {id : String} {holdings : List Holding} (hid : db.Has id) :
    (insert_positions id db holdings).isOk = true ↔
      (∀ holding ∈ holdings, (position_row id holding).isOk = true) ∧
        (holdings.map Holding.Symbol).Nodup ∧
        ∀ holding ∈ holdings, db.positions.get? (id, holding.Symbol) = none := by
  induction holdings generalizing db with
  | nil => simp [insert_positions, Except.isOk, Except.toBool]
  | cons holding holdings ih =>
    have hfirst := isOk_insert_position hid holding
    unfold insert_positions
    cases hinsert : db.insert_position id holding with
    | error cause =>
      rw [hinsert] at hfirst
      constructor
      · intro h
        cases h
      · rintro ⟨hrows, -, hnew⟩
        exact absurd (hfirst.mpr ⟨hrows _ List.mem_cons_self, hnew _ List.mem_cons_self⟩)
          (by simp [Except.isOk, Except.toBool])
    | ok next =>
      obtain ⟨hadmitted, hnew⟩ := hfirst.mp (by rw [hinsert]; rfl)
      obtain ⟨row, hrow, hinserted⟩ := insert_position_eq_ok.mp hinsert
      obtain ⟨hportfolios, hpositions⟩ := insert_row_frame hinserted
      have hkey := key_of_position_row hrow
      have hid' : next.Has id := by rwa [Has, hportfolios]
      -- A later holding finds its symbol free iff it was free before and differs.
      have hlater : ∀ h : Holding, next.positions.get? (id, h.Symbol) = none ↔
          h.Symbol ≠ holding.Symbol ∧ db.positions.get? (id, h.Symbol) = none := by
        intro h
        rw [hpositions]
        by_cases hsymbol : h.Symbol = holding.Symbol
        · rw [hsymbol, ← hkey, Keyed.get?_upsert_self]
          simp
        · rw [Keyed.get?_upsert_of_ne _ (by simp [hkey, hsymbol])]
          simp [hsymbol]
      simp only [ih hid', hlater, List.forall_mem_cons, List.map_cons, List.nodup_cons,
        List.mem_map, not_exists, not_and]
      constructor
      · rintro ⟨hrows, hnodup, hfree⟩
        exact ⟨⟨hadmitted, hrows⟩, ⟨fun h hh => (hfree h hh).1, hnodup⟩, hnew,
          fun h hh => (hfree h hh).2⟩
      · rintro ⟨⟨-, hrows⟩, ⟨hdistinct, hnodup⟩, -, hfree⟩
        exact ⟨hrows, hnodup, fun h hh => ⟨hdistinct h hh, hfree h hh⟩⟩

/-- Whether `SavePortfolio` commits does not depend on what is stored. -/
theorem isOk_SavePortfolio (db : Database) (p : Portfolio) :
    (db.SavePortfolio p).isOk = true ↔ Admitted p := by
  have hheader : Admitted p → (portfolio_row p).isOk = true := Admitted.header
  unfold SavePortfolio
  cases hrow : portfolio_row p with
  | error cause =>
    rw [hrow] at hheader
    constructor
    · intro h
      cases h
    · intro h
      cases hheader h
  | ok row =>
    have hhas : ((db.upsert_portfolio row).clear_positions p.ID).Has p.ID := by
      have hid : (db.excluded row).id = p.ID := by rw [excluded_id, id_of_portfolio_row hrow]
      rw [Has, ← hid]
      exact Option.isSome_of_eq_some (Keyed.get?_upsert_self _ _)
    have hcleared : ∀ symbol, ((db.upsert_portfolio row).clear_positions p.ID).positions.get?
        (p.ID, symbol) = none := by
      intro symbol
      refine Keyed.get?_filter_of_drop _ fun pos hpos => ?_
      have hid : pos.portfolio_id = p.ID := congrArg Prod.fst hpos
      simp [hid]
    simp only [isOk_insert_positions hhas, hcleared, implies_true, and_true]
    exact ⟨fun h => ⟨Outcome.isOk_of_eq_ok hrow, h.1, h.2⟩, fun h => ⟨h.holdings, h.symbols⟩⟩

end Database

end postgres

end Quantora
