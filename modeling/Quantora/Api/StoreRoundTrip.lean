import Mathlib.Data.List.Perm.Basic
import Mathlib.Tactic.Ring
import Mathlib.Tactic.Positivity
import Mathlib.Tactic.NormNum
import Mathlib.Tactic.Linarith
import Quantora.Api.PortfolioService

/-! # What is saved comes back

    A request that `Validate` accepts, saved by `SavePortfolio` and read again by
    `GetPortfolio`. The validator asks for positive quantities; the columns are
    `NUMERIC(24, 8)`.

    * `Saves` — the portfolios that the service saves for a request.
    * `Storable` — the columns hold every value of the portfolio as it is.
    * `RoundTrips` — the transaction commits, and the same holdings come back.
    * `saved_holdings_return` — an accepted request round-trips exactly when its
      portfolio is storable.
    * `ninth_decimal_is_lost` — a holding that comes back smaller, and one that
      is refused by the table after the validator has accepted it.
-/

namespace Quantora

namespace portfolio

/-! ## What the validator accepts -/

/-- A holding that the validator has nothing to say about. -/
structure Holding.Valid (h : Holding) : Prop where
  symbol : Go.TrimSpace h.Symbol ≠ ""
  quantity : 0 < h.Quantity
  cost_basis : ∀ c ∈ h.CostBasis, 0 ≤ c

theorem holding_problems_eq_nil {i : ℕ} {h : Holding} {seen : List String} :
    holding_problems i h seen = [] ↔ h.Valid ∧ Go.TrimSpace h.Symbol ∉ seen := by
  unfold holding_problems
  by_cases hsymbol : Go.TrimSpace h.Symbol = ""
  · simp only [hsymbol, if_true]
    constructor
    · intro hnil
      cases hnil
    · rintro ⟨hvalid, -⟩
      exact absurd hsymbol hvalid.symbol
  · simp only [hsymbol, if_false, List.append_eq_nil_iff, ite_eq_right_iff, List.cons_ne_nil,
      imp_false, not_exists, not_and, not_lt, not_le]
    constructor
    · rintro ⟨⟨hseen, hquantity⟩, hcost⟩
      exact ⟨⟨hsymbol, hquantity, hcost⟩, hseen⟩
    · rintro ⟨hvalid, hseen⟩
      exact ⟨⟨hseen, hvalid.quantity⟩, hvalid.cost_basis⟩

/-- Induction over the holdings; `seen` are the symbols of those before. -/
theorem holdings_problems_eq_nil {i : ℕ} {seen : List String} {holdings : List Holding} :
    holdings_problems i seen holdings = [] ↔
      (∀ h ∈ holdings, h.Valid) ∧
        (holdings.map (fun h => Go.TrimSpace h.Symbol)).Nodup ∧
        ∀ h ∈ holdings, Go.TrimSpace h.Symbol ∉ seen := by
  induction holdings generalizing i seen with
  | nil => simp [holdings_problems]
  | cons h holdings ih =>
    rw [holdings_problems, List.append_eq_nil_iff, holding_problems_eq_nil]
    -- A symbol is remembered unless it is blank, and a valid one is not.
    constructor
    · rintro ⟨⟨hvalid, hseen⟩, hrest⟩
      rw [if_neg hvalid.symbol, ih] at hrest
      obtain ⟨hvalids, hnodup, hnew⟩ := hrest
      refine ⟨List.forall_mem_cons.mpr ⟨hvalid, hvalids⟩, ?_, List.forall_mem_cons.mpr
        ⟨hseen, fun other hother hmem => hnew other hother (List.mem_cons_of_mem _ hmem)⟩⟩
      rw [List.map_cons, List.nodup_cons, List.mem_map]
      refine ⟨?_, hnodup⟩
      rintro ⟨other, hother, heq⟩
      exact hnew other hother (heq ▸ List.mem_cons_self)
    · rintro ⟨hvalids, hnodup, hnew⟩
      rw [List.forall_mem_cons] at hvalids hnew
      rw [List.map_cons, List.nodup_cons, List.mem_map] at hnodup
      refine ⟨⟨hvalids.1, hnew.1⟩, ?_⟩
      rw [if_neg hvalids.1.symbol, ih]
      refine ⟨hvalids.2, hnodup.2, fun other hother hmem => ?_⟩
      rcases List.mem_cons.mp hmem with heq | hmem
      · exact hnodup.1 ⟨other, hother, heq⟩
      · exact hnew.2 other hother hmem

/-- What an accepted request promises the database. -/
structure SaveRequest.Accepted (req : SaveRequest) : Prop where
  name : Go.TrimSpace req.Name ≠ ""
  holdings : ∀ h ∈ req.Holdings, h.Valid
  symbols : (req.Holdings.map Holding.Symbol).Nodup

theorem SaveRequest.accepted {req : SaveRequest} (h : req.Validate = none) : req.Accepted := by
  unfold SaveRequest.Validate at h
  have hproblems : req.problems = [] := by
    by_contra hne
    rw [if_neg hne] at h
    cases h
  unfold SaveRequest.problems at hproblems
  simp only [List.append_eq_nil_iff, ite_eq_right_iff, List.cons_ne_nil, imp_false] at hproblems
  obtain ⟨⟨hname, -⟩, hholdings⟩ := hproblems
  obtain ⟨hvalid, hnodup, -⟩ := holdings_problems_eq_nil.mp hholdings
  refine ⟨hname, hvalid, ?_⟩
  -- Symbols that differ after trimming differ before.
  have hmap : req.Holdings.map (fun h => Go.TrimSpace h.Symbol)
      = (req.Holdings.map Holding.Symbol).map Go.TrimSpace := by
    rw [List.map_map]
    rfl
  rw [hmap] at hnodup
  exact hnodup.of_map

end portfolio

namespace postgres

open portfolio

/-! ## Columns that give back what they were given -/

theorem isOk_text {s : String} : (text s).isOk = true ↔ '\x00' ∉ s.toList := by
  unfold text
  by_cases hnul : '\x00' ∈ s.toList
  · rw [if_pos hnul]
    constructor
    · intro h
      cases h
    · exact fun h => absurd hnul h
  · rw [if_neg hnul]
    exact ⟨fun _ => hnul, fun _ => rfl⟩

theorem text_eq_self {s : String} : text s = .ok s ↔ '\x00' ∉ s.toList := by
  rw [← isOk_text]
  constructor
  · exact Outcome.isOk_of_eq_ok
  · intro h
    obtain ⟨t, ht⟩ := Outcome.exists_eq_ok h
    rwa [text_eq_ok ht] at ht

/-- Rounding to `scale` decimals changes nothing but numbers that have more. -/
theorem round_decimals_eq_self {scale : ℕ} {x : ℚ} :
    round_decimals scale x = x ↔ ∃ n : ℤ, x * 10 ^ scale = n := by
  have hpow : (0 : ℚ) < 10 ^ scale := by positivity
  constructor
  · intro h
    unfold round_decimals at h
    refine ⟨if x < 0 then -⌊|x| * 10 ^ scale + 1 / 2⌋ else ⌊|x| * 10 ^ scale + 1 / 2⌋, ?_⟩
    rw [← div_mul_cancel₀ ((if x < 0 then -⌊|x| * 10 ^ scale + 1 / 2⌋
      else ⌊|x| * 10 ^ scale + 1 / 2⌋ : ℤ) : ℚ) hpow.ne', h]
  · rintro ⟨n, hn⟩
    have habs : |x| * 10 ^ scale = ((|n| : ℤ) : ℚ) := by
      rw [Int.cast_abs, ← hn, abs_mul, abs_of_pos hpow]
    have hfloor : ⌊|x| * 10 ^ scale + 1 / 2⌋ = |n| := by
      rw [habs, Int.floor_intCast_add]
      norm_num
    unfold round_decimals
    rw [hfloor]
    show ((if x < 0 then -|n| else |n| : ℤ) : ℚ) / 10 ^ scale = x
    rw [div_eq_iff hpow.ne', hn, Int.cast_inj]
    -- `n` has the sign of `x`.
    by_cases hx : x < 0
    · have hneg : (n : ℚ) < 0 := by
        rw [← hn]
        exact mul_neg_of_neg_of_pos hx hpow
      rw [if_pos hx, abs_of_neg (Int.cast_lt_zero.mp hneg), neg_neg]
    · have hnonneg : (0 : ℚ) ≤ n := by
        rw [← hn]
        exact mul_nonneg (not_lt.mp hx) hpow.le
      rw [if_neg hx, abs_of_nonneg (Int.cast_nonneg_iff.mp hnonneg)]

/-- A number with at most eight decimals and sixteen digits before the point. -/
def Exact (x : ℚ) : Prop := (∃ n : ℤ, x * 10 ^ 8 = n) ∧ |x| < 10 ^ 16

theorem numeric_24_8_eq_self {x : ℚ} : numeric_24_8 x = .ok x ↔ Exact x := by
  unfold numeric_24_8 Exact
  rw [← round_decimals_eq_self]
  by_cases hoverflow : 10 ^ 16 ≤ |round_decimals 8 x|
  · rw [if_pos hoverflow]
    constructor
    · intro h
      cases h
    · rintro ⟨hround, hsmall⟩
      rw [hround] at hoverflow
      exact absurd hsmall hoverflow.not_gt
  · rw [if_neg hoverflow, Except.ok.injEq]
    constructor
    · intro hround
      rw [hround] at hoverflow
      exact ⟨hround, not_le.mp hoverflow⟩
    · exact fun h => h.1

/-! ## One row -/

/-- The holding that `GetPortfolio` scans from a row. -/
def PositionRow.holding (row : PositionRow) : Holding :=
  ⟨row.symbol, row.quantity, row.cost_basis⟩

namespace Database

theorem position_row_eq_ok {id : String} {holding : Holding} {row : PositionRow} :
    position_row id holding = .ok row ↔
      text holding.Symbol = .ok row.symbol ∧ numeric_24_8 holding.Quantity = .ok row.quantity ∧
        holding.CostBasis.mapM numeric_24_8 = .ok row.cost_basis ∧ row.portfolio_id = id := by
  constructor
  · intro h
    unfold position_row at h
    obtain ⟨symbol, hsymbol, h⟩ := Outcome.bind_eq_ok.mp h
    obtain ⟨quantity, hquantity, h⟩ := Outcome.bind_eq_ok.mp h
    obtain ⟨cost_basis, hcost, h⟩ := Outcome.bind_eq_ok.mp h
    split_ifs at h
    obtain rfl := Except.ok.inj h
    exact ⟨hsymbol, hquantity, hcost, rfl⟩
  · rintro ⟨hsymbol, hquantity, hcost, rfl⟩
    unfold position_row
    refine Outcome.bind_eq_ok.mpr ⟨_, hsymbol, ?_⟩
    refine Outcome.bind_eq_ok.mpr ⟨_, hquantity, ?_⟩
    refine Outcome.bind_eq_ok.mpr ⟨_, hcost, ?_⟩
    -- The row's own fields are the two checks of the table.
    rw [dif_pos row.positions_quantity_positive,
      dif_pos row.positions_cost_basis_non_negative]

/-- The columns hold every value of the holding as it is. -/
structure StorableHolding (holding : Holding) : Prop where
  symbol : '\x00' ∉ holding.Symbol.toList
  quantity : Exact holding.Quantity
  cost_basis : ∀ c ∈ holding.CostBasis, Exact c

theorem mapM_numeric_eq_self {cost : Option ℚ} :
    cost.mapM numeric_24_8 = .ok cost ↔ ∀ c ∈ cost, Exact c := by
  cases cost with
  | none =>
    constructor
    · intro _ c hc
      cases hc
    · exact fun _ => rfl
  | some c =>
    have hmap : (some c).mapM numeric_24_8 = .ok (some c) ↔ numeric_24_8 c = .ok c := by
      rw [Option.mapM_some]
      cases numeric_24_8 c with
      | error e => simp [Functor.map, Except.map]
      | ok x => simp [Functor.map, Except.map]
    rw [hmap, numeric_24_8_eq_self]
    simp

/-- A valid holding has a row that gives it back exactly when it is storable. -/
theorem exists_row_iff {id : String} {holding : Holding} (hvalid : holding.Valid) :
    (∃ row, position_row id holding = .ok row ∧ row.holding = holding) ↔
      StorableHolding holding := by
  constructor
  · rintro ⟨row, hrow, heq⟩
    obtain ⟨hsymbol, hquantity, hcost, -⟩ := position_row_eq_ok.mp hrow
    have hrow_symbol : row.symbol = holding.Symbol := congrArg Holding.Symbol heq
    have hrow_quantity : row.quantity = holding.Quantity := congrArg Holding.Quantity heq
    have hrow_cost : row.cost_basis = holding.CostBasis := congrArg Holding.CostBasis heq
    -- Each column gave back the value that went into it.
    rw [hrow_symbol] at hsymbol
    rw [hrow_quantity] at hquantity
    rw [hrow_cost] at hcost
    exact ⟨text_eq_self.mp hsymbol, numeric_24_8_eq_self.mp hquantity,
      mapM_numeric_eq_self.mp hcost⟩
  · intro hstorable
    let row : PositionRow :=
      ⟨id, holding.Symbol, holding.Quantity, holding.CostBasis, hvalid.quantity,
        hvalid.cost_basis⟩
    refine ⟨row, position_row_eq_ok.mpr ⟨?_, ?_, ?_, rfl⟩, rfl⟩
    · exact text_eq_self.mpr hstorable.symbol
    · exact numeric_24_8_eq_self.mpr hstorable.quantity
    · exact mapM_numeric_eq_self.mpr hstorable.cost_basis

/-! ## The header -/

/-- A blank text is stored as `NULL`; it has no NUL character in it. -/
theorem isOk_text_nullIfEmpty {s : String} :
    ((nullIfEmpty s).mapM text).isOk = true ↔ '\x00' ∉ s.toList := by
  unfold nullIfEmpty
  by_cases hblank : Go.TrimSpace s = ""
  · rw [if_pos hblank]
    refine ⟨fun _ hnul => ?_, fun _ => rfl⟩
    have hspace := Text.trim_eq_empty.mp hblank _ hnul
    exact absurd hspace (by decide)
  · rw [if_neg hblank, ← isOk_text, Option.mapM_some]
    cases text s with
    | error e => rfl
    | ok t => rfl

theorem isOk_portfolio_row {p : Portfolio} :
    (portfolio_row p).isOk = true ↔
      (∀ s ∈ [p.ID, p.Name, p.Description, p.BaseCurrency, p.Benchmark], '\x00' ∉ s.toList) ∧
        btrim p.Name ≠ "" := by
  simp only [List.forall_mem_cons, List.not_mem_nil, false_imp_iff, implies_true, and_true]
  rw [← isOk_text, ← isOk_text (s := p.Name), ← isOk_text_nullIfEmpty, ← isOk_text,
    ← isOk_text (s := p.Benchmark)]
  -- Five columns of text, and the check of the name.
  unfold portfolio_row
  simp only [Outcome.isOk_bind]
  constructor
  · rintro ⟨id, hid, name, hname, description, hdescription, base_currency, hcurrency, benchmark,
      hbenchmark, hrow⟩
    refine ⟨⟨Outcome.isOk_of_eq_ok hid, Outcome.isOk_of_eq_ok hname,
      Outcome.isOk_of_eq_ok hdescription, Outcome.isOk_of_eq_ok hcurrency,
      Outcome.isOk_of_eq_ok hbenchmark⟩, ?_⟩
    obtain rfl := text_eq_ok hname
    intro hblank
    rw [dif_neg (not_not.mpr hblank)] at hrow
    cases hrow
  · rintro ⟨⟨hid, hname, hdescription, hcurrency, hbenchmark⟩, hblank⟩
    obtain ⟨id, hid⟩ := Outcome.exists_eq_ok hid
    obtain ⟨name, hname⟩ := Outcome.exists_eq_ok hname
    obtain ⟨description, hdescription⟩ := Outcome.exists_eq_ok hdescription
    obtain ⟨base_currency, hcurrency⟩ := Outcome.exists_eq_ok hcurrency
    obtain ⟨benchmark, hbenchmark⟩ := Outcome.exists_eq_ok hbenchmark
    refine ⟨id, hid, name, hname, description, hdescription, base_currency, hcurrency, benchmark,
      hbenchmark, ?_⟩
    obtain rfl := text_eq_ok hname
    rw [dif_pos hblank]
    rfl

/-! ## The rows of a committed transaction -/

variable {db db' : Database}

/-- A row that is inserted was not there, and goes to the end of the table. -/
theorem items_insert_row {row : PositionRow} (h : db.insert_row row = .ok db') :
    db'.positions.items = db.positions.items ++ [row] := by
  have hupsert := (insert_row_frame h).2
  unfold insert_row at h
  by_cases hkey : (db.positions.get? row.key).isSome
  · rw [if_pos hkey] at h
    cases h
  · have hnone : db.positions.get? row.key = none := by simpa using hkey
    rw [hupsert]
    apply Keyed.upsertList_of_notMem
    intro hmem
    obtain ⟨old, hold, heq⟩ := List.mem_map.mp hmem
    exact Keyed.get?_eq_none.mp hnone old hold heq

/-- Every holding has become one row, in the order of the request. -/
theorem insert_positions_eq_ok {id : String} {holdings : List Holding}
    (h : insert_positions id db holdings = .ok db') :
    ∃ rows, List.Forall₂ (fun holding row => position_row id holding = .ok row) holdings rows ∧
      db'.positions.items = db.positions.items ++ rows := by
  induction holdings generalizing db with
  | nil =>
    obtain rfl := Except.ok.inj h
    exact ⟨[], .nil, by simp⟩
  | cons holding holdings ih =>
    unfold insert_positions at h
    cases hinsert : db.insert_position id holding with
    | error cause => rw [hinsert] at h; cases h
    | ok next =>
      rw [hinsert] at h
      -- The row of the first holding, before the rows of the others.
      obtain ⟨row, hrow, hinserted⟩ := insert_position_eq_ok.mp hinsert
      obtain ⟨rows, hrows, hitems⟩ := ih h
      refine ⟨row :: rows, .cons hrow hrows, ?_⟩
      rw [hitems, items_insert_row hinserted, List.append_assoc]
      rfl

/-- What `GetPortfolio` reads after the transaction: the new rows and no others. -/
theorem select_positions_SavePortfolio {p : Portfolio} (h : db.SavePortfolio p = .ok db') :
    ∃ rows, List.Forall₂ (fun holding row => position_row p.ID holding = .ok row) p.Holdings rows ∧
      (db'.select_positions p.ID).Perm (rows.map PositionRow.holding) := by
  unfold SavePortfolio at h
  cases hrow : portfolio_row p with
  | error cause => rw [hrow] at h; cases h
  | ok header =>
    rw [hrow] at h
    obtain ⟨rows, hrows, hitems⟩ := insert_positions_eq_ok h
    refine ⟨rows, hrows, ?_⟩
    have hnew : ∀ row ∈ rows, row.portfolio_id = p.ID :=
      ((List.forall₂_and_left _ _).mp (hrows.flip.imp fun row holding hrow =>
        ⟨(position_row_eq_ok.mp hrow).2.2.2, hrow⟩)).1
    -- The old rows of the portfolio have been cleared.
    have hfilter : db'.positions.items.filter (fun row => row.portfolio_id = p.ID) = rows := by
      rw [hitems, List.filter_append]
      have hold : ((db.upsert_portfolio header).clear_positions p.ID).positions.items.filter
          (fun row => row.portfolio_id = p.ID) = [] := by
        rw [List.filter_eq_nil_iff]
        intro row hmem
        simpa using (List.mem_filter.mp hmem).2
      rw [hold, List.nil_append, List.filter_eq_self]
      exact fun row hmem => decide_eq_true (hnew row hmem)
    unfold select_positions
    rw [hfilter]
    exact (List.perm_insertionSort _ rows).map _

/-- A list is determined by its items and the order of their keys. -/
theorem eq_of_perm_of_map_eq {α β : Type} {f : α → β} {l l' : List α} (hperm : l.Perm l')
    (hmap : l.map f = l'.map f) (hnodup : (l'.map f).Nodup) : l = l' := by
  apply List.ext_getElem hperm.length_eq
  intro i hi hi'
  have hkey : (l.map f)[i]? = (l'.map f)[i]? := by rw [hmap]
  rw [List.getElem?_map, List.getElem?_map, List.getElem?_eq_getElem hi,
    List.getElem?_eq_getElem hi'] at hkey
  have hkey : f l[i] = f l'[i] := Option.some.inj hkey
  exact List.inj_on_of_nodup_map hnodup (hperm.subset (List.getElem_mem hi))
    (List.getElem_mem hi') hkey

/-- A row keeps the symbol. Induction over the rows. -/
theorem symbols_of_rows {id : String} {holdings : List Holding} {rows : List PositionRow}
    (hrows : List.Forall₂ (fun holding row => position_row id holding = .ok row) holdings rows) :
    (rows.map PositionRow.holding).map Holding.Symbol = holdings.map Holding.Symbol := by
  induction hrows with
  | nil => rfl
  | cons hrow _ ih =>
    rw [List.map_cons, List.map_cons, List.map_cons, ih]
    show _ :: _ = _
    rw [← text_eq_ok (position_row_eq_ok.mp hrow).1]
    rfl

/-- The rows are the holdings exactly when each holding is storable. Induction
    over the rows. -/
theorem rows_eq_iff {id : String} {holdings : List Holding} {rows : List PositionRow}
    (hrows : List.Forall₂ (fun holding row => position_row id holding = .ok row) holdings rows)
    (hvalid : ∀ h ∈ holdings, h.Valid) :
    rows.map PositionRow.holding = holdings ↔ ∀ h ∈ holdings, StorableHolding h := by
  induction hrows with
  | nil => simp
  | @cons holding row holdings rows hrow _ ih =>
    rw [List.forall_mem_cons] at hvalid
    -- A holding has one row only, so the row that gives it back is this one.
    have hfirst : row.holding = holding ↔ StorableHolding holding := by
      rw [← exists_row_iff hvalid.1]
      constructor
      · exact fun h => ⟨row, hrow, h⟩
      · rintro ⟨row', hrow', h⟩
        obtain rfl := Except.ok.inj (hrow.symm.trans hrow')
        exact h
    rw [List.map_cons, List.cons.injEq, List.forall_mem_cons, hfirst, ih hvalid.2]

/-- The rows give the holdings back, in any order, exactly when each holding is
    storable. -/
theorem rows_perm_iff {id : String} {holdings : List Holding} {rows : List PositionRow}
    (hrows : List.Forall₂ (fun holding row => position_row id holding = .ok row) holdings rows)
    (hvalid : ∀ h ∈ holdings, h.Valid) (hsymbols : (holdings.map Holding.Symbol).Nodup) :
    (rows.map PositionRow.holding).Perm holdings ↔ ∀ h ∈ holdings, StorableHolding h := by
  rw [← rows_eq_iff hrows hvalid]
  constructor
  · -- The symbols are distinct and in the same order: there is one such permutation.
    intro hperm
    exact eq_of_perm_of_map_eq hperm (symbols_of_rows hrows) hsymbols
  · intro heq
    rw [heq]

/-! ## Reading the portfolio back -/

/-- `PortfolioRepository.GetPortfolio`, with nothing between its two statements. -/
def GetPortfolio (db : Database) (id : String) : Except Error Portfolio := do
  let header ← db.select_portfolio id
  .ok (header.portfolio (db.select_positions id))

/-- A portfolio that has been saved is found. -/
theorem GetPortfolio_SavePortfolio {p : Portfolio} (h : db.SavePortfolio p = .ok db') :
    ∃ saved, db'.GetPortfolio p.ID = .ok saved ∧
      saved.Holdings = db'.select_positions p.ID := by
  have hadmitted := (isOk_SavePortfolio db p).mp (Outcome.isOk_of_eq_ok h)
  have hid : '\x00' ∉ p.ID.toList :=
    (isOk_portfolio_row.mp hadmitted.header).1 _ List.mem_cons_self
  obtain ⟨header, hheader⟩ := Option.isSome_iff_exists.mp (has_SavePortfolio h)
  have hselect : db'.select_portfolio p.ID = .ok header := by
    simp only [select_portfolio, text_eq_self.mpr hid, hheader]
  refine ⟨header.portfolio (db'.select_positions p.ID), ?_, rfl⟩
  exact Outcome.bind_eq_ok.mpr ⟨header, hselect, rfl⟩

end Database

end postgres

namespace portfolio

open postgres (Database Exact)
open postgres.Database (StorableHolding)

/-! ## The round trip -/

/-- The portfolios that `Service.Save` and `Service.Update` hand to
    `SavePortfolio` for a request. -/
inductive Saves (req : SaveRequest) : Portfolio → Prop
  | created (id : String) (now : Time) : Saves req (created id now req)
  | updated (existing : Portfolio) (now : Time) : Saves req (updated existing now req)

theorem Saves.name {req : SaveRequest} {p : Portfolio} (h : Saves req p) :
    p.Name = Go.TrimSpace req.Name := by
  cases h with
  | created id now => rfl
  | updated existing now => rfl

theorem Saves.holdings {req : SaveRequest} {p : Portfolio} (h : Saves req p) :
    p.Holdings = req.Holdings := by
  cases h with
  | created id now => rfl
  | updated existing now => rfl

/-- No text has a NUL character, and every number has at most eight decimals and
    sixteen digits before the point. -/
structure Storable (p : Portfolio) : Prop where
  header : ∀ s ∈ [p.ID, p.Name, p.Description, p.BaseCurrency, p.Benchmark],
    '\x00' ∉ s.toList
  holdings : ∀ h ∈ p.Holdings, StorableHolding h

/-- The transaction commits, and the same holdings are read again. -/
def RoundTrips (db : Database) (p : Portfolio) : Prop :=
  ∃ db' saved, db.SavePortfolio p = .ok db' ∧ db'.GetPortfolio p.ID = .ok saved ∧
    saved.Holdings.Perm p.Holdings

section

variable {req : SaveRequest} {p : Portfolio} {db : Database}

/-- What comes back unchanged has been stored unchanged. -/
theorem RoundTrips.storable (haccepted : req.Accepted) (hsaves : Saves req p)
    (h : RoundTrips db p) : Storable p := by
  obtain ⟨db', saved, hsave, hget, hperm⟩ := h
  have hadmitted := (Database.isOk_SavePortfolio db p).mp (Outcome.isOk_of_eq_ok hsave)
  refine ⟨(Database.isOk_portfolio_row.mp hadmitted.header).1, ?_⟩
  obtain ⟨rows, hrows, hselected⟩ := Database.select_positions_SavePortfolio hsave
  obtain ⟨saved', hget', hholdings⟩ := Database.GetPortfolio_SavePortfolio hsave
  obtain rfl := Except.ok.inj (hget.symm.trans hget')
  rw [hholdings] at hperm
  have hvalid : ∀ h ∈ p.Holdings, h.Valid := by
    rw [hsaves.holdings]
    exact haccepted.holdings
  exact (Database.rows_perm_iff hrows hvalid hadmitted.symbols).mp (hselected.symm.trans hperm)

/-- What the columns hold as it is passes their checks, and comes back. -/
theorem Storable.roundTrips (haccepted : req.Accepted) (hsaves : Saves req p)
    (h : Storable p) : RoundTrips db p := by
  have hvalid : ∀ h ∈ p.Holdings, h.Valid := by
    rw [hsaves.holdings]
    exact haccepted.holdings
  have hsymbols : (p.Holdings.map Holding.Symbol).Nodup := by
    rw [hsaves.holdings]
    exact haccepted.symbols
  -- Blanks are white space, so what Go has trimmed has none left to trim.
  have hname : postgres.btrim p.Name ≠ "" := by
    have hblank : ∀ c, decide (c = ' ') = true → Go.is_space c = true := by
      intro c hc
      obtain rfl := of_decide_eq_true hc
      decide
    rw [hsaves.name, postgres.btrim, Go.TrimSpace, Text.trim_trim_of_imp hblank]
    exact haccepted.name
  have hadmitted : Database.Admitted p := by
    refine ⟨Database.isOk_portfolio_row.mpr ⟨h.header, hname⟩, ?_, hsymbols⟩
    intro holding hmem
    obtain ⟨row, hrow, -⟩ := (Database.exists_row_iff (hvalid _ hmem)).mpr (h.holdings _ hmem)
    exact Outcome.isOk_of_eq_ok hrow
  obtain ⟨db', hsave⟩ := Outcome.exists_eq_ok ((Database.isOk_SavePortfolio db p).mpr hadmitted)
  obtain ⟨rows, hrows, hselected⟩ := Database.select_positions_SavePortfolio hsave
  obtain ⟨saved, hget, hholdings⟩ := Database.GetPortfolio_SavePortfolio hsave
  refine ⟨db', saved, hsave, hget, ?_⟩
  rw [hholdings]
  exact hselected.trans ((Database.rows_perm_iff hrows hvalid hsymbols).mpr h.holdings)

end

/-- **Round trip**: the holdings of an accepted request come back as they were
    saved exactly when the columns can hold them as they are. -/
theorem saved_holdings_return {req : SaveRequest} {p : Portfolio} (haccepted : req.Validate = none)
    (hsaves : Saves req p) (db : Database) : RoundTrips db p ↔ Storable p :=
  ⟨RoundTrips.storable (SaveRequest.accepted haccepted) hsaves,
    Storable.roundTrips (SaveRequest.accepted haccepted) hsaves⟩

/-- A fraction of a share, bought at a known price, beside a holding without. -/
def fractional (quantity : ℚ) : SaveRequest where
  Name := "Core"
  Holdings := [⟨"TCS.NS", quantity, some (3150 + 1 / 4)⟩, ⟨"INFY.NS", 2, none⟩]

theorem fractional_does_not_return {quantity : ℚ} {db : Database}
    (haccepted : (fractional quantity).Validate = none) (h : (quantity * 10 ^ 8).den ≠ 1) :
    ¬ RoundTrips db (created "pf_1" 0 (fractional quantity)) := by
  intro hreturns
  have hstorable := hreturns.storable (SaveRequest.accepted haccepted) (.created "pf_1" 0)
  obtain ⟨⟨n, hn⟩, -⟩ := (hstorable.holdings _ List.mem_cons_self).quantity
  apply h
  show (quantity * 10 ^ 8).den = 1
  rw [hn]
  exact Rat.den_intCast n

theorem exact_price : Exact (3150 + 1 / 4) := ⟨⟨315025000000, by norm_num⟩, by norm_num [abs_lt]⟩

theorem exact_two : Exact 2 := ⟨⟨200000000, by norm_num⟩, by norm_num⟩

/-- An eighth of a share comes back, into a database that has the portfolio
    already. -/
theorem saved_holdings_return_for_an_eighth :
    RoundTrips one_portfolio.db (created "pf_1" 0 (fractional (1 / 8))) :=
  (saved_holdings_return (by decide +kernel) (.created "pf_1" 0) one_portfolio.db).mpr
    { header := by decide
      holdings := by
        refine List.forall_mem_cons.mpr ⟨⟨by decide, ?_, ?_⟩,
          List.forall_mem_cons.mpr ⟨⟨by decide, exact_two, by simp⟩, by simp⟩⟩
        · exact ⟨⟨12500000, by norm_num⟩, by norm_num [abs_lt]⟩
        · rintro c ⟨⟩
          exact exact_price }

/-- The columns round the ninth decimal. The validator accepts both quantities:
    one comes back larger than it was entered, the other rounds to zero, and the
    table refuses it. -/
theorem ninth_decimal_is_lost :
    (fractional (123456789 / 10 ^ 9)).Validate = none ∧
      ¬ RoundTrips one_portfolio.db (created "pf_1" 0 (fractional (123456789 / 10 ^ 9))) ∧
      (one_portfolio.db.SavePortfolio
          (created "pf_1" 0 (fractional (123456789 / 10 ^ 9)))).toOption.map
        (fun db => db.select_positions "pf_1")
          = some [⟨"INFY.NS", 2, none⟩,
              ⟨"TCS.NS", 12345679 / 10 ^ 8, some (3150 + 1 / 4)⟩] ∧
      (fractional (1 / 10 ^ 9)).Validate = none ∧
      ¬ RoundTrips one_portfolio.db (created "pf_1" 0 (fractional (1 / 10 ^ 9))) ∧
      (one_portfolio.db.SavePortfolio
          (created "pf_1" 0 (fractional (1 / 10 ^ 9)))).toOption.isNone := by
  have hlost : (fractional (123456789 / 10 ^ 9)).Validate = none := by decide +kernel
  have hrefused : (fractional (1 / 10 ^ 9)).Validate = none := by decide +kernel
  exact ⟨hlost, fractional_does_not_return hlost (by decide +kernel), by decide +kernel,
    hrefused, fractional_does_not_return hrefused (by decide +kernel), by decide +kernel⟩

end portfolio

end Quantora
