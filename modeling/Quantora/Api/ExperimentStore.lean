import Quantora.Api.Experiment
import Quantora.Api.Postgres
import Quantora.Python.Dates

/-! # Saved experiments: the database

    The table `experiments` with the constraints of its migration, and the
    statements of `ExperimentRepository` on it.

    * `ExperimentRow` — a row, with its `CHECK` constraint.
    * `Save` — one `INSERT`; `Get` — one `SELECT`.
    * `experiment_of_row` — an experiment that was stored is read back as it
      was, its time to the microsecond.

    What a `DATE` column makes of a text is a parameter; `to_char` writes the
    date back as `YYYY-MM-DD`. -/

namespace Quantora

/-! ## Documents without a NUL -/

mutual

/-- No text of the document, and no key, holds a NUL. -/
def Json.nul_free : Json → Bool
  | .str s => '\x00' ∉ s.toList
  | .arr items => Json.nul_free_items items
  | .obj fields => Json.nul_free_fields fields
  | _ => true

def Json.nul_free_items : List Json → Bool
  | [] => true
  | item :: items => item.nul_free && Json.nul_free_items items

def Json.nul_free_fields : List (String × Json) → Bool
  | [] => true
  | (key, value) :: fields => '\x00' ∉ key.toList && value.nul_free && Json.nul_free_fields fields

end

theorem nul_free_fields_iff {fields : List (String × Json)} :
    Json.nul_free_fields fields = true
      ↔ ∀ field ∈ fields, '\x00' ∉ field.1.toList ∧ field.2.nul_free = true := by
  induction fields with
  | nil => simp [Json.nul_free_fields]
  | cons field fields ih => simp [Json.nul_free_fields, ih]

theorem nul_free_number (x : ℚ) : (Go.number x).nul_free = true := by
  unfold Go.number
  split_ifs <;> rfl

mutual

/-- Decoding a document and encoding it again brings in no text. -/
theorem nul_free_of_unmarshal : ∀ (document : Json) {value : Go.Any},
    document.nul_free = true → Go.unmarshal document = some value →
    (Go.marshal value).nul_free = true
  | .null, _, _, h => by
    obtain rfl := Option.some.inj h
    rfl
  | .bool _, _, _, h => by
    obtain rfl := Option.some.inj h
    rfl
  | .int n, _, _, h => by
    obtain rfl := Option.some.inj h
    exact nul_free_number n
  | .float (.num x), _, _, h => by
    obtain rfl := Option.some.inj h
    exact nul_free_number x
  | .float .nan, _, _, h => nomatch h
  | .float (.inf _), _, _, h => nomatch h
  | .str _, _, hfree, h => by
    obtain rfl := Option.some.inj h
    exact hfree
  | .arr items, _, hfree, h => by
    rw [Go.unmarshal] at h
    obtain ⟨values, hvalues, rfl⟩ := Option.map_eq_some_iff.mp h
    exact nul_free_of_unmarshal_items items hfree hvalues
  | .obj fields, _, hfree, h => by
    rw [Go.unmarshal] at h
    obtain ⟨entries, hentries, rfl⟩ := Option.map_eq_some_iff.mp h
    show Json.nul_free_fields (Go.marshal_entries (Go.Map.of entries)) = true
    have hall := nul_free_of_unmarshal_fields fields hfree hentries
    -- A map keeps some of the decoded entries, each as it was.
    rw [Go.marshal_entries_eq_map, nul_free_fields_iff] at hall ⊢
    intro field hfield
    obtain ⟨entry, hentry, rfl⟩ := List.mem_map.mp hfield
    exact hall _ (List.mem_map_of_mem (Go.Map.mem_of hentry))

theorem nul_free_of_unmarshal_items : ∀ (items : List Json) {values : List Go.Any},
    Json.nul_free_items items = true → Go.unmarshal_items items = some values →
    Json.nul_free_items (Go.marshal_items values) = true
  | [], _, _, h => by
    obtain rfl := Option.some.inj h
    rfl
  | item :: items, _, hfree, h => by
    rw [Go.unmarshal_items] at h
    obtain ⟨value, hvalue, h⟩ := Option.bind_eq_some_iff.mp h
    obtain ⟨values, hvalues, h⟩ := Option.bind_eq_some_iff.mp h
    obtain rfl := Option.some.inj h
    rw [Json.nul_free_items, Bool.and_eq_true] at hfree
    rw [Go.marshal_items, Json.nul_free_items, nul_free_of_unmarshal item hfree.1 hvalue,
      nul_free_of_unmarshal_items items hfree.2 hvalues]
    rfl

theorem nul_free_of_unmarshal_fields : ∀ (fields : List (String × Json))
    {entries : List (String × Go.Any)},
    Json.nul_free_fields fields = true → Go.unmarshal_fields fields = some entries →
    Json.nul_free_fields (Go.marshal_entries entries) = true
  | [], _, _, h => by
    obtain rfl := Option.some.inj h
    rfl
  | (key, item) :: fields, _, hfree, h => by
    rw [Go.unmarshal_fields] at h
    obtain ⟨value, hvalue, h⟩ := Option.bind_eq_some_iff.mp h
    obtain ⟨entries, hentries, h⟩ := Option.bind_eq_some_iff.mp h
    obtain rfl := Option.some.inj h
    rw [Json.nul_free_fields, Bool.and_eq_true, Bool.and_eq_true] at hfree
    rw [Go.marshal_entries, Json.nul_free_fields, hfree.1.1,
      nul_free_of_unmarshal item hfree.1.2 hvalue,
      nul_free_of_unmarshal_fields fields hfree.2 hentries]
    rfl

end

namespace postgres

open portfolio (SqlError Time)
open experiment (Experiment Error)

/-! ## Column types -/

/-- `JSONB`. -/
def jsonb (document : Json) : Except SqlError Json :=
  if document.nul_free then .ok document else .error .invalid_text

/-- `INTEGER`. -/
def integer (n : ℤ) : Except SqlError ℤ :=
  if -2147483648 ≤ n ∧ n < 2147483648 then .ok n else .error .numeric_overflow

/-- How a `DATE` column reads a text. -/
abbrev DateInput := String → Option Python.Date

/-- `DATE`. -/
def date (input : DateInput) (s : String) : Except SqlError Python.Date :=
  match input s with
  | some d => .ok d
  | none => .error .invalid_date

/-- Dates that are written as `YYYY-MM-DD` are read as such. -/
def ReadsIsoDates (input : DateInput) : Prop := ∀ d : Python.Date, input d.isoformat = some d

/-! ## The table -/

structure ExperimentRow where
  id : String
  name : Option String
  notes : Option String
  strategy : String
  parameters : Json
  symbol : String
  interval : String
  start_date : Python.Date
  end_date : Python.Date
  cost_model : Json
  backtest_config : Json
  data_version : String
  code_version : String
  contract_version : ℤ
  result : Json
  created_at : Time
  /-- `start_date <= end_date`. -/
  experiments_date_range_valid : ¬ end_date.Before start_date

abbrev Experiments := Keyed ExperimentRow.id

/-! ## Statements -/

section Statements

variable (input : DateInput) (experiments : Experiments)

/-- The row of an experiment, if the columns admit it. -/
def experiment_row (e : Experiment) : Except SqlError ExperimentRow := do
  let id ← text e.ID
  let name ← (nullIfEmpty e.Name).mapM text
  let notes ← (nullIfEmpty e.Notes).mapM text
  let strategy ← text e.Strategy
  let parameters ← jsonb (Go.marshal (.map e.Parameters))
  let symbol ← text e.Symbol
  let interval ← text e.Interval
  let start_date ← date input e.Start
  let end_date ← date input e.End
  let cost_model ← jsonb (Go.marshal (.map e.CostModel))
  let backtest_config ← jsonb (Go.marshal (.map e.BacktestConfig))
  let data_version ← text e.DataVersion
  let code_version ← text e.CodeVersion
  let contract_version ← integer e.ContractVersion
  let result ← jsonb (Go.marshal e.Result)
  if h : ¬ end_date.Before start_date then
    .ok
      { id := id
        name := name
        notes := notes
        strategy := strategy
        parameters := parameters
        symbol := symbol
        interval := interval
        start_date := start_date
        end_date := end_date
        cost_model := cost_model
        backtest_config := backtest_config
        data_version := data_version
        code_version := code_version
        contract_version := contract_version
        result := result
        created_at := timestamptz e.CreatedAt
        experiments_date_range_valid := h }
  else .error (.check_violation "experiments_date_range_valid")

/-- `ExperimentRepository.Save`. -/
def Save (e : Experiment) : Except Error Experiments :=
  match experiment_row input e with
  | .error cause => .error (.failed ("insert experiment " ++ e.ID) cause)
  | .ok row =>
    if (experiments.get? row.id).isSome then
      .error (.failed ("insert experiment " ++ e.ID) (.unique_violation "experiments_pkey"))
    else .ok (experiments.upsert row)

/-- `unmarshalObject`. -/
def unmarshalObject (raw : Json) : Go.Map :=
  match Go.unmarshal raw with
  | some (.map entries) => entries
  | _ => []

/-- What `Get` scans out of a row. -/
def ExperimentRow.experiment (row : ExperimentRow) : Experiment where
  ID := row.id
  Name := row.name.getD ""
  Notes := row.notes.getD ""
  Strategy := row.strategy
  Symbol := row.symbol
  Interval := row.interval
  Start := row.start_date.isoformat
  End := row.end_date.isoformat
  Parameters := unmarshalObject row.parameters
  CostModel := unmarshalObject row.cost_model
  BacktestConfig := unmarshalObject row.backtest_config
  DataVersion := row.data_version
  CodeVersion := row.code_version
  ContractVersion := row.contract_version
  Result := (Go.unmarshal row.result).getD .nil
  CreatedAt := row.created_at

/-- `ExperimentRepository.Get`. -/
def Get (id : String) : Except Error Experiment :=
  match text id with
  | .error cause => .error (.failed ("load experiment " ++ id) cause)
  | .ok id =>
    match experiments.get? id with
    | none => .error (.ErrNotFound id)
    | some row => .ok row.experiment

end Statements

/-! ## What was stored is read back -/

theorem jsonb_eq_ok {document stored : Json} (h : jsonb document = .ok stored) :
    stored = document := by
  unfold jsonb at h
  split_ifs at h
  exact (Except.ok.inj h).symm

theorem integer_eq_ok {n m : ℤ} (h : integer n = .ok m) : m = n := by
  unfold integer at h
  split_ifs at h
  exact (Except.ok.inj h).symm

/-- A date that is written in the ISO form comes back in it. -/
theorem isoformat_of_date {input : DateInput} (hinput : ReadsIsoDates input) {d d' : Python.Date}
    (h : date input d.isoformat = .ok d') : d' = d := by
  rw [date, hinput d] at h
  exact (Except.ok.inj h).symm

/-- A blank text is stored as `NULL`, and read back as the empty one. -/
theorem getD_of_nullIfEmpty {s : String} {stored : Option String}
    (hblank : Go.TrimSpace s = "" → s = "") (h : (nullIfEmpty s).mapM text = .ok stored) :
    stored.getD "" = s := by
  unfold nullIfEmpty at h
  split_ifs at h with hempty
  · obtain rfl := Except.ok.inj h
    exact (hblank hempty).symm
  · obtain ⟨t, ht, h⟩ := Outcome.bind_eq_ok.mp h
    obtain rfl := Except.ok.inj h
    exact text_eq_ok ht

theorem unmarshalObject_marshal {m : Go.Map} (h : (Go.Any.map m).Distinct) :
    unmarshalObject (Go.marshal (.map m)) = m := by
  rw [unmarshalObject, Go.unmarshal_marshal _ h]

/-- What a row holds of the experiment that it was made from. -/
structure Stores (input : DateInput) (e : Experiment) (row : ExperimentRow) : Prop where
  id : row.id = e.ID
  name : (nullIfEmpty e.Name).mapM text = .ok row.name
  notes : (nullIfEmpty e.Notes).mapM text = .ok row.notes
  strategy : row.strategy = e.Strategy
  parameters : row.parameters = Go.marshal (.map e.Parameters)
  symbol : row.symbol = e.Symbol
  interval : row.interval = e.Interval
  start_date : date input e.Start = .ok row.start_date
  end_date : date input e.End = .ok row.end_date
  cost_model : row.cost_model = Go.marshal (.map e.CostModel)
  backtest_config : row.backtest_config = Go.marshal (.map e.BacktestConfig)
  data_version : row.data_version = e.DataVersion
  code_version : row.code_version = e.CodeVersion
  contract_version : row.contract_version = e.ContractVersion
  result : row.result = Go.marshal e.Result
  created_at : row.created_at = timestamptz e.CreatedAt

theorem stores_of_row {input : DateInput} {e : Experiment} {row : ExperimentRow}
    (h : experiment_row input e = .ok row) : Stores input e row := by
  -- Column by column, and then the check of the table.
  obtain ⟨id, hid, h⟩ := Outcome.bind_eq_ok.mp h
  obtain ⟨name, hname, h⟩ := Outcome.bind_eq_ok.mp h
  obtain ⟨notes, hnotes, h⟩ := Outcome.bind_eq_ok.mp h
  obtain ⟨strategy, hstrategy, h⟩ := Outcome.bind_eq_ok.mp h
  obtain ⟨parameters, hparameters, h⟩ := Outcome.bind_eq_ok.mp h
  obtain ⟨symbol, hsymbol, h⟩ := Outcome.bind_eq_ok.mp h
  obtain ⟨interval, hinterval, h⟩ := Outcome.bind_eq_ok.mp h
  obtain ⟨start_date, hstart, h⟩ := Outcome.bind_eq_ok.mp h
  obtain ⟨end_date, hend, h⟩ := Outcome.bind_eq_ok.mp h
  obtain ⟨cost_model, hcosts, h⟩ := Outcome.bind_eq_ok.mp h
  obtain ⟨backtest_config, hconfig, h⟩ := Outcome.bind_eq_ok.mp h
  obtain ⟨data_version, hversion, h⟩ := Outcome.bind_eq_ok.mp h
  obtain ⟨code_version, hcode, h⟩ := Outcome.bind_eq_ok.mp h
  obtain ⟨contract_version, hcontract, h⟩ := Outcome.bind_eq_ok.mp h
  obtain ⟨result, hresult, h⟩ := Outcome.bind_eq_ok.mp h
  split_ifs at h with horder
  obtain rfl := Except.ok.inj h
  exact
    { id := text_eq_ok hid
      name := hname
      notes := hnotes
      strategy := text_eq_ok hstrategy
      parameters := jsonb_eq_ok hparameters
      symbol := text_eq_ok hsymbol
      interval := text_eq_ok hinterval
      start_date := hstart
      end_date := hend
      cost_model := jsonb_eq_ok hcosts
      backtest_config := jsonb_eq_ok hconfig
      data_version := text_eq_ok hversion
      code_version := text_eq_ok hcode
      contract_version := integer_eq_ok hcontract
      result := jsonb_eq_ok hresult
      created_at := rfl }

/-- The columns admit the experiment. -/
structure Admits (input : DateInput) (e : Experiment) : Prop where
  id : '\x00' ∉ e.ID.toList
  name : '\x00' ∉ e.Name.toList
  notes : '\x00' ∉ e.Notes.toList
  strategy : '\x00' ∉ e.Strategy.toList
  parameters : (Go.marshal (.map e.Parameters)).nul_free = true
  symbol : '\x00' ∉ e.Symbol.toList
  interval : '\x00' ∉ e.Interval.toList
  window : ∃ first last : Python.Date, input e.Start = some first ∧ input e.End = some last ∧
    ¬ last.Before first
  cost_model : (Go.marshal (.map e.CostModel)).nul_free = true
  backtest_config : (Go.marshal (.map e.BacktestConfig)).nul_free = true
  data_version : '\x00' ∉ e.DataVersion.toList
  code_version : '\x00' ∉ e.CodeVersion.toList
  contract_version : -2147483648 ≤ e.ContractVersion ∧ e.ContractVersion < 2147483648
  result : (Go.marshal e.Result).nul_free = true

theorem text_of_nul_free {s : String} (h : '\x00' ∉ s.toList) : text s = .ok s := by
  rw [text, if_neg h]

theorem exists_nullIfEmpty {s : String} (h : '\x00' ∉ s.toList) :
    ∃ stored, (nullIfEmpty s).mapM text = .ok stored := by
  unfold nullIfEmpty
  split_ifs
  · exact ⟨none, rfl⟩
  · exact ⟨some s, Outcome.bind_eq_ok.mpr ⟨s, text_of_nul_free h, rfl⟩⟩

theorem exists_row {input : DateInput} {e : Experiment} (h : Admits input e) :
    ∃ row, experiment_row input e = .ok row := by
  obtain ⟨name, hname⟩ := exists_nullIfEmpty h.name
  obtain ⟨notes, hnotes⟩ := exists_nullIfEmpty h.notes
  obtain ⟨first, last, hfirst, hlast, horder⟩ := h.window
  -- Each column takes what it is given.
  have hjsonb : ∀ document : Json, document.nul_free = true → jsonb document = .ok document := by
    intro document hfree
    rw [jsonb, if_pos hfree]
  have hstart : date input e.Start = .ok first := by rw [date, hfirst]
  have hend : date input e.End = .ok last := by rw [date, hlast]
  have hcontract : integer e.ContractVersion = .ok e.ContractVersion := by
    rw [integer, if_pos h.contract_version]
  rw [experiment_row, text_of_nul_free h.id, hname, hnotes, text_of_nul_free h.strategy,
    hjsonb _ h.parameters, text_of_nul_free h.symbol, text_of_nul_free h.interval, hstart, hend,
    hjsonb _ h.cost_model, hjsonb _ h.backtest_config, text_of_nul_free h.data_version,
    text_of_nul_free h.code_version, hcontract, hjsonb _ h.result]
  simp only [bind, Except.bind, dif_pos horder]
  exact ⟨_, rfl⟩

/-- A new identity and admitted columns are all that `Save` needs. -/
theorem exists_save {input : DateInput} {experiments : Experiments} {e : Experiment}
    (h : Admits input e) (hnew : experiments.get? e.ID = none) :
    ∃ experiments', Save input experiments e = .ok experiments' := by
  obtain ⟨row, hrow⟩ := exists_row h
  have hfresh : (experiments.get? row.id).isSome = false := by
    rw [(stores_of_row hrow).id, hnew]
    rfl
  refine ⟨experiments.upsert row, ?_⟩
  simp only [Save, hrow, hfresh, Bool.false_eq_true, if_false]

/-- An experiment whose texts and documents are in the form that the services
    give them. -/
structure Storable (e : Experiment) : Prop where
  name : Go.TrimSpace e.Name = "" → e.Name = ""
  notes : Go.TrimSpace e.Notes = "" → e.Notes = ""
  start : ∃ d : Python.Date, e.Start = d.isoformat
  end_ : ∃ d : Python.Date, e.End = d.isoformat
  parameters : (Go.Any.map e.Parameters).Distinct
  cost_model : (Go.Any.map e.CostModel).Distinct
  backtest_config : (Go.Any.map e.BacktestConfig).Distinct
  result : e.Result.Distinct

/-- An experiment as the columns hold it: a time has no digit below a
    microsecond. -/
def stored (e : Experiment) : Experiment := { e with CreatedAt := timestamptz e.CreatedAt }

/-- **Round trip**: what `Get` reads off the row is what `Save` was given. -/
theorem experiment_of_row {input : DateInput} (hinput : ReadsIsoDates input) {e : Experiment}
    (he : Storable e) {row : ExperimentRow} (h : Stores input e row) :
    row.experiment = stored e := by
  obtain ⟨first, hfirst⟩ := he.start
  obtain ⟨last, hlast⟩ := he.end_
  have hstart : row.start_date = first := isoformat_of_date hinput (hfirst ▸ h.start_date)
  have hend : row.end_date = last := isoformat_of_date hinput (hlast ▸ h.end_date)
  simp only [ExperimentRow.experiment, h.id, h.strategy, h.parameters, h.symbol, h.interval,
    h.cost_model, h.backtest_config, h.data_version, h.code_version, h.contract_version, h.result,
    h.created_at,
    getD_of_nullIfEmpty he.name h.name, getD_of_nullIfEmpty he.notes h.notes,
    unmarshalObject_marshal he.parameters, unmarshalObject_marshal he.cost_model,
    unmarshalObject_marshal he.backtest_config, Go.unmarshal_marshal _ he.result,
    Option.getD_some, hstart, hend, ← hfirst, ← hlast, stored]

/-- **Main result**: while its row stays as it is, an experiment that was saved
    is read as it was saved. -/
theorem get_of_save {input : DateInput} (hinput : ReadsIsoDates input)
    {experiments experiments' later : Experiments} {e : Experiment} (he : Storable e)
    (hsave : Save input experiments e = .ok experiments')
    (hlater : later.get? e.ID = experiments'.get? e.ID) : Get later e.ID = .ok (stored e) := by
  unfold Save at hsave
  cases hrow : experiment_row input e with
  | error cause =>
    rw [hrow] at hsave
    cases hsave
  | ok row =>
    rw [hrow] at hsave
    simp only at hsave
    split_ifs at hsave
    obtain rfl := Except.ok.inj hsave
    have hstores := stores_of_row hrow
    obtain ⟨id, hid, -⟩ := Outcome.bind_eq_ok.mp hrow
    obtain rfl := text_eq_ok hid
    have hfound : later.get? e.ID = some row := by
      rw [hlater, ← hstores.id, Keyed.get?_upsert_self]
    rw [Get, hid]
    simp only [hfound, experiment_of_row hinput he hstores]

end postgres

end Quantora
