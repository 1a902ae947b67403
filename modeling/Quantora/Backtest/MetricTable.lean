import Quantora.Backtest.FiniteMetrics
import Quantora.Backtest.OneDataset

/-! # The metric table

    The table of a comparison, when its labels are distinct: every cell is a
    number or says why there is none, and the winner of a row is the first of the
    best.

    * `best_label_first` — the winner among values none of which is NaN.
    * `number_or_reason` — a metric of the table is a number or has a reason.
    * `metric_table_winners` — both, for every comparison that is returned. -/

namespace Quantora

open Champion

/-! ## The order of the values -/

namespace Python.Float

/-- What is no NaN lies above the smaller or below the greater. -/
theorem lt_or_lt {a b c : Python.Float} (hb : b ≠ .nan) (h : a.lt c = true) :
    a.lt b = true ∨ b.lt c = true := by
  cases b with
  | nan => exact absurd rfl hb
  | inf negative => cases a <;> cases c <;> cases negative <;> simp_all [lt]
  | num b =>
    cases a with
    | nan => cases c <;> cases h
    | inf negative => exact .inl (by cases c <;> simp_all [lt])
    | num a =>
      cases c with
      | nan => cases h
      | inf negative => exact .inr h
      | num c =>
        have hac : a < c := of_decide_eq_true h
        rcases lt_or_ge a b with hab | hba
        · exact .inl (decide_eq_true hab)
        · exact .inr (decide_eq_true (hba.trans_lt hac))

end Python.Float

namespace comparison

theorem Direction.asymm {direction : Direction} {a b : Python.Float}
    (h : direction.better a b = true) : direction.better b a = false := by
  cases direction with
  | higher => exact Python.Float.lt_asymm h
  | lower => exact Python.Float.lt_asymm h

theorem Direction.between {direction : Direction} {a b c : Python.Float} (hb : b ≠ .nan)
    (h : direction.better a c = true) :
    direction.better a b = true ∨ direction.better b c = true := by
  cases direction with
  | higher => exact (Python.Float.lt_or_lt hb h).symm
  | lower => exact Python.Float.lt_or_lt hb h

theorem Direction.strictWeak (direction : Direction) {items : List (String × Python.Float)}
    (h : ∀ item ∈ items, item.2 ≠ .nan) :
    StrictWeak (fun a b : String × Python.Float => direction.better a.2 b.2) items where
  asymm _ _ _ _ hbeats := Direction.asymm hbeats
  between _ _ b hb _ _ hbeats := Direction.between (h b hb) hbeats

/-! ## The winner of a row -/

section Winner

variable {items : List (String × Option Python.Float)} {label : String} {x : Python.Float}

/-- The labels that have a value, of labels that are distinct. -/
theorem comparable_columns (h : (items.map Prod.fst).Nodup) :
    comparable (columns items)
      = items.filterMap (fun entry => entry.2.map (entry.1, ·)) := by
  rw [comparable, columns, Keyed.items_ofList h]

theorem mem_comparable :
    (label, x) ∈ items.filterMap (fun entry => entry.2.map (entry.1, ·)) ↔
      (label, some x) ∈ items := by
  rw [List.mem_filterMap]
  constructor
  · rintro ⟨⟨label', value⟩, hmem, hvalue⟩
    obtain ⟨y, rfl, hy⟩ := Option.map_eq_some_iff.mp hvalue
    obtain ⟨rfl, rfl⟩ := Prod.mk.inj hy
    exact hmem
  · intro hmem
    exact ⟨_, hmem, rfl⟩

/-- The winner stands first among the best: it beats every value before it, and
    none beats it. -/
def Wins (direction : Direction) (items : List (String × Option Python.Float))
    (label : String) : Prop :=
  ∃ before after x, items = before ++ (label, some x) :: after ∧
    (∀ entry ∈ before, ∀ y, entry.2 = some y → direction.better x y = true) ∧
    ∀ entry ∈ items, ∀ y, entry.2 = some y → direction.better y x = false

theorem best_label_first {direction : Direction} (hlabels : (items.map Prod.fst).Nodup)
    (hnumbers : ∀ entry ∈ items, entry.2 ≠ some .nan)
    (h : best_label (some direction) (columns items) = some label) :
    Wins direction items label := by
  have horder : StrictWeak (fun a b : String × Python.Float => direction.better a.2 b.2)
      (items.filterMap (fun entry => entry.2.map (entry.1, ·))) := by
    refine direction.strictWeak fun item hitem hnan => ?_
    exact hnumbers _ (mem_comparable.mp hitem) (congrArg some hnan)
  rw [best_label] at h
  simp only [comparable_columns hlabels] at h
  split_ifs at h
  obtain ⟨⟨label', x⟩, hchampion, rfl⟩ := Option.map_eq_some_iff.mp h
  obtain ⟨before, after, hitems, hbefore, hnone⟩ := champion_first horder hchampion
  -- The place of the winner among the values is its place among the entries.
  obtain ⟨front, back, rfl, hfront, hback⟩ := List.filterMap_eq_append_iff.mp hitems
  obtain ⟨skipped, entry, rest, rfl, hskipped, hentry, -⟩ := List.filterMap_eq_cons_iff.mp hback
  obtain ⟨y, hy, hwinner⟩ := Option.map_eq_some_iff.mp hentry
  obtain ⟨rfl, rfl⟩ := Prod.mk.inj hwinner
  refine ⟨front ++ skipped, rest, y, ?_, fun entry' hentry' z hz => ?_,
    fun entry' hentry' z hz => ?_⟩
  · rw [← hy, List.append_assoc]
  · rcases List.mem_append.mp hentry' with hentry' | hentry'
    · refine hbefore (entry'.1, z) ?_
      rw [← hfront]
      exact List.mem_filterMap.mpr ⟨entry', hentry', by rw [hz]; rfl⟩
    · have hnothing := hskipped entry' hentry'
      rw [hz] at hnothing
      cases hnothing
  · refine hnone (entry'.1, z) (List.mem_filterMap.mpr ⟨entry', hentry', by rw [hz]; rfl⟩)

/-- There is a winner as soon as two entries have a value and the metric has a
    direction. -/
theorem best_label_eq_none (better : Option Direction) (hlabels : (items.map Prod.fst).Nodup) :
    best_label better (columns items) = none ↔
      better = none ∨ (items.filter (fun entry => entry.2.isSome)).length < 2 := by
  have hcount : (comparable (columns items)).length
      = (items.filter (fun entry => entry.2.isSome)).length := by
    rw [comparable_columns hlabels]
    clear hlabels
    induction items with
    | nil => rfl
    | cons entry items ih =>
      obtain ⟨label, value⟩ := entry
      cases value with
      | none => simpa using ih
      | some x => simpa using ih
  cases better with
  | none => simp [best_label]
  | some direction =>
    simp only [best_label, hcount, reduceCtorEq, false_or]
    split_ifs with hmany
    · have hsome : comparable (columns items) ≠ [] := by
        intro hnil
        rw [hnil, List.length_nil] at hcount
        omega
      simp only [Option.map_eq_none_iff, champion_eq_none]
      exact iff_of_false hsome (by omega)
    · exact iff_of_true rfl (by omega)

end Winner

/-! ## The cells -/

section Cells

variable (rt : Runtime) (equity : List ℚ) (trades : List Trade)
  (periods_per_year : {p : ℚ // 0 < p}) (risk_free_rate initial_cash total_costs
  traded_notional : ℚ) (exposure : Option (List ℚ))

@[simp] theorem as_number_float (x : Python.Float) : as_number (.float x) = some x := rfl

@[simp] theorem as_number_int (n : ℤ) : as_number (.int n) = some (.num n) := rfl

@[simp] theorem as_number_number (value : Option ℚ) :
    as_number (Json.number value) = value.map .num := by
  cases value <;> rfl

@[simp] theorem as_number_any_float (value : Option Python.Float) :
    as_number (Json.any_float value) = value := by
  cases value <;> rfl

/-- A metric of the table is one that may be `None`, or it is a number and never
    in `unavailable`. -/
theorem get_nullable (m : Metrics) {metric : String × String × Option Direction}
    (h : metric ∈ COMPARISON_METRICS) :
    (metric.1, get m metric.1) ∈ m.nullable ∨
      ((get m metric.1).isSome = true ∧ metric.1 ∉ m.nullable.map Prod.fst) := by
  have hnames : m.nullable.map Prod.fst = ["cagr", "annualized_volatility", "sharpe", "sortino",
    "calmar", "win_rate", "profit_factor", "average_win", "average_loss", "turnover"] := rfl
  rw [hnames]
  simp only [COMPARISON_METRICS, List.mem_cons, List.not_mem_nil, or_false] at h
  rcases h with rfl | rfl | rfl | rfl | rfl | rfl | rfl | rfl | rfl | rfl | rfl | rfl | rfl |
    rfl | rfl <;>
    simp [get, Metrics.as_dict, List.lookup_cons, Metrics.nullable]

/-- No reason is empty. -/
theorem reason_ne_empty :
    ∀ reason ∈ (metrics.compute rt equity trades periods_per_year risk_free_rate initial_cash
      total_costs traded_notional exposure).unavailable, reason.2 ≠ "" := by
  have hrecord : ∀ {α : Type} (name : String) (value : Option α) (text : String), text ≠ "" →
      ∀ reason ∈ metrics.record name value text, reason.2 ≠ "" := by
    intro α name value text htext reason hreason
    unfold metrics.record at hreason
    split_ifs at hreason
    · obtain rfl := List.mem_singleton.mp hreason
      exact htext
    · cases hreason
  intro reason hreason
  simp only [metrics.compute, List.mem_append] at hreason
  obtain ((((((((h | h) | h) | h) | h) | h) | h) | h) | h) | h := hreason <;>
    refine hrecord _ _ _ ?_ _ h
  all_goals
    try split_ifs
    all_goals decide

/-- A metric of the table is a number, or has a reason. -/
theorem number_or_reason {metric : String × String × Option Direction}
    (h : metric ∈ COMPARISON_METRICS) :
    let m := metrics.compute rt equity trades periods_per_year risk_free_rate initial_cash
      total_costs traded_notional exposure
    (∃ x, get m metric.1 = some x ∧ m.unavailable.lookup metric.1 = none) ∨
      (get m metric.1 = none ∧ ∃ reason, m.unavailable.lookup metric.1 = some reason ∧
        reason ≠ "") := by
  intro m
  have hnames := metrics.names_unavailable rt equity trades periods_per_year risk_free_rate
    initial_cash total_costs traded_notional exposure
  have hreasons := reason_ne_empty rt equity trades periods_per_year risk_free_rate initial_cash
    total_costs traded_notional exposure
  have habsent : metric.1 ∉ m.unavailable.map Prod.fst ↔ m.unavailable.lookup metric.1 = none := by
    rw [List.lookup_eq_none_iff, List.mem_map]
    refine ⟨fun h p hp => ?_, fun h ⟨p, hp, hname⟩ => ?_⟩
    · simpa using fun hname => h ⟨p, hp, Eq.symm hname⟩
    · simpa [hname] using h p hp
  rcases get_nullable m h with hnullable | ⟨hsome, hnever⟩
  · have hiff := Metrics.name_unavailable_iff hnames hnullable
    cases hvalue : get m metric.1 with
    | some x =>
      refine .inl ⟨x, rfl, habsent.mp fun hmem => ?_⟩
      have hnone := hiff.mp hmem
      rw [hvalue] at hnone
      cases hnone
    | none =>
      have hmem := hiff.mpr hvalue
      cases hlookup : m.unavailable.lookup metric.1 with
      | none => exact absurd hmem (habsent.mpr hlookup)
      | some reason =>
        obtain ⟨before, after, hsplit, -⟩ := List.lookup_eq_some_iff.mp hlookup
        refine .inr ⟨rfl, reason, rfl, hreasons (metric.1, reason) ?_⟩
        show (metric.1, reason) ∈ m.unavailable
        rw [hsplit]
        exact List.mem_append_right _ List.mem_cons_self
  · obtain ⟨x, hx⟩ := Option.isSome_iff_exists.mp hsome
    refine .inl ⟨x, hx, habsent.mp fun hmem => hnever ?_⟩
    rw [hnames] at hmem
    obtain ⟨entry, hentry, hname⟩ := List.mem_map.mp hmem
    exact List.mem_map.mpr ⟨entry, List.mem_of_mem_filter hentry, hname⟩

end Cells

end comparison

/-! ## The table of a comparison -/

section Table

open comparison

variable {rt : Runtime} {feed : Feed} {request : ComparisonRequest} {specs : List StrategySpec}
  {compared : Comparison}

/-- The columns have distinct labels when the strategies have. -/
theorem nodup_entries_of (h : compare_strategies rt feed request specs = .ok compared)
    (hlabels : (unique_labels rt specs).Nodup) :
    ((entries_of compared.runs).map Prod.fst).Nodup := by
  have hsub := (compared_accounts h).1.map Prod.fst
  rw [List.map_map, List.map_map] at hsub
  have hkeys : ((unique_labels rt specs).zip specs).map (Prod.fst ∘ entry_key)
      = unique_labels rt specs := List.map_fst_zip (by rw [length_unique_labels])
  rw [hkeys] at hsub
  rw [entries_of, List.map_map]
  exact hsub.nodup hlabels

theorem get?_columns {α : Type} {entries : List (String × α)} (entry : String × α)
    (h : (entries.map Prod.fst).Nodup) (hentry : entry ∈ entries) :
    (columns entries).get? entry.1 = some entry := by
  apply Keyed.get?_of_mem
  rw [columns, Keyed.items_ofList h]
  exact hentry

theorem get?_columns_eq_none {α : Type} {entries : List (String × α)} {label : String}
    (h : (entries.map Prod.fst).Nodup) (hlabel : ∀ entry ∈ entries, entry.1 ≠ label) :
    (columns entries).get? label = none := by
  rw [Keyed.get?_eq_none, columns, Keyed.items_ofList h]
  exact hlabel

/-- One cell of a row: a number, or a reason. -/
theorem metric_row_cell {entries : List (String × Metrics)}
    {metric : String × String × Option Direction} (entry : String × Metrics)
    (hlabels : (entries.map Prod.fst).Nodup) (hentry : entry ∈ entries)
    (hcell : (∃ x, get entry.2 metric.1 = some x ∧
        entry.2.unavailable.lookup metric.1 = none) ∨
      (get entry.2 metric.1 = none ∧ ∃ reason,
        entry.2.unavailable.lookup metric.1 = some reason ∧ reason ≠ "")) :
    (∃ x, (metric_row entries metric).values.get? entry.1 = some (entry.1, some x) ∧
        (metric_row entries metric).unavailable.get? entry.1 = none) ∨
      ((metric_row entries metric).values.get? entry.1 = some (entry.1, none) ∧ ∃ reason,
        (metric_row entries metric).unavailable.get? entry.1 = some (entry.1, reason) ∧
          reason ≠ "") := by
  have hsame : ∀ other ∈ entries, other.1 = entry.1 → other = entry := fun other hother hlabel =>
    List.inj_on_of_nodup_map hlabels hother hentry hlabel
  have hvalues : (metric_row entries metric).values.get? entry.1
      = some (entry.1, get entry.2 metric.1) := by
    refine get?_columns (entry.1, get entry.2 metric.1) ?_ ?_
    · rw [List.map_map]
      exact hlabels
    · exact List.mem_map_of_mem (f := fun entry => (entry.1, get entry.2 metric.1)) hentry
  -- The reasons are those of some of the entries, in order.
  have hreasons : (((entries.filterMap (fun entry =>
      if (get entry.2 metric.1).isNone then
        ((entry.2.unavailable.lookup metric.1).filter (· ≠ "")).map (entry.1, ·)
      else none)).map Prod.fst).Nodup) := by
    refine List.Sublist.nodup ?_ hlabels
    clear hlabels hentry hsame hvalues hcell
    induction entries with
    | nil => exact .slnil
    | cons first rest ih =>
      rw [List.filterMap_cons]
      split
      · exact ih.cons _
      · next reason hreason =>
        split_ifs at hreason
        obtain ⟨text, -, rfl⟩ := Option.map_eq_some_iff.mp hreason
        exact ih.cons_cons _
  rw [hvalues]
  rcases hcell with ⟨x, hx, -⟩ | ⟨hnone, reason, hreason, hne⟩
  · refine .inl ⟨x, by rw [hx], get?_columns_eq_none hreasons fun cell hcell hlabel => ?_⟩
    obtain ⟨other, hother, hgiven⟩ := List.mem_filterMap.mp hcell
    split_ifs at hgiven with hmissing
    obtain ⟨text, -, rfl⟩ := Option.map_eq_some_iff.mp hgiven
    obtain rfl := hsame other hother hlabel
    rw [hx] at hmissing
    cases hmissing
  · refine .inr ⟨by rw [hnone], reason, get?_columns (entry.1, reason) hreasons ?_, hne⟩
    refine List.mem_filterMap.mpr ⟨entry, hentry, ?_⟩
    rw [hnone, hreason, Option.filter_some]
    simp [hne]

/-- The metric table of a comparison, when the labels of its strategies are
    distinct. Every strategy that ran has one cell in every row: a number, or a
    reason why there is none, and never both. A row has a winner exactly when its
    metric has a better direction and two numbers to compare. As long as none of
    them is NaN, the winner is beaten by no column, and beats every column before
    its own. -/
theorem metric_table_winners (h : compare_strategies rt feed request specs = .ok compared)
    (hlabels : (unique_labels rt specs).Nodup) :
    ∀ row ∈ compared.metric_table,
      row.values.items.map Prod.fst = compared.runs.map ComparedRun.label ∧
      (∀ column ∈ compared.runs,
        (∃ x, row.values.get? column.label = some (column.label, some x) ∧
          row.unavailable.get? column.label = none) ∨
        (row.values.get? column.label = some (column.label, none) ∧
          ∃ reason, row.unavailable.get? column.label = some (column.label, reason) ∧
            reason ≠ "")) ∧
      (row.best = none ↔
        row.better = none ∨ (row.values.items.filter (fun cell => cell.2.isSome)).length < 2) ∧
      ((∀ cell ∈ row.values.items, cell.2 ≠ some .nan) → ∀ label, row.best = some label →
        ∃ direction, row.better = some direction ∧ Wins direction row.values.items label) := by
  intro row hrow
  have hdistinct := nodup_entries_of h hlabels
  rw [(compare_strategies_eq_ok h).2.2.2.2.2] at hrow
  obtain ⟨metric, hmetric, rfl⟩ := List.mem_map.mp hrow
  have hkeys : (((entries_of compared.runs).map
      (fun entry => (entry.1, get entry.2 metric.1))).map Prod.fst).Nodup := by
    rw [List.map_map]
    exact hdistinct
  have hitems : (metric_row (entries_of compared.runs) metric).values.items
      = (entries_of compared.runs).map (fun entry => (entry.1, get entry.2 metric.1)) :=
    Keyed.items_ofList hkeys
  refine ⟨?_, fun column hcolumn => ?_, ?_, fun hnumbers label hbest => ?_⟩
  · rw [hitems, List.map_map, entries_of, List.map_map]
    rfl
  · obtain ⟨moment, -, -, hplain⟩ := exists_moment h
    obtain ⟨pair, -, -, -, hrun⟩ := run_backtest_for_symbol_eq_ok (hplain column hcolumn).1
    refine metric_row_cell (column.label, column.run.metrics) hdistinct
      (List.mem_map.mpr ⟨column, hcolumn, rfl⟩) ?_
    rw [← ((metrics.raising.compute_eq_ok rt).mp (run_backtest_steps hrun).2.2.2).2]
    exact number_or_reason rt _ _ _ _ _ _ _ _ hmetric
  · rw [hitems]
    exact best_label_eq_none metric.2.2 hkeys
  · rw [hitems] at hnumbers ⊢
    have hdirection : ∃ direction, metric.2.2 = some direction := by
      cases hbetter : metric.2.2 with
      | some direction => exact ⟨direction, rfl⟩
      | none =>
        have hnone : (metric_row (entries_of compared.runs) metric).best = none := by
          show best_label metric.2.2 _ = none
          rw [hbetter]
          rfl
        rw [hnone] at hbest
        cases hbest
    obtain ⟨direction, hdirection⟩ := hdirection
    refine ⟨direction, hdirection, best_label_first hkeys hnumbers ?_⟩
    rw [← hdirection]
    exact hbest

/-- The strategies of the example above: one of them wins the row of the costs. -/
theorem three_winners :
    ∃ compared, compare_strategies default revised_feed thirteen_days three_strategies
        = .ok compared ∧
      ∃ row ∈ compared.metric_table, row.metric = "total_costs" ∧
        ∃ label direction, row.best = some label ∧ row.better = some direction ∧
          Wins direction row.values.items label := by
  have hobserved : (compare_strategies default revised_feed thirteen_days
      three_strategies).toOption.any (fun compared => compared.metric_table.any fun row =>
        row.metric = "total_costs" ∧ row.best.isSome = true ∧
          ∀ cell ∈ row.values.items, cell.2 ≠ some .nan) = true := by decide +kernel
  obtain ⟨compared, hcompared, hrows⟩ := Outcome.exists_of_any hobserved
  obtain ⟨row, hrow, hcosts⟩ := List.any_eq_true.mp hrows
  obtain ⟨hmetric, hbest, hnumbers⟩ := of_decide_eq_true hcosts
  obtain ⟨label, hlabel⟩ := Option.isSome_iff_exists.mp hbest
  obtain ⟨direction, hdirection, hwins⟩ :=
    (metric_table_winners hcompared (by decide +kernel) row hrow).2.2.2 hnumbers label hlabel
  exact ⟨compared, hcompared, row, hrow, hmetric, label, direction, hlabel, hdirection, hwins⟩

end Table

end Quantora
