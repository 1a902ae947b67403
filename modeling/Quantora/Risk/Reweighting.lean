import Quantora.Risk.Scenario

/-! # Reweighting and back

    A scenario turns weights into holdings and values them again. In exact
    arithmetic nothing is lost on the way.

    * `Reweighted` — resolved weights are a proportion of the whole, and leave
      the symbols that were not named in proportion to each other.
    * `RebuildsExactly` — the holdings made from weights have these weights and
      the same total value.
    * `Current` — weights that are already there resolve to themselves.
-/

namespace Quantora

namespace risk

/-! ## Overrides -/

theorem check_symbols_eq_ok {items : List (String × Python.Float)} :
    check_symbols items = .ok () ↔
      ∀ item ∈ items, ∃ instrument, get_instrument item.1 = .ok instrument := by
  induction items with
  | nil => simp [check_symbols]
  | cons item items ih =>
    obtain ⟨symbol, value⟩ := item
    rw [check_symbols, List.forall_mem_cons, ← ih]
    cases get_instrument symbol with
    | error err => simp
    | ok instrument => simp

/-- An override that passes: a number that is not negative, of a known symbol. -/
structure ValidOverride (item : String × Python.Float) : Prop where
  value : item.2 = .num (override_value item.2)
  nonneg : 0 ≤ override_value item.2
  known : ∃ instrument, get_instrument item.1 = .ok instrument

theorem validate_overrides_eq_ok {rt : Runtime} {overrides : Overrides} :
    validate_overrides rt overrides = .ok () ↔
      overrides.items ≠ [] ∧ ∀ item ∈ overrides.items, ValidOverride item := by
  have hvalid : ∀ x : Python.Float, (x.is_finite = true ∧ ¬ x.lt (.num 0) = true) ↔
      (x = .num (override_value x) ∧ 0 ≤ override_value x) := by
    intro x
    cases x with
    | nan => simp [Python.Float.is_finite, override_value]
    | inf negative => simp [Python.Float.is_finite, override_value]
    | num x => simp [Python.Float.is_finite, Python.Float.lt, override_value]
  -- Not empty, all finite, none negative, all known: in the order of the checks.
  unfold validate_overrides
  by_cases hempty : overrides.items = []
  · rw [if_pos hempty]
    simp [hempty]
  rw [if_neg hempty]
  simp only [ne_eq, ite_not, List.filter_eq_nil_iff, decide_eq_true_eq]
  constructor
  · intro h
    split_ifs at h with hfinite hnonneg
    refine ⟨hempty, fun item hitem => ?_⟩
    have hitem_finite : item.2.is_finite = true := not_not.mp (hfinite item hitem)
    obtain ⟨hvalue, hpos⟩ := (hvalid item.2).mp ⟨hitem_finite, hnonneg item hitem⟩
    exact ⟨hvalue, hpos, check_symbols_eq_ok.mp h item hitem⟩
  · rintro ⟨-, h⟩
    have hitem : ∀ item ∈ overrides.items,
        item.2.is_finite = true ∧ ¬ item.2.lt (.num 0) = true := fun item hitem =>
      (hvalid item.2).mpr ⟨(h item hitem).value, (h item hitem).nonneg⟩
    rw [if_pos (fun item hmem => not_not.mpr (hitem item hmem).1),
      if_pos (fun item hmem => (hitem item hmem).2)]
    exact check_symbols_eq_ok.mpr fun item hmem => (h item hmem).known

/-! ## Combined weights -/

theorem weight_of_upsert_self (weights : Weights) (s : String) (x : ℚ) :
    weight_of (weights.upsert (s, x)) s = x := by
  have h : (weights.upsert (s, x)).get? s = some (s, x) := Keyed.get?_upsert_self weights (s, x)
  unfold weight_of
  rw [h]
  rfl

theorem weight_of_upsert_of_ne (weights : Weights) {s t : String} (x : ℚ) (h : t ≠ s) :
    weight_of (weights.upsert (s, x)) t = weight_of weights t := by
  have hget : (weights.upsert (s, x)).get? t = weights.get? t :=
    Keyed.get?_upsert_of_ne weights h
  unfold weight_of
  rw [hget]

/-- A property of weights that every override keeps holds of the combination. -/
theorem combined_induction {base : Weights} {overrides : Overrides} {P : Weights → Prop}
    (hbase : P base)
    (hstep : ∀ weights, P weights → ∀ item ∈ overrides.items,
      P (weights.upsert (item.1, override_value item.2))) :
    P (combined base overrides) := by
  obtain ⟨items, hnodup⟩ := overrides
  show P (items.foldl (fun weights item => weights.upsert (item.1, override_value item.2)) base)
  change ∀ weights, P weights → ∀ item ∈ items,
    P (weights.upsert (item.1, override_value item.2)) at hstep
  clear hnodup
  induction items generalizing base with
  | nil => exact hbase
  | cons item items ih =>
    refine ih (hstep base hbase item List.mem_cons_self) fun weights hweights entry hentry => ?_
    exact hstep weights hweights entry (List.mem_cons_of_mem item hentry)

theorem combined_nonneg {base : Weights} {overrides : Overrides}
    (hbase : ∀ item ∈ base.items, 0 ≤ item.2)
    (hvalid : ∀ item ∈ overrides.items, ValidOverride item) :
    ∀ item ∈ (combined base overrides).items, 0 ≤ item.2 := by
  apply combined_induction (P := fun weights => ∀ item ∈ weights.items, 0 ≤ item.2) hbase
  intro weights hweights entry hentry item hitem
  rcases Keyed.mem_upsert hitem with rfl | ⟨hitem, -⟩
  · exact (hvalid entry hentry).nonneg
  · exact hweights item hitem

/-- A symbol that is not named keeps its weight until the division. -/
theorem weight_of_combined {base : Weights} {overrides : Overrides} {s : String}
    (h : ∀ item ∈ overrides.items, item.1 ≠ s) :
    weight_of (combined base overrides) s = weight_of base s := by
  apply combined_induction (P := fun weights => weight_of weights s = weight_of base s) rfl
  intro weights hweights item hitem
  rw [weight_of_upsert_of_ne weights _ (h item hitem).symm, hweights]

/-- Every symbol of the combination is a base symbol or an override. -/
theorem mem_combined {base : Weights} {overrides : Overrides} {item : String × ℚ}
    (h : item ∈ (combined base overrides).items) :
    item ∈ base.items ∨ ∃ entry ∈ overrides.items, entry.1 = item.1 := by
  revert h
  apply combined_induction (P := fun weights => item ∈ weights.items →
    item ∈ base.items ∨ ∃ entry ∈ overrides.items, entry.1 = item.1) Or.inl
  intro weights hweights entry hentry hitem
  rcases Keyed.mem_upsert hitem with rfl | ⟨hitem, -⟩
  · exact Or.inr ⟨entry, hentry, rfl⟩
  · exact hweights hitem

/-! ## Normalised weights -/

theorem weight_of_normalised (weights : Weights) (total : ℚ) (s : String) :
    weight_of (normalised weights total) s = weight_of weights s / total := by
  have hget : (normalised weights total).get? s
      = (weights.get? s).map (fun item => (item.1, item.2 / total)) := by
    unfold normalised Keyed.get?
    rw [List.find?_map]
    rfl
  unfold weight_of
  rw [hget]
  cases weights.get? s with
  | none => exact (zero_div total).symm
  | some item => rfl

theorem sum_normalised {weights : Weights} {total : ℚ}
    (htotal : total = (weights.items.map Prod.snd).sum) (hpos : 0 < total) :
    ((normalised weights total).items.map Prod.snd).sum = 1 := by
  have hitems : (normalised weights total).items.map Prod.snd
      = weights.items.map (fun item => item.2 * total⁻¹) := by
    unfold normalised
    rw [List.map_map]
    exact List.map_congr_left fun item _ => div_eq_mul_inv item.2 total
  rw [hitems, List.sum_map_mul_right, ← htotal]
  exact mul_inv_cancel₀ hpos.ne'

/-- What was resolved: the combination, divided by its sum. -/
theorem resolve_weights_eq_ok {rt : Runtime} {base weights : Weights} {overrides : Overrides}
    {notes : List String} (h : resolve_weights rt base overrides = .ok (weights, notes)) :
    (∀ item ∈ overrides.items, ValidOverride item) ∧
      ∃ total, total = ((combined base overrides).items.map Prod.snd).sum ∧ 0 < total ∧
        weights = normalised (combined base overrides) total := by
  obtain ⟨_, hvalid, h⟩ := Outcome.bind_eq_ok.mp h
  dsimp only at h
  split at h
  · cases h
  · next hsum =>
    have hweights := congrArg Prod.fst (Except.ok.inj h)
    refine ⟨(validate_overrides_eq_ok.mp hvalid).2, _, rfl, ?_, hweights.symm⟩
    exact lt_trans (by norm_num [WEIGHT_EPSILON]) (not_le.mp hsum)

/-- Resolved weights, compared with the weights that they were made from. -/
structure Reweighted (base : Weights) (overrides : Overrides) (weights : Weights) : Prop where
  nonneg : ∀ item ∈ weights.items, 0 ≤ item.2
  sum_eq_one : (weights.items.map Prod.snd).sum = 1
  /-- One factor for every symbol that was not named. -/
  proportions : ∃ scale, 0 < scale ∧ ∀ s, (∀ item ∈ overrides.items, item.1 ≠ s) →
    weight_of weights s = scale * weight_of base s

theorem reweighted_of_resolve {rt : Runtime} {base weights : Weights} {overrides : Overrides}
    {notes : List String} (hbase : ∀ item ∈ base.items, 0 ≤ item.2)
    (h : resolve_weights rt base overrides = .ok (weights, notes)) :
    Reweighted base overrides weights := by
  obtain ⟨hvalid, total, htotal, hpos, rfl⟩ := resolve_weights_eq_ok h
  refine ⟨?_, sum_normalised htotal hpos, total⁻¹, inv_pos.mpr hpos, ?_⟩
  · intro item hitem
    obtain ⟨entry, hentry, rfl⟩ := List.mem_map.mp hitem
    exact div_nonneg (combined_nonneg hbase hvalid entry hentry) hpos.le
  · intro s hs
    rw [weight_of_normalised, weight_of_combined hs, div_eq_inv_mul]

/-! ## Weights made into holdings -/

theorem mem_instruments {symbol : String}
    (h : ∃ instrument, get_instrument symbol = .ok instrument) :
    symbol ∈ INSTRUMENTS.map Instrument.symbol := by
  obtain ⟨instrument, hinstrument⟩ := h
  rw [← symbol_of_get_instrument hinstrument]
  unfold get_instrument at hinstrument
  cases hfind : INSTRUMENTS.find? (fun instrument => instrument.symbol = symbol) with
  | none =>
    rw [hfind] at hinstrument
    cases hinstrument
  | some found =>
    rw [hfind] at hinstrument
    obtain rfl := Except.ok.inj hinstrument
    exact List.mem_map_of_mem (List.mem_of_find?_eq_some hfind)

/-- No instrument has a blank symbol. -/
theorem symbols_not_blank :
    ∀ s ∈ INSTRUMENTS.map Instrument.symbol, ¬ (s = "" ∨ Python.strip s = "") := by
  decide +kernel

/-- A weight that a holding can be made from. -/
structure Investable (prices : Prices) (item : String × ℚ) : Prop where
  known : ∃ instrument, get_instrument item.1 = .ok instrument
  priced : usable_price (prices item.1) = true
  pos : 0 < item.2

section Rebuilding

variable {prices : Prices} {total_value : ℚ}

/-- The holding made from a weight is worth its share of the total. -/
theorem holding_of_investable (rt : Runtime) {item : String × ℚ} (h : Investable prices item)
    (htotal : 0 < total_value) :
    ∃ holding, holding_from_weight rt prices total_value item = .ok holding ∧
      holding.symbol = item.1 ∧ market_value prices holding = item.2 * total_value := by
  obtain ⟨hprice, hpos⟩ := price_of_usable h.priced
  have hquantity : 0 < item.2 * total_value / price_of prices item.1 :=
    div_pos (mul_pos h.pos htotal) hpos
  have hdiv : (Python.Float.num (item.2 * total_value)).div (.num (price_of prices item.1))
      = .num (item.2 * total_value / price_of prices item.1) := if_neg hpos.ne'
  obtain ⟨instrument, hinstrument⟩ := h.known
  refine ⟨⟨item.1, _, none, h.known, hquantity, cost_basis_none⟩, ?_, rfl, ?_⟩
  · unfold holding_from_weight
    rw [hprice]
    show (if Python.Float.num (price_of prices item.1) = .num 0 then _ else _) = _
    rw [if_neg (by simpa using hpos.ne'), hdiv]
    unfold Holding.new
    -- The constructor's checks: a symbol, a known instrument, a positive quantity.
    rw [if_neg (symbols_not_blank _ (mem_instruments h.known))]
    split
    · next err herr =>
      rw [hinstrument] at herr
      cases herr
    · show (if hpos : 0 < item.2 * total_value / price_of prices item.1 then _ else _) = _
      rw [dif_pos hquantity]
      rfl
  · exact div_mul_cancel₀ _ hpos.ne'

/-- Induction over the weights. -/
theorem holdings_of_investable (rt : Runtime) (htotal : 0 < total_value) {items : List (String × ℚ)}
    (h : ∀ item ∈ items, Investable prices item) :
    ∃ holdings, items.mapM (holding_from_weight rt prices total_value) = .ok holdings ∧
      holdings.map (fun h => (h.symbol, market_value prices h))
        = items.map (fun item => (item.1, item.2 * total_value)) := by
  induction items with
  | nil => exact ⟨[], rfl, rfl⟩
  | cons item items ih =>
    obtain ⟨hitem, hrest⟩ := List.forall_mem_cons.mp h
    obtain ⟨holding, hholding, hsymbol, hvalue⟩ := holding_of_investable rt hitem htotal
    obtain ⟨holdings, hholdings, hvalues⟩ := ih hrest
    refine ⟨holding :: holdings, ?_, ?_⟩
    · rw [List.mapM_cons, hholding, hholdings]
      rfl
    · rw [List.map_cons, List.map_cons, hsymbol, hvalue, hvalues]

/-- The weights that `from_weights` keeps. -/
def positive (weights : Weights) : List (String × ℚ) :=
  weights.items.filter (fun item => 0 < item.2)

/-- What is dropped weighs nothing. -/
theorem sum_positive {weights : Weights} (h : ∀ item ∈ weights.items, 0 ≤ item.2) :
    ((positive weights).map Prod.snd).sum = (weights.items.map Prod.snd).sum := by
  obtain ⟨items, hnodup⟩ := weights
  change ∀ item ∈ items, 0 ≤ item.2 at h
  show ((items.filter (fun item => 0 < item.2)).map Prod.snd).sum = (items.map Prod.snd).sum
  clear hnodup
  induction items with
  | nil => rfl
  | cons item items ih =>
    obtain ⟨hitem, hrest⟩ := List.forall_mem_cons.mp h
    rw [List.filter_cons]
    rcases hitem.eq_or_lt with hzero | hpos
    · rw [if_neg (by simp [← hzero]), List.map_cons, List.sum_cons, ← hzero, zero_add, ih hrest]
    · rw [if_pos (by simpa using hpos), List.map_cons, List.map_cons, List.sum_cons,
        List.sum_cons, ih hrest]

/-- A portfolio that holds these weights of a total. -/
structure Rebuilt (prices : Prices) (weights : Weights) (total_value : ℚ) (p : Portfolio) :
    Prop where
  valued : p.Valued prices
  total_eq : p.total_market_value prices = total_value
  weights_eq : (p.weights prices).items = positive weights

/-- Weights that add up to 1 can be held, and are what the holdings weigh. -/
theorem rebuilt_of_weights (rt : Runtime) {weights : Weights}
    (hnonneg : ∀ item ∈ weights.items, 0 ≤ item.2)
    (hsum : (weights.items.map Prod.snd).sum = 1)
    (hinvestable : ∀ item ∈ positive weights, Investable prices item)
    (htotal : holdings.EPSILON < total_value) {benchmark : String}
    (hbenchmark : ∃ instrument, get_instrument benchmark = .ok instrument)
    (name base_currency : String) :
    ∃ rebuilt, Portfolio.from_weights rt weights prices total_value name base_currency benchmark
        = .ok rebuilt ∧
      Rebuilt prices weights total_value rebuilt := by
  have hpos : 0 < total_value := lt_trans (by norm_num [holdings.EPSILON]) htotal
  have hsum_positive : ((positive weights).map Prod.snd).sum = 1 := by
    rw [sum_positive hnonneg, hsum]
  obtain ⟨holdings, hholdings, hworth⟩ := holdings_of_investable rt hpos hinvestable
  have hsymbols : holdings.map Holding.symbol = (positive weights).map Prod.fst := by
    have h := congrArg (List.map Prod.fst) hworth
    rwa [List.map_map, List.map_map] at h
  have hvalues : holdings.map (market_value prices)
      = (positive weights).map (fun item => item.2 * total_value) := by
    have h := congrArg (List.map Prod.snd) hworth
    rwa [List.map_map, List.map_map] at h
  -- Nothing is held only if nothing has a weight.
  have hne : holdings ≠ [] := by
    rintro rfl
    rw [List.map_nil, eq_comm, List.map_eq_nil_iff] at hsymbols
    rw [hsymbols] at hsum_positive
    cases hsum_positive
  have hdistinct : (holdings.map Holding.symbol).Nodup := by
    rw [hsymbols]
    exact weights.nodup.sublist (List.filter_sublist.map Prod.fst)
  have htotal_eq : (holdings.map (market_value prices)).sum = total_value := by
    rw [hvalues, List.sum_map_mul_right, hsum_positive, one_mul]
  obtain ⟨instrument, hinstrument⟩ := hbenchmark
  refine ⟨⟨holdings, name, base_currency, benchmark, hne, hdistinct, _, hinstrument⟩, ?_, ?_⟩
  · unfold Portfolio.from_weights
    rw [show weights.items.filter (fun item => decide (0 < item.2)) = positive weights from rfl,
      hholdings]
    show (if holdings = [] then _ else Portfolio.new holdings name base_currency benchmark) = _
    rw [if_neg hne]
    unfold Portfolio.new
    rw [dif_neg hne, dif_pos hdistinct]
    split
    · next err herr =>
      rw [hinstrument] at herr
      cases herr
    · rfl
  · refine ⟨⟨?_, ?_⟩, htotal_eq, ?_⟩
    · show ∀ s ∈ holdings.map Holding.symbol, usable_price (prices s) = true
      rw [hsymbols]
      intro s hs
      obtain ⟨item, hitem, rfl⟩ := List.mem_map.mp hs
      exact (hinvestable item hitem).priced
    · show _ < (holdings.map (market_value prices)).sum
      rwa [htotal_eq]
    · show holdings.map (fun h => (h.symbol, market_value prices h
        / (holdings.map (market_value prices)).sum)) = positive weights
      rw [htotal_eq]
      have h := congrArg (List.map (fun item : String × ℚ => (item.1, item.2 / total_value))) hworth
      rw [List.map_map, List.map_map] at h
      refine (h.trans (List.map_congr_left fun item _ => ?_)).trans (List.map_id _)
      exact Prod.ext rfl (mul_div_cancel_right₀ item.2 hpos.ne')

end Rebuilding

/-- Holding the weights and valuing the holdings gives the weights back. -/
def RebuildsExactly (rt : Runtime) (prices : Prices) (total_value : ℚ) (weights : Weights) : Prop :=
  ∀ name base_currency benchmark, (∃ instrument, get_instrument benchmark = .ok instrument) →
    ∃ rebuilt allocation,
      Portfolio.from_weights rt weights prices total_value name base_currency benchmark
        = .ok rebuilt ∧
      rebuilt.value prices = .ok allocation ∧
      allocation.weights.items = positive weights ∧
      allocation.total_value = total_value

/-- Weights that add up to 1 lose nothing on the way through the holdings. -/
theorem rebuildsExactly_of_investable (rt : Runtime) {prices : Prices} {total_value : ℚ}
    {weights : Weights} (hnonneg : ∀ item ∈ weights.items, 0 ≤ item.2)
    (hsum : (weights.items.map Prod.snd).sum = 1)
    (hinvestable : ∀ item ∈ positive weights, Investable prices item)
    (htotal : holdings.EPSILON < total_value) :
    RebuildsExactly rt prices total_value weights := by
  intro name base_currency benchmark hbenchmark
  obtain ⟨rebuilt, hrebuilt, hexact⟩ := rebuilt_of_weights rt hnonneg hsum hinvestable htotal
    hbenchmark name base_currency
  obtain ⟨allocation, hallocation⟩ : ∃ allocation, rebuilt.value prices = .ok allocation :=
    Portfolio.isOk_value hexact.valued
  obtain ⟨-, htotal_after, hweights_after, -⟩ := Portfolio.value_eq_ok hallocation
  refine ⟨rebuilt, allocation, hrebuilt, hallocation, ?_, ?_⟩
  · rw [hweights_after, hexact.weights_eq]
  · rw [htotal_after, hexact.total_eq]

section Resolved

variable {rt : Runtime} {p : Portfolio} {prices : Prices} {before : Allocation}
  {overrides : Overrides} {weights : Weights} {notes : List String}

/-- What is held can be bought again. -/
theorem investable_of_valued (hvalued : p.Valued prices) :
    ∀ item ∈ (p.weights prices).items, Investable prices item := by
  intro item hitem
  refine ⟨Portfolio.weights_known p prices item hitem, ?_,
    Portfolio.weights_pos hvalued item hitem⟩
  obtain ⟨holding, hholding, rfl⟩ := List.mem_map.mp hitem
  exact hvalued.priced _ (List.mem_map_of_mem hholding)

/-- Every resolved weight belongs to a holding that was valued or to an
    override. -/
theorem investable_of_resolve (hvalued : p.Valued prices)
    (hpriced : ∀ item ∈ overrides.items, usable_price (prices item.1) = true)
    (h : resolve_weights rt (p.weights prices) overrides = .ok (weights, notes)) :
    ∀ item ∈ positive weights, Investable prices item := by
  obtain ⟨hvalid, total, -, -, rfl⟩ := resolve_weights_eq_ok h
  intro item hitem
  obtain ⟨hmem, hpos⟩ := List.mem_filter.mp hitem
  obtain ⟨entry, hentry, rfl⟩ := List.mem_map.mp hmem
  -- A weight that was there, or one that was asked for.
  rcases mem_combined hentry with hbase | ⟨override, hoverride, hsymbol⟩
  · have hheld := investable_of_valued hvalued entry hbase
    exact ⟨hheld.known, hheld.priced, of_decide_eq_true hpos⟩
  · refine ⟨?_, ?_, of_decide_eq_true hpos⟩
    · show ∃ instrument, get_instrument entry.1 = .ok instrument
      rw [← hsymbol]
      exact (hvalid override hoverride).known
    · show usable_price (prices entry.1) = true
      rw [← hsymbol]
      exact hpriced override hoverride

theorem reweighted_of_value (hvalue : p.value prices = .ok before)
    (h : resolve_weights rt before.weights overrides = .ok (weights, notes)) :
    Reweighted before.weights overrides weights := by
  obtain ⟨hvalued, -, hweights, -⟩ := Portfolio.value_eq_ok hvalue
  apply reweighted_of_resolve _ h
  rw [hweights]
  exact fun item hitem => (Portfolio.weights_pos hvalued item hitem).le

/-- A portfolio that was valued is worth something. -/
theorem worth_of_value (hvalue : p.value prices = .ok before) :
    holdings.EPSILON < before.total_value := by
  obtain ⟨hvalued, htotal, -, -⟩ := Portfolio.value_eq_ok hvalue
  rw [htotal]
  exact hvalued.worth

theorem rebuildsExactly_of_value (hvalue : p.value prices = .ok before)
    (hpriced : ∀ item ∈ overrides.items, usable_price (prices item.1) = true)
    (h : resolve_weights rt before.weights overrides = .ok (weights, notes)) :
    RebuildsExactly rt prices before.total_value weights := by
  have hreweighted := reweighted_of_value hvalue h
  obtain ⟨hvalued, -, hweights, -⟩ := Portfolio.value_eq_ok hvalue
  rw [hweights] at h
  exact rebuildsExactly_of_investable rt hreweighted.nonneg hreweighted.sum_eq_one
    (investable_of_resolve hvalued hpriced h) (worth_of_value hvalue)

end Resolved

/-! ## Weights that are already there -/

/-- Overrides that ask for the current weight of every symbol that they name. -/
def Current (base : Weights) (overrides : Overrides) : Prop :=
  ∀ item ∈ overrides.items, item.2 = .num (weight_of base item.1)

/-- A weight is replaced by itself, or a zero is appended. -/
theorem positive_upsert_self (weights : Weights) (s : String) :
    positive (weights.upsert (s, weight_of weights s)) = positive weights := by
  cases hget : weights.get? s with
  | some item =>
    have hmem := Keyed.mem_of_get? hget
    obtain rfl : item.1 = s := Keyed.key_of_get? hget
    rw [weight_of_mem hmem, Keyed.upsert_of_mem hmem]
  | none =>
    have hzero : weight_of weights s = 0 := by
      unfold weight_of
      rw [hget]
      rfl
    unfold positive
    rw [hzero, Keyed.items_upsert_of_new (a := (s, (0 : ℚ))) hget, List.filter_append]
    simp

theorem combined_of_current {base : Weights} {overrides : Overrides}
    (h : Current base overrides) :
    (∀ s, weight_of (combined base overrides) s = weight_of base s) ∧
      positive (combined base overrides) = positive base := by
  apply combined_induction (P := fun weights =>
    (∀ s, weight_of weights s = weight_of base s) ∧ positive weights = positive base)
  · exact ⟨fun _ => rfl, rfl⟩
  · rintro weights ⟨hweights, hpositive⟩ item hitem
    have hvalue : override_value item.2 = weight_of weights item.1 := by
      rw [h item hitem, hweights]
      rfl
    rw [hvalue]
    refine ⟨fun s => ?_, ?_⟩
    · by_cases hs : s = item.1
      · rw [hs, weight_of_upsert_self, hweights]
      · rw [weight_of_upsert_of_ne _ _ hs, hweights]
    · rw [positive_upsert_self, hpositive]

theorem normalised_one (weights : Weights) : normalised weights 1 = weights := by
  apply Keyed.ext
  show weights.items.map (fun item => (item.1, item.2 / 1)) = weights.items
  simp only [div_one]
  exact List.map_id _

/-- Asking for the current weights resolves to them, up to zeros. -/
theorem resolve_of_current {rt : Runtime} {base : Weights} {overrides : Overrides}
    (hpos : ∀ item ∈ base.items, 0 < item.2) (hsum : (base.items.map Prod.snd).sum = 1)
    (hvalid : validate_overrides rt overrides = .ok ()) (hcurrent : Current base overrides) :
    ∃ weights notes, resolve_weights rt base overrides = .ok (weights, notes) ∧
      (∀ s, weight_of weights s = weight_of base s) ∧ positive weights = base.items := by
  obtain ⟨hweights, hpositive⟩ := combined_of_current hcurrent
  have hitems : positive base = base.items :=
    List.filter_eq_self.mpr fun item hitem => decide_eq_true (hpos item hitem)
  have htotal : ((combined base overrides).items.map Prod.snd).sum = 1 := by
    rw [← sum_positive (combined_nonneg (fun item hitem => (hpos item hitem).le)
      (validate_overrides_eq_ok.mp hvalid).2), hpositive, hitems, hsum]
  refine ⟨combined base overrides, [], ?_, hweights, hpositive.trans hitems⟩
  unfold resolve_weights
  rw [hvalid]
  simp only [bind, Except.bind, htotal, normalised_one, sub_self, abs_zero]
  rw [if_neg (by norm_num [WEIGHT_EPSILON]), if_neg (by norm_num [WEIGHT_EPSILON])]

end risk

end Quantora
