import Quantora.Framework.Shares
import Quantora.Risk.Reweighting

/-! # Allocations are consistent

    The figures of an allocation come from one weight map by different code: a
    sorted prefix, a sum of squares, a loop over the sectors.

    * `concentration_eq_ok` — the figures, over the weights from the heaviest to
      the lightest.
    * `sector_totals_eq_ok` — what the loop over the sectors adds up.
    * `Consistent` — how the figures hang together; `consistent_of_value` proves
      it of every portfolio that can be valued. -/

namespace Quantora

namespace risk

/-! ## Concentration -/

instance : Std.Total heavier where
  total a b := by
    unfold heavier
    rcases lt_trichotomy a.2 b.2 with hlt | heq | hgt
    · exact .inr (.inl hlt)
    · rcases String.le_total a.1 b.1 with hle | hle
      · exact .inl (.inr ⟨heq, hle⟩)
      · exact .inr (.inr ⟨heq.symm, hle⟩)
    · exact .inl (.inl hgt)

instance : IsTrans (String × ℚ) heavier where
  trans a b c hab hbc := by
    rcases hab with hab | ⟨hab, hsymbol⟩
    · rcases hbc with hbc | ⟨hbc, -⟩
      · exact .inl (hbc.trans hab)
      · exact .inl (hbc ▸ hab)
    · rcases hbc with hbc | ⟨hbc, hsymbol'⟩
      · exact .inl (hab ▸ hbc)
      · exact .inr ⟨hab.trans hbc, String.le_trans hsymbol hsymbol'⟩

theorem weight_le_of_heavier {a b : String × ℚ} (h : heavier a b) : b.2 ≤ a.2 := by
  rcases h with hlt | ⟨heq, -⟩
  · exact hlt.le
  · exact heq.ge

/-- What the figures of a concentration are, over the weights from the heaviest
    to the lightest. -/
theorem concentration_eq_ok {weights : List (String × ℚ)} {top_n : ℕ} {c : Concentration}
    (h : concentration weights top_n = .ok c) :
    ∃ largest rest, (largest :: rest).Perm weights ∧ (largest :: rest).Pairwise heavier ∧
      c.largest_weight = largest.2 ∧
      c.top_n_weight = (((largest :: rest).take top_n).map Prod.snd).sum ∧
      c.top_n_symbols = ((largest :: rest).take top_n).map Prod.fst ∧
      c.hhi = hhi_of weights ∧
      c.effective_holdings
        = if holdings.EPSILON < hhi_of weights then .num (1 / hhi_of weights) else .nan := by
  have hperm := List.perm_insertionSort heavier weights
  have hsorted := List.pairwise_insertionSort heavier weights
  unfold concentration at h
  cases hlist : weights.insertionSort heavier with
  | nil =>
    rw [hlist] at h
    cases h
  | cons largest rest =>
    rw [hlist] at h hperm hsorted
    obtain rfl := Except.ok.inj h
    have htake : (largest :: rest).take (min top_n (largest :: rest).length)
        = (largest :: rest).take top_n := List.take_eq_take_min.symm
    exact ⟨largest, rest, hperm, hsorted, rfl, by rw [htake], by rw [htake], rfl, rfl⟩

/-- There are seven instruments, and a portfolio holds each at most once. -/
theorem length_weights_le (p : Portfolio) (prices : Prices) :
    (p.weights prices).items.length ≤ 7 := by
  have hsub : (p.weights prices).items.map Prod.fst ⊆ INSTRUMENTS.map Instrument.symbol := by
    intro s hs
    obtain ⟨item, hitem, rfl⟩ := List.mem_map.mp hs
    exact mem_instruments (Portfolio.weights_known p prices item hitem)
  have hlength := (List.subperm_of_subset (p.weights prices).nodup hsub).length_le
  rw [List.length_map] at hlength
  exact hlength

section Figures

variable {p : Portfolio} {prices : Prices} {top_n : ℕ} {c : Concentration}

/-- The index of the weights is at least one over their number. -/
theorem one_div_le_hhi (hvalued : p.Valued prices) :
    1 / ((p.weights prices).items.length : ℚ) ≤ hhi_of (p.weights prices).items := by
  have hle := Shares.one_div_length_le (Portfolio.sum_weights hvalued)
  rw [List.length_map, Shares.sum_sq, List.map_map] at hle
  exact hle

/-- So the effective number of holdings exists. -/
theorem effective_holdings_eq (hvalued : p.Valued prices)
    (h : concentration (p.weights prices).items top_n = .ok c) :
    c.effective_holdings = .num (1 / hhi_of (p.weights prices).items) := by
  obtain ⟨-, -, -, -, -, -, -, -, heffective⟩ := concentration_eq_ok h
  have hlength : ((p.weights prices).items.length : ℚ) ≤ 7 := by
    exact_mod_cast length_weights_le p prices
  have hpos : 0 < ((p.weights prices).items.length : ℚ) :=
    Nat.cast_pos.mpr (List.length_pos_iff.mpr (Portfolio.weights_ne_nil p prices))
  have hseventh : (1 : ℚ) / 7 ≤ 1 / ((p.weights prices).items.length : ℚ) :=
    one_div_le_one_div_of_le hpos hlength
  have hhhi : holdings.EPSILON < hhi_of (p.weights prices).items := by
    have hle := one_div_le_hhi hvalued
    unfold holdings.EPSILON
    linarith
  rw [heffective, if_pos hhhi]

/-- A portfolio that is worth something is concentrated enough to be measured. -/
theorem is_finite_effective_holdings {allocation : Allocation}
    (h : p.value prices top_n = .ok allocation) :
    allocation.concentration.effective_holdings.is_finite = true := by
  obtain ⟨hvalued, -, -, hconcentration, -⟩ := Portfolio.value_eq_ok h
  rw [effective_holdings_eq hvalued hconcentration]
  rfl

/-- The figures of a concentration, from the least to the greatest. -/
theorem concentration_chain (hvalued : p.Valued prices)
    (h : concentration (p.weights prices).items top_n = .ok c) :
    c.hhi ≤ c.largest_weight ∧ (0 < top_n → c.largest_weight ≤ c.top_n_weight) ∧
      c.top_n_weight ≤ 1 ∧ c.largest_weight ≤ 1 := by
  obtain ⟨largest, rest, hperm, hsorted, hlargest, htop, -, hhhi, -⟩ := concentration_eq_ok h
  have hsum : ((largest :: rest).map Prod.snd).sum = 1 :=
    (hperm.map Prod.snd).sum_eq.trans (Portfolio.sum_weights hvalued)
  have hpos : ∀ x ∈ (largest :: rest).map Prod.snd, 0 ≤ x := by
    intro x hx
    obtain ⟨item, hitem, rfl⟩ := List.mem_map.mp hx
    exact (Portfolio.weights_pos hvalued item (hperm.subset hitem)).le
  have hgreatest : ∀ x ∈ (largest :: rest).map Prod.snd, 0 ≤ x ∧ x ≤ largest.2 := by
    intro x hx
    refine ⟨hpos x hx, ?_⟩
    obtain ⟨item, hitem, rfl⟩ := List.mem_map.mp hx
    rcases List.mem_cons.mp hitem with rfl | hitem
    · exact le_refl _
    · exact weight_le_of_heavier ((List.pairwise_cons.mp hsorted).1 item hitem)
  have hrest : ∀ x ∈ rest.map Prod.snd, 0 ≤ x := fun x hx => hpos x (List.mem_cons_of_mem _ hx)
  rw [hlargest, htop, hhhi, List.map_take]
  refine ⟨?_, fun hk => Shares.head_le_sum_take hrest hk, Shares.sum_take_le_one hsum hpos top_n,
    ?_⟩
  · have hle := Shares.sum_sq_le hsum hgreatest
    rw [Shares.sum_sq, List.map_map, (hperm.map _).sum_eq] at hle
    exact hle
  · have hone := Shares.sum_take_le_one hsum hpos 1
    simpa using hone

/-- A weight that is not among the first is no greater than those that are. -/
theorem weight_of_top (h : concentration (p.weights prices).items top_n = .ok c) {s t : String}
    (hs : s ∈ p.symbols) (hout : s ∉ c.top_n_symbols) (hin : t ∈ c.top_n_symbols) :
    weight_of (p.weights prices) s ≤ weight_of (p.weights prices) t := by
  obtain ⟨largest, rest, hperm, hsorted, -, -, hsymbols, -⟩ := concentration_eq_ok h
  rw [hsymbols] at hout hin
  obtain ⟨first, hfirst, rfl⟩ := List.mem_map.mp hin
  obtain ⟨holding, hholding, rfl⟩ := List.mem_map.mp hs
  have hitem : (holding.symbol, market_value prices holding / p.total_market_value prices)
      ∈ (p.weights prices).items := List.mem_map_of_mem hholding
  -- What is not among the first comes after them.
  have hlater : (holding.symbol, market_value prices holding / p.total_market_value prices)
      ∈ (largest :: rest).drop top_n := by
    have hmem := hperm.symm.subset hitem
    rw [← List.take_append_drop top_n (largest :: rest), List.mem_append] at hmem
    exact hmem.resolve_left fun htake => hout (List.mem_map_of_mem htake)
  rw [← List.take_append_drop top_n (largest :: rest), List.pairwise_append] at hsorted
  have hle := weight_le_of_heavier (hsorted.2.2 first hfirst _ hlater)
  rw [weight_of_mem (hperm.subset (List.mem_of_mem_take hfirst))]
  exact (weight_of_mem hitem).trans_le hle

end Figures

/-! ## Sectors -/

/-- The weight of the symbols in a sector, or of those in none. -/
def sector_weight (weights : List (String × ℚ)) (name : Option String) : ℚ :=
  ((weights.filter (fun item => sector item.1 = name)).map Prod.snd).sum

theorem sector_weight_cons (item : String × ℚ) (weights : List (String × ℚ))
    (name : Option String) :
    sector_weight (item :: weights) name
      = (if sector item.1 = name then item.2 else 0) + sector_weight weights name := by
  unfold sector_weight
  by_cases hname : sector item.1 = name
  · rw [if_pos hname, List.filter_cons_of_pos (by simpa using hname), List.map_cons, List.sum_cons]
  · rw [if_neg hname, List.filter_cons_of_neg (by simpa using hname), zero_add]

/-- What the totals say of a sector, or of the symbols in none. -/
def SectorTotals.weight (totals : SectorTotals) : Option String → ℚ
  | some name => weight_of totals.sectors name
  | none => totals.unclassified_weight

/-- **Step lemma**: a symbol adds its weight to its own sector. -/
theorem SectorTotals.weight_add (totals : SectorTotals) (symbol : String) (weight : ℚ)
    (name : Option String) :
    (totals.add symbol weight).weight name
      = totals.weight name + if sector symbol = name then weight else 0 := by
  unfold SectorTotals.add
  cases hsector : sector symbol with
  | none => cases name <;> simp [SectorTotals.weight]
  | some own =>
    cases name with
    | none => simp [SectorTotals.weight]
    | some name =>
      by_cases hname : own = name
      · subst hname
        simp [SectorTotals.weight, weight_of_upsert_self, add_comm]
      · simp [SectorTotals.weight, weight_of_upsert_of_ne _ _ (Ne.symm hname), hname]

/-- Everything that was added is in a sector or in none. -/
theorem SectorTotals.total_add (totals : SectorTotals) (symbol : String) (weight : ℚ) :
    (totals.add symbol weight).sectors.total Prod.snd
        + (totals.add symbol weight).unclassified_weight
      = totals.sectors.total Prod.snd + totals.unclassified_weight + weight := by
  unfold SectorTotals.add
  cases hsector : sector symbol with
  | none => exact (add_assoc _ _ _).symm
  | some own =>
    have htotal := totals.sectors.total_upsert (own, weight_of totals.sectors own + weight) Prod.snd
    change _ + weight_of totals.sectors own = _ at htotal
    simp only at htotal ⊢
    linarith

theorem sectors_known : ∀ symbol, sector symbol ≠ some UNCLASSIFIED := by
  intro symbol
  unfold sector
  split <;> decide

theorem SectorTotals.unclassified_not_key {totals : SectorTotals}
    (h : totals.sectors.get? UNCLASSIFIED = none) (symbol : String) (weight : ℚ) :
    (totals.add symbol weight).sectors.get? UNCLASSIFIED = none := by
  unfold SectorTotals.add
  cases hsector : sector symbol with
  | none => exact h
  | some own =>
    have hne : UNCLASSIFIED ≠ own := by
      rintro rfl
      exact sectors_known symbol hsector
    exact (Keyed.get?_upsert_of_ne totals.sectors hne).trans h

/-- **Run lemma**: what the loop over the weights adds up. Induction over the
    weights; the totals so far are generalised. -/
theorem sector_totals_eq_ok {weights : List (String × ℚ)} {totals result : SectorTotals}
    (h : sector_totals totals weights = .ok result) :
    (∀ name, result.weight name = totals.weight name + sector_weight weights name) ∧
      result.sectors.total Prod.snd + result.unclassified_weight
        = totals.sectors.total Prod.snd + totals.unclassified_weight
          + (weights.map Prod.snd).sum ∧
      (totals.sectors.get? UNCLASSIFIED = none → result.sectors.get? UNCLASSIFIED = none) := by
  induction weights generalizing totals with
  | nil =>
    obtain rfl := Except.ok.inj h
    exact ⟨fun name => by simp [sector_weight], by simp, fun hnone => hnone⟩
  | cons item weights ih =>
    obtain ⟨symbol, weight⟩ := item
    rw [sector_totals] at h
    cases hinstrument : get_instrument symbol with
    | error err =>
      rw [hinstrument] at h
      cases h
    | ok instrument =>
      rw [hinstrument] at h
      obtain ⟨hweight, htotal, hkey⟩ := ih h
      refine ⟨fun name => ?_, ?_, fun hnone => hkey (totals.unclassified_not_key hnone _ _)⟩
      · rw [hweight, SectorTotals.weight_add, sector_weight_cons, add_assoc]
      · rw [htotal, SectorTotals.total_add, List.map_cons, List.sum_cons, add_assoc]

/-- The name under which a symbol is reported. -/
def sector_name (symbol : String) : String := (sector symbol).getD UNCLASSIFIED

/-- The weight that is reported under a name. -/
def reported_weight (weights : List (String × ℚ)) (name : String) : ℚ :=
  ((weights.filter (fun item => sector_name item.1 = name)).map Prod.snd).sum

theorem sector_name_eq_unclassified {symbol : String} :
    sector_name symbol = UNCLASSIFIED ↔ sector symbol = none := by
  unfold sector_name
  cases hsector : sector symbol with
  | none => simp
  | some own =>
    refine iff_of_false ?_ (by simp)
    rintro rfl
    exact sectors_known symbol hsector

theorem sector_name_eq {symbol name : String} (h : name ≠ UNCLASSIFIED) :
    sector_name symbol = name ↔ sector symbol = some name := by
  unfold sector_name
  cases sector symbol with
  | none => exact iff_of_false (Ne.symm h) (by simp)
  | some own => simp

/-- The entries of the report, and the two sums. -/
theorem sector_exposure_eq_ok {weights : List (String × ℚ)} {exposure : SectorExposure}
    (h : sector_exposure weights = .ok exposure) :
    exposure.classified_weight + exposure.unclassified_weight = (weights.map Prod.snd).sum ∧
      ∀ entry ∈ exposure.sectors, entry.2 = reported_weight weights entry.1 := by
  obtain ⟨totals, htotals, h⟩ := Outcome.bind_eq_ok.mp h
  obtain rfl := Except.ok.inj h
  obtain ⟨hweight, htotal, hkey⟩ := sector_totals_eq_ok htotals
  have hnone : totals.sectors.get? UNCLASSIFIED = none := hkey rfl
  have hclassified : totals.sectors.items.filter (fun item => item.1 ≠ UNCLASSIFIED)
      = totals.sectors.items := by
    rw [List.filter_eq_self]
    intro item hitem
    simpa using Keyed.get?_eq_none.mp hnone item hitem
  have hentry : ∀ entry ∈ totals.sectors.items, entry.2 = reported_weight weights entry.1 := by
    intro entry hmem
    have hname := Keyed.get?_eq_none.mp hnone entry hmem
    have hsum := hweight (some entry.1)
    simp only [SectorTotals.weight, weight_of_mem hmem] at hsum
    rw [hsum, reported_weight, sector_weight]
    simp only [sector_name_eq hname]
    exact zero_add _
  have hrest : totals.unclassified_weight = reported_weight weights UNCLASSIFIED := by
    have hsum := hweight none
    simp only [SectorTotals.weight] at hsum
    rw [hsum, reported_weight, sector_weight]
    simp only [sector_name_eq_unclassified]
    exact zero_add _
  have hsum : (totals.sectors.items.map Prod.snd).sum + totals.unclassified_weight
      = (weights.map Prod.snd).sum := by
    have hzero : (∅ : Weights).total Prod.snd + 0 + (weights.map Prod.snd).sum
        = (weights.map Prod.snd).sum := by
      rw [Keyed.total_empty, zero_add, zero_add]
    exact htotal.trans hzero
  simp only [List.mem_insertionSort]
  by_cases hsome : holdings.EPSILON < totals.unclassified_weight
  · -- The remainder is a further entry, under a name that no sector has.
    have hitems := Keyed.items_upsert_of_new
      (a := (UNCLASSIFIED, totals.unclassified_weight)) hnone
    rw [if_pos hsome, hitems]
    refine ⟨?_, fun entry hmem => ?_⟩
    · rw [List.filter_append, hclassified]
      simpa using hsum
    · rcases List.mem_append.mp hmem with hmem | hmem
      · exact hentry entry hmem
      · obtain rfl := List.mem_singleton.mp hmem
        exact hrest
  · rw [if_neg hsome, hclassified]
    exact ⟨hsum, hentry⟩

/-! ## Allocations -/

/-- How the figures of an allocation hang together. -/
structure Consistent (p : Portfolio) (top_n : ℕ) (allocation : Allocation) : Prop where
  symbols : allocation.weights.items.map Prod.fst = p.symbols
  weights_pos : ∀ item ∈ allocation.weights.items, 0 < item.2
  weights_sum : (allocation.weights.items.map Prod.snd).sum = 1
  le_hhi : 1 / (p.holdings.length : ℚ) ≤ allocation.concentration.hhi
  hhi_le : allocation.concentration.hhi ≤ allocation.concentration.largest_weight
  largest_le : 0 < top_n →
    allocation.concentration.largest_weight ≤ allocation.concentration.top_n_weight
  top_n_le : allocation.concentration.top_n_weight ≤ 1
  effective : ∃ n : ℚ, allocation.concentration.effective_holdings = .num n ∧ 1 ≤ n ∧
    n ≤ p.holdings.length
  top_n_heaviest : ∀ s ∈ p.symbols, s ∉ allocation.concentration.top_n_symbols →
    ∀ t ∈ allocation.concentration.top_n_symbols,
      weight_of allocation.weights s ≤ weight_of allocation.weights t
  classified_sum : allocation.sector_exposure.classified_weight
    + allocation.sector_exposure.unclassified_weight = 1
  sectors : ∀ entry ∈ allocation.sector_exposure.sectors,
    entry.2 = reported_weight allocation.weights.items entry.1

/-- **Main result**: the figures of every allocation are consistent. -/
theorem consistent_of_value {p : Portfolio} {prices : Prices} {top_n : ℕ}
    {allocation : Allocation} (h : p.value prices top_n = .ok allocation) :
    Consistent p top_n allocation := by
  obtain ⟨hvalued, -, hweights, hconcentration, hexposure⟩ := Portfolio.value_eq_ok h
  obtain ⟨-, -, -, -, -, -, -, hhhi, -⟩ := concentration_eq_ok hconcentration
  obtain ⟨hhhi_le, hlargest_le, htop_le, hlargest_one⟩ :=
    concentration_chain hvalued hconcentration
  obtain ⟨hclassified, hsectors⟩ := sector_exposure_eq_ok hexposure
  have hlength : (p.weights prices).items.length = p.holdings.length := List.length_map _
  have hle_hhi := one_div_le_hhi hvalued
  rw [hlength, ← hhhi] at hle_hhi
  have hcount : (0 : ℚ) < p.holdings.length :=
    Nat.cast_pos.mpr (List.length_pos_iff.mpr p.nonempty)
  have hhhi_pos : 0 < allocation.concentration.hhi := (one_div_pos.mpr hcount).trans_le hle_hhi
  exact
    { symbols := by
        rw [hweights]
        exact List.map_map
      weights_pos := hweights ▸ Portfolio.weights_pos hvalued
      weights_sum := hweights ▸ Portfolio.sum_weights hvalued
      le_hhi := hle_hhi
      hhi_le := hhhi_le
      largest_le := hlargest_le
      top_n_le := htop_le
      effective := by
        refine ⟨1 / allocation.concentration.hhi, ?_, ?_, ?_⟩
        · rw [effective_holdings_eq hvalued hconcentration, hhhi]
        · exact (one_le_div hhhi_pos).mpr (hhhi_le.trans hlargest_one)
        · exact (one_div_le hhhi_pos hcount).mpr hle_hhi
      top_n_heaviest := hweights ▸ fun s hs hout t hin => weight_of_top hconcentration hs hout hin
      classified_sum := hclassified.trans (Portfolio.sum_weights hvalued)
      sectors := hweights ▸ hsectors }

theorem known_infy : ∃ instrument, get_instrument "INFY.NS" = .ok instrument := ⟨_, rfl⟩

theorem known_icici : ∃ instrument, get_instrument "ICICIBANK.NS" = .ok instrument := ⟨_, rfl⟩

theorem known_banknifty : ∃ instrument, get_instrument "BANKNIFTY" = .ok instrument := ⟨_, rfl⟩

/-- Two sectors and an index. -/
def three_holdings : Portfolio :=
  ⟨[⟨"INFY.NS", 4, none, known_infy, four_pos, cost_basis_none⟩,
      ⟨"ICICIBANK.NS", 2, none, known_icici, two_pos, cost_basis_none⟩,
      ⟨"BANKNIFTY", 1, none, known_banknifty, one_pos, cost_basis_none⟩],
    "Core", "INR", "BANKNIFTY", List.cons_ne_nil _ _, by decide, known_banknifty⟩

def hundred_each : Prices := fun _ => some (.num 100)

theorem consistent_of_three_holdings :
    ∃ allocation, three_holdings.value hundred_each = .ok allocation ∧
      Consistent three_holdings DEFAULT_TOP_N allocation := by
  have hpriced : usable_price (some (.num 100)) = true := by decide +kernel
  have hvalued : three_holdings.Valued hundred_each := ⟨fun _ _ => hpriced, by decide +kernel⟩
  obtain ⟨allocation, h⟩ := Portfolio.isOk_value hvalued
  exact ⟨allocation, h, consistent_of_value h⟩

end risk

end Quantora
