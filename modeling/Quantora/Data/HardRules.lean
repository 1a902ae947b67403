import Mathlib.Algebra.BigOperators.Group.Finset.Piecewise
import Mathlib.Data.List.NodupEquivFin
import Quantora.Data.Quality

/-! # The hard rules

    What `validate_prices` accepts and what it says about the rest.

    * `HardRule` — the rules in the order in which they are checked, with the
      rows that offend against each.
    * `violations_eq_nil_iff` — the frames that are accepted.
    * `violations_eq` — one violation for each broken rule, with the number of
      rows that offend. -/

namespace Quantora

inductive HardRule where
  | duplicate_timestamp
  | non_monotonic_timestamp
  | missing_value
  | non_positive_price
  | negative_volume
  | high_below_low
  | open_out_of_range
  | close_out_of_range
  deriving DecidableEq, Repr

namespace HardRule

def name : HardRule → String
  | duplicate_timestamp => "duplicate_timestamp"
  | non_monotonic_timestamp => "non_monotonic_timestamp"
  | missing_value => "missing_value"
  | non_positive_price => "non_positive_price"
  | negative_volume => "negative_volume"
  | high_below_low => "high_below_low"
  | open_out_of_range => "open_out_of_range"
  | close_out_of_range => "close_out_of_range"

def all : List HardRule :=
  [duplicate_timestamp, non_monotonic_timestamp, missing_value, non_positive_price,
    negative_volume, high_below_low, open_out_of_range, close_out_of_range]

/-- The rows that a rule about values rejects. Only complete rows have values to
    compare. -/
def rejects (bar : RawBar) : HardRule → Prop
  | duplicate_timestamp => False
  | non_monotonic_timestamp => False
  | missing_value => bar.missing
  | non_positive_price => ¬ bar.missing ∧ ∃ price ∈ bar.prices, price.le (.num 0)
  | negative_volume => ¬ bar.missing ∧ bar.volume.lt (.num 0)
  | high_below_low => ¬ bar.missing ∧ bar.high.lt bar.low
  | open_out_of_range => ¬ bar.missing ∧ (bar.open_.lt bar.low ∨ bar.high.lt bar.open_)
  | close_out_of_range => ¬ bar.missing ∧ (bar.close.lt bar.low ∨ bar.high.lt bar.close)

instance (bar : RawBar) : DecidablePred (rejects bar)
  | duplicate_timestamp => instDecidableFalse
  | non_monotonic_timestamp => instDecidableFalse
  | missing_value => inferInstanceAs (Decidable (bar.missing = true))
  | non_positive_price => inferInstanceAs (Decidable (_ ∧ ∃ price ∈ bar.prices, _))
  | negative_volume => inferInstanceAs (Decidable (_ ∧ _))
  | high_below_low => inferInstanceAs (Decidable (_ ∧ _))
  | open_out_of_range => inferInstanceAs (Decidable (_ ∧ (_ ∨ _)))
  | close_out_of_range => inferInstanceAs (Decidable (_ ∧ (_ ∨ _)))

/-- The rules that look at one row. -/
def OfValues (rule : HardRule) : Prop :=
  rule ≠ duplicate_timestamp ∧ rule ≠ non_monotonic_timestamp

instance : DecidablePred OfValues := fun _ => inferInstanceAs (Decidable (_ ∧ _))

/-- A row offends: its timestamp is that of another row, or is not later than
    that of the row before, or its values are rejected. -/
def offends (frame : RawFrame) (rule : HardRule) (row : ℕ) : Prop :=
  match rule with
  | duplicate_timestamp => ∃ other < frame.length, other ≠ row ∧
      (frame.map RawBar.timestamp)[other]? = (frame.map RawBar.timestamp)[row]?
  | non_monotonic_timestamp => 0 < row ∧ ∃ before ∈ (frame.map RawBar.timestamp)[row - 1]?,
      ∃ now ∈ (frame.map RawBar.timestamp)[row]?, now ≤ before
  | rule => ∃ bar ∈ frame[row]?, rule.rejects bar

instance (frame : RawFrame) (rule : HardRule) : DecidablePred (offends frame rule) := fun row =>
  match rule with
  | duplicate_timestamp => inferInstanceAs (Decidable (∃ other < frame.length, _ ∧ _))
  | non_monotonic_timestamp => inferInstanceAs (Decidable (_ ∧ ∃ before ∈ _, ∃ now ∈ _, _))
  | missing_value => inferInstanceAs (Decidable (∃ bar ∈ frame[row]?, missing_value.rejects bar))
  | non_positive_price =>
    inferInstanceAs (Decidable (∃ bar ∈ frame[row]?, non_positive_price.rejects bar))
  | negative_volume =>
    inferInstanceAs (Decidable (∃ bar ∈ frame[row]?, negative_volume.rejects bar))
  | high_below_low =>
    inferInstanceAs (Decidable (∃ bar ∈ frame[row]?, high_below_low.rejects bar))
  | open_out_of_range =>
    inferInstanceAs (Decidable (∃ bar ∈ frame[row]?, open_out_of_range.rejects bar))
  | close_out_of_range =>
    inferInstanceAs (Decidable (∃ bar ∈ frame[row]?, close_out_of_range.rejects bar))

/-- The number of rows that offend. -/
def rows (frame : RawFrame) (rule : HardRule) : ℕ :=
  ((Finset.range frame.length).filter (offends frame rule)).card

/-- Some row offends. Only the order of the timestamps is not broken by a row
    that repeats one: that is for the first rule. -/
def broken (frame : RawFrame) (rule : HardRule) : Prop :=
  if rule = non_monotonic_timestamp then ¬ (frame.map RawBar.timestamp).Pairwise (· ≤ ·)
  else ∃ row < frame.length, offends frame rule row

instance (frame : RawFrame) : DecidablePred (broken frame) := fun rule =>
  inferInstanceAs (Decidable (if rule = non_monotonic_timestamp then _ else _))

/-- What is reported about the broken rules. -/
def report (frame : RawFrame) : List (String × ℕ) :=
  (all.filter (broken frame)).map (fun rule => (rule.name, rule.rows frame))

end HardRule

/-! ## Counting rows -/

/-- Counting entries is counting their places. -/
theorem countP_eq_card {α : Type} (l : List α) (p : α → Bool) (q : ℕ → Prop) [DecidablePred q]
    (h : ∀ i a, l[i]? = some a → (q i ↔ p a = true)) :
    l.countP p = ((Finset.range l.length).filter q).card := by
  induction l generalizing q with
  | nil => rfl
  | cons a l ih =>
    have htail := ih (fun i => q (i + 1)) (fun i b hb => h (i + 1) b (by simpa using hb))
    rw [List.countP_cons, htail, Finset.card_filter, Finset.card_filter, List.length_cons,
      Finset.sum_range_succ']
    simp only [h 0 a rfl]

/-! ## Timestamps -/

section

variable {index : List Timestamp}

/-- A timestamp occurs twice when another place has it. -/
theorem one_lt_count_iff {i : ℕ} {t : Timestamp} (h : index[i]? = some t) :
    1 < index.count t ↔ ∃ other < index.length, other ≠ i ∧ index[other]? = index[i]? := by
  rw [h, show 1 < index.count t ↔ 2 ≤ index.count t from Iff.rfl,
    ← List.duplicate_iff_two_le_count, List.duplicate_iff_exists_distinct_get]
  constructor
  · rintro ⟨n, m, hlt, hn, hm⟩
    by_cases hni : n.val = i
    · exact ⟨m, m.isLt, by omega, by rw [hm]; simp⟩
    · exact ⟨n, n.isLt, hni, by rw [hn]; simp⟩
  · rintro ⟨other, hother, hne, ht⟩
    obtain ⟨hi, hti⟩ := List.getElem?_eq_some_iff.mp h
    obtain ⟨ho, hto⟩ := List.getElem?_eq_some_iff.mp ht
    rcases Nat.lt_or_gt_of_ne hne with hlt | hlt
    · exact ⟨⟨other, ho⟩, ⟨i, hi⟩, hlt, hto.symm, hti.symm⟩
    · exact ⟨⟨i, hi⟩, ⟨other, ho⟩, hlt, hti.symm, hto.symm⟩

theorem is_monotonic_iff :
    (index.zip index.tail).all (fun pair => pair.1 ≤ pair.2) = true ↔
      index.Pairwise (· ≤ ·) := by
  rw [← List.isChain_iff_pairwise]
  induction index with
  | nil => simp
  | cons a index ih =>
    cases index with
    | nil => simp
    | cons b index =>
      rw [List.isChain_cons_cons, ← ih]
      simp

end

namespace HardRule

variable (frame : RawFrame)

theorem duplicated_length :
    (duplicated (frame.map RawBar.timestamp)).length = rows frame duplicate_timestamp := by
  unfold duplicated rows
  rw [← List.countP_eq_length_filter,
    countP_eq_card _ _ (offends frame duplicate_timestamp) ?_, List.length_map]
  intro i t ht
  rw [decide_eq_true_eq, one_lt_count_iff ht, List.length_map]
  rfl

theorem non_increasing_length :
    (non_increasing (frame.map RawBar.timestamp)).length
      = rows frame non_monotonic_timestamp := by
  unfold non_increasing rows
  rw [← List.countP_eq_length_filter,
    countP_eq_card _ _ (fun i => offends frame non_monotonic_timestamp (i + 1)) ?_]
  · cases frame with
    | nil => rfl
    | cons bar frame =>
      -- The first row has none before it, and the others are one place further.
      have hfirst : ¬ offends (bar :: frame) non_monotonic_timestamp 0 :=
        fun h => absurd h.1 (lt_irrefl 0)
      rw [Finset.card_filter, Finset.card_filter, List.length_cons, Finset.sum_range_succ',
        if_neg hfirst, add_zero]
      simp
  · intro i pair hpair
    obtain ⟨hbefore, hnow⟩ := List.getElem?_zip_eq_some.mp hpair
    rw [List.getElem?_tail] at hnow
    simp [offends, hbefore, hnow]

/-! ## One rule at a time -/

/-- What is said of a violation. -/
def found (violation : Violation) : String × ℕ := (violation.rule, violation.row_count)

/-- What is reported about one rule. -/
def entry (rule : HardRule) : List (String × ℕ) :=
  if broken frame rule then [(rule.name, rule.rows frame)] else []

theorem report_eq : report frame = all.flatMap (entry frame) := by
  unfold report
  generalize all = rules
  induction rules with
  | nil => rfl
  | cons rule rules ih =>
    rw [List.filter_cons, List.flatMap_cons, ← ih]
    by_cases hbroken : broken frame rule
    · simp [entry, hbroken]
    · simp [entry, hbroken]

theorem rows_eq_zero {rule : HardRule} :
    rows frame rule = 0 ↔ ¬ ∃ row < frame.length, offends frame rule row := by
  unfold rows
  rw [Finset.card_eq_zero, Finset.filter_eq_empty_iff]
  simp

theorem broken_iff {rule : HardRule} (h : rule ≠ non_monotonic_timestamp) :
    broken frame rule ↔ rows frame rule ≠ 0 := by
  rw [broken, if_neg h, ne_eq, rows_eq_zero, not_not]

theorem broken_order_iff :
    broken frame non_monotonic_timestamp ↔ ¬ (frame.map RawBar.timestamp).Pairwise (· ≤ ·) := by
  rw [broken, if_pos rfl]

theorem offends_iff {rule : HardRule} (h : rule.OfValues) (row : ℕ) :
    offends frame rule row ↔ ∃ bar ∈ frame[row]?, rule.rejects bar := by
  cases rule with
  | duplicate_timestamp => exact absurd rfl h.1
  | non_monotonic_timestamp => exact absurd rfl h.2
  | _ => exact Iff.rfl

/-- The rules about values count the rows that they reject. -/
theorem rows_eq_countP {rule : HardRule} (h : rule.OfValues) :
    rows frame rule = frame.countP (fun bar => rule.rejects bar) := by
  rw [countP_eq_card _ _ (offends frame rule)]
  · rfl
  · intro i bar hbar
    rw [offends_iff frame h, hbar]
    simp

theorem entry_of_rows {rule : HardRule} (h : rule ≠ non_monotonic_timestamp) {n : ℕ}
    (hrows : n = rows frame rule) (message : String) :
    (if n = 0 then [] else [(⟨rule.name, message, n⟩ : Violation)]).map found
      = entry frame rule := by
  rw [hrows, entry]
  by_cases hzero : rows frame rule = 0
  · rw [if_pos hzero, if_neg (fun hbroken => (broken_iff frame h).mp hbroken hzero)]
    rfl
  · rw [if_neg hzero, if_pos ((broken_iff frame h).mpr hzero)]
    rfl

theorem found_duplicated (message : String) :
    (if duplicated (frame.map RawBar.timestamp) = [] then []
      else [(⟨"duplicate_timestamp", message,
        (duplicated (frame.map RawBar.timestamp)).length⟩ : Violation)]).map found
      = entry frame duplicate_timestamp := by
  rw [← entry_of_rows frame (by decide) (duplicated_length frame) message]
  simp only [List.length_eq_zero_iff]
  rfl

theorem found_non_increasing (message : String) :
    (if ((frame.map RawBar.timestamp).zip (frame.map RawBar.timestamp).tail).all
        (fun pair => pair.1 ≤ pair.2) then []
      else [(⟨"non_monotonic_timestamp", message,
        (non_increasing (frame.map RawBar.timestamp)).length⟩ : Violation)]).map found
      = entry frame non_monotonic_timestamp := by
  unfold entry
  by_cases hordered : (frame.map RawBar.timestamp).Pairwise (· ≤ ·)
  · rw [if_pos (is_monotonic_iff.mpr hordered),
      if_neg (fun hbroken => (broken_order_iff frame).mp hbroken hordered)]
    rfl
  · rw [if_neg (fun h => hordered (is_monotonic_iff.mp h)),
      if_pos ((broken_order_iff frame).mpr hordered), ← non_increasing_length]
    rfl

/-- A rule about values, checked on some of the rows. -/
theorem found_row_violation (rule : HardRule) (h : rule.OfValues) {message : ℕ → String}
    {breaks : RawBar → Bool} {checked : RawFrame}
    (hcount : checked.countP breaks = frame.countP (fun bar => rule.rejects bar)) :
    (row_violation rule.name message breaks checked).map found = entry frame rule :=
  entry_of_rows frame h.2 (hcount.trans (rows_eq_countP frame h).symm) _

/-- A rule that is checked on the complete rows. -/
theorem found_complete (rule : HardRule) (h : rule.OfValues) {message : ℕ → String}
    {breaks : RawBar → Bool}
    (hrejects : ∀ bar, rule.rejects bar ↔ ¬ bar.missing ∧ breaks bar) :
    (row_violation rule.name message breaks (frame.filter (fun bar => ¬ bar.missing))).map found
      = entry frame rule := by
  apply found_row_violation frame rule h
  rw [List.countP_filter]
  apply List.countP_congr
  intro bar _
  rw [decide_eq_true_eq, hrejects, Bool.and_eq_true, decide_eq_true_eq, and_comm]

end HardRule

/-! ## All of them -/

theorem found_check_values (frame : RawFrame) :
    (check_values frame).map HardRule.found
      = HardRule.entry frame .missing_value ++ HardRule.entry frame .non_positive_price
        ++ HardRule.entry frame .negative_volume ++ HardRule.entry frame .high_below_low
        ++ HardRule.entry frame .open_out_of_range ++ HardRule.entry frame .close_out_of_range := by
  let complete := frame.filter (fun bar => ¬ bar.missing)
  have hmissing : (missing_value frame).map HardRule.found = HardRule.entry frame .missing_value :=
    HardRule.found_row_violation frame .missing_value (by decide)
      (List.countP_congr fun bar _ => by
        rw [decide_eq_true_eq]
        rfl)
  have hprice : (non_positive_price complete).map HardRule.found
      = HardRule.entry frame .non_positive_price :=
    HardRule.found_complete frame .non_positive_price (by decide)
      (fun bar => by simp [HardRule.rejects])
  have hvolume : (negative_volume complete).map HardRule.found
      = HardRule.entry frame .negative_volume :=
    HardRule.found_complete frame .negative_volume (by decide) (fun bar => Iff.rfl)
  have hhigh : (high_below_low complete).map HardRule.found
      = HardRule.entry frame .high_below_low :=
    HardRule.found_complete frame .high_below_low (by decide) (fun bar => Iff.rfl)
  have hopen : (open_out_of_range complete).map HardRule.found
      = HardRule.entry frame .open_out_of_range :=
    HardRule.found_complete frame .open_out_of_range (by decide)
      (fun bar => by simp [HardRule.rejects])
  have hclose : (close_out_of_range complete).map HardRule.found
      = HardRule.entry frame .close_out_of_range :=
    HardRule.found_complete frame .close_out_of_range (by decide)
      (fun bar => by simp [HardRule.rejects])
  rw [← hmissing, ← hprice, ← hvolume, ← hhigh, ← hopen, ← hclose]
  simp only [check_values, List.map_append, complete]

/-- One violation for each broken rule, in the order of the rules. -/
theorem violations_eq_report (frame : RawFrame) :
    (violations frame).map HardRule.found = HardRule.report frame := by
  rw [HardRule.report_eq, violations, check_timestamps]
  simp only [List.map_append, HardRule.found_duplicated, HardRule.found_non_increasing,
    found_check_values]
  simp [HardRule.all]

/-! ## What is accepted -/

/-- A row that no rule about values rejects. -/
structure RawBar.Sound (bar : RawBar) : Prop where
  complete : bar.missing = false
  positive : ∀ price ∈ bar.prices, price.le (.num 0) = false
  volume : bar.volume.lt (.num 0) = false
  high_low : bar.high.lt bar.low = false
  open_low : bar.open_.lt bar.low = false
  open_high : bar.high.lt bar.open_ = false
  close_low : bar.close.lt bar.low = false
  close_high : bar.high.lt bar.close = false

theorem RawBar.sound_iff {bar : RawBar} : bar.Sound ↔ ∀ rule, ¬ HardRule.rejects bar rule := by
  constructor
  · intro h rule hrejects
    cases rule with
    | duplicate_timestamp => exact hrejects
    | non_monotonic_timestamp => exact hrejects
    | missing_value => exact absurd (h.complete.symm.trans hrejects) (by decide)
    | non_positive_price =>
      obtain ⟨-, price, hprice, hle⟩ := hrejects
      exact absurd ((h.positive price hprice).symm.trans hle) (by decide)
    | negative_volume => exact absurd (h.volume.symm.trans hrejects.2) (by decide)
    | high_below_low => exact absurd (h.high_low.symm.trans hrejects.2) (by decide)
    | open_out_of_range =>
      rcases hrejects.2 with hlow | hhigh
      · exact absurd (h.open_low.symm.trans hlow) (by decide)
      · exact absurd (h.open_high.symm.trans hhigh) (by decide)
    | close_out_of_range =>
      rcases hrejects.2 with hlow | hhigh
      · exact absurd (h.close_low.symm.trans hlow) (by decide)
      · exact absurd (h.close_high.symm.trans hhigh) (by decide)
  · intro h
    have hcomplete : bar.missing = false := Bool.eq_false_iff.mpr (h .missing_value)
    have hvalue : ∀ {b : Bool}, (b = true → ∃ rule, HardRule.rejects bar rule) → b = false :=
      fun himp => Bool.eq_false_iff.mpr fun hb => (himp hb).elim fun rule hrule => h rule hrule
    have hpresent : ¬ bar.missing := by simp [hcomplete]
    exact
      { complete := hcomplete
        positive := fun price hprice =>
          hvalue fun hle => ⟨.non_positive_price, hpresent, price, hprice, hle⟩
        volume := hvalue fun hlt => ⟨.negative_volume, hpresent, hlt⟩
        high_low := hvalue fun hlt => ⟨.high_below_low, hpresent, hlt⟩
        open_low := hvalue fun hlt => ⟨.open_out_of_range, hpresent, Or.inl hlt⟩
        open_high := hvalue fun hlt => ⟨.open_out_of_range, hpresent, Or.inr hlt⟩
        close_low := hvalue fun hlt => ⟨.close_out_of_range, hpresent, Or.inl hlt⟩
        close_high := hvalue fun hlt => ⟨.close_out_of_range, hpresent, Or.inr hlt⟩ }

theorem violations_eq_nil_iff_broken {frame : RawFrame} :
    violations frame = [] ↔ ∀ rule, ¬ HardRule.broken frame rule := by
  rw [← List.map_eq_nil_iff, violations_eq_report, HardRule.report, List.map_eq_nil_iff,
    List.filter_eq_nil_iff]
  constructor
  · intro h rule
    have hmem : rule ∈ HardRule.all := by cases rule <;> decide
    simpa using h rule hmem
  · intro h rule _
    simpa using h rule

/-- The two rules about timestamps together ask for a strict increase. -/
theorem increasing_iff {frame : RawFrame} :
    (frame.map RawBar.timestamp).Pairwise (· < ·) ↔
      ¬ HardRule.broken frame .duplicate_timestamp ∧
        ¬ HardRule.broken frame .non_monotonic_timestamp := by
  have hunique : ¬ HardRule.broken frame .duplicate_timestamp ↔
      (frame.map RawBar.timestamp).Nodup := by
    rw [HardRule.broken_iff frame (by decide), not_not, ← HardRule.duplicated_length,
      List.length_eq_zero_iff, duplicated, List.filter_eq_nil_iff, List.nodup_iff_count_le_one]
    constructor
    · intro h t
      by_cases ht : t ∈ frame.map RawBar.timestamp
      · simpa using h t ht
      · simp [List.count_eq_zero_of_not_mem ht]
    · intro h t _
      simpa using h t
  rw [hunique, HardRule.broken_order_iff, not_not, and_comm]
  simp only [lt_iff_le_and_ne]
  exact List.pairwise_and_iff

theorem broken_values_iff {frame : RawFrame} {rule : HardRule} (h : rule.OfValues) :
    HardRule.broken frame rule ↔ ∃ bar ∈ frame, rule.rejects bar := by
  rw [HardRule.broken, if_neg h.2]
  simp only [HardRule.offends_iff frame h]
  constructor
  · rintro ⟨row, -, bar, hbar, hrejects⟩
    exact ⟨bar, List.mem_of_getElem? hbar, hrejects⟩
  · rintro ⟨bar, hbar, hrejects⟩
    obtain ⟨row, hrow, rfl⟩ := List.getElem_of_mem hbar
    exact ⟨row, hrow, _, List.getElem?_eq_getElem hrow, hrejects⟩

theorem HardRule.ofValues_of_rejects {bar : RawBar} {rule : HardRule} (h : rule.rejects bar) :
    rule.OfValues := by
  constructor
  · rintro rfl
    exact h
  · rintro rfl
    exact h

/-- The frames that are accepted. -/
theorem violations_eq_nil_iff {frame : RawFrame} :
    violations frame = [] ↔
      (frame.map RawBar.timestamp).Pairwise (· < ·) ∧ ∀ bar ∈ frame, bar.Sound := by
  rw [violations_eq_nil_iff_broken, increasing_iff]
  constructor
  · intro h
    refine ⟨⟨h _, h _⟩, fun bar hbar => RawBar.sound_iff.mpr fun rule hrejects => ?_⟩
    have hvalues := HardRule.ofValues_of_rejects hrejects
    exact h rule ((broken_values_iff hvalues).mpr ⟨bar, hbar, hrejects⟩)
  · rintro ⟨⟨hunique, hordered⟩, hsound⟩ rule hbroken
    by_cases hvalues : rule.OfValues
    · obtain ⟨bar, hbar, hrejects⟩ := (broken_values_iff hvalues).mp hbroken
      exact RawBar.sound_iff.mp (hsound bar hbar) rule hrejects
    · rw [HardRule.OfValues, not_and_or, not_not, not_not] at hvalues
      rcases hvalues with rfl | rfl
      · exact hunique hbroken
      · exact hordered hbroken

/-- The rules about the values of a complete row: a price that is zero or less,
    a negative volume, a high below the low, or an open or a close outside of
    them. -/
def RawBar.BreaksRule (bar : RawBar) : Prop :=
  (∃ price ∈ bar.prices, price.le (.num 0)) ∨ bar.volume.lt (.num 0) ∨ bar.high.lt bar.low ∨
    (bar.open_.lt bar.low ∨ bar.high.lt bar.open_) ∨
    (bar.close.lt bar.low ∨ bar.high.lt bar.close)

theorem RawBar.exists_rejects_iff {bar : RawBar} :
    (∃ rule, HardRule.rejects bar rule) ↔ bar.missing ∨ ¬ bar.missing ∧ bar.BreaksRule := by
  constructor
  · rintro ⟨rule, hrejects⟩
    cases rule with
    | duplicate_timestamp => exact hrejects.elim
    | non_monotonic_timestamp => exact hrejects.elim
    | missing_value => exact Or.inl hrejects
    | non_positive_price => exact Or.inr ⟨hrejects.1, Or.inl hrejects.2⟩
    | negative_volume => exact Or.inr ⟨hrejects.1, Or.inr (Or.inl hrejects.2)⟩
    | high_below_low => exact Or.inr ⟨hrejects.1, Or.inr (Or.inr (Or.inl hrejects.2))⟩
    | open_out_of_range =>
      exact Or.inr ⟨hrejects.1, Or.inr (Or.inr (Or.inr (Or.inl hrejects.2)))⟩
    | close_out_of_range =>
      exact Or.inr ⟨hrejects.1, Or.inr (Or.inr (Or.inr (Or.inr hrejects.2)))⟩
  · rintro (hmissing | ⟨hpresent, hprice | hvolume | hhigh | hopen | hclose⟩)
    · exact ⟨.missing_value, hmissing⟩
    · exact ⟨.non_positive_price, hpresent, hprice⟩
    · exact ⟨.negative_volume, hpresent, hvolume⟩
    · exact ⟨.high_below_low, hpresent, hhigh⟩
    · exact ⟨.open_out_of_range, hpresent, hopen⟩
    · exact ⟨.close_out_of_range, hpresent, hclose⟩

theorem validate_prices_eq_error {frame : RawFrame} {symbol interval : String}
    {error : DataError} :
    validate_prices frame symbol interval = .error error ↔
      violations frame ≠ [] ∧ error = .DataValidationError symbol (violations frame) := by
  unfold validate_prices
  by_cases hvalid : violations frame = []
  · rw [if_neg (not_not.mpr hvalid)]
    simp [hvalid]
  · rw [if_pos hvalid, Except.error.injEq, eq_comm]
    simp [hvalid]

/-- A frame is refused exactly when its timestamps do not strictly increase, or a
    row misses a value, or a complete row breaks a rule; and the error has one
    violation for each broken rule, with the number of rows that offend. -/
theorem hard_rules_exact (frame : RawFrame) (symbol interval : String) :
    ((∃ error, validate_prices frame symbol interval = .error error) ↔
      ¬ (frame.map RawBar.timestamp).Pairwise (· < ·) ∨ (∃ bar ∈ frame, bar.missing) ∨
        ∃ bar ∈ frame, ¬ bar.missing ∧ bar.BreaksRule) ∧
    ∀ error, validate_prices frame symbol interval = .error error →
      ∃ violations, error = .DataValidationError symbol violations ∧
        violations.map HardRule.found = HardRule.report frame := by
  constructor
  · simp only [validate_prices_eq_error, exists_and_left, exists_eq, and_true, ne_eq,
      violations_eq_nil_iff, RawBar.sound_iff]
    rw [not_and_or, ← exists_or]
    refine or_congr_right ?_
    simp only [not_forall, not_not, ← and_or_left, ← RawBar.exists_rejects_iff, exists_prop]
  · intro error h
    obtain ⟨-, rfl⟩ := validate_prices_eq_error.mp h
    exact ⟨violations frame, rfl, violations_eq_report frame⟩

/-- Two rows at one time, the second without an open; after them an earlier row
    that breaks every rule about values. -/
def faulty : RawFrame :=
  [⟨86400000000000, .num 10, .num 10, .num 10, .num 10, .num 10, .num 1⟩,
    ⟨86400000000000, .nan, .num 10, .num 10, .num 10, .num 10, .num 1⟩,
    ⟨0, .num 11, .num (-1), .num 10, .num 10, .num 10, .num (-1)⟩]

theorem hard_rules_of_faulty :
    ∃ violations, DataError.DataValidationError "NIFTY" (Quantora.violations faulty)
        = .DataValidationError "NIFTY" violations ∧
      violations.map HardRule.found = HardRule.report faulty ∧
      HardRule.report faulty = [("duplicate_timestamp", 2), ("non_monotonic_timestamp", 2),
        ("missing_value", 1), ("non_positive_price", 1), ("negative_volume", 1),
        ("high_below_low", 1), ("open_out_of_range", 1), ("close_out_of_range", 1)] := by
  have hinvalid : Quantora.violations faulty ≠ [] := by decide +kernel
  obtain ⟨found, heq, hfound⟩ := (hard_rules_exact faulty "NIFTY" "1d").2 _
    (validate_prices_eq_error.mpr ⟨hinvalid, rfl⟩)
  exact ⟨found, heq, hfound, by decide +kernel⟩

end Quantora
