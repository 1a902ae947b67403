import Mathlib.Data.List.MinMax
import Quantora.Data.Service

/-! # Data quality

    `data/validation.py`, after the hard rules: gaps are not violations, they are
    reported. `detect_gaps` looks at the spacing of consecutive bars and
    `validate_prices` grades what it finds.

    * `MissingBar` — a bar of an interval that is missing between two others: a
      business day, a week or a month.
    * `gaps_exact_iff` — when the gaps reported are the pairs with a missing bar.
    * `severity_exact_iff` — when the severity says how long the gaps are.
-/

namespace Quantora

/-! ## Gaps -/

/-- Bars at least this many calendar days apart are a gap. -/
def LONG_GAP_DAYS : ℤ := 4

/-- A gap of this many calendar days is escalated. -/
def SEVERE_GAP_DAYS : ℤ := 10

/-- `timestamp.isoformat()`. -/
def isoformat (timestamp : Timestamp) : String :=
  (Python.str_timestamp timestamp).map (fun c => if c = ' ' then 'T' else c)

/-- The days since 1970-01-01. -/
def day_number (timestamp : Timestamp) : ℤ := timestamp / 86400000000000

/-- `(before - after).days`. -/
def calendar_days (after before : Timestamp) : ℤ := (before - after) / 86400000000000

/-- `pd.bdate_range(after, before, inclusive="neither")`: the days from Monday to
    Friday that are strictly between two others. -/
def business_days_between (after before : Timestamp) : List ℤ :=
  let first := day_number after + 1
  ((List.range (day_number before - first).toNat).map (fun n : ℕ => first + n)).filter
    (fun day => Python.Date.weekday day < 5)

/-- A stretch of missing bars between two consecutive rows. -/
structure Gap where
  after : String
  before : String
  calendar_days : ℤ
  missing_business_days : ℕ
  deriving DecidableEq, Repr

/-- One turn of the loop in `detect_gaps`. -/
def gap_between (after before : Timestamp) : Option Gap :=
  let days := calendar_days after before
  if days < LONG_GAP_DAYS then none
  else
    -- Weekends are expected, so they do not count as missing.
    let missing := (business_days_between after before).length
    if missing = 0 then none else some ⟨isoformat after, isoformat before, days, missing⟩

/-- Consecutive bars of a frame, by their timestamps. -/
def consecutive (frame : RawFrame) : List (Timestamp × Timestamp) :=
  let index := frame.map RawBar.timestamp
  index.zip index.tail

/-- The intervals that are checked for gaps. Intraday spacing is dominated by
    the session boundary. -/
def GAP_INTERVALS : List String := ["1d", "1wk", "1mo"]

/-- Find stretches of missing bars. -/
def detect_gaps (frame : RawFrame) (interval : String) : List Gap :=
  if interval ∉ GAP_INTERVALS ∨ frame.length < 2 then []
  else (consecutive frame).filterMap (fun pair => gap_between pair.1 pair.2)

/-! ## The report -/

inductive Severity where
  | clean
  | gaps_detected
  | severe_gaps
  deriving DecidableEq, Repr

def Severity.label : Severity → String
  | clean => "clean"
  | gaps_detected => "gaps_detected"
  | severe_gaps => "severe_gaps"

/-- What the validator observed. -/
structure DataQualityReport where
  symbol : String
  interval : String
  row_count : ℕ
  gaps : List Gap
  severity : Severity
  notes : List String
  deriving DecidableEq, Repr

def longest_note (gaps : List Gap) (worst : Gap) : String :=
  toString gaps.length ++ " gap(s) detected; the longest skips "
    ++ toString worst.missing_business_days ++ " trading day(s) between " ++ worst.after ++ " and "
    ++ worst.before ++ ". NSE holidays produce gaps legitimately — inspect before treating this "
    ++ "as missing data."

def severe_note (worst : Gap) : String :=
  "The longest gap spans " ++ toString worst.calendar_days ++ " calendar days, which is longer "
    ++ "than any NSE holiday cluster. Treat metrics over this range as unreliable."

/-- The severity and the notes for some gaps. The first of those that skip the
    most business days is the worst. -/
def assess (gaps : List Gap) : Severity × List String :=
  match gaps.argmax Gap.missing_business_days with
  | none => (.clean, [])
  | some worst =>
    if SEVERE_GAP_DAYS ≤ worst.calendar_days then
      (.severe_gaps, [longest_note gaps worst, severe_note worst])
    else (.gaps_detected, [longest_note gaps worst])

/-- The report on a frame that passed. -/
def report_of (frame : RawFrame) (symbol interval : String) : DataQualityReport :=
  let gaps := detect_gaps frame interval
  { symbol := symbol
    interval := interval
    row_count := frame.length
    gaps := gaps
    severity := (assess gaps).1
    notes := (assess gaps).2 }

/-- Apply every hard rule, then report gaps. -/
def validate_prices (frame : RawFrame) (symbol interval : String) :
    Except DataError DataQualityReport :=
  if violations frame ≠ [] then .error (.DataValidationError symbol (violations frame))
  else .ok (report_of frame symbol interval)

theorem validate_prices_eq_ok {frame : RawFrame} {symbol interval : String}
    {report : DataQualityReport} :
    validate_prices frame symbol interval = .ok report ↔
      violations frame = [] ∧ report_of frame symbol interval = report := by
  unfold validate_prices
  by_cases hvalid : violations frame = []
  · rw [if_neg (not_not.mpr hvalid), Except.ok.injEq]
    simp [hvalid]
  · rw [if_pos hvalid]
    simp [hvalid]

/-! ## Which pairs are reported -/

theorem mem_business_days_between {after before : Timestamp} {day : ℤ} :
    day ∈ business_days_between after before ↔
      day_number after < day ∧ day < day_number before ∧ Python.Date.weekday day < 5 := by
  unfold business_days_between
  rw [List.mem_filter, List.mem_map, decide_eq_true_eq]
  constructor
  · rintro ⟨⟨n, hn, rfl⟩, hweekday⟩
    rw [List.mem_range] at hn
    exact ⟨by omega, by omega, hweekday⟩
  · rintro ⟨hafter, hbefore, hweekday⟩
    refine ⟨⟨(day - (day_number after + 1)).toNat, ?_, by omega⟩, hweekday⟩
    rw [List.mem_range]
    omega

/-- Of three days in a row one is a business day. -/
theorem exists_business_day {after before : Timestamp}
    (h : LONG_GAP_DAYS ≤ calendar_days after before) :
    ∃ day, day ∈ business_days_between after before := by
  unfold LONG_GAP_DAYS calendar_days at h
  have hdays : day_number after + 4 ≤ day_number before := by
    unfold day_number
    omega
  by_cases hfirst : Python.Date.weekday (day_number after + 1) < 5
  · exact ⟨_, mem_business_days_between.mpr ⟨by omega, by omega, hfirst⟩⟩
  · -- Saturday or Sunday, so the second day after it is Monday or Tuesday.
    refine ⟨day_number after + 3, mem_business_days_between.mpr ⟨by omega, by omega, ?_⟩⟩
    unfold Python.Date.weekday at hfirst ⊢
    omega

/-- The consecutive bars that are a gap. -/
def long_gaps (frame : RawFrame) : List (Timestamp × Timestamp) :=
  (consecutive frame).filter (fun pair => LONG_GAP_DAYS ≤ calendar_days pair.1 pair.2)

/-- What is reported about a gap. -/
def gap_of (pair : Timestamp × Timestamp) : Gap :=
  ⟨isoformat pair.1, isoformat pair.2, calendar_days pair.1 pair.2,
    (business_days_between pair.1 pair.2).length⟩

/-- The spacing alone decides: a long gap always has a business day in it. -/
theorem gap_between_eq (after before : Timestamp) :
    gap_between after before
      = if LONG_GAP_DAYS ≤ calendar_days after before then some (gap_of (after, before))
        else none := by
  unfold gap_between
  by_cases hlong : LONG_GAP_DAYS ≤ calendar_days after before
  · obtain ⟨day, hday⟩ := exists_business_day hlong
    have hmissing : (business_days_between after before).length ≠ 0 :=
      (List.length_pos_of_mem hday).ne'
    rw [if_neg hlong.not_gt, if_neg hmissing, if_pos hlong]
    rfl
  · rw [if_pos (not_le.mp hlong), if_neg hlong]

theorem detect_gaps_eq (frame : RawFrame) {interval : String} (h : interval ∈ GAP_INTERVALS) :
    detect_gaps frame interval = (long_gaps frame).map gap_of := by
  have hmap : (consecutive frame).filterMap (fun pair => gap_between pair.1 pair.2)
      = (long_gaps frame).map gap_of := by
    unfold long_gaps
    rw [← List.filterMap_eq_map, List.filterMap_filter]
    apply List.filterMap_congr
    intro pair _
    rw [gap_between_eq]
    simp
  unfold detect_gaps
  by_cases hshort : frame.length < 2
  · -- A frame of one bar has no consecutive bars.
    rw [if_pos (Or.inr hshort)]
    have hnone : consecutive frame = [] := by
      apply List.eq_nil_of_length_eq_zero
      simp only [consecutive, List.length_zip, List.length_map, List.length_tail]
      omega
    rw [long_gaps, hnone]
    rfl
  · rw [if_neg (by simp [h, hshort]), hmap]

theorem detect_gaps_intraday (frame : RawFrame) {interval : String}
    (h : interval ∉ GAP_INTERVALS) : detect_gaps frame interval = [] :=
  if_pos (Or.inl h)

/-! ## Missing bars -/

/-- The bars that an interval has: one covers the days from `first` up to `next`. -/
def Covers (interval : String) (first next : ℤ) : Prop :=
  interval = "1d" ∧ Python.Date.weekday first < 5 ∧ next = first + 1 ∨
    interval = "1wk" ∧ Python.Date.weekday first = 0 ∧ next = first + 7 ∨
    interval = "1mo" ∧ ∃ month : Python.Date, month.day = 1 ∧ first = month.days ∧
      next = first + Python.days_in_month month.year month.month

/-- A whole business day, week or month lies between two bars. -/
def MissingBar (interval : String) (after before : Timestamp) : Prop :=
  ∃ first next, Covers interval first next ∧ day_number after < first ∧
    next ≤ day_number before

open Classical in
/-- The gaps reported are the pairs of consecutive bars with a bar missing
    between them, each once and in their order. -/
def ReportsMissingBars (frame : RawFrame) (interval : String) : Prop :=
  (detect_gaps frame interval).map (fun gap => (gap.after, gap.before))
    = ((consecutive frame).filter (fun pair => MissingBar interval pair.1 pair.2)).map
        (fun pair => (isoformat pair.1, isoformat pair.2))

theorem missing_business_day {after before : Timestamp} :
    MissingBar "1d" after before ↔ business_days_between after before ≠ [] := by
  constructor
  · rintro ⟨first, next, ⟨-, hweekday, rfl⟩ | ⟨hinterval, -⟩ | ⟨hinterval, -⟩, hafter, hbefore⟩
    · exact List.ne_nil_of_mem (mem_business_days_between.mpr ⟨hafter, by omega, hweekday⟩)
    · exact absurd hinterval (by decide)
    · exact absurd hinterval (by decide)
  · intro hne
    obtain ⟨day, hday⟩ := List.exists_mem_of_ne_nil _ hne
    obtain ⟨hafter, hbefore, hweekday⟩ := mem_business_days_between.mp hday
    exact ⟨day, day + 1, Or.inl ⟨rfl, hweekday, rfl⟩, hafter, by omega⟩

theorem days_in_month_ge (year month : ℕ) : 28 ≤ Python.days_in_month year month := by
  unfold Python.days_in_month
  split_ifs <;> omega

/-- A week or a month that is missing leaves a long gap. -/
theorem long_of_missing {interval : String} (hdaily : interval ≠ "1d") {after before : Timestamp}
    (h : MissingBar interval after before) : LONG_GAP_DAYS ≤ calendar_days after before := by
  obtain ⟨first, next, hcovers, hafter, hbefore⟩ := h
  have hlength : first + 7 ≤ next := by
    rcases hcovers with ⟨hinterval, -⟩ | ⟨-, -, rfl⟩ | ⟨-, month, -, -, rfl⟩
    · exact absurd hinterval hdaily
    · exact le_rfl
    · have := days_in_month_ge month.year month.month
      omega
  unfold day_number at hafter hbefore
  unfold LONG_GAP_DAYS calendar_days
  omega

/-- Of two selections from a list, one within the other, the texts agree only if
    the selections do. -/
theorem map_filter_eq_iff {α β : Type} {l : List α} {p q : α → Bool} (f : α → β)
    (h : ∀ x ∈ l, p x → q x) :
    (l.filter p).map f = (l.filter q).map f ↔ ∀ x ∈ l, q x → p x := by
  have hinner : (l.filter q).filter p = l.filter p := by
    rw [List.filter_filter]
    apply List.filter_congr
    intro x hx
    have hpq := h x hx
    cases hp : p x with
    | false => rfl
    | true => rw [hpq hp, Bool.true_and]
  constructor
  · intro heq x hx hq
    have hlength : ((l.filter q).filter p).length = (l.filter q).length := by
      rw [hinner]
      simpa using congrArg List.length heq
    have hsame := List.filter_sublist.eq_of_length hlength
    exact List.filter_eq_self.mp hsame x (List.mem_filter.mpr ⟨hx, hq⟩)
  · intro hback
    congr 1
    apply List.filter_congr
    intro x hx
    exact Bool.eq_iff_iff.mpr ⟨h x hx, hback x hx⟩

/-- Every daily gap that is reported has a business day in it. -/
theorem daily_gaps_iff (frame : RawFrame) :
    ReportsMissingBars frame "1d" ↔ ∀ pair ∈ consecutive frame,
      calendar_days pair.1 pair.2 < LONG_GAP_DAYS → business_days_between pair.1 pair.2 = [] := by
  classical
  have hreported : ∀ pair ∈ consecutive frame,
      decide (LONG_GAP_DAYS ≤ calendar_days pair.1 pair.2) = true →
        decide (MissingBar "1d" pair.1 pair.2) = true := by
    intro pair _ hlong
    obtain ⟨day, hday⟩ := exists_business_day (of_decide_eq_true hlong)
    exact decide_eq_true (missing_business_day.mpr (List.ne_nil_of_mem hday))
  unfold ReportsMissingBars
  rw [detect_gaps_eq frame (by decide), List.map_map]
  refine Iff.trans (map_filter_eq_iff _ hreported) ?_
  refine forall₂_congr fun pair _ => ?_
  rw [decide_eq_true_eq, decide_eq_true_eq, missing_business_day, ne_eq, not_imp_comm, not_le]

/-- Every week or month that is missing is in a gap that is reported. -/
theorem coarse_gaps_iff (frame : RawFrame) {interval : String} (h : interval ∈ GAP_INTERVALS)
    (hdaily : interval ≠ "1d") :
    ReportsMissingBars frame interval ↔ ∀ pair ∈ consecutive frame,
      LONG_GAP_DAYS ≤ calendar_days pair.1 pair.2 → MissingBar interval pair.1 pair.2 := by
  classical
  have hmissing : ∀ pair ∈ consecutive frame,
      decide (MissingBar interval pair.1 pair.2) = true →
        decide (LONG_GAP_DAYS ≤ calendar_days pair.1 pair.2) = true :=
    fun pair _ hmissing => decide_eq_true (long_of_missing hdaily (of_decide_eq_true hmissing))
  unfold ReportsMissingBars
  rw [detect_gaps_eq frame h, List.map_map]
  refine Iff.trans eq_comm (Iff.trans (map_filter_eq_iff _ hmissing) ?_)
  refine forall₂_congr fun pair _ => ?_
  rw [decide_eq_true_eq, decide_eq_true_eq]

/-- Daily gaps are exact if no business day is skipped by less than a long gap,
    weekly and monthly ones if every long gap skips a week or a month. -/
theorem gaps_exact_iff (frame : RawFrame) {interval : String} (h : interval ∈ GAP_INTERVALS) :
    ReportsMissingBars frame interval ↔
      (interval = "1d" → ∀ pair ∈ consecutive frame,
        calendar_days pair.1 pair.2 < LONG_GAP_DAYS → business_days_between pair.1 pair.2 = []) ∧
      (interval ≠ "1d" → ∀ pair ∈ consecutive frame,
        LONG_GAP_DAYS ≤ calendar_days pair.1 pair.2 → MissingBar interval pair.1 pair.2) := by
  by_cases hdaily : interval = "1d"
  · subst hdaily
    simpa using daily_gaps_iff frame
  · simpa [hdaily] using coarse_gaps_iff frame h hdaily

/-- A bar at midnight of a day. -/
def flat_bar (day : ℤ) : RawBar :=
  ⟨day * 86400000000000, .num 10, .num 10, .num 10, .num 10, .num 10, .num 1⟩

/-- From Friday 2024-01-05 to Tuesday 2024-01-09, in a week of daily bars. -/
theorem gaps_exact_around_a_holiday :
    ReportsMissingBars ([19723, 19724, 19725, 19726, 19727, 19731].map flat_bar) "1d" :=
  (gaps_exact_iff _ (by decide)).mpr ⟨fun _ => by decide +kernel, fun hdaily => absurd rfl hdaily⟩

/-- Two weekly bars, on Monday 2024-01-01 and the Monday after it, are reported
    as a gap. Daily bars on the Tuesday and the Thursday of that week are not. -/
theorem weekly_bars_reported :
    violations ([19723, 19730].map flat_bar) = [] ∧
      detect_gaps ([19723, 19730].map flat_bar) "1wk"
        = [⟨"2024-01-01T00:00:00+05:30", "2024-01-08T00:00:00+05:30", 7, 4⟩] ∧
      ¬ ReportsMissingBars ([19723, 19730].map flat_bar) "1wk" ∧
      violations ([19724, 19726].map flat_bar) = [] ∧
      detect_gaps ([19724, 19726].map flat_bar) "1d" = [] ∧
      ¬ ReportsMissingBars ([19724, 19726].map flat_bar) "1d" := by
  refine ⟨by decide +kernel, by decide +kernel, ?_, by decide +kernel, by decide +kernel, ?_⟩
  · rw [coarse_gaps_iff _ (by decide) (by decide)]
    intro hmissing
    obtain ⟨first, next, hcovers, hafter, hbefore⟩ :=
      hmissing (19723 * 86400000000000, 19730 * 86400000000000) (by decide) (by decide)
    rcases hcovers with ⟨hinterval, -⟩ | ⟨-, -, rfl⟩ | ⟨hinterval, -⟩
    · exact absurd hinterval (by decide)
    · unfold day_number at hafter hbefore
      omega
    · exact absurd hinterval (by decide)
  · rw [daily_gaps_iff]
    intro hnone
    have hskipped := hnone (19724 * 86400000000000, 19726 * 86400000000000) (by decide) (by decide)
    exact absurd hskipped (by decide +kernel)

/-! ## Severity -/

theorem idxOf_le_of_getElem? {α : Type} [DecidableEq α] {l : List α} {a : α} {i : ℕ}
    (h : l[i]? = some a) : l.idxOf a ≤ i := by
  obtain ⟨hi, rfl⟩ := List.getElem?_eq_some_iff.mp h
  by_contra hlt
  have hne := List.not_of_lt_findIdx (not_le.mp hlt)
  simp at hne

/-- The first maximum of a list has a property when some entry that has it beats
    every entry that does not: by its value, or by its place if the values are
    the same. -/
theorem exists_argmax_iff {α : Type} [DecidableEq α] {l : List α} {f : α → ℕ} {P : α → Prop} :
    (∃ m, l.argmax f = some m ∧ P m) ↔
      ∃ (i : ℕ) (m : α), l[i]? = some m ∧ P m ∧ ∀ (j : ℕ) (other : α), l[j]? = some other →
        ¬ P other → f other < f m ∨ f other = f m ∧ i < j := by
  constructor
  · rintro ⟨m, hmax, hm⟩
    obtain ⟨hmem, hle, hfirst⟩ := List.argmax_eq_some_iff.mp hmax
    refine ⟨l.idxOf m, m, List.getElem?_idxOf hmem, hm, fun j other hj hother => ?_⟩
    have hother_mem := List.mem_of_getElem? hj
    rcases (hle other hother_mem).lt_or_eq with hlt | heq
    · exact Or.inl hlt
    · refine Or.inr ⟨heq, lt_of_le_of_ne ?_ ?_⟩
      · exact (hfirst other hother_mem heq.ge).trans (idxOf_le_of_getElem? hj)
      · rintro rfl
        rw [List.getElem?_idxOf hmem] at hj
        exact hother (Option.some.inj hj ▸ hm)
  · rintro ⟨i, m, hi, hm, hbeats⟩
    cases hmax : l.argmax f with
    | none =>
      rw [List.argmax_eq_none.mp hmax] at hi
      cases hi
    | some worst =>
      refine ⟨worst, rfl, ?_⟩
      by_contra hworst
      obtain ⟨hmem, hle, hfirst⟩ := List.argmax_eq_some_iff.mp hmax
      have hm_mem := List.mem_of_getElem? hi
      rcases hbeats _ worst (List.getElem?_idxOf hmem) hworst with hlt | ⟨heq, hlt⟩
      · exact absurd (hle m hm_mem) hlt.not_ge
      · have hplace := hfirst m hm_mem heq.le
        exact absurd (hplace.trans (idxOf_le_of_getElem? hi)) hlt.not_ge

/-- The severity tells whether there are gaps and whether one of them is severe. -/
structure SeverityExact (report : DataQualityReport) : Prop where
  severe_gaps : report.severity = .severe_gaps ↔
    ∃ gap ∈ report.gaps, SEVERE_GAP_DAYS ≤ gap.calendar_days
  gaps_detected : report.severity = .gaps_detected ↔
    report.gaps ≠ [] ∧ ∀ gap ∈ report.gaps, gap.calendar_days < SEVERE_GAP_DAYS
  clean : report.severity = .clean ↔ report.gaps = []

theorem assess_cases (gaps : List Gap) :
    gaps = [] ∧ (assess gaps).1 = .clean ∨
      ∃ worst, gaps.argmax Gap.missing_business_days = some worst ∧ worst ∈ gaps ∧
        (assess gaps).1 = if SEVERE_GAP_DAYS ≤ worst.calendar_days then .severe_gaps
          else .gaps_detected := by
  unfold assess
  cases hworst : gaps.argmax Gap.missing_business_days with
  | none => exact Or.inl ⟨List.argmax_eq_none.mp hworst, rfl⟩
  | some worst =>
    refine Or.inr ⟨worst, rfl, List.argmax_mem hworst, ?_⟩
    by_cases hsevere : SEVERE_GAP_DAYS ≤ worst.calendar_days
    · simp only [if_pos hsevere]
    · simp only [if_neg hsevere]

/-- Only the gap that skips the most business days is looked at. -/
theorem severity_exact_iff_worst {report : DataQualityReport}
    (h : report.severity = (assess report.gaps).1) :
    SeverityExact report ↔ ((∃ gap ∈ report.gaps, SEVERE_GAP_DAYS ≤ gap.calendar_days) →
      ∃ worst, report.gaps.argmax Gap.missing_business_days = some worst ∧
        SEVERE_GAP_DAYS ≤ worst.calendar_days) := by
  rcases assess_cases report.gaps with ⟨hnil, hclean⟩ | ⟨worst, hworst, hmem, hseverity⟩
  · rw [hclean] at h
    constructor
    · rintro - ⟨gap, hgap, -⟩
      rw [hnil] at hgap
      cases hgap
    · intro _
      exact ⟨by simp [h, hnil], by simp [h, hnil], by simp [h, hnil]⟩
  · have hne : report.gaps ≠ [] := List.ne_nil_of_mem hmem
    by_cases hsevere : SEVERE_GAP_DAYS ≤ worst.calendar_days
    · rw [hseverity, if_pos hsevere] at h
      have hsome : ∃ gap ∈ report.gaps, SEVERE_GAP_DAYS ≤ gap.calendar_days :=
        ⟨worst, hmem, hsevere⟩
      constructor
      · exact fun _ _ => ⟨worst, hworst, hsevere⟩
      · intro _
        refine ⟨by simp [h, hsome], ?_, by simp [h, hne]⟩
        rw [h]
        simp only [reduceCtorEq, false_iff, not_and, not_forall, not_lt]
        exact fun _ => ⟨worst, hmem, hsevere⟩
    · rw [hseverity, if_neg hsevere] at h
      -- The worst gap is not severe; then either none is, or one was missed.
      constructor
      · intro hexact hsome
        have hsevere_gaps := hexact.severe_gaps.mpr hsome
        rw [h] at hsevere_gaps
        cases hsevere_gaps
      · intro himp
        have hnone : ∀ gap ∈ report.gaps, gap.calendar_days < SEVERE_GAP_DAYS := by
          intro gap hgap
          by_contra hlong
          obtain ⟨other, hother, hlong'⟩ := himp ⟨gap, hgap, not_lt.mp hlong⟩
          rw [hworst] at hother
          exact hsevere (Option.some.inj hother ▸ hlong')
        refine ⟨?_, by simpa [h] using ⟨hne, hnone⟩, by simp [h, hne]⟩
        rw [h]
        simp only [reduceCtorEq, false_iff, not_exists, not_and, not_le]
        exact hnone

/-- The business days that two bars skip. -/
def skipped (pair : Timestamp × Timestamp) : ℕ := (business_days_between pair.1 pair.2).length

/-- Some severe gap of the frame skips more business days than every gap that is
    not severe, or as many and comes before it. -/
def SevereSkipsMost (frame : RawFrame) : Prop :=
  ∃ (i : ℕ) (severe : Timestamp × Timestamp), (long_gaps frame)[i]? = some severe ∧
    SEVERE_GAP_DAYS ≤ calendar_days severe.1 severe.2 ∧
    ∀ (j : ℕ) (other : Timestamp × Timestamp), (long_gaps frame)[j]? = some other →
      calendar_days other.1 other.2 < SEVERE_GAP_DAYS →
      skipped other < skipped severe ∨ skipped other = skipped severe ∧ i < j

theorem severe_skips_most_iff (frame : RawFrame) :
    (∃ worst, ((long_gaps frame).map gap_of).argmax Gap.missing_business_days = some worst ∧
      SEVERE_GAP_DAYS ≤ worst.calendar_days) ↔ SevereSkipsMost frame := by
  rw [exists_argmax_iff]
  simp only [List.getElem?_map, Option.map_eq_some_iff, forall_exists_index, and_imp, not_le]
  constructor
  · rintro ⟨i, worst, ⟨severe, hi, rfl⟩, hsevere, hbeats⟩
    exact ⟨i, severe, hi, hsevere, fun j other hj => hbeats j _ other hj rfl⟩
  · rintro ⟨i, severe, hi, hsevere, hbeats⟩
    refine ⟨i, gap_of severe, ⟨severe, hi, rfl⟩, hsevere, ?_⟩
    rintro j gap other hj rfl
    exact hbeats j other hj

/-- A severe gap is a long one. -/
theorem exists_severe_iff (frame : RawFrame) :
    (∃ gap ∈ (long_gaps frame).map gap_of, SEVERE_GAP_DAYS ≤ gap.calendar_days) ↔
      ∃ pair ∈ consecutive frame, SEVERE_GAP_DAYS ≤ calendar_days pair.1 pair.2 := by
  constructor
  · rintro ⟨gap, hgap, hsevere⟩
    obtain ⟨pair, hpair, rfl⟩ := List.mem_map.mp hgap
    exact ⟨pair, List.mem_of_mem_filter hpair, hsevere⟩
  · rintro ⟨pair, hpair, hsevere⟩
    have hlong : LONG_GAP_DAYS ≤ calendar_days pair.1 pair.2 := le_trans (by decide) hsevere
    exact ⟨gap_of pair, List.mem_map_of_mem
      (List.mem_filter.mpr ⟨hpair, decide_eq_true hlong⟩), hsevere⟩

/-- The severity is exact when no gap is severe, or a severe one skips the most
    business days. -/
theorem severity_exact_iff {frame : RawFrame} {symbol interval : String}
    {report : DataQualityReport} (h : validate_prices frame symbol interval = .ok report) :
    SeverityExact report ↔ (interval ∈ GAP_INTERVALS →
      (∃ pair ∈ consecutive frame, SEVERE_GAP_DAYS ≤ calendar_days pair.1 pair.2) →
      SevereSkipsMost frame) := by
  obtain ⟨-, rfl⟩ := validate_prices_eq_ok.mp h
  rw [severity_exact_iff_worst rfl]
  show ((∃ gap ∈ detect_gaps frame interval, _) →
    ∃ worst, (detect_gaps frame interval).argmax _ = some worst ∧ _) ↔ _
  by_cases hinterval : interval ∈ GAP_INTERVALS
  · rw [detect_gaps_eq frame hinterval, exists_severe_iff, severe_skips_most_iff]
    simp only [hinterval, true_implies]
  · rw [detect_gaps_intraday frame hinterval]
    simp [hinterval]

/-- Four days that skip a Monday, then fifteen days. -/
theorem severity_exact_after_a_halt :
    SeverityExact (report_of ([19727, 19731, 19746].map flat_bar) "NIFTY" "1d") := by
  have hvalid : violations ([19727, 19731, 19746].map flat_bar) = [] := by decide +kernel
  refine (severity_exact_iff (validate_prices_eq_ok.mpr ⟨hvalid, rfl⟩)).mpr fun _ _ => ?_
  refine ⟨1, (19731 * 86400000000000, 19746 * 86400000000000), by decide +kernel,
    by decide +kernel, ?_⟩
  have hgaps : long_gaps ([19727, 19731, 19746].map flat_bar)
      = [(19727 * 86400000000000, 19731 * 86400000000000),
        (19731 * 86400000000000, 19746 * 86400000000000)] := by decide +kernel
  intro j other hj hshort
  rw [hgaps] at hj
  match j with
  | 0 =>
    obtain rfl := Option.some.inj hj
    exact Or.inl (by decide +kernel)
  | 1 =>
    obtain rfl := Option.some.inj hj
    exact absurd hshort (by decide)

/-- Friday 2024-01-05, Monday 2024-01-15 and Wednesday 2024-01-24: ten days that
    skip five business days, then nine days that skip six. -/
def two_gaps : RawFrame := [19727, 19737, 19746].map flat_bar

/-- A gap of ten days is not escalated. -/
theorem severe_gap_not_escalated :
    validate_prices two_gaps "NIFTY" "1d" = .ok (report_of two_gaps "NIFTY" "1d") ∧
      (report_of two_gaps "NIFTY" "1d").gaps.map Gap.calendar_days = [10, 9] ∧
      (report_of two_gaps "NIFTY" "1d").severity = .gaps_detected ∧
      ¬ SeverityExact (report_of two_gaps "NIFTY" "1d") := by
  have hvalid : violations two_gaps = [] := by decide +kernel
  have hseverity : (report_of two_gaps "NIFTY" "1d").severity = .gaps_detected := by
    decide +kernel
  refine ⟨validate_prices_eq_ok.mpr ⟨hvalid, rfl⟩, by decide +kernel, hseverity, ?_⟩
  intro hexact
  have hshort := (hexact.gaps_detected.mp hseverity).2
  exact absurd hshort (by decide +kernel)

end Quantora
