import Mathlib.Tactic.IntervalCases
import Quantora.Python.Conversions

/-! # Calendar dates

    `datetime.date`: the part that reads and writes ISO dates and takes the next
    day.

    * `Date` — a year from 1 to 9999, a month and a day of it.
    * `fromisoformat` — the extended and the basic form of a calendar date or of
      a week date, as `date.fromisoformat` accepts them.
    * `isoformat` — always `YYYY-MM-DD`. `fromisoformat_isoformat` reads it back.
-/

namespace Quantora

namespace Python

def is_leap (year : ℕ) : Bool := year % 4 = 0 ∧ (year % 100 ≠ 0 ∨ year % 400 = 0)

def days_in_month (year month : ℕ) : ℕ :=
  if month = 2 then if is_leap year then 29 else 28
  else if month = 4 ∨ month = 6 ∨ month = 9 ∨ month = 11 then 30 else 31

/-- `datetime.date`. The constructor rejects anything else. -/
structure Date where
  year : ℕ
  month : ℕ
  day : ℕ
  year_range : 1 ≤ year ∧ year ≤ 9999
  month_range : 1 ≤ month ∧ month ≤ 12
  day_range : 1 ≤ day ∧ day ≤ days_in_month year month
  deriving DecidableEq

namespace Date

/-- `date(year, month, day)`, `none` for a `ValueError`. -/
def of (year month day : ℕ) : Option Date :=
  if hyear : 1 ≤ year ∧ year ≤ 9999 then
    if hmonth : 1 ≤ month ∧ month ≤ 12 then
      if hday : 1 ≤ day ∧ day ≤ days_in_month year month then
        some ⟨year, month, day, hyear, hmonth, hday⟩
      else none
    else none
  else none

theorem of_fields (d : Date) : of d.year d.month d.day = some d := by
  rw [of, dif_pos d.year_range, dif_pos d.month_range, dif_pos d.day_range]

theorem day_le (d : Date) : d.day ≤ 31 := by
  refine d.day_range.2.trans ?_
  unfold days_in_month
  split_ifs <;> omega

/-- Days since 1970-01-01. -/
def days (d : Date) : ℤ :=
  -- Years that start on 1 March, as in `civil_of_days`.
  let year : ℤ := if d.month ≤ 2 then d.year - 1 else d.year
  let era := year / 400
  let year_of_era := year % 400
  let shifted_month : ℤ := if d.month ≤ 2 then d.month + 9 else d.month - 3
  let day_of_year := (153 * shifted_month + 2) / 5 + d.day - 1
  era * 146097 + year_of_era * 365 + year_of_era / 4 - year_of_era / 100 + day_of_year - 719468

/-- The date a number of days after 1970-01-01, within the years 1 to 9999. -/
def of_days (days : ℤ) : Option Date :=
  let (year, month, day) := civil_of_days days
  of year.toNat month day

/-- `d + timedelta(days=1)`, `none` for an `OverflowError`. -/
def next_day (d : Date) : Option Date := of_days (d.days + 1)

/-- `pd.Timestamp(d, tz=tz)`. -/
def midnight (d : Date) : Timestamp := d.days * 86400000000000

/-! ## ISO texts -/

def digit (n : ℕ) : Char := Char.ofNat (48 + n)

def two_digits (n : ℕ) : List Char := [digit (n / 10), digit (n % 10)]

def four_digits (n : ℕ) : List Char :=
  [digit (n / 1000), digit (n / 100 % 10), digit (n / 10 % 10), digit (n % 10)]

def isoformat (d : Date) : String :=
  String.ofList (four_digits d.year ++ '-' :: two_digits d.month ++ '-' :: two_digits d.day)

/-- The value of an ASCII digit. -/
def digit_value (c : Char) : Option ℕ :=
  if 48 ≤ c.toNat ∧ c.toNat ≤ 57 then some (c.toNat - 48) else none

/-- The number that digits write. -/
def number (digits : List Char) : Option ℕ :=
  digits.foldlM (fun n c => (digit_value c).map (10 * n + ·)) 0

/-- Monday is 0. -/
def weekday (days : ℤ) : ℤ := (days + 3) % 7

/-- The Monday that begins week 1 of a year. -/
def week_one (year : Date) : ℤ :=
  let first := weekday year.days
  year.days - first + (if first > 3 then 7 else 0)

/-- A week date. Week 53 exists in a year that begins on a Thursday, or on a
    Wednesday if it is a leap year. -/
def of_week (year week day : ℕ) : Option Date := do
  let first ← of year 1 1
  let long_year := weekday first.days = 3 ∨ (weekday first.days = 2 ∧ is_leap year)
  if (1 ≤ week ∧ week ≤ 52 ∨ week = 53 ∧ long_year) ∧ 1 ≤ day ∧ day ≤ 7 then
    of_days (week_one first + ((week : ℤ) - 1) * 7 + day - 1)
  else none

def read_calendar (year month day : List Char) : Option Date := do
  of (← number year) (← number month) (← number day)

def read_week (year week day : List Char) : Option Date := do
  of_week (← number year) (← number week) (← number day)

/-- `date.fromisoformat`, `none` for a `ValueError`. -/
def fromisoformat (text : String) : Option Date :=
  match text.toList with
  | [y₁, y₂, y₃, y₄, 'W', w₁, w₂] => read_week [y₁, y₂, y₃, y₄] [w₁, w₂] ['1']
  | [y₁, y₂, y₃, y₄, 'W', w₁, w₂, d] => read_week [y₁, y₂, y₃, y₄] [w₁, w₂] [d]
  | [y₁, y₂, y₃, y₄, '-', 'W', w₁, w₂] => read_week [y₁, y₂, y₃, y₄] [w₁, w₂] ['1']
  | [y₁, y₂, y₃, y₄, '-', 'W', w₁, w₂, '-', d] => read_week [y₁, y₂, y₃, y₄] [w₁, w₂] [d]
  | [y₁, y₂, y₃, y₄, m₁, m₂, d₁, d₂] => read_calendar [y₁, y₂, y₃, y₄] [m₁, m₂] [d₁, d₂]
  | [y₁, y₂, y₃, y₄, '-', m₁, m₂, '-', d₁, d₂] =>
    read_calendar [y₁, y₂, y₃, y₄] [m₁, m₂] [d₁, d₂]
  | _ => none

/-! ## Reading back what was written -/

theorem digit_value_digit {n : ℕ} (h : n < 10) : digit_value (digit n) = some n := by
  interval_cases n <;> decide

theorem digit_ne {n : ℕ} (h : n < 10) {c : Char} (hc : digit_value c = none) : digit n ≠ c := by
  intro heq
  rw [← heq, digit_value_digit h] at hc
  cases hc

theorem number_two_digits {n : ℕ} (h : n < 100) : number (two_digits n) = some n := by
  have htens : n / 10 < 10 := by omega
  have hones : n % 10 < 10 := by omega
  have hsum : 10 * (n / 10) + n % 10 = n := by omega
  simp [number, two_digits, digit_value_digit htens, digit_value_digit hones, hsum]

theorem number_four_digits {n : ℕ} (h : n < 10000) : number (four_digits n) = some n := by
  have hthousands : n / 1000 < 10 := by omega
  have hhundreds : n / 100 % 10 < 10 := by omega
  have htens : n / 10 % 10 < 10 := by omega
  have hones : n % 10 < 10 := by omega
  have hsum : 10 * (10 * (10 * (n / 1000) + n / 100 % 10) + n / 10 % 10) + n % 10 = n := by omega
  simp [number, four_digits, digit_value_digit hthousands, digit_value_digit hhundreds,
    digit_value_digit htens, digit_value_digit hones, hsum]

/-- A date that was written is read back. -/
theorem fromisoformat_isoformat (d : Date) : fromisoformat d.isoformat = some d := by
  have hyear := number_four_digits (n := d.year) (by have := d.year_range.2; omega)
  have hmonth := number_two_digits (n := d.month) (by have := d.month_range.2; omega)
  have hday := number_two_digits (n := d.day) (by have := d.day_le; omega)
  have hweek : digit (d.month / 10) ≠ 'W' :=
    digit_ne (by have := d.month_range.2; omega) (by decide)
  have hread : fromisoformat d.isoformat
      = read_calendar (four_digits d.year) (two_digits d.month) (two_digits d.day) := by
    unfold fromisoformat isoformat four_digits two_digits
    rw [String.toList_ofList]
    simp [hweek]
  rw [hread, read_calendar, hyear, hmonth, hday]
  exact d.of_fields

/-! ## Order -/

/-- `d < e`: dates compare as year, month and day. -/
def Before (d e : Date) : Prop :=
  d.year < e.year ∨ d.year = e.year ∧
    (d.month < e.month ∨ d.month = e.month ∧ d.day < e.day)

instance (d e : Date) : Decidable (d.Before e) := inferInstanceAs (Decidable (_ ∨ _))

theorem digit_lt {n m : ℕ} (h : n < m) (hm : m < 10) : digit n < digit m := by
  interval_cases m <;> interval_cases n <;> decide

/-- Two digits are compared before what follows them. -/
theorem two_digits_lt {n m : ℕ} (h : n < m) (hm : m < 100) (xs ys : List Char) :
    two_digits n ++ xs < two_digits m ++ ys := by
  have hcases : n / 10 < m / 10 ∨ n / 10 = m / 10 ∧ n % 10 < m % 10 := by omega
  rcases hcases with htens | ⟨htens, hones⟩
  · exact .rel (digit_lt htens (by omega))
  · rw [two_digits, two_digits, htens]
    exact .cons (.rel (digit_lt hones (by omega)))

theorem four_digits_lt {n m : ℕ} (h : n < m) (hm : m < 10000) (xs ys : List Char) :
    four_digits n ++ xs < four_digits m ++ ys := by
  have hcases : n / 100 < m / 100 ∨ n / 100 = m / 100 ∧ n % 100 < m % 100 := by omega
  have hsplit : ∀ k, four_digits k = two_digits (k / 100) ++ two_digits (k % 100) := by
    intro k
    have hthousands : k / 1000 = k / 100 / 10 := by omega
    have htens : k / 10 % 10 = k % 100 / 10 := by omega
    have hones : k % 10 = k % 100 % 10 := by omega
    simp only [four_digits, two_digits, hthousands, htens, hones, List.cons_append,
      List.nil_append]
  rw [hsplit, hsplit, List.append_assoc, List.append_assoc]
  rcases hcases with hhigh | ⟨hhigh, hlow⟩
  · exact two_digits_lt hhigh (by omega) _ _
  · rw [hhigh]
    exact List.append_left_lt (two_digits_lt hlow (by omega) _ _)

/-- ISO texts are ordered as their dates are. -/
theorem isoformat_lt {d e : Date} (h : d.Before e) : d.isoformat < e.isoformat := by
  have hyear : e.year < 10000 := by have := e.year_range.2; omega
  have hmonth : e.month < 100 := by have := e.month_range.2; omega
  have hday : e.day < 100 := by have := e.day_le; omega
  show d.isoformat.toList < e.isoformat.toList
  rw [isoformat, isoformat, String.toList_ofList, String.toList_ofList]
  rcases h with hlt | ⟨hy, hlt | ⟨hm, hlt⟩⟩
  · simpa using four_digits_lt hlt hyear _ _
  · rw [hy, List.append_assoc, List.append_assoc]
    exact List.append_left_lt (.cons (two_digits_lt hlt hmonth _ _))
  · rw [hy, hm, List.append_assoc, List.append_assoc]
    apply List.append_left_lt
    apply List.Lex.cons
    apply List.append_left_lt
    apply List.Lex.cons
    simpa using two_digits_lt hlt hday [] []

example : (fromisoformat "2024-W09-5").map isoformat = some "2024-03-01" := by decide +kernel

end Date

end Python

end Quantora
