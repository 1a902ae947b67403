import Mathlib.Data.Nat.Log
import Mathlib.Data.Rat.Floor
import Mathlib.Algebra.Order.Round

/-! # Python conversions

    The conversions of the language that the engine relies on, over exact
    numbers:

    * `truncate` — `int(x)`.
    * `fmt_g` — `f"{x:g}"`: six significant digits, trailing zeros removed,
      scientific notation outside `10^-4 ≤ |x| < 10^6`.
    * `fmt_2f`, `fmt_f`, `fmt_thousands`, `fmt_percent` — a fixed number of
      decimals.
    * `date`, `str_timestamp` — `str(timestamp.date())` and `str(timestamp)`
      on the proleptic Gregorian calendar.
    * `PyError` — the exceptions that cross the engine's functions.

    Ties round to even, as CPython's correctly rounded conversions do.
-/

namespace Quantora

/-- An instant on the exchange's own clock, in nanoseconds since 1970-01-01
    00:00. Every instrument of the universe trades in `Asia/Kolkata`, whose
    offset from UTC is constant, so this clock orders instants as UTC does. -/
abbrev Timestamp := ℤ

namespace Python

/-- `int(x)`: truncation toward zero. -/
def truncate (x : ℚ) : ℤ := if 0 ≤ x then ⌊x⌋ else ⌈x⌉

/-! ## Number formatting -/

/-- Round a non-negative number to the nearest integer, ties to even. -/
def round_half_even (x : ℚ) : ℕ :=
  let below := ⌊x⌋.toNat
  let rest := x - below
  if rest < 1 / 2 then below
  else if 1 / 2 < rest then below + 1
  else if below % 2 = 0 then below else below + 1

/-- `n` in decimal, padded with zeros on the left to `width` digits. -/
def zero_padded (width n : ℕ) : String :=
  let digits := toString n
  String.ofList (List.replicate (width - digits.length) '0') ++ digits

/-- The exponent `e` with `10^e ≤ x < 10^(e+1)`, for a positive `x`. -/
def decimal_exponent (x : ℚ) : ℤ :=
  if 1 ≤ x then Nat.log 10 ⌊x⌋.toNat else -(Nat.clog 10 ⌈1 / x⌉.toNat : ℤ)

/-- Drop the zeros that end a fractional part. -/
def strip_zeros (digits : List Char) : List Char :=
  (digits.reverse.dropWhile (· = '0')).reverse

/-- An integer part and a fractional part, without a trailing point. -/
def join_point (whole : String) (fraction : List Char) : String :=
  if fraction.isEmpty then whole else whole ++ "." ++ String.ofList fraction

/-- `f"{x:.2f}"`. -/
def fmt_2f (x : ℚ) : String :=
  let cents := round_half_even (|x| * 100)
  (if x < 0 then "-" else "") ++ toString (cents / 100) ++ "." ++ zero_padded 2 (cents % 100)

/-- `f"{x:.<places>f}"`. -/
def fmt_f (places : ℕ) (x : ℚ) : String :=
  let scaled := round_half_even (|x| * 10 ^ places)
  let whole := (if x < 0 then "-" else "") ++ toString (scaled / 10 ^ places)
  if places = 0 then whole else whole ++ "." ++ zero_padded places (scaled % 10 ^ places)

/-- Digits in groups of three, separated by commas. -/
def group_thousands (digits : String) : String :=
  ",".intercalate ((digits.toList.reverse.toChunks 3).reverse.map
    (fun group => String.ofList group.reverse))

/-- `f"{x:,.<places>f}"`. -/
def fmt_thousands (places : ℕ) (x : ℚ) : String :=
  let scaled := round_half_even (|x| * 10 ^ places)
  let whole := (if x < 0 then "-" else "") ++ group_thousands (toString (scaled / 10 ^ places))
  if places = 0 then whole else whole ++ "." ++ zero_padded places (scaled % 10 ^ places)

/-- `f"{x:.<places>%}"`. -/
def fmt_percent (places : ℕ) (x : ℚ) : String := fmt_f places (x * 100) ++ "%"

/-- `f"{x:g}"`. -/
def fmt_g (x : ℚ) : String :=
  if x = 0 then "0"
  else
    let e := decimal_exponent |x|
    let scaled := round_half_even (|x| * (10 : ℚ) ^ (5 - e))
    -- Rounding can carry into a seventh digit: 999999.5 is 1e+06.
    let (e, digits) := if scaled = 1000000 then (e + 1, 100000) else (e, scaled)
    let sign := if x < 0 then "-" else ""
    if -4 ≤ e ∧ e < 6 then
      let places := (5 - e).toNat
      let whole := digits / 10 ^ places
      let fraction := (zero_padded places (digits % 10 ^ places)).toList
      sign ++ join_point (toString whole) (strip_zeros fraction)
    else
      let mantissa := join_point (toString (digits / 100000))
        (strip_zeros (zero_padded 5 (digits % 100000)).toList)
      let magnitude := zero_padded 2 e.natAbs
      sign ++ mantissa ++ (if e < 0 then "e-" else "e+") ++ magnitude

example : fmt_g 12 = "12" := by decide +kernel
example : fmt_g (1 / 3) = "0.333333" := by decide +kernel
example : fmt_g 1234567 = "1.23457e+06" := by decide +kernel
example : fmt_2f (1001 / 16) = "62.56" := by decide +kernel
example : fmt_percent 1 (1 / 3) = "33.3%" := by decide +kernel
example : fmt_thousands 2 1234567 = "1,234,567.00" := by decide +kernel

/-! ## Dates -/

/-- Year, month and day of a day number counted from 1970-01-01. -/
def civil_of_days (days : ℤ) : ℤ × ℕ × ℕ :=
  -- 400-year eras that start on 1 March, so that the leap day ends the year.
  let z := days + 719468
  let era := z / 146097
  let day_of_era := (z % 146097).toNat
  let year_of_era :=
    (day_of_era - day_of_era / 1460 + day_of_era / 36524 - day_of_era / 146096) / 365
  let day_of_year := day_of_era - (365 * year_of_era + year_of_era / 4 - year_of_era / 100)
  let shifted_month := (5 * day_of_year + 2) / 153
  let day := day_of_year - (153 * shifted_month + 2) / 5 + 1
  let month := if shifted_month < 10 then shifted_month + 3 else shifted_month - 9
  (year_of_era + era * 400 + (if month ≤ 2 then 1 else 0), month, day)

/-- `str(timestamp.date())`. -/
def date (timestamp : Timestamp) : String :=
  let (year, month, day) := civil_of_days (timestamp / 86400000000000)
  zero_padded 4 year.toNat ++ "-" ++ zero_padded 2 month ++ "-" ++ zero_padded 2 day

/-- `str(timestamp)`. A fraction is shown with six digits, or with nine when it
    does not end on a microsecond. -/
def str_timestamp (timestamp : Timestamp) : String :=
  let nanos := (timestamp % 86400000000000).toNat
  let seconds := nanos / 1000000000
  let clock := zero_padded 2 (seconds / 3600) ++ ":" ++ zero_padded 2 (seconds / 60 % 60)
    ++ ":" ++ zero_padded 2 (seconds % 60)
  let fraction := nanos % 1000000000
  let shown :=
    if fraction = 0 then ""
    else if fraction % 1000 = 0 then "." ++ zero_padded 6 (fraction / 1000)
    else "." ++ zero_padded 9 fraction
  date timestamp ++ " " ++ clock ++ shown ++ "+05:30"

example : str_timestamp 1709284500000000000 = "2024-03-01 09:15:00+05:30" := by decide +kernel

/-! ## Exceptions -/

/-- The exceptions the engine raises, with their message where it has one. -/
inductive PyError where
  | ValueError (message : String)
  | AssertionError (message : String)
  | RuntimeError (message : String)
  | IndexError
  | ZeroDivisionError
  | OverflowError (message : String)
  deriving DecidableEq, Repr

end Python

end Quantora
