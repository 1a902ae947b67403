import Quantora.Framework.Text

/-! # Go strings

    What the Go services use of `strings` and `fmt`, and the two helpers on
    blank strings that they share.
-/

namespace Quantora

namespace Go

/-- `unicode.IsSpace`. -/
def is_space (c : Char) : Bool :=
  let n := c.toNat
  (9 ≤ n ∧ n ≤ 13) ∨ n = 0x20 ∨ n = 0x85 ∨ n = 0xA0 ∨ n = 0x1680 ∨
    (0x2000 ≤ n ∧ n ≤ 0x200A) ∨ n = 0x2028 ∨ n = 0x2029 ∨ n = 0x202F ∨ n = 0x205F ∨ n = 0x3000

/-- `strings.TrimSpace`. -/
def TrimSpace (s : String) : String := Text.trim is_space s

/-- `strings.Join(parts, "; ")`. -/
def join_problems (problems : List String) : String := "; ".intercalate problems

end Go

/-- `orDefault`: the fallback for a blank value. -/
def orDefault (value fallback : String) : String :=
  if Go.TrimSpace value = "" then fallback else value

/-- `nullIfEmpty`: a blank string is stored as `NULL`. -/
def nullIfEmpty (value : String) : Option String :=
  if Go.TrimSpace value = "" then none else some value

end Quantora
