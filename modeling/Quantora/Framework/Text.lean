import Mathlib.Data.List.DropRight

/-! # Trimming

    Dropping the characters that satisfy a condition from both ends of a string,
    as the string libraries of most languages do for blanks.
-/

namespace Text

/-- Drop the characters that `p` accepts from both ends. -/
def trim (p : Char → Bool) (s : String) : String :=
  String.ofList ((s.toList.dropWhile p).rdropWhile p)

/-- What is left begins and ends with a character that is kept, so trimming
    fewer characters off it changes nothing. -/
theorem trim_trim_of_imp {p q : Char → Bool} (h : ∀ c, q c = true → p c = true) (s : String) :
    trim q (trim p s) = trim p s := by
  have hstart : ((s.toList.dropWhile p).rdropWhile p).dropWhile q
      = (s.toList.dropWhile p).rdropWhile p := by
    rw [List.dropWhile_eq_self_iff]
    intro hlen
    have hprefix := List.rdropWhile_prefix p (s.toList.dropWhile p)
    have hlen' := hlen.trans_le hprefix.length_le
    have hkept := List.dropWhile_eq_self_iff.mp (List.dropWhile_idempotent p s.toList) hlen'
    rw [List.IsPrefix.getElem hprefix hlen]
    exact fun hq => hkept (h _ hq)
  have hend : ((s.toList.dropWhile p).rdropWhile p).rdropWhile q
      = (s.toList.dropWhile p).rdropWhile p := by
    rw [List.rdropWhile_eq_self_iff]
    intro hne
    have hkept := List.rdropWhile_eq_self_iff.mp
      (List.rdropWhile_idempotent p (s.toList.dropWhile p)) hne
    exact fun hq => hkept (h _ hq)
  simp only [trim, String.toList_ofList, hstart, hend]

theorem trim_trim (p : Char → Bool) (s : String) : trim p (trim p s) = trim p s :=
  trim_trim_of_imp (fun _ h => h) s

/-- Nothing is left of a string exactly when all of it is dropped. -/
theorem trim_eq_empty {p : Char → Bool} {s : String} :
    trim p s = "" ↔ ∀ c ∈ s.toList, p c = true := by
  rw [trim, ← String.toList_inj, String.toList_ofList]
  show List.rdropWhile p (s.toList.dropWhile p) = [] ↔ _
  rw [List.rdropWhile_eq_nil_iff]
  constructor
  · intro h
    rw [← List.dropWhile_eq_nil_iff, ← List.dropWhile_idempotent, List.dropWhile_eq_nil_iff]
    exact h
  · intro h c hc
    exact h c ((List.dropWhile_suffix p).subset hc)

/-- Nothing is added. -/
theorem mem_of_mem_trim {p : Char → Bool} {s : String} {c : Char}
    (h : c ∈ (trim p s).toList) : c ∈ s.toList := by
  rw [trim, String.toList_ofList] at h
  have hstart := (List.rdropWhile_prefix p (s.toList.dropWhile p)).subset h
  exact (List.dropWhile_suffix p).subset hstart

end Text
