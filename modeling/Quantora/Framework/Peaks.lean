import Mathlib.Data.List.Induction
import Mathlib.Order.Bounds.Basic
import Mathlib.Order.MinMax
import Quantora.Framework.Causal

/-! # Peaks and blocks

    Two passes over a list that carry a little state, and what they compute.

    * `running_max` — the greatest entry so far. `isGreatest_running_max` says so
      with a set.
    * `longest_block` — the length of the longest block of flags that are set,
      from a counter that is reset. `isGreatest_longest_block` says so over all
      blocks, wherever they start.
-/

namespace Peaks

/-! ## Running maxima -/

section Maxima

variable {α : Type*} [LinearOrder α]

/-- The greatest entry so far, at every entry. -/
def running_max (xs : List α) : List α :=
  Column.scan (fun peak x => (some (peak.elim x (max · x)), peak.elim x (max · x))) none xs

@[simp] theorem length_running_max (xs : List α) : (running_max xs).length = xs.length :=
  (Causal.scan _ _).length xs

/-- Over a peak `p` that came before. Induction over the list; the peak is
    generalised. -/
theorem isGreatest_scan_max {xs : List α} {p m : α} {j : ℕ}
    (h : (Column.scan (fun (peak : Option α) x =>
      (some (peak.elim x (max · x)), peak.elim x (max · x))) (some p) xs)[j]? = some m) :
    IsGreatest {x | x = p ∨ ∃ i ≤ j, xs[i]? = some x} m := by
  induction xs generalizing p j with
  | nil => cases h
  | cons y xs ih =>
    cases j with
    | zero =>
      obtain rfl : max p y = m := Option.some.inj h
      refine ⟨?_, ?_⟩
      · rcases max_choice p y with hmax | hmax
        · exact .inl hmax
        · exact .inr ⟨0, le_refl 0, congrArg some hmax.symm⟩
      · rintro x (rfl | ⟨i, hi, hx⟩)
        · exact le_max_left x y
        · obtain rfl := Nat.le_zero.mp hi
          obtain rfl := Option.some.inj hx
          exact le_max_right p y
    | succ j =>
      obtain ⟨hmem, hupper⟩ := ih h
      refine ⟨?_, ?_⟩
      · rcases hmem with rfl | ⟨i, hi, hx⟩
        · rcases max_choice p y with hmax | hmax
          · exact .inl hmax
          · exact .inr ⟨0, Nat.zero_le _, congrArg some hmax.symm⟩
        · exact .inr ⟨i + 1, Nat.succ_le_succ hi, hx⟩
      · have hpeak : max p y ≤ m := hupper (.inl rfl)
        rintro x (rfl | ⟨i, hi, hx⟩)
        · exact (le_max_left x y).trans hpeak
        · cases i with
          | zero =>
            obtain rfl := Option.some.inj hx
            exact (le_max_right p y).trans hpeak
          | succ i => exact hupper (.inr ⟨i, Nat.le_of_succ_le_succ hi, hx⟩)

theorem isGreatest_running_max {xs : List α} {m : α} {j : ℕ}
    (h : (running_max xs)[j]? = some m) : IsGreatest {x | ∃ i ≤ j, xs[i]? = some x} m := by
  cases xs with
  | nil => cases h
  | cons y xs =>
    -- The first entry is the peak before itself.
    have hfirst : running_max (y :: xs) = Column.scan (fun (peak : Option α) x =>
        (some (peak.elim x (max · x)), peak.elim x (max · x))) (some y) (y :: xs) := by
      simp [running_max, Column.scan]
    rw [hfirst] at h
    obtain ⟨hmem, hupper⟩ := isGreatest_scan_max h
    refine ⟨?_, fun x hx => hupper (.inr hx)⟩
    rcases hmem with rfl | hmem
    · exact ⟨0, Nat.zero_le j, rfl⟩
    · exact hmem

end Maxima

/-! ## Blocks of flags -/

/-- The `n` flags from `start` on are there and set. -/
structure Block (flags : List Bool) (start n : ℕ) : Prop where
  fits : start + n ≤ flags.length
  set : ∀ i, start ≤ i → i < start + n → flags[i]? = some true

/-- The loop; the state is the longest block and the one that ends here. -/
def longest_block (flags : List Bool) : ℕ × ℕ :=
  flags.foldl
    (fun state flag =>
      let current := if flag then state.2 + 1 else 0
      (max state.1 current, current))
    (0, 0)

theorem longest_block_append (flags : List Bool) (flag : Bool) :
    (longest_block (flags ++ [flag])).2 = (if flag then (longest_block flags).2 + 1 else 0) ∧
      (longest_block (flags ++ [flag])).1
        = max (longest_block flags).1 (longest_block (flags ++ [flag])).2 := by
  rw [longest_block, List.foldl_append]
  exact ⟨rfl, rfl⟩

variable {flags : List Bool} {flag : Bool} {start n : ℕ}

theorem Block.append (h : Block flags start n) (flag : Bool) : Block (flags ++ [flag]) start n where
  fits := by
    rw [List.length_append]
    exact h.fits.trans (Nat.le_add_right _ _)
  set i hstart hi := by
    have hfits := h.fits
    rw [List.getElem?_append_left (by omega)]
    exact h.set i hstart hi

/-- A block that ends before the last flag. -/
theorem Block.of_append (h : Block (flags ++ [flag]) start n) (hfits : start + n ≤ flags.length) :
    Block flags start n where
  fits := hfits
  set i hstart hi := by
    have hflag := h.set i hstart hi
    rwa [List.getElem?_append_left (by omega)] at hflag

/-- The counter is the length of the longest block that ends here. -/
theorem isGreatest_current (flags : List Bool) :
    IsGreatest {n | ∃ start, start + n = flags.length ∧ Block flags start n}
      (longest_block flags).2 := by
  induction flags using List.reverseRecOn with
  | nil =>
    refine ⟨⟨0, rfl, le_refl 0, fun i _ hi => absurd hi (Nat.not_lt_zero i)⟩, ?_⟩
    rintro n ⟨start, hend, -⟩
    exact (Nat.le_add_left n start).trans hend.le
  | append_singleton flags flag ih =>
    have hlast : (flags ++ [flag])[flags.length]? = some flag := List.getElem?_concat_length ..
    obtain ⟨⟨start, hend, hblock⟩, hupper⟩ := ih
    cases flag with
    | false =>
      -- A flag that is not set ends every block.
      rw [(longest_block_append flags false).1, if_neg Bool.false_ne_true]
      refine ⟨⟨(flags ++ [false]).length, rfl, le_refl _, fun i hi hlt => by omega⟩, ?_⟩
      rintro n ⟨start, hend, hblock⟩
      by_contra hpos
      rw [List.length_append, List.length_singleton] at hend
      have hset := hblock.set flags.length (by omega) (by omega)
      rw [hlast] at hset
      cases hset
    | true =>
      rw [(longest_block_append flags true).1, if_pos rfl]
      refine ⟨⟨start, ?_, ?_, fun i hi hlt => ?_⟩, ?_⟩
      · rw [List.length_append, List.length_singleton]
        omega
      · rw [List.length_append, List.length_singleton]
        omega
      · rcases Nat.lt_or_ge i flags.length with hlt' | hge
        · exact (hblock.append true).set i hi (by omega)
        · rwa [show i = flags.length by omega]
      · rintro n ⟨start', hend', hblock'⟩
        rw [List.length_append, List.length_singleton] at hend'
        cases n with
        | zero => exact Nat.zero_le _
        | succ n =>
          have hshort : Block (flags ++ [true]) start' n :=
            ⟨by have := hblock'.fits; omega, fun i hi hlt => hblock'.set i hi (by omega)⟩
          exact Nat.succ_le_succ (hupper ⟨start', by omega, hshort.of_append (by omega)⟩)

/-- **Main result**: the loop finds the longest block. -/
theorem isGreatest_longest_block (flags : List Bool) :
    IsGreatest {n | ∃ start, Block flags start n} (longest_block flags).1 := by
  induction flags using List.reverseRecOn with
  | nil =>
    refine ⟨⟨0, le_refl 0, fun i _ hi => absurd hi (Nat.not_lt_zero i)⟩, ?_⟩
    rintro n ⟨start, hblock⟩
    exact (Nat.le_add_left n start).trans hblock.fits
  | append_singleton flags flag ih =>
    obtain ⟨⟨start, hblock⟩, hupper⟩ := ih
    obtain ⟨⟨start', hend', hblock'⟩, hupper'⟩ := isGreatest_current (flags ++ [flag])
    rw [(longest_block_append flags flag).2]
    refine ⟨?_, ?_⟩
    · rcases max_choice (longest_block flags).1 (longest_block (flags ++ [flag])).2 with hmax | hmax
      · rw [hmax]
        exact ⟨start, hblock.append flag⟩
      · rw [hmax]
        exact ⟨start', hblock'⟩
    · rintro n ⟨start, hblock⟩
      -- A block ends before the last flag, or with it.
      rcases Nat.lt_or_ge flags.length (start + n) with hend | hfits
      · refine (hupper' ⟨start, ?_, hblock⟩).trans (le_max_right _ _)
        have hfits := hblock.fits
        rw [List.length_append, List.length_singleton] at hfits ⊢
        omega
      · exact (hupper ⟨start, hblock.of_append hfits⟩).trans (le_max_left _ _)

end Peaks
