import Mathlib.Logic.Function.Basic
import Mathlib.Tactic.Common

/-! # Write-once registers

    What a store is for whose rows are inserted, read and deleted, and never
    changed: each key is written once at most, and once erased it stays erased.

    * `Lifetime` — the life of one key.
    * `Register.write`, `Register.retain` — the only two steps.
    * `Lifetime.Precedes` — the order of a key's life, which each step follows. -/

/-- The life of one key. -/
inductive Lifetime (α : Type*) where
  | unwritten
  | live (a : α)
  | erased (a : α)

namespace Lifetime

variable {α : Type*} {c c' c'' : Lifetime α} {a b : α}

/-- What a reader finds. -/
def value : Lifetime α → Option α
  | live a => some a
  | _ => none

/-- What was written, erased or not. -/
def written : Lifetime α → Option α
  | unwritten => none
  | live a => some a
  | erased a => some a

@[simp] theorem value_unwritten : (unwritten : Lifetime α).value = none := rfl
@[simp] theorem value_live : (live a).value = some a := rfl
@[simp] theorem value_erased : (erased a).value = none := rfl
@[simp] theorem written_unwritten : (unwritten : Lifetime α).written = none := rfl
@[simp] theorem written_live : (live a).written = some a := rfl
@[simp] theorem written_erased : (erased a).written = some a := rfl

theorem written_of_value (h : c.value = some a) : c.written = some a := by
  cases c with
  | unwritten => cases h
  | live b => exact h
  | erased b => cases h

/-- What was written is there, or it was erased. -/
theorem live_or_erased (h : c.written = some a) : c.value = some a ∨ c = erased a := by
  cases c with
  | unwritten => cases h
  | live b => exact .inl h
  | erased b => exact .inr (congrArg erased (Option.some.inj h))

/-- The order of a life. -/
inductive Precedes : Lifetime α → Lifetime α → Prop
  | refl (c : Lifetime α) : Precedes c c
  | written (a : α) : Precedes unwritten (live a)
  | erased (a : α) : Precedes (live a) (erased a)
  | both (a : α) : Precedes unwritten (erased a)

theorem Precedes.trans (h : c.Precedes c') (h' : c'.Precedes c'') : c.Precedes c'' := by
  cases h with
  | refl => exact h'
  | written a =>
    cases h' with
    | refl => exact .written a
    | erased => exact .both a
  | erased a =>
    cases h' with
    | refl => exact .erased a
  | both a =>
    cases h' with
    | refl => exact .both a

/-- What was written stays as it was written. -/
theorem Precedes.written_eq (h : c.Precedes c') (ha : c.written = some a) :
    c'.written = some a := by
  cases h with
  | refl => exact ha
  | written b => cases ha
  | erased b => exact ha
  | both b => cases ha

/-- What is erased stays erased. -/
theorem Precedes.eq_erased (h : (Lifetime.erased a).Precedes c) : c = .erased a := by
  cases h with
  | refl => rfl

/-- The end of a life. What was never written stays so. -/
def erase : Lifetime α → Lifetime α
  | live a => erased a
  | c => c

@[simp] theorem value_erase (c : Lifetime α) : c.erase.value = none := by cases c <;> rfl

@[simp] theorem written_erase (c : Lifetime α) : c.erase.written = c.written := by cases c <;> rfl

theorem precedes_erase (c : Lifetime α) : c.Precedes c.erase := by
  cases c with
  | unwritten => exact .refl _
  | live a => exact .erased a
  | erased a => exact .refl _

/-- Only what is there is erased. -/
theorem value_or_erased (h : c.erase = erased a) : c.value = some a ∨ c = erased a := by
  cases c with
  | unwritten => cases h
  | live b =>
    obtain rfl : b = a := by simpa [erase] using h
    exact .inl rfl
  | erased b => exact .inr h

end Lifetime

/-- One cell for each key. -/
def Register (κ α : Type*) := κ → Lifetime α

namespace Register

variable {κ α : Type*} {L L' : Register κ α} {k k' : κ} {a b : α}

/-- Nothing was written yet. -/
def blank : Register κ α := fun _ => .unwritten

@[simp] theorem blank_apply (k : κ) : (blank : Register κ α) k = .unwritten := rfl

/-- One register is a later state of the other. -/
def Precedes (L L' : Register κ α) : Prop := ∀ k, (L k).Precedes (L' k)

theorem Precedes.refl (L : Register κ α) : L.Precedes L := fun _ => .refl _

theorem Precedes.trans {L'' : Register κ α} (h : L.Precedes L') (h' : L'.Precedes L'') :
    L.Precedes L'' := fun k => (h k).trans (h' k)

/-- Erase everything but what is kept. -/
def retain (L : Register κ α) (keep : κ → Bool) : Register κ α :=
  fun k => if keep k then L k else (L k).erase

theorem precedes_retain (L : Register κ α) (keep : κ → Bool) : L.Precedes (L.retain keep) := by
  intro k
  unfold retain
  split_ifs
  · exact .refl _
  · exact (L k).precedes_erase

@[simp] theorem written_retain (L : Register κ α) (keep : κ → Bool) (k : κ) :
    (L.retain keep k).written = (L k).written := by
  unfold retain
  split_ifs
  · rfl
  · exact (L k).written_erase

theorem value_retain (L : Register κ α) (keep : κ → Bool) (k : κ) :
    (L.retain keep k).value = if keep k then (L k).value else none := by
  unfold retain
  split_ifs
  · rfl
  · exact (L k).value_erase

section Write

variable [DecidableEq κ]

/-- Write under a new key. -/
def write (L : Register κ α) (k : κ) (a : α) : Register κ α := Function.update L k (.live a)

@[simp] theorem write_self : L.write k a k = .live a := Function.update_self ..

theorem write_of_ne (h : k' ≠ k) : L.write k a k' = L k' := Function.update_of_ne h ..

theorem precedes_write (h : L k = .unwritten) : L.Precedes (L.write k a) := by
  intro k'
  by_cases hk : k' = k
  · rw [hk, h, write_self]
    exact .written a
  · rw [write_of_ne hk]
    exact .refl _

end Write

end Register
