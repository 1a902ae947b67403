import Mathlib.Logic.Function.Basic
import Quantora.Framework.Runs

/-! # Requests over a shared store

    A service whose requests run side by side. Each request is a process that
    stands before its next move; a move may read and write the store, in one
    step. Requests arrive and move in any order, so a run is an interleaving.

    * `Service` — how a request begins, and what a process may do next.
    * `World` — the store, and where each request stands.
    * `step_cases` — what one step does.
    * `exists_history` — the invariant rule, with the actions so far. -/

namespace Requests

/-- How a request begins, and what a process may do next. The second may depend
    on what the environment answers. -/
structure Service (D P Q M : Type) where
  start : Q → P
  move : M → D → P → Option (D × P)

structure World (D P : Type) where
  store : D
  requests : ℕ → Option P

inductive Action (Q M : Type) where
  | arrive (r : ℕ) (q : Q)
  | move (r : ℕ) (m : M)
  deriving DecidableEq, Repr

variable {D P Q M : Type}

/-- The request that an action is about. -/
def Action.request : Action Q M → ℕ
  | .arrive r _ => r
  | .move r _ => r

namespace World

/-- The world with request `r` at another place. -/
def put (w : World D P) (store : D) (r : ℕ) (process : P) : World D P where
  store := store
  requests := Function.update w.requests r (some process)

variable (w : World D P) (store : D) {r r' : ℕ} (process : P)

@[simp] theorem put_store : (w.put store r process).store = store := rfl

@[simp] theorem put_self : (w.put store r process).requests r = some process :=
  Function.update_self ..

theorem put_of_ne (h : r' ≠ r) : (w.put store r process).requests r' = w.requests r' :=
  Function.update_of_ne h ..

end World

section Steps

variable (service : Service D P Q M)

/-- Requests arrive under new numbers. -/
def step : Action Q M → World D P → Option (World D P)
  | .arrive r q, w =>
    match w.requests r with
    | none => some (w.put w.store r (service.start q))
    | some _ => none
  | .move r m, w => do
    let process ← w.requests r
    let (store, process) ← service.move m w.store process
    some (w.put store r process)

variable {service} {w w' : World D P} {a : Action Q M}

/-- What one step does: one process more, or one process further. -/
theorem step_cases (h : step service a w = some w') :
    (∃ r q, a = .arrive r q ∧ w.requests r = none ∧ w' = w.put w.store r (service.start q)) ∨
    (∃ r m process store process', a = .move r m ∧ w.requests r = some process ∧
      service.move m w.store process = some (store, process') ∧ w' = w.put store r process') := by
  cases a with
  | arrive r q =>
    simp only [step] at h
    cases hr : w.requests r with
    | none =>
      rw [hr] at h
      exact .inl ⟨r, q, rfl, hr, (Option.some.inj h).symm⟩
    | some process =>
      rw [hr] at h
      cases h
  | move r m =>
    simp only [step] at h
    obtain ⟨process, hr, h⟩ := Option.bind_eq_some_iff.mp h
    obtain ⟨⟨store, process'⟩, hmove, h⟩ := Option.bind_eq_some_iff.mp h
    exact .inr ⟨r, m, process, store, process', rfl, hr, hmove, (Option.some.inj h).symm⟩

/-- **Invariant rule**: what every arrival and every move keeps holds in every
    state. The invariant may speak of the actions so far. -/
theorem exists_history {w0 : World D P} {actions : List (Action Q M)} {w : World D P}
    (Inv : List (Action Q M) → World D P → Prop) (h0 : Inv [] w0)
    (harrive : ∀ before r q w, before ++ [.arrive r q] <+: actions → Inv before w →
      w.requests r = none → Inv (before ++ [.arrive r q]) (w.put w.store r (service.start q)))
    (hmove : ∀ before r m w process store process', before ++ [.move r m] <+: actions →
      Inv before w → w.requests r = some process →
      service.move m w.store process = some (store, process') →
      Inv (before ++ [.move r m]) (w.put store r process'))
    (hvisits : Runs.Visits (step service) w0 actions w) :
    ∃ before, before <+: actions ∧ Inv before w := by
  refine Runs.history_invariant Inv h0 (fun before a t u hsofar hinv hstep => ?_) hvisits
  rcases step_cases hstep with ⟨r, q, rfl, hr, rfl⟩ |
    ⟨r, m, process, store, process', rfl, hr, hnext, rfl⟩
  · exact harrive before r q t hsofar hinv hr
  · exact hmove before r m t process store process' hsofar hinv hr hnext

end Steps

end Requests
