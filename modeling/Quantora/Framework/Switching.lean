import Mathlib.Algebra.Order.Group.Nat
import Mathlib.Algebra.Order.Monoid.Defs
import Mathlib.Data.List.Forall2
import Quantora.Framework.Causal

/-! # The cost of switching

    A column of events is carried forward: each entry has the value of the last
    event, or a start value. Going from one value to the next has a cost.

    * `Distance` — a cost that a detour does not lower. It need not be symmetric.
    * `Fewer` — the same events with some of them removed.
    * `cost_holdFrom_le` — fewer events do not cost more, from anywhere: at most
      the distance between the two starts is added.
    * `distance_indicator` — counting the switches that a relation picks out is
      such a cost, if a switch that is picked out cannot be split into two that
      are not.
-/

namespace Column

variable {δ M : Type*}

/-! ## Carrying events forward -/

/-- The value at each entry: that of the last event, `start` before the first. -/
def holdFrom (start : δ) : List (Option δ) → List δ
  | [] => []
  | e :: events => e.getD start :: holdFrom (e.getD start) events

/-- It is what `ffill` leaves, with a default. -/
theorem map_ffill (start : δ) (events : List (Option δ)) :
    (ffill events).map (·.getD start) = holdFrom start events := by
  -- The machine remembers the last event; the induction needs it from any.
  have hscan : ∀ last : Option δ,
      (scan (fun last x => (x <|> last, x <|> last)) last events).map (·.getD start)
        = holdFrom (last.getD start) events := by
    induction events with
    | nil => exact fun last => rfl
    | cons e events ih =>
      intro last
      cases e with
      | none => exact congrArg _ (ih last)
      | some d => exact congrArg _ (ih (some d))
  exact hscan none

/-- Some events are removed, the others stay where they are. -/
def Fewer (events' events : List (Option δ)) : Prop :=
  List.Forall₂ (fun e' e => e' = none ∨ e' = e) events' events

/-- It is enough to remove them one by one. -/
theorem fewer_map {φ : Type*} {event' event : φ → Option δ} (facts : List φ)
    (h : ∀ f ∈ facts, event' f = none ∨ event' f = event f) :
    Fewer (facts.map event') (facts.map event) := by
  induction facts with
  | nil => exact .nil
  | cons f facts ih =>
    obtain ⟨hf, hrest⟩ := List.forall_mem_cons.mp h
    exact .cons hf (ih hrest)

/-! ## Costs -/

section Cost

variable [AddCommMonoid M] [PartialOrder M] [IsOrderedAddMonoid M]

/-- Staying is free, and the direct way is never the dearest. -/
structure Distance (w : δ → δ → M) : Prop where
  self : ∀ a, w a a = 0
  nonneg : ∀ a b, 0 ≤ w a b
  triangle : ∀ a b c, w a c ≤ w a b + w b c

/-- What it costs to go through a list of values. -/
def cost (w : δ → δ → M) : δ → List δ → M
  | _, [] => 0
  | start, d :: ds => w start d + cost w d ds

/-- **Removing events**: what is saved on the way pays for the distance between
    the values in between. Induction over the events, from any two values. -/
theorem cost_holdFrom_le {w : δ → δ → M} (hw : Distance w) {events' events : List (Option δ)}
    (h : Fewer events' events) (start' start : δ) :
    cost w start' (holdFrom start' events')
      ≤ w start' start + cost w start (holdFrom start events) := by
  induction h generalizing start' start with
  | nil =>
    show 0 ≤ w start' start + 0
    rw [add_zero]
    exact hw.nonneg start' start
  | @cons e' e events' events he hrest ih =>
    cases e with
    | none =>
      -- Nothing happens on either side.
      obtain rfl : e' = none := he.elim id id
      show w start' start' + _ ≤ w start' start + (w start start + _)
      rw [hw.self, hw.self, zero_add, zero_add]
      exact ih start' start
    | some d =>
      rcases he with rfl | rfl
      · -- The event is removed: the rest is paid from `start'`.
        show w start' start' + _ ≤ w start' start + (w start d + _)
        rw [hw.self, zero_add]
        calc cost w start' (holdFrom start' events')
            ≤ w start' d + cost w d (holdFrom d events) := ih start' d
          _ ≤ (w start' start + w start d) + cost w d (holdFrom d events) := by
              gcongr
              exact hw.triangle start' start d
          _ = w start' start + (w start d + cost w d (holdFrom d events)) := add_assoc _ _ _
      · -- It stays: both sides go on from its value.
        show w start' d + _ ≤ w start' start + (w start d + _)
        calc w start' d + cost w d (holdFrom d events')
            ≤ w start' d + (w d d + cost w d (holdFrom d events)) := by
              gcongr
              exact ih d d
          _ = w start' d + cost w d (holdFrom d events) := by rw [hw.self, zero_add]
          _ ≤ (w start' start + w start d) + cost w d (holdFrom d events) := by
              gcongr
              exact hw.triangle start' start d
          _ = w start' start + (w start d + cost w d (holdFrom d events)) := add_assoc _ _ _

end Cost

/-! ## Counting switches -/

/-- One for each switch that the relation picks out. -/
def indicator (R : δ → δ → Prop) [DecidableRel R] (a b : δ) : ℕ := if R a b then 1 else 0

theorem distance_indicator {R : δ → δ → Prop} [DecidableRel R] (hirrefl : ∀ a, ¬ R a a)
    (hsplit : ∀ a b c, R a c → R a b ∨ R b c) : Distance (indicator R) where
  self a := if_neg (hirrefl a)
  nonneg _ _ := Nat.zero_le _
  triangle a b c := by
    unfold indicator
    by_cases hac : R a c
    · rcases hsplit a b c hac with hab | hbc
      · rw [if_pos hac, if_pos hab]
        omega
      · rw [if_pos hac, if_pos hbc]
        omega
    · rw [if_neg hac]
      omega

end Column
