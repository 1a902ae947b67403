import Mathlib.Data.List.Induction

/-! # Runs of a system

    A system is a partial step function: `step a s` is the state after action
    `a`, or `none` when `a` is not enabled in `s`. A run is a list of actions,
    so a statement about every list of actions is a statement about every
    interleaving.

    * `Runs.run` — the state after a list of actions.
    * `Runs.Visits` — the states that a run passes through.
    * `Runs.Takes` — the actions that a run takes, with the state each is
      taken in. A condition on the steps of a run is a statement about these.
    * `visits_invariant` — what every step the run takes preserves holds in
      every state it visits.
    * `history_invariant` — the same, for what also depends on the actions so
      far.
-/

namespace Runs

variable {S A : Type*} {step : A → S → Option S}

/-- The state after a list of actions, each of them enabled. -/
def run (step : A → S → Option S) : List A → S → Option S
  | [], s => some s
  | a :: actions, s => (step a s).bind (run step actions)

@[simp] theorem run_nil (s : S) : run step [] s = some s := rfl

@[simp] theorem run_cons (a : A) (actions : List A) (s : S) :
    run step (a :: actions) s = (step a s).bind (run step actions) := rfl

theorem run_append (before after : List A) (s : S) :
    run step (before ++ after) s = (run step before s).bind (run step after) := by
  induction before generalizing s with
  | nil => rfl
  | cons a before ih =>
    simp only [List.cons_append, run_cons]
    cases step a s with
    | none => rfl
    | some t => exact ih t

theorem run_snoc_eq_some {before : List A} {a : A} {s u : S} :
    run step (before ++ [a]) s = some u ↔ ∃ t, run step before s = some t ∧ step a t = some u := by
  rw [run_append]
  cases run step before s with
  | none => simp
  | some t => cases hstep : step a t <;> simp [hstep]

/-- The run of `actions` from `s` passes through `t`. -/
def Visits (step : A → S → Option S) (s : S) (actions : List A) (t : S) : Prop :=
  ∃ before, before <+: actions ∧ run step before s = some t

/-- The run of `actions` from `s` takes action `a` in state `t`. -/
def Takes (step : A → S → Option S) (s : S) (actions : List A) (t : S) (a : A) : Prop :=
  ∃ before, before ++ [a] <+: actions ∧ run step before s = some t

section Rules

variable {s t u : S} {actions : List A} {a : A}

theorem Takes.visits (h : Takes step s actions t a) : Visits step s actions t := by
  obtain ⟨before, hprefix, hrun⟩ := h
  exact ⟨before, (List.prefix_append before [a]).trans hprefix, hrun⟩

theorem Takes.visits_next (h : Takes step s actions t a) (hstep : step a t = some u) :
    Visits step s actions u := by
  obtain ⟨before, hprefix, hrun⟩ := h
  exact ⟨before ++ [a], hprefix, run_snoc_eq_some.mpr ⟨t, hrun, hstep⟩⟩

theorem Takes.mem (h : Takes step s actions t a) : a ∈ actions := by
  obtain ⟨before, hprefix, _⟩ := h
  exact hprefix.subset (by simp)

/-- **Invariant rule**: what holds at the start and is preserved by every step
    that the run takes holds in every state that the run visits. -/
theorem visits_invariant (Inv : S → Prop) (h0 : Inv s)
    (hstep : ∀ t a u, Takes step s actions t a → Inv t → step a t = some u → Inv u)
    (hvisits : Visits step s actions t) : Inv t := by
  obtain ⟨before, hprefix, hrun⟩ := hvisits
  induction before using List.reverseRecOn generalizing t with
  | nil =>
    obtain rfl : s = t := by simpa using hrun
    exact h0
  | append_singleton before a ih =>
    obtain ⟨v, hv, hnext⟩ := run_snoc_eq_some.mp hrun
    have hbefore := (List.prefix_append before [a]).trans hprefix
    exact hstep v a t ⟨before, hprefix, hv⟩ (ih hbefore hv) hnext

/-- **Invariant rule**, with the actions that were taken so far. -/
theorem history_invariant (Inv : List A → S → Prop) (h0 : Inv [] s)
    (hstep : ∀ before a t u, before ++ [a] <+: actions → Inv before t → step a t = some u →
      Inv (before ++ [a]) u)
    (hvisits : Visits step s actions t) : ∃ before, before <+: actions ∧ Inv before t := by
  obtain ⟨before, hprefix, hrun⟩ := hvisits
  refine ⟨before, hprefix, ?_⟩
  induction before using List.reverseRecOn generalizing t with
  | nil =>
    obtain rfl : s = t := by simpa using hrun
    exact h0
  | append_singleton before a ih =>
    obtain ⟨v, hv, hnext⟩ := run_snoc_eq_some.mp hrun
    exact hstep before a v t hprefix
      (ih ((List.prefix_append before [a]).trans hprefix) hv) hnext

/-- A run that is computed visits its last state. -/
theorem exists_visits_of_any (step : A → S → Option S) (s : S) (actions : List A) {P : S → Bool}
    (h : (run step actions s).any P = true) :
    ∃ t, Visits step s actions t ∧ P t = true := by
  cases hrun : run step actions s with
  | none => rw [hrun] at h; cases h
  | some t => exact ⟨t, ⟨actions, List.prefix_rfl, hrun⟩, by simpa [hrun] using h⟩

/-- The states of a run are those after its first `n` actions. -/
theorem forall_visits_of_all {P : S → Prop} [DecidablePred P]
    (h : ∀ n ∈ List.range (actions.length + 1),
      (run step (actions.take n) s).all (fun t => P t) = true)
    (hvisits : Visits step s actions t) : P t := by
  obtain ⟨before, hprefix, hrun⟩ := hvisits
  have hlen : before.length < actions.length + 1 := Nat.lt_succ_of_le hprefix.length_le
  have hall := h before.length (List.mem_range.mpr hlen)
  rw [← List.prefix_iff_eq_take.mp hprefix, hrun] at hall
  simpa using hall

/-- The steps of a run are taken in the states after its first actions. -/
theorem forall_takes_of_all {P : S → A → Prop} [∀ t a, Decidable (P t a)]
    (h : ∀ n ∈ List.range actions.length,
      (run step (actions.take n) s).all (fun t => actions[n]?.all (fun a => P t a)) = true)
    (htakes : Takes step s actions t a) : P t a := by
  obtain ⟨before, hprefix, hrun⟩ := htakes
  obtain ⟨after, rfl⟩ := hprefix
  have hlen : before.length < (before ++ [a] ++ after).length := by simp
  have hall := h before.length (List.mem_range.mpr hlen)
  rw [List.append_assoc, List.take_left, hrun] at hall
  simpa using hall

end Rules

end Runs
