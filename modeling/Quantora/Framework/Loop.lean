import Mathlib.Data.List.Basic
import Quantora.Framework.Outcome

/-! # Indexed loops

    A `for i, x in enumerate(xs)` loop over an explicit state:

    * `Loop.run` — the loop with a total body, and its proof rules: an invariant
      (`run_invariant`), a simulation between two loops (`run_simulates`), and
      the prefix law (`run_append`).
    * `Loop.runE` — the same loop with a body that may raise, with the rules for
      the runs that end. `runE_eq_ok` reduces it to `run` as soon as an
      invariant excludes every error.
    * `Loop.withNext` — a list whose items can see one attribute of their
      successor, which is all a loop body that writes `index[i + 1]` can see.
-/

namespace Loop

variable {ι κ S T ε : Type*}

/-! ## Loops with a total body -/

/-- Run `step` over `xs`, the first item having index `i`. -/
def run (step : ℕ → ι → S → S) : ℕ → List ι → S → S
  | _, [], s => s
  | i, x :: xs, s => run step (i + 1) xs (step i x s)

@[simp] theorem run_nil (step : ℕ → ι → S → S) (i : ℕ) (s : S) : run step i [] s = s := rfl

@[simp] theorem run_cons (step : ℕ → ι → S → S) (i : ℕ) (x : ι) (xs : List ι) (s : S) :
    run step i (x :: xs) s = run step (i + 1) xs (step i x s) := rfl

theorem run_append (step : ℕ → ι → S → S) (i : ℕ) (xs ys : List ι) (s : S) :
    run step i (xs ++ ys) s = run step (i + xs.length) ys (run step i xs s) := by
  induction xs generalizing i s with
  | nil => simp
  | cons x xs ih =>
    simp only [List.cons_append, run_cons, List.length_cons]
    rw [ih (i + 1), Nat.add_right_comm, Nat.add_assoc]

/-- **Invariant rule**: what every iteration over an item of `xs` preserves
    holds when the loop ends. The invariant may mention the loop index. -/
theorem run_invariant {step : ℕ → ι → S → S} {xs : List ι} {i : ℕ} {s : S}
    (Inv : ℕ → S → Prop)
    (hstep : ∀ j x s, xs[j]? = some x → Inv (i + j) s → Inv (i + j + 1) (step (i + j) x s))
    (h0 : Inv i s) : Inv (i + xs.length) (run step i xs s) := by
  induction xs generalizing i s with
  | nil => simpa using h0
  | cons x xs ih =>
    have h1 : Inv (i + 1) (step i x s) := by simpa using hstep 0 x s rfl (by simpa using h0)
    have htail := ih (i := i + 1) (s := step i x s) (fun j y s' hy hinv => by
      have heq : i + 1 + j = i + (j + 1) := by omega
      rw [heq] at hinv ⊢
      exact hstep (j + 1) y s' (by simpa using hy) hinv) h1
    rw [List.length_cons, run_cons]
    rwa [show i + (xs.length + 1) = i + 1 + xs.length from by omega]

/-- **Simulation rule**: two loops over corresponding items keep two related
    states related. -/
theorem run_simulates (step : ℕ → ι → S → S) (step' : ℕ → κ → T → T) (f : ι → κ)
    (xs : List ι) (i : ℕ) {s : S} {t : T} (R : ℕ → S → T → Prop)
    (hstep : ∀ j x s t, xs[j]? = some x → R (i + j) s t →
      R (i + j + 1) (step (i + j) x s) (step' (i + j) (f x) t))
    (h0 : R i s t) :
    R (i + xs.length) (run step i xs s) (run step' i (xs.map f) t) := by
  induction xs generalizing i s t with
  | nil => simpa using h0
  | cons x xs ih =>
    have h1 : R (i + 1) (step i x s) (step' i (f x) t) := by
      simpa using hstep 0 x s t rfl (by simpa using h0)
    have htail := ih (i + 1) (fun j y s' t' hy hR => by
      have heq : i + 1 + j = i + (j + 1) := by omega
      rw [heq] at hR ⊢
      exact hstep (j + 1) y s' t' (by simpa using hy) hR) h1
    rw [List.length_cons, List.map_cons, run_cons, run_cons]
    rwa [show i + (xs.length + 1) = i + 1 + xs.length from by omega]

/-! ## Loops with a body that may raise -/

/-- Run `step` over `xs` until it raises. -/
def runE (step : ℕ → ι → S → Except ε S) : ℕ → List ι → S → Except ε S
  | _, [], s => .ok s
  | i, x :: xs, s => do
      let s' ← step i x s
      runE step (i + 1) xs s'

@[simp] theorem runE_nil (step : ℕ → ι → S → Except ε S) (i : ℕ) (s : S) :
    runE step i [] s = .ok s := rfl

/-- A loop that ends made a first step, and the rest of the loop ended from there. -/
theorem runE_cons_eq_ok {step : ℕ → ι → S → Except ε S} {i : ℕ} {x : ι} {xs : List ι} {s s' : S} :
    runE step i (x :: xs) s = .ok s' ↔
      ∃ t, step i x s = .ok t ∧ runE step (i + 1) xs t = .ok s' := by
  rw [runE]
  cases step i x s with
  | error e => simp [Bind.bind, Except.bind]
  | ok t => simp [Bind.bind, Except.bind]

theorem runE_append_eq_ok {step : ℕ → ι → S → Except ε S} {i : ℕ} {xs ys : List ι} {s s' : S} :
    runE step i (xs ++ ys) s = .ok s' ↔
      ∃ t, runE step i xs s = .ok t ∧ runE step (i + xs.length) ys t = .ok s' := by
  induction xs generalizing i s with
  | nil => simp
  | cons x xs ih =>
    simp only [List.cons_append, runE_cons_eq_ok, ih, List.length_cons]
    have hlen : i + (xs.length + 1) = i + 1 + xs.length := by omega
    rw [hlen]
    constructor
    · rintro ⟨t, ht, u, hu, hrest⟩
      exact ⟨u, ⟨t, ht, hu⟩, hrest⟩
    · rintro ⟨u, ⟨t, ht, hu⟩, hrest⟩
      exact ⟨t, ht, u, hu, hrest⟩

/-- Two bodies that agree on every item of the list give the same run. -/
theorem runE_congr {step step' : ℕ → ι → S → Except ε S} {xs : List ι} {i : ℕ} {s : S}
    (h : ∀ j x s, xs[j]? = some x → step (i + j) x s = step' (i + j) x s) :
    runE step i xs s = runE step' i xs s := by
  induction xs generalizing i s with
  | nil => rfl
  | cons x xs ih =>
    have h0 : step i x s = step' i x s := by simpa using h 0 x s rfl
    rw [runE, runE, h0]
    congr 1
    funext t
    apply ih
    intro j y u hy
    have heq : i + 1 + j = i + (j + 1) := by omega
    rw [heq]
    exact h (j + 1) y u (by simpa using hy)

/-- A loop over mapped items is the loop whose body maps its item. -/
theorem runE_map {step : ℕ → κ → S → Except ε S} (f : ι → κ) (xs : List ι) {i : ℕ} {s : S} :
    runE step i (xs.map f) s = runE (fun j x => step j (f x)) i xs s := by
  induction xs generalizing i s with
  | nil => rfl
  | cons x xs ih =>
    rw [List.map_cons, runE, runE]
    congr 1
    funext t
    exact ih

/-- **Invariant rule**: what every iteration that does not raise preserves
    holds if the loop ends. -/
theorem runE_invariant {step : ℕ → ι → S → Except ε S} {xs : List ι} {i : ℕ} {s s' : S}
    (Inv : ℕ → S → Prop)
    (hstep : ∀ j x t t', xs[j]? = some x → Inv (i + j) t → step (i + j) x t = .ok t' →
      Inv (i + j + 1) t')
    (h0 : Inv i s) (hrun : runE step i xs s = .ok s') : Inv (i + xs.length) s' := by
  induction xs generalizing i s with
  | nil =>
    obtain rfl : s = s' := by simpa using hrun
    simpa using h0
  | cons x xs ih =>
    obtain ⟨t, ht, hrest⟩ := runE_cons_eq_ok.mp hrun
    have h1 : Inv (i + 1) t := by
      simpa using hstep 0 x s t rfl (by simpa using h0) (by simpa using ht)
    have htail := ih (i := i + 1) (fun j y u u' hy hinv hu => by
      have heq : i + 1 + j = i + (j + 1) := by omega
      rw [heq] at hinv hu ⊢
      exact hstep (j + 1) y u u' (by simpa using hy) hinv hu) h1 hrest
    rw [List.length_cons]
    rwa [show i + (xs.length + 1) = i + 1 + xs.length from by omega]

/-- **Error rule**: a loop that raises did so in an iteration whose state satisfies
    the invariant. -/
theorem exists_of_runE_eq_error {step : ℕ → ι → S → Except ε S} {xs : List ι} {i : ℕ} {s : S}
    {e : ε} (Inv : ℕ → S → Prop)
    (hstep : ∀ j x t t', xs[j]? = some x → Inv (i + j) t → step (i + j) x t = .ok t' →
      Inv (i + j + 1) t')
    (h0 : Inv i s) (hrun : runE step i xs s = .error e) :
    ∃ j x t, xs[j]? = some x ∧ Inv (i + j) t ∧ step (i + j) x t = .error e := by
  induction xs generalizing i s with
  | nil => cases hrun
  | cons x xs ih =>
    cases hfirst : step i x s with
    | error e' =>
      rw [runE, hfirst] at hrun
      obtain rfl := Except.error.inj hrun
      exact ⟨0, x, s, rfl, by simpa using h0, by simpa using hfirst⟩
    | ok t =>
      rw [runE, hfirst] at hrun
      have h1 : Inv (i + 1) t := by
        simpa using hstep 0 x s t rfl (by simpa using h0) (by simpa using hfirst)
      obtain ⟨j, y, u, hy, hinv, hraise⟩ := ih (fun j y u u' hy hinv hu => by
        have heq : i + 1 + j = i + (j + 1) := by omega
        rw [heq] at hinv hu ⊢
        exact hstep (j + 1) y u u' (by simpa using hy) hinv hu) h1 hrun
      have heq : i + 1 + j = i + (j + 1) := by omega
      rw [heq] at hinv hraise
      exact ⟨j + 1, y, u, by simpa using hy, hinv, hraise⟩

/-- A body that a function of the state commutes with: so does the loop. -/
theorem runE_project {step : ℕ → ι → S → Except ε S} {step' : ℕ → ι → T → Except ε T} (f : S → T)
    (hstep : ∀ i x s, (step i x s).map f = step' i x (f s)) (i : ℕ) (xs : List ι) (s : S) :
    (runE step i xs s).map f = runE step' i xs (f s) := by
  induction xs generalizing i s with
  | nil => rfl
  | cons x xs ih =>
    rw [runE, runE, ← hstep]
    cases step i x s with
    | error e => rfl
    | ok t => exact ih (i + 1) t

/-- **Simulation rule**: two loops over corresponding items, whose bodies keep two
    states related or raise alike. -/
theorem runE_related {S T E : Type} {step : ℕ → ι → S → Except E S}
    {step' : ℕ → κ → T → Except E T} (f : ι → κ) (R : S → T → Prop)
    (hstep : ∀ i x s t, R s t → Outcome.Related R (step i x s) (step' i (f x) t))
    (xs : List ι) (i : ℕ) {s : S} {t : T} (h0 : R s t) :
    Outcome.Related R (runE step i xs s) (runE step' i (xs.map f) t) := by
  induction xs generalizing i s t with
  | nil => exact .ok h0
  | cons x xs ih =>
    rw [List.map_cons, runE, runE]
    exact (hstep i x s t h0).bind fun s' t' h => ih (i + 1) h

/-- A loop whose invariant excludes every error is the loop with the total
    body. -/
theorem runE_eq_ok {stepE : ℕ → ι → S → Except ε S} {step : ℕ → ι → S → S} {xs : List ι} {i : ℕ}
    {s : S} (Inv : ℕ → S → Prop)
    (hstep : ∀ j x s, xs[j]? = some x → Inv (i + j) s →
      stepE (i + j) x s = .ok (step (i + j) x s) ∧ Inv (i + j + 1) (step (i + j) x s))
    (h0 : Inv i s) : runE stepE i xs s = .ok (run step i xs s) := by
  induction xs generalizing i s with
  | nil => rfl
  | cons x xs ih =>
    obtain ⟨heq, hinv⟩ := hstep 0 x s rfl (by simpa using h0)
    rw [Nat.add_zero] at heq hinv
    rw [runE, heq, run_cons]
    exact ih (i := i + 1) (fun j y t hy ht => by
      have hj : i + 1 + j = i + (j + 1) := by omega
      rw [hj] at ht ⊢
      exact hstep (j + 1) y t (by simpa using hy) ht) hinv

/-! ## Items that see one attribute of their successor -/

/-- Each item, paired with the attribute `f` of the item after it. -/
def withNext (f : ι → κ) : List ι → List (ι × Option κ)
  | [] => []
  | x :: xs => (x, xs.head?.map f) :: withNext f xs

@[simp] theorem withNext_nil (f : ι → κ) : withNext f [] = [] := rfl

@[simp] theorem withNext_cons (f : ι → κ) (x : ι) (xs : List ι) :
    withNext f (x :: xs) = (x, xs.head?.map f) :: withNext f xs := rfl

@[simp] theorem withNext_length (f : ι → κ) (xs : List ι) :
    (withNext f xs).length = xs.length := by
  induction xs with
  | nil => rfl
  | cons x xs ih => simp [ih]

@[simp] theorem withNext_map_fst (f : ι → κ) (xs : List ι) :
    (withNext f xs).map Prod.fst = xs := by
  induction xs with
  | nil => rfl
  | cons x xs ih => simp [ih]

theorem withNext_map (f : ι → κ) (g : T → ι) (xs : List T) :
    withNext f (xs.map g) = (withNext (f ∘ g) xs).map (fun step => (g step.1, step.2)) := by
  induction xs with
  | nil => rfl
  | cons x xs ih => simp [ih, List.head?_map]

theorem withNext_getElem? (f : ι → κ) (xs : List ι) (j : ℕ) :
    (withNext f xs)[j]? = xs[j]?.map (fun x => (x, xs[j + 1]?.map f)) := by
  induction xs generalizing j with
  | nil => simp
  | cons x xs ih =>
    cases j with
    | zero => cases xs <;> simp
    | succ j => simpa using ih j

/-- The first `k + 1` pairs depend on the first `k + 1` items and on the
    attribute of one item more. -/
theorem withNext_take_eq (f : ι → κ) {xs ys : List ι} {k : ℕ}
    (hitems : xs.take (k + 1) = ys.take (k + 1))
    (hnext : xs[k + 1]?.map f = ys[k + 1]?.map f) :
    (withNext f xs).take (k + 1) = (withNext f ys).take (k + 1) := by
  have hget : ∀ j, j ≤ k → xs[j]? = ys[j]? := by
    intro j hj
    have := congrArg (fun l => l[j]?) hitems
    simpa [List.getElem?_take, Nat.lt_succ_of_le hj] using this
  apply List.ext_getElem?
  intro j
  simp only [List.getElem?_take]
  by_cases hj : j < k + 1
  · simp only [hj, if_true, withNext_getElem?]
    rw [hget j (by omega)]
    congr 1
    funext x
    rcases Nat.lt_or_ge j k with hlt | hge
    · rw [hget (j + 1) (by omega)]
    · have hjk : j = k := by omega
      rw [hjk, hnext]
  · simp [hj]

end Loop
