import Mathlib.Data.List.ReduceOption
import Mathlib.Order.Lattice

/-! # Causal functions of a list

    A function from lists to lists is causal when it gives one output per input
    and the first `k` outputs depend on the first `k` inputs only.

    * `Causal` and its closure rules: composition, pointwise maps, pairing.
    * `Column.scan` — a machine with a state; every operator here is built from
      it. `prefixes` sees all inputs so far, `shift` the input before.
    * `Column.onDefined` — apply a causal function to the defined entries, each result
      going back to its entry's place.
    * `upTo` — the items of a sorted list up to a time. `Causal.upTo_eq` is the
      form in which causality is used: cutting the input cuts the output.
-/

/-! ## Operators on columns -/

namespace Column

variable {α β : Type*}

/-- Run a machine over a list: one output per input. -/
def scan {σ : Type*} (step : σ → α → σ × β) : σ → List α → List β
  | _, [] => []
  | s, x :: xs => (step s x).2 :: scan step (step s x).1 xs

/-- Each output is a function of the inputs so far. -/
def prefixes (f : List α → β) (xs : List α) : List β :=
  scan (fun seen x => (seen ++ [x], f (seen ++ [x]))) [] xs

/-- The output is the input before; `none` at the start. -/
def shift (xs : List α) : List (Option α) :=
  scan (fun before x => (some x, before)) none xs

/-- The last defined entry so far. -/
def ffill (xs : List (Option α)) : List (Option α) :=
  scan (fun last x => (x <|> last, x <|> last)) none xs

/-- Put `ys` in the places where `xs` is defined. -/
def scatter : List (Option α) → List (Option β) → List (Option β)
  | [], _ => []
  | none :: xs, ys => none :: scatter xs ys
  | some _ :: xs, [] => none :: scatter xs []
  | some _ :: xs, y :: ys => y :: scatter xs ys

theorem length_scatter (xs : List (Option α)) (ys : List (Option β)) :
    (scatter xs ys).length = xs.length := by
  induction xs generalizing ys with
  | nil => rfl
  | cons x xs ih =>
    cases x with
    | none => simp [scatter, ih]
    | some x => cases ys <;> simp [scatter, ih]

/-- The first `k` places hold as many results as they have defined entries. -/
theorem take_scatter (xs : List (Option α)) (ys : List (Option β)) (k : ℕ) :
    (scatter xs ys).take k = scatter (xs.take k) (ys.take (xs.take k).reduceOption.length) := by
  induction xs generalizing ys k with
  | nil => simp [scatter]
  | cons x xs ih =>
    cases k with
    | zero => simp [scatter]
    | succ k =>
      cases x with
      | none => simp [scatter, ih]
      | some x => cases ys <;> simp [scatter, ih]

/-- The last output has seen every input. Induction over the inputs before it. -/
theorem prefixes_append_singleton (f : List α → β) (xs : List α) (x : α) :
    prefixes f (xs ++ [x]) = prefixes f xs ++ [f (xs ++ [x])] := by
  have hseen : ∀ seen, scan (fun seen x => (seen ++ [x], f (seen ++ [x]))) seen (xs ++ [x])
      = scan (fun seen x => (seen ++ [x], f (seen ++ [x]))) seen xs
        ++ [f (seen ++ (xs ++ [x]))] := by
    induction xs with
    | nil => exact fun seen => rfl
    | cons y xs ih =>
      intro seen
      rw [List.cons_append, scan, ih, scan, List.cons_append, List.append_assoc seen]
      rfl
  exact hseen []

theorem getLast?_prefixes (f : List α → β) {xs : List α} (h : xs ≠ []) :
    (prefixes f xs).getLast? = some (f xs) := by
  rcases List.eq_nil_or_concat' xs with rfl | ⟨init, x, rfl⟩
  · exact absurd rfl h
  · rw [prefixes_append_singleton, List.getLast?_concat]

theorem getLast?_zipWith {γ : Type*} (f : α → β → γ) {xs : List α} {ys : List β}
    (h : xs.length = ys.length) {x : α} {y : β} (hx : xs.getLast? = some x)
    (hy : ys.getLast? = some y) : (List.zipWith f xs ys).getLast? = some (f x y) := by
  obtain ⟨init, rfl⟩ := List.getLast?_eq_some_iff.mp hx
  obtain ⟨init', rfl⟩ := List.getLast?_eq_some_iff.mp hy
  have hinit : init.length = init'.length := by simpa using h
  rw [List.zipWith_append hinit]
  exact List.getLast?_concat

/-- `dropna`, then `F`, then `reindex`. -/
def onDefined (F : List α → List (Option β)) (xs : List (Option α)) : List (Option β) :=
  scatter xs (F xs.reduceOption)

end Column

/-! ## Causality -/

/-- One output per input, and no output depends on a later input. -/
structure Causal {α β : Type*} (F : List α → List β) : Prop where
  length : ∀ xs, (F xs).length = xs.length
  take : ∀ xs k, (F xs).take k = F (xs.take k)

namespace Causal

open Column

variable {α β γ δ : Type*}

/-! ## Closure rules -/

protected theorem id : Causal (fun xs : List α => xs) :=
  ⟨fun _ => rfl, fun _ _ => rfl⟩

theorem map (f : α → β) {F : List γ → List α} (hF : Causal F) :
    Causal (fun xs => (F xs).map f) where
  length xs := by rw [List.length_map, hF.length]
  take xs k := by rw [← List.map_take, hF.take]

theorem comp {F : List β → List γ} {G : List α → List β} (hF : Causal F) (hG : Causal G) :
    Causal (fun xs => F (G xs)) where
  length xs := (hF.length _).trans (hG.length _)
  take xs k := by rw [hF.take, hG.take]

theorem zipWith (f : α → β → γ) {F : List δ → List α} {G : List δ → List β} (hF : Causal F)
    (hG : Causal G) : Causal (fun xs => List.zipWith f (F xs) (G xs)) where
  length xs := by rw [List.length_zipWith, hF.length, hG.length, Nat.min_self]
  take xs k := by rw [List.take_zipWith, hF.take, hG.take]

theorem zip {F : List δ → List α} {G : List δ → List β} (hF : Causal F) (hG : Causal G) :
    Causal (fun xs => (F xs).zip (G xs)) :=
  zipWith Prod.mk hF hG

/-! ## Machines -/

protected theorem scan {σ : Type*} (step : σ → α → σ × β) (s : σ) : Causal (scan step s) where
  length xs := by
    induction xs generalizing s with
    | nil => rfl
    | cons x xs ih => simp [Column.scan, ih]
  take xs k := by
    induction xs generalizing s k with
    | nil => simp [Column.scan]
    | cons x xs ih =>
      cases k with
      | zero => simp [Column.scan]
      | succ k => simp [Column.scan, ih]

protected theorem prefixes (f : List α → β) : Causal (prefixes f) := Causal.scan _ _

protected theorem shift : Causal (shift : List α → List (Option α)) := Causal.scan _ _

protected theorem ffill : Causal (ffill : List (Option α) → List (Option α)) := Causal.scan _ _

/-! ## Functions of the defined entries -/

protected theorem onDefined {F : List α → List (Option β)} (hF : Causal F) :
    Causal (onDefined F) where
  length xs := length_scatter _ _
  take xs k := by
    have hprefix : (xs.take k).reduceOption <+: xs.reduceOption :=
      (List.take_prefix k xs).filterMap _
    rw [onDefined, onDefined, take_scatter, hF.take, ← List.prefix_iff_eq_take.mp hprefix]

/-! ## Items with a time -/

section Time

variable {τ : Type*} [LinearOrder τ]

/-- The items up to time `T`. -/
def upTo (time : α → τ) (T : τ) (xs : List α) : List α := xs.filter (fun x => time x ≤ T)

/-- In a sorted list they are the first ones. -/
theorem upTo_eq_take {time : α → τ} {xs : List α}
    (hsorted : xs.Pairwise (fun a b => time a < time b)) (T : τ) :
    upTo time T xs = xs.take (upTo time T xs).length := by
  induction xs with
  | nil => rfl
  | cons x xs ih =>
    obtain ⟨hfirst, hrest⟩ := List.pairwise_cons.mp hsorted
    by_cases hx : time x ≤ T
    · have hcons : upTo time T (x :: xs) = x :: upTo time T xs := List.filter_cons_of_pos (by simpa)
      rw [hcons, List.length_cons, List.take_succ_cons, ← ih hrest]
    · have hnone : upTo time T (x :: xs) = [] := by
        rw [upTo, List.filter_eq_nil_iff]
        intro y hy
        rcases List.mem_cons.mp hy with rfl | hy
        · simpa using hx
        · simpa using (lt_of_not_ge hx).trans (hfirst y hy)
      rw [hnone]
      rfl

/-- Up to its own time an item has the items before it, and itself. -/
theorem upTo_eq_take_of_getElem? {time : α → τ} {xs : List α}
    (hsorted : xs.Pairwise (fun a b => time a < time b)) {k : ℕ} {a : α} (ha : xs[k]? = some a) :
    upTo time (time a) xs = xs.take (k + 1) := by
  induction xs generalizing k with
  | nil => cases ha
  | cons x xs ih =>
    obtain ⟨hfirst, hrest⟩ := List.pairwise_cons.mp hsorted
    cases k with
    | zero =>
      obtain rfl : x = a := Option.some.inj ha
      have hnone : upTo time (time x) xs = [] := by
        rw [upTo, List.filter_eq_nil_iff]
        intro y hy
        simpa using hfirst y hy
      rw [upTo, List.filter_cons_of_pos (by simp), List.take_succ_cons]
      exact congrArg (x :: ·) hnone
    | succ k =>
      have ha : xs[k]? = some a := ha
      have hlt : time x < time a := hfirst a (List.mem_of_getElem? ha)
      rw [upTo, List.filter_cons_of_pos (by simpa using hlt.le), List.take_succ_cons]
      exact congrArg (x :: ·) (ih hrest ha)

/-- A function of each row that keeps its time. -/
theorem upTo_map {time : α → τ} {time' : β → τ} {f : α → β} (h : ∀ x, time' (f x) = time x)
    (T : τ) (xs : List α) : upTo time' T (xs.map f) = (upTo time T xs).map f := by
  rw [upTo, List.filter_map]
  simp only [Function.comp_def, h]
  rfl

/-- Such a function that may refuse a row. -/
theorem mapM_upTo {time : α → τ} {time' : β → τ} {f : α → Option β}
    (h : ∀ x y, f x = some y → time' y = time x) (T : τ) {xs : List α} {ys : List β}
    (hys : xs.mapM f = some ys) : (upTo time T xs).mapM f = some (upTo time' T ys) := by
  induction xs generalizing ys with
  | nil =>
    obtain rfl := Option.some.inj hys
    rfl
  | cons x xs ih =>
    rw [List.mapM_cons] at hys
    obtain ⟨y, hy, hys⟩ := Option.bind_eq_some_iff.mp hys
    obtain ⟨rest, hrest, hys⟩ := Option.bind_eq_some_iff.mp hys
    obtain rfl := Option.some.inj hys
    have htime : time' y = time x := h x y hy
    by_cases hx : time x ≤ T
    · rw [upTo, upTo, List.filter_cons_of_pos (by simpa using hx),
        List.filter_cons_of_pos (by simpa [htime] using hx), List.mapM_cons, hy]
      show (do let rest ← (upTo time T xs).mapM f; pure (y :: rest)) = _
      rw [ih hrest]
      rfl
    · rw [upTo, upTo, List.filter_cons_of_neg (by simpa using hx),
        List.filter_cons_of_neg (by simpa [htime] using hx)]
      exact ih hrest

theorem map_upTo (time : α → τ) (T : τ) (xs : List α) :
    (upTo time T xs).map time = (xs.map time).filter (fun t => t ≤ T) := by
  rw [List.filter_map]
  rfl

theorem length_upTo {time : α → τ} {time' : β → τ} {xs : List α} {ys : List β}
    (h : ys.map time' = xs.map time) (T : τ) :
    (upTo time' T ys).length = (upTo time T xs).length := by
  calc (upTo time' T ys).length = ((upTo time' T ys).map time').length := by rw [List.length_map]
    _ = ((upTo time T xs).map time).length := by rw [map_upTo, map_upTo, h]
    _ = (upTo time T xs).length := List.length_map ..

/-- Cutting the input of a causal function that keeps the times cuts its
    output. -/
theorem upTo_eq {time : α → τ} {time' : β → τ} {F : List α → List β} (hF : Causal F)
    (htime : ∀ xs, (F xs).map time' = xs.map time) {xs : List α}
    (hsorted : xs.Pairwise (fun a b => time a < time b)) (T : τ) :
    upTo time' T (F xs) = F (upTo time T xs) := by
  have hsorted' : (F xs).Pairwise (fun a b => time' a < time' b) := by
    rw [← List.pairwise_map (f := time') (R := (· < ·)), htime, List.pairwise_map]
    exact hsorted
  rw [upTo_eq_take hsorted', length_upTo (htime xs), hF.take, ← upTo_eq_take hsorted]

/-- An item is found up to its own time. -/
theorem find?_upTo {time : α → τ} {t T : τ} (h : t ≤ T) (xs : List α) :
    (upTo time T xs).find? (fun x => time x = t) = xs.find? (fun x => time x = t) := by
  rw [upTo, List.find?_filter]
  congr 1
  funext x
  by_cases hx : time x = t
  · simp [hx, h]
  · simp [hx]

/-- In a sorted list an item is found by its time. -/
theorem find?_of_mem {time : α → τ} {xs : List α}
    (hsorted : xs.Pairwise (fun a b => time a < time b)) {a : α} (ha : a ∈ xs) :
    xs.find? (fun x => time x = time a) = some a := by
  induction xs with
  | nil => cases ha
  | cons x xs ih =>
    obtain ⟨hfirst, hrest⟩ := List.pairwise_cons.mp hsorted
    rcases List.mem_cons.mp ha with rfl | ha
    · simp
    · have hne : time x ≠ time a := (hfirst a ha).ne
      rw [List.find?_cons_of_neg (by simpa using hne)]
      exact ih hrest ha

/-- Its indices are in the order of the times. -/
theorem time_lt_iff {time : α → τ} {xs : List α}
    (hsorted : xs.Pairwise (fun a b => time a < time b)) {i j : ℕ} {a b : α}
    (ha : xs[i]? = some a) (hb : xs[j]? = some b) : time a < time b ↔ i < j := by
  have hlater : ∀ {i j : ℕ} {a b : α}, xs[i]? = some a → xs[j]? = some b → i < j →
      time a < time b := by
    intro i j a b ha hb hij
    obtain ⟨hi, rfl⟩ := List.getElem?_eq_some_iff.mp ha
    obtain ⟨hj, rfl⟩ := List.getElem?_eq_some_iff.mp hb
    exact List.pairwise_iff_getElem.mp hsorted i j hi hj hij
  constructor
  · intro hlt
    by_contra hji
    rcases Nat.lt_or_eq_of_le (not_lt.mp hji) with hji | rfl
    · exact absurd (hlater hb ha hji) hlt.not_gt
    · obtain rfl := Option.some.inj (ha ▸ hb)
      exact lt_irrefl _ hlt
  · exact hlater ha hb

theorem time_le_iff {time : α → τ} {xs : List α}
    (hsorted : xs.Pairwise (fun a b => time a < time b)) {i j : ℕ} {a b : α}
    (ha : xs[i]? = some a) (hb : xs[j]? = some b) : time a ≤ time b ↔ i ≤ j := by
  rw [← not_lt, time_lt_iff hsorted hb ha, not_lt]

end Time

end Causal
