import Mathlib.Data.Nat.Find
import Mathlib.Data.Option.NAry
import Quantora.Framework.Causal

/-! # Held events and warm-ups

    A column of events, most of them undefined, is carried forward: each entry
    holds the last event at or before it.

    * `getElem?_ffill_iff` — which event is held: the last one.
    * `held_invariant` — what every event establishes and every bar without an
      event keeps holds of every held event.
    * `held_good_iff` — when a property that comes with an event lasts as long as
      the event is held: some event happens at the first entry that loses it.
    * `DefinedFrom` — a column with a warm-up: undefined before an index, defined
      from it on.
-/

namespace Column

variable {α β γ φ δ : Type*}

/-! ## The machines, index by index -/

theorem getElem?_ffill_zero (xs : List (Option α)) : (ffill xs)[0]? = xs[0]? := by
  cases xs with
  | nil => rfl
  | cons x xs =>
    show some (x <|> none) = some x
    cases x <;> rfl

/-- An entry without an event repeats the one before. -/
theorem getElem?_ffill_succ (xs : List (Option α)) (i : ℕ) :
    (ffill xs)[i + 1]? = Option.map₂ (· <|> ·) xs[i + 1]? (ffill xs)[i]? := by
  -- The machine starts from no event; the induction needs it from any.
  have hscan : ∀ last : Option α,
      (scan (fun last x => (x <|> last, x <|> last)) last xs)[i + 1]?
        = Option.map₂ (· <|> ·) xs[i + 1]?
            (scan (fun last x => (x <|> last, x <|> last)) last xs)[i]? := by
    induction xs generalizing i with
    | nil => intro last; rfl
    | cons x xs ih =>
      intro last
      cases i with
      | zero =>
        cases xs with
        | nil => rfl
        | cons y ys => rfl
      | succ i => exact ih i (x <|> last)
  exact hscan none

/-- The entry before. -/
theorem getElem?_shift_succ {xs : List α} {i : ℕ} {x y : α} (hx : xs[i]? = some x)
    (hy : xs[i + 1]? = some y) : (shift xs)[i + 1]? = some (some x) := by
  have hscan : ∀ before : Option α, (scan (fun before x => (some x, before)) before xs)[i + 1]?
      = some (some x) := by
    induction xs generalizing i with
    | nil => cases hx
    | cons z zs ih =>
      intro before
      cases i with
      | zero =>
        obtain rfl := Option.some.inj hx
        cases zs with
        | nil => cases hy
        | cons w ws => rfl
      | succ i => exact ih hx hy (some z)
  exact hscan none

/-- Each output has seen the inputs up to its own. -/
theorem getElem?_prefixes (f : List α → β) (xs : List α) (i : ℕ) :
    (prefixes f xs)[i]? = xs[i]?.map (fun _ => f (xs.take (i + 1))) := by
  have hscan : ∀ seen : List α,
      (scan (fun seen x => (seen ++ [x], f (seen ++ [x]))) seen xs)[i]?
        = xs[i]?.map (fun _ => f (seen ++ xs.take (i + 1))) := by
    induction xs generalizing i with
    | nil => intro seen; rfl
    | cons x xs ih =>
      intro seen
      cases i with
      | zero => rfl
      | succ i =>
        have hrest := ih i (seen ++ [x])
        rw [List.append_assoc] at hrest
        exact hrest
  exact hscan []

/-! ## Held events -/

section Held

variable {event : φ → Option δ} {facts : List φ} {i : ℕ} {d : δ}

/-- The event held at each entry. -/
def held (event : φ → Option δ) (facts : List φ) : List (Option δ) := ffill (facts.map event)

theorem length_held (event : φ → Option δ) (facts : List φ) :
    (held event facts).length = facts.length := by
  rw [held, Causal.ffill.length, List.length_map]

/-- An event is held where it happens. -/
theorem held_of_event {f : φ} (hf : facts[i]? = some f) (hevent : event f = some d) :
    (held event facts)[i]? = some (some d) := by
  have hmap : (facts.map event)[i]? = some (some d) := by rw [List.getElem?_map, hf, ← hevent]; rfl
  cases i with
  | zero => rw [held, getElem?_ffill_zero, hmap]
  | succ i =>
    have hlen : i < (ffill (facts.map event)).length := by
      have hi : i + 1 < facts.length := (List.getElem?_eq_some_iff.mp hf).1
      rw [Causal.ffill.length, List.length_map]
      omega
    rw [held, getElem?_ffill_succ, hmap, List.getElem?_eq_getElem hlen]
    rfl

/-- An entry without an event holds what the entry before holds. -/
theorem held_of_quiet {g : φ} (hg : facts[i + 1]? = some g) (hquiet : event g = none) :
    (held event facts)[i + 1]? = (held event facts)[i]? := by
  have hlen : i < (ffill (facts.map event)).length := by
    have hi : i + 1 < facts.length := (List.getElem?_eq_some_iff.mp hg).1
    rw [Causal.ffill.length, List.length_map]
    omega
  rw [held, getElem?_ffill_succ, List.getElem?_map, hg, List.getElem?_eq_getElem hlen]
  show some (event g <|> _) = some _
  rw [hquiet]
  rfl

/-- Nothing but an event puts anything in the first entry. -/
theorem event_of_held_zero {f : φ} (hf : facts[0]? = some f)
    (h : (held event facts)[0]? = some (some d)) : event f = some d := by
  rw [held, getElem?_ffill_zero, List.getElem?_map, hf] at h
  exact Option.some.inj h

/-- Where `d` is held no other event happens. -/
theorem quiet_or_event_of_held {f : φ} (hf : facts[i]? = some f)
    (h : (held event facts)[i]? = some (some d)) : event f = none ∨ event f = some d := by
  cases hevent : event f with
  | none => exact Or.inl rfl
  | some e =>
    rw [held_of_event hf hevent] at h
    exact Or.inr (Option.some.inj h)

/-- Whatever is held happened, and nothing has happened since. Induction on the
    index. -/
theorem exists_last_event (hlen : i < facts.length) (h : (held event facts)[i]? = some (some d)) :
    ∃ j ≤ i, (∃ f, facts[j]? = some f ∧ event f = some d) ∧
      ∀ k g, j < k → k ≤ i → facts[k]? = some g → event g = none := by
  induction i with
  | zero =>
    have hf : facts[0]? = some facts[0] := List.getElem?_eq_getElem hlen
    refine ⟨0, le_refl 0, ⟨facts[0], hf, event_of_held_zero hf h⟩, ?_⟩
    intro k g hk hk0
    omega
  | succ i ih =>
    have hf : facts[i + 1]? = some facts[i + 1] := List.getElem?_eq_getElem hlen
    cases hevent : event facts[i + 1] with
    | some e =>
      -- The event at this index is the last one.
      have he : e = d := by
        rw [held_of_event hf hevent] at h
        exact Option.some.inj (Option.some.inj h)
      refine ⟨i + 1, le_refl _, ⟨facts[i + 1], hf, by rw [hevent, he]⟩, ?_⟩
      intro k g hk hki
      omega
    | none =>
      -- The last event of the index before, and nothing here either.
      rw [held_of_quiet hf hevent] at h
      obtain ⟨j, hj, hstart, hsince⟩ := ih (by omega) h
      refine ⟨j, by omega, hstart, ?_⟩
      intro k g hjk hki hg
      by_cases hk : k = i + 1
      · subst hk
        rw [hf] at hg
        rw [← Option.some.inj hg, hevent]
      · exact hsince k g hjk (by omega) hg

/-- And the last event is held. -/
theorem held_of_last_event {j : ℕ} {f : φ} (hlen : i < facts.length) (hj : j ≤ i)
    (hf : facts[j]? = some f) (hevent : event f = some d)
    (hsince : ∀ k g, j < k → k ≤ i → facts[k]? = some g → event g = none) :
    (held event facts)[i]? = some (some d) := by
  induction i with
  | zero =>
    obtain rfl : j = 0 := by omega
    exact held_of_event hf hevent
  | succ i ih =>
    by_cases hji : j = i + 1
    · subst hji
      exact held_of_event hf hevent
    · have hg : facts[i + 1]? = some facts[i + 1] := List.getElem?_eq_getElem hlen
      rw [held_of_quiet hg (hsince (i + 1) _ (by omega) (le_refl _) hg)]
      exact ih (by omega) (by omega) fun k g hjk hki => hsince k g hjk (by omega)

/-- **Last event**: an event is held when it happened and none has happened
    since. -/
theorem held_iff : (held event facts)[i]? = some (some d) ↔
    i < facts.length ∧ ∃ j ≤ i, (∃ f, facts[j]? = some f ∧ event f = some d) ∧
      ∀ k g, j < k → k ≤ i → facts[k]? = some g → event g = none := by
  constructor
  · intro h
    have hlen : i < facts.length := by
      rw [← length_held event facts]
      exact (List.getElem?_eq_some_iff.mp h).1
    exact ⟨hlen, exists_last_event hlen h⟩
  · rintro ⟨hlen, j, hj, ⟨f, hf, hevent⟩, hsince⟩
    exact held_of_last_event hlen hj hf hevent hsince

/-- Something is held exactly when it ever happens. -/
theorem never_held_iff : (∀ (i : ℕ), (held event facts)[i]? ≠ some (some d)) ↔
    ∀ f ∈ facts, event f ≠ some d := by
  constructor
  · intro hnever f hf hevent
    obtain ⟨i, hi⟩ := List.mem_iff_getElem?.mp hf
    exact hnever i (held_of_event hi hevent)
  · intro hnone i hheld
    obtain ⟨-, j, -, ⟨f, hf, hevent⟩, -⟩ := held_iff.mp hheld
    exact hnone f (List.mem_of_getElem? hf) hevent

/-- Once an event has happened, something is held. -/
theorem held_isSome {j : ℕ} {f : φ} {e : Option δ} (hf : facts[j]? = some f)
    (hevent : (event f).isSome) (hj : j ≤ i) (h : (held event facts)[i]? = some e) :
    e.isSome := by
  obtain ⟨d, hd⟩ := Option.isSome_iff_exists.mp hevent
  induction i generalizing e with
  | zero =>
    obtain rfl : j = 0 := by omega
    rw [held_of_event hf hd] at h
    rw [← Option.some.inj h]
    rfl
  | succ i ih =>
    have hlen : i + 1 < facts.length := by
      rw [← length_held event facts]
      exact (List.getElem?_eq_some_iff.mp h).1
    have hg : facts[i + 1]? = some facts[i + 1] := List.getElem?_eq_getElem hlen
    cases hnow : event facts[i + 1] with
    | some d' =>
      rw [held_of_event hg hnow] at h
      rw [← Option.some.inj h]
      rfl
    | none =>
      -- The event came earlier, and is still held.
      have hji : j ≠ i + 1 := by
        intro heq
        subst heq
        rw [hf] at hg
        rw [← Option.some.inj hg, hd] at hnow
        cases hnow
      rw [held_of_quiet hg hnow] at h
      exact ih (by omega) h

/-- What every event establishes, and every entry without an event keeps, holds
    of the held event at each entry. -/
theorem held_invariant {P : φ → δ → Prop}
    (establish : ∀ (i : ℕ) f d, facts[i]? = some f → event f = some d → P f d)
    (persist : ∀ (i : ℕ) f g d, facts[i]? = some f → facts[i + 1]? = some g → event g = none →
      P f d → P g d) :
    ∀ (i : ℕ) f d, facts[i]? = some f → (held event facts)[i]? = some (some d) → P f d := by
  intro i
  induction i with
  | zero => exact fun f d hf h => establish 0 f d hf (event_of_held_zero hf h)
  | succ i ih =>
    intro g d hg h
    cases hevent : event g with
    | some e =>
      rw [held_of_event hg hevent] at h
      obtain rfl : e = d := Option.some.inj (Option.some.inj h)
      exact establish (i + 1) g e hg hevent
    | none =>
      have hlen : i < facts.length := by
        have : i + 1 < facts.length := (List.getElem?_eq_some_iff.mp hg).1
        omega
      have hf : facts[i]? = some facts[i] := List.getElem?_eq_getElem hlen
      rw [held_of_quiet hg hevent] at h
      exact persist i _ g d hf hg hevent (ih _ d hf h)

/-- The first index after `j` at which `Q` fails. -/
theorem exists_first_failure {Q : ℕ → Prop} {j : ℕ} (hj : Q j) (hji : j ≤ i) (hi : ¬ Q i) :
    ∃ m, j < m ∧ m ≤ i ∧ ¬ Q m ∧ ∀ k, j ≤ k → k < m → Q k := by
  classical
  have hfails : ∃ m, j ≤ m ∧ ¬ Q m := ⟨i, hji, hi⟩
  obtain ⟨hjm, hm⟩ := Nat.find_spec hfails
  refine ⟨Nat.find hfails, ?_, Nat.find_min' hfails ⟨hji, hi⟩, hm, ?_⟩
  · rcases Nat.lt_or_eq_of_le hjm with hlt | heq
    · exact hlt
    · exact absurd (heq ▸ hj) hm
  · intro k hjk hk
    by_contra hQ
    exact Nat.find_min hfails hk ⟨hjk, hQ⟩

/-- An event is held for as long as no other one happens. Induction on the
    distance. -/
theorem held_of_lasting {f : φ} {j : ℕ} (hf : facts[j]? = some f) (hevent : event f = some d) :
    ∀ n, j + n < facts.length →
      (∀ k g, j < k → k ≤ j + n → facts[k]? = some g → event g = none ∨ event g = some d) →
      (held event facts)[j + n]? = some (some d) := by
  intro n
  induction n with
  | zero => exact fun _ _ => held_of_event hf hevent
  | succ n ih =>
    intro hlen hlasts
    have hk : facts[j + n + 1]? = some facts[j + n + 1] := List.getElem?_eq_getElem hlen
    rcases hlasts (j + n + 1) _ (by omega) (by omega) hk with hnone | hagain
    · rw [show j + (n + 1) = j + n + 1 by omega, held_of_quiet hk hnone]
      apply ih (by omega)
      intro k g hjk hkn
      exact hlasts k g hjk (by omega)
    · exact held_of_event hk hagain

/-- **When a property lasts as long as its event.** `Good` comes with the event `d`, and
    while it lasts no other event happens. Then it holds at every entry that
    holds `d` exactly when some event happens at the first entry that loses it. -/
theorem held_good_iff (Good : φ → Prop)
    (comes : ∀ f, event f = some d → Good f)
    (lasts : ∀ f, Good f → event f = none ∨ event f = some d) :
    (∀ (i : ℕ) f, facts[i]? = some f → (held event facts)[i]? = some (some d) → Good f) ↔
      ∀ (j i : ℕ) f g, j < i → facts[j]? = some f → facts[i]? = some g → event f = some d →
        (∀ k h, j < k → k < i → facts[k]? = some h → Good h) → ¬ Good g → event g ≠ none := by
  constructor
  · intro hgood j i f g hji hf hg hevent hbetween hlost hquiet
    have hlen : i < facts.length := (List.getElem?_eq_some_iff.mp hg).1
    obtain ⟨n, rfl⟩ : ∃ n, i = j + n + 1 := ⟨i - j - 1, by omega⟩
    -- Up to the entry before, the event `d` is held, so it still is.
    apply hlost
    apply hgood (j + n + 1) g hg
    rw [held_of_quiet hg hquiet]
    apply held_of_lasting hf hevent n (by omega)
    intro k h hjk hkn hk
    exact lasts h (hbetween k h hjk (by omega) hk)
  · intro hend i f hf hheld
    by_contra hlost
    obtain ⟨-, j, hj, ⟨f', hf', hevent⟩, hsince⟩ := held_iff.mp hheld
    -- The first entry since the event that lost the property has no event.
    let Q : ℕ → Prop := fun n => ∀ g, facts[n]? = some g → Good g
    have hstart : Q j := by
      intro g hg
      rw [hf'] at hg
      rw [← Option.some.inj hg]
      exact comes f' hevent
    have hstop : ¬ Q i := fun hall => hlost (hall f hf)
    obtain ⟨m, hjm, hmi, hm, hbefore⟩ := exists_first_failure hstart hj hstop
    have hlen : m < facts.length := by
      have : i < facts.length := (List.getElem?_eq_some_iff.mp hf).1
      omega
    have hg : facts[m]? = some facts[m] := List.getElem?_eq_getElem hlen
    refine hend j m f' facts[m] hjm hf' hg hevent ?_ ?_ (hsince m _ hjm hmi hg)
    · exact fun k h hjk hkm hk => hbefore k (by omega) hkm h hk
    · intro hgood
      apply hm
      intro g hg'
      rw [hg] at hg'
      exact Option.some.inj hg' ▸ hgood

/-- The same for events that enter the good entries and leave them: the first
    entry that is lost has to be one that leaves. -/
theorem held_good_iff_leave {Good Lost enter leave : φ → Prop}
    (hevent : ∀ f, event f = some d ↔ enter f)
    (hnone : ∀ f, event f = none ↔ ¬ enter f ∧ ¬ leave f)
    (henter : ∀ f, enter f → Good f) (hleave : ∀ f, leave f → ¬ Good f)
    (hlost : ∀ (j i : ℕ) f g, j < i → facts[j]? = some f → facts[i]? = some g → Good f →
      (Lost g ↔ ¬ Good g)) :
    (∀ (i : ℕ) f, facts[i]? = some f → (held event facts)[i]? = some (some d) → Good f) ↔
      ∀ (j i : ℕ) f g, j < i → facts[j]? = some f → facts[i]? = some g → enter f →
        (∀ k h, j < k → k < i → facts[k]? = some h → Good h) → Lost g → leave g := by
  have hlasts : ∀ f, Good f → event f = none ∨ event f = some d := by
    intro f hgood
    by_cases hagain : enter f
    · exact Or.inr ((hevent f).mpr hagain)
    · exact Or.inl ((hnone f).mpr ⟨hagain, fun h => hleave f h hgood⟩)
  -- Where a good entry is lost, the event is quiet unless it leaves.
  rw [held_good_iff Good (fun f h => henter f ((hevent f).mp h)) hlasts]
  constructor
  · intro hend j i f g hji hf hg hstart hbetween hgone
    have hbad : ¬ Good g := (hlost j i f g hji hf hg (henter f hstart)).mp hgone
    have hsome := hend j i f g hji hf hg ((hevent f).mpr hstart) hbetween hbad
    by_contra hstay
    exact hsome ((hnone g).mpr ⟨fun hagain => hbad (henter g hagain), hstay⟩)
  · intro hdecides j i f g hji hf hg hstart hbetween hbad hquiet
    have hstart := (hevent f).mp hstart
    have hgone : Lost g := (hlost j i f g hji hf hg (henter f hstart)).mpr hbad
    exact ((hnone g).mp hquiet).2 (hdecides j i f g hji hf hg hstart hbetween hgone)

end Held

/-! ## Warm-ups -/

/-- Undefined before the index `n`, defined from it on. -/
def DefinedFrom (n : ℕ) (xs : List (Option α)) : Prop :=
  ∀ (i : ℕ) (x : Option α), xs[i]? = some x → (x.isSome ↔ n ≤ i)

namespace DefinedFrom

/-- A defined entry is not followed by an undefined one. -/
theorem next {n i : ℕ} {xs : List (Option α)} {a : α} {x : Option α} (h : DefinedFrom n xs)
    (ha : xs[i]? = some (some a)) (hx : xs[i + 1]? = some x) : x.isSome := by
  have hi : n ≤ i := (h i (some a) ha).mp rfl
  exact (h (i + 1) x hx).mpr (by omega)

/-- The warm-up of the rest is one entry shorter. -/
theorem tail {n : ℕ} {x : Option α} {xs : List (Option α)} (h : DefinedFrom n (x :: xs)) :
    DefinedFrom (n - 1) xs := by
  intro i y hy
  rw [h (i + 1) y hy]
  omega

theorem replicate_none (n k : ℕ) (h : k ≤ n) :
    DefinedFrom n (List.replicate k (none : Option α)) := by
  intro i x hx
  rw [List.getElem?_replicate] at hx
  by_cases hi : i < k
  · rw [if_pos hi] at hx
    rw [← Option.some.inj hx]
    simp
    omega
  · rw [if_neg hi] at hx
    cases hx

/-- Undefined entries in front of a column. -/
theorem replicate_append {n : ℕ} {xs : List (Option α)} (h : DefinedFrom 0 xs) :
    DefinedFrom n (List.replicate n none ++ xs) := by
  intro i x hx
  by_cases hi : i < n
  · rw [List.getElem?_append_left (by simpa using hi), List.getElem?_replicate_of_lt hi] at hx
    rw [← Option.some.inj hx]
    simp
    omega
  · rw [List.getElem?_append_right (by simpa using hi), List.length_replicate] at hx
    simpa [show n ≤ i by omega] using (h (i - n) x hx)

/-- A combination of two columns is defined where both are. -/
theorem zipWith {m n : ℕ} {xs : List (Option α)} {ys : List (Option β)} (f : α → β → γ)
    (hx : DefinedFrom m xs) (hy : DefinedFrom n ys) :
    DefinedFrom (max m n) (List.zipWith (Option.map₂ f) xs ys) := by
  intro i z hz
  obtain ⟨x, y, hxi, hyi, rfl⟩ := List.getElem?_zipWith_eq_some.mp hz
  have hboth : (Option.map₂ f x y).isSome ↔ x.isSome ∧ y.isSome := by
    cases x <;> cases y <;> simp
  rw [hboth, hx i x hxi, hy i y hyi, Nat.max_le]

/-- Results put in the places of the defined entries keep their own warm-up. -/
theorem scatter {m n : ℕ} {xs : List (Option α)} {zs : List (Option β)} (hx : DefinedFrom n xs)
    (hz : DefinedFrom m zs) (hlen : zs.length = xs.reduceOption.length) :
    DefinedFrom (n + m) (scatter xs zs) := by
  induction xs generalizing n m zs with
  | nil => intro i x hx; cases hx
  | cons x xs ih =>
    cases x with
    | none =>
      have hn : 1 ≤ n := by
        have := (hx 0 none rfl).not.mp (by simp)
        omega
      -- The result for the first defined entry is still to come.
      have hrest := ih hx.tail hz hlen
      intro i y hy
      cases i with
      | zero =>
        rw [← Option.some.inj hy]
        simp
        omega
      | succ i =>
        rw [hrest i y hy]
        omega
    | some a =>
      have hn : n = 0 := by
        have := (hx 0 (some a) rfl).mp rfl
        omega
      subst hn
      cases zs with
      | nil => simp at hlen
      | cons z zs =>
        -- Every later entry is defined, and takes a result each.
        have hrest := ih hx.tail hz.tail (by simpa using hlen)
        intro i y hy
        cases i with
        | zero =>
          rw [← Option.some.inj hy, hz 0 z rfl, Nat.zero_add]
        | succ i =>
          rw [hrest i y hy]
          omega

end DefinedFrom

end Column
