import Mathlib.Tactic.Common

/-! # The first best item

    One pass over a list that keeps the best item so far and lets a later item
    replace it only by beating it.

    * `Champion.champion` — the item that is kept at the end.
    * `champion_first` — nothing beats it, and it beats everything before it, for
      a relation that is a strict weak order on the items. -/

namespace Champion

variable {α : Type*} (beats : α → α → Bool)

/-- The better of the best so far and a later item. -/
def challenge (best item : α) : α := if beats item best then item else best

/-- The first best item, if there is an item. -/
def champion : List α → Option α
  | [] => none
  | first :: rest => some (rest.foldl (challenge beats) first)

/-- A strict weak order on the items of a list. -/
structure StrictWeak (items : List α) : Prop where
  asymm : ∀ a ∈ items, ∀ b ∈ items, beats a b = true → beats b a = false
  /-- Whatever lies between is beaten by one or beats the other. -/
  between : ∀ a ∈ items, ∀ b ∈ items, ∀ c ∈ items, beats a c = true →
    beats a b = true ∨ beats b c = true

/-- The item in its place: everything before it is beaten, nothing beats it. -/
def First (items : List α) (best : α) : Prop :=
  ∃ before after, items = before ++ best :: after ∧
    (∀ item ∈ before, beats best item = true) ∧ ∀ item ∈ items, beats item best = false

variable {beats}

theorem champion_eq_none {items : List α} : champion beats items = none ↔ items = [] := by
  cases items <;> simp [champion]

theorem StrictWeak.irrefl {items : List α} (h : StrictWeak beats items) {a : α} (ha : a ∈ items) :
    beats a a = false := by
  cases hself : beats a a with
  | false => rfl
  | true => exact hself.symm.trans (h.asymm a ha a ha hself)

/-- One more item. -/
theorem First.challenge {items : List α} {best item : α} (h : First beats items best)
    (horder : StrictWeak beats (items ++ [item])) :
    First beats (items ++ [item]) (challenge beats best item) := by
  obtain ⟨before, after, rfl, hbefore, hnone⟩ := h
  have hbest : best ∈ before ++ best :: after := by simp
  have hmem : ∀ x ∈ before ++ best :: after, x ∈ before ++ best :: after ++ [item] := by
    intro x hx
    exact List.mem_append_left _ hx
  have hitem : item ∈ before ++ best :: after ++ [item] := by simp
  unfold Champion.challenge
  split_ifs with hbeats
  · -- What the old best was not beaten by, the new one beats.
    have hall : ∀ x ∈ before ++ best :: after, beats item x = true := by
      intro x hx
      rcases horder.between item hitem x (hmem x hx) best (hmem best hbest) hbeats with h | h
      · exact h
      · rw [hnone x hx] at h
        cases h
    refine ⟨before ++ best :: after, [], rfl, hall, fun x hx => ?_⟩
    rcases List.mem_append.mp hx with hx | hx
    · exact horder.asymm item hitem x (hmem x hx) (hall x hx)
    · obtain rfl := List.mem_singleton.mp hx
      exact horder.irrefl hitem
  · refine ⟨before, after ++ [item], by simp, hbefore, fun x hx => ?_⟩
    rcases List.mem_append.mp hx with hx | hx
    · exact hnone x hx
    · obtain rfl := List.mem_singleton.mp hx
      simpa using hbeats

/-- The champion stands in its place. Induction over the items that follow the
    ones already seen. -/
theorem first_foldl {seen rest : List α} {best : α} (h : First beats seen best)
    (horder : StrictWeak beats (seen ++ rest)) :
    First beats (seen ++ rest) (rest.foldl (challenge beats) best) := by
  induction rest generalizing seen best with
  | nil => simpa using h
  | cons item rest ih =>
    rw [List.append_cons] at horder ⊢
    refine ih (h.challenge ⟨fun a ha b hb => ?_, fun a ha b hb c hc => ?_⟩) horder
    · exact horder.asymm a (List.mem_append_left _ ha) b (List.mem_append_left _ hb)
    · exact horder.between a (List.mem_append_left _ ha) b (List.mem_append_left _ hb) c
        (List.mem_append_left _ hc)

theorem champion_first {items : List α} {best : α} (horder : StrictWeak beats items)
    (h : champion beats items = some best) : First beats items best := by
  cases items with
  | nil => cases h
  | cons first rest =>
    obtain rfl := Option.some.inj h
    have hself : beats first first = false := horder.irrefl List.mem_cons_self
    have hstart : First beats [first] first := ⟨[], [], rfl, by simp, by simpa using hself⟩
    exact first_foldl hstart horder

end Champion
