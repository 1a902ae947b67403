import Quantora.Framework.Held
import Quantora.Strategy.Signals

/-! # Rows and the events they come from

    * `direction_iff` — a row has a direction other than flat exactly when the
      last event at or before its bar decided that direction.
    * `forall_rows_iff` — a law of the rows with one direction is a law of the
      entries that hold it. -/

namespace Quantora

open Column

/-! ## Directions -/

section Held

variable {φ : Type} {event : φ → Option SignalDirection} {reason : Bool → φ → String}
  {columns : φ → List (String × Cell)} {facts : List φ} {i : ℕ} {d : SignalDirection}

theorem length_changed (directions : List SignalDirection) :
    (changed directions).length = directions.length := by
  rw [changed, List.length_zipWith, Causal.shift.length, Nat.min_self]

/-- What is said about a bar: the held event, and the facts of the bar itself. -/
theorem exists_held_signal {f : φ} (hf : facts[i]? = some f) :
    ∃ e c, (held event facts)[i]? = some e ∧
      (held_signals event reason columns facts)[i]?
        = some ⟨e.getD .FLAT, reason c f, columns f⟩ := by
  have hlen : i < facts.length := (List.getElem?_eq_some_iff.mp hf).1
  have hheld : i < (held event facts).length := by rwa [length_held]
  have hhold : (hold (facts.map event))[i]? = some ((held event facts)[i].getD .FLAT) := by
    unfold hold
    rw [List.getElem?_map]
    exact congrArg _ (List.getElem?_eq_getElem hheld)
  have hchanged : i < (changed (hold (facts.map event))).length := by
    rwa [length_changed, hold, List.length_map, Causal.ffill.length, List.length_map]
  refine ⟨(held event facts)[i], (changed (hold (facts.map event)))[i],
    List.getElem?_eq_getElem hheld, ?_⟩
  refine List.getElem?_zipWith_eq_some.mpr
    ⟨((held event facts)[i].getD .FLAT, (changed (hold (facts.map event)))[i]), f, ?_, hf, rfl⟩
  exact List.getElem?_zip_eq_some.mpr ⟨hhold, List.getElem?_eq_getElem hchanged⟩

theorem of_held_signal {s : BarSignal}
    (hs : (held_signals event reason columns facts)[i]? = some s) :
    ∃ f e c, facts[i]? = some f ∧ (held event facts)[i]? = some e ∧
      s = ⟨e.getD .FLAT, reason c f, columns f⟩ := by
  have hlen : i < facts.length := by
    have hlen := (causal_held_signals event reason columns).length facts
    rw [← hlen]
    exact (List.getElem?_eq_some_iff.mp hs).1
  obtain ⟨e, c, he, hs'⟩ : ∃ e c, (held event facts)[i]? = some e ∧
      (held_signals event reason columns facts)[i]?
        = some ⟨e.getD .FLAT, reason c facts[i], columns facts[i]⟩ :=
    exists_held_signal (List.getElem?_eq_getElem hlen)
  exact ⟨facts[i], e, c, List.getElem?_eq_getElem hlen, he, Option.some.inj (hs ▸ hs')⟩

/-- Flat is the default, every other direction is held. -/
theorem direction_iff {s : BarSignal} (hd : d ≠ .FLAT)
    (hs : (held_signals event reason columns facts)[i]? = some s) :
    s.direction = d ↔ (held event facts)[i]? = some (some d) := by
  obtain ⟨f, e, c, hf, he, rfl⟩ := of_held_signal hs
  rw [he]
  cases e with
  | none => simpa using hd.symm
  | some e => simp

end Held

/-! ## Rows -/

section Rows

variable {bars : List Bar} {signals : List BarSignal} {i : ℕ}

theorem of_row {row : SignalRow} (hrow : (List.zipWith BarSignal.row bars signals)[i]? = some row) :
    ∃ bar s, bars[i]? = some bar ∧ signals[i]? = some s ∧ row = s.row bar := by
  obtain ⟨bar, s, hbar, hs, rfl⟩ := List.getElem?_zipWith_eq_some.mp hrow
  exact ⟨bar, s, hbar, hs, rfl⟩

theorem exists_row {bar : Bar} {s : BarSignal} (hbar : bars[i]? = some bar)
    (hs : signals[i]? = some s) :
    (List.zipWith BarSignal.row bars signals)[i]? = some (s.row bar) :=
  List.getElem?_zipWith_eq_some.mpr ⟨bar, s, hbar, hs, rfl⟩

end Rows

/-- The rows of held signals with direction `d` satisfy a law exactly when the
    entries that hold `d` do. -/
theorem forall_rows_iff {φ : Type} {event : φ → Option SignalDirection}
    {reason : Bool → φ → String} {columns : φ → List (String × Cell)} {facts : List φ}
    {bars : List Bar} (h : facts.length = bars.length) {d : SignalDirection} (hd : d ≠ .FLAT)
    (Good : φ → Prop) :
    (∀ (i : ℕ) row f, (List.zipWith BarSignal.row bars
        (held_signals event reason columns facts))[i]? = some row →
        facts[i]? = some f → row.direction = d → Good f) ↔
      ∀ (i : ℕ) f, facts[i]? = some f → (held event facts)[i]? = some (some d) → Good f := by
  constructor
  · intro hrows i f hf hheld
    obtain ⟨e, c, he, hs⟩ : ∃ e c, (held event facts)[i]? = some e ∧
        (held_signals event reason columns facts)[i]?
          = some ⟨e.getD .FLAT, reason c f, columns f⟩ := exists_held_signal hf
    -- There are as many rows as bars.
    have hlen : i < bars.length := by
      rw [← h]
      exact (List.getElem?_eq_some_iff.mp hf).1
    exact hrows i _ f (exists_row (List.getElem?_eq_getElem hlen) hs) hf
      ((direction_iff hd hs).mpr hheld)
  · intro hheld i row f hrow hf hdirection
    obtain ⟨bar, s, -, hs, rfl⟩ := of_row hrow
    exact hheld i f hf ((direction_iff hd hs).mp hdirection)

end Quantora
