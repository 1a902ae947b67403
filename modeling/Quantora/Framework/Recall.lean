import Quantora.Framework.Keyed

/-! # Remembered answers

    A source may answer the same question differently each time it is asked. A
    memo in front of it asks once and repeats the answer.

    * `Memo.ask` — the kept answer, or that of the source. A failure is not kept.
    * `Memo.Sound` — every kept answer is one that the source gave.
    * `Memo.Keeps` — what was kept stays kept.
    * `Memo.Sound.exists_moments` — all that a memo ever answered, the source
      answered at one moment for each question.
-/

namespace Recall

variable {κ ρ ε : Type}

/-- The questions that went to the source so far, and the answers that are kept. -/
structure Memo (κ ρ : Type) where
  calls : ℕ := 0
  kept : Keyed (Prod.fst : κ × ρ → κ) := ∅

namespace Memo

variable [DecidableEq κ]

/-- The answer that is kept for a question. -/
def answer (m : Memo κ ρ) (k : κ) : Option ρ := (m.kept.get? k).map Prod.snd

/-- Ask, unless the answer is kept. -/
def ask (source : ℕ → κ → Except ε ρ) (k : κ) (m : Memo κ ρ) : Except ε ρ × Memo κ ρ :=
  match m.answer k with
  | some r => (.ok r, m)
  | none =>
    match source m.calls k with
    | .error e => (.error e, { m with calls := m.calls + 1 })
    | .ok r => (.ok r, { calls := m.calls + 1, kept := m.kept.upsert (k, r) })

/-- Every kept answer is one that the source gave. -/
def Sound (source : ℕ → κ → Except ε ρ) (m : Memo κ ρ) : Prop :=
  ∀ k r, m.answer k = some r → ∃ n < m.calls, source n k = .ok r

/-- What the first memo keeps, the second keeps too. -/
structure Keeps (m m' : Memo κ ρ) : Prop where
  calls : m.calls ≤ m'.calls
  answers : ∀ k r, m.answer k = some r → m'.answer k = some r

/-- The source always gives the same answer. -/
def Steady (source : ℕ → κ → Except ε ρ) : Prop := ∀ n k, source n k = source 0 k

@[simp] theorem answer_empty (calls : ℕ) (k : κ) :
    ({ calls := calls } : Memo κ ρ).answer k = none := rfl

theorem answer_upsert (m : Memo κ ρ) (calls : ℕ) (k k' : κ) (r : ρ) :
    ({ calls := calls, kept := m.kept.upsert (k, r) } : Memo κ ρ).answer k'
      = if k' = k then some r else m.answer k' := by
  unfold answer
  split_ifs with hk
  · subst hk
    rw [Keyed.get?_upsert_self]
    rfl
  · rw [Keyed.get?_upsert_of_ne _ hk]

section Rules

variable {source : ℕ → κ → Except ε ρ} {k : κ} {m m' : Memo κ ρ} {r : ρ}

theorem Keeps.refl (m : Memo κ ρ) : Keeps m m := ⟨Nat.le_refl _, fun _ _ h => h⟩

theorem Keeps.trans {m'' : Memo κ ρ} (h : Keeps m m') (h' : Keeps m' m'') : Keeps m m'' :=
  ⟨Nat.le_trans h.calls h'.calls, fun k r hr => h'.answers k r (h.answers k r hr)⟩

theorem sound_empty (source : ℕ → κ → Except ε ρ) (calls : ℕ) :
    Sound source ({ calls := calls } : Memo κ ρ) := fun _ _ h => nomatch h

/-- What one question does to a memo: nothing, a call that failed, or a call
    whose answer is kept. -/
theorem ask_cases (source : ℕ → κ → Except ε ρ) (k : κ) (m : Memo κ ρ) :
    (∃ r, m.answer k = some r ∧ m.ask source k = (.ok r, m)) ∨
    (∃ e, m.answer k = none ∧ source m.calls k = .error e ∧
      m.ask source k = (.error e, { m with calls := m.calls + 1 })) ∨
    (∃ r, m.answer k = none ∧ source m.calls k = .ok r ∧
      m.ask source k = (.ok r, { calls := m.calls + 1, kept := m.kept.upsert (k, r) })) := by
  unfold ask
  cases hkept : m.answer k with
  | some r => exact .inl ⟨r, rfl, rfl⟩
  | none =>
    cases hsource : source m.calls k with
    | error e => exact .inr (.inl ⟨e, rfl, rfl, rfl⟩)
    | ok r => exact .inr (.inr ⟨r, rfl, rfl, rfl⟩)

/-- An answer that was given is kept. -/
theorem answer_of_ask (h : m.ask source k = (.ok r, m')) : m'.answer k = some r := by
  rcases ask_cases source k m with ⟨r', hkept, hask⟩ | ⟨e, -, -, hask⟩ | ⟨r', -, -, hask⟩ <;>
    rw [hask] at h <;> cases h
  · exact hkept
  · rw [answer_upsert, if_pos rfl]

theorem keeps_ask (source : ℕ → κ → Except ε ρ) (k : κ) (m : Memo κ ρ) :
    Keeps m (m.ask source k).2 := by
  rcases ask_cases source k m with ⟨r, -, hask⟩ | ⟨e, -, -, hask⟩ | ⟨r, hnone, -, hask⟩ <;>
    rw [hask]
  · exact .refl m
  · exact ⟨Nat.le_succ _, fun _ _ h => h⟩
  · refine ⟨Nat.le_succ _, fun k' r' h' => ?_⟩
    rw [answer_upsert, if_neg ?_]
    · exact h'
    · rintro rfl
      rw [hnone] at h'
      cases h'

/-- One question goes to the source once at most. -/
theorem calls_ask (source : ℕ → κ → Except ε ρ) (k : κ) (m : Memo κ ρ) :
    (m.ask source k).2.calls ≤ m.calls + 1 := by
  rcases ask_cases source k m with ⟨r, -, hask⟩ | ⟨e, -, -, hask⟩ | ⟨r, -, -, hask⟩
  · exact hask ▸ Nat.le_succ _
  · exact hask ▸ Nat.le_refl _
  · exact hask ▸ Nat.le_refl _

theorem Sound.ask (h : Sound source m) (k : κ) : Sound source (m.ask source k).2 := by
  rcases ask_cases source k m with ⟨r, -, hask⟩ | ⟨e, -, -, hask⟩ | ⟨r, -, hsource, hask⟩ <;>
    rw [hask]
  · exact h
  · intro k' r' h'
    obtain ⟨n, hn, hn'⟩ := h k' r' h'
    exact ⟨n, Nat.lt_succ_of_lt hn, hn'⟩
  · intro k' r' h'
    rw [answer_upsert] at h'
    split_ifs at h' with hk
    · subst hk
      obtain rfl := Option.some.inj h'
      exact ⟨m.calls, Nat.lt_succ_self _, hsource⟩
    · obtain ⟨n, hn, hn'⟩ := h k' r' h'
      exact ⟨n, Nat.lt_succ_of_lt hn, hn'⟩

/-- One moment for each question, at which the source gave the answer that is
    kept. -/
theorem Sound.exists_moments (h : Sound source m) :
    ∃ moment : κ → ℕ, ∀ k r, m.answer k = some r →
      moment k < m.calls ∧ source (moment k) k = .ok r := by
  have hmoment : ∀ k, ∃ n, ∀ r, m.answer k = some r → n < m.calls ∧ source n k = .ok r := by
    intro k
    cases hkept : m.answer k with
    | none => exact ⟨0, fun r hr => nomatch hr⟩
    | some r =>
      obtain ⟨n, hn, hsource⟩ := h k r hkept
      refine ⟨n, fun r' hr' => ?_⟩
      obtain rfl := Option.some.inj hr'
      exact ⟨hn, hsource⟩
  choose moment hmoment using hmoment
  exact ⟨moment, hmoment⟩

/-- In front of a steady source a memo changes no answer. -/
theorem ask_of_steady (hsteady : Steady source) (h : Sound source m) (k : κ) :
    (m.ask source k).1 = source 0 k := by
  rcases ask_cases source k m with ⟨r, hkept, hask⟩ | ⟨e, -, hsource, hask⟩ | ⟨r, -, hsource, hask⟩
  · obtain ⟨n, -, hn⟩ := h k r hkept
    rw [hask, ← hsteady n k, hn]
  · rw [hask, ← hsteady m.calls k, hsource]
  · rw [hask, ← hsteady m.calls k, hsource]

end Rules

end Memo

end Recall
