import Mathlib.Data.List.Nodup
import Quantora.Framework.Register
import Quantora.Framework.Requests

/-! # Requests that keep a register

    A service whose requests insert rows under keys of their own, read rows and
    erase rows, and never change one. However its requests interleave, its store
    is a write-once register, as long as no two requests draw one key.

    * `Bookkeeping` — what a process may write, has written and has erased.
    * `Refines` — the store and the requests are those of a register.
    * `Refines.quiet`, `Refines.write`, `Refines.retain`, `Refines.arrive` — the
      four kinds of steps.
    * `exists_register` — every reachable state has its register. -/

namespace Requests

/-- What the processes of a service do to the rows of its store. -/
structure Bookkeeping (D P Q M κ ρ : Type) where
  /-- The row that the store holds under a key. -/
  get : D → κ → Option ρ
  /-- The key that a request draws when it arrives. -/
  draws : Q → Option κ
  /-- The key that a process may still write under. -/
  pending : P → Option κ
  /-- The process has written the row under the key. -/
  wrote : P → κ → ρ → Prop
  /-- The process has erased the row under the key. -/
  erased : P → κ → ρ → Prop
  /-- The rest of the store is sound, after the actions so far. -/
  sound : List (Action Q M) → D → Prop
  /-- The register accounts for what a process holds. -/
  backed : List (Action Q M) → Register κ ρ → P → Prop
  sound_mono : ∀ before a s, sound before s → sound (before ++ [a]) s
  backed_mono : ∀ before a L L' p, backed before L p → L.Precedes L' →
    backed (before ++ [a]) L' p

variable {D P Q M κ ρ : Type}

namespace Bookkeeping

variable (b : Bookkeeping D P Q M κ ρ)

/-- The keys that were drawn so far. -/
def drawn (actions : List (Action Q M)) : List κ :=
  actions.filterMap fun
    | .arrive _ q => b.draws q
    | .move _ _ => none

/-- The process writes under the key, or wrote under it. -/
def Owns (p : P) (k : κ) : Prop := b.pending p = some k ∨ ∃ row, b.wrote p k row

/-- The process has written nothing and erased nothing. -/
structure Idle (p : P) : Prop where
  wrote : ∀ k row, ¬ b.wrote p k row
  erased : ∀ k row, ¬ b.erased p k row

variable {b}

theorem Idle.pending {p : P} {k : κ} (h : b.Idle p) (howns : b.Owns p k) :
    b.pending p = some k :=
  howns.resolve_right fun ⟨row, hwrote⟩ => h.wrote k row hwrote

theorem drawn_subset {before : List (Action Q M)} {a : Action Q M} :
    b.drawn before ⊆ b.drawn (before ++ [a]) := by
  rw [drawn, drawn, List.filterMap_append]
  exact List.subset_append_left _ _

/-- A key that arrives is drawn now, and was not drawn before. -/
theorem fresh_of_nodup {before : List (Action Q M)} {r : ℕ} {q : Q} {k : κ}
    (hfresh : (b.drawn (before ++ [.arrive r q])).Nodup) (hdraws : b.draws q = some k) :
    k ∈ b.drawn (before ++ [.arrive r q]) ∧ k ∉ b.drawn before := by
  have hnow : b.drawn (before ++ [.arrive r q]) = b.drawn before ++ [k] := by
    simp [drawn, hdraws]
  rw [hnow] at hfresh ⊢
  exact ⟨List.mem_append_right _ (List.mem_singleton_self k), fun hbefore =>
    List.disjoint_of_nodup_append hfresh hbefore (List.mem_singleton_self k)⟩

end Bookkeeping

/-- **Refinement**: the store is the register, and the requests know of it what
    they may. -/
structure Refines (b : Bookkeeping D P Q M κ ρ) (before : List (Action Q M)) (w : World D P)
    (L : Register κ ρ) : Prop where
  rows : ∀ k, b.get w.store k = (L k).value
  sound : b.sound before w.store
  backed : ∀ r p, w.requests r = some p → b.backed before L p
  /-- What a process wrote is what was written. -/
  written : ∀ r p k row, w.requests r = some p → b.wrote p k row → (L k).written = some row
  /-- What was written, a process wrote. -/
  writer : ∀ k row, (L k).written = some row → ∃ r p, w.requests r = some p ∧ b.wrote p k row
  /-- What was erased, a process erased. -/
  eraser : ∀ k row, L k = .erased row → ∃ r p, w.requests r = some p ∧ b.erased p k row
  /-- Who owns a key has drawn it. -/
  owned : ∀ r p k, w.requests r = some p → b.Owns p k → k ∈ b.drawn before
  /-- A key has one owner. -/
  owner : ∀ r r' p p' k, w.requests r = some p → w.requests r' = some p' → b.Owns p k →
    b.Owns p' k → r = r'
  /-- Nothing is written yet under a key that a process may still write under. -/
  new : ∀ r p k, w.requests r = some p → b.pending p = some k → L k = .unwritten

section Steps

variable {b : Bookkeeping D P Q M κ ρ} {before : List (Action Q M)} {a : Action Q M}
  {w : World D P} {s' : D} {p p' : P} {L L' : Register κ ρ} {r : ℕ}

/-- **Step rule**: one process moves, and the register with it. -/
theorem Refines.put (h : Refines b before w L) (hlater : L.Precedes L')
    (hidle : ∀ p, w.requests r = some p → b.Idle p)
    (hrows : ∀ k, b.get s' k = (L' k).value) (hsound : b.sound (before ++ [a]) s')
    (hbacked : b.backed (before ++ [a]) L' p')
    (hwritten : ∀ k row, b.wrote p' k row → (L' k).written = some row)
    (hwriter : ∀ k row, (L' k).written = some row → (L k).written = some row ∨ b.wrote p' k row)
    (heraser : ∀ k row, L' k = .erased row → L k = .erased row ∨ b.erased p' k row)
    (howned : ∀ k, b.Owns p' k → k ∈ b.drawn (before ++ [a]) ∧
      ∀ r' other, r' ≠ r → w.requests r' = some other → ¬ b.Owns other k)
    (hnew : ∀ k, b.pending p' = some k → L' k = .unwritten)
    (hothers : ∀ r' other k, r' ≠ r → w.requests r' = some other → b.pending other = some k →
      L' k = .unwritten) :
    Refines b (before ++ [a]) (w.put s' r p') L' := by
  -- Every process is the one that moved, or one that was there.
  have hplace : ∀ r' other, (w.put s' r p').requests r' = some other →
      (r' = r ∧ other = p') ∨ (r' ≠ r ∧ w.requests r' = some other) := by
    intro r' other hr'
    by_cases hr : r' = r
    · subst hr
      rw [World.put_self] at hr'
      exact .inl ⟨rfl, (Option.some.inj hr').symm⟩
    · rw [World.put_of_ne _ _ _ hr] at hr'
      exact .inr ⟨hr, hr'⟩
  have hkept : ∀ r' other, w.requests r' = some other → ¬ b.Idle other →
      (w.put s' r p').requests r' = some other := by
    intro r' other hr' hactive
    rw [World.put_of_ne, hr']
    rintro rfl
    exact hactive (hidle other hr')
  refine ⟨hrows, hsound, ?_, ?_, ?_, ?_, ?_, ?_, ?_⟩
  · intro r' other hr'
    rcases hplace r' other hr' with ⟨rfl, rfl⟩ | ⟨-, hr'⟩
    · exact hbacked
    · exact b.backed_mono _ _ _ _ _ (h.backed r' other hr') hlater
  · intro r' other k row hr' hwrote
    rcases hplace r' other hr' with ⟨rfl, rfl⟩ | ⟨-, hr'⟩
    · exact hwritten k row hwrote
    · exact (hlater k).written_eq (h.written r' other k row hr' hwrote)
  · intro k row hrow
    rcases hwriter k row hrow with hbefore | hnow
    · obtain ⟨r', other, hr', hwrote⟩ := h.writer k row hbefore
      exact ⟨r', other, hkept r' other hr' (fun hnone => hnone.wrote k row hwrote), hwrote⟩
    · exact ⟨r, p', World.put_self .., hnow⟩
  · intro k row hrow
    rcases heraser k row hrow with hbefore | hnow
    · obtain ⟨r', other, hr', herased⟩ := h.eraser k row hbefore
      exact ⟨r', other, hkept r' other hr' (fun hnone => hnone.erased k row herased), herased⟩
    · exact ⟨r, p', World.put_self .., hnow⟩
  · intro r' other k hr' howns
    rcases hplace r' other hr' with ⟨rfl, rfl⟩ | ⟨-, hr'⟩
    · exact (howned k howns).1
    · exact b.drawn_subset (h.owned r' other k hr' howns)
  · intro r₁ r₂ p₁ p₂ k h₁ h₂ howns₁ howns₂
    rcases hplace r₁ p₁ h₁ with ⟨hr₁, hp₁⟩ | ⟨hne₁, hat₁⟩ <;>
      rcases hplace r₂ p₂ h₂ with ⟨hr₂, hp₂⟩ | ⟨hne₂, hat₂⟩
    · rw [hr₁, hr₂]
    · exact absurd howns₂ ((howned k (hp₁ ▸ howns₁)).2 r₂ p₂ hne₂ hat₂)
    · exact absurd howns₁ ((howned k (hp₂ ▸ howns₂)).2 r₁ p₁ hne₁ hat₁)
    · exact h.owner r₁ r₂ p₁ p₂ k hat₁ hat₂ howns₁ howns₂
  · intro r' other k hr' hpending
    rcases hplace r' other hr' with ⟨rfl, rfl⟩ | ⟨hne, hr'⟩
    · exact hnew k hpending
    · exact hothers r' other k hne hr' hpending

theorem Refines.idle_of (hr : w.requests r = some p) (hidle : b.Idle p) :
    ∀ p, w.requests r = some p → b.Idle p := by
  intro other hother
  rw [hr] at hother
  exact Option.some.inj hother ▸ hidle

/-- A move that leaves the rows alone, and writes under no other key. -/
theorem Refines.quiet (h : Refines b before w L) (hr : w.requests r = some p) (hidle : b.Idle p)
    (hget : ∀ k, b.get s' k = b.get w.store k) (hsound : b.sound (before ++ [a]) s')
    (hbacked : b.backed (before ++ [a]) L p') (hwrote : ∀ k row, ¬ b.wrote p' k row)
    (hpending : ∀ k, b.pending p' = some k → b.pending p = some k) :
    Refines b (before ++ [a]) (w.put s' r p') L := by
  have howns : ∀ k, b.Owns p' k → b.Owns p k := fun k howns =>
    .inl (hpending k (howns.resolve_right fun ⟨row, h⟩ => hwrote k row h))
  refine h.put (.refl L) (Refines.idle_of hr hidle) (fun k => by rw [hget, h.rows]) hsound hbacked
    (fun k row h => absurd h (hwrote k row)) (fun _ _ hrow => .inl hrow) (fun _ _ hrow => .inl hrow)
    (fun k hown => ⟨b.drawn_subset (h.owned r p k hr (howns k hown)), ?_⟩)
    (fun k hk => h.new r p k hr (hpending k hk))
    (fun r' other k _ hr' hk => h.new r' other k hr' hk)
  intro r' other hne hr' hother
  exact hne (h.owner r' r other p k hr' hr hother (howns k hown))

/-- A move that erases rows. -/
theorem Refines.retain (h : Refines b before w L) (hr : w.requests r = some p)
    (hidle : b.Idle p) (keep : κ → Bool)
    (hget : ∀ k, b.get s' k = if keep k then b.get w.store k else none)
    (hsound : b.sound (before ++ [a]) s') (hbacked : b.backed (before ++ [a]) (L.retain keep) p')
    (hwrote : ∀ k row, ¬ b.wrote p' k row) (hpending : b.pending p' = none)
    (herased : ∀ k row, keep k = false → b.get w.store k = some row → b.erased p' k row) :
    Refines b (before ++ [a]) (w.put s' r p') (L.retain keep) := by
  have hnone : ∀ k, ¬ b.Owns p' k := by
    rintro k (hk | ⟨row, hrow⟩)
    · rw [hpending] at hk
      cases hk
    · exact hwrote k row hrow
  refine h.put (L.precedes_retain keep) (Refines.idle_of hr hidle) (fun k => ?_) hsound hbacked
    (fun k row h => absurd h (hwrote k row)) (fun k row hrow => .inl (by simpa using hrow))
    (fun k row hrow => ?_) (fun k hown => absurd hown (hnone k))
    (fun k hk => by rw [hpending] at hk; cases hk) (fun r' other k _ hr' hk => ?_)
  · rw [hget, h.rows, Register.value_retain]
  · unfold Register.retain at hrow
    split_ifs at hrow with hkeep
    · exact .inl hrow
    · rcases Lifetime.value_or_erased hrow with hlive | hbefore
      · exact .inr (herased k row (by simpa using hkeep) (by rw [h.rows, hlive]))
      · exact .inl hbefore
  · have hunwritten := h.new r' other k hr' hk
    unfold Register.retain
    rw [hunwritten]
    split_ifs <;> rfl

variable [DecidableEq κ]

/-- A move that writes the row of a process under its key. -/
theorem Refines.write (h : Refines b before w L) (hr : w.requests r = some p) (hidle : b.Idle p)
    {k : κ} {row : ρ} (hpending : b.pending p = some k)
    (hget : ∀ k', b.get s' k' = if k' = k then some row else b.get w.store k')
    (hsound : b.sound (before ++ [a]) s') (hbacked : b.backed (before ++ [a]) (L.write k row) p')
    (hwrote : ∀ k' row', b.wrote p' k' row' ↔ k' = k ∧ row' = row) (hnone : b.pending p' = none) :
    Refines b (before ++ [a]) (w.put s' r p') (L.write k row) := by
  have howns : b.Owns p k := .inl hpending
  have hother : ∀ r' other, r' ≠ r → w.requests r' = some other → ¬ b.Owns other k :=
    fun r' other hne hr' hother => hne (h.owner r' r other p k hr' hr hother howns)
  have hmine : ∀ k', b.Owns p' k' → k' = k := by
    rintro k' (hk | ⟨row', hrow⟩)
    · rw [hnone] at hk
      cases hk
    · exact ((hwrote k' row').mp hrow).1
  refine h.put (Register.precedes_write (h.new r p k hr hpending)) (Refines.idle_of hr hidle)
    (fun k' => ?_) hsound hbacked (fun k' row' hrow => ?_) (fun k' row' hrow => ?_)
    (fun k' row' hrow => ?_) (fun k' hown => ?_)
    (fun k' hk => by rw [hnone] at hk; cases hk) (fun r' other k' hne hr' hk => ?_)
  · rw [hget]
    split_ifs with hk
    · rw [hk, Register.write_self]
      rfl
    · rw [Register.write_of_ne hk, h.rows]
  · obtain ⟨rfl, rfl⟩ := (hwrote k' row').mp hrow
    rw [Register.write_self]
    rfl
  · by_cases hk : k' = k
    · rw [hk, Register.write_self] at hrow
      exact .inr ((hwrote k' row').mpr ⟨hk, (Option.some.inj hrow).symm⟩)
    · rw [Register.write_of_ne hk] at hrow
      exact .inl hrow
  · by_cases hk : k' = k
    · rw [hk, Register.write_self] at hrow
      cases hrow
    · rw [Register.write_of_ne hk] at hrow
      exact .inl hrow
  · obtain rfl := hmine k' hown
    exact ⟨b.drawn_subset (h.owned r p k' hr howns), hother⟩
  · rw [Register.write_of_ne ?_]
    · exact h.new r' other k' hr' hk
    · rintro rfl
      exact hother r' other hne hr' (.inl hk)

omit [DecidableEq κ] in
/-- One request more, with a key that is new if it has one. -/
theorem Refines.arrive (h : Refines b before w L) (hr : w.requests r = none) {q : Q}
    (hidle : b.Idle p') (hbacked : b.backed (before ++ [.arrive r q]) L p')
    (hpending : ∀ k, b.pending p' = some k → b.draws q = some k)
    (hfresh : (b.drawn (before ++ [.arrive r q])).Nodup) :
    Refines b (before ++ [.arrive r q]) (w.put w.store r p') L := by
  have hkey : ∀ k, b.Owns p' k →
      k ∈ b.drawn (before ++ [.arrive r q]) ∧ k ∉ b.drawn before := fun k hown =>
    Bookkeeping.fresh_of_nodup hfresh (hpending k (hidle.pending hown))
  refine h.put (.refl L) (fun other hother => by rw [hr] at hother; cases hother) h.rows
    (b.sound_mono _ _ _ h.sound) hbacked (fun k row hrow => absurd hrow (hidle.wrote k row))
    (fun _ _ hrow => .inl hrow) (fun _ _ hrow => .inl hrow)
    (fun k hown => ⟨(hkey k hown).1, fun r' other _ hr' hother => ?_⟩) (fun k hk => ?_)
    (fun r' other k _ hr' hk => h.new r' other k hr' hk)
  · exact (hkey k hown).2 (h.owned r' other k hr' hother)
  · cases hcell : L k with
    | unwritten => rfl
    | live row | erased row =>
      obtain ⟨r', other, hr', hwrote⟩ := h.writer k row (by rw [hcell]; rfl)
      exact absurd (h.owned r' other k hr' (.inr ⟨row, hwrote⟩)) (hkey k (.inl hk)).2

end Steps

section Run

variable {b : Bookkeeping D P Q M κ ρ} {service : Service D P Q M}
  {actions : List (Action Q M)} {w0 w : World D P}

/-- Before anything arrives the register is blank. -/
theorem refines_blank {s : D} (hget : ∀ k, b.get s k = none) (hsound : b.sound [] s) :
    Refines b [] ⟨s, fun _ => none⟩ Register.blank where
  rows := hget
  sound := hsound
  backed _ _ h := nomatch h
  written _ _ _ _ h := nomatch h
  writer _ _ h := nomatch h
  eraser _ _ h := nomatch h
  owned _ _ _ h := nomatch h
  owner _ _ _ _ _ h := nomatch h
  new _ _ _ h := nomatch h

/-- **Run rule**: in every reachable state the requests keep a register, when no
    two of them draw one key. -/
theorem exists_register (h0 : ∃ L, Refines b [] w0 L)
    (hidle : ∀ q, b.Idle (service.start q))
    (hbacked : ∀ before L q, b.backed before L (service.start q))
    (hpending : ∀ q k, b.pending (service.start q) = some k → b.draws q = some k)
    (hmove : ∀ before w L r m p s' p', Refines b before w L → w.requests r = some p →
      service.move m w.store p = some (s', p') →
      ∃ L', Refines b (before ++ [.move r m]) (w.put s' r p') L')
    (hfresh : (b.drawn actions).Nodup) (hvisits : Runs.Visits (step service) w0 actions w) :
    ∃ before L, before <+: actions ∧ Refines b before w L := by
  have harrive : ∀ before r q w, before ++ [.arrive r q] <+: actions →
      (∃ L, Refines b before w L) → w.requests r = none →
      ∃ L, Refines b (before ++ [.arrive r q]) (w.put w.store r (service.start q)) L := by
    rintro before r q w hsofar ⟨L, h⟩ hr
    have hdrawn : (b.drawn (before ++ [.arrive r q])).Nodup :=
      ((hsofar.filterMap _).sublist).nodup hfresh
    exact ⟨L, h.arrive hr (hidle q) (hbacked _ L q) (hpending q) hdrawn⟩
  obtain ⟨before, hsofar, L, hrefines⟩ := exists_history
    (fun before w => ∃ L, Refines b before w L) h0 harrive
    (fun before r m w p s' p' _ ⟨L, h⟩ hr hnext => hmove before w L r m p s' p' h hr hnext)
    hvisits
  exact ⟨before, L, hsofar, hrefines⟩

/-- A row that was written is there, unless a process erased it. -/
theorem Refines.stored {before : List (Action Q M)} {L : Register κ ρ} (h : Refines b before w L)
    {r : ℕ} {p : P} {k : κ} {row : ρ} (hr : w.requests r = some p) (hwrote : b.wrote p k row) :
    b.get w.store k = some row ∨ ∃ r' p', w.requests r' = some p' ∧ b.erased p' k row := by
  rcases Lifetime.live_or_erased (h.written r p k row hr hwrote) with hlive | herased
  · exact .inl (by rw [h.rows, hlive])
  · exact .inr (h.eraser k row herased)

end Run

end Requests
