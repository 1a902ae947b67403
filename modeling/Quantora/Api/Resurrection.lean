import Quantora.Api.PortfolioService

/-! # Deleted portfolios stay deleted

    `Update` reads a portfolio and writes it back with an upsert. Nothing holds
    the row between the two, so a `Delete` that comes between them is undone by
    the write.

    * `NoResurrection` — no state in which a deletion has been reported
      contains the portfolio.
    * `no_resurrection_iff` — a run has that property exactly when each of its
      upserts finds the portfolio there.
    * `update_resurrects` — a run of one `Update` and one `Delete` without it.
-/

namespace Quantora

namespace portfolio

open Runs
open postgres (Database)

/-- A request to delete the portfolio has returned success. -/
def World.Deleted (w : World) (id : String) : Prop :=
  ∃ r, w.requests r = some (.finished (.ok (.deleted id)))

/-- Once a deletion has been reported, the portfolio is gone for good. -/
def NoResurrection (id : String) (w : World) (actions : List Action) : Prop :=
  ∀ s, Visits step w actions s → s.Deleted id → ¬ s.db.Has id

/-- Every transaction that upserts the portfolio, and that the columns admit,
    runs while the portfolio is there. -/
def UpsertsFindPortfolio (id : String) (w : World) (actions : List Action) : Prop :=
  ∀ s r now p, Takes step w actions s (.advance r now) →
    s.requests r = some (.savePortfolio p) → p.ID = id → Database.Admitted p → s.db.Has id

section Steps

variable {id : String} {w w' : World} {actions : List Action}

/-- Requests that have finished stay finished. -/
theorem Deleted.step {a : Action} (h : w.Deleted id) (hstep : step a w = some w') :
    w'.Deleted id := by
  obtain ⟨r, hr⟩ := h
  have hne : r ≠ a.request := by
    obtain ⟨-, -, -, hunfinished, -⟩ := step_eq_some hstep
    rintro rfl
    exact hunfinished _ hr
  exact ⟨r, (requests_step_of_ne hstep hne).trans hr⟩

/-- A deletion that is reported after a step was reported before it, or is the
    step itself. -/
theorem deleted_put {w : World} {db : Database} {r : ℕ} {process : Process}
    (h : (w.put db r process).Deleted id) :
    w.Deleted id ∨ process = .finished (.ok (.deleted id)) := by
  obtain ⟨r', hr'⟩ := h
  by_cases hr : r' = r
  · subst hr
    rw [World.put_self] at hr'
    exact .inr (Option.some.inj hr')
  · rw [World.put_of_ne _ _ _ hr] at hr'
    exact .inl ⟨r', hr'⟩

/-- No request begins with a reported deletion. -/
theorem start_ne_deleted (request : Request) : start request ≠ .finished (.ok (.deleted id)) := by
  cases request with
  | Save id' now req =>
    simp only [start]
    cases req.Validate <;> simp
  | Update id' req =>
    simp only [start]
    cases req.Validate <;> simp
  | Get id' => simp [start]
  | Delete id' => simp [start]
  | resolve req =>
    simp only [start]
    split_ifs <;> simp

/-- **Step lemma**: a portfolio that is there stays there, unless the step
    reports its deletion. -/
theorem has_or_deleted_step {a : Action} (h : w.db.Has id ∨ w.Deleted id)
    (hstep : step a w = some w') : w'.db.Has id ∨ w'.Deleted id := by
  rcases h with hhas | hdeleted
  swap
  · exact .inr (Deleted.step hdeleted hstep)
  obtain ⟨db', process', rfl, -, hcase⟩ := step_eq_some hstep
  rw [World.put_db]
  rcases hcase with ⟨-, rfl, -⟩ | ⟨now, process, -, -, hadvance⟩ | ⟨-, rfl, -⟩
  · exact .inl hhas
  · rcases advance_eq_some hadvance with ⟨rfl, -⟩ | ⟨p, -, hsave, -⟩ | ⟨id', -, hdelete, rfl⟩
    · exact .inl hhas
    · left
      by_cases hid : p.ID = id
      · exact hid ▸ Database.has_SavePortfolio hsave
      · rwa [Database.Has, Database.get?_SavePortfolio_of_ne hsave hid]
    · by_cases hid : id = id'
      · subst hid
        exact .inr ⟨a.request, World.put_self ..⟩
      · left
        rw [Database.DeletePortfolio_eq_ok hdelete]
        rwa [Database.Has, Database.get?_without_of_ne _ hid]
  · exact .inl hhas

/-- **Step lemma**: a portfolio whose deletion has been reported stays away, if
    every admitted upsert of it finds it there. -/
theorem not_has_step {a : Action} (h : w.Deleted id → ¬ w.db.Has id)
    (hfound : ∀ r now p, a = .advance r now → w.requests r = some (.savePortfolio p) →
      p.ID = id → Database.Admitted p → w.db.Has id)
    (hstep : step a w = some w') : w'.Deleted id → ¬ w'.db.Has id := by
  intro hdeleted
  obtain ⟨db', process', rfl, -, hcase⟩ := step_eq_some hstep
  have hbefore := deleted_put hdeleted
  rw [World.put_db]
  rcases hcase with ⟨request, rfl, rfl⟩ | ⟨now, process, ha, hr, hadvance⟩ | ⟨err, rfl, rfl⟩
  · exact h (hbefore.resolve_right (start_ne_deleted request))
  · rcases advance_eq_some hadvance with
      ⟨rfl, hno⟩ | ⟨p, rfl, hsave, rfl⟩ | ⟨id', rfl, hdelete, rfl⟩
    · exact h (hbefore.resolve_right (hno id))
    · have hgone := h (hbefore.resolve_right (by simp))
      by_cases hid : p.ID = id
      · have hadmitted := (Database.isOk_SavePortfolio _ p).mp (Outcome.isOk_of_eq_ok hsave)
        exact absurd (hfound a.request now p ha hr hid hadmitted) hgone
      · rwa [Database.Has, Database.get?_SavePortfolio_of_ne hsave hid]
    · rw [Database.DeletePortfolio_eq_ok hdelete]
      by_cases hid : id = id'
      · subst hid
        exact Database.not_has_without _ _
      · have hgone := h (hbefore.resolve_right (by
          simp only [Process.finished.injEq, Except.ok.injEq, Response.deleted.injEq]
          exact fun heq => hid heq.symm))
        rwa [Database.Has, Database.get?_without_of_ne _ hid]
  · exact h (hbefore.resolve_right (by simp))

end Steps

/-- **Main result**: in a run from a state that holds the portfolio, with no
    request in flight, a deleted portfolio stays deleted exactly when every
    upsert of it that the columns admit finds it there. -/
theorem no_resurrection_iff {id : String} {w : World} {actions : List Action}
    (hsaved : w.db.Has id) (hquiet : ∀ r, w.requests r = none) :
    NoResurrection id w actions ↔ UpsertsFindPortfolio id w actions := by
  constructor
  · intro hnever s r now p htakes hr hid hadmitted
    by_contra hgone
    -- The portfolio was there at the start, so its deletion has been reported.
    have hdeleted : s.Deleted id :=
      (visits_invariant (fun t => t.db.Has id ∨ t.Deleted id) (.inl hsaved)
        (fun t a u _ ht hstep => has_or_deleted_step ht hstep) htakes.visits).resolve_left hgone
    obtain ⟨db', hsave⟩ :=
      Outcome.exists_eq_ok ((Database.isOk_SavePortfolio s.db p).mpr hadmitted)
    have hstep : step (.advance r now) s = some (s.put db' r (.finished (.ok (.stored p)))) := by
      simp [step, hr, advance, hsave]
    have hback : db'.Has id := hid ▸ Database.has_SavePortfolio hsave
    exact hnever _ (htakes.visits_next hstep) (Deleted.step hdeleted hstep) hback
  · intro hfound s hvisits
    refine visits_invariant (fun t => t.Deleted id → ¬ t.db.Has id) ?_ ?_ hvisits
    · rintro ⟨r, hr⟩
      rw [hquiet r] at hr
      cases hr
    · rintro t a u htakes ht hstep
      refine not_has_step ht ?_ hstep
      rintro r now p rfl hr hid hadmitted
      exact hfound t r now p htakes hr hid hadmitted

/-- `Update` reads the portfolio, `Delete` removes it, `Update` writes it back. -/
def update_around_delete : List Action :=
  [.arrive 0 (.Update "pf_1" { Name := "Core", Holdings := [⟨"INFY.NS", 5, none⟩] }),
   .advance 0 1, .advance 0 2, .advance 0 3,
   .arrive 1 (.Delete "pf_1"), .advance 1 4,
   .advance 0 5]

theorem update_resurrects : ¬ NoResurrection "pf_1" one_portfolio update_around_delete := by
  intro hnever
  obtain ⟨s, hs, hback⟩ := exists_visits_of_any step one_portfolio update_around_delete
    (P := fun s => s.requests 1 = some (.finished (.ok (.deleted "pf_1"))) ∧ s.db.Has "pf_1")
    (by decide +kernel)
  obtain ⟨hdeleted, hhas⟩ := of_decide_eq_true hback
  exact hnever s hs ⟨1, hdeleted⟩ hhas

/-- The equivalence at a run that updates and then deletes. -/
theorem no_resurrection_iff_update_then_delete :
    NoResurrection "pf_1" one_portfolio (update_around_delete.take 6) ↔
      UpsertsFindPortfolio "pf_1" one_portfolio (update_around_delete.take 6) :=
  no_resurrection_iff (by decide +kernel) (fun _ => rfl)

end portfolio

end Quantora
