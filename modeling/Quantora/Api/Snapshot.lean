import Quantora.Api.PortfolioService

/-! # What `GetPortfolio` returns

    `GetPortfolio` selects the header and the positions in two statements
    without a transaction around them. A write that commits in between makes it
    return the header of one version with the positions of another.

    * `Undisturbed` — no write of the portfolio commits while a `GetPortfolio`
      of it stands between its two statements.
    * `snapshot_reads` — in such a run every portfolio that is returned is a
      committed version.
    * `update_tears_read` — a run of one `Get` and one `Update` without that
      property.
-/

namespace Quantora

namespace portfolio

open Runs
open postgres (Database PortfolioRow)

/-- Every portfolio that `GetPortfolio` returns is a version that some state of
    the run had committed. -/
def SnapshotReads (id : String) (w : World) (actions : List Action) : Prop :=
  ∀ s r caller p, Visits step w actions s → s.requests r = some (.gotPortfolio caller p) →
    p.ID = id → ∃ v, Visits step w actions v ∧ v.db.version id = some p

/-- The request is about to commit a write of the portfolio. -/
def WritesPortfolio (id : String) : Process → Prop
  | .savePortfolio p => p.ID = id ∧ Database.Admitted p
  | .deletePortfolio id' => id' = id
  | _ => False

/-- The request stands between the two statements of a `GetPortfolio`. -/
def World.Reading (w : World) (id : String) : Prop :=
  ∃ r caller header, w.requests r = some (.selectPositions caller id header)

/-- No write of the portfolio commits inside a `GetPortfolio` of it. -/
def Undisturbed (id : String) (w : World) (actions : List Action) : Prop :=
  ∀ s r now process, Takes step w actions s (.advance r now) → s.requests r = some process →
    WritesPortfolio id process → ¬ s.Reading id

section Steps

variable {id : String} {w : World} {actions : List Action} {s t : World}

/-- What holds of the requests of an undisturbed run: a header that has been
    read is still the one stored, and a portfolio that has been returned is a
    version of the run. -/
structure Reads (id : String) (w : World) (actions : List Action) (s : World) : Prop where
  /-- A header is read by its id. -/
  keyed : ∀ r caller id' header, s.requests r = some (.selectPositions caller id' header) →
    header.id = id'
  current : ∀ r caller header, s.requests r = some (.selectPositions caller id header) →
    s.db.portfolios.get? id = some header
  version : ∀ r caller p, s.requests r = some (.gotPortfolio caller p) → p.ID = id →
    ∃ v, Visits step w actions v ∧ v.db.version id = some p

/-- No request begins inside `GetPortfolio`. -/
theorem start_outside (request : Request) :
    (∀ caller id header, start request ≠ .selectPositions caller id header) ∧
      ∀ caller p, start request ≠ .gotPortfolio caller p := by
  cases request with
  | Save id now req =>
    simp only [start]
    cases req.Validate <;> simp
  | Update id req =>
    simp only [start]
    cases req.Validate <;> simp
  | Get id => simp [start]
  | Delete id => simp [start]
  | resolve req =>
    simp only [start]
    split_ifs <;> simp

theorem returned_outside (p : Portfolio) (now : Time) (caller : Caller) :
    (∀ caller' id header, returned p now caller ≠ .selectPositions caller' id header) ∧
      ∀ caller' p', returned p now caller ≠ .gotPortfolio caller' p' := by
  cases caller <;> simp [returned]

/-- Moving one request keeps `Reads` when its new place is right, and the stored
    header stays or nobody is reading. -/
theorem Reads.put (h : Reads id w actions s) {db : Database} {r : ℕ} {process : Process}
    (hpositions : ∀ caller id' header, process = .selectPositions caller id' header →
      header.id = id' ∧ (id' = id → db.portfolios.get? id = some header))
    (hgot : ∀ caller p, process = .gotPortfolio caller p → p.ID = id →
      ∃ v, Visits step w actions v ∧ v.db.version id = some p)
    (hdb : s.Reading id → db.portfolios.get? id = s.db.portfolios.get? id) :
    Reads id w actions (s.put db r process) := by
  have hplace : ∀ r' process', (s.put db r process).requests r' = some process' →
      process = process' ∨ s.requests r' = some process' := by
    intro r' process' hr'
    by_cases hr : r' = r
    · subst hr
      rw [World.put_self] at hr'
      exact .inl (Option.some.inj hr')
    · rw [World.put_of_ne _ _ _ hr] at hr'
      exact .inr hr'
  constructor
  · intro r' caller id' header hr'
    rcases hplace _ _ hr' with heq | hr'
    · exact (hpositions _ _ _ heq).1
    · exact h.keyed _ _ _ _ hr'
  · intro r' caller header hr'
    rcases hplace _ _ hr' with heq | hr'
    · exact (hpositions _ _ _ heq).2 rfl
    · exact (hdb ⟨r', caller, header, hr'⟩).trans (h.current _ _ _ hr')
  · intro r' caller p hr' hp
    rcases hplace _ _ hr' with heq | hr'
    · exact hgot _ _ heq hp
    · exact h.version _ _ _ hr' hp

/-- A write that commits while nobody reads the portfolio changes no header that
    a request relies on. -/
theorem get?_of_undisturbed {db' : Database} {process : Process}
    (hquiet : WritesPortfolio id process → ¬ s.Reading id)
    (hwrite : (∃ p, process = .savePortfolio p ∧ s.db.SavePortfolio p = .ok db') ∨
      ∃ id', process = .deletePortfolio id' ∧ s.db.DeletePortfolio id' = .ok db') :
    s.Reading id → db'.portfolios.get? id = s.db.portfolios.get? id := by
  intro hreading
  rcases hwrite with ⟨p, rfl, hsave⟩ | ⟨id', rfl, hdelete⟩
  · refine Database.get?_SavePortfolio_of_ne hsave fun hid => ?_
    have hadmitted := (Database.isOk_SavePortfolio _ p).mp (Outcome.isOk_of_eq_ok hsave)
    exact hquiet ⟨hid, hadmitted⟩ hreading
  · rw [Database.DeletePortfolio_eq_ok hdelete]
    refine Database.get?_without_of_ne _ fun hid => ?_
    exact hquiet hid.symm hreading

/-- **Step lemma**, one case per place a request can stand. -/
theorem Reads.advance (h : Reads id w actions s) (hvisits : Visits step w actions s) {r : ℕ}
    {now : Time} {process process' : Process} {db' : Database} (hr : s.requests r = some process)
    (hquiet : WritesPortfolio id process → ¬ s.Reading id)
    (hadvance : portfolio.advance now s.db process = some (db', process')) :
    Reads id w actions (s.put db' r process') := by
  cases process with
  | selectPortfolio caller id' =>
    simp only [portfolio.advance] at hadvance
    cases hselect : s.db.select_portfolio id' with
    | error err =>
      rw [hselect] at hadvance
      cases hadvance
      exact h.put (by simp) (by simp) (fun _ => rfl)
    | ok header =>
      rw [hselect] at hadvance
      cases hadvance
      have hget := Database.select_portfolio_eq_ok hselect
      refine h.put ?_ (by simp) (fun _ => rfl)
      intro caller' id'' header' heq
      cases heq
      exact ⟨Keyed.key_of_get? hget, fun hid => hid ▸ hget⟩
  | selectPositions caller id' header =>
    cases hadvance
    refine h.put (by simp) ?_ (fun _ => rfl)
    intro caller' p heq hp
    cases heq
    -- The header is still the stored one, so this state holds both parts.
    obtain rfl : id' = id := (h.keyed _ _ _ _ hr).symm.trans hp
    exact ⟨s, hvisits, by rw [Database.version, h.current _ _ _ hr]; rfl⟩
  | gotPortfolio caller p =>
    cases hadvance
    obtain ⟨hpositions, hgot⟩ := returned_outside p now caller
    exact h.put (fun _ _ _ heq => absurd heq (hpositions _ _ _))
      (fun _ _ heq => absurd heq (hgot _ _)) (fun _ => rfl)
  | savePortfolio p =>
    simp only [portfolio.advance] at hadvance
    cases hsave : s.db.SavePortfolio p with
    | error err =>
      rw [hsave] at hadvance
      cases hadvance
      exact h.put (by simp) (by simp) (fun _ => rfl)
    | ok next =>
      rw [hsave] at hadvance
      cases hadvance
      exact h.put (by simp) (by simp) (get?_of_undisturbed hquiet (.inl ⟨p, rfl, hsave⟩))
  | deletePortfolio id' =>
    simp only [portfolio.advance] at hadvance
    cases hdelete : s.db.DeletePortfolio id' with
    | error err =>
      rw [hdelete] at hadvance
      cases hadvance
      exact h.put (by simp) (by simp) (fun _ => rfl)
    | ok next =>
      rw [hdelete] at hadvance
      cases hadvance
      exact h.put (by simp) (by simp) (get?_of_undisturbed hquiet (.inr ⟨id', rfl, hdelete⟩))
  | finished result => cases hadvance

theorem Reads.step {a : Action} (h : Reads id w actions s) (htakes : Takes step w actions s a)
    (hundisturbed : Undisturbed id w actions) (hstep : step a s = some t) :
    Reads id w actions t := by
  obtain ⟨db', process', rfl, -, hcase⟩ := step_eq_some hstep
  rcases hcase with ⟨request, rfl, rfl⟩ | ⟨now, process, ha, hr, hadvance⟩ | ⟨err, rfl, rfl⟩
  · obtain ⟨hpositions, hgot⟩ := start_outside request
    exact h.put (fun _ _ _ heq => absurd heq (hpositions _ _ _))
      (fun _ _ heq => absurd heq (hgot _ _)) (fun _ => rfl)
  · exact h.advance htakes.visits hr
      (hundisturbed s a.request now process (ha ▸ htakes) hr) hadvance
  · exact h.put (by simp) (by simp) (fun _ => rfl)

end Steps

/-- **Main result**: if no write of the portfolio commits inside a `GetPortfolio`
    of it, every portfolio that is returned under that id was committed as a
    whole. -/
theorem snapshot_reads {id : String} {w : World} {actions : List Action}
    (hquiet : ∀ r, w.requests r = none) (hundisturbed : Undisturbed id w actions) :
    SnapshotReads id w actions := by
  intro s r caller p hvisits hr hp
  have hstart : Reads id w actions w := by
    constructor <;> intro r <;> simp [hquiet r]
  have hreads : Reads id w actions s := visits_invariant (Reads id w actions) hstart
    (fun t a u htakes ht hstep => ht.step htakes hundisturbed hstep) hvisits
  exact hreads.version r caller p hr hp

/-- The process is between the two statements of a `GetPortfolio`. -/
def Process.reading : Process → Bool
  | .selectPositions _ _ _ => true
  | _ => false

/-- The process is about to write. -/
def Process.writing : Process → Bool
  | .savePortfolio _ => true
  | .deletePortfolio _ => true
  | _ => false

/-- The portfolio that is stored before any write. -/
def core_portfolio : Portfolio where
  ID := "pf_1"
  Name := "Core"
  Description := ""
  BaseCurrency := "INR"
  Benchmark := "NIFTY"
  Holdings := [⟨"TCS.NS", 10, none⟩]
  CreatedAt := 0
  UpdatedAt := 0

/-- `Update` commits when `Get` has read both parts, and before it returns. -/
def update_after_reads : List Action :=
  [.arrive 1 (.Update "pf_1" { Name := "Growth", Holdings := [⟨"INFY.NS", 5, none⟩] }),
   .advance 1 1, .arrive 0 (.Get "pf_1"), .advance 0 2, .advance 1 3, .advance 0 4,
   .advance 1 5, .advance 1 6]

/-- What `Get` has read was stored as a whole, when it is no longer. -/
theorem snapshot_reads_before_commit :
    SnapshotReads "pf_1" one_portfolio update_after_reads ∧
      ∃ s, Visits step one_portfolio update_after_reads s ∧
        s.requests 0 = some (.gotPortfolio .Get core_portfolio) ∧
        s.db.version "pf_1" ≠ some core_portfolio := by
  obtain ⟨last, hlast, hread⟩ := exists_visits_of_any step one_portfolio update_after_reads
    (P := fun s => s.requests 0 = some (.gotPortfolio .Get core_portfolio) ∧
      s.db.version "pf_1" ≠ some core_portfolio) (by decide +kernel)
  refine ⟨snapshot_reads (fun _ => rfl) ?_, last, hlast, of_decide_eq_true hread⟩
  intro s r now process htakes hr hwrites
  have htwo : ∀ r', r' ≠ 0 → r' ≠ 1 → s.requests r' = none := by
    refine visits_invariant (fun t => ∀ r', r' ≠ 0 → r' ≠ 1 → t.requests r' = none)
      (fun _ _ _ => rfl) ?_ htakes.visits
    intro t a u ha ht hstep r' h0 h1
    have hrequest : ∀ a ∈ update_after_reads, a.request = 0 ∨ a.request = 1 := by decide
    have hother : r' ≠ a.request := by
      rcases hrequest a ha.mem with heq | heq
      · rwa [heq]
      · rwa [heq]
    rw [requests_step_of_ne hstep hother]
    exact ht r' h0 h1
  have hquiet := forall_takes_of_all (P := fun t a =>
    (t.requests a.request).any Process.writing = true →
      ∀ r' ∈ [0, 1], (t.requests r').any Process.reading = false) (by decide +kernel) htakes
  have hwriting : (s.requests r).any Process.writing = true := by
    rw [hr, Option.any_some]
    cases process <;> first | rfl | exact hwrites.elim
  rintro ⟨r', caller, header, hr'⟩
  have hmem : r' ∈ [0, 1] := by
    by_contra hout
    simp only [List.mem_cons, List.not_mem_nil, or_false, not_or] at hout
    rw [htwo r' hout.1 hout.2] at hr'
    cases hr'
  have hnone := hquiet hwriting r' hmem
  rw [hr'] at hnone
  cases hnone

/-- `Update` commits between the two statements of `Get`. -/
def update_inside_get : List Action :=
  [.arrive 0 (.Get "pf_1"), .advance 0 1,
   .arrive 1 (.Update "pf_1" { Name := "Growth", Holdings := [⟨"INFY.NS", 5, none⟩] }),
   .advance 1 2, .advance 1 3, .advance 1 4, .advance 1 5,
   .advance 0 6]

/-- The old name with the new holdings: the portfolio that `Get` returns. -/
def torn_portfolio : Portfolio where
  ID := "pf_1"
  Name := "Core"
  Description := ""
  BaseCurrency := "INR"
  Benchmark := "NIFTY"
  Holdings := [⟨"INFY.NS", 5, none⟩]
  CreatedAt := 0
  UpdatedAt := 0

theorem update_tears_read : ¬ SnapshotReads "pf_1" one_portfolio update_inside_get := by
  intro hsnapshot
  obtain ⟨s, hs, hgot⟩ := exists_visits_of_any step one_portfolio update_inside_get
    (P := fun s => s.requests 0 = some (.gotPortfolio .Get torn_portfolio)) (by decide +kernel)
  obtain ⟨v, hv, hversion⟩ := hsnapshot s 0 .Get torn_portfolio hs (of_decide_eq_true hgot) rfl
  have hnever : v.db.version "pf_1" ≠ some torn_portfolio :=
    forall_visits_of_all (P := fun v => v.db.version "pf_1" ≠ some torn_portfolio)
      (by decide +kernel) hv
  exact hnever hversion

end portfolio

end Quantora
