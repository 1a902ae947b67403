import Quantora.Framework.Bookkeeping
import Quantora.Api.ExperimentService

/-! # Experiments are written once

    Whatever the order in which saves, reads, deletions and reruns come, and
    whichever connections are lost, an experiment is what one save stored.

    * `bookkeeping` — what the requests do to the experiments.
    * `experiments_written_once` — what clients see of it, in every reachable
      state. -/

namespace Quantora

namespace experiment

open postgres (DateInput Experiments ExperimentRow experiment_row)

/-! ## The register behind the requests -/

/-- The results that the engine answered. -/
def answers (actions : List Action) : List Json :=
  actions.filterMap fun
    | .move _ (.answer (.ok result)) => some result
    | _ => none

/-- The identity that a request draws. -/
def Request.draws : Request → Option String
  | .Save id _ _ => some id
  | _ => none

/-- An experiment made from a result of the engine. -/
def Kept (answers : List Json) (exp : Experiment) : Prop :=
  ∃ result ∈ answers, ∃ kept id now name notes, experimentFromRaw result = .ok kept ∧
    exp = kept.named id now name notes

/-- The register accounts for a response. -/
def Response.Backed (input : DateInput) (answers : List Json) (L : Register String ExperimentRow) :
    Response → Prop
  | .ran record => record.Result ∈ answers
  | .saved exp => Kept answers exp ∧
      ∃ row, experiment_row input exp = .ok row ∧ (L exp.ID).written = some row
  | .got exp => ∃ row, (L row.id).written = some row ∧ exp = row.experiment
  | .deleted id => ∃ row, L id = .erased row
  | .rerun outcome => ∃ row, (L row.id).written = some row ∧ ∃ result ∈ answers,
      outcome = compareRuns row.experiment ((Go.unmarshal result).getD .nil)

/-- The register accounts for what a process holds. -/
def Process.Backed (input : DateInput) (answers : List Json) (L : Register String ExperimentRow) :
    Process → Prop
  | .recording record => record.Result ∈ answers
  | .inserting exp => Kept answers exp
  | .rerunning original _ => ∃ row, (L row.id).written = some row ∧ original = row.experiment
  | .finished (.ok response) => response.Backed input answers L
  | .unheard response => response.Backed input answers L
  | _ => True

/-- A request that is there has done what it responds. -/
def Done (w : World) (response : Response) : Prop :=
  ∃ r process, w.requests r = some process ∧ process.did = some response

section Rules

variable {input : DateInput} {before : List Action} {a : Action} {process : Process}
  {L L' : Register String ExperimentRow}

theorem backed_of_did {answers : List Json} {response : Response}
    (h : process.did = some response) :
    process.Backed input answers L ↔ response.Backed input answers L := by
  cases process with
  | finished result =>
    cases result with
    | error err => cases h
    | ok response' =>
      obtain rfl := Option.some.inj h
      rfl
  | unheard response' =>
    obtain rfl := Option.some.inj h
    rfl
  | _ => cases h

theorem Response.Backed.later {answers answers' : List Json} {response : Response}
    (h : response.Backed input answers L) (hanswers : answers ⊆ answers')
    (hlater : L.Precedes L') : response.Backed input answers' L' := by
  cases response with
  | ran record => exact hanswers h
  | saved exp =>
    obtain ⟨⟨result, hresult, hkept⟩, row, hrow, hwritten⟩ := h
    exact ⟨⟨result, hanswers hresult, hkept⟩, row, hrow, (hlater _).written_eq hwritten⟩
  | got exp =>
    obtain ⟨row, hwritten, hexp⟩ := h
    exact ⟨row, (hlater _).written_eq hwritten, hexp⟩
  | deleted id =>
    obtain ⟨row, hrow⟩ := h
    exact ⟨row, (hrow ▸ hlater id).eq_erased⟩
  | rerun outcome =>
    obtain ⟨row, hwritten, result, hresult, houtcome⟩ := h
    exact ⟨row, (hlater _).written_eq hwritten, result, hanswers hresult, houtcome⟩

theorem Process.Backed.later {answers answers' : List Json}
    (h : process.Backed input answers L) (hanswers : answers ⊆ answers')
    (hlater : L.Precedes L') : process.Backed input answers' L' := by
  cases process with
  | recording record => exact hanswers h
  | inserting exp =>
    obtain ⟨result, hresult, hkept⟩ := h
    exact ⟨result, hanswers hresult, hkept⟩
  | rerunning original posted =>
    obtain ⟨row, hwritten, horiginal⟩ := h
    exact ⟨row, (hlater _).written_eq hwritten, horiginal⟩
  | finished result =>
    cases result with
    | error err => trivial
    | ok response => exact Response.Backed.later h hanswers hlater
  | unheard response => exact Response.Backed.later h hanswers hlater
  | _ => trivial

theorem answers_subset : answers before ⊆ answers (before ++ [a]) := by
  rw [answers, answers, List.filterMap_append]
  exact List.subset_append_left _ _

theorem mem_answers {r : ℕ} {result : Json} :
    result ∈ answers (before ++ [.move r (.answer (.ok result))]) := by
  rw [answers, List.filterMap_append]
  exact List.mem_append_right _ (List.mem_singleton_self result)

end Rules

/-- What the requests do to the experiments. -/
def bookkeeping (input : DateInput) :
    Requests.Bookkeeping Store Process Request Move String ExperimentRow where
  get s id := s.experiments.get? id
  draws := Request.draws
  pending := Process.pending
  wrote process id row :=
    ∃ exp, process.did = some (.saved exp) ∧ exp.ID = id ∧ experiment_row input exp = .ok row
  erased process id _ := process.did = some (.deleted id)
  sound before s := ∀ id record, s.backtests.records id = some record →
    record.Result ∈ answers before
  backed before L process := process.Backed input (answers before) L
  sound_mono _ _ _ h id record hrecord := answers_subset (h id record hrecord)
  backed_mono _ _ _ _ _ h hlater := h.later answers_subset hlater

/-! ## Arrivals and moves -/

section Steps

variable {input : DateInput} {before : List Action} {w : World} {s' : Store}
  {process process' : Process} {L : Register String ExperimentRow} {r : ℕ} {m : Move}

theorem idle_of_did (h : process.did = none) : (bookkeeping input).Idle process where
  wrote _ _ hwrote := hwrote.elim fun _ hdid => by rw [h] at hdid; cases hdid.1
  erased _ _ hdid := by rw [show process.did = some _ from hdid] at h; cases h

/-- A request begins with nothing done, and with the identity that it has drawn. -/
theorem start_quiet (q : Request) :
    (start q).did = none ∧ ∀ id, (start q).pending = some id → q.draws = some id := by
  cases q with
  | Run id now req =>
    simp only [start]
    cases req.Validate <;> exact ⟨rfl, fun _ h => by cases h⟩
  | Save id now req =>
    simp only [start]
    cases req.Validate with
    | some err => exact ⟨rfl, fun _ h => by cases h⟩
    | none => split_ifs <;> exact ⟨rfl, fun _ h => h⟩
  | Get id => exact ⟨rfl, fun _ h => by cases h⟩
  | Delete id => exact ⟨rfl, fun _ h => by cases h⟩
  | Rerun id => exact ⟨rfl, fun _ h => by cases h⟩

theorem start_backed (q : Request) (answers : List Json) :
    (start q).Backed input answers L := by
  cases q with
  | Run id now req =>
    simp only [start]
    cases req.Validate <;> trivial
  | Save id now req =>
    simp only [start]
    cases req.Validate with
    | some err => trivial
    | none => split_ifs <;> trivial
  | _ => trivial

theorem projectFields_Result (record : backtest.Record) :
    (backtest.projectFields record).Result = record.Result := by
  unfold backtest.projectFields
  cases Go.unmarshal record.Result with
  | none => rfl
  | some result =>
    simp only
    split_ifs <;> rfl

/-- Evicting keeps some of the records. Induction over the order. -/
theorem records_of_evict {capacity : ℕ} {order : List String}
    {records : String → Option backtest.Record} {id : String} {record : backtest.Record}
    (h : (backtest.MemoryStore.evict capacity records order).records id = some record) :
    records id = some record := by
  induction order generalizing records with
  | nil => exact h
  | cons oldest order ih =>
    rw [backtest.MemoryStore.evict] at h
    split_ifs at h
    · have hkept := ih h
      by_cases hid : id = oldest
      · rw [hid, Function.update_self] at hkept
        cases hkept
      · rwa [Function.update_of_ne hid] at hkept
    · exact h

theorem records_of_save {store : backtest.MemoryStore} {record saved : backtest.Record}
    {id : String} (h : (store.Save record).records id = some saved) :
    saved = record ∨ store.records id = some saved := by
  have hkept := records_of_evict h
  by_cases hid : id = record.ID
  · rw [hid, Function.update_self] at hkept
    exact .inl (Option.some.inj hkept).symm
  · rw [Function.update_of_ne hid] at hkept
    exact .inr hkept

/-- A save goes on with a result that the engine answered. -/
theorem received (h : Requests.Refines (bookkeeping input) before w L) {id : String}
    {now : portfolio.Time} {req : SaveRequest} {result : Json}
    (hreceives : process.Receives w.store m id now req result) :
    result ∈ answers (before ++ [.move r m]) ∧ process.did = none ∧ process.pending = some id := by
  cases hreceives with
  | running => exact ⟨mem_answers, rfl, rfl⟩
  | promoting _ _ _ record hrecord =>
    refine ⟨answers_subset (h.sound (Go.TrimSpace req.BacktestID) record ?_), rfl, rfl⟩
    unfold backtest.MemoryStore.Get at hrecord
    cases hget : w.store.backtests.records (Go.TrimSpace req.BacktestID) with
    | none =>
      rw [hget] at hrecord
      cases hrecord
    | some found =>
      rw [hget] at hrecord
      cases hrecord
      rfl

theorem written_of_row {id : String} {row : ExperimentRow}
    (h : Requests.Refines (bookkeeping input) before w L)
    (hrow : w.store.experiments.get? id = some row) : (L row.id).written = some row := by
  rw [Keyed.key_of_get? hrow]
  exact Lifetime.written_of_value ((h.rows id).symm.trans hrow)

/-- A move that leaves the experiments alone. -/
theorem quiet_move (h : Requests.Refines (bookkeeping input) before w L)
    (hr : w.requests r = some process) (hdid : process.did = none)
    (hsame : s'.experiments = w.store.experiments)
    (hrecords : (bookkeeping input).sound (before ++ [.move r m]) s')
    (hbacked : process'.Backed input (answers (before ++ [.move r m])) L)
    (hpending : ∀ id, process'.pending = some id → process.pending = some id)
    (hsaved : ∀ exp, process'.did ≠ some (.saved exp)) :
    Requests.Refines (bookkeeping input) (before ++ [.move r m]) (w.put s' r process') L :=
  h.quiet hr (idle_of_did hdid) (fun id => congrArg (·.get? id) hsame) hrecords hbacked
    (fun _ _ hwrote => hwrote.elim fun exp h => hsaved exp h.1) hpending

/-- The insert of a save is the write of the register. -/
theorem inserted_move {exp : Experiment} {row : ExperimentRow}
    (h : Requests.Refines (bookkeeping input) before w L)
    (hr : w.requests r = some (.inserting exp))
    (hrow : experiment_row input exp = .ok row) (hdid : process'.did = some (.saved exp))
    (hpending : process'.pending = none) :
    Requests.Refines (bookkeeping input) (before ++ [.move r m])
      (w.put { w.store with experiments := w.store.experiments.upsert row } r process')
      (L.write exp.ID row) := by
  have hid : row.id = exp.ID := (postgres.stores_of_row hrow).id
  obtain ⟨result, hresult, hkept⟩ := h.backed r _ hr
  have hbacked : process'.Backed input (answers (before ++ [.move r m])) (L.write exp.ID row) :=
    (backed_of_did hdid).mpr
      ⟨⟨result, answers_subset hresult, hkept⟩, row, hrow, by rw [Register.write_self]; rfl⟩
  refine h.write hr (idle_of_did rfl) rfl (fun id => ?_)
    (fun id record hrecord => answers_subset (h.sound id record hrecord)) hbacked
    (fun id row' => ⟨?_, ?_⟩) hpending
  · show (w.store.experiments.upsert row).get? id = _
    split_ifs with hsame
    · rw [hsame, ← hid, Keyed.get?_upsert_self]
    · exact Keyed.get?_upsert_of_ne _ (hid ▸ hsame)
  · intro h
    obtain ⟨saved, hsaved, rfl, hrow'⟩ := h
    obtain rfl : exp = saved := by simpa [hdid] using hsaved
    rw [hrow] at hrow'
    exact ⟨rfl, (Except.ok.inj hrow').symm⟩
  · intro h
    obtain ⟨rfl, rfl⟩ := h
    exact ⟨exp, hdid, rfl, hrow⟩

/-- A deletion is the erasure of the register. -/
theorem deleted_move {id : String} {row : ExperimentRow}
    (h : Requests.Refines (bookkeeping input) before w L)
    (hr : w.requests r = some (.deleting id))
    (hrow : w.store.experiments.get? id = some row)
    (hdid : process'.did = some (.deleted id)) (hpending : process'.pending = none) :
    Requests.Refines (bookkeeping input) (before ++ [.move r m])
      (w.put { w.store with
        experiments := w.store.experiments.filter (fun row => row.id ≠ id) } r process')
      (L.retain (· ≠ id)) := by
  have hlive : L id = .live row := by
    have hvalue : (L id).value = some row := (h.rows id).symm.trans hrow
    cases hcell : L id with
    | unwritten | erased => rw [hcell] at hvalue; cases hvalue
    | live found =>
      rw [hcell] at hvalue
      exact congrArg Lifetime.live (Option.some.inj hvalue)
  have hbacked : process'.Backed input (answers (before ++ [.move r m])) (L.retain (· ≠ id)) :=
    (backed_of_did hdid).mpr ⟨row, by simp [Register.retain, hlive, Lifetime.erase]⟩
  refine h.retain hr (idle_of_did rfl) _ (fun id' => ?_)
    (fun id record hrecord => answers_subset (h.sound id record hrecord)) hbacked
    (fun _ _ hwrote => hwrote.elim fun exp h => by rw [hdid] at h; cases h.1) hpending
    (fun id' row' hdrop _ => ?_)
  · show (w.store.experiments.filter _).get? id' = _
    split_ifs with hkeep
    · exact Keyed.get?_filter_of_keep _ fun row hrow => by simpa [hrow] using hkeep
    · exact Keyed.get?_filter_of_drop _ fun row hrow => by simpa [hrow] using hkeep
  · obtain rfl : id' = id := by simpa using hdrop
    exact hdid

/-- **Step lemma**: after any move the requests still keep a register. -/
theorem refines_move (h : Requests.Refines (bookkeeping input) before w L)
    (hr : w.requests r = some process) (hmoves : Moves input w.store process m s' process') :
    ∃ L', Requests.Refines (bookkeeping input) (before ++ [.move r m]) (w.put s' r process')
      L' := by
  have hrecords : ∀ id record, w.store.backtests.records id = some record →
      record.Result ∈ answers (before ++ [.move r m]) :=
    fun id record hrecord => answers_subset (h.sound id record hrecord)
  cases hmoves with
  | failed _ _ err hdid =>
    exact ⟨L, quiet_move h hr hdid rfl hrecords trivial (fun _ hid => by cases hid)
      (fun _ hsaved => by cases hsaved)⟩
  | ran id now req posted result =>
    refine ⟨L, quiet_move h hr rfl rfl hrecords ?_ (fun _ hid => by cases hid)
      (fun _ hsaved => by cases hsaved)⟩
    show (backtest.projectFields _).Result ∈ _
    rw [projectFields_Result]
    exact mem_answers
  | recorded record =>
    have hrecord : record.Result ∈ answers before := h.backed r _ hr
    refine ⟨L, quiet_move h hr rfl rfl (fun id saved hsaved => ?_) (answers_subset hrecord)
      (fun _ hid => by cases hid) (fun _ hsaved => by cases hsaved)⟩
    rcases records_of_save hsaved with rfl | hbefore
    · exact answers_subset hrecord
    · exact hrecords id saved hbefore
  | kept hreceives hexp =>
    obtain ⟨hresult, hdid, hpending⟩ := received h (r := r) hreceives
    refine ⟨L, quiet_move h hr hdid rfl hrecords ⟨_, hresult, _, _, _, _, _, hexp, rfl⟩
      (fun id hid => ?_) (fun _ hsaved => by cases hsaved)⟩
    rw [hpending]
    exact hid
  | inserted exp m row _ hrow hnew hdid hpending =>
    exact ⟨_, inserted_move h hr hrow hdid hpending⟩
  | got id row hrow =>
    exact ⟨L, quiet_move h hr rfl rfl hrecords ⟨row, written_of_row h hrow, rfl⟩
      (fun _ hid => by cases hid) (fun _ hsaved => by cases hsaved)⟩
  | deleted id m row _ hrow hdid hpending =>
    exact ⟨_, deleted_move h hr hrow hdid hpending⟩
  | loaded id row hrow =>
    exact ⟨L, quiet_move h hr rfl rfl hrecords ⟨row, written_of_row h hrow, rfl⟩
      (fun _ hid => by cases hid) (fun _ hsaved => by cases hsaved)⟩
  | reran original posted result =>
    obtain ⟨row, hwritten, rfl⟩ := h.backed r _ hr
    exact ⟨L, quiet_move h hr rfl rfl hrecords ⟨row, hwritten, result, mem_answers, rfl⟩
      (fun _ hid => by cases hid) (fun _ hsaved => by cases hsaved)⟩

end Steps

/-! ## Every run -/

section Run

variable {input : DateInput} {capacity : ℤ} {actions : List Action} {w : World}

/-- **Run lemma**: in every reachable state the requests keep a register. -/
theorem exists_register (hfresh : ((bookkeeping input).drawn actions).Nodup)
    (hvisits : Runs.Visits (Requests.step (service input)) (quiet capacity) actions w) :
    ∃ before L, before <+: actions ∧ Requests.Refines (bookkeeping input) before w L := by
  refine Requests.exists_register ⟨Register.blank, ?_⟩ ?_ ?_ ?_ ?_ hfresh hvisits
  · exact Requests.refines_blank (fun _ => rfl) (fun _ _ h => by cases h)
  · exact fun q => idle_of_did (start_quiet q).1
  · exact fun before L q => start_backed q (answers before)
  · exact fun q id hid => (start_quiet q).2 id hid
  · exact fun before w L r m process s' process' h hr hmove =>
      refines_move h hr (moves_of_move hmove)

/-- What the clients of the service may rely on. -/
structure Intact (input : DateInput) (answers : List Json) (w : World) : Prop where
  /-- An experiment that was saved is stored, unless a deletion of it ran. -/
  stored : ∀ exp, Done w (.saved exp) → ¬ Done w (.deleted exp.ID) →
    ∃ row, experiment_row input exp = .ok row ∧ w.store.experiments.get? exp.ID = some row
  /-- What the services save comes back as it was saved, its time to the
      microsecond. -/
  back : ∀ exp, Done w (.saved exp) → ¬ Done w (.deleted exp.ID) →
    postgres.ReadsIsoDates input → postgres.Storable exp →
      postgres.Get w.store.experiments exp.ID = .ok (postgres.stored exp)
  /-- An experiment whose deletion ran is gone, and nothing brings it back. -/
  gone : ∀ id, Done w (.deleted id) → w.store.experiments.get? id = none
  /-- One save stores under an identity. -/
  once : ∀ r r' process process' exp exp', w.requests r = some process →
    w.requests r' = some process' → process.did = some (.saved exp) →
    process'.did = some (.saved exp') → exp.ID = exp'.ID → r = r'
  /-- What is read was saved. -/
  read : ∀ exp, Done w (.got exp) → ∃ saved row, Done w (.saved saved) ∧
    experiment_row input saved = .ok row ∧ exp = row.experiment
  /-- Whoever reads an experiment reads the same. -/
  reread : ∀ exp exp', Done w (.got exp) → Done w (.got exp') → exp.ID = exp'.ID → exp = exp'
  /-- A rerun compares what was saved with what the engine answered. -/
  rerun : ∀ outcome, Done w (.rerun outcome) → ∃ saved row, ∃ result ∈ answers,
    Done w (.saved saved) ∧ experiment_row input saved = .ok row ∧
      outcome = compareRuns row.experiment ((Go.unmarshal result).getD .nil)
  /-- What is saved, the engine answered. -/
  kept : ∀ exp, Done w (.saved exp) → Kept answers exp

section Client

variable {before : List Action} {L : Register String ExperimentRow}

theorem response_backed (h : Requests.Refines (bookkeeping input) before w L)
    {response : Response} (hdone : Done w response) :
    response.Backed input (answers before) L := by
  obtain ⟨r, process, hr, hdid⟩ := hdone
  exact (backed_of_did hdid).mp (h.backed r process hr)

theorem stored_of_saved (h : Requests.Refines (bookkeeping input) before w L) {exp : Experiment}
    (hsaved : Done w (.saved exp)) (hkept : ¬ Done w (.deleted exp.ID)) :
    ∃ row, experiment_row input exp = .ok row ∧ w.store.experiments.get? exp.ID = some row := by
  obtain ⟨-, row, hrow, -⟩ := response_backed h hsaved
  obtain ⟨r, process, hr, hdid⟩ := hsaved
  rcases h.stored hr ⟨exp, hdid, rfl, hrow⟩ with hstored | ⟨r', other, hr', herased⟩
  · exact ⟨row, hrow, hstored⟩
  · exact absurd ⟨r', other, hr', herased⟩ hkept

/-- What was written, a save wrote. -/
theorem saved_of_written (h : Requests.Refines (bookkeeping input) before w L) {id : String}
    {row : ExperimentRow} (hwritten : (L id).written = some row) :
    ∃ saved, Done w (.saved saved) ∧ experiment_row input saved = .ok row := by
  obtain ⟨r, process, hr, saved, hdid, -, hrow⟩ := h.writer _ _ hwritten
  exact ⟨saved, ⟨r, process, hr, hdid⟩, hrow⟩

theorem intact_of_refines (h : Requests.Refines (bookkeeping input) before w L) :
    Intact input (answers before) w where
  stored := fun exp hsaved hkept => stored_of_saved h hsaved hkept
  back := by
    intro exp hsaved hkept hinput hstorable
    obtain ⟨row, hrow, hget⟩ := stored_of_saved h hsaved hkept
    have hread : row.experiment = postgres.stored exp :=
      postgres.experiment_of_row hinput hstorable (postgres.stores_of_row hrow)
    obtain ⟨id, hid, -⟩ := Outcome.bind_eq_ok.mp hrow
    obtain rfl := postgres.text_eq_ok hid
    rw [postgres.Get, hid]
    simp only [hget, hread]
  gone := by
    intro id hdeleted
    obtain ⟨row, herased⟩ := response_backed h hdeleted
    exact (h.rows id).trans (by rw [herased]; rfl)
  once := by
    intro r r' process process' exp exp' hr hr' hdid hdid' hid
    obtain ⟨-, row, hrow, -⟩ := response_backed h ⟨r, process, hr, hdid⟩
    obtain ⟨-, row', hrow', -⟩ := response_backed h ⟨r', process', hr', hdid'⟩
    exact h.owner r r' process process' exp.ID hr hr' (.inr ⟨row, exp, hdid, rfl, hrow⟩)
      (.inr ⟨row', exp', hdid', hid.symm, hrow'⟩)
  read := by
    intro exp hgot
    obtain ⟨row, hwritten, rfl⟩ := response_backed h hgot
    obtain ⟨saved, hsaved, hrow⟩ := saved_of_written h hwritten
    exact ⟨saved, row, hsaved, hrow, rfl⟩
  reread := by
    intro exp exp' hgot hgot' hid
    obtain ⟨row, hwritten, rfl⟩ := response_backed h hgot
    obtain ⟨row', hwritten', rfl⟩ := response_backed h hgot'
    have hsame : row.id = row'.id := hid
    rw [hsame, hwritten'] at hwritten
    rw [Option.some.inj hwritten]
  rerun := by
    intro outcome hrerun
    obtain ⟨row, hwritten, result, hresult, houtcome⟩ := response_backed h hrerun
    obtain ⟨saved, hsaved, hrow⟩ := saved_of_written h hwritten
    exact ⟨saved, row, result, hresult, hsaved, hrow, houtcome⟩
  kept := fun exp hsaved => (response_backed h hsaved).1

end Client

theorem Intact.mono {answers answers' : List Json} (h : Intact input answers w)
    (hanswers : answers ⊆ answers') : Intact input answers' w where
  stored := h.stored
  back := h.back
  gone := h.gone
  once := h.once
  read := h.read
  reread := h.reread
  rerun := by
    intro outcome hrerun
    obtain ⟨saved, row, result, hresult, h⟩ := h.rerun outcome hrerun
    exact ⟨saved, row, result, hanswers hresult, h⟩
  kept := by
    intro exp hsaved
    obtain ⟨result, hresult, h⟩ := h.kept exp hsaved
    exact ⟨result, hanswers hresult, h⟩

/-- **Main result**: in every state that any interleaving reaches, with any
    answers of the engine and any lost connections, as long as no two saves draw
    one identity, the experiments are intact. -/
theorem experiments_written_once (hfresh : ((bookkeeping input).drawn actions).Nodup)
    (hvisits : Runs.Visits (Requests.step (service input)) (quiet capacity) actions w) :
    Intact input (answers actions) w := by
  obtain ⟨before, L, hsofar, hrefines⟩ := exists_register hfresh hvisits
  exact (intact_of_refines hrefines).mono (hsofar.filterMap _).subset

/-- The result of a run, as far as a save reads it. -/
def small_result : Json :=
  .obj [("strategy", .str "macd"), ("symbol", .str "INFY.NS"), ("start", .str "2024-01-01"),
    ("end", .str "2024-06-28"), ("data_version", .str "v1")]

def small_request : SaveRequest where
  Symbol := "INFY.NS"
  Strategy := "macd"
  Start := "2024-01-01"
  End := "2024-06-28"

/-- An experiment is saved, read, deleted by a client that does not hear of it,
    and rerun by another one. -/
def save_read_delete_rerun : List Action :=
  [.arrive 0 (.Save "exp_1" 1718000000123456789 small_request),
    .move 0 (.answer (.ok small_result)), .move 0 .advance,
    .arrive 1 (.Get "exp_1"), .move 1 .advance,
    .arrive 2 (.Rerun "exp_1"), .move 2 .advance,
    .arrive 3 (.Delete "exp_1"), .move 3 .lose,
    .move 2 (.answer (.ok small_result))]

/-- Somebody has read an experiment. -/
def Process.reads : Process → Bool
  | .finished (.ok (.got _)) => true
  | _ => false

/-- The deletion ran, and its client does not know. -/
def Process.deletes (id : String) : Process → Bool
  | .unheard (.deleted id') => id' = id
  | _ => false

theorem did_of_reads {process : Process} (h : process.reads) :
    ∃ exp, process.did = some (.got exp) := by
  unfold Process.reads at h
  split at h
  · next exp => exact ⟨exp, rfl⟩
  · cases h

theorem did_of_deletes {id : String} {process : Process} (h : process.deletes id) :
    process.did = some (.deleted id) := by
  unfold Process.deletes at h
  split at h
  · next id' => rw [of_decide_eq_true h, Process.did]
  · cases h

theorem read_then_deleted :
    ∃ w : World, (∃ exp, Done w (.got exp) ∧ ∃ saved row, Done w (.saved saved) ∧
        experiment_row Python.Date.fromisoformat saved = .ok row ∧ exp = row.experiment) ∧
      Done w (.deleted "exp_1") ∧ w.store.experiments.get? "exp_1" = none := by
  obtain ⟨w, hvisits, hobserved⟩ := Runs.exists_visits_of_any
    (Requests.step (service Python.Date.fromisoformat)) (quiet 0) save_read_delete_rerun
    (P := fun w => (w.requests 1).any Process.reads &&
      (w.requests 3).any (Process.deletes "exp_1")) (by decide +kernel)
  have hintact := experiments_written_once (by decide +kernel) hvisits
  obtain ⟨hread, hdelete⟩ := Bool.and_eq_true_iff.mp hobserved
  obtain ⟨reader, hreader, hreads⟩ := (Option.any_eq_true _ _).mp hread
  obtain ⟨deleter, hdeleter, hdeletes⟩ := (Option.any_eq_true _ _).mp hdelete
  obtain ⟨exp, hgot⟩ := did_of_reads hreads
  have hdone : Done w (.got exp) := ⟨1, reader, hreader, hgot⟩
  have hdeleted : Done w (.deleted "exp_1") := ⟨3, deleter, hdeleter, did_of_deletes hdeletes⟩
  exact ⟨w, ⟨exp, hdone, hintact.read exp hdone⟩, hdeleted, hintact.gone _ hdeleted⟩

end Run

end experiment

end Quantora
