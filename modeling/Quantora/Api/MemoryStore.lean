import Mathlib.Logic.Function.Basic
import Quantora.Framework.Fifo
import Quantora.Python.Conversions
import Quantora.Python.Runtime

/-! # The memory store

    `backtest/memory_store.go`: completed backtests by id, in a map, and the ids
    in the order in which they came. Both are changed together by `Save`, under
    one lock, and read by `Get`.

    * `MemoryStore` — the two structures and the capacity.
    * `represents_saved` — after any saves they are one bounded queue of ids
      with the last record of each.
    * `bounded_store` — what the store holds, and what a save evicts. -/

namespace Quantora

namespace backtest

/-- The handful of numbers a list view shows. -/
structure MetricsBrief where
  TotalReturn : Option ℚ
  CAGR : Option ℚ
  Sharpe : Option ℚ
  MaxDrawdown : Option ℚ
  TradeCount : ℤ

/-- One completed backtest as the API stores and returns it. -/
structure Record where
  ID : String
  Symbol : String
  Strategy : String
  Start : String
  End : String
  DataVersion : String
  CreatedAt : Timestamp
  Result : Json
  MetricsBrief : MetricsBrief

inductive Error where
  | ErrNotFound (id : String)
  deriving DecidableEq, Repr

/-- A `map[string]Record` is a function: `delete` puts `none`. -/
structure MemoryStore where
  records : String → Option Record
  order : List String
  capacity : ℕ

def NewMemoryStore (capacity : ℤ) : MemoryStore where
  records := fun _ => none
  order := []
  capacity := if capacity ≤ 0 then 200 else capacity.toNat

namespace MemoryStore

/-- The loop of `Save`: `delete(s.records, oldest)` while there are too many. -/
def evict (capacity : ℕ) (records : String → Option Record) : List String → MemoryStore
  | [] => ⟨records, [], capacity⟩
  | oldest :: order =>
    if capacity < order.length + 1 then
      evict capacity (Function.update records oldest none) order
    else ⟨records, oldest :: order, capacity⟩

def Save (s : MemoryStore) (record : Record) : MemoryStore :=
  let order := if (s.records record.ID).isSome then s.order else s.order ++ [record.ID]
  evict s.capacity (Function.update s.records record.ID (some record)) order

def Get (s : MemoryStore) (id : String) : Except Error Record :=
  match s.records id with
  | some record => .ok record
  | none => .error (.ErrNotFound id)

/-- `Get` finds a record. -/
def Holds (s : MemoryStore) (id : String) : Prop := ∃ record, s.Get id = .ok record

end MemoryStore

/-- The store after a sequence of saves. -/
def saved (capacity : ℤ) (records : List Record) : MemoryStore :=
  records.foldl MemoryStore.Save (NewMemoryStore capacity)

/-- The last record saved under an id. -/
def last_saved (records : List Record) (id : String) : Option Record :=
  records.reverse.find? (fun record => record.ID = id)

/-! ## One bounded queue -/

/-- The order is a queue of ids, and every id in it has its last record. -/
structure Represents (s : MemoryStore) (capacity : ℕ) (records : List Record) : Prop where
  capacity_eq : s.capacity = capacity
  order_eq : s.order = (Fifo.run capacity (records.map Record.ID)).keys
  records_eq : ∀ id, s.records id = if id ∈ s.order then last_saved records id else none

/-- Ids that leave the order leave the map. Induction over the order. -/
theorem evict_eq (capacity : ℕ) (records : String → Option Record) {order : List String}
    (h : order.Nodup) :
    (MemoryStore.evict capacity records order).capacity = capacity ∧
      (MemoryStore.evict capacity records order).order = order.drop (order.length - capacity) ∧
      ∀ id, (MemoryStore.evict capacity records order).records id
        = if id ∈ order ∧ id ∉ order.drop (order.length - capacity) then none else records id := by
  induction order generalizing records with
  | nil => simp [MemoryStore.evict]
  | cons oldest order ih =>
    obtain ⟨hnew, hrest⟩ := List.nodup_cons.mp h
    unfold MemoryStore.evict
    by_cases hover : capacity < order.length + 1
    · obtain ⟨hcapacity, horder, hrecords⟩ := ih (Function.update records oldest none) hrest
      have hdrop : (oldest :: order).drop ((oldest :: order).length - capacity)
          = order.drop (order.length - capacity) := by
        rw [List.length_cons, Nat.succ_sub (Nat.lt_succ_iff.mp hover), List.drop_succ_cons]
      rw [if_pos hover, hdrop]
      refine ⟨hcapacity, horder, fun id => ?_⟩
      rw [hrecords]
      by_cases hid : id = oldest
      · subst hid
        have hgone : id ∉ order.drop (order.length - capacity) :=
          fun hmem => hnew (List.mem_of_mem_drop hmem)
        simp [hnew, hgone]
      · simp [hid]
    · have hkeep : (oldest :: order).length - capacity = 0 := by
        rw [List.length_cons]
        omega
      rw [if_neg hover, hkeep, List.drop_zero]
      exact ⟨rfl, rfl, fun id => (if_neg fun hid => hid.2 hid.1).symm⟩

theorem last_saved_append (records : List Record) (record : Record) (id : String) :
    last_saved (records ++ [record]) id
      = if record.ID = id then some record else last_saved records id := by
  rw [last_saved, List.reverse_concat]
  by_cases hid : record.ID = id
  · rw [if_pos hid, List.find?_cons_of_pos (by simpa using hid)]
  · rw [if_neg hid, List.find?_cons_of_neg (by simpa using hid), last_saved]

theorem represents_new (capacity : ℤ) :
    Represents (NewMemoryStore capacity) (NewMemoryStore capacity).capacity [] :=
  ⟨rfl, rfl, fun _ => rfl⟩

theorem isSome_last_saved {records : List Record} {id : String} (h : id ∈ records.map Record.ID) :
    (last_saved records id).isSome = true := by
  obtain ⟨record, hrecord, rfl⟩ := List.mem_map.mp h
  rw [last_saved, List.find?_isSome]
  exact ⟨record, List.mem_reverse.mpr hrecord, by simp⟩

theorem Represents.isSome_iff {s : MemoryStore} {capacity : ℕ} {records : List Record}
    (h : Represents s capacity records) (id : String) :
    (s.records id).isSome = true ↔ id ∈ s.order := by
  rw [h.records_eq]
  split_ifs with hid
  · rw [h.order_eq] at hid
    exact iff_of_true (isSome_last_saved (Fifo.mem_of_mem_run hid)) (by rwa [h.order_eq])
  · exact iff_of_false (by simp) hid

/-- With the new record in the map, every id of the grown order has its last
    record. -/
theorem Represents.records_grown {s : MemoryStore} {capacity : ℕ} {records : List Record}
    (h : Represents s capacity records) (record : Record) (id : String) :
    Function.update s.records record.ID (some record) id
      = if id ∈ Fifo.grown s.order record.ID then last_saved (records ++ [record]) id
        else none := by
  rw [last_saved_append]
  by_cases hid : id = record.ID
  · rw [hid, Function.update_self, if_pos (Fifo.mem_grown.mpr (.inr rfl)), if_pos rfl]
  · have hmem : id ∈ Fifo.grown s.order record.ID ↔ id ∈ s.order := by
      rw [Fifo.mem_grown]
      exact or_iff_left hid
    rw [Function.update_of_ne hid, h.records_eq, if_neg (Ne.symm hid)]
    exact if_congr hmem.symm rfl rfl

/-- **Step lemma**: a save pushes the id, and the record becomes the last one of
    its id. -/
theorem Represents.save {s : MemoryStore} {capacity : ℕ} {records : List Record}
    (h : Represents s capacity records) (record : Record) :
    Represents (s.Save record) capacity (records ++ [record]) := by
  -- The two branches of `Save` are those of the queue.
  have hgrown : (if (s.records record.ID).isSome then s.order else s.order ++ [record.ID])
      = Fifo.grown s.order record.ID := by
    rw [Fifo.grown]
    exact if_congr (h.isSome_iff _) rfl rfl
  have hnodup : (Fifo.grown s.order record.ID).Nodup := by
    rw [h.order_eq]
    exact Fifo.nodup_grown (Fifo.run capacity _).nodup _
  obtain ⟨hcapacity, horder, hrecords⟩ :=
    evict_eq s.capacity (Function.update s.records record.ID (some record)) hnodup
  rw [MemoryStore.Save, hgrown]
  refine ⟨hcapacity.trans h.capacity_eq, ?_, fun id => ?_⟩
  · rw [horder, List.map_append, List.map_cons, List.map_nil, Fifo.run_append_singleton,
      h.capacity_eq, h.order_eq]
    rfl
  · rw [hrecords, horder, h.records_grown]
    -- Evicting keeps the records of the ids that stay.
    by_cases hkept : id ∈ (Fifo.grown s.order record.ID).drop
        ((Fifo.grown s.order record.ID).length - s.capacity)
    · rw [if_neg (fun hgone => hgone.2 hkept), if_pos (List.mem_of_mem_drop hkept), if_pos hkept]
    · rw [if_neg hkept]
      split_ifs with hgone hgrown
      · rfl
      · exact absurd ⟨hgrown, hkept⟩ hgone
      · rfl

/-- **Run lemma**: after any saves the store is a bounded queue of ids with the
    last record of each. -/
theorem represents_saved (capacity : ℤ) (records : List Record) :
    Represents (saved capacity records) (NewMemoryStore capacity).capacity records := by
  induction records using List.reverseRecOn with
  | nil => exact represents_new capacity
  | append_singleton records record ih =>
    rw [saved, List.foldl_append]
    exact ih.save record

theorem Represents.holds_iff {s : MemoryStore} {capacity : ℕ} {records : List Record}
    (h : Represents s capacity records) (id : String) :
    s.Holds id ↔ id ∈ (Fifo.run capacity (records.map Record.ID)).keys := by
  rw [← h.order_eq, ← h.isSome_iff, MemoryStore.Holds, MemoryStore.Get]
  cases s.records id <;> simp

/-! ## What the store holds -/

/-- The order lists the keys of the map, each once, and at most `capacity` of
    them. -/
structure InStep (s : MemoryStore) (capacity : ℕ) : Prop where
  nodup : s.order.Nodup
  keys : ∀ id, id ∈ s.order ↔ (s.records id).isSome = true
  bounded : s.order.length ≤ capacity

/-- `Get` finds the ids of the order, each with the last record saved under
    it. -/
def ReturnsLast (s : MemoryStore) (records : List Record) : Prop :=
  ∀ id, (id ∈ s.order → ∃ record, last_saved records id = some record ∧ s.Get id = .ok record) ∧
    (id ∉ s.order → s.Get id = .error (.ErrNotFound id))

theorem Represents.inStep {s : MemoryStore} {capacity : ℕ} {records : List Record}
    (h : Represents s capacity records) : InStep s capacity where
  nodup := h.order_eq ▸ (Fifo.run capacity _).nodup
  keys id := (h.isSome_iff id).symm
  bounded := h.order_eq ▸ (Fifo.run capacity _).bounded

theorem Represents.returnsLast {s : MemoryStore} {capacity : ℕ} {records : List Record}
    (h : Represents s capacity records) : ReturnsLast s records := by
  refine fun id => ⟨fun hid => ?_, fun hid => ?_⟩
  · obtain ⟨record, hrecord⟩ := Option.isSome_iff_exists.mp ((h.isSome_iff id).mpr hid)
    have hlast := h.records_eq id
    rw [if_pos hid, hrecord] at hlast
    refine ⟨record, hlast.symm, ?_⟩
    rw [MemoryStore.Get, hrecord]
  · rw [MemoryStore.Get, h.records_eq, if_neg hid]

/-! ## What a save evicts -/

/-- The id has been in the store since the `k`-th save. -/
def HeldSince (capacity : ℤ) (records : List Record) (id : String) (k : ℕ) : Prop :=
  Stays (fun j => (saved capacity (records.take j)).Holds id) records.length k

def MemoryStore.Full (s : MemoryStore) : Prop := s.order.length = s.capacity

instance (s : MemoryStore) : Decidable s.Full :=
  inferInstanceAs (Decidable (s.order.length = s.capacity))

/-- The next save takes one id out, which is not its own and has been in the store
    longer than every other. -/
def EvictsOldest (capacity : ℤ) (records : List Record) (record : Record) : Prop :=
  ∃ oldest, (saved capacity records).Holds oldest ∧ oldest ≠ record.ID ∧
    (∀ id, ((saved capacity records).Save record).Holds id ↔
      id = record.ID ∨ ((saved capacity records).Holds id ∧ id ≠ oldest)) ∧
    ∀ id, (saved capacity records).Holds id → id ≠ oldest →
      ∃ k l, HeldSince capacity records oldest k ∧ HeldSince capacity records id l ∧ k < l

theorem heldSince_iff {capacity : ℤ} {records : List Record} {id : String} {k : ℕ} :
    HeldSince capacity records id k ↔
      Fifo.Since (NewMemoryStore capacity).capacity (records.map Record.ID) id k := by
  have hheld : ∀ j, (saved capacity (records.take j)).Holds id ↔
      Fifo.HeldAfter (NewMemoryStore capacity).capacity (records.map Record.ID) id j := by
    intro j
    rw [(represents_saved capacity (records.take j)).holds_iff, Fifo.HeldAfter, List.map_take]
  rw [HeldSince, Fifo.Since, List.length_map]
  exact ⟨Stays.congr fun j _ => hheld j, Stays.congr fun j _ => (hheld j).symm⟩

theorem capacity_pos (capacity : ℤ) : 0 < (NewMemoryStore capacity).capacity := by
  show 0 < if capacity ≤ 0 then 200 else capacity.toNat
  split_ifs <;> omega

section Eviction

variable {capacity : ℤ} {records : List Record} {record : Record}

theorem holds_save_iff (id : String) :
    ((saved capacity records).Save record).Holds id ↔
      id ∈ ((Fifo.run (NewMemoryStore capacity).capacity (records.map Record.ID)).push
        record.ID).keys := by
  rw [((represents_saved capacity records).save record).holds_iff, List.map_append,
    List.map_cons, List.map_nil, Fifo.run_append_singleton]

/-- An id that is held keeps its place, and nothing leaves. -/
theorem holds_save_of_held (hheld : (saved capacity records).Holds record.ID) (id : String) :
    ((saved capacity records).Save record).Holds id ↔ (saved capacity records).Holds id := by
  have hrep := represents_saved capacity records
  rw [hrep.holds_iff] at hheld
  rw [holds_save_iff, hrep.holds_iff, Fifo.keys_push_of_mem hheld]

theorem holds_save_of_room (hnew : ¬ (saved capacity records).Holds record.ID)
    (hroom : ¬ (saved capacity records).Full) (id : String) :
    ((saved capacity records).Save record).Holds id ↔
      id = record.ID ∨ (saved capacity records).Holds id := by
  have hrep := represents_saved capacity records
  rw [hrep.holds_iff] at hnew
  rw [MemoryStore.Full, hrep.capacity_eq, hrep.order_eq] at hroom
  have hlt := lt_of_le_of_ne (Fifo.run _ _).bounded hroom
  rw [holds_save_iff, hrep.holds_iff, Fifo.keys_push_of_room hnew hlt, List.mem_append,
    List.mem_singleton, or_comm]

/-- A full store gives up its oldest id for a new one. -/
theorem evicts_oldest (hnew : ¬ (saved capacity records).Holds record.ID)
    (hfull : (saved capacity records).Full) : EvictsOldest capacity records record := by
  have hrep := represents_saved capacity records
  rw [hrep.holds_iff] at hnew
  rw [MemoryStore.Full, hrep.capacity_eq, hrep.order_eq] at hfull
  cases hqueue : (Fifo.run (NewMemoryStore capacity).capacity (records.map Record.ID)).keys with
  | nil =>
    rw [hqueue] at hfull
    exact absurd hfull (capacity_pos capacity).ne
  | cons oldest rest =>
    have holdest : oldest ∈ (Fifo.run (NewMemoryStore capacity).capacity
        (records.map Record.ID)).keys := hqueue ▸ List.mem_cons_self
    refine ⟨oldest, (hrep.holds_iff oldest).mpr holdest, ?_, fun id => ?_, fun id hid hne => ?_⟩
    · rintro rfl
      exact hnew holdest
    · rw [holds_save_iff, hrep.holds_iff]
      exact Fifo.mem_push_full hnew hfull hqueue id
    · rw [hrep.holds_iff] at hid
      obtain ⟨k, hk⟩ := Fifo.exists_since holdest
      obtain ⟨l, hl⟩ := Fifo.exists_since hid
      rw [hqueue, List.mem_cons] at hid
      exact ⟨k, l, heldSince_iff.mpr hk, heldSince_iff.mpr hl,
        Fifo.since_oldest_lt hqueue (hid.resolve_left hne) hk hl⟩

end Eviction

/-- **Main result**: after any saves the two structures are in step and return
    the last record of each id that is held. The next save evicts nothing when
    its id is held or there is room, and else the id held the longest. -/
theorem bounded_store (capacity : ℤ) (records : List Record) :
    InStep (saved capacity records) (NewMemoryStore capacity).capacity ∧
      ReturnsLast (saved capacity records) records ∧
      ∀ record,
        ((saved capacity records).Holds record.ID →
          ∀ id, ((saved capacity records).Save record).Holds id ↔
            (saved capacity records).Holds id) ∧
        (¬ (saved capacity records).Holds record.ID → ¬ (saved capacity records).Full →
          ∀ id, ((saved capacity records).Save record).Holds id ↔
            id = record.ID ∨ (saved capacity records).Holds id) ∧
        (¬ (saved capacity records).Holds record.ID → (saved capacity records).Full →
          EvictsOldest capacity records record) := by
  have hrep := represents_saved capacity records
  exact ⟨hrep.inStep, hrep.returnsLast,
    fun record => ⟨holds_save_of_held, holds_save_of_room, evicts_oldest⟩⟩

/-- A completed run of one symbol. -/
def completed (id : String) : Record :=
  ⟨id, "INFY.NS", "macd", "2024-01-01", "2024-06-28", "sha256:a1", 0, .obj [],
    ⟨none, none, none, none, 0⟩⟩

/-- A full store that saves an id it holds evicts nothing. -/
theorem overwrite_evicts_nothing :
    ¬ ∀ (capacity : ℤ) (records : List Record) (record : Record),
      (saved capacity records).Full → EvictsOldest capacity records record := by
  intro h
  obtain ⟨oldest, hheld, hother, hnext, -⟩ :=
    h 2 [completed "bt_1", completed "bt_2"] (completed "bt_2") (by decide +kernel)
  have hsaved : (saved 2 [completed "bt_1", completed "bt_2"]).Holds (completed "bt_2").ID :=
    ⟨completed "bt_2", rfl⟩
  have hkept := (holds_save_of_held hsaved oldest).mpr hheld
  exact ((hnext oldest).mp hkept).elim hother (fun hgone => hgone.2 rfl)

end backtest

end Quantora
