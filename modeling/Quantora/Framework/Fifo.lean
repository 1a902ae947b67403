import Mathlib.Data.List.Induction
import Mathlib.Data.List.Nodup
import Mathlib.Order.Nat

/-! # Bounded queues of distinct keys

    A key that is not in the queue is put at its back, and what is too much
    leaves at its front. A key that is there keeps its place.

    * `Fifo` — the queue; `push` puts one key, `run` all keys of a list.
    * `mem_push_full` — what a full queue gives up for a new key.
    * `Stays`, `Since` — since when something has held without a break, and since when
      a key has been in the queue.
    * `pairwise_since` — the queue lists its keys in the order in which they
      came, so the first one has been there the longest.
-/

/-- `holds` at time `now`, without a break since `k`. -/
structure Stays (holds : ℕ → Prop) (now k : ℕ) : Prop where
  le : k ≤ now
  held : ∀ j, k ≤ j → j ≤ now → holds j
  starts : ∀ j, j + 1 = k → ¬ holds j

namespace Stays

variable {holds holds' : ℕ → Prop} {now k l : ℕ}

/-- What holds has held since some time. Induction over the time. -/
theorem exists_of_holds (h : holds now) : ∃ k, Stays holds now k := by
  induction now with
  | zero =>
    refine ⟨0, le_refl _, fun j _ hj => ?_, fun j hj => by omega⟩
    rwa [Nat.le_zero.mp hj]
  | succ now ih =>
    by_cases hbefore : holds now
    · obtain ⟨k, hk⟩ := ih hbefore
      refine ⟨k, hk.le.trans (Nat.le_succ _), fun j hkj hj => ?_, hk.starts⟩
      rcases Nat.le_succ_iff.mp hj with hj | rfl
      · exact hk.held j hkj hj
      · exact h
    · refine ⟨now + 1, le_refl _, fun j hkj hj => ?_, fun j hj => ?_⟩
      · rwa [le_antisymm hj hkj]
      · rwa [Nat.succ_inj.mp hj]

/-- A stay is about the past only. -/
theorem congr (h : ∀ j ≤ now, holds j ↔ holds' j) (hk : Stays holds now k) :
    Stays holds' now k where
  le := hk.le
  held j hkj hj := (h j hj).mp (hk.held j hkj hj)
  starts j hj := by
    have := hk.le
    rw [← h j (by omega)]
    exact hk.starts j hj

/-- A stay that lasts one step longer and began before it. -/
theorem of_succ (h : holds now) (hk : Stays holds (now + 1) k) : Stays holds now k := by
  have hne : k ≠ now + 1 := fun heq => hk.starts now heq.symm h
  have hle := hk.le
  exact ⟨by omega, fun j hkj hj => hk.held j hkj (hj.trans (Nat.le_succ _)), hk.starts⟩

/-- A stay that began with the last step. -/
theorem eq_of_succ (h : ¬ holds now) (hk : Stays holds (now + 1) k) : k = now + 1 := by
  by_contra hne
  have hle := hk.le
  exact h (hk.held now (by omega) (Nat.le_succ _))

end Stays

/-- At most `capacity` keys, no two of them equal, from the oldest to the
    newest. -/
structure Fifo (α : Type*) (capacity : ℕ) where
  keys : List α
  nodup : keys.Nodup
  bounded : keys.length ≤ capacity

namespace Fifo

variable {α : Type*} [DecidableEq α] {capacity : ℕ}

/-- The queue with no keys. -/
def empty : Fifo α capacity := ⟨[], List.nodup_nil, Nat.zero_le _⟩

/-- Put a key at the back, unless it is there. -/
def grown (queue : List α) (a : α) : List α := if a ∈ queue then queue else queue ++ [a]

theorem mem_grown {queue : List α} {a b : α} : b ∈ grown queue a ↔ b ∈ queue ∨ b = a := by
  unfold grown
  split_ifs with ha
  · refine ⟨.inl, ?_⟩
    rintro (hb | rfl)
    · exact hb
    · exact ha
  · rw [List.mem_append, List.mem_singleton]

theorem nodup_grown {queue : List α} (h : queue.Nodup) (a : α) : (grown queue a).Nodup := by
  unfold grown
  split_ifs with ha
  · exact h
  · rw [List.nodup_append]
    refine ⟨h, List.nodup_singleton a, fun b hb c hc => ?_⟩
    rintro rfl
    exact ha (List.mem_singleton.mp hc ▸ hb)

/-- Put a key, and drop what is too much. -/
def push (queue : Fifo α capacity) (a : α) : Fifo α capacity where
  keys := (grown queue.keys a).drop ((grown queue.keys a).length - capacity)
  nodup := (nodup_grown queue.nodup a).sublist (List.drop_sublist _ _)
  bounded := by
    rw [List.length_drop]
    omega

/-- Put the keys one after the other. -/
def run (capacity : ℕ) (keys : List α) : Fifo α capacity := keys.foldl push empty

theorem run_append_singleton (keys : List α) (a : α) :
    run capacity (keys ++ [a]) = (run capacity keys).push a := by
  rw [run, List.foldl_append]
  rfl

/-! ## One key -/

variable {queue : Fifo α capacity} {a : α}

theorem keys_push_of_mem (h : a ∈ queue.keys) : (queue.push a).keys = queue.keys := by
  have hbounded := queue.bounded
  simp only [push, grown, if_pos h, Nat.sub_eq_zero_of_le hbounded, List.drop_zero]

theorem keys_push_of_room (h : a ∉ queue.keys) (hroom : queue.keys.length < capacity) :
    (queue.push a).keys = queue.keys ++ [a] := by
  have hfits : (queue.keys ++ [a]).length ≤ capacity := by
    rw [List.length_append, List.length_singleton]
    omega
  simp only [push, grown, if_neg h, Nat.sub_eq_zero_of_le hfits, List.drop_zero]

theorem keys_push_of_full (h : a ∉ queue.keys) (hfull : queue.keys.length = capacity)
    {oldest : α} {rest : List α} (hqueue : queue.keys = oldest :: rest) :
    (queue.push a).keys = rest ++ [a] := by
  have hover : (queue.keys ++ [a]).length - capacity = 1 := by
    rw [List.length_append, List.length_singleton]
    omega
  simp only [push, grown, if_neg h, hover]
  rw [hqueue]
  rfl

/-- A full queue gives up its first key for a new one. -/
theorem mem_push_full (h : a ∉ queue.keys) (hfull : queue.keys.length = capacity)
    {oldest : α} {rest : List α} (hqueue : queue.keys = oldest :: rest) (b : α) :
    b ∈ (queue.push a).keys ↔ b = a ∨ (b ∈ queue.keys ∧ b ≠ oldest) := by
  have hnodup := queue.nodup
  rw [hqueue, List.nodup_cons] at hnodup
  rw [keys_push_of_full h hfull hqueue, hqueue, List.mem_append, List.mem_singleton, List.mem_cons]
  constructor
  · rintro (hb | rfl)
    · refine .inr ⟨.inr hb, ?_⟩
      rintro rfl
      exact hnodup.1 hb
    · exact .inl rfl
  · rintro (rfl | ⟨rfl | hb, hne⟩)
    · exact .inr rfl
    · exact absurd rfl hne
    · exact .inl hb

/-- What a push leaves is in the order of the queue, with the key at the
    back. -/
theorem push_sublist (queue : Fifo α capacity) (a : α) :
    (queue.push a).keys.Sublist (grown queue.keys a) :=
  List.drop_sublist _ _

/-- Every key of the queue was put. -/
theorem mem_of_mem_run {keys : List α} {b : α} (h : b ∈ (run capacity keys).keys) : b ∈ keys := by
  induction keys using List.reverseRecOn with
  | nil => exact absurd h List.not_mem_nil
  | append_singleton keys a ih =>
    rw [run_append_singleton] at h
    rcases mem_grown.mp ((push_sublist _ a).subset h) with hb | rfl
    · exact List.mem_append_left _ (ih hb)
    · simp

/-! ## Since when -/

/-- The key is in the queue after the first `j` keys. -/
def HeldAfter (capacity : ℕ) (keys : List α) (a : α) (j : ℕ) : Prop :=
  a ∈ (run capacity (keys.take j)).keys

/-- The key has been in the queue since the `k`-th key was put. -/
def Since (capacity : ℕ) (keys : List α) (a : α) (k : ℕ) : Prop :=
  Stays (HeldAfter capacity keys a) keys.length k

theorem heldAfter_length (keys : List α) (a : α) :
    HeldAfter capacity keys a keys.length ↔ a ∈ (run capacity keys).keys := by
  rw [HeldAfter, List.take_length]

theorem exists_since {keys : List α} (h : a ∈ (run capacity keys).keys) :
    ∃ k, Since capacity keys a k :=
  Stays.exists_of_holds ((heldAfter_length keys a).mpr h)

theorem heldAfter_append_singleton (keys : List α) (a b : α) {j : ℕ} (hj : j ≤ keys.length) :
    HeldAfter capacity (keys ++ [b]) a j ↔ HeldAfter capacity keys a j := by
  rw [HeldAfter, HeldAfter, List.take_append_of_le_length hj]

/-- A key that was in the queue before the last push is there since the same
    time. -/
theorem Since.of_append {keys : List α} {b : α} {k : ℕ} (h : a ∈ (run capacity keys).keys)
    (hk : Since capacity (keys ++ [b]) a k) : Since capacity keys a k := by
  have hbefore : HeldAfter capacity (keys ++ [b]) a keys.length :=
    (heldAfter_append_singleton keys a b (le_refl _)).mpr ((heldAfter_length keys a).mpr h)
  unfold Since at hk
  rw [List.length_append, List.length_singleton] at hk
  exact (hk.of_succ hbefore).congr fun j hj => heldAfter_append_singleton keys a b hj

/-- One that was not is there since that push. -/
theorem Since.eq_of_append {keys : List α} {b : α} {k : ℕ} (h : a ∉ (run capacity keys).keys)
    (hk : Since capacity (keys ++ [b]) a k) : k = keys.length + 1 := by
  have hbefore : ¬ HeldAfter capacity (keys ++ [b]) a keys.length := by
    rwa [heldAfter_append_singleton keys a b (le_refl _), heldAfter_length]
  unfold Since at hk
  rw [List.length_append, List.length_singleton] at hk
  exact hk.eq_of_succ hbefore

/-- **Run lemma**: the queue lists its keys in the order in which they came.
    Induction over the keys, the last one apart. -/
theorem pairwise_since (capacity : ℕ) (keys : List α) :
    (run capacity keys).keys.Pairwise
      (fun a b => ∀ k l, Since capacity keys a k → Since capacity keys b l → k < l) := by
  induction keys using List.reverseRecOn with
  | nil => exact List.Pairwise.nil
  | append_singleton keys c ih =>
    rw [run_append_singleton]
    refine List.Pairwise.sublist (push_sublist _ c) ?_
    have hold : (run capacity keys).keys.Pairwise (fun a b => ∀ k l,
        Since capacity (keys ++ [c]) a k → Since capacity (keys ++ [c]) b l → k < l) :=
      ih.imp_of_mem fun ha hb hab k l hk hl => hab k l (hk.of_append ha) (hl.of_append hb)
    unfold grown
    split_ifs with hc
    · exact hold
    · refine List.pairwise_append.mpr ⟨hold, List.pairwise_singleton _ _, ?_⟩
      intro a ha b hb k l hk hl
      -- The key at the back came last.
      obtain rfl := List.mem_singleton.mp hb
      have hk := (hk.of_append ha).le
      rw [hl.eq_of_append hc]
      omega

/-- The first key has been in the queue the longest. -/
theorem since_oldest_lt {keys rest : List α} {oldest b : α}
    (hqueue : (run capacity keys).keys = oldest :: rest) (hb : b ∈ rest) {k l : ℕ}
    (hk : Since capacity keys oldest k) (hl : Since capacity keys b l) : k < l := by
  have hpairwise := pairwise_since capacity keys
  rw [hqueue] at hpairwise
  exact (List.pairwise_cons.mp hpairwise).1 b hb k l hk hl

end Fifo
