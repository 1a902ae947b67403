import Mathlib.Data.List.Nodup
import Mathlib.Algebra.BigOperators.Group.List.Basic

/-! # Keyed collections

    An insertion-ordered collection of items, at most one per key: the shape of
    a Python `dict` whose values carry their own key, and of a SQL table with a
    unique column.

    * `upsert` replaces the item that has the same key, in place, or appends;
      `ofList` puts items in one after the other.
    * `get?` looks an item up by key.
    * `filter` keeps the items that satisfy a condition, `map` changes every item
      and keeps its key.
    * `total` sums a measure over all items; `total_upsert` says how one
      `upsert` moves it. Every conservation argument over a collection of
      accounts needs only that lemma.
-/

/-- Items listed in insertion order, no two with the same key. -/
structure Keyed {α κ : Type*} (key : α → κ) where
  items : List α
  nodup : (items.map key).Nodup

namespace Keyed

variable {α κ : Type*} {key : α → κ}

@[ext] theorem ext {s t : Keyed key} (h : s.items = t.items) : s = t := by
  cases s; cases t; simp only at h; subst h; rfl

instance [DecidableEq α] : DecidableEq (Keyed key) :=
  fun s t => decidable_of_iff (s.items = t.items) ⟨ext, fun h => h ▸ rfl⟩

/-- The collection with no items. -/
def empty : Keyed key := ⟨[], by simp⟩

instance : EmptyCollection (Keyed key) := ⟨empty⟩

@[simp] theorem items_empty : (∅ : Keyed key).items = [] := rfl

section Lookup

variable [DecidableEq κ]

/-- The item stored under `k`, if there is one. -/
def get? (s : Keyed key) (k : κ) : Option α :=
  s.items.find? (fun a => key a = k)

@[simp] theorem get?_empty (k : κ) : (∅ : Keyed key).get? k = none := rfl

theorem key_of_get? {s : Keyed key} {k : κ} {a : α} (h : s.get? k = some a) : key a = k := by
  simpa using List.find?_some h

theorem mem_of_get? {s : Keyed key} {k : κ} {a : α} (h : s.get? k = some a) : a ∈ s.items :=
  List.mem_of_find?_eq_some h

/-- Keys are unique, so an item is found under its own key. -/
theorem get?_of_mem {s : Keyed key} {a : α} (h : a ∈ s.items) : s.get? (key a) = some a := by
  obtain ⟨items, nodup⟩ := s
  simp only [get?] at h ⊢
  induction items with
  | nil => simp at h
  | cons b bs ih =>
    have hnd := List.nodup_cons.mp nodup
    rcases List.mem_cons.mp h with rfl | hmem
    · simp
    · have hne : key b ≠ key a := fun he =>
        hnd.1 (he ▸ List.mem_map_of_mem hmem)
      rw [List.find?_cons_of_neg (by simpa using hne)]
      exact ih hnd.2 hmem

theorem get?_eq_none {s : Keyed key} {k : κ} : s.get? k = none ↔ ∀ a ∈ s.items, key a ≠ k := by
  simp [get?, List.find?_eq_none]

end Lookup

section Upsert

variable [DecidableEq κ]

/-- `upsert` on the underlying list. -/
def upsertList (key : α → κ) (a : α) : List α → List α
  | [] => [a]
  | b :: bs => if key b = key a then a :: bs else b :: upsertList key a bs

theorem mem_upsertList {a b : α} {l : List α} (h : b ∈ upsertList key a l) : b = a ∨ b ∈ l := by
  induction l with
  | nil => simpa [upsertList] using h
  | cons c cs ih =>
    unfold upsertList at h
    split at h
    · rcases List.mem_cons.mp h with rfl | h
      · exact Or.inl rfl
      · exact Or.inr (List.mem_cons_of_mem _ h)
    · rcases List.mem_cons.mp h with rfl | h
      · exact Or.inr List.mem_cons_self
      · exact (ih h).imp_right (List.mem_cons_of_mem _)

/-- A new key is appended. -/
theorem upsertList_of_notMem {a : α} {l : List α} (h : key a ∉ l.map key) :
    upsertList key a l = l ++ [a] := by
  induction l with
  | nil => rfl
  | cons b bs ih =>
    have hne : key b ≠ key a := fun heq => h (by simp [heq])
    have hrest : key a ∉ bs.map key := fun hmem => h (List.mem_cons_of_mem _ hmem)
    rw [upsertList, if_neg hne, ih hrest]
    rfl

/-- An item that is there is put in its own place. -/
theorem upsertList_of_mem {a : α} {l : List α} (h : (l.map key).Nodup) (ha : a ∈ l) :
    upsertList key a l = l := by
  induction l with
  | nil => cases ha
  | cons b bs ih =>
    have hnd := List.nodup_cons.mp h
    rcases List.mem_cons.mp ha with rfl | ha
    · rw [upsertList, if_pos rfl]
    · have hne : key b ≠ key a := fun heq => hnd.1 (heq ▸ List.mem_map_of_mem ha)
      rw [upsertList, if_neg hne, ih hnd.2 ha]

/-- A key that is there stays where it is. -/
theorem keys_upsertList (a : α) (l : List α) :
    (upsertList key a l).map key
      = if key a ∈ l.map key then l.map key else l.map key ++ [key a] := by
  induction l with
  | nil => rfl
  | cons b bs ih =>
    rw [upsertList]
    by_cases heq : key b = key a
    · simp [heq]
    · have hmem : key a ∈ (b :: bs).map key ↔ key a ∈ bs.map key := by
        simp [Ne.symm heq]
      rw [if_neg heq, List.map_cons, ih]
      by_cases ha : key a ∈ bs.map key
      · rw [if_pos ha, if_pos (hmem.mpr ha), List.map_cons]
      · rw [if_neg ha, if_neg (fun h => ha (hmem.mp h)), List.map_cons, List.cons_append]

theorem nodup_upsertList (a : α) {l : List α} (h : (l.map key).Nodup) :
    ((upsertList key a l).map key).Nodup := by
  rw [keys_upsertList]
  by_cases ha : key a ∈ l.map key
  · rwa [if_pos ha]
  · rw [if_neg ha, List.nodup_append]
    exact ⟨h, List.nodup_singleton _, fun k hk k' hk' => by
      rintro rfl
      exact ha (List.mem_singleton.mp hk' ▸ hk)⟩

/-- Replace the item that has `a`'s key, in place, or append `a`. -/
def upsert (s : Keyed key) (a : α) : Keyed key :=
  ⟨upsertList key a s.items, nodup_upsertList a s.nodup⟩

theorem upsert_of_mem {s : Keyed key} {a : α} (h : a ∈ s.items) : s.upsert a = s :=
  ext (upsertList_of_mem s.nodup h)

theorem items_upsert_of_new {s : Keyed key} {a : α} (h : s.get? (key a) = none) :
    (s.upsert a).items = s.items ++ [a] := by
  apply upsertList_of_notMem
  intro hmem
  obtain ⟨b, hb, hkey⟩ := List.mem_map.mp hmem
  exact get?_eq_none.mp h b hb hkey

@[simp] theorem get?_upsert_self (s : Keyed key) (a : α) : (s.upsert a).get? (key a) = some a := by
  obtain ⟨items, nodup⟩ := s
  simp only [get?, upsert]
  clear nodup
  induction items with
  | nil => simp [upsertList]
  | cons b bs ih =>
    unfold upsertList
    split
    · simp
    · next hne => rw [List.find?_cons_of_neg (by simpa using hne)]; exact ih

theorem get?_upsert_of_ne (s : Keyed key) {a : α} {k : κ} (h : k ≠ key a) :
    (s.upsert a).get? k = s.get? k := by
  obtain ⟨items, nodup⟩ := s
  simp only [get?, upsert]
  clear nodup
  induction items with
  | nil => simp [upsertList, Ne.symm h]
  | cons b bs ih =>
    unfold upsertList
    split
    · next heq =>
      rw [List.find?_cons_of_neg (by simpa using Ne.symm h),
        List.find?_cons_of_neg (by simpa [heq] using Ne.symm h)]
    · by_cases hb : key b = k
      · simp [hb]
      · rw [List.find?_cons_of_neg (by simpa using hb),
          List.find?_cons_of_neg (by simpa using hb)]
        exact ih

theorem mem_upsert {s : Keyed key} {a b : α} (h : b ∈ (s.upsert a).items) :
    b = a ∨ (b ∈ s.items ∧ key b ≠ key a) := by
  have hget := get?_of_mem h
  by_cases hk : key b = key a
  · rw [hk, get?_upsert_self] at hget
    exact Or.inl (Option.some.inj hget).symm
  · rw [get?_upsert_of_ne _ hk] at hget
    exact Or.inr ⟨mem_of_get? hget, hk⟩

/-- Items put in one after the other. -/
def ofList (l : List α) : Keyed key := l.foldl upsert ∅

theorem length_upsert (s : Keyed key) (a : α) :
    (s.upsert a).items.length
      = s.items.length + if key a ∈ s.items.map key then 0 else 1 := by
  have hkeys : ((upsertList key a s.items).map key).length = _ :=
    congrArg List.length (keys_upsertList a s.items)
  rw [List.length_map] at hkeys
  rw [upsert, hkeys]
  split_ifs <;> simp

theorem length_foldl_upsert_le (s : Keyed key) (l : List α) :
    (l.foldl upsert s).items.length ≤ s.items.length + l.length := by
  induction l generalizing s with
  | nil => exact Nat.le_refl _
  | cons a l ih =>
    have hstep := ih (s.upsert a)
    rw [length_upsert] at hstep
    rw [List.foldl_cons, List.length_cons]
    split_ifs at hstep <;> omega

/-- Nothing is replaced when no key comes twice. -/
theorem length_foldl_upsert_iff (s : Keyed key) (l : List α) :
    (l.foldl upsert s).items.length = s.items.length + l.length ↔
      (s.items.map key ++ l.map key).Nodup := by
  induction l generalizing s with
  | nil => simpa using s.nodup
  | cons a l ih =>
    have hkeys : (upsertList key a s.items).map key = _ := keys_upsertList a s.items
    have hlength := length_upsert s a
    rw [List.foldl_cons, List.length_cons, List.map_cons]
    by_cases ha : key a ∈ s.items.map key
    · -- The item replaces one, and what follows cannot make up for it.
      rw [if_pos ha] at hlength
      have hle := length_foldl_upsert_le (s.upsert a) l
      refine iff_of_false (by omega) fun hnodup => ?_
      exact List.disjoint_of_nodup_append hnodup ha List.mem_cons_self
    · rw [if_neg ha] at hlength hkeys
      have hmap : (s.upsert a).items.map key = s.items.map key ++ [key a] := hkeys
      rw [List.append_cons, ← hmap, ← ih, hlength]
      omega

theorem length_ofList_iff (l : List α) :
    (ofList l : Keyed key).items.length = l.length ↔ (l.map key).Nodup := by
  have h := length_foldl_upsert_iff (∅ : Keyed key) l
  simpa [ofList] using h

/-- Items with distinct keys stay as they are, in order. -/
theorem items_foldl_upsert (s : Keyed key) (l : List α)
    (h : (s.items.map key ++ l.map key).Nodup) : (l.foldl upsert s).items = s.items ++ l := by
  induction l generalizing s with
  | nil => simp
  | cons a l ih =>
    have hnew : s.get? (key a) = none := by
      rw [get?_eq_none]
      intro b hb hkey
      exact List.disjoint_of_nodup_append h (hkey ▸ List.mem_map_of_mem hb) List.mem_cons_self
    have hitems := items_upsert_of_new hnew
    rw [List.foldl_cons, ih (s.upsert a) (by simpa [hitems] using h), hitems, List.append_assoc]
    rfl

theorem items_ofList {l : List α} (h : (l.map key).Nodup) : (ofList l : Keyed key).items = l :=
  items_foldl_upsert ∅ l h

end Upsert

section Filter

/-- Keep the items that `p` accepts. -/
def filter (s : Keyed key) (p : α → Bool) : Keyed key :=
  ⟨s.items.filter p, s.nodup.sublist (List.filter_sublist.map key)⟩

@[simp] theorem items_filter (s : Keyed key) (p : α → Bool) :
    (s.filter p).items = s.items.filter p := rfl

variable [DecidableEq κ]

theorem get?_filter_of_keep (s : Keyed key) {p : α → Bool} {k : κ}
    (h : ∀ a, key a = k → p a = true) : (s.filter p).get? k = s.get? k := by
  simp only [get?, items_filter, List.find?_filter]
  congr 1
  funext a
  by_cases hk : key a = k
  · simp [hk, h a hk]
  · simp [hk]

theorem get?_filter_of_drop (s : Keyed key) {p : α → Bool} {k : κ}
    (h : ∀ a, key a = k → p a = false) : (s.filter p).get? k = none := by
  rw [get?_eq_none]
  intro a ha hk
  have hkeep := (List.mem_filter.mp ha).2
  rw [h a hk] at hkeep
  cases hkeep

end Filter

section Map

variable (f : α → α) (hf : ∀ a, key (f a) = key a)

/-- Change every item, and keep its key. -/
def map (s : Keyed key) : Keyed key where
  items := s.items.map f
  nodup := by
    rw [List.map_map, show key ∘ f = key from funext hf]
    exact s.nodup

@[simp] theorem items_map (s : Keyed key) : (s.map f hf).items = s.items.map f := rfl

@[simp] theorem map_empty : (∅ : Keyed key).map f hf = ∅ := rfl

variable [DecidableEq κ]

theorem get?_map (s : Keyed key) (k : κ) : (s.map f hf).get? k = (s.get? k).map f := by
  simp only [get?, items_map, List.find?_map]
  congr 1
  apply congrArg (fun p => s.items.find? p)
  funext a
  simp [hf]

theorem upsert_map (s : Keyed key) (a : α) :
    (s.map f hf).upsert (f a) = (s.upsert a).map f hf := by
  apply ext
  show upsertList key (f a) (s.items.map f) = (upsertList key a s.items).map f
  induction s.items with
  | nil => rfl
  | cons b bs ih =>
    simp only [List.map_cons, upsertList, hf, ih]
    split_ifs <;> rfl

end Map

section Total

variable {M : Type*} [AddCommMonoid M]

/-- The sum of `f` over all items. -/
def total (s : Keyed key) (f : α → M) : M := (s.items.map f).sum

@[simp] theorem total_empty (f : α → M) : (∅ : Keyed key).total f = 0 := rfl

variable [DecidableEq κ]

/-- One `upsert` trades the old item's measure for the new one's. -/
theorem total_upsert (s : Keyed key) (a : α) (f : α → M) :
    (s.upsert a).total f + ((s.get? (key a)).map f).getD 0 = s.total f + f a := by
  obtain ⟨items, nodup⟩ := s
  simp only [total, upsert, get?]
  clear nodup
  induction items with
  | nil => simp [upsertList]
  | cons b bs ih =>
    unfold upsertList
    split
    · next heq => simp [heq, add_comm, add_left_comm]
    · next hne =>
      rw [List.find?_cons_of_neg (by simpa using hne)]
      simp only [List.map_cons, List.sum_cons]
      rw [add_assoc, ih, add_assoc]

/-- A measure that vanishes away from key `k` sums to its value at `k`. -/
theorem total_eq_get? (s : Keyed key) (k : κ) (f : α → M) (h : ∀ a, key a ≠ k → f a = 0) :
    s.total f = ((s.get? k).map f).getD 0 := by
  obtain ⟨items, nodup⟩ := s
  simp only [total, get?]
  induction items with
  | nil => simp
  | cons b bs ih =>
    have hnd := List.nodup_cons.mp nodup
    simp only [List.map_cons, List.sum_cons]
    by_cases hb : key b = k
    · have hrest : (bs.map f).sum = 0 := by
        apply List.sum_eq_zero
        intro x hx
        obtain ⟨c, hc, rfl⟩ := List.mem_map.mp hx
        exact h c fun hck => hnd.1 (hb ▸ hck ▸ List.mem_map_of_mem hc)
      simp [hb, hrest]
    · rw [List.find?_cons_of_neg (by simpa using hb), h b hb, zero_add]
      exact ih hnd.2

end Total

end Keyed
