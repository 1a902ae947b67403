import Mathlib.Data.List.Nodup

/-! # Numbering repetitions

    A list of names is made distinct by numbering what is repeated: the first
    occurrence of a name stands as it is, and the second and those after it get
    their number.

    * `ranked` — every entry with its number among the entries equal to it.
    * `label` — what an entry is called.
    * `nodup_labels_iff` — the names are distinct when no numbered name was
      already in the list.
    * `append_toString_inj` — a number after a separator can be read back.
-/

namespace Numbering

section

variable {α : Type*} [DecidableEq α]

/-- Every entry with its number among the entries equal to it, where `seen`
    counts those that came before the list. -/
def ranked : (α → ℕ) → List α → List (α × ℕ)
  | _, [] => []
  | seen, a :: l => (a, seen a + 1) :: ranked (Function.update seen a (seen a + 1)) l

/-- The name of an entry. -/
def label (numbered : α → ℕ → α) (entry : α × ℕ) : α :=
  if entry.2 = 1 then entry.1 else numbered entry.1 entry.2

variable {l : List α} {seen : α → ℕ}

@[simp] theorem length_ranked : (ranked seen l).length = l.length := by
  induction l generalizing seen with
  | nil => rfl
  | cons a l ih => rw [ranked, List.length_cons, List.length_cons, ih]

/-- The numbers of an entry are those from the first that is free up to its
    count. -/
theorem mem_ranked {a : α} {k : ℕ} :
    (a, k) ∈ ranked seen l ↔ seen a < k ∧ k ≤ seen a + l.count a := by
  induction l generalizing seen with
  | nil =>
    simp only [ranked, List.not_mem_nil, List.count_nil, false_iff]
    omega
  | cons b l ih =>
    rw [ranked, List.mem_cons, ih, Prod.mk.injEq]
    by_cases hab : a = b
    · subst hab
      rw [Function.update_self, List.count_cons_self]
      simp only [true_and]
      omega
    · rw [Function.update_of_ne hab, List.count_cons_of_ne (Ne.symm hab)]
      simp only [hab, false_and, false_or]

/-- No entry has one number twice. -/
theorem nodup_ranked : (ranked seen l).Nodup := by
  induction l generalizing seen with
  | nil => exact List.nodup_nil
  | cons a l ih =>
    rw [ranked, List.nodup_cons]
    refine ⟨fun hmem => ?_, ih⟩
    have hfree := (mem_ranked.mp hmem).1
    rw [Function.update_self] at hfree
    exact absurd hfree (Nat.lt_irrefl _)

/-- The names are distinct unless a numbered name was in the list. -/
theorem nodup_labels_iff {numbered : α → ℕ → α}
    (hinj : ∀ a b j k, numbered a j = numbered b k → a = b ∧ j = k) :
    ((ranked (fun _ => 0) l).map (label numbered)).Nodup ↔
      ∀ a k, 2 ≤ k → k ≤ l.count a → numbered a k ∉ l := by
  rw [List.nodup_map_iff_inj_on nodup_ranked]
  constructor
  · intro hlabels a k htwo hcount hmem
    -- The text is the name of its own first occurrence and of the `k`th of `a`.
    have hfirst : (numbered a k, 1) ∈ ranked (fun _ => 0) l :=
      mem_ranked.mpr ⟨Nat.one_pos, by simpa using List.count_pos_iff.mpr hmem⟩
    have hlater : (a, k) ∈ ranked (fun _ => 0) l := mem_ranked.mpr ⟨by omega, by simpa using hcount⟩
    have hsame : label numbered (numbered a k, 1) = label numbered (a, k) := by
      rw [label, label, if_pos rfl, if_neg (by simp only; omega)]
    have hone := (Prod.mk.inj (hlabels _ hfirst _ hlater hsame)).2
    omega
  · rintro hfree ⟨a, j⟩ ha ⟨b, k⟩ hb hsame
    obtain ⟨hj, hcount_a⟩ := mem_ranked.mp ha
    obtain ⟨hk, hcount_b⟩ := mem_ranked.mp hb
    rw [Nat.zero_add] at hcount_a hcount_b
    have hmem : ∀ {c : α} {i : ℕ}, 0 < i → i ≤ l.count c → c ∈ l :=
      fun hi hcount => List.count_pos_iff.mp (Nat.lt_of_lt_of_le hi hcount)
    simp only [label] at hsame
    by_cases hj_one : j = 1
    · by_cases hk_one : k = 1
      · rw [if_pos hj_one, if_pos hk_one] at hsame
        rw [hsame, hj_one, hk_one]
      · rw [if_pos hj_one, if_neg hk_one] at hsame
        exact absurd (hsame ▸ hmem hj hcount_a) (hfree b k (by omega) hcount_b)
    · by_cases hk_one : k = 1
      · rw [if_neg hj_one, if_pos hk_one] at hsame
        exact absurd (hsame ▸ hmem hk hcount_b) (hfree a j (by omega) hcount_a)
      · rw [if_neg hj_one, if_neg hk_one] at hsame
        obtain ⟨rfl, rfl⟩ := hinj a b j k hsame
        rfl

end

/-! ## Numbers at the end of a text -/

/-- The last occurrence of a separator splits a list in one way. -/
theorem append_cons_inj {α : Type*} {c : α} {xs ys ds es : List α} (hd : c ∉ ds) (he : c ∉ es)
    (h : xs ++ c :: ds = ys ++ c :: es) : xs = ys ∧ ds = es := by
  rcases List.append_eq_append_iff.mp h with ⟨between, rfl, hrest⟩ | ⟨between, rfl, hrest⟩
  · cases between with
    | nil => simpa using hrest
    | cons b between =>
      obtain ⟨rfl, rfl⟩ := List.cons.inj hrest
      simp at hd
  · cases between with
    | nil => simpa [eq_comm] using hrest
    | cons b between =>
      obtain ⟨rfl, rfl⟩ := List.cons.inj hrest
      simp at he

theorem toList_toString (k : ℕ) : (toString k).toList = Nat.toDigits 10 k := by
  rw [Nat.toString_eq_repr, Nat.toList_repr]

theorem toString_inj {j k : ℕ} (h : (toString j).toList = (toString k).toList) : j = k := by
  rw [toList_toString, toList_toString] at h
  simpa using congrArg (fun digits => Nat.ofDigitChars 10 digits 0) h

/-- A number after a separator that is not a digit can be read back. -/
theorem append_toString_inj {c : Char} (hc : c.isDigit = false) {xs ys : List Char} {j k : ℕ}
    (h : xs ++ c :: (toString j).toList = ys ++ c :: (toString k).toList) : xs = ys ∧ j = k := by
  have hdigits : ∀ n : ℕ, c ∉ (toString n).toList := by
    intro n hmem
    rw [toList_toString] at hmem
    have hdigit := Nat.isDigit_of_mem_toDigits (by decide) (by decide) hmem
    exact absurd (hc.symm.trans hdigit) (by decide)
  obtain ⟨hxs, htext⟩ := append_cons_inj (hdigits j) (hdigits k) h
  exact ⟨hxs, toString_inj htext⟩

end Numbering
