import Mathlib.Data.List.Sort
import Mathlib.Order.Lattice

/-! # Calendars

    A calendar is a strictly increasing list of instants; a series puts a value
    on each of them. What is derived from a value and the one before it depends
    on the calendar that says which one is before.

    * `previous` — the last instant of a calendar before a given one.
    * `steps` — a series of changes, each filed under the instant it ends at.
    * `Agree` — two calendars have the same instants from the first that they
      share to the last, and one of them begins there.
    * `samePrevious_iff_agree` — the calendars agree exactly when every instant at
      which both have a change has the same predecessor in both.
-/

namespace Calendar

section

variable {α : Type*} [LinearOrder α]

/-! ## Extremes of an increasing list -/

theorem head?_eq_some {l : List α} (hl : l.Pairwise (· < ·)) {a : α} :
    l.head? = some a ↔ a ∈ l ∧ ∀ b ∈ l, a ≤ b := by
  cases l with
  | nil => simp
  | cons c l =>
    have hfirst := (List.pairwise_cons.mp hl).1
    rw [List.head?_cons, Option.some.injEq]
    constructor
    · rintro rfl
      refine ⟨List.mem_cons_self, fun b hb => ?_⟩
      rcases List.mem_cons.mp hb with rfl | hb
      · exact le_rfl
      · exact (hfirst b hb).le
    · rintro ⟨ha, hleast⟩
      rcases List.mem_cons.mp ha with rfl | ha
      · rfl
      · exact absurd (hfirst a ha) (hleast c List.mem_cons_self).not_gt

theorem getLast?_eq_some {l : List α} (hl : l.Pairwise (· < ·)) {a : α} :
    l.getLast? = some a ↔ a ∈ l ∧ ∀ b ∈ l, b ≤ a := by
  rcases List.eq_nil_or_concat' l with rfl | ⟨init, c, rfl⟩
  · simp
  · have hlast := (List.pairwise_append.mp hl).2.2
    rw [List.getLast?_concat, Option.some.injEq]
    constructor
    · rintro rfl
      refine ⟨by simp, fun b hb => ?_⟩
      rcases List.mem_append.mp hb with hb | hb
      · exact (hlast b hb c (by simp)).le
      · exact (List.mem_singleton.mp hb).le
    · rintro ⟨ha, hgreatest⟩
      rcases List.mem_append.mp ha with ha | ha
      · exact absurd (hlast a ha c (by simp)) (hgreatest c (by simp)).not_gt
      · exact (List.mem_singleton.mp ha).symm

/-! ## The instant before -/

/-- The last instant before `t`. -/
def previous (l : List α) (t : α) : Option α := (l.filter (fun b => decide (b < t))).getLast?

theorem previous_eq_some {l : List α} (hl : l.Pairwise (· < ·)) {t p : α} :
    previous l t = some p ↔ p ∈ l ∧ p < t ∧ ∀ b ∈ l, b < t → b ≤ p := by
  unfold previous
  rw [getLast?_eq_some (hl.filter _)]
  simp only [List.mem_filter, decide_eq_true_eq, and_imp, and_assoc]

theorem previous_eq_none {l : List α} {t : α} : previous l t = none ↔ ∀ b ∈ l, t ≤ b := by
  unfold previous
  rw [List.getLast?_eq_none_iff, List.filter_eq_nil_iff]
  simp

theorem exists_previous {l : List α} {a t : α} (ha : a ∈ l) (hlt : a < t) :
    ∃ p, previous l t = some p := by
  cases h : previous l t with
  | none => exact absurd hlt (previous_eq_none.mp h a ha).not_gt
  | some p => exact ⟨p, rfl⟩

/-- All but the first have one. -/
theorem mem_tail_iff {l : List α} (hl : l.Pairwise (· < ·)) {t : α} :
    t ∈ l.tail ↔ t ∈ l ∧ ∃ p, previous l t = some p := by
  cases l with
  | nil => simp
  | cons a l =>
    have hfirst := (List.pairwise_cons.mp hl).1
    rw [List.tail_cons]
    constructor
    · intro ht
      exact ⟨List.mem_cons_of_mem _ ht, exists_previous List.mem_cons_self (hfirst t ht)⟩
    · rintro ⟨ht, p, hp⟩
      rcases List.mem_cons.mp ht with rfl | ht
      · obtain ⟨hmem, hlt, -⟩ := (previous_eq_some hl).mp hp
        rcases List.mem_cons.mp hmem with rfl | hmem
        · exact absurd hlt (lt_irrefl _)
        · exact absurd (hfirst p hmem) hlt.not_gt
      · exact ht

end

/-! ## Series of changes -/

section

variable {α β γ : Type*}

/-- Each value but the first, combined with the one before it. -/
def steps (f : β → β → γ) (series : List (α × β)) : List (α × γ) :=
  List.zipWith (fun before now => (now.1, f before.2 now.2)) series series.tail

/-- The instants of a series. -/
def index (series : List (α × β)) : List α := series.map Prod.fst

@[simp] theorem steps_cons_cons (f : β → β → γ) (a b : α × β) (series : List (α × β)) :
    steps f (a :: b :: series) = (b.1, f a.2 b.2) :: steps f (b :: series) := rfl

theorem index_steps (f : β → β → γ) (series : List (α × β)) :
    index (steps f series) = (index series).tail := by
  cases series with
  | nil => rfl
  | cons a series =>
    induction series generalizing a with
    | nil => rfl
    | cons b series ih =>
      rw [steps_cons_cons]
      show b.1 :: index (steps f (b :: series)) = b.1 :: index series
      rw [ih b]
      rfl

/-- A change is between two rows of the series. -/
theorem exists_of_mem_steps {f : β → β → γ} {series : List (α × β)} {row : α × γ}
    (h : row ∈ steps f series) :
    ∃ before ∈ series, ∃ now ∈ series, row = (now.1, f before.2 now.2) := by
  unfold steps at h
  rw [← List.map_uncurry_zip_eq_zipWith] at h
  obtain ⟨⟨before, now⟩, hpair, rfl⟩ := List.mem_map.mp h
  obtain ⟨hbefore, hnow⟩ := List.of_mem_zip hpair
  exact ⟨before, hbefore, now, List.mem_of_mem_tail hnow, rfl⟩

theorem mem_of_lookup [DecidableEq α] {series : List (α × β)} {t : α} {value : β}
    (h : series.lookup t = some value) : (t, value) ∈ series := by
  obtain ⟨before, after, rfl, -⟩ := List.lookup_eq_some_iff.mp h
  simp

/-- A series is read at the instants of its index. -/
theorem exists_lookup [DecidableEq α] {series : List (α × β)} {t : α} (h : t ∈ index series) :
    ∃ value, series.lookup t = some value := by
  obtain ⟨row, hrow, rfl⟩ := List.mem_map.mp h
  rw [← Option.isSome_iff_exists, List.lookup_isSome_iff]
  exact ⟨row, hrow, beq_self_eq_true _⟩

/-- Each instant has one value. -/
theorem lookup_of_mem [DecidableEq α] {series : List (α × β)} (hindex : (index series).Nodup)
    {t : α} {value : β} (h : (t, value) ∈ series) : series.lookup t = some value := by
  obtain ⟨found, hfound⟩ := exists_lookup (List.mem_map_of_mem (f := Prod.fst) h)
  have hmem := mem_of_lookup hfound
  have heq := List.inj_on_of_nodup_map hindex hmem h rfl
  rw [hfound, (Prod.mk.inj heq).2]

/-- A change filed under `t` is the change since the instant before. -/
theorem of_mem_steps [LinearOrder α] {f : β → β → γ} {series : List (α × β)}
    (hindex : (index series).Pairwise (· < ·)) {t : α} {change : γ}
    (h : (t, change) ∈ steps f series) :
    ∃ p before now, previous (index series) t = some p ∧ (p, before) ∈ series ∧
      (t, now) ∈ series ∧ change = f before now := by
  cases series with
  | nil => cases h
  | cons a series =>
    induction series generalizing a with
    | nil => cases h
    | cons b series ih =>
      obtain ⟨hfirst, hrest⟩ := List.pairwise_cons.mp hindex
      rw [steps_cons_cons] at h
      rcases List.mem_cons.mp h with heq | h
      · obtain ⟨rfl, rfl⟩ := Prod.mk.inj heq
        refine ⟨a.1, a.2, b.2, (previous_eq_some hindex).mpr ⟨List.mem_cons_self,
          hfirst _ List.mem_cons_self, ?_⟩, List.mem_cons_self,
          List.mem_cons_of_mem _ List.mem_cons_self, rfl⟩
        -- Whatever comes after `b` is not before it.
        intro c hc hlt
        rcases List.mem_cons.mp hc with rfl | hc
        · exact le_rfl
        · rcases List.mem_cons.mp hc with rfl | hc
          · exact absurd hlt (lt_irrefl _)
          · exact absurd ((List.pairwise_cons.mp hrest).1 c hc) hlt.not_gt
      · obtain ⟨p, before, now, hprevious, hbefore, hnow, hchange⟩ := ih b hrest h
        obtain ⟨hp, hlt, hlast⟩ := (previous_eq_some hrest).mp hprevious
        refine ⟨p, before, now, (previous_eq_some hindex).mpr ⟨List.mem_cons_of_mem _ hp, hlt, ?_⟩,
          List.mem_cons_of_mem _ hbefore, List.mem_cons_of_mem _ hnow, hchange⟩
        intro c hc hct
        rcases List.mem_cons.mp hc with rfl | hc
        · exact (hfirst p hp).le
        · exact hlast c hc hct

end

/-! ## Two calendars -/

section

variable {α : Type*} [LinearOrder α]

/-- The instants that both calendars have. -/
def shared (l m : List α) : List α := l.filter (fun t => decide (t ∈ m))

/-- Between the first and the last instant that they share the calendars do not
    differ, and one of them begins with the first. -/
def Agree (l m : List α) : Prop :=
  ∀ first ∈ (shared l m).head?, ∀ last ∈ (shared l m).getLast?,
    (l.head? = some first ∨ m.head? = some first) ∧
      ∀ t, first ≤ t → t ≤ last → (t ∈ l ↔ t ∈ m)

/-- The changes that both calendars have at an instant are changes since the
    same instant. -/
def SamePrevious (l m : List α) : Prop :=
  ∀ t, t ∈ l → t ∈ m → ∀ p q, previous l t = some p → previous m t = some q → p = q

variable {l m : List α}

theorem mem_shared {t : α} : t ∈ shared l m ↔ t ∈ l ∧ t ∈ m := by
  simp [shared]

/-- Fewer instants are before `p` than before what comes after it. -/
theorem length_before_lt {p s : α} (hp : p ∈ l) (hps : p < s) :
    (l.filter (fun b => decide (b < p))).length < (l.filter (fun b => decide (b < s))).length := by
  have hbefore : l.filter (fun b => decide (b < p))
      = (l.filter (fun b => decide (b < s))).filter (fun b => decide (b < p)) := by
    rw [List.filter_filter]
    apply List.filter_congr
    intro b _
    by_cases hb : b < p
    · simp [hb, hb.trans hps]
    · simp [hb]
  rw [hbefore, List.length_filter_lt_length_iff_exists]
  exact ⟨p, List.mem_filter.mpr ⟨hp, decide_eq_true hps⟩, by simp⟩

/-- Calendars that agree on predecessors share everything from the first instant
    that they share up to any other. Induction over the instants before that. -/
theorem SamePrevious.mem_iff (h : SamePrevious l m) (hl : l.Pairwise (· < ·))
    (hm : m.Pairwise (· < ·)) {first s t : α} (hfirst : first ∈ shared l m)
    (hs : s ∈ shared l m) (hft : first ≤ t) (hts : t ≤ s) : t ∈ l ↔ t ∈ m := by
  induction hk : (l.filter (fun b => decide (b < s))).length using Nat.strong_induction_on
    generalizing s with
  | _ k ih =>
    subst hk
    obtain ⟨hsl, hsm⟩ := mem_shared.mp hs
    rcases hts.eq_or_lt with rfl | hlt
    · exact ⟨fun _ => hsm, fun _ => hsl⟩
    · obtain ⟨hfl, hfm⟩ := mem_shared.mp hfirst
      obtain ⟨p, hp⟩ := exists_previous hfl (hft.trans_lt hlt)
      obtain ⟨q, hq⟩ := exists_previous hfm (hft.trans_lt hlt)
      obtain rfl := h s hsl hsm p q hp hq
      obtain ⟨hpl, hps, hplast⟩ := (previous_eq_some hl).mp hp
      obtain ⟨hpm, -, hqlast⟩ := (previous_eq_some hm).mp hq
      -- `p` is the next shared instant down, and `t` is not above it.
      have hrest : t ≤ p → (t ∈ l ↔ t ∈ m) := fun htp =>
        ih _ (length_before_lt hpl hps) (mem_shared.mpr ⟨hpl, hpm⟩) htp rfl
      constructor
      · exact fun ht => (hrest (hplast t ht hlt)).mp ht
      · exact fun ht => (hrest (hqlast t ht hlt)).mpr ht

theorem samePrevious_iff_agree (hl : l.Pairwise (· < ·)) (hm : m.Pairwise (· < ·)) :
    SamePrevious l m ↔ Agree l m := by
  have hshared : (shared l m).Pairwise (· < ·) := hl.filter _
  constructor
  · intro h first hfirst last hlast
    obtain ⟨hfirst, hleast⟩ := (head?_eq_some hshared).mp hfirst
    obtain ⟨hlast, -⟩ := (getLast?_eq_some hshared).mp hlast
    obtain ⟨hfl, hfm⟩ := mem_shared.mp hfirst
    refine ⟨?_, fun t hft htl => h.mem_iff hl hm hfirst hlast hft htl⟩
    -- If both had an instant before the first shared one, it would be shared.
    by_contra hnone
    rw [not_or, head?_eq_some hl, head?_eq_some hm] at hnone
    push Not at hnone
    obtain ⟨b, hb, hbf⟩ := hnone.1 hfl
    obtain ⟨c, hc, hcf⟩ := hnone.2 hfm
    obtain ⟨p, hp⟩ := exists_previous hb hbf
    obtain ⟨q, hq⟩ := exists_previous hc hcf
    obtain rfl := h first hfl hfm p q hp hq
    obtain ⟨hpl, hpf, -⟩ := (previous_eq_some hl).mp hp
    obtain ⟨hpm, -⟩ := (previous_eq_some hm).mp hq
    exact absurd hpf (hleast p (mem_shared.mpr ⟨hpl, hpm⟩)).not_gt
  · intro h t htl htm p q hp hq
    obtain ⟨hpl, hpt, hplast⟩ := (previous_eq_some hl).mp hp
    obtain ⟨hqm, hqt, hqlast⟩ := (previous_eq_some hm).mp hq
    have ht : t ∈ shared l m := mem_shared.mpr ⟨htl, htm⟩
    obtain ⟨first, hfirst⟩ := Option.isSome_iff_exists.mp
      (List.isSome_head?.mpr (List.ne_nil_of_mem ht))
    obtain ⟨last, hlast⟩ := Option.isSome_iff_exists.mp
      (List.getLast?_isSome.mpr (List.ne_nil_of_mem ht))
    obtain ⟨hbegin, hsame⟩ := h first hfirst last hlast
    obtain ⟨hfirst, hleast⟩ := (head?_eq_some hshared).mp hfirst
    obtain ⟨-, hgreatest⟩ := (getLast?_eq_some hshared).mp hlast
    obtain ⟨hfl, hfm⟩ := mem_shared.mp hfirst
    -- `t` is not the first: both calendars have an instant before it.
    have hft : first < t := by
      apply lt_of_le_of_ne (hleast t ht)
      rintro rfl
      rcases hbegin with hbegin | hbegin
      · exact absurd hpt (((head?_eq_some hl).mp hbegin).2 p hpl).not_gt
      · exact absurd hqt (((head?_eq_some hm).mp hbegin).2 q hqm).not_gt
    have hpm : p ∈ m := (hsame p (hplast first hfl hft) (hpt.le.trans (hgreatest t ht))).mp hpl
    have hql : q ∈ l := (hsame q (hqlast first hfm hft) (hqt.le.trans (hgreatest t ht))).mpr hqm
    exact le_antisymm (hqlast p hpm hpt) (hplast q hql hqt)

end

end Calendar
