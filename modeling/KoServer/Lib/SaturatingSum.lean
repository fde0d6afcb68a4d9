import Mathlib.Algebra.BigOperators.Group.List.Basic
import Mathlib.Algebra.Order.Ring.Int
import Mathlib.Data.List.Perm.Basic

/-! Sums that stop at the ends of a range, and when the order of the summands does not matter to
them. What a sum can come to is bounded by what rises and what falls in it. -/

/-- A range of integers around zero. -/
structure Saturating where
  lo : ℤ
  hi : ℤ
  lo_neg : lo < 0
  hi_pos : 0 < hi

namespace Saturating

/-- What the summands above zero come to. -/
def rise (l : List ℤ) : ℤ := (l.map fun x => max x 0).sum

/-- What the summands below zero come to. -/
def fall (l : List ℤ) : ℤ := (l.map fun x => min x 0).sum

@[simp] theorem rise_nil : rise [] = 0 := rfl

@[simp] theorem fall_nil : fall [] = 0 := rfl

@[simp] theorem rise_cons (x : ℤ) (l : List ℤ) : rise (x :: l) = max x 0 + rise l := by
  simp [rise]

@[simp] theorem fall_cons (x : ℤ) (l : List ℤ) : fall (x :: l) = min x 0 + fall l := by
  simp [fall]

theorem rise_perm {l l' : List ℤ} (h : l.Perm l') : rise l = rise l' := (h.map _).sum_eq

theorem fall_perm {l l' : List ℤ} (h : l.Perm l') : fall l = fall l' := (h.map _).sum_eq

theorem rise_nonneg (l : List ℤ) : 0 ≤ rise l := by
  induction l with
  | nil => simp
  | cons x l ih =>
    rw [rise_cons]
    omega

theorem fall_nonpos (l : List ℤ) : fall l ≤ 0 := by
  induction l with
  | nil => simp
  | cons x l ih =>
    rw [fall_cons]
    omega

theorem sum_eq (l : List ℤ) : l.sum = rise l + fall l := by
  induction l with
  | nil => simp
  | cons x l ih =>
    rw [List.sum_cons, rise_cons, fall_cons, ih]
    omega

theorem fall_of_nonneg {l : List ℤ} (h : ∀ x ∈ l, 0 ≤ x) : fall l = 0 := by
  induction l with
  | nil => simp
  | cons x l ih =>
    obtain ⟨hx, hl⟩ := List.forall_mem_cons.mp h
    rw [fall_cons, ih hl]
    omega

theorem rise_of_nonpos {l : List ℤ} (h : ∀ x ∈ l, x ≤ 0) : rise l = 0 := by
  induction l with
  | nil => simp
  | cons x l ih =>
    obtain ⟨hx, hl⟩ := List.forall_mem_cons.mp h
    rw [rise_cons, ih hl]
    omega

theorem sum_filter_nonneg (l : List ℤ) : (l.filter fun x => decide (0 ≤ x)).sum = rise l := by
  induction l with
  | nil => simp
  | cons x l ih =>
    rw [List.filter_cons, rise_cons]
    by_cases hx : 0 ≤ x
    · simp only [hx, decide_true, if_true, List.sum_cons, ih]
      omega
    · simp only [hx, decide_false, Bool.false_eq_true, if_false, ih]
      omega

theorem sum_filter_neg (l : List ℤ) : (l.filter fun x => !decide (0 ≤ x)).sum = fall l := by
  induction l with
  | nil => simp
  | cons x l ih =>
    rw [List.filter_cons, fall_cons]
    by_cases hx : 0 ≤ x
    · simp only [hx, decide_true, Bool.not_true, Bool.false_eq_true, if_false, ih]
      omega
    · simp only [hx, decide_false, Bool.not_false, if_true, List.sum_cons, ih]
      omega

/-- A list that falls far enough starts with a part that falls by the distance, and by no more than
one summand beyond it. -/
theorem exists_part {l : List ℤ} {d b : ℤ} (hd : 0 ≤ d) (hb : 0 ≤ b)
    (h : ∀ x ∈ l, -b ≤ x) (hl : l.sum ≤ -d) :
    ∃ l₁ l₂, l = l₁ ++ l₂ ∧ -d - b ≤ l₁.sum ∧ l₁.sum ≤ -d := by
  induction l generalizing d with
  | nil =>
    refine ⟨[], [], rfl, ?_, hl⟩
    simp only [List.sum_nil]
    omega
  | cons x l ih =>
    obtain ⟨hx, ht⟩ := List.forall_mem_cons.mp h
    rw [List.sum_cons] at hl
    by_cases hfar : x ≤ -d
    · refine ⟨[x], l, rfl, ?_, ?_⟩ <;> rw [List.sum_singleton] <;> omega
    · -- the distance that is left after the first summand
      obtain ⟨l₁, l₂, rfl, hlow, hhigh⟩ := ih (d := d + x) (by omega) ht (by omega)
      refine ⟨x :: l₁, l₂, rfl, ?_, ?_⟩ <;> rw [List.sum_cons] <;> omega

variable (s : Saturating)

def clamp (a : ℤ) : ℤ := max s.lo (min a s.hi)

def add (a b : ℤ) : ℤ := s.clamp (a + b)

def sum (l : List ℤ) : ℤ := l.foldl s.add 0

/-- Where the order of the summands does not matter: the sum stays off an end, or has only summands
that go towards it. -/
def OrderFree (l : List ℤ) : Prop :=
  (rise l ≤ s.hi ∨ fall l = 0) ∧ (s.lo ≤ fall l ∨ rise l = 0)

variable {s}

theorem clamp_mem (a : ℤ) : s.lo ≤ s.clamp a ∧ s.clamp a ≤ s.hi := by
  have := s.lo_neg
  have := s.hi_pos
  unfold clamp
  omega

theorem foldl_mem {l : List ℤ} {a : ℤ} (ha : s.lo ≤ a ∧ a ≤ s.hi) :
    s.lo ≤ l.foldl s.add a ∧ l.foldl s.add a ≤ s.hi := by
  induction l generalizing a with
  | nil => exact ha
  | cons x l ih => exact ih (clamp_mem (a + x))

/-- The sum falls short only by what falls after it stood at the upper end. -/
theorem le_foldl (l : List ℤ) (a : ℤ) :
    min (a + l.sum) (s.hi + fall l) ≤ l.foldl s.add a := by
  induction l generalizing a with
  | nil => simp
  | cons x l ih =>
    apply le_trans _ (ih (s.add a x))
    have := rise_nonneg l
    rw [List.sum_cons, fall_cons, sum_eq, add, clamp]
    omega

theorem foldl_le (l : List ℤ) (a : ℤ) :
    l.foldl s.add a ≤ max (a + l.sum) (s.lo + rise l) := by
  induction l generalizing a with
  | nil => simp
  | cons x l ih =>
    apply le_trans (ih (s.add a x))
    have := fall_nonpos l
    rw [List.sum_cons, rise_cons, sum_eq, add, clamp]
    omega

theorem foldl_of_nonneg {l : List ℤ} {a : ℤ} (ha : s.lo ≤ a ∧ a ≤ s.hi) (h : ∀ x ∈ l, 0 ≤ x) :
    l.foldl s.add a = s.clamp (a + l.sum) := by
  have hge := le_foldl (s := s) l a
  have hle := foldl_le (s := s) l a
  have hmem := foldl_mem (l := l) ha
  have hsum := sum_eq l
  have := rise_nonneg l
  rw [fall_of_nonneg h] at hge hsum
  unfold clamp
  omega

theorem foldl_of_nonpos {l : List ℤ} {a : ℤ} (ha : s.lo ≤ a ∧ a ≤ s.hi) (h : ∀ x ∈ l, x ≤ 0) :
    l.foldl s.add a = s.clamp (a + l.sum) := by
  have hge := le_foldl (s := s) l a
  have hle := foldl_le (s := s) l a
  have hmem := foldl_mem (l := l) ha
  have hsum := sum_eq l
  have := fall_nonpos l
  rw [rise_of_nonpos h] at hle hsum
  unfold clamp
  omega

theorem zero_mem : s.lo ≤ 0 ∧ 0 ≤ s.hi := ⟨s.lo_neg.le, s.hi_pos.le⟩

theorem sum_mem (l : List ℤ) : s.lo ≤ s.sum l ∧ s.sum l ≤ s.hi := foldl_mem zero_mem

theorem le_sum (l : List ℤ) : min l.sum (s.hi + fall l) ≤ s.sum l := by
  have h := le_foldl (s := s) l 0
  rwa [zero_add] at h

theorem sum_le (l : List ℤ) : s.sum l ≤ max l.sum (s.lo + rise l) := by
  have h := foldl_le (s := s) l 0
  rwa [zero_add] at h

/-- A sum that stays off both ends is the exact one. -/
theorem sum_exact {l : List ℤ} (hhi : rise l ≤ s.hi) (hlo : s.lo ≤ fall l) : s.sum l = l.sum := by
  have hge := le_sum (s := s) l
  have hle := sum_le (s := s) l
  rw [sum_eq] at *
  omega

theorem OrderFree.perm {l l' : List ℤ} (h : s.OrderFree l) (hp : l'.Perm l) : s.OrderFree l' := by
  unfold OrderFree
  rw [rise_perm hp, fall_perm hp]
  exact h

theorem OrderFree.sum_eq_clamp {l : List ℤ} (h : s.OrderFree l) : s.sum l = s.clamp l.sum := by
  have hge := le_sum (s := s) l
  have hle := sum_le (s := s) l
  have hmem := sum_mem (s := s) l
  have := rise_nonneg l
  have := fall_nonpos l
  obtain ⟨hrise, hfall⟩ := h
  rw [sum_eq] at *
  unfold clamp
  omega

/-- The summands below zero come last. -/
def risesFirst (l : List ℤ) : List ℤ :=
  (l.filter fun x => decide (0 ≤ x)) ++ l.filter fun x => !decide (0 ≤ x)

/-- The summands below zero come first. -/
def fallsFirst (l : List ℤ) : List ℤ :=
  (l.filter fun x => !decide (0 ≤ x)) ++ l.filter fun x => decide (0 ≤ x)

theorem risesFirst_perm (l : List ℤ) : (risesFirst l).Perm l :=
  List.filter_append_perm (fun x => decide (0 ≤ x)) l

theorem fallsFirst_perm (l : List ℤ) : (fallsFirst l).Perm l :=
  List.perm_append_comm.trans (risesFirst_perm l)

theorem nonneg_of_filter {l : List ℤ} : ∀ x ∈ l.filter (fun x => decide (0 ≤ x)), 0 ≤ x := by
  intro x hx
  exact of_decide_eq_true (List.mem_filter.mp hx).2

theorem nonpos_of_filter {l : List ℤ} : ∀ x ∈ l.filter (fun x => !decide (0 ≤ x)), x ≤ 0 := by
  intro x hx
  have h := (List.mem_filter.mp hx).2
  simp only [Bool.not_eq_true', decide_eq_false_iff_not] at h
  omega

theorem sum_risesFirst (l : List ℤ) :
    s.sum (risesFirst l) = s.clamp (s.clamp (rise l) + fall l) := by
  rw [sum, risesFirst, List.foldl_append, foldl_of_nonneg zero_mem nonneg_of_filter,
    foldl_of_nonpos (clamp_mem _) nonpos_of_filter, sum_filter_nonneg, sum_filter_neg, zero_add]

theorem sum_fallsFirst (l : List ℤ) :
    s.sum (fallsFirst l) = s.clamp (s.clamp (fall l) + rise l) := by
  rw [sum, fallsFirst, List.foldl_append, foldl_of_nonpos zero_mem nonpos_of_filter,
    foldl_of_nonneg (clamp_mem _) nonneg_of_filter, sum_filter_nonneg, sum_filter_neg, zero_add]

/-- Every order gives one sum exactly where the sum is free of its order. -/
theorem orderFree_iff {l : List ℤ} :
    (∀ l' l'', l'.Perm l → l''.Perm l → s.sum l' = s.sum l'') ↔ s.OrderFree l := by
  constructor
  · intro h
    have hsum := h _ _ (risesFirst_perm l) (fallsFirst_perm l)
    rw [sum_risesFirst, sum_fallsFirst] at hsum
    have := s.lo_neg
    have := s.hi_pos
    have := rise_nonneg l
    have := fall_nonpos l
    unfold clamp at hsum
    unfold OrderFree
    omega
  · intro h l' l'' hl' hl''
    rw [(h.perm hl').sum_eq_clamp, (h.perm hl'').sum_eq_clamp, hl'.sum_eq, hl''.sum_eq]

/-- A fall of at least `d` can be held back to the end, but for one summand. -/
theorem sum_fallLast {l : List ℤ} {d b : ℤ} (hd : 0 ≤ d) (hb : 0 ≤ b) (h : ∀ x ∈ l, -b ≤ x)
    (hl : fall l ≤ -d) :
    ∃ l' r, l'.Perm l ∧ -d - b ≤ r ∧ r ≤ -d ∧
      s.sum l' = s.clamp (s.clamp (s.clamp (fall l - r) + rise l) + r) := by
  have hsum := sum_filter_neg l
  obtain ⟨l₁, l₂, hsplit, hlow, hhigh⟩ := exists_part (l := l.filter fun x => !decide (0 ≤ x)) hd hb
    (fun x hx => h x (List.mem_of_mem_filter hx)) (hsum.le.trans hl)
  have hall : ∀ x ∈ l₁ ++ l₂, x ≤ 0 := by
    rw [← hsplit]
    exact nonpos_of_filter
  obtain ⟨h₁, h₂⟩ := List.forall_mem_append.mp hall
  have hfall : fall l - l₁.sum = l₂.sum := by
    rw [← hsum, hsplit, List.sum_append]
    omega
  refine ⟨(l₂ ++ l.filter fun x => decide (0 ≤ x)) ++ l₁, l₁.sum, ?_, hlow, hhigh, ?_⟩
  · apply List.Perm.trans _ (fallsFirst_perm l)
    rw [fallsFirst, hsplit]
    apply List.perm_append_comm.trans
    rw [List.append_assoc]
  · rw [sum, List.foldl_append, List.foldl_append, foldl_of_nonpos zero_mem h₂,
      foldl_of_nonneg (clamp_mem _) nonneg_of_filter, foldl_of_nonpos (clamp_mem _) h₁,
      sum_filter_nonneg, zero_add, hfall]

end Saturating
