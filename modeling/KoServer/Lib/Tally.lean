import Mathlib.Algebra.BigOperators.Group.List.Basic
import Mathlib.Algebra.Order.BigOperators.Group.List
import Mathlib.Tactic.Ring

/-! Sums of a measure over the entries of a list, and how they move when entries are
overwritten. An index past the end reads as a default entry of measure zero. -/

namespace Tally

variable {α : Type*} (f : α → ℕ)

def total (l : List α) : ℕ := (l.map f).sum

@[simp] theorem total_nil : total f [] = 0 := rfl

@[simp] theorem total_cons (a : α) (l : List α) : total f (a :: l) = f a + total f l := by
  simp [total]

@[simp] theorem total_append (l l' : List α) : total f (l ++ l') = total f l + total f l' := by
  simp [total]

theorem total_replicate (n : ℕ) (a : α) : total f (List.replicate n a) = n * f a := by
  simp [total]

theorem total_perm {l l' : List α} (h : l.Perm l') : total f l = total f l' :=
  (h.map f).sum_eq

theorem total_congr {g : α → ℕ} {l : List α} (h : ∀ a ∈ l, f a = g a) : total f l = total g l :=
  congrArg List.sum (List.map_congr_left h)

theorem total_map {β : Type*} (g : β → α) (l : List β) :
    total f (l.map g) = total (fun b => f (g b)) l := by
  rw [total, List.map_map]
  rfl

theorem le_total {a : α} {l : List α} (h : a ∈ l) : f a ≤ total f l :=
  List.single_le_sum (by simp) _ (List.mem_map_of_mem h)

theorem total_le_of_forall_le {b : ℕ} {l : List α} (h : ∀ a ∈ l, f a ≤ b) :
    total f l ≤ l.length * b := by
  induction l with
  | nil => simp
  | cons a l ih =>
    obtain ⟨ha, hl⟩ := List.forall_mem_cons.mp h
    have := ih hl
    rw [total_cons, List.length_cons, Nat.succ_mul]
    omega

/-- Of two measures, one below the other, the sums agree only where the measures do. -/
theorem total_eq_total_iff {g : α → ℕ} {l : List α} (h : ∀ a ∈ l, f a ≤ g a) :
    total f l = total g l ↔ ∀ a ∈ l, f a = g a := by
  refine ⟨fun heq => ?_, total_congr f⟩
  induction l with
  | nil => simp
  | cons a l ih =>
    obtain ⟨ha, hl⟩ := List.forall_mem_cons.mp h
    have hle : total f l ≤ total g l := List.sum_le_sum hl
    rw [total_cons, total_cons] at heq
    exact List.forall_mem_cons.mpr ⟨by omega, ih hl (by omega)⟩

/-- What an overwritten entry weighed goes, what the new one weighs comes. -/
theorem total_set {l : List α} {i : ℕ} (hi : i < l.length) (a d : α) :
    total f (l.set i a) + f (l.getD i d) = total f l + f a := by
  induction l generalizing i with
  | nil => simp at hi
  | cons b l ih =>
    cases i with
    | zero => simp only [List.set_cons_zero, List.getD_cons_zero, total_cons]; ring
    | succ i =>
      have := ih (Nat.lt_of_succ_lt_succ hi)
      simp only [List.set_cons_succ, List.getD_cons_succ, total_cons]
      omega

theorem getD_set_self {l : List α} {i : ℕ} (hi : i < l.length) (a d : α) :
    (l.set i a).getD i d = a := by
  simp [List.getD_eq_getElem?_getD, hi]

theorem getD_set_ne {l : List α} {i j : ℕ} (h : i ≠ j) (a d : α) :
    (l.set i a).getD j d = l.getD j d := by
  simp [List.getD_eq_getElem?_getD, List.getElem?_set_ne h]

/-- A measure that changes at one of distinct entries. -/
theorem total_update {f g : α → ℕ} {l : List α} {a : α} (hl : l.Nodup) (ha : a ∈ l)
    (h : ∀ b, b ≠ a → g b = f b) : total g l + f a = total f l + g a := by
  induction l with
  | nil => cases ha
  | cons b l ih =>
    obtain ⟨hb, hl⟩ := List.nodup_cons.mp hl
    rw [total_cons, total_cons]
    rcases List.mem_cons.mp ha with rfl | ha
    · have hrest : total g l = total f l := total_congr g fun c hc => h c fun heq => hb (heq ▸ hc)
      omega
    · have := ih hl ha
      have := h b fun heq => hb (heq ▸ ha)
      omega

theorem total_add (f g : α → ℕ) (l : List α) :
    total (fun a => f a + g a) l = total f l + total g l := by
  induction l with
  | nil => rfl
  | cons a l ih =>
    rw [total_cons, total_cons, total_cons, ih]
    omega

/-- A measure that is zero but at one of distinct entries. -/
theorem total_single [DecidableEq α] {l : List α} {a : α} (hl : l.Nodup) (ha : a ∈ l) (n : ℕ) :
    total (fun b => if b = a then n else 0) l = n := by
  have h := total_update (f := fun _ => 0) (g := fun b => if b = a then n else 0) hl ha
    fun b hb => if_neg hb
  simpa [total] using h

/-- Measures that agree but at some of distinct entries. -/
theorem total_off [DecidableEq α] {f g : α → ℕ} {l e : List α} (hl : l.Nodup) (he : e.Nodup)
    (hsub : e ⊆ l) (h : ∀ a, a ∉ e → f a = g a) :
    total f l + total g e = total g l + total f e := by
  induction e generalizing f with
  | nil => simpa using total_congr f fun a _ => h a List.not_mem_nil
  | cons a e ih =>
    obtain ⟨hnot, he⟩ := List.nodup_cons.mp he
    obtain ⟨ha, hsub⟩ := List.cons_subset.mp hsub
    let f' := fun b => if b = a then g a else f b
    have hf' : ∀ b, b ∉ e → f' b = g b := by
      intro b hb
      by_cases hba : b = a
      · subst hba
        exact if_pos rfl
      · rw [← h b fun hmem => (List.mem_cons.mp hmem).elim hba hb]
        exact if_neg hba
    have hrest := ih he hsub hf'
    have hmove : total f' l + f a = total f l + f' a :=
      total_update hl ha fun b hb => if_neg hb
    have hself : f' a = g a := if_pos rfl
    have htail : total f' e = total f e := by
      apply total_congr
      intro b hb
      exact if_neg fun hba : b = a => hnot (hba ▸ hb)
    rw [total_cons, total_cons]
    omega

/-- A count over distinct entries drops by at most one where one entry changes. -/
theorem countP_le_succ [DecidableEq α] {p q : α → Bool} {l : List α} (hl : l.Nodup) (a : α)
    (h : ∀ b ∈ l, b ≠ a → p b = true → q b = true) : l.countP p ≤ l.countP q + 1 := by
  induction l with
  | nil => simp
  | cons b l ih =>
    obtain ⟨hb, hl⟩ := List.nodup_cons.mp hl
    rcases eq_or_ne b a with rfl | hne
    · have hrest : l.countP p ≤ l.countP q := by
        apply List.countP_mono_left
        intro c hc
        exact h c (List.mem_cons_of_mem b hc) (fun heq => hb (heq ▸ hc))
      rw [List.countP_cons, List.countP_cons]
      split_ifs <;> omega
    · have := ih hl fun c hc => h c (List.mem_cons_of_mem b hc)
      have hhead := h b List.mem_cons_self hne
      rw [List.countP_cons, List.countP_cons]
      split_ifs <;> simp_all
      omega

end Tally
