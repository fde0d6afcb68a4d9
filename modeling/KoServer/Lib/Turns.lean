import Mathlib.Data.List.Basic
import Mathlib.Tactic.SplitIfs

/-! Taking turns: whoever is served goes to the end of the queue, and so does whoever is passed
over. -/

namespace Turns

variable {α β : Type*}

def advance : List α → List α
  | [] => []
  | a :: q => q ++ [a]

def served : ℕ → List α → List (Option α)
  | 0, _ => []
  | k + 1, q => q.head? :: served k (advance q)

def pass (f : α → Option β) : ℕ → List α → Option β × List α
  | 0, q => (none, q)
  | _ + 1, [] => (none, [])
  | n + 1, a :: q =>
    match f a with
    | some b => (some b, q ++ [a])
    | none => pass f n (q ++ [a])

variable {f g : α → Option β} {q : List α} {a : α} {k : ℕ}

/-- A pass over the whole queue is one turn of those who can be served. -/
theorem pass_filterMap (f : α → Option β) (q : List α) :
    (pass f q.length q).1 = (q.filterMap f).head? ∧
      (pass f q.length q).2.filterMap f = advance (q.filterMap f) := by
  have hpass : ∀ todo done : List α, done.filterMap f = [] →
      (pass f todo.length (todo ++ done)).1 = (todo.filterMap f).head? ∧
        (pass f todo.length (todo ++ done)).2.filterMap f = advance (todo.filterMap f) := by
    intro todo
    induction todo with
    | nil => exact fun done hdone => ⟨rfl, hdone⟩
    | cons a todo ih =>
      intro done hdone
      rw [List.length_cons, List.cons_append]
      unfold pass
      cases hserve : f a with
      | some b => simp [hserve, hdone, advance]
      | none =>
        have hnext : (done ++ [a]).filterMap f = [] := by simp [hdone, hserve]
        simpa [hserve] using ih (done ++ [a]) hnext
  simpa using hpass q [] rfl

theorem pass_congr {n : ℕ} (h : ∀ a ∈ q, f a = g a) : pass f n q = pass g n q := by
  induction n generalizing q with
  | zero => rfl
  | succ n ih =>
    cases q with
    | nil => rfl
    | cons a q =>
      obtain ⟨ha, hq⟩ := List.forall_mem_cons.mp h
      unfold pass
      rw [ha]
      cases g a with
      | some b => rfl
      | none =>
        refine ih fun b hb => ?_
        rcases List.mem_append.mp hb with hb | hb
        · exact hq b hb
        · exact List.mem_singleton.mp hb ▸ ha

theorem mem_advance : a ∈ advance q ↔ a ∈ q := by
  cases q with
  | nil => rfl
  | cons b q => simp [advance, or_comm]

theorem length_advance : (advance q).length = q.length := by
  cases q with
  | nil => rfl
  | cons b q => simp [advance]

theorem nodup_advance (h : q.Nodup) : (advance q).Nodup := by
  cases q with
  | nil => exact h
  | cons b q =>
    rw [List.nodup_cons] at h
    simpa [advance, List.nodup_append] using ⟨h.2, fun a ha heq => h.1 (heq ▸ ha)⟩

theorem of_mem_served {served? : Option α} (h : served? ∈ served k q) :
    (served?.isSome ↔ q ≠ []) ∧ ∀ a, served? = some a → a ∈ q := by
  induction k generalizing q with
  | zero => cases h
  | succ k ih =>
    rcases List.mem_cons.mp h with rfl | h
    · cases q with
      | nil => simp
      | cons b q => simp
    · obtain ⟨hsome, hmem⟩ := ih h
      refine ⟨hsome.trans ?_, fun a ha => mem_advance.mp (hmem a ha)⟩
      cases q with
      | nil => rfl
      | cons b q => simp [advance]

/-- How often someone is served is settled by the place in the queue. -/
theorem count_served [DecidableEq α] (hnodup : q.Nodup) (ha : a ∈ q) :
    (served k q).count (some a) = (k + q.length - 1 - q.idxOf a) / q.length := by
  induction k generalizing q with
  | zero =>
    have hlt := List.idxOf_lt_length_of_mem ha
    exact (Nat.div_eq_of_lt (by omega)).symm
  | succ k ih =>
    unfold served
    rw [List.count_cons, ih (nodup_advance hnodup) (mem_advance.mpr ha), length_advance]
    cases q with
    | nil => cases ha
    | cons b q =>
      have hnew := (List.nodup_cons.mp hnodup).1
      rcases List.mem_cons.mp ha with rfl | hq
      · have hlast : (advance (a :: q)).idxOf a = q.length := by
          unfold advance
          rw [List.idxOf_append_of_notMem hnew]
          simp
        rw [hlast, List.idxOf_cons_self, List.length_cons]
        have hnow : k + 1 + (q.length + 1) - 1 - 0 =
            k + (q.length + 1) - 1 - q.length + (q.length + 1) := by omega
        rw [hnow, Nat.add_div_right _ (Nat.succ_pos _)]
        simp
      · have hne : b ≠ a := fun heq => hnew (heq ▸ hq)
        have hlt := List.idxOf_lt_length_of_mem hq
        have hearlier : (advance (b :: q)).idxOf a = q.idxOf a := List.idxOf_append_of_mem hq
        rw [hearlier, List.idxOf_cons_ne _ hne, List.length_cons, List.head?_cons,
          if_neg (by simpa using hne), Nat.add_zero]
        congr 1
        omega

theorem fair [DecidableEq α] (hnodup : q.Nodup) (ha : a ∈ q) :
    (served k q).count (some a) = k / q.length ∨
      (served k q).count (some a) = (k + q.length - 1) / q.length := by
  have hlt := List.idxOf_lt_length_of_mem ha
  rw [count_served hnodup ha]
  have hlow : k / q.length ≤ (k + q.length - 1 - q.idxOf a) / q.length :=
    Nat.div_le_div_right (by omega)
  have hhigh : (k + q.length - 1 - q.idxOf a) / q.length ≤ (k + q.length - 1) / q.length :=
    Nat.div_le_div_right (by omega)
  have hnear : (k + q.length - 1) / q.length ≤ k / q.length + 1 := by
    rw [← Nat.add_div_right k (Nat.zero_lt_of_lt hlt)]
    exact Nat.div_le_div_right (by omega)
  omega

end Turns
