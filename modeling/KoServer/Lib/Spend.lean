import KoServer.Lib.Tally
import Mathlib.Data.List.Count
import Mathlib.Data.List.GetD
import Mathlib.Logic.Function.Iterate

/-! A list whose entries are taken from at named positions, one unit each time. A position may
be named more often than its entry has units; an index past the end reads as `d`. -/

namespace Spend

variable {α : Type*} (take : α → α) (d : α)

def spendAt (l : List α) (i : ℕ) : List α := l.set i (take (l.getD i d))

def spend (l : List α) (positions : List ℕ) : List α := positions.foldl (spendAt take d) l

variable {take d}

@[simp] theorem length_spendAt (l : List α) (i : ℕ) : (spendAt take d l i).length = l.length :=
  List.length_set

@[simp] theorem length_spend (l : List α) (positions : List ℕ) :
    (spend take d l positions).length = l.length := by
  unfold spend
  induction positions generalizing l with
  | nil => rfl
  | cons i positions ih => rw [List.foldl_cons, ih, length_spendAt]

theorem getD_spendAt (hd : take d = d) (l : List α) (i j : ℕ) :
    (spendAt take d l i).getD j d = if i = j then take (l.getD j d) else l.getD j d := by
  unfold spendAt
  split_ifs with hij
  · subst hij
    rcases Nat.lt_or_ge i l.length with hi | hi
    · rw [Tally.getD_set_self hi]
    · rw [List.set_eq_of_length_le hi, List.getD_eq_default _ _ hi, hd]
  · exact Tally.getD_set_ne hij _ d

/-- An entry is taken from as often as its position is named. -/
theorem getD_spend (hd : take d = d) (l : List α) (positions : List ℕ) (j : ℕ) :
    (spend take d l positions).getD j d = take^[positions.count j] (l.getD j d) := by
  unfold spend
  induction positions generalizing l with
  | nil => rfl
  | cons i positions ih =>
    rw [List.foldl_cons, ih, getD_spendAt hd, List.count_cons]
    by_cases hij : i = j
    · rw [if_pos hij, if_pos (beq_iff_eq.mpr hij), Function.iterate_succ_apply]
    · rw [if_neg hij, if_neg (mt beq_iff_eq.mp hij), Nat.add_zero]

variable {u : α → ℕ}

theorem measure_iterate (hu : ∀ a, u (take a) = u a - 1) (k : ℕ) (a : α) :
    u (take^[k] a) = u a - k := by
  induction k generalizing a with
  | zero => rfl
  | succ k ih => rw [Function.iterate_succ_apply, ih, hu, Nat.sub_sub, Nat.add_comm]

/-- The units taken at some positions are those named there, as far as there are any. -/
theorem total_spend (hd : take d = d) (hu : ∀ a, u (take a) = u a - 1) (l : List α)
    (positions js : List ℕ) :
    Tally.total (fun j => u ((spend take d l positions).getD j d)) js +
        Tally.total (fun j => min (positions.count j) (u (l.getD j d))) js =
      Tally.total (fun j => u (l.getD j d)) js := by
  induction js with
  | nil => rfl
  | cons j js ih =>
    simp only [Tally.total_cons]
    rw [getD_spend hd, measure_iterate hu]
    omega

end Spend
