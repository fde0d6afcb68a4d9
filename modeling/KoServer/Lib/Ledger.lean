import Mathlib.Algebra.BigOperators.Group.Finset.Basic

/-! Accounts under keys, some of them vacant, and what a set of them is worth together when
one or two accounts are rewritten. -/

namespace Ledger

open Function

variable {ι α : Type*} [DecidableEq ι] (f : α → ℕ) (S : Finset ι)

def worth (w : ι → Option α) : ℕ := ∑ i ∈ S, (w i).elim 0 f

/-- Two accounts rewritten at once. -/
def rewrite (w : ι → Option α) (i j : ι) (a b : α) : ι → Option α :=
  update (update w i (some a)) j (some b)

variable {f S} {w : ι → Option α} {i j : ι} {a b a' b' : α}

theorem sum_update (f : α → ℕ) (g : ι → α) (a : α) (hi : i ∈ S) :
    ∑ k ∈ S, f (update g i a k) + f (g i) = ∑ k ∈ S, f (g k) + f a := by
  have hrest : ∑ k ∈ S.erase i, f (update g i a k) = ∑ k ∈ S.erase i, f (g k) := by
    refine Finset.sum_congr rfl fun k hk => ?_
    rw [update_of_ne (Finset.ne_of_mem_erase hk)]
  rw [← Finset.add_sum_erase S _ hi, ← Finset.add_sum_erase S (fun k => f (g k)) hi, hrest,
    update_self]
  omega

theorem worth_update (f : α → ℕ) (a' : α) (hi : i ∈ S) (hw : w i = some a) :
    worth f S (update w i (some a')) + f a = worth f S w + f a' := by
  have hsum := sum_update (fun o : Option α => o.elim 0 f) w (some a') hi
  rw [hw] at hsum
  exact hsum

@[simp] theorem rewrite_right : rewrite w i j a b j = some b := update_self j _ _

@[simp] theorem rewrite_left (hij : i ≠ j) : rewrite w i j a b i = some a := by
  rw [rewrite, update_of_ne hij, update_self]

theorem rewrite_other {k : ι} (hi : k ≠ i) (hj : k ≠ j) : rewrite w i j a b k = w k := by
  rw [rewrite, update_of_ne hj, update_of_ne hi]

theorem rewrite_rewrite (hij : i ≠ j) :
    rewrite (rewrite w i j a b) i j a' b' = rewrite w i j a' b' := by
  funext k
  rcases eq_or_ne k i with rfl | hi
  · rw [rewrite_left hij, rewrite_left hij]
  rcases eq_or_ne k j with rfl | hj
  · rw [rewrite_right, rewrite_right]
  · rw [rewrite_other hi hj, rewrite_other hi hj, rewrite_other hi hj]

theorem rewrite_comm (hij : i ≠ j) : rewrite w j i b a = rewrite w i j a b := by
  unfold rewrite
  exact update_comm hij.symm _ _ _

/-- Accounts that stay worth the same together. -/
theorem worth_rewrite (hij : i ≠ j) (hi : i ∈ S) (hj : j ∈ S) (hwi : w i = some a)
    (hwj : w j = some b) (h : f a' + f b' = f a + f b) :
    worth f S (rewrite w i j a' b') = worth f S w := by
  have hfirst := worth_update f a' hi hwi
  have hwj' : update w i (some a') j = some b := by rw [update_of_ne hij.symm, hwj]
  have hsecond := worth_update f b' hj hwj'
  unfold rewrite
  omega

end Ledger
