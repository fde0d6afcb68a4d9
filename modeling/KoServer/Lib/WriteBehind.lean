import Mathlib.Data.List.Basic
import Mathlib.Data.List.Perm.Basic
import Mathlib.Logic.Function.Basic

/-! Rows that follow a memory by tasks, each of which writes one key with the value that it
captured, in whatever order the tasks come to run. -/

namespace WriteBehind

variable {K : Type*} {V : K → Type*}

/-- Rows of keys that no task is going to write are as in memory. -/
def Clean (memory rows : ∀ k, V k) (tasks : List (Σ k, V k)) : Prop :=
  ∀ k, (∀ w ∈ tasks, w.1 ≠ k) → rows k = memory k

def Current (memory : ∀ k, V k) (tasks : List (Σ k, V k)) : Prop := ∀ w ∈ tasks, w.2 = memory w.1

variable {memory memory' rows : ∀ k, V k} {tasks tasks' : List (Σ k, V k)}

theorem Clean.perm (h : Clean memory rows tasks) (hp : tasks'.Perm tasks) :
    Clean memory rows tasks' :=
  fun k hk => h k fun w hw => hk w (hp.mem_iff.mpr hw)

theorem Current.perm (h : Current memory tasks) (hp : tasks'.Perm tasks) : Current memory tasks' :=
  fun w hw => h w (hp.mem_iff.mp hw)

/-- What changes in memory is going to be written. -/
theorem Clean.spawn (h : Clean memory rows tasks)
    (hsaved : ∀ k, (∀ w ∈ tasks', w.1 ≠ k) → memory' k = memory k) :
    Clean memory' rows (tasks ++ tasks') := by
  intro k hk
  rw [hsaved k fun w hw => hk w (List.mem_append_right _ hw)]
  exact h k fun w hw => hk w (List.mem_append_left _ hw)

variable [DecidableEq K]

def exec (rows : ∀ k, V k) (w : Σ k, V k) : ∀ k, V k := Function.update rows w.1 w.2

def execAll (rows : ∀ k, V k) (tasks : List (Σ k, V k)) : ∀ k, V k := tasks.foldl exec rows

theorem exec_self (w : Σ k, V k) : exec rows w w.1 = w.2 := Function.update_self _ _ _

theorem exec_of_ne {w : Σ k, V k} {k : K} (h : w.1 ≠ k) : exec rows w k = rows k :=
  Function.update_of_ne h.symm _ _

theorem execAll_of_ne {k : K} (h : ∀ w ∈ tasks, w.1 ≠ k) : execAll rows tasks k = rows k := by
  induction tasks generalizing rows with
  | nil => rfl
  | cons w tasks ih =>
    obtain ⟨hw, hrest⟩ := List.forall_mem_cons.mp h
    exact (ih hrest).trans (exec_of_ne hw)

theorem Clean.exec {w : Σ k, V k} (h : Clean memory rows tasks) (hw : w.2 = memory w.1)
    (hrest : ∀ v ∈ tasks, v = w ∨ v ∈ tasks') : Clean memory (exec rows w) tasks' := by
  intro k hk
  rcases eq_or_ne w.1 k with rfl | hne
  · rw [exec_self, hw]
  · rw [exec_of_ne hne]
    refine h k fun v hv => ?_
    rcases hrest v hv with rfl | hv
    · exact hne
    · exact hk v hv

theorem execAll_eq (hclean : Clean memory rows tasks) (hcurrent : Current memory tasks) :
    execAll rows tasks = memory := by
  induction tasks generalizing rows with
  | nil => exact funext fun k => hclean k (by simp)
  | cons w tasks ih =>
    obtain ⟨hw, hrest⟩ := List.forall_mem_cons.mp hcurrent
    exact ih (hclean.exec hw fun v hv => List.mem_cons.mp hv) hrest

/-- The rows end as the memory in every order of the tasks exactly when no task has an old value:
one that has it may come last. -/
theorem settles_iff {τ : Type*} (captured : τ → Σ k, V k) {tasks : List τ}
    (hclean : Clean memory rows (tasks.map captured)) :
    (∀ p : List τ, p.Perm tasks → execAll rows (p.map captured) = memory) ↔
      Current memory (tasks.map captured) := by
  constructor
  · intro h w hw
    obtain ⟨t, ht, rfl⟩ := List.mem_map.mp hw
    obtain ⟨before, after, rfl⟩ := List.append_of_mem ht
    have hlast : (before ++ after ++ [t]).Perm (before ++ t :: after) := by
      rw [List.append_assoc]
      exact (List.perm_append_singleton t after).append_left before
    have hend := congrFun (h _ hlast) (captured t).1
    rw [List.map_append, List.map_singleton, execAll, List.foldl_append] at hend
    exact (exec_self (captured t)).symm.trans hend
  · exact fun h p hp => execAll_eq (hclean.perm (hp.map captured)) (h.perm (hp.map captured))

end WriteBehind
