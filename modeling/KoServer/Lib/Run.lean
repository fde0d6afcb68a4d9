import Mathlib.Algebra.BigOperators.Group.List.Basic
import Mathlib.Algebra.Order.Ring.Nat
import Mathlib.Data.List.Basic
import Mathlib.Logic.Basic

/-! Runs of a step function, and what holds along a run whose steps all meet a condition
on the state they are taken in. -/

namespace Run

variable {σ ι : Type*} (step : σ → ι → σ) (ok : σ → ι → Prop)

def run (s : σ) (steps : List ι) : σ := steps.foldl step s

/-- Every step meets the condition where it is taken. -/
def Along : σ → List ι → Prop
  | _, [] => True
  | s, i :: steps => ok s i ∧ Along (step s i) steps

instance decidableAlong [∀ s i, Decidable (ok s i)] :
    (s : σ) → (steps : List ι) → Decidable (Along step ok s steps)
  | _, [] => .isTrue trivial
  | s, i :: steps => @instDecidableAnd _ _ _ (decidableAlong (step s i) steps)

variable {step ok}

@[simp] theorem run_nil (s : σ) : run step s [] = s := rfl

@[simp] theorem run_cons (s : σ) (i : ι) (steps : List ι) :
    run step s (i :: steps) = run step (step s i) steps := rfl

theorem run_append (s : σ) (steps steps' : List ι) :
    run step s (steps ++ steps') = run step (run step s steps) steps' := List.foldl_append

/-- An invariant that every step keeps where it meets the condition. -/
theorem invariant (I : σ → Prop) (hstep : ∀ s i, I s → ok s i → I (step s i)) {s : σ}
    {steps : List ι} (hok : Along step ok s steps) (hs : I s) : I (run step s steps) := by
  induction steps generalizing s with
  | nil => exact hs
  | cons i steps ih =>
    obtain ⟨hi, hrest⟩ := hok
    exact ih hrest (hstep s i hs hi)

/-- What the invariant says of every step that meets the condition. -/
theorem along_of_invariant (I : σ → Prop) {good : σ → ι → Prop}
    (hstep : ∀ s i, I s → ok s i → I (step s i) ∧ good s i) {s : σ} {steps : List ι}
    (hok : Along step ok s steps) (hs : I s) : Along step good s steps := by
  induction steps generalizing s with
  | nil => trivial
  | cons i steps ih =>
    obtain ⟨hi, hrest⟩ := hok
    obtain ⟨hI, hgood⟩ := hstep s i hs hi
    exact ⟨hgood, ih hrest hI⟩

theorem along_true (s : σ) (steps : List ι) : Along step (fun _ _ => True) s steps := by
  induction steps generalizing s with
  | nil => trivial
  | cons i steps ih => exact ⟨trivial, ih _⟩

theorem along_of_forall {p : ι → Prop} (s : σ) {steps : List ι} (h : ∀ i ∈ steps, p i) :
    Along step (fun _ => p) s steps := by
  induction steps generalizing s with
  | nil => trivial
  | cons i steps ih =>
    obtain ⟨hi, hrest⟩ := List.forall_mem_cons.mp h
    exact ⟨hi, ih _ hrest⟩

theorem along_append {s : σ} {steps steps' : List ι} :
    Along step ok s (steps ++ steps') ↔
      Along step ok s steps ∧ Along step ok (run step s steps) steps' := by
  induction steps generalizing s with
  | nil => simp [Along]
  | cons i steps ih => simp [Along, ih, and_assoc]

theorem along_and {p q : σ → ι → Prop} {s : σ} {steps : List ι} :
    Along step (fun s i => p s i ∧ q s i) s steps ↔ Along step p s steps ∧ Along step q s steps := by
  induction steps generalizing s with
  | nil => exact (and_self_iff).symm
  | cons i steps ih => exact (and_congr_right' ih).trans and_and_and_comm

/-- Two conditions that agree wherever the invariant holds agree along a run. -/
theorem along_congr {good : σ → ι → Prop} (I : σ → Prop)
    (hstep : ∀ s i, I s → ok s i → I (step s i)) (h : ∀ s i, I s → (ok s i ↔ good s i)) {s : σ}
    {steps : List ι} (hs : I s) : Along step ok s steps ↔ Along step good s steps := by
  induction steps generalizing s with
  | nil => exact Iff.rfl
  | cons i steps ih =>
    constructor
    · rintro ⟨hi, hrest⟩
      exact ⟨(h s i hs).mp hi, (ih (hstep s i hs hi)).mp hrest⟩
    · rintro ⟨hi, hrest⟩
      have hi' := (h s i hs).mpr hi
      exact ⟨hi', (ih (hstep s i hs hi')).mpr hrest⟩

/-- A quantity that no step changes while the invariant holds. -/
theorem conserved {α : Type*} (I : σ → Prop) (f : σ → α)
    (hstep : ∀ s i, I s → ok s i → I (step s i) ∧ f (step s i) = f s) {s : σ}
    {steps : List ι} (hok : Along step ok s steps) (hs : I s) : f (run step s steps) = f s := by
  refine (invariant (fun t => I t ∧ f t = f s) (fun t i ht hi => ?_) hok ⟨hs, rfl⟩).2
  obtain ⟨hI, hf⟩ := hstep t i ht.1 hi
  exact ⟨hI, hf.trans ht.2⟩

variable (step) in
/-- The sum of what the steps bring, each in the state it is taken in. -/
def total (f : σ → ι → ℕ) : σ → List ι → ℕ
  | _, [] => 0
  | s, i :: steps => f s i + total f (step s i) steps

@[simp] theorem total_nil (f : σ → ι → ℕ) (s : σ) : total step f s [] = 0 := rfl

@[simp] theorem total_cons (f : σ → ι → ℕ) (s : σ) (i : ι) (steps : List ι) :
    total step f s (i :: steps) = f s i + total step f (step s i) steps := rfl

theorem total_zero (s : σ) (steps : List ι) : total step (fun _ _ => 0) s steps = 0 := by
  induction steps generalizing s with
  | nil => rfl
  | cons i steps ih => rw [total_cons, ih]

theorem total_mul (k : ℕ) (f : σ → ι → ℕ) (s : σ) (steps : List ι) :
    total step (fun s i => k * f s i) s steps = k * total step f s steps := by
  induction steps generalizing s with
  | nil => rfl
  | cons i steps ih => rw [total_cons, ih, total_cons, Nat.mul_add]

/-- What comes in and what goes out over a run of good steps accounts for how a quantity changes. -/
theorem balance_along (I : σ → Prop) {good : σ → ι → Prop} (g : σ → ℕ) (inc out : σ → ι → ℕ)
    (hstep : ∀ s i, I s → good s i → I (step s i) ∧ g (step s i) + out s i = g s + inc s i) {s : σ}
    {steps : List ι} (hgood : Along step good s steps) (hs : I s) :
    g (run step s steps) + total step out s steps = g s + total step inc s steps := by
  induction steps generalizing s with
  | nil => rfl
  | cons i steps ih =>
    obtain ⟨hi, hrest⟩ := hgood
    obtain ⟨hI, hg⟩ := hstep s i hs hi
    have htail := ih hrest hI
    rw [run_cons, total_cons, total_cons]
    omega

/-- What comes in and what goes out over a run accounts for how a quantity changes. -/
theorem balance (I : σ → Prop) (g : σ → ℕ) (inc out : σ → ι → ℕ)
    (hstep : ∀ s i, I s → I (step s i) ∧ g (step s i) + out s i = g s + inc s i) {s : σ}
    (steps : List ι) (hs : I s) :
    g (run step s steps) + total step out s steps = g s + total step inc s steps :=
  balance_along I g inc out (fun s i hs _ => hstep s i hs) (along_true s steps) hs

/-- A run whose quantity stays or climbs enters each value of it at most once, and none that it has
passed. -/
theorem total_enters_le {α : Type*} [DecidableEq α] (I : σ → Prop) (f : σ → α) (rank : α → ℕ)
    (hstep : ∀ s i, I s → ok s i →
      I (step s i) ∧ (f (step s i) = f s ∨ rank (f s) < rank (f (step s i)))) {s : σ}
    {steps : List ι} (a : α) (hok : Along step ok s steps) (hs : I s) :
    total step (fun s i => if f s ≠ a ∧ f (step s i) = a then 1 else 0) s steps ≤
      if rank (f s) < rank a then 1 else 0 := by
  induction steps generalizing s with
  | nil => exact Nat.zero_le _
  | cons i steps ih =>
    obtain ⟨hi, hrest⟩ := hok
    obtain ⟨hI, hclimb⟩ := hstep s i hs hi
    have htail := ih hrest hI
    rw [total_cons]
    rcases hclimb with hstay | hclimb
    · have hno : ¬(f s ≠ a ∧ f (step s i) = a) := fun h => h.1 (hstay.symm.trans h.2)
      rw [if_neg hno, Nat.zero_add, ← hstay]
      exact htail
    · by_cases ha : f (step s i) = a
      · rw [ha, if_neg (Nat.lt_irrefl _)] at htail
        rw [ha] at hclimb
        split_ifs
        all_goals omega
      · have hno : ¬(f s ≠ a ∧ f (step s i) = a) := fun h => ha h.2
        rw [if_neg hno]
        split_ifs at htail ⊢
        all_goals omega

theorem total_le (I : σ → Prop) (g : σ → ℕ) {out : σ → ι → ℕ}
    (hstep : ∀ s i, I s → I (step s i) ∧ g (step s i) + out s i ≤ g s) {s : σ}
    (steps : List ι) (hs : I s) : g (run step s steps) + total step out s steps ≤ g s := by
  induction steps generalizing s with
  | nil => exact Nat.le_refl (g s)
  | cons i steps ih =>
    obtain ⟨hI, hg⟩ := hstep s i hs
    have hrest := ih hI
    rw [run_cons, total_cons]
    omega

variable (step) in
theorem total_steps (f : ι → ℕ) (s : σ) (steps : List ι) :
    total step (fun _ => f) s steps = (steps.map f).sum := by
  induction steps generalizing s with
  | nil => rfl
  | cons i steps ih => rw [total_cons, ih, List.map_cons, List.sum_cons]

/-- Where a state shows the sum `b` that it should and no step spoils it, it does at the end. -/
theorem shows_of_along (J shows : σ → ℕ → Prop) {f : σ → ι → ℕ} {good : σ → ι → Prop}
    (hstep : ∀ s b i, J s b → shows s b → good s i →
      J (step s i) (b + f s i) ∧ shows (step s i) (b + f s i)) {s : σ} {b : ℕ} {steps : List ι}
    (h : J s b) (hs : shows s b) (hgood : Along step good s steps) :
    shows (run step s steps) (b + total step f s steps) := by
  induction steps generalizing s b with
  | nil => exact hs
  | cons i steps ih =>
    obtain ⟨hi, hrest⟩ := hgood
    obtain ⟨hJ, hshows⟩ := hstep s b i h hs hi
    rw [run_cons, total_cons, ← Nat.add_assoc]
    exact ih hJ hshows hrest

variable (step) in
/-- A state shows the sum `b` that it should at the end of a run just where it does in the
beginning and no step spoils it. -/
theorem shows_iff (J shows : σ → ℕ → Prop) (p : ι → Prop) (good : σ → ι → Prop) {f : σ → ι → ℕ}
    (hJ : ∀ s b i, J s b → p i → J (step s i) (b + f s i))
    (hshows : ∀ s b i, J s b → (shows (step s i) (b + f s i) ↔ shows s b ∧ good s i)) {s : σ}
    {b : ℕ} {steps : List ι} (hsteps : ∀ i ∈ steps, p i) (h : J s b) :
    shows (run step s steps) (b + total step f s steps) ↔ shows s b ∧ Along step good s steps := by
  induction steps generalizing s b with
  | nil => exact (and_iff_left trivial).symm
  | cons i steps ih =>
    obtain ⟨hi, hrest⟩ := List.forall_mem_cons.mp hsteps
    rw [run_cons, total_cons, ← Nat.add_assoc, ih hrest (hJ s b i h hi), hshows s b i h, and_assoc]
    rfl

theorem budget_along (I : σ → Prop) (g : σ → ℕ) {inc out : σ → ι → ℕ}
    (hstep : ∀ s i, I s → ok s i → I (step s i) ∧ g (step s i) + out s i ≤ g s + inc s i) {s : σ}
    {steps : List ι} (hok : Along step ok s steps) (hs : I s) :
    g (run step s steps) + total step out s steps ≤ g s + total step inc s steps := by
  induction steps generalizing s with
  | nil => exact Nat.le_refl (g s)
  | cons i steps ih =>
    obtain ⟨hi, hrest⟩ := hok
    obtain ⟨hI, hg⟩ := hstep s i hs hi
    have htail := ih hrest hI
    rw [run_cons, total_cons, total_cons]
    omega

section

variable {α β : Type*}

variable (step) in
/-- What the steps of a run bring out, in order. -/
def outputs (out : σ → ι → Option α) : σ → List ι → List α
  | _, [] => []
  | s, i :: steps => (out s i).toList ++ outputs out (step s i) steps

@[simp] theorem outputs_nil (out : σ → ι → Option α) (s : σ) : outputs step out s [] = [] := rfl

@[simp] theorem outputs_cons (out : σ → ι → Option α) (s : σ) (i : ι) (steps : List ι) :
    outputs step out s (i :: steps) = (out s i).toList ++ outputs step out (step s i) steps := rfl

/-- Where the n-th thing brought out depends on `n` alone, the state need only know `n`. -/
theorem outputs_eq_range' (J : ℕ → σ → Prop) (f : ℕ → α) {out : σ → ι → Option α}
    (hstep : ∀ n s i, J n s → ok s i →
      out s i = none ∧ J n (step s i) ∨ out s i = some (f n) ∧ J (n + 1) (step s i)) {n : ℕ}
    {s : σ} {steps : List ι} (hok : Along step ok s steps) (hs : J n s) :
    outputs step out s steps =
      (List.range' n (outputs step out s steps).length).map f := by
  induction steps generalizing n s with
  | nil => rfl
  | cons i steps ih =>
    obtain ⟨hi, hrest⟩ := hok
    rcases hstep n s i hs hi with ⟨hout, hJ⟩ | ⟨hout, hJ⟩
    · rw [outputs_cons, hout]
      exact ih hrest hJ
    · rw [outputs_cons, hout, Option.toList_some, List.singleton_append, List.length_cons,
        List.range'_succ, List.map_cons]
      exact congrArg _ (ih hrest hJ)

variable {τ κ : Type*} {step' : τ → κ → τ}

/-- A map of states that every step respects is one that runs respect. -/
theorem run_hom (φ : σ → τ) (ψ : ι → κ) (p : ι → Prop)
    (hstep : ∀ s i, p i → φ (step s i) = step' (φ s) (ψ i)) {s : σ} {steps : List ι}
    (hp : ∀ i ∈ steps, p i) : φ (run step s steps) = run step' (φ s) (steps.map ψ) := by
  induction steps generalizing s with
  | nil => rfl
  | cons i steps ih =>
    obtain ⟨hi, hrest⟩ := List.forall_mem_cons.mp hp
    rw [run_cons, ih hrest, hstep s i hi]
    rfl

theorem outputs_hom (φ : σ → τ) (ψ : ι → κ) (χ : α → β) (p : ι → Prop)
    {out : σ → ι → Option α} {out' : τ → κ → Option β}
    (hstep : ∀ s i, p i → φ (step s i) = step' (φ s) (ψ i))
    (hout : ∀ s i, p i → out' (φ s) (ψ i) = (out s i).map χ) {s : σ} {steps : List ι}
    (hp : ∀ i ∈ steps, p i) :
    outputs step' out' (φ s) (steps.map ψ) = (outputs step out s steps).map χ := by
  induction steps generalizing s with
  | nil => rfl
  | cons i steps ih =>
    obtain ⟨hi, hrest⟩ := List.forall_mem_cons.mp hp
    rw [List.map_cons, outputs_cons, outputs_cons, List.map_append, hout s i hi, ← hstep s i hi,
      ih hrest]
    cases out s i <;> rfl

end

end Run
