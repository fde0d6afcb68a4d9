import Mathlib.Data.List.Basic
import Mathlib.Data.List.Nodup
import Mathlib.Data.List.Sort

/-! A queue that is dealt out into blocks of `cap` places, one block after the other: nobody is
dealt out twice, and who stays behind found every block full. -/

variable {α β : Type*}

def blocks (cap : ℕ) : ℕ → List α → List (List α)
  | 0, _ => []
  | n + 1, queue => queue.take cap :: blocks cap n (queue.drop cap)

namespace Blocks

variable {cap n : ℕ} {queue : List α}

@[simp] theorem length_blocks : (blocks cap n queue).length = n := by
  induction n generalizing queue with
  | zero => rfl
  | succ n ih => simp [blocks, ih]

@[simp] theorem blocks_nil : blocks cap n ([] : List α) = List.replicate n [] := by
  induction n with
  | zero => rfl
  | succ n ih => simp [blocks, ih, List.replicate_succ]

theorem flatten : (blocks cap n queue).flatten = queue.take (cap * n) := by
  induction n generalizing queue with
  | zero => simp [blocks]
  | succ n ih =>
    simp only [blocks, List.flatten_cons, ih]
    rw [Nat.mul_succ, Nat.add_comm, List.take_add]

theorem length_le : ∀ b ∈ blocks cap n queue, b.length ≤ cap := by
  induction n generalizing queue with
  | zero => simp [blocks]
  | succ n ih =>
    intro b hb
    rcases List.mem_cons.mp hb with rfl | hb
    · simp
    · exact ih b hb

theorem full (hlong : cap * n ≤ queue.length) : ∀ b ∈ blocks cap n queue, b.length = cap := by
  induction n generalizing queue with
  | zero => simp [blocks]
  | succ n ih =>
    intro b hb
    rw [Nat.mul_succ] at hlong
    rcases List.mem_cons.mp hb with rfl | hb
    · rw [List.length_take]
      omega
    · exact ih (by rw [List.length_drop]; omega) b hb

theorem pairwise_full : (blocks cap n queue).Pairwise fun b b' => b' ≠ [] → b.length = cap := by
  induction n generalizing queue with
  | zero => simp [blocks]
  | succ n ih =>
    refine List.pairwise_cons.mpr ⟨fun b hb hne => ?_, ih⟩
    by_contra hshort
    rw [List.length_take] at hshort
    have hdrop : queue.drop cap = [] := List.drop_eq_nil_of_le (by omega)
    rw [hdrop, blocks_nil] at hb
    exact hne (List.eq_of_mem_replicate hb)

theorem pairwise_of_pairwise {R : α → α → Prop} (h : queue.Pairwise R) :
    (blocks cap n queue).Pairwise fun b b' => ∀ x ∈ b, ∀ y ∈ b', R x y := by
  have htake : (blocks cap n queue).flatten.Pairwise R := by
    rw [flatten]
    exact h.sublist (List.take_sublist _ _)
  exact (List.pairwise_flatten.mp htake).2

theorem full_of_left {x : α} (hx : x ∈ queue) (hleft : ∀ b ∈ blocks cap n queue, x ∉ b) :
    ∀ b ∈ blocks cap n queue, b.length = cap := by
  apply full
  by_contra hshort
  have hall : (blocks cap n queue).flatten = queue := by
    rw [flatten, List.take_of_length_le (by omega)]
  rw [← hall] at hx
  obtain ⟨b, hb, hxb⟩ := List.mem_flatten.mp hx
  exact hleft b hb hxb

theorem mem_of_before {R : α → α → Prop} (hR : queue.Pairwise R) {x y : α} (hx : x ∈ queue)
    (hirr : ¬R y x) (hy : y ∈ (blocks cap n queue).flatten) :
    x ∈ (blocks cap n queue).flatten := by
  rw [flatten] at hy ⊢
  rw [← List.take_append_drop (cap * n) queue, List.mem_append] at hx
  rcases hx with hx | hx
  · exact hx
  · rw [← List.take_append_drop (cap * n) queue, List.pairwise_append] at hR
    exact absurd (hR.2.2 y hy x hx) hirr

end Blocks

namespace List

/-- What holds in the order of a list holds in the order of numbers that rise along it. -/
theorem Pairwise.of_lt {R : α → α → Prop} {f : α → ℕ} {l : List α}
    (hlt : l.Pairwise fun a b => f a < f b) (hR : l.Pairwise R) :
    ∀ a ∈ l, ∀ b ∈ l, f a < f b → R a b := by
  induction l with
  | nil => simp
  | cons c l ih =>
    obtain ⟨hlt₁, hlt⟩ := pairwise_cons.mp hlt
    obtain ⟨hR₁, hR⟩ := pairwise_cons.mp hR
    intro a ha b hb hab
    rcases mem_cons.mp ha with rfl | hal <;> rcases mem_cons.mp hb with rfl | hbl
    · exact absurd hab (Nat.lt_irrefl _)
    · exact hR₁ b hbl
    · exact absurd (hlt₁ a hal) (by omega)
    · exact ih hlt hR a hal b hbl hab

end List
