import Mathlib.Data.Finset.Basic
import Mathlib.Logic.Function.Basic

/-! Keys that are held by one owner at a time: a set that lists the keys held, and entries of which
no two have one key because whoever is to enter one looks for it first and removes what it finds. -/

namespace Exclusive

variable {ι σ κ : Type*}

def Unique (owner : ι → Option κ) : Prop := ∀ i j k, owner i = some k → owner j = some k → i = j

structure Locks (held : Finset κ) (owner : ι → Option κ) : Prop where
  listed : ∀ k, k ∈ held ↔ ∃ i, owner i = some k
  unique : Unique owner

/-- Entries have different keys, and beside one that waits to enter a key there is none of it, but
for the one it is about to remove. -/
structure Cleared (entry : σ → Option κ) (waiting : ι → Option (κ × Option σ)) : Prop where
  unique : Unique entry
  clear : ∀ i k old, waiting i = some (k, old) → ∀ j, entry j = some k → old = some j

theorem of_update [DecidableEq ι] {α : Type*} {f : ι → Option α} {i j : ι} {o : Option α} {a : α}
    (h : Function.update f i o j = some a) : j = i ∧ o = some a ∨ j ≠ i ∧ f j = some a := by
  by_cases he : j = i
  · subst he
    rw [Function.update_self] at h
    exact .inl ⟨rfl, h⟩
  · rw [Function.update_of_ne he] at h
    exact .inr ⟨he, h⟩

theorem of_update_none [DecidableEq ι] {α : Type*} {f : ι → Option α} {i j : ι} {a : α}
    (h : Function.update f i none j = some a) : j ≠ i ∧ f j = some a := by
  rcases of_update h with ⟨-, hn⟩ | hj
  · cases hn
  · exact hj

section

variable {owner : ι → Option κ} {i : ι} {k : κ}

theorem Unique.drop [DecidableEq ι] (h : Unique owner) : Unique (Function.update owner i none) := by
  intro j j' l hj hj'
  exact h j j' l (of_update_none hj).2 (of_update_none hj').2

theorem Unique.take [DecidableEq ι] (h : Unique owner) (hk : ∀ j, owner j ≠ some k) :
    Unique (Function.update owner i (some k)) := by
  intro j j' l hj hj'
  rcases of_update hj with ⟨rfl, hl⟩ | ⟨-, hj⟩
  · cases hl
    rcases of_update hj' with ⟨rfl, -⟩ | ⟨-, hj'⟩
    · rfl
    · exact absurd hj' (hk j')
  · rcases of_update hj' with ⟨-, hl⟩ | ⟨-, hj'⟩
    · cases hl
      exact absurd hj (hk j)
    · exact h j j' l hj hj'

end

section

variable {held : Finset κ} {owner : ι → Option κ} {i : ι} {k : κ}

theorem Locks.empty : Locks (∅ : Finset κ) fun _ : ι => none where
  listed k := by simp
  unique i j k h := by simp at h

theorem Locks.free (h : Locks held owner) (hk : k ∉ held) (j : ι) : owner j ≠ some k := by
  intro hj
  exact hk ((h.listed k).mpr ⟨j, hj⟩)

variable [DecidableEq ι] [DecidableEq κ]

/-- A key that is not listed is taken by one that holds none. -/
theorem Locks.acquire (h : Locks held owner) (hk : k ∉ held) (hi : owner i = none) :
    Locks (insert k held) (Function.update owner i (some k)) where
  listed l := by
    rw [Finset.mem_insert, h.listed]
    constructor
    · intro hl
      rcases hl with rfl | ⟨j, hj⟩
      · exact ⟨i, Function.update_self ..⟩
      · have hne : j ≠ i := by
          intro he
          rw [he, hi] at hj
          cases hj
        exact ⟨j, by rw [Function.update_of_ne hne, hj]⟩
    · intro hl
      obtain ⟨j, hj⟩ := hl
      rcases of_update hj with ⟨-, hk'⟩ | ⟨-, hj⟩
      · exact .inl (Option.some.inj hk').symm
      · exact .inr ⟨j, hj⟩
  unique := h.unique.take (h.free hk)

theorem Locks.release (h : Locks held owner) (hi : owner i = some k) :
    Locks (held.erase k) (Function.update owner i none) where
  listed l := by
    rw [Finset.mem_erase, h.listed]
    constructor
    · intro hl
      obtain ⟨hl, j, hj⟩ := hl
      have hne : j ≠ i := by
        intro he
        rw [he, hi] at hj
        exact hl (Option.some.inj hj).symm
      exact ⟨j, by rw [Function.update_of_ne hne, hj]⟩
    · intro hl
      obtain ⟨j, hj⟩ := hl
      obtain ⟨hne, hj⟩ := of_update_none hj
      refine ⟨?_, j, hj⟩
      intro hl
      subst hl
      exact hne (h.unique j i l hj hi)
  unique := h.unique.drop

end

section

variable {entry : σ → Option κ} {waiting : ι → Option (κ × Option σ)} {i : ι} {j : σ} {k : κ}
  {old : Option σ}

theorem Cleared.empty : Cleared (fun _ : σ => (none : Option κ)) fun _ : ι => none where
  unique i j k h := by simp at h
  clear i k old h := by simp at h

theorem Cleared.ask [DecidableEq ι] (h : Cleared entry waiting)
    (hold : ∀ j, entry j = some k → old = some j) :
    Cleared entry (Function.update waiting i (some (k, old))) where
  unique := h.unique
  clear i' k' old' hi' := by
    rcases of_update hi' with ⟨-, ho⟩ | ⟨-, hi'⟩
    · cases ho
      exact hold
    · exact h.clear i' k' old' hi'

theorem Cleared.giveUp [DecidableEq ι] (h : Cleared entry waiting) :
    Cleared entry (Function.update waiting i none) where
  unique := h.unique
  clear i' k' old' hi' := h.clear i' k' old' (of_update_none hi').2

theorem Cleared.remove [DecidableEq σ] (h : Cleared entry waiting) :
    Cleared (Function.update entry j none) waiting where
  unique := h.unique.drop
  clear i' k' old' hi' j' hj' := h.clear i' k' old' hi' j' (of_update_none hj').2

variable [DecidableEq ι] [DecidableEq σ]

theorem Cleared.kick (h : Cleared entry waiting) (hi : waiting i = some (k, some j)) :
    Cleared (Function.update entry j none) (Function.update waiting i (some (k, none))) := by
  apply (h.remove (j := j)).ask
  intro j' hj'
  obtain ⟨hne, hj'⟩ := of_update_none hj'
  exact absurd (Option.some.inj (h.clear i k _ hi j' hj')).symm hne

theorem Cleared.enter (h : Cleared entry waiting) (hi : waiting i = some (k, none))
    (halone : ∀ i' old', waiting i' = some (k, old') → i' = i) :
    Cleared (Function.update entry j (some k)) (Function.update waiting i none) where
  unique := by
    apply h.unique.take
    intro j' hj'
    cases h.clear i k none hi j' hj'
  clear i' k' old' hi' j' hj' := by
    obtain ⟨hne, hi'⟩ := of_update_none hi'
    rcases of_update hj' with ⟨-, hk⟩ | ⟨-, hj'⟩
    · cases hk
      exact absurd (halone i' old' hi') hne
    · exact h.clear i' k' old' hi' j' hj'

end

end Exclusive
