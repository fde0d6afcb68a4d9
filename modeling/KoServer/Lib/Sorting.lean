import Mathlib.Data.List.Basic

/-! Where a stable sort puts an entry. -/

namespace Sorting

variable {α : Type*} (le : α → α → Bool)

/-- How many entries come before entry `i`: those in front of it that stay there, and those
behind it that overtake it. -/
def place (l : List α) (i : ℕ) (x : α) : ℕ :=
  (l.take i).countP (fun b => le b x) + (l.drop (i + 1)).countP fun b => !le x b

variable {le}

theorem place_zero (a : α) (l : List α) : place le (a :: l) 0 a = l.countP fun b => !le a b := by
  simp [place]

theorem place_succ (a x : α) (l : List α) (i : ℕ) :
    place le (a :: l) (i + 1) x = place le l i x + if le a x then 1 else 0 := by
  simp only [place, List.take_succ_cons, List.drop_succ_cons, List.countP_cons]
  omega

theorem getElem?_mergeSort_place (htrans : ∀ a b c, le a b → le b c → le a c)
    (htotal : ∀ a b, le a b || le b a) {l : List α} {i : ℕ} {x : α} (hx : l[i]? = some x) :
    (l.mergeSort le)[place le l i x]? = some x := by
  induction l generalizing i with
  | nil => simp at hx
  | cons a l ih =>
    -- the head goes in between what it does not go before and the rest
    obtain ⟨front, back, hsort, hrest, hfront⟩ := List.mergeSort_cons htrans htotal a l
    have hsorted := List.pairwise_mergeSort htrans htotal (a :: l)
    rw [hsort] at hsorted
    have hback : ∀ b ∈ back, le a b = true :=
      (List.pairwise_cons.mp (List.pairwise_append.mp hsorted).2.1).1
    rw [hsort]
    cases i with
    | zero =>
      obtain rfl := Option.some.inj hx
      have hplace : place le (a :: l) 0 a = front.length := by
        rw [place_zero, ← (List.mergeSort_perm l le).countP_eq, hrest, List.countP_append,
          List.countP_eq_length.mpr hfront, List.countP_eq_zero.mpr, Nat.add_zero]
        intro b hb
        simp [hback b hb]
      rw [hplace, List.getElem?_append_right (Nat.le_refl _), Nat.sub_self]
      rfl
    | succ i =>
      rw [List.getElem?_cons_succ] at hx
      have hplace := ih hx
      rw [hrest] at hplace
      rw [place_succ]
      rcases Nat.lt_or_ge (place le l i x) front.length with hlt | hge
      · rw [List.getElem?_append_left hlt] at hplace
        have hax := hfront x (List.mem_of_getElem? hplace)
        rw [if_neg (by simpa using hax), Nat.add_zero, List.getElem?_append_left hlt]
        exact hplace
      · rw [List.getElem?_append_right hge] at hplace
        have hax := hback x (List.mem_of_getElem? hplace)
        rw [if_pos hax, List.getElem?_append_right (by omega), Nat.succ_sub hge]
        exact hplace

/-- Entries that are all equal to the order stay in their order. -/
theorem filter_mergeSort (htrans : ∀ a b c, le a b → le b c → le a c)
    (htotal : ∀ a b, le a b || le b a) {p : α → Bool} (hp : ∀ a b, p a → p b → le a b)
    (l : List α) : (l.mergeSort le).filter p = l.filter p := by
  have hpairs : (l.filter p).Pairwise fun a b => le a b :=
    List.pairwise_of_forall_mem_list fun a ha b hb =>
      hp a b (List.of_mem_filter ha) (List.of_mem_filter hb)
  have hsub := (List.sublist_mergeSort htrans htotal hpairs List.filter_sublist).filter p
  simp only [List.filter_filter, Bool.and_self] at hsub
  have hlen := ((List.mergeSort_perm l le).filter p).length_eq
  exact (hsub.eq_of_length hlen.symm).symm

end Sorting
