import Mathlib.Data.List.Basic
import Mathlib.Data.List.Nodup
import Mathlib.Logic.Function.Basic

/-! Membership that is kept twice: each member names its group, and each group lists its members.
Both agree when nobody is named or listed on one side alone. -/

namespace Grouping

variable {ι κ : Type*}

structure Agree (of : ι → Option κ) (lists : κ → Option (List ι)) : Prop where
  iff : ∀ i m, of i = some m ↔ ∃ l, lists m = some l ∧ i ∈ l
  nodup : ∀ m l, lists m = some l → l.Nodup

variable {of : ι → Option κ} {lists : κ → Option (List ι)} {i j : ι} {m m' : κ} {l l' : List ι}

theorem Agree.of_mem (h : Agree of lists) (hl : lists m = some l) (hi : i ∈ l) : of i = some m :=
  (h.iff i m).mpr ⟨l, hl, hi⟩

theorem Agree.not_mem (h : Agree of lists) (hl : lists m = some l) (hi : of i ≠ some m) : i ∉ l :=
  fun hmem => hi (h.of_mem hl hmem)

theorem Agree.eq_group (h : Agree of lists) (hl : lists m = some l) (hl' : lists m' = some l')
    (hi : i ∈ l) (hi' : i ∈ l') : m = m' :=
  Option.some.inj ((h.of_mem hl hi).symm.trans (h.of_mem hl' hi'))

variable [DecidableEq ι] [DecidableEq κ]

/-- Somebody without a group comes to one. -/
theorem Agree.enter (h : Agree of lists) (hi : of i = none) (hl : lists m = some l)
    (hl' : l'.Perm (i :: l)) :
    Agree (Function.update of i (some m)) (Function.update lists m (some l')) := by
  have hnew : i ∉ l := h.not_mem hl (by rw [hi]; exact (Option.some_ne_none m).symm)
  refine ⟨fun j m' => ?_, fun m' q hq => ?_⟩
  · by_cases hm : m' = m
    · subst hm
      rw [Function.update_self]
      simp only [Option.some.injEq, exists_eq_left', hl'.mem_iff, List.mem_cons]
      by_cases hj : j = i
      · rw [hj, Function.update_self]
        exact iff_of_true rfl (Or.inl rfl)
      · rw [Function.update_of_ne hj, or_iff_right hj, h.iff j m', hl]
        simp only [Option.some.injEq, exists_eq_left']
    · rw [Function.update_of_ne hm, ← h.iff j m']
      by_cases hj : j = i
      · rw [hj, Function.update_self, hi]
        exact iff_of_false (fun heq => hm (Option.some.inj heq).symm) fun heq => by cases heq
      · rw [Function.update_of_ne hj]
  · by_cases hm : m' = m
    · subst hm
      rw [Function.update_self, Option.some.injEq] at hq
      subst hq
      exact hl'.nodup_iff.mpr (List.nodup_cons.mpr ⟨hnew, h.nodup m' l hl⟩)
    · rw [Function.update_of_ne hm] at hq
      exact h.nodup m' q hq

theorem Agree.leave (h : Agree of lists) (hl : lists m = some l) (hl' : l.Perm (i :: l')) :
    Agree (Function.update of i none) (Function.update lists m (some l')) := by
  obtain ⟨hgone, hnodup⟩ := List.nodup_cons.mp (hl'.nodup_iff.mp (h.nodup m l hl))
  have hi : of i = some m := h.of_mem hl (hl'.mem_iff.mpr List.mem_cons_self)
  refine ⟨fun j m' => ?_, fun m' q hq => ?_⟩
  · by_cases hj : j = i
    · subst hj
      rw [Function.update_self]
      refine iff_of_false (fun heq => by cases heq) ?_
      rintro ⟨q, hq, hmem⟩
      by_cases hm : m' = m
      · rw [hm, Function.update_self, Option.some.injEq] at hq
        exact hgone (hq ▸ hmem)
      · rw [Function.update_of_ne hm] at hq
        exact hm (Option.some.inj ((h.of_mem hq hmem).symm.trans hi))
    · rw [Function.update_of_ne hj, h.iff j m']
      by_cases hm : m' = m
      · rw [hm, Function.update_self, hl]
        simp only [Option.some.injEq, exists_eq_left', hl'.mem_iff, List.mem_cons, or_iff_right hj]
      · rw [Function.update_of_ne hm]
  · by_cases hm : m' = m
    · subst hm
      rw [Function.update_self, Option.some.injEq] at hq
      exact hq ▸ hnodup
    · rw [Function.update_of_ne hm] at hq
      exact h.nodup m' q hq

omit [DecidableEq ι] in
/-- A group without members, to begin with. -/
theorem Agree.empty (h : Agree of lists) (hm : lists m = none) :
    Agree of (Function.update lists m (some [])) := by
  refine ⟨fun j m' => ?_, fun m' q hq => ?_⟩
  · rw [h.iff j m']
    by_cases heq : m' = m
    · rw [heq, Function.update_self, hm]
      simp
    · rw [Function.update_of_ne heq]
  · by_cases heq : m' = m
    · rw [heq, Function.update_self, Option.some.injEq] at hq
      exact hq ▸ List.nodup_nil
    · rw [Function.update_of_ne heq] at hq
      exact h.nodup m' q hq

theorem Agree.found (h : Agree of lists) (hm : lists m = none) (hnodup : l.Nodup)
    (hl : ∀ i ∈ l, of i = none) :
    Agree (fun i => if i ∈ l then some m else of i) (Function.update lists m (some l)) := by
  have hnobody : ∀ j, of j ≠ some m := fun j heq => by
    obtain ⟨q, hq, -⟩ := (h.iff j m).mp heq
    rw [hm] at hq
    cases hq
  refine ⟨fun j m' => ?_, fun m' q hq => ?_⟩
  · by_cases heq : m' = m
    · subst heq
      rw [Function.update_self]
      simp only [Option.some.injEq, exists_eq_left']
      split_ifs with hj
      · exact iff_of_true rfl hj
      · exact iff_of_false (hnobody j) hj
    · rw [Function.update_of_ne heq, ← h.iff j m']
      split_ifs with hj
      · rw [hl j hj]
        exact iff_of_false (fun h' => heq (Option.some.inj h').symm) nofun
      · rfl
  · by_cases heq : m' = m
    · rw [heq, Function.update_self, Option.some.injEq] at hq
      exact hq ▸ hnodup
    · rw [Function.update_of_ne heq] at hq
      exact h.nodup m' q hq

theorem Agree.dissolve (h : Agree of lists) (hl : lists m = some l) :
    Agree (fun i => if i ∈ l then none else of i) (Function.update lists m none) := by
  refine ⟨fun j m' => ?_, fun m' q hq => ?_⟩
  · by_cases hm : m' = m
    · subst hm
      rw [Function.update_self]
      refine iff_of_false ?_ fun ⟨q, hq, _⟩ => by cases hq
      split_ifs with hj
      · exact fun heq => by cases heq
      · exact fun heq => hj (by
          obtain ⟨q, hq, hmem⟩ := (h.iff j m').mp heq
          rw [hl, Option.some.injEq] at hq
          exact hq ▸ hmem)
    · rw [Function.update_of_ne hm]
      split_ifs with hj
      · refine iff_of_false (fun heq => by cases heq) ?_
        rintro ⟨q, hq, hmem⟩
        exact hm (h.eq_group hq hl hmem hj)
      · exact h.iff j m'
  · by_cases hm : m' = m
    · rw [hm, Function.update_self] at hq
      cases hq
    · rw [Function.update_of_ne hm] at hq
      exact h.nodup m' q hq

end Grouping
