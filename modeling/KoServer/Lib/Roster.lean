import Mathlib.Data.List.Basic
import Mathlib.Data.List.GetD
import Mathlib.Data.List.Count

/-! Fixed rows of places, each free or taken: who is in, how often, and how that changes when
someone takes the first free place, leaves the first of their places, or two places are
exchanged. -/

namespace Roster

variable {α : Type*}

/-- Who is in, from the first place to the last. -/
def occupants (r : List (Option α)) : List α := r.filterMap id

/-- `a` takes the first free place, if there is one. -/
def enlist (a : α) : List (Option α) → Option (List (Option α))
  | [] => none
  | none :: r => some (some a :: r)
  | some b :: r => (enlist a r).map (some b :: ·)

/-- The first place `a` has becomes free, if there is one. -/
def strike [DecidableEq α] (a : α) : List (Option α) → Option (List (Option α))
  | [] => none
  | p :: r => if p = some a then some (none :: r) else (strike a r).map (p :: ·)

def exchange (r : List (Option α)) (i j : ℕ) : List (Option α) :=
  (r.set i (r.getD j none)).set j (r.getD i none)

variable {a b : α} {r r' : List (Option α)}

theorem mem_occupants : a ∈ occupants r ↔ some a ∈ r := by simp [occupants]

theorem length_occupants_le : (occupants r).length ≤ r.length := List.length_filterMap_le _ _

theorem count_occupants [DecidableEq α] (a : α) (r : List (Option α)) :
    (occupants r).count a = r.count (some a) := by
  induction r with
  | nil => rfl
  | cons p r ih =>
    cases p with
    | none => simpa [occupants] using ih
    | some b =>
      change (b :: occupants r).count a = _
      rw [List.count_cons, List.count_cons, ih]
      simp

theorem length_of_enlist (h : enlist a r = some r') : r'.length = r.length := by
  induction r generalizing r' with
  | nil => cases h
  | cons p r ih =>
    cases p with
    | none =>
      obtain rfl := Option.some.inj h
      rfl
    | some c =>
      obtain ⟨r'', hr, rfl⟩ := Option.map_eq_some_iff.mp h
      simp [ih hr]

theorem count_of_enlist [DecidableEq α] (h : enlist a r = some r') (b : α) :
    r'.count (some b) = r.count (some b) + if a = b then 1 else 0 := by
  induction r generalizing r' with
  | nil => cases h
  | cons p r ih =>
    cases p with
    | none =>
      obtain rfl := Option.some.inj h
      simp [List.count_cons]
    | some c =>
      obtain ⟨r'', hr, rfl⟩ := Option.map_eq_some_iff.mp h
      rw [List.count_cons, List.count_cons, ih hr]
      omega

/-- The first place stays with whoever has it. -/
theorem head_of_enlist (h : enlist a r = some r') (hb : r.head? = some (some b)) :
    r'.head? = some (some b) := by
  cases r with
  | nil => cases h
  | cons p r =>
    obtain rfl := Option.some.inj hb
    obtain ⟨r'', -, rfl⟩ := Option.map_eq_some_iff.mp h
    rfl

section

variable [DecidableEq α]

theorem strike_eq_none : strike a r = none ↔ some a ∉ r := by
  induction r with
  | nil => simp [strike]
  | cons p r ih =>
    unfold strike
    split_ifs with hp
    · simp [hp]
    · simp [ih, Ne.symm hp]

theorem length_of_strike (h : strike a r = some r') : r'.length = r.length := by
  induction r generalizing r' with
  | nil => cases h
  | cons p r ih =>
    unfold strike at h
    split_ifs at h with hp
    · obtain rfl := Option.some.inj h
      rfl
    · obtain ⟨r'', hr, rfl⟩ := Option.map_eq_some_iff.mp h
      simp [ih hr]

theorem count_of_strike (h : strike a r = some r') (b : α) :
    r'.count (some b) + (if a = b then 1 else 0) = r.count (some b) := by
  induction r generalizing r' with
  | nil => cases h
  | cons p r ih =>
    unfold strike at h
    split_ifs at h with hp
    · obtain rfl := Option.some.inj h
      subst hp
      simp [List.count_cons]
    · obtain ⟨r'', hr, rfl⟩ := Option.map_eq_some_iff.mp h
      rw [List.count_cons, List.count_cons, ← ih hr]
      omega

theorem head_of_strike (h : strike a r = some r') (hb : r.head? = some (some b)) (hab : b ≠ a) :
    r'.head? = some (some b) := by
  cases r with
  | nil => cases h
  | cons p r =>
    obtain rfl := Option.some.inj hb
    unfold strike at h
    rw [if_neg fun heq => hab (Option.some.inj heq)] at h
    obtain ⟨r'', -, rfl⟩ := Option.map_eq_some_iff.mp h
    rfl

end

theorem length_exchange (i j : ℕ) : (exchange r i j).length = r.length := by simp [exchange]

/-- One place rewritten: who had it goes, who has it now comes. -/
theorem count_set_add [DecidableEq α] {i : ℕ} (hi : i < r.length) (p q : Option α) :
    (r.set i p).count q + (if r.getD i none = q then 1 else 0) =
      r.count q + if p = q then 1 else 0 := by
  induction r generalizing i with
  | nil => simp at hi
  | cons s r ih =>
    cases i with
    | zero =>
      simp only [List.set_cons_zero, List.getD_cons_zero, List.count_cons, beq_iff_eq]
      omega
    | succ i =>
      have := ih (Nat.lt_of_succ_lt_succ hi)
      simp only [List.set_cons_succ, List.getD_cons_succ, List.count_cons, beq_iff_eq]
      omega

theorem count_exchange [DecidableEq α] {i j : ℕ} (hi : i < r.length) (hj : j < r.length) (q : Option α) :
    (exchange r i j).count q = r.count q := by
  have hi' := count_set_add hi (r.getD j none) q
  have hj' : j < (r.set i (r.getD j none)).length := by rwa [List.length_set]
  have hjset := count_set_add hj' (r.getD i none) q
  have hread : (r.set i (r.getD j none)).getD j none = r.getD j none := by
    rcases eq_or_ne i j with rfl | hij
    · simp [List.getD_eq_getElem?_getD, hi]
    · simp [List.getD_eq_getElem?_getD, List.getElem?_set_ne hij]
  rw [hread] at hjset
  unfold exchange
  omega

theorem head_exchange {i : ℕ} (hr : 0 < r.length) (hi : r.getD i none = some a) :
    (exchange r 0 i).head? = some (some a) := by
  obtain ⟨p, t, rfl⟩ := List.exists_cons_of_length_pos hr
  unfold exchange
  cases i with
  | zero =>
    rw [List.getD_cons_zero] at hi
    simp [hi]
  | succ i =>
    rw [hi]
    simp

theorem taken_perm [DecidableEq α] {free : α} (ha : a ≠ free) (before after : List α) :
    ((before ++ a :: after).filter (· ≠ free)).Perm
      (a :: (before ++ free :: after).filter (· ≠ free)) := by
  have htaken : (a :: after).filter (· ≠ free) = a :: after.filter (· ≠ free) := by simp [ha]
  have hfree : (free :: after).filter (· ≠ free) = after.filter (· ≠ free) := by simp
  rw [List.filter_append, List.filter_append, htaken, hfree]
  exact List.perm_middle

/-- All places of `a` become free. -/
theorem taken_clear [DecidableEq α] (free a : α) (places : List α) :
    (places.map fun p => if p = a then free else p).filter (· ≠ free) =
      (places.filter (· ≠ free)).filter (· ≠ a) := by
  rw [List.filter_map, List.filter_filter]
  conv_rhs => rw [← List.map_id (List.filter _ places)]
  have hkeep : ∀ p, ((fun p => decide (p ≠ free)) ∘ fun p => if p = a then free else p) p =
      (decide (p ≠ a) && decide (p ≠ free)) := by
    intro p
    rw [Function.comp_apply]
    split_ifs with hp <;> simp [hp]
  rw [List.filter_congr fun p _ => hkeep p]
  refine List.map_congr_left fun p hp => if_neg ?_
  have := (List.mem_filter.mp hp).2
  simp only [Bool.and_eq_true, decide_eq_true_eq] at this
  exact this.1

end Roster
