import Mathlib.Data.List.Basic
import Mathlib.Data.List.Nodup
import Mathlib.Data.List.Count

/-! Rows with a key: rewriting the rows of one key, and how many rows meet a condition then. -/

namespace Rows

variable {α κ : Type*} [DecidableEq κ] {key : α → κ} {k : κ} {f : α → α} {rows : List α} {r r' : α}

/-- The rows of key `k` are rewritten, the others stay. -/
def update (key : α → κ) (k : κ) (f : α → α) (rows : List α) : List α :=
  rows.map fun r => if key r = k then f r else r

theorem mem_update :
    r ∈ update key k f rows ↔ r ∈ rows ∧ key r ≠ k ∨ ∃ r' ∈ rows, key r' = k ∧ f r' = r := by
  unfold update
  rw [List.mem_map]
  constructor
  · rintro ⟨r', hr', rfl⟩
    split_ifs with hk
    · exact Or.inr ⟨r', hr', hk, rfl⟩
    · exact Or.inl ⟨hr', hk⟩
  · rintro (⟨hr, hk⟩ | ⟨r', hr', hk, rfl⟩)
    · exact ⟨r, hr, if_neg hk⟩
    · exact ⟨r', hr', if_pos hk⟩

theorem update_of_absent (h : ∀ r ∈ rows, key r ≠ k) : update key k f rows = rows := by
  unfold update
  conv_rhs => rw [← List.map_id rows]
  exact List.map_congr_left fun r hr => if_neg (h r hr)

omit [DecidableEq κ] in
theorem eq_of_key (hnodup : (rows.map key).Nodup) (hr : r ∈ rows) (hr' : r' ∈ rows)
    (hkey : key r = key r') : r = r' :=
  List.inj_on_of_nodup_map hnodup hr hr' hkey

/-- Keys are unique: a search for the key of a row finds the row. -/
theorem find?_of_key (hnodup : (rows.map key).Nodup) (hr : r ∈ rows) :
    rows.find? (fun r' => key r' = key r) = some r := by
  induction rows with
  | nil => cases hr
  | cons r' rows ih =>
    rw [List.map_cons, List.nodup_cons] at hnodup
    rcases List.mem_cons.mp hr with rfl | hmem
    · exact List.find?_cons_of_pos (by simp)
    · have hne : key r' ≠ key r := fun heq => hnodup.1 (heq ▸ List.mem_map_of_mem hmem)
      rw [List.find?_cons_of_neg (by simpa using hne), ih hnodup.2 hmem]

theorem countP_update (hnodup : (rows.map key).Nodup) (hr : r ∈ rows) (p : α → Bool) :
    (update key (key r) f rows).countP p + (if p r then 1 else 0) =
      rows.countP p + if p (f r) then 1 else 0 := by
  induction rows with
  | nil => cases hr
  | cons r' rows ih =>
    rw [List.map_cons, List.nodup_cons] at hnodup
    obtain ⟨hnew, hnodup⟩ := hnodup
    have hcons : update key (key r) f (r' :: rows) =
      (if key r' = key r then f r' else r') :: update key (key r) f rows := rfl
    rw [hcons, List.countP_cons, List.countP_cons]
    rcases List.mem_cons.mp hr with rfl | hr
    · have hrest : update key (key r) f rows = rows :=
        update_of_absent fun r' hr' hk => hnew (hk ▸ List.mem_map_of_mem hr')
      rw [if_pos rfl, hrest]
      omega
    · rw [if_neg fun hk : key r' = key r => hnew (hk ▸ List.mem_map_of_mem hr)]
      have := ih hnodup hr
      omega

section Modify

variable {α : Type*} {p : α → Prop} {xs : List α} {x : α}

theorem mem_modify {f : α → α} {k : ℕ} :
    x ∈ xs.modify k f ↔ ∃ i y, xs[i]? = some y ∧ x = if k = i then f y else y := by
  rw [List.mem_iff_getElem?]
  simp only [List.getElem?_modify, Option.map_eq_map, Option.map_eq_some_iff]
  constructor
  · rintro ⟨i, y, hy, rfl⟩
    exact ⟨i, y, hy, rfl⟩
  · rintro ⟨i, y, hy, rfl⟩
    exact ⟨i, y, hy, rfl⟩

/-- What every row of a list is, it is after one row is rewritten. -/
theorem forall_mem_modify (f : α → α) (k : ℕ) (hxs : ∀ x ∈ xs, p x) (hf : ∀ x, p x → p (f x)) :
    ∀ x ∈ xs.modify k f, p x := by
  intro x hx
  obtain ⟨i, y, hy, rfl⟩ := mem_modify.mp hx
  have hpy := hxs y (List.mem_of_getElem? hy)
  split_ifs
  exacts [hf y hpy, hpy]

end Modify

end Rows
