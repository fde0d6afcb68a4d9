import Mathlib.Data.List.Nodup
import Mathlib.Data.List.Lookmap
import Mathlib.Data.List.Perm.Basic

/-! Entries under keys, at most one under each, and effects of the entries that are there: flags
that some keys raise and lower, and amounts that follow the entry of one key. -/

structure KeyedList {κ α : Type*} (key : α → κ) where
  entries : List α
  nodup : (entries.map key).Nodup

/-- An order in which the entries of a map may be visited. -/
structure Shuffle (α : Type*) where
  order : List α → List α
  perm : ∀ l, (order l).Perm l

namespace Shuffle

variable {α : Type*}

def id : Shuffle α := ⟨fun l => l, fun l => List.Perm.refl l⟩

@[simp] theorem mem_order (s : Shuffle α) {l : List α} {a : α} : a ∈ s.order l ↔ a ∈ l :=
  (s.perm l).mem_iff

/-- Every order of what is read off some of the entries comes from an order of the entries. -/
theorem exists_read {β : Type*} {l : List α} {p : α → Bool} {q : α → β} {l' : List β}
    (h : l'.Perm ((l.filter p).map q)) : ∃ s : Shuffle α, ((s.order l).filter p).map q = l' := by
  classical
  have hread : List.Forall₂ (fun b a => b = q a) ((l.filter p).map q) (l.filter p) := by
    rw [List.forall₂_map_left_iff]
    exact List.forall₂_same.mpr fun a _ => rfl
  obtain ⟨w, hw, hperm⟩ := List.perm_comp_forall₂ h hread
  have hl' : w.map q = l' := by
    rw [← List.forall₂_eq_eq_eq, List.forall₂_map_left_iff]
    exact hw.flip.imp fun a b hb => hb.symm
  have hall : (w ++ l.filter fun a => !p a).Perm l :=
    (hperm.append_right _).trans (List.filter_append_perm p l)
  refine ⟨⟨fun k => if k = l then w ++ l.filter fun a => !p a else k, ?_⟩, ?_⟩
  · intro k
    split_ifs with hk
    · rw [hk]
      exact hall
    · rfl
  · have hkept : w.filter p = w :=
      List.filter_eq_self.mpr fun a ha => (List.mem_filter.mp (hperm.mem_iff.mp ha)).2
    have hrest : (l.filter fun a => !p a).filter p = [] := by
      rw [List.filter_filter, List.filter_eq_nil_iff]
      simp
    simp only [if_true, List.filter_append, hkept, hrest, List.append_nil, hl']

theorem forall_read_iff {β : Type*} {l : List α} {p : α → Bool} {q : α → β} {P : List β → Prop} :
    (∀ s : Shuffle α, P (((s.order l).filter p).map q)) ↔
      ∀ l', l'.Perm ((l.filter p).map q) → P l' := by
  constructor
  · intro h l' hl'
    obtain ⟨s, rfl⟩ := exists_read hl'
    exact h s
  · intro h s
    exact h _ (((s.perm l).filter p).map q)

end Shuffle

namespace KeyedList

variable {κ α : Type*} {key : α → κ}

def empty : KeyedList key := ⟨[], List.nodup_nil⟩

def filter (m : KeyedList key) (p : α → Bool) : KeyedList key :=
  ⟨m.entries.filter p, m.nodup.sublist (List.filter_sublist.map key)⟩

variable {m : KeyedList key} {a b : α} {p : α → Bool}

@[simp] theorem mem_filter : b ∈ (m.filter p).entries ↔ b ∈ m.entries ∧ p b = true :=
  List.mem_filter

theorem eq_of_key (ha : a ∈ m.entries) (hb : b ∈ m.entries) (h : key a = key b) : a = b :=
  List.inj_on_of_nodup_map m.nodup ha hb h

/-- A walk that takes over the last entry of a kind, where there is none. -/
theorem foldl_of_none {β : Type*} {f : α → β} {l : List α} {b : β}
    (h : ∀ a ∈ l, p a = false) : l.foldl (fun b a => if p a then f a else b) b = b := by
  induction l generalizing b with
  | nil => rfl
  | cons a l ih =>
    obtain ⟨ha, hl⟩ := List.forall_mem_cons.mp h
    rw [List.foldl_cons, ha]
    exact ih hl

theorem foldl_of_unique {β : Type*} {f : α → β} {l : List α} {b : β}
    (ha : a ∈ l) (hp : p a = true) (h : ∀ c ∈ l, p c = true → c = a) :
    l.foldl (fun b a => if p a then f a else b) b = f a := by
  induction l generalizing b with
  | nil => simp at ha
  | cons c l ih =>
    obtain ⟨hc, hl⟩ := List.forall_mem_cons.mp h
    rw [List.foldl_cons]
    by_cases hmem : a ∈ l
    · exact ih hmem hl
    · have hca : a = c := (List.mem_cons.mp ha).resolve_right hmem
      subst hca
      rw [if_pos hp]
      refine foldl_of_none fun d hd => ?_
      by_contra hpd
      apply hmem
      rw [← hl d hd (by simpa using hpd)]
      exact hd

variable [DecidableEq κ] {k : κ}

def erase (m : KeyedList key) (k : κ) : KeyedList key := m.filter fun a => key a ≠ k

/-- The entry takes the place of the one of its key. -/
def insert (m : KeyedList key) (a : α) : KeyedList key where
  entries := a :: (m.erase (key a)).entries
  nodup := by
    rw [List.map_cons, List.nodup_cons]
    refine ⟨?_, (m.erase (key a)).nodup⟩
    intro h
    obtain ⟨b, hb, hk⟩ := List.mem_map.mp h
    exact of_decide_eq_true (List.mem_filter.mp hb).2 hk

def adjust (m : KeyedList key) (f : α → α) (hf : ∀ a, key (f a) = key a) : KeyedList key where
  entries := m.entries.map f
  nodup := by
    rw [List.map_map]
    have hkey : key ∘ f = key := funext hf
    rw [hkey]
    exact m.nodup

def find (m : KeyedList key) (k : κ) : Option α := m.entries.find? fun a => key a = k

def has (m : KeyedList key) (k : κ) : Bool := m.entries.any fun a => key a = k

@[simp] theorem mem_erase : b ∈ (m.erase k).entries ↔ b ∈ m.entries ∧ key b ≠ k := by
  rw [erase, mem_filter, decide_eq_true_iff]

@[simp] theorem mem_insert :
    b ∈ (m.insert a).entries ↔ b = a ∨ b ∈ m.entries ∧ key b ≠ key a := by
  unfold insert
  rw [List.mem_cons, mem_erase]

theorem find_eq_some : m.find k = some a ↔ a ∈ m.entries ∧ key a = k := by
  unfold find
  constructor
  · intro h
    exact ⟨List.mem_of_find?_eq_some h, by simpa using List.find?_some h⟩
  · rintro ⟨ha, hk⟩
    obtain ⟨b, hb⟩ : ∃ b, m.entries.find? (fun a => key a = k) = some b := by
      rw [← Option.isSome_iff_exists, List.find?_isSome]
      exact ⟨a, ha, by simpa using hk⟩
    have hbk : key b = k := by simpa using List.find?_some hb
    rw [hb, eq_of_key (List.mem_of_find?_eq_some hb) ha (hbk.trans hk.symm)]

theorem find_eq_none : m.find k = none ↔ ∀ a ∈ m.entries, key a ≠ k := by
  simp [find]

theorem has_iff : m.has k = true ↔ ∃ a ∈ m.entries, key a = k := by
  simp [has]

theorem find_congr {m' : KeyedList key}
    (h : ∀ a, key a = k → (a ∈ m.entries ↔ a ∈ m'.entries)) : m.find k = m'.find k := by
  cases hm : m.find k with
  | none =>
    refine (find_eq_none.mpr fun a ha hk => ?_).symm
    exact find_eq_none.mp hm a ((h a hk).mpr ha) hk
  | some a =>
    obtain ⟨ha, hk⟩ := find_eq_some.mp hm
    exact (find_eq_some.mpr ⟨(h a hk).mp ha, hk⟩).symm

@[simp] theorem find_insert_self : (m.insert a).find (key a) = some a :=
  find_eq_some.mpr ⟨mem_insert.mpr (Or.inl rfl), rfl⟩

theorem find_insert_of_ne (h : key a ≠ k) : (m.insert a).find k = m.find k := by
  refine find_congr fun b hb => ?_
  rw [mem_insert]
  constructor
  · rintro (rfl | ⟨hm, -⟩)
    · exact absurd hb h
    · exact hm
  · intro hm
    exact Or.inr ⟨hm, fun hk => h (hk.symm.trans hb)⟩

theorem find_filter : (m.filter p).find k = (m.find k).filter p := by
  cases hm : m.find k with
  | none =>
    rw [Option.filter_none, find_eq_none]
    intro a ha
    exact find_eq_none.mp hm a (mem_filter.mp ha).1
  | some a =>
    obtain ⟨ha, hk⟩ := find_eq_some.mp hm
    cases hp : p a with
    | true =>
      rw [Option.filter_some_pos hp, find_eq_some]
      exact ⟨mem_filter.mpr ⟨ha, hp⟩, hk⟩
    | false =>
      rw [Option.filter_some_neg (by simp [hp]), find_eq_none]
      intro b hb hbk
      obtain ⟨hb, hpb⟩ := mem_filter.mp hb
      rw [eq_of_key hb ha (hbk.trans hk.symm), hp] at hpb
      cases hpb

theorem find_adjust {f : α → α} (hf : ∀ a, key (f a) = key a) :
    (m.adjust f hf).find k = (m.find k).map f := by
  cases hm : m.find k with
  | none =>
    rw [Option.map_none, find_eq_none]
    intro a ha
    obtain ⟨b, hb, rfl⟩ := List.mem_map.mp ha
    rw [hf]
    exact find_eq_none.mp hm b hb
  | some a =>
    obtain ⟨ha, hk⟩ := find_eq_some.mp hm
    rw [Option.map_some, find_eq_some]
    exact ⟨List.mem_map_of_mem ha, (hf a).trans hk⟩

theorem find_erase_of_ne {l : κ} (h : k ≠ l) : (m.erase l).find k = m.find k := by
  refine find_congr fun b hb => ?_
  rw [mem_erase]
  constructor
  · intro hm
    exact hm.1
  · intro hm
    exact ⟨hm, fun hk => h (hb.symm.trans hk)⟩

theorem length_erase (h : a ∈ m.entries) :
    (m.erase (key a)).entries.length + 1 = m.entries.length := by
  have hkeys : (m.erase (key a)).entries.map key = (m.entries.map key).erase (key a) := by
    rw [m.nodup.erase_eq_filter, List.filter_map]
    apply congrArg
    apply List.filter_congr
    intro b _
    by_cases hb : key b = key a
    all_goals simp [hb]
  have hlength := congrArg List.length hkeys
  have hmem : key a ∈ m.entries.map key := List.mem_map_of_mem h
  have hpos : 0 < m.entries.length := List.length_pos_of_mem h
  rw [List.length_map, List.length_erase_of_mem hmem, List.length_map] at hlength
  omega

theorem erase_of_free (h : ∀ b ∈ m.entries, key b ≠ k) : (m.erase k).entries = m.entries := by
  apply List.filter_eq_self.mpr
  intro b hb
  exact decide_eq_true (h b hb)

theorem length_insert_of_free (h : ∀ b ∈ m.entries, key b ≠ key a) :
    (m.insert a).entries.length = m.entries.length + 1 := by
  unfold insert
  rw [List.length_cons, erase_of_free h]

/-- An entry under a key that is taken replaces another. -/
theorem length_insert_of_taken (hb : b ∈ m.entries) (h : key b = key a) :
    (m.insert a).entries.length = m.entries.length := by
  unfold insert
  rw [List.length_cons, ← h]
  exact length_erase hb

/-- A flag that is lowered when entries go stands for those that are left, unless it is lowered
while one of them is there. -/
theorem flag_lowered {flag cleared : Bool} {before after : Prop} (h : flag = true ↔ before)
    (hafter : after → before) (hgone : before → ¬ after → cleared = true) :
    ((flag && !cleared) = true ↔ after) ↔ ¬ (cleared = true ∧ after) := by
  cases cleared
  · have hkept : before ↔ after := by
      refine ⟨fun hb => ?_, hafter⟩
      by_contra ha
      exact absurd (hgone hb ha) (by decide)
    simp [h, hkept]
  · simp

theorem foldl_lowered {σ β : Type*} (read : σ → Bool) (f : σ → β → σ) (clears : β → Bool)
    (hf : ∀ s b, read (f s b) = (read s && !clears b)) (l : List β) (s : σ) :
    read (l.foldl f s) = (read s && !l.any clears) := by
  induction l generalizing s with
  | nil => simp
  | cons b l ih => rw [List.foldl_cons, ih, hf, List.any_cons, Bool.not_or, Bool.and_assoc]

theorem foldl_reset {σ β γ : Type*} (read : σ → γ) (f : σ → β → σ) (resets : β → Bool)
    (default : γ) (hf : ∀ s b, read (f s b) = if resets b then default else read s) (l : List β)
    (s : σ) : read (l.foldl f s) = if l.any resets then default else read s := by
  induction l generalizing s with
  | nil => rfl
  | cons b l ih =>
    rw [List.foldl_cons, ih, hf, List.any_cons]
    cases resets b
    · rfl
    · simp

end KeyedList
