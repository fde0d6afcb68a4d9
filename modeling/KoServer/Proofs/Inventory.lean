import Mathlib.Data.List.GetD
import KoServer.Lib.Tally
import KoServer.Spec.Inventory

/-! Units of an item over a slot array. A countable item weighs its stack count, any other
item one; an empty slot weighs nothing for any item there is. -/

namespace KoServer

def nonCountable (table : ItemTable) (itemId : ℕ) : Bool :=
  ((table itemId).bind Item.countable).getD 0 = 0

def slotUnits (table : ItemTable) (itemId : ℕ) (s : UserItemSlot) : ℕ :=
  if s.itemId = itemId then if nonCountable table itemId then 1 else s.count else 0

def units (table : ItemTable) (itemId : ℕ) (inv : Inventory) : ℕ :=
  Tally.total (slotUnits table itemId) inv

/-- The units of `itemId` in a slot, as its counter has them. -/
def stack (itemId : ℕ) (s : UserItemSlot) : ℕ := if s.itemId = itemId then s.count else 0

def holdsUnits (table : ItemTable) (s : UserItemSlot) : Prop :=
  s.itemId ≠ 0 ∧ 0 < slotUnits table s.itemId s

theorem stack_of_same {itemId : ℕ} {s : UserItemSlot} (h : s.itemId = itemId) :
    stack itemId s = s.count := if_pos h

theorem stack_of_other {itemId id : ℕ} {s : UserItemSlot} (h : s.itemId = itemId)
    (hne : id ≠ itemId) : stack id s = 0 := if_neg fun hid => hne (hid.symm.trans h)

section

variable (table : ItemTable) {itemId : ℕ}

@[simp] theorem slotUnits_empty (h : itemId ≠ 0) : slotUnits table itemId {} = 0 :=
  if_neg h.symm

theorem slotUnits_of_empty {s : UserItemSlot} (hid : itemId ≠ 0) (hs : s.itemId = 0) :
    slotUnits table itemId s = 0 := by
  refine if_neg ?_
  rw [hs]
  exact hid.symm

end

variable {table : ItemTable} {itemId : ℕ} {inv : Inventory}

theorem not_holdsUnits {s : UserItemSlot} :
    ¬ holdsUnits table s ↔ ∀ id ≠ 0, slotUnits table id s = 0 := by
  constructor
  · intro h id hid
    by_cases hs : s.itemId = id
    · subst hs
      by_contra hne
      exact h ⟨hid, Nat.pos_of_ne_zero hne⟩
    · exact if_neg hs
  · rintro h ⟨hid, hpos⟩
    rw [h _ hid] at hpos
    exact lt_irrefl 0 hpos

namespace Inventory

@[simp] theorem length_padded : inv.padded.length = max inv.length INVENTORY_TOTAL := by
  simp [padded]
  omega

theorem total_le_padded : INVENTORY_TOTAL ≤ inv.padded.length := by simp

@[simp] theorem slot_padded (i : ℕ) : inv.padded.slot i = inv.slot i := by
  unfold slot padded
  rcases Nat.lt_or_ge i inv.length with h | h
  · rw [List.getD_append _ _ _ _ h]
  · rw [List.getD_append_right _ _ _ _ h, List.getD_eq_default _ _ h]
    simp only [List.getD_eq_getElem?_getD, List.getElem?_replicate]
    split <;> rfl

theorem slot_of_getElem? {i : ℕ} {s : UserItemSlot} (h : inv[i]? = some s) : inv.slot i = s := by
  rw [slot, List.getD_eq_getElem?_getD, h, Option.getD_some]

/-- What holds of every entry and of the empty slot holds of every slot. -/
theorem forall_slot {p : UserItemSlot → Prop} (h : ∀ s ∈ inv, p s) (hempty : p {}) (i : ℕ) :
    p (inv.slot i) := by
  unfold slot
  rcases Nat.lt_or_ge i inv.length with hi | hi
  · rw [List.getD_eq_getElem _ _ hi]
    exact h _ (List.getElem_mem hi)
  · rw [List.getD_eq_default _ _ hi]
    exact hempty

theorem slot_set_self {i : ℕ} (hi : i < inv.length) (a : UserItemSlot) : slot (inv.set i a) i = a :=
  Tally.getD_set_self hi a {}

theorem slot_set_ne {i j : ℕ} (h : i ≠ j) (a : UserItemSlot) : slot (inv.set i a) j = inv.slot j :=
  Tally.getD_set_ne h a {}

end Inventory

theorem units_padded (h : itemId ≠ 0) : units table itemId inv.padded = units table itemId inv := by
  simp [units, Inventory.padded, Tally.total_replicate, h]

theorem units_set (table : ItemTable) (itemId : ℕ) {i : ℕ} (hi : i < inv.length) (a : UserItemSlot) :
    units table itemId (inv.set i a) + slotUnits table itemId (inv.slot i) =
      units table itemId inv + slotUnits table itemId a :=
  Tally.total_set _ hi a {}

/-- Two different slots overwritten. -/
theorem units_set_set (table : ItemTable) (itemId : ℕ) {i j : ℕ} (hi : i < inv.length)
    (hj : j < inv.length) (hij : i ≠ j) (a b : UserItemSlot) :
    units table itemId ((inv.set i a).set j b) + slotUnits table itemId (inv.slot i) +
        slotUnits table itemId (inv.slot j) =
      units table itemId inv + slotUnits table itemId a + slotUnits table itemId b := by
  have h1 := units_set table itemId hi a
  have hj' : j < (inv.set i a).length := by rwa [List.length_set]
  have h2 := units_set table itemId hj' b
  rw [Inventory.slot_set_ne hij] at h2
  omega

theorem units_swap {a b : ℕ} (ha : a < inv.length) (hb : b < inv.length) :
    units table itemId (inv.swap a b) = units table itemId inv := by
  unfold Inventory.swap
  rcases eq_or_ne a b with rfl | hab
  · have h := units_set table itemId ha (inv.slot a)
    rw [List.set_set]
    omega
  · have h := units_set_set table itemId ha hb hab (inv.slot b) (inv.slot a)
    omega

/-- A slot emptied into an empty one, which may be itself. -/
theorem units_move {a b : ℕ} (ha : a < inv.length) (hb : b < inv.length) (hid : itemId ≠ 0)
    (hempty : (inv.slot b).itemId = 0) :
    units table itemId ((inv.set b (inv.slot a)).set a {}) = units table itemId inv := by
  have hb0 := slotUnits_of_empty table hid hempty
  have h0 := slotUnits_empty table hid
  rcases eq_or_ne b a with rfl | hab
  · have h := units_set table itemId hb {}
    rw [List.set_set]
    omega
  · have h := units_set_set table itemId hb ha hab (inv.slot a) {}
    omega

end KoServer
