import KoServer.Proofs.BagItems

/-! What `give_item` adds: the units that were asked for, except for the items of which there
is only one in a slot. -/

namespace KoServer

variable {table : ItemTable} {inv inv' : Inventory} {serial itemId count pos : ℕ} {item : Item}

def giveItemAnswer (table : ItemTable) (serial : ℕ) (inv : Inventory) (itemId count : ℕ) :
    Bool × Inventory :=
  match giveItem table serial inv itemId count with
  | none => (false, inv)
  | some inv' => (true, inv')

def OneInSlot (item : Item) : Prop := item.kindD = ITEM_KIND_UNIQUE ∨ item.countableD = 0

instance : Decidable (OneInSlot item) := by
  unfold OneInSlot
  infer_instance

theorem stackGiven_single (h : OneInSlot item) (s : UserItemSlot) :
    (stackGiven item serial itemId count s).count = 1 := if_pos h

/-- The `u16` that saturates is cut to the stack's maximum afterwards. -/
theorem stackGiven_stack (h : ¬OneInSlot item) (s : UserItemSlot) :
    (stackGiven item serial itemId count s).count = min (s.count + count) ITEMCOUNT_MAX := by
  have hcut : min (saturatingAdd16 s.count count) ITEMCOUNT_MAX =
      min (s.count + count) ITEMCOUNT_MAX := by
    simp only [saturatingAdd16, ITEMCOUNT_MAX]
    omega
  exact (if_neg h).trans hcut

theorem stackGiven_count_le (s : UserItemSlot) :
    (stackGiven item serial itemId count s).count ≤ ITEMCOUNT_MAX := by
  by_cases h : OneInSlot item
  · rw [stackGiven_single h]
    simp [ITEMCOUNT_MAX]
  · rw [stackGiven_stack h]
    exact min_le_right _ _

theorem room_of_found (hcounts : ∀ s ∈ inv, s.count ≤ ITEMCOUNT_MAX)
    (hcount : count ≤ ITEMCOUNT_MAX)
    (hwiped : (inv.slot pos).itemId = 0 → (inv.slot pos).count = 0)
    (hfound : findSlotForItem table inv itemId count = some pos) :
    (inv.slot pos).count + count ≤ ITEMCOUNT_MAX := by
  obtain ⟨hlt, hempty | ⟨-, hroom⟩⟩ := findSlotForItem_spec hfound
  · rw [hwiped hempty, Nat.zero_add]
    exact hcount
  · -- two stacks do not reach the end of the `u16`
    have hle : (inv.slot pos).count ≤ ITEMCOUNT_MAX := Inventory.forall_slot hcounts (Nat.zero_le _) pos
    simp only [ITEMCOUNT_MAX] at *
    omega

structure Given (item : Item) (inv inv' : Inventory) (itemId count pos : ℕ) : Prop where
  bag : pos ∈ bagSlots
  others : ∀ j ≠ pos, inv'.slot j = inv.slot j
  before : (inv.slot pos).itemId = 0 ∨ (inv.slot pos).itemId = itemId
  holds : (inv'.slot pos).itemId = itemId
  counts : ∀ s ∈ inv', s.count ≤ ITEMCOUNT_MAX
  single : OneInSlot item → (inv'.slot pos).count = 1 ∧
    (itemId ≠ 0 → (inv.slot pos).itemId = 0 →
      Tally.total (stack itemId) inv' = Tally.total (stack itemId) inv + 1)
  stacked : ¬OneInSlot item →
    (inv'.slot pos).count = min ((inv.slot pos).count + count) ITEMCOUNT_MAX
  exact : ¬OneInSlot item → count ≤ ITEMCOUNT_MAX →
    ((inv.slot pos).itemId = 0 → (inv.slot pos).count = 0) →
      Tally.total (stack itemId) inv' = Tally.total (stack itemId) inv + count ∧
        (0 < count → inv'.slot pos ≠ inv.slot pos)

theorem total_given (hlt : pos < inv.length) {given : UserItemSlot}
    (hgiven : given.itemId = itemId) {n : ℕ}
    (hmore : given.count = stack itemId (inv.slot pos) + n) :
    Tally.total (stack itemId) (inv.set pos given) = Tally.total (stack itemId) inv + n := by
  have hset := Tally.total_set (stack itemId) hlt given {}
  rw [show inv.getD pos {} = inv.slot pos from rfl, stack_of_same hgiven, hmore] at hset
  omega

theorem given_found (hcounts : ∀ s ∈ inv, s.count ≤ ITEMCOUNT_MAX)
    (hfound : findSlotForItem table inv itemId count = some pos) :
    Given item inv (inv.set pos (stackGiven item serial itemId count (inv.slot pos))) itemId count
      pos := by
  obtain ⟨hlt, hbefore⟩ := findSlotForItem_spec hfound
  have hslot := Inventory.slot_set_self hlt
    (stackGiven item serial itemId count (inv.slot pos))
  have hitemId : (stackGiven item serial itemId count (inv.slot pos)).itemId = itemId := rfl
  refine ⟨findSlotForItem_mem hfound, fun j hj => Inventory.slot_set_ne hj.symm _,
    hbefore.imp_right And.left, ?_, ?_, ?_, ?_, ?_⟩
  · rw [hslot, hitemId]
  · intro s hs
    rcases List.mem_or_eq_of_mem_set hs with hold | rfl
    · exact hcounts s hold
    · exact stackGiven_count_le _
  · intro hone
    rw [hslot]
    refine ⟨stackGiven_single hone _, fun hid hempty => total_given hlt hitemId ?_⟩
    rw [stackGiven_single hone, stack_of_empty hid hempty]
  · intro hmany
    rw [hslot, stackGiven_stack hmany]
  · intro hmany hcount hwiped
    have hroom := room_of_found hcounts hcount hwiped hfound
    have hunits : (stackGiven item serial itemId count (inv.slot pos)).count =
        (inv.slot pos).count + count := by
      rw [stackGiven_stack hmany, min_eq_left hroom]
    constructor
    · apply total_given hlt hitemId
      rw [hunits]
      rcases hbefore with hempty | ⟨hsame, -⟩
      · -- an empty slot counts nothing, also as a stack
        have : stack itemId (inv.slot pos) = 0 := by
          unfold stack
          rw [hwiped hempty, ite_self]
        rw [this, hwiped hempty]
      · rw [stack_of_same hsame]
    · intro hpos hunchanged
      have : (inv.slot pos).count + count = (inv.slot pos).count := by
        rw [← hunits, ← hslot, hunchanged]
      omega

theorem giveItem_given (hcounts : ∀ s ∈ inv, s.count ≤ ITEMCOUNT_MAX)
    (h : giveItem table serial inv itemId count = some inv') :
    ∃ item pos, table itemId = some item ∧ Given item inv inv' itemId count pos := by
  obtain ⟨item, pos, hitem, hfound, -, rfl⟩ := giveItem_spec h
  exact ⟨item, pos, hitem, given_found hcounts hfound⟩

/-- Giving adds what was asked to one slot of the bag, or changes nothing. -/
theorem give_item_adds (table : ItemTable) (serial : ℕ) (inv : Inventory) (itemId count : ℕ)
    (hcounts : ∀ s ∈ inv, s.count ≤ ITEMCOUNT_MAX) :
    ((giveItemAnswer table serial inv itemId count).1 = true →
      ∃ item pos, table itemId = some item ∧
        Given item inv (giveItemAnswer table serial inv itemId count).2 itemId count pos) ∧
    ((giveItemAnswer table serial inv itemId count).1 = false →
      (giveItemAnswer table serial inv itemId count).2 = inv) := by
  unfold giveItemAnswer
  cases h : giveItem table serial inv itemId count with
  | none =>
    constructor
    · intro hno
      cases hno
    · intro _
      rfl
  | some inv' =>
    constructor
    · intro _
      exact giveItem_given hcounts h
    · intro hno
      cases hno

def giftTable : ItemTable := fun id =>
  if id = 1 then some { countable := some 1 } else if id = 2 then some {} else none

def giftBag : Inventory :=
  (List.replicate INVENTORY_TOTAL ({} : UserItemSlot)).set SLOT_MAX { itemId := 1, count := 40 }

theorem give_potions_adds :
    (giveItemAnswer giftTable 7 giftBag 1 20).1 = true ∧
      ∃ item pos, giftTable 1 = some item ∧
        Given item giftBag (giveItemAnswer giftTable 7 giftBag 1 20).2 1 20 pos :=
  ⟨by decide, (give_item_adds giftTable 7 giftBag 1 20 (by decide)).1 (by decide)⟩

/-- Two swords asked for are one sword given. -/
theorem give_two_swords :
    (∀ s ∈ giftBag, s.count ≤ ITEMCOUNT_MAX) ∧
      (giveItemAnswer giftTable 7 giftBag 2 2).1 = true ∧
      Tally.total (stack 2) giftBag = 0 ∧
      Tally.total (stack 2) (giveItemAnswer giftTable 7 giftBag 2 2).2 = 1 := by
  decide

end KoServer
