import KoServer.Proofs.TradeSession
import KoServer.Spec.BagItems

/-! What `give_item` and `rob_item` change: one slot of the bag each. -/

namespace KoServer

variable {table : ItemTable} {inv inv' : Inventory} {serial itemId count : ℕ}

theorem stack_default {id : ℕ} (hid : id ≠ 0) : stack id {} = 0 := if_neg hid.symm

theorem stack_of_empty {id : ℕ} {s : UserItemSlot} (hid : id ≠ 0) (hs : s.itemId = 0) :
    stack id s = 0 := stack_of_other hs hid

theorem giveItem_spec (h : giveItem table serial inv itemId count = some inv') :
    ∃ item pos, table itemId = some item ∧ findSlotForItem table inv itemId count = some pos ∧
      pos < inv.length ∧ inv' = inv.set pos (stackGiven item serial itemId count (inv.slot pos)) := by
  unfold giveItem at h
  split at h
  · cases h
  next item hitem =>
  split_ifs at h
  split at h
  · cases h
  next pos hpos =>
  split_ifs at h with hlen
  exact ⟨item, pos, hitem, hpos, Nat.lt_of_not_le hlen, (Option.some.inj h).symm⟩

def robbed (consumable : Bool) (count : ℕ) (slot : UserItemSlot) : UserItemSlot :=
  if consumable then
    let durability := Int.bmod (slot.durability - Int.bmod count (2 ^ 16)) (2 ^ 16)
    if durability ≤ 0 then {} else { slot with durability := durability }
  else if slot.count = count then {}
  else { slot with count := slot.count - count }

def holdsItem (inv : Inventory) (itemId i : ℕ) : Bool :=
  i < inv.length && (inv.slot i).itemId = itemId

/-- The slot `rob_item` takes from: a scroll with charges has to be the first there is. -/
def robSlot (consumable : Bool) (itemId count : ℕ) (inv : Inventory) (is : List ℕ) : Option ℕ :=
  if consumable then
    (is.find? (holdsItem inv itemId)).filter
      fun i => Int.bmod count (2 ^ 16) ≤ (inv.slot i).durability
  else is.find? fun i => holdsItem inv itemId i && count ≤ (inv.slot i).count

theorem robFrom_eq (consumable : Bool) (itemId count : ℕ) (inv : Inventory) (is : List ℕ) :
    robFrom consumable itemId count inv is =
      (robSlot consumable itemId count inv is).map
        fun i => inv.set i (robbed consumable count (inv.slot i)) := by
  induction is with
  | nil =>
    unfold robSlot
    split_ifs <;> rfl
  | cons i is ih =>
    unfold robFrom
    dsimp only
    by_cases hskip : inv.length ≤ i ∨ (inv.slot i).itemId ≠ itemId
    · have hno : holdsItem inv itemId i = false := by
        simp only [holdsItem, Bool.and_eq_false_iff, decide_eq_false_iff_not]
        exact hskip.imp_left Nat.not_lt.mpr
      rw [if_pos hskip, ih]
      simp only [robSlot, List.find?_cons, hno, Bool.false_and]
    · have hyes : holdsItem inv itemId i = true := by
        rw [not_or, not_le, not_not] at hskip
        simpa only [holdsItem, Bool.and_eq_true, decide_eq_true_eq] using hskip
      rw [if_neg hskip]
      cases consumable with
      | true =>
        simp only [robSlot, List.find?_cons, hyes, if_true, Option.filter_some]
        by_cases hless : (inv.slot i).durability < Int.bmod count (2 ^ 16)
        · rw [if_pos hless, decide_eq_false (not_le.mpr hless)]
          rfl
        · rw [if_neg hless, decide_eq_true (not_lt.mp hless)]
          simp only [if_true, Option.map_some, robbed]
          split_ifs <;> rfl
      | false =>
        simp only [robSlot, List.find?_cons, hyes, Bool.false_eq_true, if_false, Bool.true_and] at ih ⊢
        by_cases hless : (inv.slot i).count < count
        · rw [if_pos hless, decide_eq_false (Nat.not_le.mpr hless), ih]
        · rw [if_neg hless, decide_eq_true (Nat.not_lt.mp hless)]
          simp only [Option.map_some, robbed, Bool.false_eq_true, if_false]
          split_ifs <;> rfl

theorem robSlot_spec {consumable : Bool} {is : List ℕ} {i : ℕ}
    (h : robSlot consumable itemId count inv is = some i) :
    i ∈ is ∧ i < inv.length ∧ (inv.slot i).itemId = itemId ∧
      (consumable = false → count ≤ (inv.slot i).count) := by
  have hsome : ∀ p : ℕ → Bool, is.find? (fun i => holdsItem inv itemId i && p i) = some i →
      i ∈ is ∧ i < inv.length ∧ (inv.slot i).itemId = itemId ∧ p i = true := by
    intro p hp
    have hi := List.find?_some hp
    simp only [holdsItem, Bool.and_eq_true, decide_eq_true_eq] at hi
    exact ⟨List.mem_of_find?_eq_some hp, hi.1.1, hi.1.2, hi.2⟩
  cases consumable with
  | true =>
    obtain ⟨hfind, -⟩ := Option.filter_eq_some_iff.mp h
    obtain ⟨hmem, hlt, hid, -⟩ := hsome (fun _ => true) (by simpa using hfind)
    exact ⟨hmem, hlt, hid, fun hno => by cases hno⟩
  | false =>
    obtain ⟨hmem, hlt, hid, henough⟩ := hsome _ h
    exact ⟨hmem, hlt, hid, fun _ => of_decide_eq_true henough⟩

/-- Items with charges, which `rob_item` takes in place of units. -/
def hasCharges (table : ItemTable) (itemId : ℕ) : Bool :=
  ((table itemId).bind Item.kind).getD 0 = ITEM_KIND_UNIQUE

/-- One slot pays: a stack with all the units, or a scroll of as many that runs out of its
charges. -/
def OneSlotPays (table : ItemTable) (inv : Inventory) (itemId count : ℕ) : Prop :=
  ∃ i ∈ robSlot (hasCharges table itemId) itemId count inv bagSlots,
    hasCharges table itemId = true →
      (inv.slot i).count = count ∧ robbed true count (inv.slot i) = {}

instance : Decidable (OneSlotPays table inv itemId count) := by
  unfold OneSlotPays
  infer_instance

theorem robItem_eq (hn : count ≠ 0) :
    robItem table inv itemId count =
      (robSlot (hasCharges table itemId) itemId count inv bagSlots).map
        fun i => inv.set i (robbed (hasCharges table itemId) count (inv.slot i)) := by
  unfold robItem
  rw [if_neg hn, robFrom_eq]
  rfl

theorem stack_robbed {i id : ℕ} (hid : id ≠ 0)
    (hslot : robSlot (hasCharges table itemId) itemId count inv bagSlots = some i)
    (hpays : hasCharges table itemId = true →
      (inv.slot i).count = count ∧ robbed true count (inv.slot i) = {}) :
    stack id (robbed (hasCharges table itemId) count (inv.slot i)) +
        (if id = itemId then count else 0) = stack id (inv.slot i) := by
  obtain ⟨-, -, hitem, henough⟩ := robSlot_spec hslot
  by_cases hsame : id = itemId
  · subst hsame
    rw [if_pos rfl, stack_of_same hitem]
    cases hcharges : hasCharges table id with
    | true =>
      obtain ⟨hcount, hwiped⟩ := hpays hcharges
      rw [hwiped, stack_default hid, hcount, Nat.zero_add]
    | false =>
      have hle := henough hcharges
      unfold robbed
      simp only [Bool.false_eq_true, if_false]
      split_ifs with heq
      · rw [stack_default hid, heq, Nat.zero_add]
      · have hleft : stack id { inv.slot i with count := (inv.slot i).count - count } =
            (inv.slot i).count - count := stack_of_same hitem
        rw [hleft, Nat.sub_add_cancel hle]
  · rw [if_neg hsame, stack_of_other hitem hsame, Nat.add_zero]
    unfold robbed
    dsimp only
    split_ifs
    · exact stack_default hid
    · exact stack_of_other hitem hsame
    · exact stack_default hid
    · exact stack_of_other hitem hsame

theorem robItem_pays (hn : count ≠ 0) (h : OneSlotPays table inv itemId count) :
    ∃ inv', robItem table inv itemId count = some inv' ∧ ∀ id ≠ 0,
      Tally.total (stack id) inv' + (if id = itemId then count else 0) =
        Tally.total (stack id) inv := by
  obtain ⟨i, hslot, hpays⟩ := h
  refine ⟨_, by rw [robItem_eq hn, hslot]; rfl, fun id hid => ?_⟩
  have hset := Tally.total_set (stack id) (robSlot_spec hslot).2.1
    (robbed (hasCharges table itemId) count (inv.slot i)) {}
  rw [show inv.getD i {} = inv.slot i from rfl, ← stack_robbed hid hslot hpays] at hset
  dsimp only
  omega

end KoServer
