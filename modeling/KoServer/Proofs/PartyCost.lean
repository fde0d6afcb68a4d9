import KoServer.Proofs.BagItems
import KoServer.Spec.PartyCost

/-! When a price in items is paid by the whole party or by nobody. The members are asked for the
sum over their slots and pay from one slot, so it is paid in full exactly where each has one slot
that can pay. -/

namespace KoServer

variable {table : ItemTable} {inv : Inventory} {itemId count : ℕ}

theorem stack_empty (id : ℕ) : stack id {} = 0 := ite_self 0

/-- The units of a slot after it was robbed, for a scroll that keeps some of its charges. -/
theorem stack_robbed_kept {s : UserItemSlot} (h : robbed true count s ≠ {}) :
    stack itemId (robbed true count s) = stack itemId s := by
  unfold robbed at h ⊢
  simp only [if_true] at h ⊢
  split_ifs at h ⊢ with hused
  · exact absurd rfl h
  · rfl

theorem stack_robbed_units {s : UserItemSlot} (hitem : s.itemId = itemId) (hle : count ≤ s.count) :
    stack itemId (robbed false count s) + count = stack itemId s := by
  unfold robbed
  simp only [Bool.false_eq_true, if_false]
  rw [stack_of_same hitem]
  split_ifs with hall
  · rw [stack_empty, hall, Nat.zero_add]
  · have hleft : stack itemId { s with count := s.count - count } = s.count - count :=
      stack_of_same hitem
    rw [hleft, Nat.sub_add_cancel hle]

/-- What was taken from the slot is the price exactly where the slot could pay it. -/
theorem stack_robbed_iff {i : ℕ} (hn : count ≠ 0)
    (hslot : robSlot (hasCharges table itemId) itemId count inv bagSlots = some i) :
    stack itemId (robbed (hasCharges table itemId) count (inv.slot i)) + count =
        stack itemId (inv.slot i) ↔
      (hasCharges table itemId = true →
        (inv.slot i).count = count ∧ robbed true count (inv.slot i) = {}) := by
  obtain ⟨-, -, hitem, henough⟩ := robSlot_spec hslot
  cases hcharges : hasCharges table itemId with
  | false =>
    constructor
    · intro _ hyes
      cases hyes
    · intro _
      exact stack_robbed_units hitem (henough hcharges)
  | true =>
    constructor
    · intro hpaid _
      by_cases hwiped : robbed true count (inv.slot i) = {}
      · rw [hwiped, stack_empty, stack_of_same hitem, Nat.zero_add] at hpaid
        exact ⟨hpaid.symm, hwiped⟩
      · rw [stack_robbed_kept hwiped] at hpaid
        omega
    · intro hpays
      obtain ⟨hcount, hwiped⟩ := hpays rfl
      rw [hwiped, stack_empty, stack_of_same hitem, hcount, Nat.zero_add]

/-- Robbing takes the price in full exactly where one slot pays it. -/
theorem robItem_paid_iff (hn : count ≠ 0) :
    Tally.total (stack itemId) ((robItem table inv itemId count).getD inv) + count =
        Tally.total (stack itemId) inv ↔ OneSlotPays table inv itemId count := by
  rw [robItem_eq hn]
  unfold OneSlotPays
  cases hslot : robSlot (hasCharges table itemId) itemId count inv bagSlots with
  | none =>
    simp only [Option.map_none, Option.getD_none, Option.mem_def, reduceCtorEq, false_and,
      exists_false, iff_false]
    omega
  | some i =>
    have hset := Tally.total_set (stack itemId) (robSlot_spec hslot).2.1
      (robbed (hasCharges table itemId) count (inv.slot i)) {}
    rw [show inv.getD i {} = inv.slot i from rfl] at hset
    have hone := stack_robbed_iff hn hslot
    simp only [Option.map_some, Option.getD_some, Option.mem_def, Option.some.injEq,
      exists_eq_left']
    rw [← hone]
    omega

namespace CostWorld

variable {w : CostWorld} {sid : SessionId}

variable (table itemId count) in
def left (inv : Inventory) : Inventory := (robItem table inv itemId count).getD inv

theorem robSlot_nil {consumable : Bool} {is : List ℕ} :
    robSlot consumable itemId count [] is = none := by
  have hno : ∀ i, holdsItem [] itemId i = false := fun i => rfl
  have hnone : is.find? (holdsItem [] itemId) = none := by simp [hno]
  unfold robSlot
  split_ifs
  · rw [hnone]
    rfl
  · simp [hno]

theorem left_nil : left table itemId count [] = [] := by
  unfold left
  by_cases hn : count = 0
  · subst hn
    rfl
  · rw [robItem_eq hn, robSlot_nil]
    rfl

theorem robItemOf_self :
    (w.robItemOf table sid itemId count).2.inventoryOf sid =
      left table itemId count (w.inventoryOf sid) := by
  unfold robItemOf
  split_ifs with hn
  · subst hn
    rfl
  · cases hsession : w.sessions sid with
    | none =>
      have hnone : w.inventoryOf sid = [] := by simp [inventoryOf, hsession]
      rw [hnone, left_nil]
    | some payer =>
      have hinv : w.inventoryOf sid = payer.inventory := by simp [inventoryOf, hsession]
      rw [hinv]
      unfold left
      dsimp only
      cases robItem table payer.inventory itemId count with
      | none => exact hinv
      | some inventory => simp [inventoryOf]

theorem robItemOf_other {other : SessionId} (hne : other ≠ sid) :
    (w.robItemOf table sid itemId count).2.inventoryOf other = w.inventoryOf other := by
  unfold robItemOf
  split_ifs
  · rfl
  · split
    · rfl
    · split
      · rfl
      · simp only [inventoryOf, Function.update_of_ne hne]

/-- Every one of the members is robbed once, whatever the answers were. -/
theorem robbed_members {members : List SessionId} (hnodup : members.Nodup) (w : CostWorld)
    {msid : SessionId} (hmem : msid ∈ members) :
    (members.foldl (fun w msid => (w.robItemOf table msid itemId count).2) w).inventoryOf msid =
      left table itemId count (w.inventoryOf msid) := by
  have houtside : ∀ (members : List SessionId) (w : CostWorld), msid ∉ members →
      (members.foldl (fun w msid => (w.robItemOf table msid itemId count).2) w).inventoryOf msid =
        w.inventoryOf msid := by
    intro members
    induction members with
    | nil =>
      intro w _
      rfl
    | cons first members ih =>
      intro w hout
      rw [List.mem_cons, not_or] at hout
      rw [List.foldl_cons, ih _ hout.2, robItemOf_other hout.1]
  induction members generalizing w with
  | nil => cases hmem
  | cons first members ih =>
    rw [List.nodup_cons] at hnodup
    rw [List.foldl_cons]
    rcases List.mem_cons.mp hmem with rfl | hmem
    · rw [houtside members _ hnodup.1, robItemOf_self]
    · have hne : msid ≠ first := by
        intro hsame
        exact hnodup.1 (hsame ▸ hmem)
      rw [ih hnodup.2 _ hmem, robItemOf_other hne]

variable (w sid) in
/-- The members that are asked to pay; nobody where there is no party to pay. -/
def partyPayers : List SessionId :=
  match (w.getPartyId sid).bind w.parties with
  | none => []
  | some party => w.membersInGame party

variable (w sid) in
/-- Without a party the session itself pays. -/
def payers : List SessionId := if w.partyPayers sid = [] then [sid] else w.partyPayers sid

theorem partyPayers_nodup : (w.partyPayers sid).Nodup := by
  unfold partyPayers
  split
  · exact List.nodup_nil
  next party _ => exact party.members_nodup.filter _

theorem robAllItemParty_eq (hn : count ≠ 0) :
    w.robAllItemParty table sid itemId count =
      if w.partyPayers sid = [] then w.robItemOf table sid itemId count
      else w.robMembers table itemId count (w.partyPayers sid) := by
  unfold robAllItemParty partyPayers
  rw [if_neg hn]
  cases hid : w.getPartyId sid with
  | none => simp
  | some partyId => cases hparty : w.parties partyId <;> simp [hparty]

/-- With the answer true each of the sessions has paid the price in full, with false nothing has
changed. -/
def AllOrNothing (sids : List SessionId) (itemId count : ℕ) (w : CostWorld)
    (answer : Bool × CostWorld) : Prop :=
  (answer.1 = true → ∀ sid ∈ sids,
    Tally.total (stack itemId) (answer.2.inventoryOf sid) + count =
      Tally.total (stack itemId) (w.inventoryOf sid)) ∧
  (answer.1 = false → answer.2 = w)

variable (table itemId count w sid) in
/-- Nobody is asked, somebody cannot pay, or each payer has one slot that pays. -/
def Settles : Prop :=
  count = 0 ∨
    (w.partyPayers sid = [] ∧
      robSlot (hasCharges table itemId) itemId count (w.inventoryOf sid) bagSlots = none) ∨
    (∃ msid ∈ w.partyPayers sid, w.checkExistItem msid itemId count = false) ∨
    ∀ msid ∈ w.payers sid, OneSlotPays table (w.inventoryOf msid) itemId count

theorem robItemOf_cases (hn : count ≠ 0) :
    robSlot (hasCharges table itemId) itemId count (w.inventoryOf sid) bagSlots = none ∧
        w.robItemOf table sid itemId count = (false, w) ∨
      (w.robItemOf table sid itemId count).1 = true ∧
        robSlot (hasCharges table itemId) itemId count (w.inventoryOf sid) bagSlots ≠ none := by
  unfold robItemOf
  rw [if_neg hn]
  cases hsession : w.sessions sid with
  | none =>
    have hnone : w.inventoryOf sid = [] := by simp [inventoryOf, hsession]
    rw [hnone]
    exact Or.inl ⟨robSlot_nil, rfl⟩
  | some payer =>
    have hinv : w.inventoryOf sid = payer.inventory := by simp [inventoryOf, hsession]
    rw [hinv]
    dsimp only
    rw [robItem_eq hn]
    cases hslot : robSlot (hasCharges table itemId) itemId count payer.inventory bagSlots with
    | none => exact Or.inl ⟨rfl, rfl⟩
    | some i => exact Or.inr ⟨rfl, nofun⟩

theorem robItemOf_settles_iff (hn : count ≠ 0) :
    AllOrNothing [sid] itemId count w (w.robItemOf table sid itemId count) ↔
      robSlot (hasCharges table itemId) itemId count (w.inventoryOf sid) bagSlots = none ∨
        OneSlotPays table (w.inventoryOf sid) itemId count := by
  rcases robItemOf_cases hn with ⟨hnone, hrefused⟩ | ⟨htaken, hslot⟩
  · rw [hrefused]
    constructor
    · intro _
      exact Or.inl hnone
    · intro _
      exact ⟨nofun, fun _ => rfl⟩
  · unfold AllOrNothing
    rw [htaken, ← robItem_paid_iff hn]
    simp only [List.mem_singleton, forall_eq, robItemOf_self, left, true_imp_iff, hslot, false_or,
      Bool.true_eq_false, false_imp_iff, and_true]

theorem robMembers_settles_iff (hn : count ≠ 0) {members : List SessionId}
    (hnodup : members.Nodup) :
    AllOrNothing members itemId count w (w.robMembers table itemId count members) ↔
      (∃ msid ∈ members, w.checkExistItem msid itemId count = false) ∨
        ∀ msid ∈ members, OneSlotPays table (w.inventoryOf msid) itemId count := by
  unfold robMembers
  split_ifs with hall
  · rw [List.all_eq_true] at hall
    have hnobody : ¬∃ msid ∈ members, w.checkExistItem msid itemId count = false := by
      intro ⟨msid, hmem, hlacks⟩
      exact absurd (hall msid hmem) (by simp [hlacks])
    rw [or_iff_right hnobody]
    unfold AllOrNothing
    dsimp only
    constructor
    · intro ⟨hpaid, _⟩ msid hmem
      have := hpaid rfl msid hmem
      rw [robbed_members hnodup w hmem] at this
      exact (robItem_paid_iff hn).mp this
    · intro hpays
      refine ⟨fun _ msid hmem => ?_, nofun⟩
      rw [robbed_members hnodup w hmem]
      exact (robItem_paid_iff hn).mpr (hpays msid hmem)
  · constructor
    · intro _
      exact Or.inl (by simpa using hall)
    · intro _
      exact ⟨nofun, fun _ => rfl⟩

/-- The price is paid by all or by nobody exactly where somebody's slots do not add up to it or
everybody has one slot that pays it. -/
theorem rob_all_item_party_iff (table : ItemTable) (w : CostWorld) (sid : SessionId)
    (itemId count : ℕ) :
    AllOrNothing (w.payers sid) itemId count w (w.robAllItemParty table sid itemId count) ↔
      Settles table itemId count w sid := by
  unfold Settles payers
  by_cases hn : count = 0
  · rw [robAllItemParty, if_pos hn]
    constructor
    · intro _
      exact Or.inl hn
    · intro _
      exact ⟨nofun, fun _ => rfl⟩
  rw [robAllItemParty_eq hn, or_iff_right hn]
  by_cases halone : w.partyPayers sid = []
  · rw [if_pos halone, if_pos halone, robItemOf_settles_iff hn, halone]
    simp
  · rw [if_neg halone, if_neg halone, robMembers_settles_iff hn partyPayers_nodup]
    simp [halone]

/-! Two members with two stacks of three each. -/

def splitBag : Inventory :=
  ((List.replicate INVENTORY_TOTAL ({} : UserItemSlot)).set SLOT_MAX { itemId := 1, count := 3 }).set
    (SLOT_MAX + 1) { itemId := 1, count := 3 }

def splitParty : LootParty where
  members := [some 1, some 2] ++ List.replicate 6 none
  members_length := rfl
  targetNumberId := -1
  commandLeaderSid := some 1
  itemRouting := 0
  members_nodup := by decide

def splitWorld : CostWorld where
  parties := fun id => if id = 5 then some splitParty else none
  sessions := fun sid =>
    if sid = 1 ∨ sid = 2 then some { character := some (some 5), inventory := splitBag } else none

/-- Five units are asked of both, nothing is taken, and the answer is true. -/
theorem splitWorld_pays_nothing :
    ¬AllOrNothing (splitWorld.payers 1) 1 5 splitWorld
      (splitWorld.robAllItemParty (fun _ => some { countable := some 1 }) 1 1 5) := by
  intro hall
  have hpaid := hall.1 (by decide) 1 (by decide)
  revert hpaid
  decide

end CostWorld

end KoServer
