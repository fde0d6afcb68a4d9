import KoServer.Lib.Sorting
import KoServer.Proofs.ItemEquip
import KoServer.Proofs.MerchantStock
import KoServer.Spec.Shop

/-! The goods behind a shop's listings. A listing remembers the slot of its goods by number;
an open shop keeps its owner from moving items, a shop in preparation does not. -/

namespace KoServer

open Run (run)

def MerchData.unsold (l : MerchData) : Bool := l.itemId ≠ 0 && !l.soldOut

/-- The slot holds what the listing offers. -/
structure Backs (l : MerchData) (slot : UserItemSlot) : Prop where
  itemId : slot.itemId = l.itemId
  serialNum : slot.serialNum = l.serialNum
  count : l.sellCount ≤ slot.count

def Shop.listing (s : Shop) (i : ℕ) : MerchData := s.market.listing i

def Shop.goods (s : Shop) (l : MerchData) : UserItemSlot := s.inventory.slot l.originalSlot

structure ListingsBacked (s : Shop) : Prop where
  backed : ∀ i, (s.listing i).unsold = true → Backs (s.listing i) (s.goods (s.listing i))
  apart : ∀ i j, (s.listing i).unsold = true → (s.listing j).unsold = true →
    (s.listing i).originalSlot = (s.listing j).originalSlot → i = j

def bagEnds (req : MoveRequest) : List ℕ :=
  match req.dir with
  | .invenSlot | .invenToCosp | .invenToMbag | .invenToPet | .slotInvenToMbag =>
    [SLOT_MAX + req.srcPos]
  | .slotInven | .cospToInven | .mbagToInven | .petToInven => [SLOT_MAX + req.dstPos]
  | .invenInven => [SLOT_MAX + req.srcPos, SLOT_MAX + req.dstPos]
  | .slotSlot | .mbagToMbag => []

/-- A move that ends in bag slot `p` and leaves its goods there: another stack comes onto them,
or they go where they are. -/
def leavesGoods (table : ItemTable) (inv : Inventory) (req : MoveRequest) (p : ℕ) : Bool :=
  req.dir = .invenInven && p = SLOT_MAX + req.dstPos &&
    if mergesStacks table req.itemId && (inv.slot p).itemId = req.itemId then
      req.srcPos ≠ req.dstPos
    else req.srcPos = req.dstPos

def displaces (table : ItemTable) (inv : Inventory) (req : MoveRequest) (p : ℕ) : Bool :=
  p ∈ bagEnds req && !leavesGoods table inv req p

/-- The checks and the closure let the move through. -/
def movePasses (ctx : MoveContext) (s : MoveSession) (req : MoveRequest) : Bool :=
  match ctx.table req.itemId with
  | none => false
  | some item =>
    !moveRefused ctx s req item &&
      if req.dir = .invenToPet ∨ req.dir = .petToInven then
        match s.petData with
        | none => false
        | some pet => (moveWithPet req s.inventory.padded pet).isSome
      else
        (moveInInventory ctx.table (item.slot.getD (-1))
          (handItemSlotType ctx.table s.inventory RIGHTHAND)
          (handItemSlotType ctx.table s.inventory LEFTHAND) req s.inventory.padded).isSome

/-- The order of the sorted bag. -/
def largerFirst (a b : UserItemSlot) : Bool := b.itemId ≤ a.itemId

def bagOf (inv : Inventory) : List UserItemSlot := (inv.padded.drop SLOT_MAX).take HAVE_MAX

/-- The sorting of the bag puts the item of slot `p` somewhere else. -/
def sortsAway (inv : Inventory) (p : ℕ) : Bool :=
  Sorting.place largerFirst (bagOf inv) (p - SLOT_MAX) (inv.slot p) ≠ p - SLOT_MAX

/-- The sorting request that gets past the state checks of `handle`. -/
def receivedRefresh (ctx : MoveContext) (data : List UInt8) : Bool :=
  !moveBlocked ctx && (PacketReader.new data).readU8D.1 = 2

/-- A request that takes the goods out of bag slot `p`. -/
def disturbs (ctx : MoveContext) (s : MoveSession) (data : List UInt8) (p : ℕ) : Bool :=
  match receivedMove ctx data with
  | some req => movePasses ctx s req && displaces ctx.table s.inventory req p
  | none => receivedRefresh ctx data && sortsAway s.inventory p

/-- The owner's item moves leave listed goods where they are. -/
def LeavesListed (table : ItemTable) (s : Shop) : ShopStep → Prop
  | .itemMove ctx data => ∀ l ∈ s.market.merchantItems, l.unsold = true →
    disturbs (s.moveContext table ctx) s.moveSession data l.originalSlot = false
  | _ => True

instance (table : ItemTable) (s : Shop) : (step : ShopStep) → Decidable (LeavesListed table s step)
  | .itemMove ctx data => inferInstanceAs (Decidable (∀ l ∈ s.market.merchantItems,
    l.unsold = true → disturbs (s.moveContext table ctx) s.moveSession data l.originalSlot = false))
  | .openShop _ | .itemAdd _ _ | .itemCancel _ _ | .insert _ _ | .close | .buy _ _ _ =>
    .isTrue trivial

/-- The goods are as they were, or more of them of a kind that stacks. -/
def Stays (table : ItemTable) (a b : UserItemSlot) : Prop :=
  b = a ∨ mergesStacks table a.itemId = true ∧ b.itemId = a.itemId ∧
    b.serialNum = a.serialNum ∧ min a.count ITEMCOUNT_MAX ≤ b.count

section Move

variable {table : ItemTable} {inv inv' : Inventory} {req : MoveRequest} {p : ℕ}

theorem stays_refl (a : UserItemSlot) : Stays table a a := Or.inl rfl

theorem backs_of_stays {l : MerchData} {a b : UserItemSlot} (h : Stays table a b) (hl : Backs l a)
    (hlimit : mergesStacks table l.itemId = true → l.sellCount ≤ ITEMCOUNT_MAX) : Backs l b := by
  rcases h with rfl | ⟨hmerge, hid, hserial, hcount⟩
  · exact hl
  · have hsell := hlimit (hl.itemId ▸ hmerge)
    exact ⟨hid.trans hl.itemId, hserial.trans hl.serialNum, (le_min hl.count hsell).trans hcount⟩

theorem swapItems_slot_ne {a b : ℕ} (ha : a ≠ p) (hb : b ≠ p) :
    (swapItems inv a b).slot p = inv.slot p := by
  unfold swapItems
  split_ifs
  · rw [Inventory.swap, Inventory.slot_set_ne hb, Inventory.slot_set_ne ha]
  · rw [Inventory.slot_set_ne ha, Inventory.slot_set_ne hb]

theorem equipForcingOff_slot_ne {a b c : ℕ} (ha : a ≠ p) (hb : b ≠ p) (hc : c ≠ p) :
    (equipForcingOff inv a b c).slot p = inv.slot p := by
  rw [equipForcingOff, Inventory.slot_set_ne hc, Inventory.slot_set_ne ha,
    Inventory.slot_set_ne hb]

theorem handleTwoHandedEquip_slot_ne {src dst : ℕ} {t : ℤ} {rh lh : Option ℤ}
    (hsrc : src ≠ p) (hdst : dst < SLOT_MAX) (hp : SLOT_MAX ≤ p)
    (h : handleTwoHandedEquip inv src dst t rh lh = some inv') : inv'.slot p = inv.slot p := by
  have hright : RIGHTHAND ≠ p := by
    have : RIGHTHAND < SLOT_MAX := by decide
    omega
  have hleft : LEFTHAND ≠ p := by
    have : LEFTHAND < SLOT_MAX := by decide
    omega
  have hswap := @swapItems_slot_ne inv p src dst hsrc (by omega)
  have hforceLeft := @equipForcingOff_slot_ne inv p src dst LEFTHAND hsrc (by omega) hleft
  have hforceRight := @equipForcingOff_slot_ne inv p src dst RIGHTHAND hsrc (by omega) hright
  rcases handleTwoHandedEquip_cases inv src dst t rh lh with
    ⟨-, heq⟩ | ⟨-, heq⟩ | ⟨-, heq | heq | ⟨-, -, heq⟩ | ⟨-, -, heq⟩⟩
  all_goals
    rw [heq] at h
    cases h
  · unfold twoHandCheck1hRight
    split_ifs
    · exact hforceLeft
    · exact hswap
    · exact hswap
  · unfold twoHandCheck1hLeft
    split_ifs
    · exact hforceRight
    · exact hswap
    · exact hswap
  · exact hswap
  · exact equipForcingOff_slot_ne hsrc hright hleft
  · exact equipForcingOff_slot_ne hsrc hleft hright

theorem inventory_cosp_le_of_cospPosToAbsIndex {pos idx : ℕ}
    (h : cospPosToAbsIndex pos = some idx) : INVENTORY_COSP ≤ idx := by
  unfold cospPosToAbsIndex at h
  split_ifs at h
  all_goals obtain rfl := Option.some.inj h
  any_goals decide
  exact Nat.le_add_right _ _

theorem moveInInventory_slot_ne {t : ℤ} {rh lh : Option ℤ} (hlo : SLOT_MAX ≤ p)
    (hhi : p < INVENTORY_COSP) (hends : p ∉ bagEnds req)
    (h : moveInInventory table t rh lh req inv = some inv') : inv'.slot p = inv.slot p := by
  have hcosp : INVENTORY_COSP = 42 := rfl
  have hmbag : INVENTORY_MBAG = 53 := rfl
  have hcbag3 : CBAG3 = 96 := rfl
  obtain ⟨dir, itemId, src, dst⟩ := req
  cases dir with
  | invenSlot =>
    simp only [bagEnds, List.mem_singleton] at hends
    simp only [moveInInventory] at h
    split_ifs at h with h1 h2
    exact handleTwoHandedEquip_slot_ne (Ne.symm hends) (by omega) hlo h
  | slotInven =>
    simp only [bagEnds, List.mem_singleton] at hends
    simp only [moveInInventory] at h
    split_ifs at h with h1 h2
    obtain rfl := Option.some.inj h
    exact swapItems_slot_ne (by omega) (Ne.symm hends)
  | invenInven =>
    simp only [bagEnds, List.mem_cons, List.not_mem_nil, or_false, not_or] at hends
    simp only [moveInInventory] at h
    split_ifs at h
    all_goals obtain rfl := Option.some.inj h
    · rw [mergeKeepingDst, Inventory.slot_set_ne (Ne.symm hends.1),
        Inventory.slot_set_ne (Ne.symm hends.2)]
    · exact swapItems_slot_ne (Ne.symm hends.1) (Ne.symm hends.2)
  | slotSlot =>
    simp only [moveInInventory] at h
    split_ifs at h with h1 h2
    obtain rfl := Option.some.inj h
    rw [Inventory.swap, Inventory.slot_set_ne (by omega), Inventory.slot_set_ne (by omega)]
  | invenToCosp =>
    simp only [bagEnds, List.mem_singleton] at hends
    simp only [moveInInventory] at h
    split_ifs at h with h1 h2 h3 h4 h5 h6
    all_goals try obtain rfl := Option.some.inj h
    · exact swapItems_slot_ne (Ne.symm hends) (by omega)
    · exact swapItems_slot_ne (Ne.symm hends) (by omega)
    · split at h
      · next idx hidx =>
        have := inventory_cosp_le_of_cospPosToAbsIndex hidx
        split_ifs at h
        obtain rfl := Option.some.inj h
        exact swapItems_slot_ne (Ne.symm hends) (by omega)
      · cases h
  | cospToInven =>
    simp only [bagEnds, List.mem_singleton] at hends
    simp only [moveInInventory] at h
    split_ifs at h
    split at h
    · next idx hidx =>
      have := inventory_cosp_le_of_cospPosToAbsIndex hidx
      split_ifs at h
      obtain rfl := Option.some.inj h
      exact swapItems_slot_ne (by omega) (Ne.symm hends)
    · cases h
  | invenToMbag =>
    simp only [bagEnds, List.mem_singleton] at hends
    simp only [moveInInventory] at h
    split_ifs at h
    all_goals obtain rfl := Option.some.inj h
    · rw [mergeTakingSrc, Inventory.slot_set_ne (Ne.symm hends),
        Inventory.slot_set_ne (by omega)]
    · exact swapItems_slot_ne (Ne.symm hends) (by omega)
  | mbagToInven =>
    simp only [bagEnds, List.mem_singleton] at hends
    simp only [moveInInventory] at h
    split_ifs at h
    obtain rfl := Option.some.inj h
    exact swapItems_slot_ne (by omega) (Ne.symm hends)
  | mbagToMbag =>
    simp only [moveInInventory] at h
    split_ifs at h
    all_goals obtain rfl := Option.some.inj h
    · rw [mergeTakingSrc, Inventory.slot_set_ne (by omega), Inventory.slot_set_ne (by omega)]
    · exact swapItems_slot_ne (by omega) (by omega)
  | slotInvenToMbag =>
    simp only [bagEnds, List.mem_singleton] at hends
    simp only [moveInInventory] at h
    split_ifs at h
    all_goals obtain rfl := Option.some.inj h
    · exact swapItems_slot_ne (Ne.symm hends) (by omega)
    · exact swapItems_slot_ne (Ne.symm hends) (by omega)
  | invenToPet => cases h
  | petToInven => cases h

theorem moveInInventory_leavesGoods {t : ℤ} {rh lh : Option ℤ} (hid : (inv.slot p).itemId ≠ 0)
    (hlen : p < inv.length) (hleaves : leavesGoods table inv req p = true)
    (h : moveInInventory table t rh lh req inv = some inv') :
    Stays table (inv.slot p) (inv'.slot p) := by
  obtain ⟨dir, itemId, src, dst⟩ := req
  simp only [leavesGoods, Bool.and_eq_true, decide_eq_true_eq] at hleaves
  obtain ⟨⟨rfl, rfl⟩, hends⟩ := hleaves
  simp only [moveInInventory] at h
  split_ifs at h with hrange hsrc hmerge
  · obtain rfl := Option.some.inj h
    rw [if_pos ⟨hmerge.1, hmerge.2.1⟩, decide_eq_true_eq] at hends
    have hne : SLOT_MAX + src ≠ SLOT_MAX + dst := by omega
    have hread : (mergeKeepingDst inv (SLOT_MAX + src) (SLOT_MAX + dst)).slot (SLOT_MAX + dst) =
        { inv.slot (SLOT_MAX + dst) with
          count := min (saturatingAdd16 (inv.slot (SLOT_MAX + dst)).count
            (inv.slot (SLOT_MAX + src)).count) ITEMCOUNT_MAX } := by
      rw [mergeKeepingDst, Inventory.slot_set_ne hne, Inventory.slot_set_self hlen]
    have hmax : ITEMCOUNT_MAX = 9999 := rfl
    rw [hread]
    refine Or.inr ⟨hmerge.2.1 ▸ hmerge.1, rfl, rfl, ?_⟩
    dsimp only [saturatingAdd16]
    omega
  · obtain rfl := Option.some.inj h
    rw [if_neg fun hsame => hmerge ⟨hsame.1, hsame.2, hid⟩, decide_eq_true_eq] at hends
    subst hends
    rw [swapItems, if_pos hid, slot_swap hlen hlen, if_pos rfl]
    exact stays_refl _

theorem moveWithPet_slot_ne {pet : PetState} {out : Inventory × PetState} (hends : p ∉ bagEnds req)
    (h : moveWithPet req inv pet = some out) : out.1.slot p = inv.slot p := by
  obtain ⟨dir, itemId, src, dst⟩ := req
  cases dir with
  | invenToPet =>
    simp only [bagEnds, List.mem_singleton] at hends
    simp only [moveWithPet] at h
    split_ifs at h
    all_goals
      obtain rfl := Option.some.inj h
      exact Inventory.slot_set_ne (Ne.symm hends) _
  | petToInven =>
    simp only [bagEnds, List.mem_singleton] at hends
    simp only [moveWithPet] at h
    split_ifs at h
    all_goals
      obtain rfl := Option.some.inj h
      exact Inventory.slot_set_ne (Ne.symm hends) _
  | _ => cases h

end Move

section Request

variable {ctx : MoveContext} {s : MoveSession} {req : MoveRequest} {p : ℕ}

def StaysIn (ctx : MoveContext) (s s' : MoveSession) (p : ℕ) : Prop :=
  Stays ctx.table (s.inventory.slot p) (s'.inventory.slot p)

theorem performMove_stays (hlo : SLOT_MAX ≤ p) (hhi : p < INVENTORY_COSP)
    (hid : (s.inventory.slot p).itemId ≠ 0)
    (h : (movePasses ctx s req && displaces ctx.table s.inventory req p) = false) :
    StaysIn ctx s (performMove ctx s req).2 p := by
  have hpad : s.inventory.padded.slot p = s.inventory.slot p := Inventory.slot_padded p
  have hlen : p < s.inventory.padded.length :=
    lt_of_lt_of_le (hhi.trans (by decide)) Inventory.total_le_padded
  unfold movePasses at h
  unfold StaysIn performMove
  cases hitem : ctx.table req.itemId with
  | none => exact stays_refl _
  | some item =>
    rw [hitem] at h
    dsimp only at h ⊢
    cases hrefused : moveRefused ctx s req item with
    | true => exact stays_refl _
    | false =>
      rw [hrefused] at h
      simp only [Bool.not_false, Bool.true_and, Bool.false_eq_true, if_false] at h ⊢
      by_cases hpet : req.dir = .invenToPet ∨ req.dir = .petToInven
      · rw [if_pos hpet] at h ⊢
        unfold movePet
        cases hdata : s.petData with
        | none => exact stays_refl _
        | some pet =>
          rw [hdata] at h
          dsimp only at h ⊢
          cases hmove : moveWithPet req s.inventory.padded pet with
          | none => exact Or.inl hpad
          | some out =>
            rw [hmove] at h
            have hleaves : leavesGoods ctx.table s.inventory req p = false := by
              rcases hpet with hd | hd <;> simp [leavesGoods, hd]
            have hends : p ∉ bagEnds req := by simpa [displaces, hleaves] using h
            exact Or.inl ((moveWithPet_slot_ne hends hmove).trans hpad)
      · rw [if_neg hpet] at h ⊢
        cases hmove : moveInInventory ctx.table (item.slot.getD (-1))
            (handItemSlotType ctx.table s.inventory RIGHTHAND)
            (handItemSlotType ctx.table s.inventory LEFTHAND) req s.inventory.padded with
        | none => exact Or.inl hpad
        | some inv' =>
          rw [hmove] at h
          by_cases hends : p ∈ bagEnds req
          · have hleaves : leavesGoods ctx.table s.inventory req p = true := by
              simpa [displaces, hends] using h
            have hstays := moveInInventory_leavesGoods (by rwa [hpad]) hlen
              (by simpa only [leavesGoods, hpad] using hleaves) hmove
            rwa [hpad] at hstays
          · exact Or.inl ((moveInInventory_slot_ne hlo hhi hends hmove).trans hpad)

theorem largerFirst_trans (a b c : UserItemSlot) (hab : largerFirst a b = true)
    (hbc : largerFirst b c = true) : largerFirst a c = true := by
  simp only [largerFirst, decide_eq_true_eq] at hab hbc ⊢
  omega

theorem largerFirst_total (a b : UserItemSlot) : (largerFirst a b || largerFirst b a) = true := by
  simp only [largerFirst, Bool.or_eq_true, decide_eq_true_eq]
  omega

theorem handleInventoryRefresh_stays (hlo : SLOT_MAX ≤ p) (hhi : p < INVENTORY_COSP)
    (h : sortsAway s.inventory p = false) :
    (handleInventoryRefresh s).2.inventory.slot p = s.inventory.slot p := by
  have hslotMax : SLOT_MAX = 14 := rfl
  have hhaveMax : HAVE_MAX = 28 := rfl
  have hcosp : INVENTORY_COSP = 42 := rfl
  have htotal : INVENTORY_TOTAL = 96 := rfl
  have hlen := @Inventory.total_le_padded s.inventory
  have hbag : (bagOf s.inventory).length = HAVE_MAX := by
    rw [bagOf, List.length_take, List.length_drop]
    omega
  have hread : (bagOf s.inventory)[p - SLOT_MAX]? = some (s.inventory.slot p) := by
    rw [bagOf, List.getElem?_take_of_lt (by omega), List.getElem?_drop, Nat.add_sub_cancel' hlo,
      ← @Inventory.slot_padded s.inventory p, Inventory.slot,
      List.getElem?_eq_getElem (by omega), List.getD_eq_getElem _ _ (by omega)]
  have hsorted := Sorting.getElem?_mergeSort_place largerFirst_trans largerFirst_total hread
  have hplace : Sorting.place largerFirst (bagOf s.inventory) (p - SLOT_MAX)
      (s.inventory.slot p) = p - SLOT_MAX := by simpa [sortsAway] using h
  rw [hplace] at hsorted
  have hfront : (s.inventory.padded.take SLOT_MAX).length = SLOT_MAX := by
    rw [List.length_take]
    omega
  have hsort : ((bagOf s.inventory).mergeSort largerFirst).length = HAVE_MAX := by
    rw [List.length_mergeSort, hbag]
  -- the equipment stands before the sorted bag
  refine Inventory.slot_of_getElem? ?_
  show (s.inventory.padded.take SLOT_MAX ++ (bagOf s.inventory).mergeSort largerFirst ++
    s.inventory.padded.drop (SLOT_MAX + HAVE_MAX))[p]? = _
  rw [List.append_assoc, List.getElem?_append_right (by omega), hfront,
    List.getElem?_append_left (by omega), hsorted]

/-- Without a move request there is the sorting of the bag, or nothing. -/
theorem handleItemMove_sorts {data : List UInt8} (h : receivedMove ctx data = none) :
    (handleItemMove ctx s data).2 =
      if receivedRefresh ctx data then (handleInventoryRefresh s).2 else s := by
  unfold receivedRefresh
  cases hblocked : moveBlocked ctx with
  | true => exact handleItemMove_blocked hblocked
  | false =>
    rw [handleItemMove_open hblocked]
    unfold receivedMove at h
    dsimp only at h
    rw [hblocked, if_neg (by decide)] at h
    split
    · next htype =>
      rw [if_pos htype] at h
      rw [handleInventorySystem_eq, h, htype]
      rfl
    · next htype =>
      rw [htype]
      rfl
    · next hother htype =>
      rw [if_neg]
      simpa using htype

theorem handleItemMove_stays {data : List UInt8} (hlo : SLOT_MAX ≤ p) (hhi : p < INVENTORY_COSP)
    (hid : (s.inventory.slot p).itemId ≠ 0) (h : disturbs ctx s data p = false) :
    StaysIn ctx s (handleItemMove ctx s data).2 p := by
  unfold disturbs at h
  cases hreq : receivedMove ctx data with
  | some req =>
    rw [hreq] at h
    rw [handleItemMove_received hreq]
    exact performMove_stays hlo hhi hid h
  | none =>
    rw [hreq] at h
    rw [handleItemMove_sorts hreq]
    split_ifs with hsort
    · rw [hsort, Bool.true_and] at h
      exact Or.inl (handleInventoryRefresh_stays hlo hhi h)
    · exact stays_refl _

end Request

/-- What every step that leaves listed goods in place keeps. -/
structure GoodsHeld (table : ItemTable) (s : Shop) : Prop extends ListingsBacked s where
  inBag : ∀ i, (s.listing i).unsold = true →
    SLOT_MAX ≤ (s.listing i).originalSlot ∧ (s.listing i).originalSlot < INVENTORY_COSP
  limit : ∀ i, (s.listing i).unsold = true → mergesStacks table (s.listing i).itemId = true →
    (s.listing i).sellCount ≤ ITEMCOUNT_MAX
  dormant : s.merchantState = .none → s.sellingMerchantPreparing = false →
    ∀ i, (s.listing i).unsold = false

/-- Nothing new is listed, and what is still listed has its goods. -/
structure Thinned (s s' : Shop) : Prop where
  listed : ∀ i, (s'.listing i).unsold = true → (s.listing i).unsold = true ∧
    (s'.listing i).itemId = (s.listing i).itemId ∧
    (s'.listing i).originalSlot = (s.listing i).originalSlot ∧
    (s'.listing i).sellCount ≤ (s.listing i).sellCount
  backed : ∀ i, (s'.listing i).unsold = true → Backs (s'.listing i) (s'.goods (s'.listing i))

section Shop

variable {table : ItemTable} {s s' : Shop}

theorem unsold_itemId {l : MerchData} (h : l.unsold = true) : l.itemId ≠ 0 := by
  simp only [MerchData.unsold, Bool.and_eq_true, decide_eq_true_eq] at h
  exact h.1

theorem mem_of_unsold {i : ℕ} (h : (s.listing i).unsold = true) :
    s.listing i ∈ s.market.merchantItems := by
  rcases Nat.lt_or_ge i s.market.merchantItems.length with hlen | hlen
  · rw [Shop.listing, Market.listing, List.getD_eq_getElem _ _ hlen]
    exact List.getElem_mem hlen
  · rw [Shop.listing, Market.listing, List.getD_eq_default _ _ hlen] at h
    cases h

theorem held_of_thinned (hs : GoodsHeld table s) (h : Thinned s s')
    (hdormant : s'.merchantState = .none → s'.sellingMerchantPreparing = false →
      ∀ i, (s'.listing i).unsold = false) : GoodsHeld table s' where
  backed := h.backed
  apart := by
    intro i j hi hj hslot
    obtain ⟨hiOld, -, hiSlot, -⟩ := h.listed i hi
    obtain ⟨hjOld, -, hjSlot, -⟩ := h.listed j hj
    exact hs.apart i j hiOld hjOld (hiSlot.symm.trans (hslot.trans hjSlot))
  inBag := by
    intro i hi
    obtain ⟨hold, -, hslot, -⟩ := h.listed i hi
    rw [hslot]
    exact hs.inBag i hold
  limit := by
    intro i hi hmerge
    obtain ⟨hold, hid, -, hcount⟩ := h.listed i hi
    exact hcount.trans (hs.limit i hold (hid ▸ hmerge))
  dormant := hdormant

theorem thinned_of_same (hmarket : s'.market.merchantItems = s.market.merchantItems)
    (hbacked : ∀ i, (s.listing i).unsold = true → Backs (s.listing i) (s'.goods (s.listing i))) :
    Thinned s s' := by
  have hsame (i : ℕ) : s'.listing i = s.listing i := by
    simp only [Shop.listing, Market.listing, hmarket]
  constructor
  · intro i hi
    rw [hsame] at hi ⊢
    exact ⟨hi, rfl, rfl, le_refl _⟩
  · intro i hi
    rw [hsame] at hi ⊢
    exact hbacked i hi

/-- One listing is taken away, and the others keep their goods. -/
theorem thinned_of_unlisted {k : ℕ} (hs : ListingsBacked s) (hat : (s'.listing k).unsold = false)
    (hother : ∀ i ≠ k, s'.listing i = s.listing i)
    (hgoods : ∀ l, Backs l (s.goods l) → Backs l (s'.goods l)) : Thinned s s' := by
  have hne (i : ℕ) (hi : (s'.listing i).unsold = true) : i ≠ k := by
    rintro rfl
    rw [hat] at hi
    cases hi
  constructor
  · intro i hi
    have hsame := hother i (hne i hi)
    rw [hsame] at hi ⊢
    exact ⟨hi, rfl, rfl, le_refl _⟩
  · intro i hi
    have hsame := hother i (hne i hi)
    rw [hsame] at hi ⊢
    exact hgoods _ (hs.backed i hi)

/-- A shop without listings, whatever else it is. -/
theorem held_of_no_listings (h : ∀ l ∈ s.market.merchantItems, l.unsold = false) :
    GoodsHeld table s := by
  have hnot {i : ℕ} (hi : (s.listing i).unsold = true) : False :=
    Bool.false_ne_true ((h _ (mem_of_unsold hi)).symm.trans hi)
  exact ⟨⟨fun _ hi => (hnot hi).elim, fun _ _ hi => (hnot hi).elim⟩, fun _ hi => (hnot hi).elim,
    fun _ hi => (hnot hi).elim, fun _ _ _ => Bool.eq_false_iff.mpr hnot⟩

theorem held_closeMerchant (s : Shop) : GoodsHeld table (closeMerchant s) :=
  held_of_no_listings fun l hl => by
    rw [List.eq_of_mem_replicate hl]
    rfl

theorem held_merchantClose (hs : GoodsHeld table s) : GoodsHeld table (merchantClose s) := by
  unfold merchantClose
  split_ifs
  · exact hs
  · exact held_closeMerchant s

theorem held_merchantOpen (hs : GoodsHeld table s) (env : ShopEnv) :
    GoodsHeld table (merchantOpen env s) := by
  unfold merchantOpen
  split_ifs
  · exact hs
  · exact hs
  · exact held_merchantClose hs
  · exact { hs with dormant := nofun }

theorem held_merchantInsert (hs : GoodsHeld table s) (env : ShopEnv) (advertLen : ℕ) :
    GoodsHeld table (merchantInsert env s advertLen) := by
  unfold merchantInsert
  split_ifs
  · exact hs
  · exact hs
  · dsimp only
    split_ifs
    · exact hs
    · exact { hs with dormant := nofun }

theorem not_addRefused {ctx : AddContext} {m : Market} {req : AddRequest}
    (h : addRefused ctx m req = false) :
    req.srcPos < HAVE_MAX ∧ req.dstPos < MAX_MERCH_ITEMS ∧
      (∀ i, (m.listing i).itemId ≠ 0 → (m.listing i).originalSlot ≠ req.srcPos + SLOT_MAX) ∧
      (m.seller.inventory.slot (SLOT_MAX + req.srcPos)).itemId = req.itemId ∧
      0 < (m.seller.inventory.slot (SLOT_MAX + req.srcPos)).count ∧
      req.count ≤ (m.seller.inventory.slot (SLOT_MAX + req.srcPos)).count ∧
      (mergesStacks ctx.table req.itemId = true → req.count ≤ ITEMCOUNT_MAX) := by
  unfold addRefused at h
  rw [Bool.or_eq_false_iff] at h
  obtain ⟨hreq, hitem⟩ := h
  simp only [Bool.or_eq_false_iff, decide_eq_false_iff_not, not_le] at hreq
  obtain ⟨⟨⟨-, hsrc⟩, hdst⟩, hany⟩ := hreq
  cases hdef : ctx.table req.itemId with
  | none =>
    rw [hdef] at hitem
    cases hitem
  | some itemDef =>
    rw [hdef] at hitem
    dsimp only at hitem
    rw [Bool.or_eq_false_iff] at hitem
    obtain ⟨hkind, hslot⟩ := hitem
    cases hsome : m.seller.inventory[SLOT_MAX + req.srcPos]? with
    | none =>
      rw [hsome] at hslot
      cases hslot
    | some slot =>
      rw [hsome] at hslot
      rw [Inventory.slot_of_getElem? hsome]
      simp only [Bool.or_eq_false_iff, Bool.and_eq_false_iff, decide_eq_false_iff_not, not_not,
        not_lt] at hkind hslot
      obtain ⟨⟨⟨⟨⟨⟨⟨⟨⟨hid, hzero⟩, hcount⟩, -⟩, -⟩, -⟩, -⟩, -⟩, -⟩, -⟩ := hslot
      refine ⟨hsrc, hdst, fun i hi hslot => ?_, hid, Nat.pos_of_ne_zero hzero, hcount, ?_⟩
      · have hlen : i < m.merchantItems.length := by
          by_contra hout
          rw [Market.listing, List.getD_eq_default _ _ (not_lt.mp hout)] at hi
          exact hi rfl
        rw [Market.listing, List.getD_eq_getElem _ _ hlen] at hi hslot
        have hnone := List.any_eq_false.mp hany _ (List.getElem_mem hlen)
        exact hnone (by simp [hi, hslot])
      · intro hmerge
        simp only [mergesStacks, hdef, Option.bind_some, decide_eq_true_eq] at hmerge
        rcases hkind.2 with hother | hmax
        · exact absurd hmerge hother
        · exact hmax

theorem newListing_sellCount_le (ctx : AddContext) (slot : UserItemSlot) (req : AddRequest) :
    (newListing ctx slot req).sellCount ≤ max 1 req.count := by
  unfold newListing
  dsimp only
  split_ifs
  · exact le_max_left _ _
  · exact le_max_right _ _

/-- Marking and unmarking a slot keeps the goods. -/
theorem backs_setFlag {l : MerchData} {inv : Inventory} {j : ℕ} (i flag : ℕ)
    (h : Backs l (inv.slot j)) :
    Backs l (Inventory.slot (inv.set i { inv.slot i with flag := flag }) j) := by
  rcases Nat.lt_or_ge i inv.length with hi | hi
  · rw [slot_set hi]
    split_ifs with hij
    · subst hij
      exact ⟨h.itemId, h.serialNum, h.count⟩
    · exact h
  · rwa [List.set_eq_of_length_le hi]

theorem held_of_listed {k : ℕ} {new : MerchData} (hs : GoodsHeld table s)
    (hat : s'.listing k = new) (hother : ∀ i ≠ k, s'.listing i = s.listing i)
    (hgoods : ∀ l, Backs l (s.goods l) → Backs l (s'.goods l)) (hnew : Backs new (s.goods new))
    (hfree : ∀ i, (s.listing i).unsold = true → (s.listing i).originalSlot ≠ new.originalSlot)
    (hbag : SLOT_MAX ≤ new.originalSlot ∧ new.originalSlot < INVENTORY_COSP)
    (hlimit : mergesStacks table new.itemId = true → new.sellCount ≤ ITEMCOUNT_MAX)
    (hpreparing : s'.sellingMerchantPreparing = true) : GoodsHeld table s' where
  backed := by
    intro i hi
    rcases eq_or_ne i k with rfl | hne
    · rw [hat]
      exact hgoods new hnew
    · rw [hother i hne] at hi ⊢
      exact hgoods _ (hs.backed i hi)
  apart := by
    intro i j hi hj hslot
    by_cases hik : i = k
    · by_cases hjk : j = k
      · rw [hik, hjk]
      · rw [hik, hat, hother j hjk] at hslot
        rw [hother j hjk] at hj
        exact absurd hslot.symm (hfree j hj)
    · rw [hother i hik] at hi hslot
      by_cases hjk : j = k
      · rw [hjk, hat] at hslot
        exact absurd hslot (hfree i hi)
      · rw [hother j hjk] at hj hslot
        exact hs.apart i j hi hj hslot
  inBag := by
    intro i hi
    rcases eq_or_ne i k with rfl | hne
    · rwa [hat]
    · rw [hother i hne] at hi ⊢
      exact hs.inBag i hi
  limit := by
    intro i hi hmerge
    rcases eq_or_ne i k with rfl | hne
    · rw [hat] at hmerge ⊢
      exact hlimit hmerge
    · rw [hother i hne] at hi hmerge ⊢
      exact hs.limit i hi hmerge
  dormant := fun _ hnot => absurd (hpreparing.symm.trans hnot) (by decide)

theorem held_shopItemAdd (hs : GoodsHeld table s) (ctx : AddContext) (req : AddRequest) :
    GoodsHeld table (shopItemAdd table ctx s req) := by
  unfold shopItemAdd merchantItemAdd
  dsimp only
  split_ifs with hstate hrefused
  · exact hs
  · exact hs
  obtain ⟨hsrc, hdst, hfree, hid, hpos, hcount, hlimit⟩ :=
    not_addRefused (Bool.eq_false_iff.mpr hrefused)
  have hslotMax : SLOT_MAX = 14 := rfl
  have hhaveMax : HAVE_MAX = 28 := rfl
  have hcosp : INVENTORY_COSP = 42 := rfl
  have hmax : ITEMCOUNT_MAX = 9999 := rfl
  have hpreparing : s.sellingMerchantPreparing = true := by
    simp only [Bool.or_eq_true, not_or] at hstate
    simpa using hstate.1
  have hsell := newListing_sellCount_le { ctx with table := table, sellingMerchantPreparing :=
    s.sellingMerchantPreparing } (s.market.seller.inventory.slot (SLOT_MAX + req.srcPos)) req
  have horigin : req.srcPos + SLOT_MAX = SLOT_MAX + req.srcPos := Nat.add_comm _ _
  refine held_of_listed hs (@Market.listing_setListing s.market req.dstPos _
    (newListing_lt _ _ _) hdst)
    (fun i hi => @Market.listing_setListing_ne s.market req.dstPos i hi.symm _ (newListing_lt _ _ _))
    (fun l hl => backs_setFlag _ _ hl) ⟨?_, ?_, ?_⟩ (fun i hi => hfree i (unsold_itemId hi))
    ⟨?_, ?_⟩ (fun hmerge => ?_) hpreparing
  · show (s.inventory.slot (req.srcPos + SLOT_MAX)).itemId = _
    rw [horigin]
    exact hid
  · show (s.inventory.slot (req.srcPos + SLOT_MAX)).serialNum = _
    rw [horigin]
    rfl
  · show _ ≤ (s.inventory.slot (req.srcPos + SLOT_MAX)).count
    rw [horigin]
    exact hsell.trans (max_le hpos hcount)
  · exact Nat.le_add_left _ _
  · show req.srcPos + SLOT_MAX < _
    omega
  · have := hlimit hmerge
    omega

theorem held_merchantItemCancel (hs : GoodsHeld table s) (env : ShopEnv) (slotPos : ℕ) :
    GoodsHeld table (merchantItemCancel env s slotPos) := by
  unfold merchantItemCancel
  split_ifs with hstate hrange
  · exact hs
  · exact hs
  have hpreparing : s.sellingMerchantPreparing = true := by
    simp only [Bool.or_eq_true, not_or] at hstate
    simpa using hstate.1
  dsimp only
  split_ifs with hempty
  · exact hs
  split
  · exact hs
  split_ifs with hdiffers
  · exact hs
  have hcleared : ({} : MerchData).sellCount < 2 ^ 16 := by decide
  refine held_of_thinned hs (@thinned_of_unlisted _ _ slotPos hs.toListingsBacked ?_
    (fun i hi => @Market.listing_setListing_ne s.market slotPos i hi.symm {} hcleared)
    fun l hl => backs_setFlag _ _ hl) fun _ hnot => absurd (hpreparing.symm.trans hnot) (by decide)
  have hat := @Market.listing_setListing s.market slotPos {} hcleared (not_le.mp hrange)
  show ((s.market.setListing slotPos {} hcleared).listing slotPos).unsold = false
  rw [hat]
  rfl

def listingAfter (ctx : BuyContext) (m : Market) (req : BuyRequest) : MerchData :=
  if fullySold ctx (m.listing req.itemSlot) req then { soldOut := true }
  else (m.listing req.itemSlot).taken req.itemCount

theorem payMerchant_merchantItems {ctx : BuyContext} {m m' : Market} {isKc : Bool} {price : ℕ}
    (h : payMerchant ctx isKc price m = some m') : m'.merchantItems = m.merchantItems := by
  unfold payMerchant at h
  cases isKc with
  | true =>
    rw [if_pos rfl] at h
    split at h
    · cases h
    · obtain rfl := Option.some.inj h
      rfl
  | false =>
    rw [if_neg (by decide)] at h
    split_ifs at h
    split at h
    · cases h
    · obtain rfl := Option.some.inj h
      rfl

theorem merchantItemBuy_merchantItems {ctx : BuyContext} {m m' : Market} {req : BuyRequest}
    (h : merchantItemBuy ctx m req = (true, m')) :
    m'.merchantItems = m.merchantItems.set req.itemSlot (listingAfter ctx m req) := by
  unfold merchantItemBuy at h
  split at h
  · cases h
  split at h
  · cases h
  next merch taken htake =>
  obtain ⟨-, -, -, -, -, -, heq⟩ := tryMerchantBuy_iff.mp htake
  obtain ⟨rfl, rfl⟩ := Prod.mk.inj heq
  dsimp only at h
  split at h
  · cases h
  next paid hpay =>
  obtain ⟨-, rfl⟩ := Prod.mk.inj h
  have hpaid := payMerchant_merchantItems hpay
  unfold listingAfter
  split_ifs with hfully
  · show paid.merchantItems.set req.itemSlot _ = _
    rw [hpaid]
    exact List.set_set _
  · exact hpaid

/-- What is left of the owner's slot when the listing goes on. -/
theorem backs_handOver {l : MerchData} {inv : Inventory} {req : BuyRequest}
    (hpos : l.originalSlot < inv.length) (hback : Backs l (inv.slot l.originalSlot))
    (hleft : l.sellCount - req.itemCount ≠ 0) :
    Backs (l.taken req.itemCount)
      ((handOver false inv l.originalSlot req).slot l.originalSlot) := by
  have hcount := hback.count
  unfold handOver
  split_ifs with hsame hfully
  · cases hfully
  · dsimp only
    rw [if_neg (by omega), Inventory.slot_set_self hpos]
    exact ⟨hback.itemId, hback.serialNum, Nat.sub_le_sub_right hcount _⟩
  · exact ⟨hback.itemId, hback.serialNum, (Nat.sub_le _ _).trans hcount⟩

/-- A purchase takes from one listing and from its goods. -/
theorem thinned_of_accepted {ctx : BuyContext} {m m' : Market} {req : BuyRequest}
    (hs : ListingsBacked s) (hitems : m.merchantItems = s.market.merchantItems)
    (hseller : m.seller = s.market.seller) (hslot : req.itemSlot < MAX_MERCH_ITEMS)
    (heq : merchantItemBuy ctx m req = (true, m')) (h : Accepted ctx m req m') :
    Thinned s { s with market := m' } := by
  have hlisting (i : ℕ) : m.listing i = s.listing i := by
    simp only [Shop.listing, Market.listing, hitems]
  set l := s.listing req.itemSlot with hl
  have hitems' := merchantItemBuy_merchantItems heq
  have hgoods := h.goods
  have hread : m.listing req.itemSlot = l := hlisting _
  have hsold : l.unsold = true := by
    have hid := hgoods.listed
    have hunsold := hgoods.unsold
    rw [hread] at hid hunsold
    simp [MerchData.unsold, hid, hunsold, h.itemId_ne]
  have hat : m'.listing req.itemSlot = listingAfter ctx m req := by
    rw [Market.listing, hitems']
    exact Tally.getD_set_self (by rwa [m.items_length]) _ _
  have hother (i : ℕ) (hi : req.itemSlot ≠ i) : m'.listing i = s.listing i := by
    rw [Market.listing, hitems', Tally.getD_set_ne hi]
    exact hlisting i
  have hpos : soldSlot m req = l.originalSlot := by rw [soldSlot, hread]
  have hinv := h.sellerInventory
  rw [hpos, hread, hseller] at hinv
  have hrange := hgoods.inRange
  rw [hpos, hseller] at hrange
  -- the purchase's own place, unless the listing ends with it
  have htaken (hu : (m'.listing req.itemSlot).unsold = true) :
      fullySold ctx l req = false ∧ m'.listing req.itemSlot = l.taken req.itemCount := by
    rw [hat, listingAfter, hread] at hu ⊢
    split_ifs at hu ⊢ with hfully
    · cases hu
    · exact ⟨Bool.eq_false_iff.mpr hfully, rfl⟩
  constructor
  · intro i hi
    rcases eq_or_ne req.itemSlot i with rfl | hne
    · obtain ⟨-, htake⟩ := htaken hi
      refine ⟨hsold, ?_⟩
      show (m'.listing req.itemSlot).itemId = _ ∧ (m'.listing req.itemSlot).originalSlot = _ ∧
        (m'.listing req.itemSlot).sellCount ≤ _
      rw [htake]
      exact ⟨rfl, rfl, Nat.sub_le _ _⟩
    · have hsame := hother i hne
      refine ⟨hsame ▸ hi, congrArg _ hsame, congrArg _ hsame, le_of_eq (congrArg _ hsame)⟩
  · intro i hi
    rcases eq_or_ne req.itemSlot i with rfl | hne
    · obtain ⟨hnot, htake⟩ := htaken hi
      show Backs (m'.listing req.itemSlot)
        (m'.seller.inventory.slot (m'.listing req.itemSlot).originalSlot)
      rw [htake, hinv, hnot]
      refine backs_handOver hrange (hs.backed _ hsold) fun hzero => ?_
      rw [fullySold, hzero] at hnot
      cases hnot
    · have hsame := hother i hne
      have hiOld : (s.listing i).unsold = true := hsame ▸ hi
      show Backs (m'.listing i) (m'.seller.inventory.slot (m'.listing i).originalSlot)
      rw [hsame, hinv, (sameBut_handOver _ _ _).2 _ fun hslots =>
        hne (hs.apart _ _ hsold hiOld hslots.symm)]
      exact hs.backed i hiOld

theorem held_shopItemBuy (hs : GoodsHeld table s) (ctx : BuyContext) (buyer : Trader)
    (req : BuyRequest) : GoodsHeld table (shopItemBuy table ctx s buyer req) := by
  unfold shopItemBuy
  dsimp only
  generalize (BuyContext.mk table _ _ _ _ _ _ _ _ _ _ _) = ctx'
  rcases merchantItemBuy_spec ctx' { s.market with buyer := buyer } req with
    heq | ⟨m', heq, haccepted⟩
  · rw [heq]
    exact held_of_thinned hs (thinned_of_same rfl hs.backed) hs.dormant
  · have hchecked := (merchantItemBuy_succeeds_iff.mp (congrArg Prod.fst heq)).checked
    have hthin := thinned_of_accepted (m := { s.market with buyer := buyer })
      hs.toListingsBacked rfl rfl (not_buyRefused hchecked).1 heq haccepted
    rw [heq]
    dsimp only
    split_ifs
    · exact held_closeMerchant _
    · refine held_of_thinned hs hthin fun hnone hnot i => ?_
      by_contra hi
      have hold := (hthin.listed i (Bool.not_eq_false _ ▸ hi)).1
      rw [hs.dormant hnone hnot i] at hold
      cases hold

theorem held_shopItemMove (hs : GoodsHeld table s) (ctx : MoveContext) (data : List UInt8)
    (hleaves : LeavesListed table s (.itemMove ctx data)) :
    GoodsHeld table (shopItemMove table ctx s data) := by
  refine held_of_thinned hs (thinned_of_same rfl fun i hi => ?_) hs.dormant
  obtain ⟨hlo, hhi⟩ := hs.inBag i hi
  have hback := hs.backed i hi
  have hid : (s.moveSession.inventory.slot (s.listing i).originalSlot).itemId ≠ 0 := by
    rw [show s.moveSession.inventory.slot _ = s.goods (s.listing i) from rfl, hback.itemId]
    exact unsold_itemId hi
  exact backs_of_stays (handleItemMove_stays hlo hhi hid
    (hleaves _ (mem_of_unsold hi) hi)) hback (hs.limit i hi)

theorem held_shopStep (hs : GoodsHeld table s) (step : ShopStep)
    (hleaves : LeavesListed table s step) : GoodsHeld table (shopStep table s step) := by
  cases step with
  | openShop env => exact held_merchantOpen hs env
  | itemAdd ctx req => exact held_shopItemAdd hs ctx req
  | itemCancel env slotPos => exact held_merchantItemCancel hs env slotPos
  | insert env advertLen => exact held_merchantInsert hs env advertLen
  | close => exact held_merchantClose hs
  | buy ctx buyer req => exact held_shopItemBuy hs ctx buyer req
  | itemMove ctx data => exact held_shopItemMove hs ctx data hleaves

/-- From a player without listings, whatever the owner and the customers do: as long as the
owner's item moves leave listed goods in place, every unsold listing is backed by its own. -/
theorem shop_listings_backed {steps : List ShopStep}
    (hstart : ∀ l ∈ s.market.merchantItems, l.unsold = false)
    (hleaves : Run.Along (shopStep table) (LeavesListed table) s steps) :
    ListingsBacked (run (shopStep table) s steps) :=
  (Run.invariant (GoodsHeld table) (fun _ step hs hok => held_shopStep hs step hok) hleaves
    (held_of_no_listings hstart)).toListingsBacked

end Shop

/-! An owner with a hundred potions in the first bag slot and twenty in the second. -/

def twoStacks : Shop where
  market := { potionStall with
    seller := { potionStall.seller with
      inventory := Inventory.padded (List.replicate SLOT_MAX {} ++
        [{ itemId := 389010000, count := 100 }, { itemId := 389010000, count := 20 }]) } }
  merchantState := .none
  sellingMerchantPreparing := false
  petData := none
  equippedItems := []
  fairyCheck := false
  autoLoot := false

def quietPlace : ShopEnv where
  isBuyingMerchantPreparing := false
  isPlayerDead := false
  isStoreOpen := false
  isTrading := false
  level := 30
  merchantLevel := 1

/-- The request to move the potions from one bag slot to another. -/
def movePotions (srcPos dstPos : UInt8) : ShopStep :=
  .itemMove potionContext ([1, 3] ++ Bytes.le 4 389010000 ++ [srcPos, dstPos])

/-- While the hundred are being listed the twenty join them, and forty are sold. -/
theorem listings_backed_two_stacks :
    ListingsBacked (run (shopStep stallTable) twoStacks
      [.openShop quietPlace, .itemAdd preparing (listPotions 100 (by decide)), movePotions 1 0,
        .insert quietPlace 0, .buy atTheStall potionStall.buyer (buyPotions 40)]) :=
  shop_listings_backed (by decide) (by decide +kernel)

/-- The hundred are listed and then moved away, which leaves the listing without goods. -/
theorem listed_potions_moved :
    ¬ ListingsBacked (run (shopStep stallTable) twoStacks
      [.openShop quietPlace, .itemAdd preparing (listPotions 100 (by decide)),
        movePotions 0 2]) := by
  intro h
  have hunsold : ((run (shopStep stallTable) twoStacks
      [.openShop quietPlace, .itemAdd preparing (listPotions 100 (by decide)),
        movePotions 0 2]).listing 0).unsold = true := by decide +kernel
  have hgone : ((run (shopStep stallTable) twoStacks
      [.openShop quietPlace, .itemAdd preparing (listPotions 100 (by decide)),
        movePotions 0 2]).goods ((run (shopStep stallTable) twoStacks
      [.openShop quietPlace, .itemAdd preparing (listPotions 100 (by decide)),
        movePotions 0 2]).listing 0)).count = 0 := by decide +kernel
  have hlisted : ((run (shopStep stallTable) twoStacks
      [.openShop quietPlace, .itemAdd preparing (listPotions 100 (by decide)),
        movePotions 0 2]).listing 0).sellCount = 100 := by decide +kernel
  have hcount := (h.backed 0 hunsold).count
  rw [hgone, hlisted] at hcount
  omega

end KoServer
