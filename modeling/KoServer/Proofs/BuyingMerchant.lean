import KoServer.Lib.Run
import KoServer.Proofs.Merchant
import KoServer.Proofs.TradeSession
import KoServer.Spec.BuyingMerchant

/-! What a sale to a buying shop moves, and what the shop keeps over its life. Everything is
checked before the first write but the room for the seller's gold, and `gold_gain` cuts what
is above the cap. -/

namespace KoServer

section Sale

variable {ctx : BuyingContext} {m m' : BuyingMarket} {req : BuyingRequest}

def salePrice (m : BuyingMarket) (req : BuyingRequest) : ℕ :=
  (m.wanted req.merchantListSlot).price * req.stackSize

def buyerDest (ctx : BuyingContext) (m : BuyingMarket) (req : BuyingRequest) : Option ℕ :=
  findSlotForItem ctx.table m.merchant.inventory (m.wanted req.merchantListSlot).itemId
    req.stackSize

/-- Exactly the goods and exactly the price change hands. -/
structure SaleExact (m m' : BuyingMarket) (req : BuyingRequest) : Prop where
  sellerSlot : (m'.seller.inventory.slot req.actualSlot).count + req.stackSize =
    (m.seller.inventory.slot req.actualSlot).count
  sellerRest : sameBut req.actualSlot m.seller.inventory m'.seller.inventory
  merchantSlot : ∃ dest ∈ bagSlots,
    stack (m.wanted req.merchantListSlot).itemId (m'.merchant.inventory.slot dest) =
      stack (m.wanted req.merchantListSlot).itemId (m.merchant.inventory.slot dest) +
        req.stackSize ∧
    sameBut dest m.merchant.inventory m'.merchant.inventory
  wanted : (m'.wanted req.merchantListSlot).sellCount + req.stackSize =
    (m.wanted req.merchantListSlot).sellCount
  wantedRest : ∀ l, l ≠ req.merchantListSlot → (m.wanted l).itemId ≠ 0 → m'.wanted l = m.wanted l
  merchantGold : m'.merchant.gold + salePrice m req = m.merchant.gold
  sellerGold : m'.seller.gold = m.seller.gold + salePrice m req

def SaleConserves (ctx : BuyingContext) (m : BuyingMarket) (req : BuyingRequest) : Prop :=
  ((buyingMerchantBuy ctx m req).1 = true → SaleExact m (buyingMerchantBuy ctx m req).2 req) ∧
    ((buyingMerchantBuy ctx m req).1 = false → (buyingMerchantBuy ctx m req).2 = m)

structure SaleAllowed (ctx : BuyingContext) (m : BuyingMarket) (req : BuyingRequest) : Prop where
  checked : buyingRefused ctx m req = false
  room : (buyerDest ctx m req).isSome

/-- The price is in its range and fits the seller's purse, and the stack it joins is in range. A
price in Knight Cash is no gold. -/
structure SaleFits (ctx : BuyingContext) (m : BuyingMarket) (req : BuyingRequest) : Prop where
  gold : (m.wanted req.merchantListSlot).isKc = false →
    salePrice m req < 2 ^ 32 ∧ m.seller.gold + salePrice m req ≤ COIN_MAX
  cash : (m.wanted req.merchantListSlot).isKc = true → salePrice m req = 0
  stack : ∀ dest, buyerDest ctx m req = some dest →
    stack (m.wanted req.merchantListSlot).itemId (m.merchant.inventory.slot dest) +
      req.stackSize < 2 ^ 16

structure GoodsOffered (ctx : BuyingContext) (m : BuyingMarket) (req : BuyingRequest) : Prop where
  positive : 0 < req.stackSize
  listSlot_lt : req.merchantListSlot < MAX_MERCH_ITEMS
  itemId_ne : (m.wanted req.merchantListSlot).itemId ≠ 0
  wantedEnough : req.stackSize ≤ (m.wanted req.merchantListSlot).sellCount
  inRange : req.actualSlot < m.seller.inventory.length
  sameItem : (m.seller.inventory.slot req.actualSlot).itemId =
    (m.wanted req.merchantListSlot).itemId
  enough : req.stackSize ≤ (m.seller.inventory.slot req.actualSlot).count
  payable : cannotPay ctx m (m.wanted req.merchantListSlot).isKc
    (saturatingMul32 (m.wanted req.merchantListSlot).price req.stackSize) = false

theorem not_buyingRefused (h : buyingRefused ctx m req = false) : GoodsOffered ctx m req := by
  unfold buyingRefused at h
  dsimp only at h
  rw [Bool.or_eq_false_iff] at h
  obtain ⟨hstate, hrest⟩ := h
  rw [Bool.or_eq_false_iff] at hrest
  obtain ⟨hwanted, hitem⟩ := hrest
  split at hitem
  · cases hitem
  next sellerItem hsome =>
  have hread : m.seller.inventory.slot req.actualSlot = sellerItem :=
    Inventory.slot_of_getElem? hsome
  rw [Bool.or_eq_false_iff] at hitem
  obtain ⟨hseller, hpay⟩ := hitem
  unfold sellerItemRefused at hseller
  simp only [Bool.or_eq_false_iff, decide_eq_false_iff_not, not_not, not_lt, not_le]
    at hstate hwanted hseller
  obtain ⟨⟨⟨-, hpos⟩, -⟩, hslot⟩ := hstate
  obtain ⟨⟨hid, -⟩, hcount⟩ := hwanted
  obtain ⟨⟨⟨⟨⟨⟨hsame, henough⟩, -⟩, -⟩, -⟩, -⟩, -⟩ := hseller
  exact ⟨Nat.pos_of_ne_zero hpos, hslot, hid, hcount, (List.getElem?_eq_some_iff.mp hsome).1,
    hread ▸ hsame, hread ▸ henough, hpay⟩

theorem payWanted_spec {isKc : Bool} {total : ℕ} (h : cannotPay ctx m isKc total = false) :
    ∃ m', payWanted m isKc total = some m' ∧ m'.merchantItems = m.merchantItems ∧
      m'.merchant.inventory = m.merchant.inventory ∧ m'.seller.inventory = m.seller.inventory ∧
      m'.merchant.gold + (if isKc then 0 else total) = m.merchant.gold ∧
      m'.seller.gold = if isKc then m.seller.gold else goldGain m.seller.gold total := by
  unfold cannotPay at h
  unfold payWanted
  cases isKc with
  | true =>
    rw [if_pos rfl, decide_eq_false_iff_not, not_lt] at h
    obtain ⟨merchant, hmerchant⟩ := Option.isSome_iff_exists.mp (cashLose_isSome.mpr h)
    obtain ⟨hinv, hgold⟩ := cashLose_spec hmerchant
    rw [if_pos rfl, hmerchant]
    exact ⟨_, rfl, rfl, hinv, rfl, hgold, rfl⟩
  | false =>
    rw [if_neg Bool.false_ne_true, Bool.or_eq_false_iff, decide_eq_false_iff_not, not_lt] at h
    rw [if_neg Bool.false_ne_true]
    refine ⟨_, rfl, rfl, rfl, rfl, ?_, rfl⟩
    dsimp only
    rw [goldLose, if_pos h.2, Option.getD_some, if_neg Bool.false_ne_true]
    exact Nat.sub_add_cancel h.2

/-- The slot of the owner gains what was sold, up to the end of its range. -/
theorem takeIn_spec {inv : Inventory} {dest : ℕ} (wanted : MerchData) (sellerItem : UserItemSlot)
    (hrange : dest < inv.length) (hlt : req.stackSize < 2 ^ 16) :
    sameBut dest inv (takeIn inv dest wanted sellerItem req.stackSize) ∧
      stack wanted.itemId ((takeIn inv dest wanted sellerItem req.stackSize).slot dest) =
        min (stack wanted.itemId (inv.slot dest) + req.stackSize) 65535 ∧
      ((takeIn inv dest wanted sellerItem req.stackSize).slot dest).itemId = wanted.itemId := by
  unfold takeIn
  rw [if_neg (not_le.mpr hrange)]
  dsimp only
  by_cases hsame : (inv.slot dest).itemId = wanted.itemId
  · rw [if_pos hsame, Inventory.slot_set_self hrange]
    unfold stack
    rw [if_pos hsame, if_pos hsame]
    exact ⟨sameBut_set _ _ _, rfl, hsame⟩
  · rw [if_neg hsame, Inventory.slot_set_self hrange]
    unfold stack
    rw [if_pos rfl, if_neg hsame]
    refine ⟨sameBut_set _ _ _, ?_, rfl⟩
    dsimp only
    omega

/-- The slot of the seller loses what was sold. -/
theorem giveUp_spec {inv : Inventory} {i count : ℕ} (hrange : i < inv.length)
    (henough : count ≤ (inv.slot i).count) :
    sameBut i inv (giveUp inv i (inv.slot i) count) ∧
      ((giveUp inv i (inv.slot i) count).slot i).count + count = (inv.slot i).count ∧
      (((giveUp inv i (inv.slot i) count).slot i).itemId = (inv.slot i).itemId ∨
        (giveUp inv i (inv.slot i) count).slot i = {}) := by
  unfold giveUp
  dsimp only
  rw [if_neg (not_le.mpr hrange)]
  split_ifs with hzero
  · rw [Inventory.slot_set_self hrange]
    refine ⟨sameBut_set _ _ _, ?_, .inr rfl⟩
    dsimp only
    omega
  · rw [Inventory.slot_set_self hrange]
    exact ⟨sameBut_set _ _ _, Nat.sub_add_cancel henough, .inl rfl⟩

theorem wanted_setWanted_self {l : ℕ} {data : MerchData} (hl : l < MAX_MERCH_ITEMS) :
    (m.setWanted l data).wanted l = data :=
  Tally.getD_set_self (by rwa [m.items_length]) data {}

theorem wanted_setWanted_ne {l l' : ℕ} {data : MerchData} (hl : l ≠ l') :
    (m.setWanted l data).wanted l' = m.wanted l' := Tally.getD_set_ne hl data {}

/-- The closing of the list touches nothing but the list, and there only what is not wanted. -/
theorem closeIfDone_spec (m : BuyingMarket) :
    (closeIfDone m).merchant = m.merchant ∧ (closeIfDone m).seller = m.seller ∧
      ∀ l, (closeIfDone m).wanted l = m.wanted l ∨
        (m.wanted l).itemId = 0 ∧ (closeIfDone m).wanted l = {} := by
  unfold closeIfDone
  split_ifs with hdone
  · refine ⟨rfl, rfl, fun l => .inr ⟨?_, ?_⟩⟩
    · unfold BuyingMarket.wanted
      rcases Nat.lt_or_ge l m.merchantItems.length with hl | hl
      · rw [List.getD_eq_getElem _ _ hl]
        exact of_decide_eq_true (List.all_eq_true.mp hdone _ (List.getElem_mem hl))
      · rw [List.getD_eq_default _ _ hl]
    · unfold BuyingMarket.wanted BuyingMarket.close
      dsimp only
      rw [List.getD_eq_getElem?_getD, List.getElem?_replicate]
      split <;> rfl
  · exact ⟨rfl, rfl, fun _ => .inl rfl⟩

theorem satisfied_sellCount {wanted : MerchData} {count : ℕ} (hcount : count ≤ wanted.sellCount) :
    (wanted.satisfied count).sellCount + count = wanted.sellCount := by
  unfold MerchData.satisfied
  dsimp only
  split_ifs with hzero
  · dsimp only
    omega
  · exact Nat.sub_add_cancel hcount

structure Sold (ctx : BuyingContext) (m : BuyingMarket) (req : BuyingRequest) (m' : BuyingMarket)
    (dest : ℕ) : Prop where
  found : buyerDest ctx m req = some dest
  sellerSlot : (m'.seller.inventory.slot req.actualSlot).count + req.stackSize =
    (m.seller.inventory.slot req.actualSlot).count
  sellerItem : (m'.seller.inventory.slot req.actualSlot).itemId =
      (m.wanted req.merchantListSlot).itemId ∨ m'.seller.inventory.slot req.actualSlot = {}
  sellerRest : sameBut req.actualSlot m.seller.inventory m'.seller.inventory
  merchantSlot : stack (m.wanted req.merchantListSlot).itemId (m'.merchant.inventory.slot dest) =
    min (stack (m.wanted req.merchantListSlot).itemId (m.merchant.inventory.slot dest) +
      req.stackSize) 65535
  merchantItem : (m'.merchant.inventory.slot dest).itemId = (m.wanted req.merchantListSlot).itemId
  merchantRest : sameBut dest m.merchant.inventory m'.merchant.inventory
  wanted : (m'.wanted req.merchantListSlot).sellCount + req.stackSize =
    (m.wanted req.merchantListSlot).sellCount
  wantedRest : ∀ l, l ≠ req.merchantListSlot → (m.wanted l).itemId ≠ 0 → m'.wanted l = m.wanted l
  merchantGold : m'.merchant.gold + (if (m.wanted req.merchantListSlot).isKc then 0
    else min (salePrice m req) (2 ^ 32 - 1)) = m.merchant.gold
  sellerGold : m'.seller.gold = if (m.wanted req.merchantListSlot).isKc then m.seller.gold
    else goldGain m.seller.gold (min (salePrice m req) (2 ^ 32 - 1))

theorem Sold.closeIfDone {dest : ℕ} (hsold : Sold ctx m req m' dest)
    (hid : (m.wanted req.merchantListSlot).itemId ≠ 0)
    (hlisted : m'.wanted req.merchantListSlot =
      (m.wanted req.merchantListSlot).satisfied req.stackSize) :
    Sold ctx m req (closeIfDone m') dest := by
  obtain ⟨hmerchant, hseller, hlist⟩ := closeIfDone_spec m'
  obtain ⟨hfound, hslot, hitem, hrest, hslot', hitem', hrest', hwanted, hwantedRest, hgold, hgold'⟩ :=
    hsold
  rw [← hmerchant] at hslot' hitem' hrest' hgold
  rw [← hseller] at hslot hitem hrest hgold'
  refine ⟨hfound, hslot, hitem, hrest, hslot', hitem', hrest', ?_, fun l hne hid' => ?_, hgold,
    hgold'⟩
  · rcases hlist req.merchantListSlot with hsame | ⟨hempty, hcleared⟩
    · rw [hsame]
      exact hwanted
    · -- only an entry that ran out was emptied
      have hsame : m'.wanted req.merchantListSlot = {} := by
        rw [hlisted] at hempty ⊢
        unfold MerchData.satisfied at hempty ⊢
        dsimp only at hempty ⊢
        split_ifs at hempty ⊢
        · rfl
        · exact absurd hempty hid
      rw [hcleared, ← hsame]
      exact hwanted
  · have hkept := hwantedRest l hne hid'
    rcases hlist l with hsame | ⟨hempty, -⟩
    · exact hsame.trans hkept
    · rw [hkept] at hempty
      exact absurd hempty hid'

/-- A sale is refused and leaves everything, or it is let through. -/
theorem buyingMerchantBuy_spec (ctx : BuyingContext) (m : BuyingMarket) (req : BuyingRequest) :
    (buyingMerchantBuy ctx m req = (false, m) ∧ ¬ SaleAllowed ctx m req) ∨
      ∃ m' dest, buyingMerchantBuy ctx m req = (true, m') ∧ SaleAllowed ctx m req ∧
        Sold ctx m req m' dest := by
  unfold buyingMerchantBuy
  split
  · next hrefused =>
    refine .inl ⟨rfl, fun hallowed => ?_⟩
    rw [hallowed.checked] at hrefused
    cases hrefused
  next hrefused =>
  have hchecked := Bool.eq_false_iff.mpr hrefused
  have ho := not_buyingRefused hchecked
  dsimp only
  split
  · next hnone =>
    refine .inl ⟨rfl, fun hallowed => ?_⟩
    have hroom := hallowed.room
    unfold buyerDest at hroom
    rw [hnone] at hroom
    cases hroom
  next dest hfind =>
  have hallowed : SaleAllowed ctx m req := ⟨hchecked, by unfold buyerDest; rw [hfind]; rfl⟩
  obtain ⟨paid, hpaid, hitems, hminv, hsinv, hmgold, hsgold⟩ := payWanted_spec ho.payable
  rw [hpaid]
  dsimp only
  refine .inr ⟨_, dest, rfl, hallowed, ?_⟩
  have hdest : dest < m.merchant.inventory.length := (findSlotForItem_spec hfind).1
  obtain ⟨hgivenRest, hgiven, hgivenItem⟩ := giveUp_spec ho.inRange ho.enough
  obtain ⟨htakenRest, htaken, htakenItem⟩ := takeIn_spec (m.wanted req.merchantListSlot)
    (m.seller.inventory.slot req.actualSlot) hdest req.stackSize_lt
  have hlisted : (paid.setWanted req.merchantListSlot
      ((m.wanted req.merchantListSlot).satisfied req.stackSize)).wanted req.merchantListSlot =
      (m.wanted req.merchantListSlot).satisfied req.stackSize :=
    wanted_setWanted_self ho.listSlot_lt
  refine Sold.closeIfDone ⟨hfind, ?_, ?_, ?_, ?_, ?_, ?_, ?_, fun l hne _ => ?_, hmgold, hsgold⟩
    ho.itemId_ne hlisted
  · change (Inventory.slot (giveUp paid.seller.inventory _ _ _) _).count + _ = _
    rw [hsinv]
    exact hgiven
  · change (Inventory.slot (giveUp paid.seller.inventory _ _ _) _).itemId = _ ∨
      Inventory.slot (giveUp paid.seller.inventory _ _ _) _ = _
    rw [hsinv, ← ho.sameItem]
    exact hgivenItem
  · change sameBut _ _ (giveUp paid.seller.inventory _ _ _)
    rw [hsinv]
    exact hgivenRest
  · change stack _ (Inventory.slot (takeIn paid.merchant.inventory _ _ _ _) _) = _
    rw [hminv]
    exact htaken
  · change (Inventory.slot (takeIn paid.merchant.inventory _ _ _ _) _).itemId = _
    rw [hminv]
    exact htakenItem
  · change sameBut _ _ (takeIn paid.merchant.inventory _ _ _ _)
    rw [hminv]
    exact htakenRest
  · change ((paid.setWanted _ _).wanted _).sellCount + _ = _
    rw [hlisted]
    exact satisfied_sellCount ho.wantedEnough
  · change (paid.setWanted _ _).wanted l = _
    rw [wanted_setWanted_ne hne.symm, BuyingMarket.wanted, hitems]
    rfl

theorem saleExact_iff {dest : ℕ} (hsold : Sold ctx m req m' dest) (hpos : 0 < req.stackSize) :
    SaleExact m m' req ↔ SaleFits ctx m req := by
  have hcoin : COIN_MAX = 2100000000 := rfl
  have hgold := hsold.merchantGold
  have hgold' := hsold.sellerGold
  constructor
  · rintro ⟨-, -, ⟨claimed, -, hslot, hrest⟩, -, -, hpaid, hearned⟩
    refine ⟨fun hkc => ?_, fun hkc => ?_, fun d hd => ?_⟩
    · rw [hkc, if_neg Bool.false_ne_true] at hgold hgold'
      have hprice : min (salePrice m req) (2 ^ 32 - 1) = salePrice m req := by omega
      rw [hprice, hearned] at hgold'
      unfold goldGain at hgold'
      split_ifs at hgold' with hover
      · omega
      · exact ⟨by omega, not_lt.mp hover⟩
    · rw [hkc, if_pos rfl] at hgold
      omega
    · obtain rfl := Option.some.inj (hsold.found.symm.trans hd)
      rcases eq_or_ne claimed dest with rfl | hne
      · have hgained := hsold.merchantSlot
        omega
      · rw [hsold.merchantRest.2 claimed hne] at hslot
        omega
  · rintro ⟨hfits, hcash, hstack⟩
    have hroom := hstack dest hsold.found
    have hgained := hsold.merchantSlot
    refine ⟨hsold.sellerSlot, hsold.sellerRest,
      ⟨dest, findSlotForItem_mem hsold.found, by omega, hsold.merchantRest⟩, hsold.wanted,
      hsold.wantedRest, ?_, ?_⟩
    · cases hkc : (m.wanted req.merchantListSlot).isKc with
      | true =>
        rw [hkc, if_pos rfl] at hgold
        rw [hcash hkc]
        exact hgold
      | false =>
        obtain ⟨hrange, -⟩ := hfits hkc
        rw [hkc, if_neg Bool.false_ne_true] at hgold
        omega
    · cases hkc : (m.wanted req.merchantListSlot).isKc with
      | true =>
        rw [hkc, if_pos rfl] at hgold'
        rw [hcash hkc]
        exact hgold'
      | false =>
        obtain ⟨hrange, hpurse⟩ := hfits hkc
        have hprice : min (salePrice m req) (2 ^ 32 - 1) = salePrice m req := by omega
        rw [hkc, if_neg Bool.false_ne_true, hprice, goldGain, if_neg (not_lt.mpr hpurse)] at hgold'
        exact hgold'

end Sale

/-- A sale is exact just when it fits or is not let through. -/
theorem buying_merchant_conserves_iff (ctx : BuyingContext) (m : BuyingMarket) (req : BuyingRequest) :
    SaleConserves ctx m req ↔ (SaleAllowed ctx m req → SaleFits ctx m req) := by
  unfold SaleConserves
  rcases buyingMerchantBuy_spec ctx m req with ⟨hrefused, hnot⟩ | ⟨m', dest, hsale, hallowed, hsold⟩
  · rw [hrefused]
    refine ⟨fun _ hallowed => absurd hallowed hnot, fun _ => ⟨fun h => ?_, fun _ => rfl⟩⟩
    cases h
  · rw [hsale]
    have hpos := (not_buyingRefused hallowed.checked).positive
    have hiff := saleExact_iff hsold hpos
    refine ⟨fun h _ => hiff.mp (h.1 rfl), fun h => ⟨fun _ => hiff.mpr (h hallowed), fun h => ?_⟩⟩
    cases h

/-! A merchant who wants ten potions for 500 each, and a seller whose purse is full. -/

def potionsWanted : BuyingMarket where
  merchant := { inventory := List.replicate INVENTORY_TOTAL {}, gold := 5000, knightCash := 0 }
  isBuyingMerchant := true
  isBuyingMerchantPreparing := false
  merchantItems := { itemId := 389010000, sellCount := 10, price := 500 } ::
    List.replicate (MAX_MERCH_ITEMS - 1) {}
  items_length := rfl
  seller :=
    { inventory := Inventory.padded
        (List.replicate SLOT_MAX {} ++ [{ itemId := 389010000, count := 100 }])
      gold := COIN_MAX, knightCash := 0 }

def atTheList : BuyingContext where
  table := stallTable
  browsing := true
  ownShop := false
  merchantCharacter := true

def sellOne : BuyingRequest where
  sellerSrcSlot := 0
  merchantListSlot := 0
  stackSize := 1
  stackSize_lt := by decide

/-- The merchant pays 500, and the seller has no more than before. -/
theorem full_purse_loses_price :
    (buyingMerchantBuy atTheList potionsWanted sellOne).1 = true ∧
      ¬ SaleConserves atTheList potionsWanted sellOne := by
  refine ⟨by decide +kernel, fun h => ?_⟩
  have hearned := (h.1 (by decide +kernel)).sellerGold
  revert hearned
  decide +kernel

namespace BuyingMarket

def goods (m : BuyingMarket) (id : ℕ) : ℕ :=
  stock id m.merchant.inventory + stock id m.seller.inventory

def coins (m : BuyingMarket) : ℕ := m.merchant.gold + m.seller.gold

/-- Nothing on the list is paid in Knight Cash. -/
def GoldOnly (m : BuyingMarket) : Prop := ∀ item ∈ m.merchantItems, item.isKc = false

end BuyingMarket

inductive BuyingStep where
  | prepare (ctx : ShopContext)
  | insert (ctx : ShopContext) (items : List WantedItem)
  | buy (ctx : BuyingContext) (req : BuyingRequest)
  | close

def buyingStep (m : BuyingMarket) : BuyingStep → BuyingMarket
  | .prepare ctx => buyingMerchantOpen ctx m
  | .insert ctx items => buyingMerchantInsert ctx m items
  | .buy ctx req => (buyingMerchantBuy ctx m req).2
  | .close => closeInternal m

/-- A sale that is let through has a price and a stack in their ranges, and the purse takes it. -/
def FairBuying (m : BuyingMarket) : BuyingStep → Prop
  | .buy ctx req => SaleAllowed ctx m req →
    salePrice m req < 2 ^ 32 ∧ m.seller.gold + salePrice m req ≤ COIN_MAX ∧
      ∀ dest, buyerDest ctx m req = some dest →
        stack (m.wanted req.merchantListSlot).itemId (m.merchant.inventory.slot dest) +
          req.stackSize < 2 ^ 16
  | _ => True

section

variable {ctx : BuyingContext} {m m' : BuyingMarket} {req : BuyingRequest} {data : MerchData} {l : ℕ}

theorem goldOnly_setWanted (h : m.GoldOnly) (hdata : data.isKc = false) :
    (m.setWanted l data).GoldOnly := by
  intro item hitem
  rcases List.mem_or_eq_of_mem_set hitem with hold | rfl
  · exact h item hold
  · exact hdata

theorem goldOnly_replicate {items : List MerchData} {n : ℕ} (h : items = List.replicate n {}) :
    ∀ item ∈ items, item.isKc = false := by
  intro item hitem
  rw [h] at hitem
  rw [List.eq_of_mem_replicate hitem]

theorem goldOnly_closeInternal (h : m.GoldOnly) : (closeInternal m).GoldOnly := by
  unfold closeInternal
  split_ifs
  · exact h
  · exact goldOnly_replicate rfl

theorem goldOnly_open (sctx : ShopContext) (h : m.GoldOnly) :
    (buyingMerchantOpen sctx m).GoldOnly := by
  unfold buyingMerchantOpen
  split_ifs
  · exact h
  · exact h
  · exact goldOnly_closeInternal h
  · exact goldOnly_replicate rfl

theorem goldOnly_foldl (table : ItemTable) (entries : List (WantedItem × ℕ)) (h : m.GoldOnly) :
    (entries.foldl (fun m entry => m.setWanted entry.2 (wantedEntry table entry.1)) m).GoldOnly := by
  induction entries generalizing m with
  | nil => exact h
  | cons entry entries ih => exact ih (goldOnly_setWanted h rfl)

theorem goldOnly_insert (sctx : ShopContext) (items : List WantedItem) (h : m.GoldOnly) :
    (buyingMerchantInsert sctx m items).GoldOnly := by
  unfold buyingMerchantInsert
  split_ifs
  · exact h
  · exact goldOnly_foldl sctx.table items.zipIdx h

theorem BuyingMarket.GoldOnly.wanted (h : m.GoldOnly) (l : ℕ) : (m.wanted l).isKc = false := by
  unfold BuyingMarket.wanted
  rcases Nat.lt_or_ge l m.merchantItems.length with hl | hl
  · rw [List.getD_eq_getElem _ _ hl]
    exact h _ (List.getElem_mem hl)
  · rw [List.getD_eq_default _ _ hl]

theorem goldOnly_closeIfDone (h : m.GoldOnly) : (closeIfDone m).GoldOnly := by
  unfold closeIfDone
  split_ifs
  · exact goldOnly_replicate rfl
  · exact h

theorem goldOnly_buy (ctx : BuyingContext) (req : BuyingRequest) (h : m.GoldOnly) :
    (buyingMerchantBuy ctx m req).2.GoldOnly := by
  unfold buyingMerchantBuy
  split
  · exact h
  next hrefused =>
  have ho := not_buyingRefused (Bool.eq_false_iff.mpr hrefused)
  dsimp only
  split
  · exact h
  obtain ⟨paid, hpaid, hitems, -⟩ := payWanted_spec ho.payable
  rw [hpaid]
  apply goldOnly_closeIfDone
  have hlist : paid.GoldOnly := by
    unfold BuyingMarket.GoldOnly
    rw [hitems]
    exact h
  refine goldOnly_setWanted hlist ?_
  unfold MerchData.satisfied
  dsimp only
  split_ifs
  · rfl
  · exact h.wanted _

theorem goods_sold {dest : ℕ} (hsold : Sold ctx m req m' dest) (ho : GoodsOffered ctx m req)
    (hexact : SaleExact m m' req) {id : ℕ} (hid : id ≠ 0) : m'.goods id = m.goods id := by
  obtain ⟨hdest, hbefore⟩ := findSlotForItem_spec hsold.found
  have hgiven := stock_of_sameBut ho.inRange hsold.sellerRest id
  have htaken := stock_of_sameBut hdest hsold.merchantRest id
  have hslot := hsold.sellerSlot
  have hfits := (saleExact_iff hsold ho.positive).mp hexact
  have hroom := hfits.stack dest hsold.found
  have hgained := hsold.merchantSlot
  have hsame := ho.sameItem
  have hafter := hsold.merchantItem
  unfold BuyingMarket.goods
  by_cases hitem : id = (m.wanted req.merchantListSlot).itemId
  · subst hitem
    have hleft : stack (m.wanted req.merchantListSlot).itemId
        (m'.seller.inventory.slot req.actualSlot) =
        (m'.seller.inventory.slot req.actualSlot).count := by
      rcases hsold.sellerItem with hkept | hempty
      · exact stack_of_same hkept
      · rw [hempty]
        exact stack_of_other rfl hid
    have hhad := stack_of_same hsame
    omega
  · have hleft : stack id (m'.seller.inventory.slot req.actualSlot) = 0 := by
      rcases hsold.sellerItem with hkept | hempty
      · exact stack_of_other hkept hitem
      · rw [hempty]
        exact stack_of_other rfl hid
    have hhad := stack_of_other hsame hitem
    have hgot := stack_of_other hafter hitem
    have hroom' : stack id (m.merchant.inventory.slot dest) = 0 := by
      rcases hbefore with hempty | ⟨hother, -⟩
      · exact stack_of_other hempty hid
      · exact stack_of_other hother hitem
    omega

theorem buyingMerchantBuy_conserves (hfits : SaleAllowed ctx m req → SaleFits ctx m req) :
    (∀ id, id ≠ 0 → (buyingMerchantBuy ctx m req).2.goods id = m.goods id) ∧
      (buyingMerchantBuy ctx m req).2.coins = m.coins := by
  rcases buyingMerchantBuy_spec ctx m req with ⟨hrefused, -⟩ | ⟨m', dest, hsale, hallowed, hsold⟩
  · rw [hrefused]
    exact ⟨fun _ _ => rfl, rfl⟩
  · rw [hsale]
    have ho := not_buyingRefused hallowed.checked
    have hexact := (saleExact_iff hsold ho.positive).mpr (hfits hallowed)
    refine ⟨fun id hid => goods_sold hsold ho hexact hid, ?_⟩
    have hpaid := hexact.merchantGold
    have hearned := hexact.sellerGold
    unfold BuyingMarket.coins
    dsimp only
    omega

/-- Only a sale touches what the two players have. -/
structure SameHoldings (m m' : BuyingMarket) : Prop where
  merchant : m'.merchant = m.merchant
  seller : m'.seller = m.seller

theorem sameHoldings_closeInternal (m : BuyingMarket) : SameHoldings m (closeInternal m) := by
  unfold closeInternal
  split_ifs <;> exact ⟨rfl, rfl⟩

theorem sameHoldings_open (sctx : ShopContext) (m : BuyingMarket) :
    SameHoldings m (buyingMerchantOpen sctx m) := by
  unfold buyingMerchantOpen
  split_ifs
  · exact ⟨rfl, rfl⟩
  · exact ⟨rfl, rfl⟩
  · exact sameHoldings_closeInternal m
  · exact ⟨rfl, rfl⟩

theorem sameHoldings_foldl (table : ItemTable) (entries : List (WantedItem × ℕ)) (m : BuyingMarket) :
    SameHoldings m (entries.foldl
      (fun m entry => m.setWanted entry.2 (wantedEntry table entry.1)) m) := by
  induction entries generalizing m with
  | nil => exact ⟨rfl, rfl⟩
  | cons entry entries ih =>
    obtain ⟨hmerchant, hseller⟩ := ih (m.setWanted entry.2 (wantedEntry table entry.1))
    exact ⟨hmerchant, hseller⟩

theorem sameHoldings_insert (sctx : ShopContext) (items : List WantedItem) (m : BuyingMarket) :
    SameHoldings m (buyingMerchantInsert sctx m items) := by
  unfold buyingMerchantInsert
  split_ifs
  · exact ⟨rfl, rfl⟩
  · obtain ⟨hmerchant, hseller⟩ := sameHoldings_foldl sctx.table items.zipIdx m
    exact ⟨hmerchant, hseller⟩

theorem SameHoldings.conserves (h : SameHoldings m m') :
    (∀ id, id ≠ 0 → m'.goods id = m.goods id) ∧ m'.coins = m.coins := by
  unfold BuyingMarket.goods BuyingMarket.coins
  rw [h.merchant, h.seller]
  exact ⟨fun _ _ => rfl, rfl⟩

theorem buyingStep_conserves {s : BuyingStep} (hlist : m.GoldOnly) (hfair : FairBuying m s) :
    (buyingStep m s).GoldOnly ∧ (∀ id, id ≠ 0 → (buyingStep m s).goods id = m.goods id) ∧
      (buyingStep m s).coins = m.coins := by
  cases s with
  | prepare sctx => exact ⟨goldOnly_open sctx hlist, (sameHoldings_open sctx m).conserves⟩
  | insert sctx items =>
    exact ⟨goldOnly_insert sctx items hlist, (sameHoldings_insert sctx items m).conserves⟩
  | buy ctx req =>
    refine ⟨goldOnly_buy ctx req hlist, buyingMerchantBuy_conserves fun hallowed => ?_⟩
    obtain ⟨hprice, hpurse, hstack⟩ := hfair hallowed
    refine ⟨fun _ => ⟨hprice, hpurse⟩, fun hkc => ?_, hstack⟩
    rw [hlist.wanted] at hkc
    cases hkc
  | close => exact ⟨goldOnly_closeInternal hlist, (sameHoldings_closeInternal m).conserves⟩

end

/-- Over every run of openings, postings, fair sales and closings the two players keep every
item and all gold, and the list stays a list for gold. -/
theorem buying_shop_conserves {m : BuyingMarket} (hlist : m.GoldOnly) {steps : List BuyingStep}
    (hfair : Run.Along buyingStep FairBuying m steps) :
    (Run.run buyingStep m steps).GoldOnly ∧
      (∀ id, id ≠ 0 → (Run.run buyingStep m steps).goods id = m.goods id) ∧
      (Run.run buyingStep m steps).coins = m.coins := by
  refine ⟨?_, fun id hid => ?_, ?_⟩
  · exact Run.invariant BuyingMarket.GoldOnly
      (fun _ _ hv hs => (buyingStep_conserves hv hs).1) hfair hlist
  · exact Run.conserved BuyingMarket.GoldOnly (fun m => m.goods id)
      (fun _ _ hv hs => ⟨(buyingStep_conserves hv hs).1, (buyingStep_conserves hv hs).2.1 id hid⟩)
      hfair hlist
  · exact Run.conserved BuyingMarket.GoldOnly BuyingMarket.coins
      (fun _ _ hv hs => ⟨(buyingStep_conserves hv hs).1, (buyingStep_conserves hv hs).2.2⟩)
      hfair hlist

end KoServer
