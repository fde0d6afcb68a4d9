import KoServer.Lib.Run
import KoServer.Proofs.Inventory
import KoServer.Spec.Merchant

/-! What a purchase moves between a shop and a customer. The listing keeps its own count,
which may be a part of the owner's stack; when it runs out, the whole stack is wiped. -/

namespace KoServer

section Stock

/-- Slot `i` holds `k` units of the item, and nothing else. -/
def holds (inv : Inventory) (i itemId k : ℕ) : Prop :=
  (inv.slot i).count = k ∧ (k = 0 ∨ (inv.slot i).itemId = itemId)

def stock (itemId : ℕ) (inv : Inventory) : ℕ := Tally.total (stack itemId) inv

def sameBut (i : ℕ) (inv inv' : Inventory) : Prop :=
  inv'.length = inv.length ∧ ∀ j, j ≠ i → inv'.slot j = inv.slot j

variable {inv inv' : Inventory} {i itemId : ℕ}

theorem sameBut_refl (i : ℕ) (inv : Inventory) : sameBut i inv inv := ⟨rfl, fun _ _ => rfl⟩

theorem sameBut_set (i : ℕ) (inv : Inventory) (s : UserItemSlot) : sameBut i inv (inv.set i s) :=
  ⟨List.length_set, fun _ hj => Inventory.slot_set_ne hj.symm s⟩

theorem eq_set_of_sameBut (h : sameBut i inv inv') : inv' = inv.set i (inv'.slot i) := by
  obtain ⟨hlen, hslot⟩ := h
  refine List.ext_getElem (by rw [hlen, List.length_set]) fun j hj hj' => ?_
  rw [List.length_set] at hj'
  have hread : inv'.slot j = inv'[j] := List.getD_eq_getElem _ _ hj
  rcases eq_or_ne i j with rfl | hne
  · rw [List.getElem_set_self, hread]
  · rw [List.getElem_set_ne hne, ← hread, hslot j hne.symm]
    exact List.getD_eq_getElem _ _ hj'

theorem stack_of_holds {k : ℕ} (h : holds inv i itemId k) (id : ℕ) :
    stack id (inv.slot i) = if id = itemId then k else 0 := by
  obtain ⟨hcount, hid⟩ := h
  unfold stack
  rcases hid with rfl | hid
  · rw [hcount, ite_self, ite_self]
  · rw [hcount, hid]
    simp only [eq_comm]

theorem stock_of_sameBut (hi : i < inv.length) (hsame : sameBut i inv inv') (id : ℕ) :
    stock id inv' + stack id (inv.slot i) = stock id inv + stack id (inv'.slot i) := by
  have hset := Tally.total_set (stack id) hi (inv'.slot i) {}
  rw [← eq_set_of_sameBut hsame] at hset
  exact hset

/-- The totals after one slot went from `k` units of an item to `k'`. -/
theorem stock_of_holds {k k' : ℕ} (hi : i < inv.length) (hsame : sameBut i inv inv')
    (h : holds inv i itemId k) (h' : holds inv' i itemId k') (id : ℕ) :
    stock id inv' + (if id = itemId then k else 0) =
      stock id inv + (if id = itemId then k' else 0) := by
  rw [← stack_of_holds h, ← stack_of_holds h']
  exact stock_of_sameBut hi hsame id

end Stock

namespace Market

variable {m : Market} {i : ℕ} {data data' : MerchData} {h : data.sellCount < 2 ^ 16}
  {h' : data'.sellCount < 2 ^ 16}

theorem listing_setListing (hi : i < MAX_MERCH_ITEMS) : (m.setListing i data h).listing i = data :=
  Tally.getD_set_self (by rwa [m.items_length]) data {}

theorem setListing_setListing : (m.setListing i data h).setListing i data' h' =
    m.setListing i data' h' := by
  ext1
  · rfl
  · exact List.set_set _
  · rfl
  · rfl

/-- Overwriting a place with what it holds. -/
theorem setListing_listing (hi : i < MAX_MERCH_ITEMS) (hdata : data = m.listing i) :
    m.setListing i data h = m := by
  have hlen : i < m.merchantItems.length := by rwa [m.items_length]
  ext1
  · rfl
  · show m.merchantItems.set i data = m.merchantItems
    rw [hdata, listing, List.getD_eq_getElem _ _ hlen, List.set_getElem_self]
  · rfl
  · rfl

end Market

theorem restoreMerchantBuy_eq {m : Market} {i itemId count : ℕ} {data : MerchData}
    (hi : i < MAX_MERCH_ITEMS) (hdata : m.listing i = data) (hid : data.itemId = itemId) :
    restoreMerchantBuy m i itemId count =
      m.setListing i (data.restored itemId count) (data.restored_lt itemId count) := by
  subst hdata
  unfold restoreMerchantBuy
  rw [if_neg (not_le.mpr hi)]
  exact if_pos (Or.inl hid)

section Purchase

variable {ctx : BuyContext} {m m' : Market} {req : BuyRequest}

def soldSlot (m : Market) (req : BuyRequest) : ℕ := (m.listing req.itemSlot).originalSlot

def destSlot (req : BuyRequest) : ℕ := SLOT_MAX + req.destSlot

/-- What a purchase for gold comes to. -/
def purchasePrice (m : Market) (req : BuyRequest) : ℕ :=
  (m.listing req.itemSlot).price * req.itemCount

structure GoodsPresent (m : Market) (req : BuyRequest) : Prop where
  listed : (m.listing req.itemSlot).itemId = req.itemId
  unsold : (m.listing req.itemSlot).soldOut = false
  stocked : req.itemCount ≤ (m.listing req.itemSlot).sellCount
  priced : (m.listing req.itemSlot).price ≠ 0
  inRange : soldSlot m req < m.seller.inventory.length
  sameItem : (m.seller.inventory.slot (soldSlot m req)).itemId = req.itemId
  enough : req.itemCount ≤ (m.seller.inventory.slot (soldSlot m req)).count

theorem goodsPresent_spec (h : goodsPresent m req = true) : GoodsPresent m req := by
  unfold goodsPresent at h
  dsimp only at h
  rw [Bool.and_eq_true] at h
  obtain ⟨hlisting, hslot⟩ := h
  split at hslot
  · cases hslot
  · next sellerItem hsome =>
    have hread : m.seller.inventory.slot (soldSlot m req) = sellerItem :=
      Inventory.slot_of_getElem? hsome
    simp only [Bool.and_eq_true, decide_eq_true_eq, Bool.not_eq_true'] at hlisting hslot
    obtain ⟨⟨⟨hlisted, hunsold⟩, hstocked⟩, hpriced⟩ := hlisting
    obtain ⟨⟨hid, -⟩, hcount⟩ := hslot
    exact ⟨hlisted, hunsold, hstocked, hpriced, (List.getElem?_eq_some_iff.mp hsome).1,
      hread ▸ hid, hread ▸ hcount⟩

theorem not_buyRefused (h : buyRefused ctx m req = false) :
    req.itemSlot < MAX_MERCH_ITEMS ∧ 0 < req.itemCount ∧ GoodsPresent m req ∧
      ((m.buyer.inventory.slot (destSlot req)).itemId = 0 ∨
        (m.buyer.inventory.slot (destSlot req)).itemId = req.itemId) := by
  unfold buyRefused at h
  rw [Bool.or_eq_false_iff] at h
  obtain ⟨hstate, hitem⟩ := h
  split at hitem
  · cases hitem
  · next itemDef hdef =>
    simp only [Bool.or_eq_false_iff, Bool.and_eq_false_iff, Bool.not_eq_false',
      decide_eq_false_iff_not, not_not] at hstate hitem
    obtain ⟨⟨⟨-, hdest⟩, -⟩, hgoods⟩ := hitem
    refine ⟨not_le.mp hstate.1.1.2, Nat.pos_of_ne_zero hstate.2, goodsPresent_spec hgoods, ?_⟩
    rcases hdest with hempty | hsame
    · exact Or.inl hempty
    · exact Or.inr hsame.1

/-- What is taken from a listing that is not sold out can be put back. -/
theorem restored_taken {slot : MerchData} {count : ℕ} (hlt : slot.sellCount < 2 ^ 16)
    (hid : slot.itemId ≠ 0) (hsold : slot.soldOut = false) (hcount : count ≤ slot.sellCount) :
    (slot.taken count).restored slot.itemId count = slot := by
  have hback : min (slot.sellCount - count + count) 65535 = slot.sellCount := by omega
  cases slot
  simp_all [MerchData.restored, MerchData.taken]

theorem tryMerchantBuy_spec {merch : MerchData} {itemSlot itemId count : ℕ}
    (h : tryMerchantBuy m itemSlot itemId count = some (merch, m')) :
    merch = m.listing itemSlot ∧ itemId ≠ 0 ∧ m'.seller = m.seller ∧ m'.buyer = m.buyer ∧
      restoreMerchantBuy m' itemSlot itemId count = m := by
  unfold tryMerchantBuy at h
  dsimp only at h
  by_cases hslot : MAX_MERCH_ITEMS ≤ itemSlot
  · rw [if_pos hslot] at h
    cases h
  · rw [if_neg hslot] at h
    split at h
    · cases h
    · next hbad =>
      simp only [not_or, Nat.not_lt, Bool.not_eq_true, not_not] at hbad
      obtain ⟨hid, rfl, hsold, hcount, -⟩ := hbad
      obtain ⟨rfl, rfl⟩ := Prod.mk.inj (Option.some.inj h)
      refine ⟨rfl, hid, rfl, rfl, ?_⟩
      have hsame : ((m.listing itemSlot).taken count).itemId = (m.listing itemSlot).itemId := rfl
      rw [restoreMerchantBuy_eq (not_le.mp hslot) (Market.listing_setListing (not_le.mp hslot)) hsame,
        Market.setListing_setListing]
      exact Market.setListing_listing (not_le.mp hslot)
        (restored_taken (m.listing_lt itemSlot) hid hsold hcount)

theorem cashLose_spec {t t' : Trader} {amount : ℕ} (h : cashLose t amount = some t') :
    t'.inventory = t.inventory ∧ t'.gold = t.gold := by
  unfold cashLose at h
  split_ifs at h <;> obtain rfl := Option.some.inj h <;> exact ⟨rfl, rfl⟩

/-- What the payment moves: Knight Cash leaves the gold as it is; otherwise the price goes over
in full, since the cap on the seller's gold is below the saturation. -/
theorem payMerchant_spec {isKc : Bool} {price count : ℕ}
    (h : payMerchant ctx isKc (saturatingMul32 price count) m = some m') :
    m'.seller.inventory = m.seller.inventory ∧ m'.buyer.inventory = m.buyer.inventory ∧
      m'.buyer.gold + (if isKc then 0 else price * count) = m.buyer.gold ∧
      m'.seller.gold = m.seller.gold + (if isKc then 0 else price * count) := by
  unfold payMerchant at h
  cases isKc with
  | true =>
    rw [if_pos rfl] at h
    split at h
    · cases h
    · next buyer hbuyer =>
      obtain rfl := Option.some.inj h
      obtain ⟨hinv, hgold⟩ := cashLose_spec hbuyer
      refine ⟨?_, hinv, hgold, ?_⟩
      · dsimp only
        split_ifs <;> rfl
      · rw [if_pos rfl, Nat.add_zero]
        dsimp only
        split_ifs <;> rfl
  | false =>
    rw [if_neg (by decide)] at h
    split_ifs at h with hchar hpoor hrich
    split at h
    · cases h
    · next gold hlose =>
      obtain rfl := Option.some.inj h
      have hcoin : COIN_MAX = 2100000000 := rfl
      have hprice : saturatingMul32 price count = price * count := by
        unfold saturatingMul32 at hrich ⊢
        omega
      rw [hprice] at hpoor hrich hlose
      unfold goldLose at hlose
      rw [if_pos (not_lt.mp hpoor)] at hlose
      obtain rfl := Option.some.inj hlose
      refine ⟨rfl, rfl, Nat.sub_add_cancel (not_lt.mp hpoor), ?_⟩
      simp only [hprice, goldGain, if_neg hrich, Bool.false_eq_true, if_false]

/-- What a purchase does to the two players, with the parts that the cases differ in as the
code names them. -/
structure Accepted (ctx : BuyContext) (m : Market) (req : BuyRequest) (m' : Market) : Prop where
  positive : 0 < req.itemCount
  itemId_ne : req.itemId ≠ 0
  goods : GoodsPresent m req
  destFits : (m.buyer.inventory.slot (destSlot req)).itemId = 0 ∨
    (m.buyer.inventory.slot (destSlot req)).itemId = req.itemId
  sellerInventory : m'.seller.inventory =
    handOver (fullySold ctx (m.listing req.itemSlot) req) m.seller.inventory (soldSlot m req) req
  buyerInventory : m'.buyer.inventory =
    receiveGoods m.buyer.inventory (destSlot req) req (m.listing req.itemSlot)
  buyerGold : m'.buyer.gold +
    (if (m.listing req.itemSlot).isKc then 0 else purchasePrice m req) = m.buyer.gold
  sellerGold : m'.seller.gold =
    m.seller.gold + (if (m.listing req.itemSlot).isKc then 0 else purchasePrice m req)

/-- A purchase is refused and leaves everything, or it is accepted. -/
theorem merchantItemBuy_spec (ctx : BuyContext) (m : Market) (req : BuyRequest) :
    merchantItemBuy ctx m req = (false, m) ∨
      ∃ m', merchantItemBuy ctx m req = (true, m') ∧ Accepted ctx m req m' := by
  unfold merchantItemBuy
  split
  · exact Or.inl rfl
  next hrefused =>
  split
  · exact Or.inl rfl
  next merch taken htake =>
  obtain ⟨hmerch, hid, hseller, hbuyer, hrestore⟩ := tryMerchantBuy_spec htake
  dsimp only
  split
  · rw [hrestore]
    exact Or.inl rfl
  next paid hpay =>
  obtain ⟨-, hpos, hgoods, hfits⟩ := not_buyRefused (Bool.eq_false_iff.mpr hrefused)
  obtain ⟨hsellerInv, hbuyerInv, hbuyerGold, hsellerGold⟩ := payMerchant_spec hpay
  rw [hseller] at hsellerInv hsellerGold
  rw [hbuyer] at hbuyerInv hbuyerGold
  subst hmerch
  refine Or.inr ⟨_, rfl, hpos, hid, hgoods, hfits, ?_, ?_, hbuyerGold, ?_⟩
  · show handOver _ paid.seller.inventory _ _ = _
    rw [hsellerInv]
    rfl
  · show receiveGoods paid.buyer.inventory _ _ _ = _
    rw [hbuyerInv]
    rfl
  · exact hsellerGold

/-- The buyer can pay, and the seller can take the pay. -/
def Payable (ctx : BuyContext) (m : Market) (req : BuyRequest) : Prop :=
  if (m.listing req.itemSlot).isKc then
    saturatingMul32 (m.listing req.itemSlot).price req.itemCount ≤ m.buyer.knightCash
  else ctx.buyerCharacter = true ∧ purchasePrice m req ≤ m.buyer.gold ∧
    m.seller.gold + purchasePrice m req ≤ COIN_MAX

structure PurchaseAllowed (ctx : BuyContext) (m : Market) (req : BuyRequest) : Prop where
  checked : buyRefused ctx m req = false
  itemId_ne : req.itemId ≠ 0
  payable : Payable ctx m req

theorem cashLose_isSome {t : Trader} {amount : ℕ} :
    (cashLose t amount).isSome = true ↔ amount ≤ t.knightCash := by
  unfold cashLose
  split_ifs with hzero hpoor
  · simp [hzero]
  · simpa using hpoor
  · simpa using hpoor

theorem payMerchant_isSome {isKc : Bool} {price count : ℕ} :
    (payMerchant ctx isKc (saturatingMul32 price count) m).isSome = true ↔
      if isKc then saturatingMul32 price count ≤ m.buyer.knightCash
      else ctx.buyerCharacter = true ∧ price * count ≤ m.buyer.gold ∧
        m.seller.gold + price * count ≤ COIN_MAX := by
  unfold payMerchant
  cases isKc with
  | true =>
    simp only [if_true]
    rw [← cashLose_isSome]
    cases cashLose m.buyer (saturatingMul32 price count) <;> simp
  | false =>
    have hcoin : COIN_MAX = 2100000000 := rfl
    simp only [Bool.false_eq_true, if_false]
    split_ifs with hchar hpoor hrich
    · simp at hchar
      simp [hchar]
    · simp only [Option.isSome_none, Bool.false_eq_true, false_iff, not_and]
      unfold saturatingMul32 at hpoor
      omega
    · simp only [Option.isSome_none, Bool.false_eq_true, false_iff, not_and]
      unfold saturatingMul32 at hrich
      omega
    · have hprice : saturatingMul32 price count = price * count := by
        unfold saturatingMul32 at hrich ⊢
        omega
      rw [hprice] at hpoor hrich
      unfold goldLose
      rw [hprice, if_pos (not_lt.mp hpoor)]
      simp at hchar
      simp [hchar, not_lt.mp hpoor, not_lt.mp hrich]

/-- What the checks let through can be taken from the listing, unless it is item 0. -/
theorem tryMerchantBuy_isSome (h : buyRefused ctx m req = false) :
    (tryMerchantBuy m req.itemSlot req.itemId req.itemCount).isSome = true ↔ req.itemId ≠ 0 := by
  obtain ⟨hslot, -, hgoods, -⟩ := not_buyRefused h
  unfold tryMerchantBuy
  rw [if_neg (not_le.mpr hslot)]
  simp [hgoods.listed, hgoods.unsold, hgoods.priced, not_lt.mpr hgoods.stocked]

theorem merchantItemBuy_succeeds_iff :
    (merchantItemBuy ctx m req).1 = true ↔ PurchaseAllowed ctx m req := by
  unfold merchantItemBuy
  cases hrefused : buyRefused ctx m req with
  | true => simpa using fun h : PurchaseAllowed ctx m req => by simpa [hrefused] using h.checked
  | false =>
    have hsome := tryMerchantBuy_isSome hrefused
    rw [if_neg (by decide)]
    cases htake : tryMerchantBuy m req.itemSlot req.itemId req.itemCount with
    | none =>
      rw [htake] at hsome
      simpa using fun h : PurchaseAllowed ctx m req => by simpa using hsome.mpr h.itemId_ne
    | some result =>
      obtain ⟨merch, taken⟩ := result
      obtain ⟨rfl, hid, hseller, hbuyer, -⟩ := tryMerchantBuy_spec htake
      have hpay := @payMerchant_isSome ctx taken (m.listing req.itemSlot).isKc
        (m.listing req.itemSlot).price req.itemCount
      rw [hseller, hbuyer] at hpay
      have hallowed : PurchaseAllowed ctx m req ↔ Payable ctx m req :=
        ⟨fun h => h.payable, fun h => ⟨hrefused, hid, h⟩⟩
      rw [hallowed, Payable, purchasePrice, ← hpay]
      dsimp only
      split <;> simp_all

/-- The item and the gold that a purchase moves, and that it moves nothing else. -/
structure Exchanged (m : Market) (req : BuyRequest) (m' : Market) : Prop where
  sellerLoses : ∃ k, holds m.seller.inventory (soldSlot m req) req.itemId (k + req.itemCount) ∧
    holds m'.seller.inventory (soldSlot m req) req.itemId k
  buyerGains : ∃ k, holds m.buyer.inventory (destSlot req) req.itemId k ∧
    holds m'.buyer.inventory (destSlot req) req.itemId (k + req.itemCount)
  buyerPays : m'.buyer.gold + purchasePrice m req = m.buyer.gold
  sellerIsPaid : m'.seller.gold = m.seller.gold + purchasePrice m req
  sellerRest : sameBut (soldSlot m req) m.seller.inventory m'.seller.inventory
  buyerRest : sameBut (destSlot req) m.buyer.inventory m'.buyer.inventory

/-- The purchases that conserve goods: the bag reaches to the destination, which has room for
the units, and a listing that runs out takes the owner's whole stack with it. -/
structure FairPurchase (ctx : BuyContext) (m : Market) (req : BuyRequest) : Prop where
  inBag : destSlot req < m.buyer.inventory.length
  clean : (m.buyer.inventory.slot (destSlot req)).itemId = 0 →
    (m.buyer.inventory.slot (destSlot req)).count = 0
  room : (m.buyer.inventory.slot (destSlot req)).count + req.itemCount ≤ ITEMCOUNT_MAX
  whole : fullySold ctx (m.listing req.itemSlot) req = true →
    (m.seller.inventory.slot (soldSlot m req)).count = req.itemCount

theorem sameBut_handOver (fully : Bool) (inv : Inventory) (pos : ℕ) :
    sameBut pos inv (handOver fully inv pos req) := by
  unfold handOver
  dsimp only
  split_ifs
  · exact sameBut_set _ _ _
  · exact sameBut_set _ _ _
  · exact sameBut_set _ _ _
  · exact sameBut_refl _ _

theorem sameBut_receiveGoods (inv : Inventory) (dest : ℕ) (merch : MerchData) :
    sameBut dest inv (receiveGoods inv dest req merch) := by
  unfold receiveGoods
  dsimp only
  split_ifs
  · exact sameBut_refl _ _
  · exact sameBut_set _ _ _
  · exact sameBut_set _ _ _

/-- The owner's slot loses what was bought, or all of it. -/
theorem handOver_holds (fully : Bool) {inv : Inventory} {pos : ℕ} (hpos : pos < inv.length)
    (hid : (inv.slot pos).itemId = req.itemId) :
    holds (handOver fully inv pos req) pos req.itemId
      (if fully then 0 else (inv.slot pos).count - req.itemCount) := by
  unfold handOver
  rw [if_pos ⟨hpos, hid⟩]
  dsimp only
  split_ifs with hfully hzero
  · rw [holds, Inventory.slot_set_self hpos]
    exact ⟨rfl, Or.inl rfl⟩
  · rw [holds, Inventory.slot_set_self hpos, hzero]
    exact ⟨rfl, Or.inl rfl⟩
  · rw [holds, Inventory.slot_set_self hpos]
    exact ⟨rfl, Or.inr hid⟩

theorem receiveGoods_slot (req : BuyRequest) (merch : MerchData) {inv : Inventory} {dest : ℕ}
    (hdest : dest < inv.length) :
    ((receiveGoods inv dest req merch).slot dest).itemId = req.itemId ∧
      ((receiveGoods inv dest req merch).slot dest).count =
        min (((inv.slot dest).count + req.itemCount) % 2 ^ 16) ITEMCOUNT_MAX := by
  unfold receiveGoods
  rw [if_neg (not_le.mpr hdest)]
  dsimp only
  rw [Inventory.slot_set_self hdest]
  exact ⟨rfl, rfl⟩

theorem sellerLoses_iff (h : Accepted ctx m req m') :
    (∃ k, holds m.seller.inventory (soldSlot m req) req.itemId (k + req.itemCount) ∧
      holds m'.seller.inventory (soldSlot m req) req.itemId k) ↔
    (fullySold ctx (m.listing req.itemSlot) req = true →
      (m.seller.inventory.slot (soldSlot m req)).count = req.itemCount) := by
  have hrange := h.goods.inRange
  have hid := h.goods.sameItem
  have hcount := h.goods.enough
  have hafter := handOver_holds (fullySold ctx (m.listing req.itemSlot) req) hrange hid
  rw [← h.sellerInventory] at hafter
  constructor
  · rintro ⟨k, hbefore, hk⟩ hfully
    rw [if_pos hfully] at hafter
    have := hbefore.1
    have := hk.1.symm.trans hafter.1
    omega
  · intro hwhole
    refine ⟨_, ?_, hafter⟩
    refine ⟨?_, Or.inr hid⟩
    split_ifs with hfully
    · rw [hwhole hfully, Nat.zero_add]
    · omega

theorem buyerGains_iff (h : Accepted ctx m req m') :
    (∃ k, holds m.buyer.inventory (destSlot req) req.itemId k ∧
      holds m'.buyer.inventory (destSlot req) req.itemId (k + req.itemCount)) ↔
    destSlot req < m.buyer.inventory.length ∧
      ((m.buyer.inventory.slot (destSlot req)).itemId = 0 →
        (m.buyer.inventory.slot (destSlot req)).count = 0) ∧
      (m.buyer.inventory.slot (destSlot req)).count + req.itemCount ≤ ITEMCOUNT_MAX := by
  have hpos := h.positive
  have hmax : ITEMCOUNT_MAX = 9999 := rfl
  rw [h.buyerInventory]
  rcases Nat.lt_or_ge (destSlot req) m.buyer.inventory.length with hdest | hdest
  · obtain ⟨hid, hcount⟩ := receiveGoods_slot req (m.listing req.itemSlot) hdest
    unfold holds
    rw [hid, hcount]
    constructor
    · rintro ⟨k, ⟨hk, hfits⟩, hroom, -⟩
      refine ⟨hdest, fun hempty => ?_, ?_⟩
      · rcases hfits with rfl | hsame
        · exact hk
        · exact absurd (hsame.symm.trans hempty) h.itemId_ne
      · omega
    · rintro ⟨-, hclean, hroom⟩
      refine ⟨_, ⟨rfl, h.destFits.imp hclean id⟩, ?_, Or.inr rfl⟩
      omega
  · have hsame : receiveGoods m.buyer.inventory (destSlot req) req (m.listing req.itemSlot) =
        m.buyer.inventory := if_pos hdest
    rw [hsame]
    constructor
    · rintro ⟨k, hbefore, hafter⟩
      have := hbefore.1.symm.trans hafter.1
      omega
    · rintro ⟨hlt, -⟩
      omega

theorem exchanged_iff (h : Accepted ctx m req m') (hgold : (m.listing req.itemSlot).isKc = false) :
    Exchanged m req m' ↔ FairPurchase ctx m req := by
  have hbuyerGold := h.buyerGold
  have hsellerGold := h.sellerGold
  rw [hgold] at hbuyerGold hsellerGold
  constructor
  · intro hex
    obtain ⟨hbag, hclean, hroom⟩ := (buyerGains_iff h).mp hex.buyerGains
    exact ⟨hbag, hclean, hroom, (sellerLoses_iff h).mp hex.sellerLoses⟩
  · rintro ⟨hbag, hclean, hroom, hwhole⟩
    refine ⟨(sellerLoses_iff h).mpr hwhole, (buyerGains_iff h).mpr ⟨hbag, hclean, hroom⟩,
      hbuyerGold, hsellerGold, ?_, ?_⟩
    · rw [h.sellerInventory]
      exact sameBut_handOver _ _ _
    · rw [h.buyerInventory]
      exact sameBut_receiveGoods _ _ _

/-- A refused purchase changes nothing, and one for gold moves goods and gold exactly. -/
def PurchaseConserves (ctx : BuyContext) (m : Market) (req : BuyRequest) : Prop :=
  ((m.listing req.itemSlot).isKc = false → (merchantItemBuy ctx m req).1 = true →
    Exchanged m req (merchantItemBuy ctx m req).2) ∧
  ((merchantItemBuy ctx m req).1 = false → (merchantItemBuy ctx m req).2 = m)

theorem purchaseConserves_iff (ctx : BuyContext) (m : Market) (req : BuyRequest) :
    PurchaseConserves ctx m req ↔
      ((m.listing req.itemSlot).isKc = false → PurchaseAllowed ctx m req →
        FairPurchase ctx m req) := by
  rw [← merchantItemBuy_succeeds_iff]
  unfold PurchaseConserves
  rcases merchantItemBuy_spec ctx m req with hrefused | ⟨m', haccepted, h⟩
  · simp [hrefused]
  · rw [haccepted]
    simp only [reduceCtorEq, false_implies, and_true, true_implies]
    exact forall_congr' (exchanged_iff h)

end Purchase

section Runs

inductive MarketStep where
  | add (ctx : AddContext) (req : AddRequest)
  | buy (ctx : BuyContext) (req : BuyRequest)

def marketStep (m : Market) : MarketStep → Market
  | .add ctx req => merchantItemAdd ctx m req
  | .buy ctx req => (merchantItemBuy ctx m req).2

def FairStep (m : Market) : MarketStep → Prop
  | .add _ _ => True
  | .buy ctx req => PurchaseAllowed ctx m req → FairPurchase ctx m req

def Market.goods (m : Market) (id : ℕ) : ℕ := stock id m.seller.inventory + stock id m.buyer.inventory

def Market.coins (m : Market) : ℕ := m.seller.gold + m.buyer.gold

theorem stock_setMerchantFlag (inv : Inventory) (slot id : ℕ) :
    stock id (setMerchantFlag inv slot) = stock id inv := by
  unfold setMerchantFlag
  rcases Nat.lt_or_ge slot inv.length with h | h
  · have hset := Tally.total_set (stack id) h
      { inv.slot slot with flag := (inv.slot slot).flag ||| MERCHANT_FLAG } {}
    exact Nat.add_right_cancel hset
  · rw [List.set_eq_of_length_le h]

theorem merchantItemAdd_conserves (ctx : AddContext) (m : Market) (req : AddRequest) :
    (∀ id, (merchantItemAdd ctx m req).goods id = m.goods id) ∧
      (merchantItemAdd ctx m req).coins = m.coins := by
  unfold merchantItemAdd
  split_ifs
  · exact ⟨fun _ => rfl, rfl⟩
  · exact ⟨fun _ => rfl, rfl⟩
  · exact ⟨fun id => congrArg (· + _) (stock_setMerchantFlag _ _ id), rfl⟩

theorem merchantItemBuy_conserves {ctx : BuyContext} {m : Market} {req : BuyRequest}
    (hfair : PurchaseAllowed ctx m req → FairPurchase ctx m req) :
    (∀ id, (merchantItemBuy ctx m req).2.goods id = m.goods id) ∧
      (merchantItemBuy ctx m req).2.coins = m.coins := by
  rw [← merchantItemBuy_succeeds_iff] at hfair
  rcases merchantItemBuy_spec ctx m req with hrefused | ⟨m', haccepted, h⟩
  · rw [hrefused]
    exact ⟨fun _ => rfl, rfl⟩
  · rw [haccepted] at hfair ⊢
    obtain ⟨hbag, hclean, hroom, hwhole⟩ := hfair rfl
    obtain ⟨k, hseller, hseller'⟩ := (sellerLoses_iff h).mpr hwhole
    obtain ⟨l, hbuyer, hbuyer'⟩ := (buyerGains_iff h).mpr ⟨hbag, hclean, hroom⟩
    have hsellerRest : sameBut (soldSlot m req) m.seller.inventory m'.seller.inventory :=
      h.sellerInventory ▸ sameBut_handOver _ _ _
    have hbuyerRest : sameBut (destSlot req) m.buyer.inventory m'.buyer.inventory :=
      h.buyerInventory ▸ sameBut_receiveGoods _ _ _
    refine ⟨fun id => ?_, ?_⟩
    · have hlost := stock_of_holds h.goods.inRange hsellerRest hseller hseller' id
      have hgained := stock_of_holds hbag hbuyerRest hbuyer hbuyer' id
      show stock id m'.seller.inventory + stock id m'.buyer.inventory = _
      unfold Market.goods
      split_ifs at hlost hgained <;> omega
    · have hpaid := h.buyerGold
      have hearned := h.sellerGold
      show m'.seller.gold + m'.buyer.gold = m.seller.gold + m.buyer.gold
      omega

theorem marketStep_conserves {m : Market} {s : MarketStep} (h : FairStep m s) :
    (∀ id, (marketStep m s).goods id = m.goods id) ∧ (marketStep m s).coins = m.coins := by
  cases s with
  | add ctx req => exact merchantItemAdd_conserves ctx m req
  | buy ctx req => exact merchantItemBuy_conserves h

end Runs

/-- A purchase is exact just when it is fair or not let through, and over a run of listings and
fair purchases the two players together keep every item and all gold. -/
theorem merchant_conserves_iff (ctx : BuyContext) (m : Market) (req : BuyRequest) :
    (PurchaseConserves ctx m req ↔
      ((m.listing req.itemSlot).isKc = false → PurchaseAllowed ctx m req →
        FairPurchase ctx m req)) ∧
    ∀ steps, Run.Along marketStep FairStep m steps →
      (∀ id, (Run.run marketStep m steps).goods id = m.goods id) ∧
        (Run.run marketStep m steps).coins = m.coins := by
  refine ⟨purchaseConserves_iff ctx m req, fun steps hfair => ⟨fun id => ?_, ?_⟩⟩
  · exact Run.conserved (fun _ => True) (fun m => m.goods id)
      (fun _ _ _ h => ⟨trivial, (marketStep_conserves h).1 id⟩) hfair trivial
  · exact Run.conserved (fun _ => True) Market.coins
      (fun _ _ _ h => ⟨trivial, (marketStep_conserves h).2⟩) hfair trivial

/-! A hundred potions in the owner's first bag slot, and a customer with an empty bag. -/

def stallTable : ItemTable := fun id =>
  if id = 389010000 then some { countable := some 1 } else none

def potionStall : Market where
  seller := { inventory := List.replicate SLOT_MAX {} ++ [{ itemId := 389010000, count := 100 }]
              gold := 0, knightCash := 0 }
  merchantItems := List.replicate MAX_MERCH_ITEMS {}
  items_length := rfl
  sellCount_lt := by decide
  drGmTotalSold := 0
  buyer := { inventory := List.replicate INVENTORY_TOTAL {}, gold := 1000, knightCash := 0 }

def preparing : AddContext where
  table := stallTable
  sellingMerchantPreparing := true
  buyingMerchantPreparing := false
  merchantMinCash := 0

def atTheStall : BuyContext where
  table := stallTable
  browsing := true
  ownShop := false
  buyerBusy := false
  sellingMerchant := true
  sellingMerchantPreparing := false
  sameZone := true
  inRange := true
  itemWeight := 0
  maxWeight := 1000
  buyerCharacter := true
  sellerOffline := false

def listPotions (count : ℕ) (h : count < 2 ^ 16) : AddRequest where
  itemId := 389010000
  count := count
  count_lt := h
  gold := 5
  srcPos := 0
  dstPos := 0
  isKc := 0

def buyPotions (count : ℕ) : BuyRequest where
  itemId := 389010000
  itemCount := count
  itemSlot := 0
  destSlot := 0

/-- The whole stack is listed, and bought in two parts. -/
theorem merchant_conserves_two_parts :
    (Run.run marketStep potionStall [.add preparing (listPotions 100 (by decide)),
      .buy atTheStall (buyPotions 40), .buy atTheStall (buyPotions 60)]).coins = 1000 := by
  have h := ((merchant_conserves_iff atTheStall potionStall (buyPotions 40)).2
    [.add preparing (listPotions 100 (by decide)),
      .buy atTheStall (buyPotions 40), .buy atTheStall (buyPotions 60)] ?_).2
  · exact h
  · refine ⟨trivial, fun _ => ⟨?_, ?_, ?_, ?_⟩, fun _ => ⟨?_, ?_, ?_, ?_⟩, trivial⟩ <;>
      decide +kernel

/-- Ten of the hundred are listed and bought, and the other ninety go with them. -/
theorem listed_part_wipes_stack :
    (merchantItemBuy atTheStall
      (merchantItemAdd preparing potionStall (listPotions 10 (by decide))) (buyPotions 10)).1 = true ∧
    ¬ PurchaseConserves atTheStall
      (merchantItemAdd preparing potionStall (listPotions 10 (by decide))) (buyPotions 10) := by
  refine ⟨by decide +kernel, fun h => ?_⟩
  obtain ⟨k, ⟨hbefore, -⟩, ⟨hafter, -⟩⟩ :=
    (h.1 (by decide +kernel) (by decide +kernel)).sellerLoses
  have hstack : 100 = k + 10 := hbefore
  have hwiped : 0 = k := hafter
  omega

end KoServer
