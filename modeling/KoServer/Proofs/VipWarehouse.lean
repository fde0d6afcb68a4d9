import KoServer.Lib.Run
import KoServer.Proofs.ClanStorage
import KoServer.Spec.VipWarehouse

/-! What a request can do to the VIP vault: which requests act at all, and how. -/

namespace KoServer

variable {table : ItemTable} {env : VipEnv} {s : VipSession} {item : Item}
  {src dst : UserItemSlot} {req : VipItemRequest}

/-- In game, alive and not busy with something else. -/
def VipEnv.admits (env : VipEnv) : Prop :=
  env.inGame = true ∧ env.isPlayerDead = false ∧ env.busy = false

structure StoreAllowed (table : ItemTable) (env : VipEnv) (s : VipSession) (req : VipItemRequest)
    (item : Item) (src : UserItemSlot) : Prop where
  admitted : env.admits
  keyed : s.vipVaultExpiry ≠ 0
  active : env.now ≤ s.vipVaultExpiry
  page : req.page ≤ 1
  counted : req.count ≠ 0
  storable : ¬ (req.itemId = ITEM_GOLD ∨
    ITEM_NO_TRADE_MIN ≤ req.itemId ∧ req.itemId ≤ ITEM_NO_TRADE_MAX)
  known : table req.itemId = some item
  countable : item.countableD ≠ 2
  srcPos_lt : req.srcPos < HAVE_MAX
  vipIdx_lt : req.referencePos + req.dstPos < VIPWAREHOUSE_MAX
  src_eq : s.inventory[SLOT_MAX + req.srcPos]? = some src
  holds : src.itemId = req.itemId
  unlocked : ¬ (src.flag = ITEM_FLAG_RENTED ∨ src.flag = ITEM_FLAG_SEALED ∨
    src.flag = ITEM_FLAG_DUPLICATE ∨ src.expireTime > 0)
  unique : ¬ ((s.vipSlot (req.referencePos + req.dstPos)).itemId ≠ 0 ∧
    item.kindD = ITEM_KIND_UNIQUE ∧ item.countableD = 0)
  enough : req.count ≤ src.count
  free : destinationTaken item src (s.vipSlot (req.referencePos + req.dstPos)) = false

structure FetchAllowed (table : ItemTable) (env : VipEnv) (s : VipSession) (req : VipItemRequest)
    (item : Item) (dst : UserItemSlot) : Prop where
  admitted : env.admits
  page : req.page ≤ 1
  counted : req.count ≠ 0
  notGold : req.itemId ≠ ITEM_GOLD
  vipIdx_lt : req.referencePos + req.srcPos < VIPWAREHOUSE_MAX
  known : table req.itemId = some item
  dstPos_lt : req.dstPos < HAVE_MAX
  weight : env.checkWeight table s.inventory req.itemId req.count = true
  dst_eq : s.inventory[SLOT_MAX + req.dstPos]? = some dst
  holds : (s.vipSlot (req.referencePos + req.srcPos)).itemId = req.itemId
  enough : req.count ≤ (s.vipSlot (req.referencePos + req.srcPos)).count
  free : destinationTaken item (s.vipSlot (req.referencePos + req.srcPos)) dst = false

def storeDone (env : VipEnv) (s : VipSession) (req : VipItemRequest) (item : Item)
    (src : UserItemSlot) : VipSession :=
  let vipSlotIdx := req.referencePos + req.dstPos
  s.setItems (s.inventory.set (SLOT_MAX + req.srcPos) (vipSource item req.count src)) vipSlotIdx
    (storedItem item req.count env.nextItemSerial src (vipCleared (s.vipSlot vipSlotIdx)))

def fetchDone (env : VipEnv) (s : VipSession) (req : VipItemRequest) (item : Item)
    (dst : UserItemSlot) : VipSession :=
  let vipSlotIdx := req.referencePos + req.srcPos
  let src := s.vipSlot vipSlotIdx
  s.setItems (s.inventory.set (SLOT_MAX + req.dstPos)
      (storedItem item req.count env.nextItemSerial src dst))
    vipSlotIdx (vipSource item req.count (vipCleared src))

/-- The requests that change the vault or the PIN, but for moves within the vault. -/
def VipActs (table : ItemTable) (env : VipEnv) (s : VipSession) : VipRequest → Prop
  | .invenToStorage req => ∃ item src, StoreAllowed table env s req item src
  | .storageToInven req => ∃ item dst, FetchAllowed table env s req item dst
  | .setPassword password => env.admits ∧ isValidPin password = true
  | .cancelPassword => env.admits
  | .changePassword password => env.admits ∧ isValidPin password = true
  | _ => False

inductive VipEffect (table : ItemTable) (env : VipEnv) (s : VipSession) :
    VipRequest → VipAnswer × VipSession → Prop
  | unchanged {req : VipRequest} (answer : VipAnswer) (h : ¬ VipActs table env s req) :
      VipEffect table env s req (answer, s)
  | stored {req : VipItemRequest} {item : Item} {src : UserItemSlot}
      (h : StoreAllowed table env s req item src) :
      VipEffect table env s (.invenToStorage req)
        (some (VIP_INVEN_TO_STORAGE, 1), storeDone env s req item src)
  | fetched {req : VipItemRequest} {item : Item} {dst : UserItemSlot}
      (h : FetchAllowed table env s req item dst) :
      VipEffect table env s (.storageToInven req)
        (some (VIP_STORAGE_TO_INVEN, 1), fetchDone env s req item dst)
  | moved {req : VipItemRequest} (hsrc : req.srcPos < VIPWAREHOUSE_MAX)
      (hdst : req.dstPos < VIPWAREHOUSE_MAX) (hempty : (s.vipSlot req.dstPos).itemId = 0) :
      VipEffect table env s (.storageToStore req) (some (VIP_STORAGE_TO_STORE, 1),
        (s.setItems s.inventory req.dstPos (s.vipSlot req.srcPos)).setItems s.inventory
          req.srcPos {})
  | swapped {req : VipItemRequest} (hsrc : SLOT_MAX + req.srcPos < s.inventory.length)
      (hdst : SLOT_MAX + req.dstPos < s.inventory.length) :
      VipEffect table env s (.invenToInven req) (some (VIP_INVEN_TO_INVEN, 1),
        { s with inventory := s.inventory.swap (SLOT_MAX + req.srcPos) (SLOT_MAX + req.dstPos) })
  | keyed {req : VipItemRequest} (inventory : Inventory) (expiry : ℕ) :
      VipEffect table env s (.useVault req) (some (VIP_USE_VAULT, 1),
        { s with inventory := inventory, vipVaultExpiry := expiry })
  | set {password : List Char} (h : env.admits) (hpin : isValidPin password = true) :
      VipEffect table env s (.setPassword password)
        (some (VIP_SET_PASSWORD, 1), s.setVipPassword password 1)
  | cancelled (h : env.admits) :
      VipEffect table env s .cancelPassword (some (VIP_CANCEL_PASSWORD, 1), s.setVipPassword [] 0)
  | changed {password : List Char} (h : env.admits) (hpin : isValidPin password = true) :
      VipEffect table env s (.changePassword password)
        (some (VIP_CHANGE_PASSWORD, 1), s.setVipPassword password s.vipPasswordRequest)

theorem vipInvenToStorage_cases (hadmits : env.admits) (hkeyed : s.vipVaultExpiry ≠ 0) :
    vipInvenToStorage table env s req = (2, s) ∧
        ¬ (∃ item src, StoreAllowed table env s req item src) ∨
      ∃ item src, StoreAllowed table env s req item src ∧
        vipInvenToStorage table env s req = (1, storeDone env s req item src) := by
  by_cases h : ∃ item src, StoreAllowed table env s req item src
  · obtain ⟨item, src, h⟩ := h
    refine Or.inr ⟨item, src, h, ?_⟩
    have hclosure : storeVip item req.itemId req.count env.nextItemSerial src
        (s.vipSlot (req.referencePos + req.dstPos)) =
          some (vipSource item req.count src, storedItem item req.count env.nextItemSerial src
            (vipCleared (s.vipSlot (req.referencePos + req.dstPos)))) := by
      unfold storeVip
      rw [if_neg (not_not.mpr h.holds), if_neg h.unlocked, if_neg h.unique, h.free,
        if_neg (by have := h.enough; simp only [Bool.false_eq_true, or_false]; omega)]
    unfold vipInvenToStorage
    rw [if_neg (by have := h.active; omega),
      if_neg (by have := h.page; have := h.counted; omega), if_neg h.storable, h.known]
    dsimp only
    rw [if_neg h.countable, if_neg (by have := h.srcPos_lt; have := h.vipIdx_lt; omega), h.src_eq]
    dsimp only
    rw [hclosure]
    rfl
  · refine Or.inl ⟨?_, h⟩
    unfold vipInvenToStorage
    split_ifs with hactive hpage hstorable
    · rfl
    · rfl
    · rfl
    cases hknown : table req.itemId with
    | none => rfl
    | some item =>
      dsimp only
      split_ifs with hcountable hinside
      · rfl
      · rfl
      cases hsrc : s.inventory[SLOT_MAX + req.srcPos]? with
      | none => rfl
      | some src =>
        dsimp only
        unfold storeVip
        split_ifs with hholds hlocked hunique htaken
        · rfl
        · rfl
        · rfl
        · rfl
        · rw [not_or, Bool.not_eq_true] at htaken
          exact absurd ⟨item, src, hadmits, hkeyed, by omega, by omega, by omega, hstorable, hknown,
            hcountable, by omega, by omega, hsrc, not_not.mp hholds, hlocked, hunique, by omega,
            htaken.2⟩ h

theorem vipStorageToInven_cases (hadmits : env.admits) :
    (∃ code, vipStorageToInven table env s req = (code, s)) ∧
        ¬ (∃ item dst, FetchAllowed table env s req item dst) ∨
      ∃ item dst, FetchAllowed table env s req item dst ∧
        vipStorageToInven table env s req = (1, fetchDone env s req item dst) := by
  by_cases h : ∃ item dst, FetchAllowed table env s req item dst
  · obtain ⟨item, dst, h⟩ := h
    refine Or.inr ⟨item, dst, h, ?_⟩
    have hclosure : fetchVip item req.itemId req.count env.nextItemSerial
        (s.vipSlot (req.referencePos + req.srcPos)) dst =
          some (vipSource item req.count (vipCleared (s.vipSlot (req.referencePos + req.srcPos))),
            storedItem item req.count env.nextItemSerial
              (s.vipSlot (req.referencePos + req.srcPos)) dst) := by
      unfold fetchVip
      rw [if_neg (by have := h.enough; rw [h.holds]; omega), h.free]
      rfl
    unfold vipStorageToInven
    dsimp only
    rw [if_neg (by have := h.page; have := h.counted; omega), if_neg h.notGold,
      if_neg (by have := h.vipIdx_lt; omega), h.known]
    dsimp only
    rw [if_neg (by have := h.dstPos_lt; omega), h.weight, h.dst_eq]
    dsimp only
    rw [hclosure]
    rfl
  · refine Or.inl ⟨?_, h⟩
    unfold vipStorageToInven
    dsimp only
    cases hknown : table req.itemId with
    | none =>
      dsimp only
      split_ifs
      · exact ⟨2, rfl⟩
      · exact ⟨1, rfl⟩
      · exact ⟨2, rfl⟩
      · exact ⟨2, rfl⟩
    | some item =>
      cases hdst : s.inventory[SLOT_MAX + req.dstPos]? with
      | none =>
        dsimp only
        split_ifs
        · exact ⟨2, rfl⟩
        · exact ⟨1, rfl⟩
        · exact ⟨2, rfl⟩
        · exact ⟨2, rfl⟩
        · exact ⟨2, rfl⟩
        · exact ⟨2, rfl⟩
      | some dst =>
        unfold fetchVip
        dsimp only
        split_ifs with hpage hgold hinside hpos hweight hheld htaken
        · exact ⟨2, rfl⟩
        · exact ⟨1, rfl⟩
        · exact ⟨2, rfl⟩
        · exact ⟨2, rfl⟩
        · exact ⟨2, rfl⟩
        · exact ⟨2, rfl⟩
        · exact ⟨2, rfl⟩
        · rw [Bool.not_eq_true] at htaken
          rw [Bool.not_eq_true', Bool.not_eq_false] at hweight
          exact absurd ⟨item, dst, hadmits, by omega, by omega, hgold, by omega, hknown, by omega,
            hweight, hdst, by omega, by omega, htaken⟩ h

theorem vipStorageToStore_effect :
    VipEffect table env s (.storageToStore req) (some (VIP_STORAGE_TO_STORE,
      (vipStorageToStore env s req).1), (vipStorageToStore env s req).2) := by
  unfold vipStorageToStore
  split_ifs with hactive hpage hinside hempty
  · exact .unchanged _ not_false
  · exact .unchanged _ not_false
  · exact .unchanged _ not_false
  · exact .unchanged _ not_false
  · exact .moved (by omega) (by omega) (by omega)

theorem vipInvenToInven_effect :
    VipEffect table env s (.invenToInven req) (some (VIP_INVEN_TO_INVEN,
      (vipInvenToInven s req).1), (vipInvenToInven s req).2) := by
  unfold vipInvenToInven
  dsimp only
  split_ifs with hpage hinside
  · exact .unchanged _ not_false
  · exact .unchanged _ not_false
  · exact .swapped (by omega) (by omega)

theorem vipUseVault_effect :
    VipEffect table env s (.useVault req) (some (VIP_USE_VAULT,
      (vipUseVault env s req).1), (vipUseVault env s req).2) := by
  unfold vipUseVault
  dsimp only
  cases vipKeyDays req.itemId with
  | none =>
    dsimp only
    split_ifs
    · exact .unchanged _ not_false
    · exact .unchanged _ not_false
    · exact .unchanged _ not_false
  | some days =>
    dsimp only
    split_ifs
    · exact .unchanged _ not_false
    · exact .unchanged _ not_false
    · exact .unchanged _ not_false
    · exact .unchanged _ not_false
    · exact .unchanged _ not_false
    · exact .unchanged _ not_false
    · exact .keyed _ _

theorem not_admits_of_rejected (h : (!env.inGame || env.isPlayerDead) = true ∨ env.busy = true) :
    ¬ env.admits := by
  rintro ⟨hgame, halive, hidle⟩
  rw [hgame, halive, hidle] at h
  rcases h with h | h
  · cases h
  · cases h

theorem not_acts_of_not_admits (h : ¬ env.admits) (req : VipRequest) :
    ¬ VipActs table env s req := by
  cases req with
  | invenToStorage req => exact fun ⟨_, _, hallowed⟩ => h hallowed.admitted
  | storageToInven req => exact fun ⟨_, _, hallowed⟩ => h hallowed.admitted
  | setPassword password => exact fun hacts => h hacts.1
  | cancelPassword => exact h
  | changePassword password => exact fun hacts => h hacts.1
  | _ => exact not_false

theorem not_acts_of_expired {req : VipRequest}
    (h : (s.vipVaultExpiry = 0 ∨ s.vipVaultExpiry < env.now) ∧
      (req.opcode = VIP_INVEN_TO_STORAGE ∨ req.opcode = VIP_STORAGE_TO_STORE)) :
    ¬ VipActs table env s req := by
  obtain ⟨hexpired, hopcode⟩ := h
  cases req with
  | invenToStorage req =>
    rintro ⟨item, src, hallowed⟩
    have hkeyed := hallowed.keyed
    have hactive := hallowed.active
    omega
  | storageToInven req =>
    change VIP_STORAGE_TO_INVEN = _ ∨ VIP_STORAGE_TO_INVEN = _ at hopcode
    exact absurd hopcode (by decide)
  | setPassword password =>
    change VIP_SET_PASSWORD = _ ∨ VIP_SET_PASSWORD = _ at hopcode
    exact absurd hopcode (by decide)
  | cancelPassword =>
    change VIP_CANCEL_PASSWORD = _ ∨ VIP_CANCEL_PASSWORD = _ at hopcode
    exact absurd hopcode (by decide)
  | changePassword password =>
    change VIP_CHANGE_PASSWORD = _ ∨ VIP_CHANGE_PASSWORD = _ at hopcode
    exact absurd hopcode (by decide)
  | _ => exact not_false

theorem handleVip_effect (table : ItemTable) (env : VipEnv) (s : VipSession) (req : VipRequest) :
    VipEffect table env s req (handleVip table env s req) := by
  unfold handleVip
  dsimp only
  split_ifs with haway hbusy hexpired
  · exact .unchanged _ (not_acts_of_not_admits (not_admits_of_rejected (Or.inl haway)) req)
  · exact .unchanged _ (not_acts_of_not_admits (not_admits_of_rejected (Or.inr hbusy)) req)
  · exact .unchanged _ (not_acts_of_expired hexpired)
  rw [Bool.or_eq_true, not_or, Bool.not_eq_true', Bool.not_eq_false, Bool.not_eq_true] at haway
  rw [Bool.not_eq_true] at hbusy
  have hadmits : env.admits := ⟨haway.1, haway.2, hbusy⟩
  cases req with
  | «open» npcId password => exact .unchanged _ not_false
  | invenToStorage req =>
    have hkeyed : s.vipVaultExpiry ≠ 0 := fun h => hexpired ⟨Or.inl h, Or.inl rfl⟩
    have hcases : vipInvenToStorage table env s req = (2, s) ∧ _ ∨ _ :=
      vipInvenToStorage_cases hadmits hkeyed
    rcases hcases with ⟨heq, hnone⟩ | ⟨item, src, h, heq⟩
    · dsimp only
      rw [heq]
      exact .unchanged _ hnone
    · dsimp only
      rw [heq]
      exact .stored h
  | storageToInven req =>
    have hcases : (∃ code, vipStorageToInven table env s req = (code, s)) ∧ _ ∨ _ :=
      vipStorageToInven_cases hadmits
    rcases hcases with ⟨⟨code, heq⟩, hnone⟩ | ⟨item, dst, h, heq⟩
    · dsimp only
      rw [heq]
      exact .unchanged _ hnone
    · dsimp only
      rw [heq]
      exact .fetched h
  | storageToStore req => exact vipStorageToStore_effect
  | invenToInven req => exact vipInvenToInven_effect
  | useVault req => exact vipUseVault_effect
  | setPassword password =>
    unfold vipSetPassword
    dsimp only
    split_ifs with hpin
    · exact .unchanged _ fun hacts => by rw [hacts.2] at hpin; cases hpin
    · rw [Bool.not_eq_true', Bool.not_eq_false] at hpin
      exact .set hadmits hpin
  | cancelPassword => exact .cancelled hadmits
  | changePassword password =>
    unfold vipChangePassword
    dsimp only
    split_ifs with hpin
    · exact .unchanged _ fun hacts => by rw [hacts.2] at hpin; cases hpin
    · rw [Bool.not_eq_true', Bool.not_eq_false] at hpin
      exact .changed hadmits hpin
  | enterPassword password => exact .unchanged _ not_false
  | unknown opcode => exact .unchanged _ not_false

def vipStep (table : ItemTable) (s : VipSession) (i : VipEnv × VipRequest) : VipSession :=
  (handleVip table i.1 s i.2).2

def VipSession.inVault (f : UserItemSlot → ℕ) (s : VipSession) : ℕ := Tally.total f s.vipWarehouse

theorem inVault_setItems (f : UserItemSlot → ℕ) (inv : Inventory) {i : ℕ}
    (hi : i < VIPWAREHOUSE_MAX) (a : UserItemSlot) :
    (s.setItems inv i a).inVault f + f (s.vipSlot i) = s.inVault f + f a :=
  Tally.total_set f (s.vipWarehouse_length ▸ hi) a {}

theorem vipSlot_setItems_self (inv : Inventory) {i : ℕ} (hi : i < VIPWAREHOUSE_MAX)
    (a : UserItemSlot) : (s.setItems inv i a).vipSlot i = a :=
  Tally.getD_set_self (s.vipWarehouse_length ▸ hi) a {}

theorem vipSlot_setItems_ne (inv : Inventory) {i j : ℕ} (h : i ≠ j) (a : UserItemSlot) :
    (s.setItems inv i a).vipSlot j = s.vipSlot j :=
  Tally.getD_set_ne h a {}

/-- A move within the vault keeps what nothing but an item weighs. -/
theorem inVault_moved {f : UserItemSlot → ℕ} (hf : ∀ a : UserItemSlot, a.itemId = 0 → f a = 0)
    (inv inv' : Inventory) {i j : ℕ} (hi : i < VIPWAREHOUSE_MAX) (hj : j < VIPWAREHOUSE_MAX)
    (hempty : (s.vipSlot j).itemId = 0) :
    ((s.setItems inv j (s.vipSlot i)).setItems inv' i {}).inVault f = s.inVault f := by
  have hto := inVault_setItems (s := s) f inv hj (s.vipSlot i)
  have hfrom := inVault_setItems (s := s.setItems inv j (s.vipSlot i)) f inv' hi {}
  have hsrc : (s.setItems inv j (s.vipSlot i)).vipSlot i = s.vipSlot i := by
    by_cases hji : j = i
    · subst hji
      exact vipSlot_setItems_self inv hj _
    · exact vipSlot_setItems_ne inv hji _
  rw [hsrc, hf {} rfl] at hfrom
  rw [hf _ hempty] at hto
  omega

/-- What stays of a stack; anything else leaves an empty slot. -/
theorem vipSource_eq {count : ℕ} (h : count ≤ src.count) :
    vipSource item count src =
      if 0 < item.countableD ∧ count < src.count then { src with count := src.count - count }
      else {} := by
  unfold vipSource
  dsimp only
  rw [if_neg (Nat.not_lt.mpr h)]
  by_cases hpos : 0 < item.countableD
  · have hunique : ¬ (item.kindD = ITEM_KIND_UNIQUE ∧ item.countableD = 0) := by omega
    by_cases hall : count < src.count
    · rw [if_pos hpos, if_neg (by omega), if_pos ⟨hpos, hall⟩]
    · rw [if_pos hpos, if_pos (by omega), if_neg (by omega)]
  · rw [if_neg hpos, if_pos (Or.inl rfl), if_neg (by omega)]

theorem vipCleared_of_count {slot : UserItemSlot} (hid : slot.itemId ≠ 0) (h : slot.count ≠ 0) :
    vipCleared slot = slot :=
  if_neg fun hor => hor.elim h hid

theorem vipCleared_count {slot : UserItemSlot} (hid : slot.itemId ≠ 0) :
    (vipCleared slot).count = slot.count := by
  unfold vipCleared
  split_ifs with h
  · exact (h.resolve_right hid).symm
  · rfl

/-- Somebody in game without other business. -/
def idleVip : VipEnv where
  inGame := true
  isPlayerDead := false
  isTrading := false
  isMining := false
  isMerchanting := false
  isFishing := false
  isInNpcRange := fun _ => true
  now := 1000
  itemWeight := 0
  maxWeight := 1000
  nextItemSerial := 1

end KoServer
