import KoServer.Lib.Run
import KoServer.Proofs.ItemMove
import KoServer.Spec.Warehouse

/-! What the inn keeps. INPUT and OUTPUT share one transfer between a bag slot and a
warehouse slot, and it is the only step that may lose or make units: at the stack limit,
onto an empty slot with a count of its own, and for an item whose `countable` is negative. -/

namespace KoServer

variable {table : ItemTable} {item : Item} {src dst : UserItemSlot}

/-- What the destination should hold of a countable item after the transfer. -/
def unitsOwed (item : Item) (count : ℕ) (src dst : UserItemSlot) : ℕ :=
  if 0 < item.countableD then (if dst.itemId = 0 then 0 else dst.count) + count else src.count

def unitsLanded (item : Item) (count : ℕ) (dst : UserItemSlot) : ℕ :=
  min (if 0 < item.countableD then dst.count + count else count) ITEMCOUNT_MAX

theorem nonCountable_iff_of_some {itemId : ℕ} (h : table itemId = some item) :
    nonCountable table itemId = true ↔ item.countableD = 0 := by
  simp [nonCountable, h, Item.countableD]

theorem of_destinationTaken (h : destinationTaken item src dst = false) :
    dst.itemId = 0 ∨ 0 < item.countableD ∧ dst.itemId = src.itemId := by
  simp only [destinationTaken, Bool.and_eq_false_iff, Bool.or_eq_false_iff,
    decide_eq_false_iff_not, not_not, Bool.not_eq_false', decide_eq_true_eq] at h
  exact h

theorem transferItem_landed {count nextSerial : ℕ} :
    (transferItem item count nextSerial src dst).2.count = unitsLanded item count dst := by
  simp only [transferItem, unitsLanded, saturatingAdd16, ITEMCOUNT_MAX, gt_iff_lt,
    decide_eq_true_eq]
  split_ifs
  · omega
  · rfl

/-- What stays of a stack; anything else leaves an empty slot. -/
theorem transferItem_left {count nextSerial : ℕ} :
    (transferItem item count nextSerial src dst).1 =
      if 0 < item.countableD ∧ src.count - count ≠ 0 then
        { src with count := src.count - count }
      else {} := by
  simp only [transferItem, gt_iff_lt, decide_eq_true_eq]
  by_cases hpos : 0 < item.countableD
  · have hne : item.countableD ≠ 0 := by omega
    by_cases hzero : src.count - count = 0
    · simp [hpos, hzero]
    · simp [hpos, hzero, hne]
  · simp [hpos]

theorem transferItem_units {count nextSerial : ℕ} (htable : table src.itemId = some item)
    (hcount : count ≤ src.count) (hfree : destinationTaken item src dst = false) {id : ℕ}
    (hid : id ≠ 0) :
    slotUnits table id (transferItem item count nextSerial src dst).1 +
        slotUnits table id (transferItem item count nextSerial src dst).2 +
        (if id = src.itemId ∧ item.countableD ≠ 0 then unitsOwed item count src dst else 0) =
      slotUnits table id src + slotUnits table id dst +
        (if id = src.itemId ∧ item.countableD ≠ 0 then unitsLanded item count dst else 0) := by
  have hdst := of_destinationTaken hfree
  have harrived : (transferItem item count nextSerial src dst).2.itemId = src.itemId := rfl
  have hempty {s : UserItemSlot} (hs : s.itemId = 0) : slotUnits table id s = 0 :=
    slotUnits_of_empty table hid hs
  rw [transferItem_left]
  by_cases hsrc : id = src.itemId
  · subst hsrc
    have hnon := nonCountable_iff_of_some htable
    by_cases hzero : item.countableD = 0
    · have hone (s : UserItemSlot) (hs : s.itemId = src.itemId) :
          slotUnits table src.itemId s = 1 := by
        rw [slotUnits, if_pos hs, if_pos (hnon.mpr hzero)]
      have hdst0 : dst.itemId = 0 := hdst.resolve_right fun h => by omega
      rw [if_neg (by omega), if_neg (by simp [hzero]), if_neg (by simp [hzero]), hone _ harrived,
        hone src rfl, hempty hdst0, hempty rfl]
    · have hown (s : UserItemSlot) (hs : s.itemId = src.itemId) :
          slotUnits table src.itemId s = s.count := by
        rw [slotUnits, if_pos hs, if_neg fun h => hzero (hnon.mp h)]
      have hmoves : src.itemId = src.itemId ∧ item.countableD ≠ 0 := ⟨rfl, hzero⟩
      rw [if_pos hmoves, if_pos hmoves, hown _ harrived, hown src rfl, transferItem_landed]
      unfold unitsOwed
      by_cases hpos : 0 < item.countableD
      · have hheld : slotUnits table src.itemId dst = if dst.itemId = 0 then 0 else dst.count := by
          split_ifs with h
          · exact hempty h
          · exact hown dst (hdst.resolve_left h).2
        have hleft : slotUnits table src.itemId
            (if 0 < item.countableD ∧ src.count - count ≠ 0 then
              { src with count := src.count - count } else {}) = src.count - count := by
          split_ifs with h
          · exact hown _ rfl
          · rw [hempty rfl]
            omega
        rw [hheld, hleft, if_pos hpos]
        omega
      · have hdst0 : dst.itemId = 0 := hdst.resolve_right fun h => hpos h.1
        have hnot : ¬ (0 < item.countableD ∧ src.count - count ≠ 0) := fun h => hpos h.1
        rw [if_neg hnot, if_neg hpos, hempty hdst0, hempty rfl]
        omega
  · have hother (s : UserItemSlot) (hs : s.itemId = 0 ∨ s.itemId = src.itemId) :
        slotUnits table id s = 0 := by
      rcases hs with hs | hs
      · exact hempty hs
      · exact if_neg (by rw [hs]; exact Ne.symm hsrc)
    have hnot : ¬ (id = src.itemId ∧ item.countableD ≠ 0) := fun h => hsrc h.1
    rw [if_neg hnot, if_neg hnot, hother _ (Or.inr harrived),
      hother src (Or.inr rfl), hother dst (hdst.imp_right And.right)]
    split_ifs
    · exact hother _ (Or.inr rfl)
    · exact hother _ (Or.inl rfl)

/-- The checks of INPUT on an item, on the handler's side and in the closure. -/
structure InputAllowed (s : WarehouseSession) (item : Item) (req : WarehouseRequest) : Prop where
  counted : req.count ≠ 0
  notGold : req.itemId ≠ ITEM_GOLD
  src_lt : req.srcPos < HAVE_MAX
  wh_lt : req.referencePos + req.dstPos < WAREHOUSE_MAX
  tradeable : ¬ (ITEM_NO_TRADE_MIN ≤ req.itemId ∧ req.itemId ≤ ITEM_NO_TRADE_MAX)
  src_len : SLOT_MAX + req.srcPos < s.inventory.length
  holds : (s.inventory.slot (SLOT_MAX + req.srcPos)).itemId = req.itemId
  unlocked : ¬ ((s.inventory.slot (SLOT_MAX + req.srcPos)).flag = ITEM_FLAG_RENTED ∨
    (s.inventory.slot (SLOT_MAX + req.srcPos)).flag = ITEM_FLAG_DUPLICATE ∨
    (s.inventory.slot (SLOT_MAX + req.srcPos)).flag = ITEM_FLAG_SEALED ∨
    (s.inventory.slot (SLOT_MAX + req.srcPos)).expireTime > 0)
  enough : asU16 req.count ≤ (s.inventory.slot (SLOT_MAX + req.srcPos)).count
  free : destinationTaken item (s.inventory.slot (SLOT_MAX + req.srcPos))
    (Inventory.slot s.warehouse (req.referencePos + req.dstPos)) = false

structure OutputAllowed (table : ItemTable) (env : WarehouseEnv) (s : WarehouseSession)
    (item : Item) (req : WarehouseRequest) : Prop where
  counted : req.count ≠ 0
  notGold : req.itemId ≠ ITEM_GOLD
  wh_lt : req.referencePos + req.srcPos < WAREHOUSE_MAX
  dst_lt : req.dstPos < HAVE_MAX
  weight : checkWeight table env s.inventory req.itemId (asU16 req.count) = true
  holds : (Inventory.slot s.warehouse (req.referencePos + req.srcPos)).itemId = req.itemId
  enough : asU16 req.count ≤ (Inventory.slot s.warehouse (req.referencePos + req.srcPos)).count
  dst_len : SLOT_MAX + req.dstPos < s.inventory.length
  free : destinationTaken item (Inventory.slot s.warehouse (req.referencePos + req.srcPos))
    (s.inventory.slot (SLOT_MAX + req.dstPos)) = false

def GoldInputAllowed (s : WarehouseSession) (req : WarehouseRequest) : Prop :=
  req.count ≠ 0 ∧ req.itemId = ITEM_GOLD ∧ req.count ≤ s.gold ∧ s.innCoins + req.count ≤ COIN_MAX

def GoldOutputAllowed (s : WarehouseSession) (req : WarehouseRequest) : Prop :=
  req.count ≠ 0 ∧ req.itemId = ITEM_GOLD ∧ req.count ≤ s.innCoins ∧ s.gold + req.count ≤ COIN_MAX

/-- What a request that fails leaves: at most an array that was shorter is filled up. -/
def Untouched (s s' : WarehouseSession) : Prop :=
  s' = s ∨ s' = { s with warehouse := warehousePadded s.warehouse }

def inputDone (env : WarehouseEnv) (s : WarehouseSession) (item : Item) (req : WarehouseRequest) :
    WarehouseSession :=
  let srcIdx := SLOT_MAX + req.srcPos
  let whIdx := req.referencePos + req.dstPos
  let moved := transferItem item (asU16 req.count) env.nextItemSerial (s.inventory.slot srcIdx)
    (Inventory.slot s.warehouse whIdx)
  { s with
    inventory := s.inventory.set srcIdx moved.1
    warehouse := (warehousePadded s.warehouse).set whIdx moved.2 }

def outputDone (env : WarehouseEnv) (s : WarehouseSession) (item : Item)
    (req : WarehouseRequest) : WarehouseSession :=
  let whIdx := req.referencePos + req.srcPos
  let dstIdx := SLOT_MAX + req.dstPos
  let moved := transferItem item (asU16 req.count) env.nextItemSerial
    (Inventory.slot s.warehouse whIdx) (s.inventory.slot dstIdx)
  { s with
    inventory := s.inventory.set dstIdx moved.2
    warehouse := (warehousePadded s.warehouse).set whIdx moved.1 }

@[simp] theorem slot_warehousePadded (wh : List UserItemSlot) (i : ℕ) :
    Inventory.slot (warehousePadded wh) i = Inventory.slot wh i := by
  unfold Inventory.slot warehousePadded
  rcases Nat.lt_or_ge i wh.length with h | h
  · rw [List.getD_append _ _ _ _ h]
  · rw [List.getD_append_right _ _ _ _ h, List.getD_eq_default _ _ h]
    simp only [List.getD_eq_getElem?_getD, List.getElem?_replicate]
    split <;> rfl

theorem length_warehousePadded (wh : List UserItemSlot) :
    (warehousePadded wh).length = max wh.length WAREHOUSE_MAX := by
  simp [warehousePadded]
  omega

theorem inputItem_of_allowed {s : WarehouseSession} {req : WarehouseRequest} {n : ℕ}
    (h : InputAllowed s item req) :
    inputItem item req.itemId (SLOT_MAX + req.srcPos) (req.referencePos + req.dstPos)
        (asU16 req.count) n s.inventory (warehousePadded s.warehouse) =
      some (s.inventory.set (SLOT_MAX + req.srcPos) (transferItem item (asU16 req.count) n
          (s.inventory.slot (SLOT_MAX + req.srcPos))
          (Inventory.slot s.warehouse (req.referencePos + req.dstPos))).1,
        (warehousePadded s.warehouse).set (req.referencePos + req.dstPos)
          (transferItem item (asU16 req.count) n (s.inventory.slot (SLOT_MAX + req.srcPos))
            (Inventory.slot s.warehouse (req.referencePos + req.dstPos))).2) := by
  have hget : s.inventory[SLOT_MAX + req.srcPos]? =
      some (s.inventory.slot (SLOT_MAX + req.srcPos)) := by
    rw [List.getElem?_eq_getElem h.src_len, Inventory.slot, List.getD_eq_getElem _ _ h.src_len]
  have htaken : ¬ ((s.inventory.slot (SLOT_MAX + req.srcPos)).count < asU16 req.count ∨
      destinationTaken item (s.inventory.slot (SLOT_MAX + req.srcPos))
        (Inventory.slot s.warehouse (req.referencePos + req.dstPos)) = true) := by
    rw [h.free]
    have := h.enough
    simp only [Bool.false_eq_true, or_false, not_lt]
    omega
  simp only [inputItem, hget, slot_warehousePadded]
  rw [if_neg (not_not.mpr h.holds), if_neg h.unlocked, if_neg htaken]

theorem outputItem_of_allowed {env : WarehouseEnv} {s : WarehouseSession}
    {req : WarehouseRequest} {n : ℕ} (h : OutputAllowed table env s item req) :
    outputItem item req.itemId (req.referencePos + req.srcPos) (SLOT_MAX + req.dstPos)
        (asU16 req.count) n s.inventory (warehousePadded s.warehouse) =
      some (s.inventory.set (SLOT_MAX + req.dstPos) (transferItem item (asU16 req.count) n
          (Inventory.slot s.warehouse (req.referencePos + req.srcPos))
          (s.inventory.slot (SLOT_MAX + req.dstPos))).2,
        (warehousePadded s.warehouse).set (req.referencePos + req.srcPos)
          (transferItem item (asU16 req.count) n
            (Inventory.slot s.warehouse (req.referencePos + req.srcPos))
            (s.inventory.slot (SLOT_MAX + req.dstPos))).1) := by
  have hget : s.inventory[SLOT_MAX + req.dstPos]? =
      some (s.inventory.slot (SLOT_MAX + req.dstPos)) := by
    rw [List.getElem?_eq_getElem h.dst_len, Inventory.slot, List.getD_eq_getElem _ _ h.dst_len]
  have hheld : ¬ ((Inventory.slot s.warehouse (req.referencePos + req.srcPos)).itemId ≠ req.itemId ∨
      (Inventory.slot s.warehouse (req.referencePos + req.srcPos)).count < asU16 req.count) := by
    have := h.enough
    rw [h.holds]
    simp only [ne_eq, not_true_eq_false, false_or, not_lt]
    omega
  simp only [outputItem, hget, slot_warehousePadded]
  rw [if_neg hheld, h.free]
  rfl

theorem handleWarehouseInput_item (env : WarehouseEnv) {s : WarehouseSession}
    {req : WarehouseRequest} (htable : table req.itemId = some item)
    (h : InputAllowed s item req) :
    handleWarehouseInput table env s req =
      (.success, (inputDone env s item req).saveWarehouseSlot (req.referencePos + req.dstPos)) := by
  have hbounds : ¬ (HAVE_MAX ≤ req.srcPos ∨ WAREHOUSE_MAX ≤ req.referencePos + req.dstPos) := by
    have := h.src_lt
    have := h.wh_lt
    omega
  simp only [handleWarehouseInput, htable]
  rw [if_neg h.counted, if_neg h.notGold, if_neg hbounds, if_neg h.tradeable,
    inputItem_of_allowed h]
  rfl

theorem handleWarehouseInput_gold (table : ItemTable) (env : WarehouseEnv) {s : WarehouseSession}
    {req : WarehouseRequest} (h : GoldInputAllowed s req) :
    handleWarehouseInput table env s req =
      (.success, { s with
        gold := s.gold - req.count
        innCoins := s.innCoins + req.count
        store := s.store.saveWarehouseCoins (s.innCoins + req.count) }) := by
  obtain ⟨hcount, hid, hgold, hroom⟩ := h
  have hlimits : ¬ (s.gold < req.count ∨ COIN_MAX < s.innCoins + req.count) := by omega
  unfold handleWarehouseInput
  rw [if_neg hcount, if_pos hid, if_neg hlimits]
  rfl

/-- A closure that goes through has checked the rest. -/
theorem inputAllowed_of_some {s : WarehouseSession} {req : WarehouseRequest} {n : ℕ}
    {r : Inventory × List UserItemSlot} (hcount : req.count ≠ 0) (hgold : req.itemId ≠ ITEM_GOLD)
    (hbounds : ¬ (HAVE_MAX ≤ req.srcPos ∨ WAREHOUSE_MAX ≤ req.referencePos + req.dstPos))
    (htrade : ¬ (ITEM_NO_TRADE_MIN ≤ req.itemId ∧ req.itemId ≤ ITEM_NO_TRADE_MAX))
    (h : inputItem item req.itemId (SLOT_MAX + req.srcPos) (req.referencePos + req.dstPos)
      (asU16 req.count) n s.inventory (warehousePadded s.warehouse) = some r) :
    InputAllowed s item req := by
  unfold inputItem at h
  split at h
  · cases h
  · next t ht =>
    obtain rfl := Inventory.slot_of_getElem? ht
    simp only [slot_warehousePadded] at h
    split_ifs at h with hid hlocked htaken
    obtain ⟨hlen, -⟩ := List.getElem?_eq_some_iff.mp ht
    rw [not_or] at htaken
    exact ⟨hcount, hgold, by omega, by omega, htrade, hlen, not_not.mp hid, hlocked, by omega,
      by simpa using htaken.2⟩

theorem handleWarehouseInput_refused (env : WarehouseEnv) {s : WarehouseSession}
    {req : WarehouseRequest}
    (hitem : ∀ item, table req.itemId = some item → ¬ InputAllowed s item req)
    (hgold : ¬ GoldInputAllowed s req) :
    (handleWarehouseInput table env s req).1 = .noAccess ∧
      Untouched s (handleWarehouseInput table env s req).2 := by
  unfold handleWarehouseInput
  dsimp only
  split_ifs with hcount hid hlimits hbounds htrade
  · exact ⟨rfl, Or.inl rfl⟩
  · exact ⟨rfl, Or.inl rfl⟩
  · exact absurd ⟨hcount, hid, by omega, by omega⟩ hgold
  · exact ⟨rfl, Or.inl rfl⟩
  · exact ⟨rfl, Or.inl rfl⟩
  · split
    · exact ⟨rfl, Or.inl rfl⟩
    · next item htable =>
      split
      · exact ⟨rfl, Or.inr rfl⟩
      · next hsome =>
        exact absurd (inputAllowed_of_some hcount hid hbounds htrade hsome) (hitem item htable)

theorem handleWarehouseOutput_item {env : WarehouseEnv} {s : WarehouseSession}
    {req : WarehouseRequest} (htable : table req.itemId = some item)
    (h : OutputAllowed table env s item req) :
    handleWarehouseOutput table env s req =
      (.success, (outputDone env s item req).saveWarehouseSlot (req.referencePos + req.srcPos)) := by
  have hbounds : ¬ (WAREHOUSE_MAX ≤ req.referencePos + req.srcPos ∨ HAVE_MAX ≤ req.dstPos) := by
    have := h.wh_lt
    have := h.dst_lt
    omega
  have hweight : ¬ (!checkWeight table env s.inventory req.itemId (asU16 req.count)) = true := by
    simp [h.weight]
  simp only [handleWarehouseOutput, htable]
  rw [if_neg h.counted, if_neg h.notGold, if_neg hbounds, if_neg hweight,
    outputItem_of_allowed h]
  rfl

theorem handleWarehouseOutput_gold (table : ItemTable) (env : WarehouseEnv) {s : WarehouseSession}
    {req : WarehouseRequest} (h : GoldOutputAllowed s req) :
    handleWarehouseOutput table env s req =
      (.success, { s with
        gold := s.gold + req.count
        innCoins := s.innCoins - req.count
        store := s.store.saveWarehouseCoins (s.innCoins - req.count) }) := by
  obtain ⟨hcount, hid, hcoins, hroom⟩ := h
  have hlimits : ¬ (s.innCoins < req.count ∨ COIN_MAX < s.gold + req.count) := by omega
  have hgain : goldGain s.gold req.count = s.gold + req.count := if_neg (by omega)
  unfold handleWarehouseOutput
  rw [if_neg hcount, if_pos hid, if_neg hlimits, hgain]
  rfl

theorem handleWarehouseOutput_refused {env : WarehouseEnv} {s : WarehouseSession}
    {req : WarehouseRequest}
    (hitem : ∀ item, table req.itemId = some item → ¬ OutputAllowed table env s item req)
    (hgold : ¬ GoldOutputAllowed s req) :
    (handleWarehouseOutput table env s req).1 = .noAccess ∧
      Untouched s (handleWarehouseOutput table env s req).2 := by
  unfold handleWarehouseOutput
  dsimp only
  split_ifs with hcount hid hlimits hbounds hweight
  · exact ⟨rfl, Or.inl rfl⟩
  · exact ⟨rfl, Or.inl rfl⟩
  · exact absurd ⟨hcount, hid, by omega, by omega⟩ hgold
  · exact ⟨rfl, Or.inl rfl⟩
  · split <;> exact ⟨rfl, Or.inl rfl⟩
  · split
    · exact ⟨rfl, Or.inl rfl⟩
    · next item htable =>
      split
      · exact ⟨rfl, Or.inr rfl⟩
      · next hsome =>
        refine absurd ?_ (hitem item htable)
        unfold outputItem at hsome
        simp only [slot_warehousePadded] at hsome
        split_ifs at hsome with hheld
        split at hsome
        · cases hsome
        · next t ht =>
          obtain rfl := Inventory.slot_of_getElem? ht
          split_ifs at hsome with htaken
          obtain ⟨hlen, -⟩ := List.getElem?_eq_some_iff.mp ht
          rw [not_or, not_not] at hheld
          exact ⟨hcount, hid, by omega, by omega, by simpa using hweight, hheld.1, by omega, hlen,
            by simpa using htaken⟩

def MoveAllowed (slots : List UserItemSlot) (itemId srcIdx dstIdx bound : ℕ) : Prop :=
  srcIdx < bound ∧ dstIdx < bound ∧ (Inventory.slot slots srcIdx).itemId = itemId ∧
    (Inventory.slot slots dstIdx).itemId = 0

theorem moveSlot_of_allowed {slots : List UserItemSlot} {itemId srcIdx dstIdx : ℕ}
    (hsrc : (Inventory.slot slots srcIdx).itemId = itemId)
    (hdst : (Inventory.slot slots dstIdx).itemId = 0) :
    moveSlot itemId srcIdx dstIdx slots =
      some ((slots.set dstIdx (Inventory.slot slots srcIdx)).set srcIdx {}) :=
  if_neg (by simp [hsrc, hdst])

theorem moveSlot_some {slots slots' : List UserItemSlot} {itemId srcIdx dstIdx : ℕ}
    (h : moveSlot itemId srcIdx dstIdx slots = some slots') :
    (Inventory.slot slots srcIdx).itemId = itemId ∧ (Inventory.slot slots dstIdx).itemId = 0 := by
  unfold moveSlot at h
  split_ifs at h with hne
  rw [not_or, not_not, not_not] at hne
  exact hne

def moveDone (s : WarehouseSession) (srcIdx dstIdx : ℕ) : WarehouseSession :=
  { s with
    warehouse := ((warehousePadded s.warehouse).set dstIdx
      (Inventory.slot s.warehouse srcIdx)).set srcIdx {} }

theorem handleWarehouseMove_of_allowed {s : WarehouseSession} {req : WarehouseRequest}
    (h : MoveAllowed s.warehouse req.itemId (req.referencePos + req.srcPos)
      (req.referencePos + req.dstPos) WAREHOUSE_MAX) :
    handleWarehouseMove s req = (.success,
      ((moveDone s (req.referencePos + req.srcPos)
        (req.referencePos + req.dstPos)).saveWarehouseSlot
          (req.referencePos + req.srcPos)).saveWarehouseSlot (req.referencePos + req.dstPos)) := by
  obtain ⟨hsrc, hdst, hid, hempty⟩ := h
  have hmove := @moveSlot_of_allowed (warehousePadded s.warehouse) req.itemId
    (req.referencePos + req.srcPos) (req.referencePos + req.dstPos)
  simp only [slot_warehousePadded] at hmove
  simp only [handleWarehouseMove, hmove hid hempty]
  rw [if_neg (by omega)]
  rfl

theorem handleWarehouseMove_refused {s : WarehouseSession} {req : WarehouseRequest}
    (h : ¬ MoveAllowed s.warehouse req.itemId (req.referencePos + req.srcPos)
      (req.referencePos + req.dstPos) WAREHOUSE_MAX) :
    (handleWarehouseMove s req).1 = .noAccess ∧ Untouched s (handleWarehouseMove s req).2 := by
  unfold handleWarehouseMove
  dsimp only
  split_ifs with hbounds
  · exact ⟨rfl, Or.inl rfl⟩
  · split
    · exact ⟨rfl, Or.inr rfl⟩
    · next hsome =>
      obtain ⟨hid, hempty⟩ := moveSlot_some hsome
      rw [slot_warehousePadded] at hid hempty
      exact absurd ⟨by omega, by omega, hid, hempty⟩ h

/-- INVENMOVE moves a bag slot into an empty one, or changes nothing. -/
theorem handleWarehouseInvenmove_cases (s : WarehouseSession) (req : WarehouseRequest) :
    (handleWarehouseInvenmove s req).1 = .noAccess ∧ (handleWarehouseInvenmove s req).2 = s ∨
      ∃ a b, a < s.inventory.length ∧ b < s.inventory.length ∧ (s.inventory.slot b).itemId = 0 ∧
        handleWarehouseInvenmove s req =
          (.success, { s with inventory := (s.inventory.set b (s.inventory.slot a)).set a {} }) := by
  unfold handleWarehouseInvenmove
  dsimp only
  split_ifs with hbounds hlen
  · exact Or.inl ⟨rfl, rfl⟩
  · exact Or.inl ⟨rfl, rfl⟩
  · split
    · exact Or.inl ⟨rfl, rfl⟩
    · next inv hsome =>
      obtain ⟨hid, hempty⟩ := moveSlot_some hsome
      rw [moveSlot_of_allowed hid hempty] at hsome
      obtain rfl := Option.some.inj hsome
      exact Or.inr ⟨SLOT_MAX + req.srcPos, SLOT_MAX + req.dstPos, by omega, by omega, hempty, rfl⟩

/-- An OPEN that gets past the state checks. -/
def opensWarehouse (env : WarehouseEnv) (data : List UInt8) : Bool :=
  !env.busy && !env.genieActive && ((PacketReader.new data).readU8D).1 = WAREHOUSE_OPEN

/-- Any other request that gets past the state checks and the NPC. -/
def receivedInn (env : WarehouseEnv) (data : List UInt8) : Option (ℕ × WarehouseRequest) :=
  let op := (PacketReader.new data).readU8D
  let npc := op.2.readU32D
  if env.busy || env.genieActive || op.1 = WAREHOUSE_OPEN || !env.npcValid npc.1 then none
  else some (op.1, parseWarehouseRequest op.1 npc.2)

theorem handleWarehouse_opens {env : WarehouseEnv} {data : List UInt8}
    (h : opensWarehouse env data = true) (table : ItemTable) (s : WarehouseSession) :
    handleWarehouse table env s data = handleWarehouseOpen env s := by
  simp only [opensWarehouse, Bool.and_eq_true, Bool.not_eq_true', decide_eq_true_eq] at h
  obtain ⟨⟨hbusy, hgenie⟩, hop⟩ := h
  simp [handleWarehouse, hbusy, hgenie, hop]

theorem handleWarehouse_received {env : WarehouseEnv} {data : List UInt8} {op : ℕ}
    {req : WarehouseRequest} (h : receivedInn env data = some (op, req)) (table : ItemTable)
    (s : WarehouseSession) :
    handleWarehouse table env s data =
      if op = WAREHOUSE_INPUT then handleWarehouseInput table env s req
      else if op = WAREHOUSE_OUTPUT then handleWarehouseOutput table env s req
      else if op = WAREHOUSE_MOVE then handleWarehouseMove s req
      else if op = WAREHOUSE_INVENMOVE then handleWarehouseInvenmove s req
      else (.ignored, s) := by
  unfold receivedInn at h
  dsimp only at h
  split_ifs at h with hgate
  obtain ⟨rfl, rfl⟩ := Prod.mk.inj (Option.some.inj h)
  simp only [Bool.or_eq_true, decide_eq_true_eq, Bool.not_eq_true', not_or, Bool.not_eq_true,
    Bool.not_eq_false] at hgate
  obtain ⟨⟨⟨hbusy, hgenie⟩, hop⟩, hnpc⟩ := hgate
  simp [handleWarehouse, hbusy, hgenie, hop, hnpc]

theorem handleWarehouse_dropped {env : WarehouseEnv} {data : List UInt8}
    (hopen : opensWarehouse env data = false) (h : receivedInn env data = none)
    (table : ItemTable) (s : WarehouseSession) :
    (handleWarehouse table env s data).1 ≠ .success ∧
      (handleWarehouse table env s data).2 = s := by
  unfold opensWarehouse at hopen
  unfold receivedInn at h
  dsimp only at h
  split_ifs at h with hgate
  unfold handleWarehouse
  dsimp only
  split_ifs with hbusy hgenie hop hnpc
  · exact ⟨nofun, rfl⟩
  · exact ⟨nofun, rfl⟩
  · simp [hbusy, hgenie, hop] at hopen
  · exact ⟨nofun, rfl⟩
  all_goals simp [hbusy, hgenie, hop, hnpc] at hgate

inductive WarehouseStep (table : ItemTable) (env : WarehouseEnv) (data : List UInt8)
    (s : WarehouseSession) : WarehouseSession → Prop
  | opened (hopen : opensWarehouse env data = true)
      (hpaid : ¬ (isPkZone env.zoneId = true ∧ s.gold < PK_ZONE_WAREHOUSE_COST)) :
      WarehouseStep table env data s (handleWarehouseOpen env s).2
  | inputItem {req : WarehouseRequest} {item : Item}
      (hreq : receivedInn env data = some (WAREHOUSE_INPUT, req))
      (htable : table req.itemId = some item) (h : InputAllowed s item req) :
      WarehouseStep table env data s
        ((inputDone env s item req).saveWarehouseSlot (req.referencePos + req.dstPos))
  | inputGold {req : WarehouseRequest}
      (hreq : receivedInn env data = some (WAREHOUSE_INPUT, req)) (h : GoldInputAllowed s req) :
      WarehouseStep table env data s { s with
        gold := s.gold - req.count
        innCoins := s.innCoins + req.count
        store := s.store.saveWarehouseCoins (s.innCoins + req.count) }
  | outputItem {req : WarehouseRequest} {item : Item}
      (hreq : receivedInn env data = some (WAREHOUSE_OUTPUT, req))
      (htable : table req.itemId = some item) (h : OutputAllowed table env s item req) :
      WarehouseStep table env data s
        ((outputDone env s item req).saveWarehouseSlot (req.referencePos + req.srcPos))
  | outputGold {req : WarehouseRequest}
      (hreq : receivedInn env data = some (WAREHOUSE_OUTPUT, req)) (h : GoldOutputAllowed s req) :
      WarehouseStep table env data s { s with
        gold := s.gold + req.count
        innCoins := s.innCoins - req.count
        store := s.store.saveWarehouseCoins (s.innCoins - req.count) }
  | moved {req : WarehouseRequest}
      (hreq : receivedInn env data = some (WAREHOUSE_MOVE, req))
      (h : MoveAllowed s.warehouse req.itemId (req.referencePos + req.srcPos)
        (req.referencePos + req.dstPos) WAREHOUSE_MAX) :
      WarehouseStep table env data s
        (((moveDone s (req.referencePos + req.srcPos)
          (req.referencePos + req.dstPos)).saveWarehouseSlot
            (req.referencePos + req.srcPos)).saveWarehouseSlot (req.referencePos + req.dstPos))
  | movedInBag {a b : ℕ} (ha : a < s.inventory.length) (hb : b < s.inventory.length)
      (hempty : (s.inventory.slot b).itemId = 0) :
      WarehouseStep table env data s
        { s with inventory := (s.inventory.set b (s.inventory.slot a)).set a {} }

theorem handleWarehouse_cases (table : ItemTable) (env : WarehouseEnv) (s : WarehouseSession)
    (data : List UInt8) :
    ((handleWarehouse table env s data).1 ≠ .success ∧
        Untouched s (handleWarehouse table env s data).2) ∨
      ((handleWarehouse table env s data).1 = .success ∧
        WarehouseStep table env data s (handleWarehouse table env s data).2) := by
  have hrefused {r : WarehouseResult × WarehouseSession} (h : r.1 = .noAccess ∧ Untouched s r.2) :
      r.1 ≠ .success ∧ Untouched s r.2 := ⟨by rw [h.1]; nofun, h.2⟩
  cases hopen : opensWarehouse env data with
  | true =>
    rw [handleWarehouse_opens hopen]
    by_cases hpoor : isPkZone env.zoneId = true ∧ s.gold < PK_ZONE_WAREHOUSE_COST
    · rw [handleWarehouseOpen, if_pos hpoor]
      exact Or.inl ⟨nofun, Or.inl rfl⟩
    · refine Or.inr ⟨?_, .opened hopen hpoor⟩
      rw [handleWarehouseOpen, if_neg hpoor]
      dsimp only
      split_ifs <;> rfl
  | false =>
    cases hreq : receivedInn env data with
    | none =>
      obtain ⟨hfailed, hsame⟩ := handleWarehouse_dropped hopen hreq table s
      exact Or.inl ⟨hfailed, Or.inl hsame⟩
    | some r =>
      obtain ⟨op, req⟩ := r
      rw [handleWarehouse_received hreq]
      split_ifs with hin hout hmove hinv
      · subst hin
        by_cases hitem : ∃ item, table req.itemId = some item ∧ InputAllowed s item req
        · obtain ⟨item, htable, hallowed⟩ := hitem
          rw [handleWarehouseInput_item env htable hallowed]
          exact Or.inr ⟨rfl, .inputItem hreq htable hallowed⟩
        by_cases hgold : GoldInputAllowed s req
        · rw [handleWarehouseInput_gold table env hgold]
          exact Or.inr ⟨rfl, .inputGold hreq hgold⟩
        · exact Or.inl (hrefused (handleWarehouseInput_refused env
            (fun item htable hallowed => hitem ⟨item, htable, hallowed⟩) hgold))
      · subst hout
        by_cases hitem : ∃ item, table req.itemId = some item ∧ OutputAllowed table env s item req
        · obtain ⟨item, htable, hallowed⟩ := hitem
          rw [handleWarehouseOutput_item htable hallowed]
          exact Or.inr ⟨rfl, .outputItem hreq htable hallowed⟩
        by_cases hgold : GoldOutputAllowed s req
        · rw [handleWarehouseOutput_gold table env hgold]
          exact Or.inr ⟨rfl, .outputGold hreq hgold⟩
        · exact Or.inl (hrefused (handleWarehouseOutput_refused
            (fun item htable hallowed => hitem ⟨item, htable, hallowed⟩) hgold))
      · subst hmove
        by_cases hallowed : MoveAllowed s.warehouse req.itemId (req.referencePos + req.srcPos)
            (req.referencePos + req.dstPos) WAREHOUSE_MAX
        · rw [handleWarehouseMove_of_allowed hallowed]
          exact Or.inr ⟨rfl, .moved hreq hallowed⟩
        · exact Or.inl (hrefused (handleWarehouseMove_refused hallowed))
      · rcases handleWarehouseInvenmove_cases s req with
          ⟨hfailed, hsame⟩ | ⟨a, b, ha, hb, hempty, hmoved⟩
        · exact Or.inl ⟨by rw [hfailed]; nofun, Or.inl hsame⟩
        · rw [hmoved]
          exact Or.inr ⟨rfl, .movedInBag ha hb hempty⟩
      · exact Or.inl ⟨nofun, Or.inl rfl⟩

def WarehouseSession.units (table : ItemTable) (itemId : ℕ) (s : WarehouseSession) : ℕ :=
  KoServer.units table itemId s.inventory + KoServer.units table itemId s.warehouse

def KeepsValue (table : ItemTable) (s s' : WarehouseSession) : Prop :=
  (∀ itemId ≠ 0, s'.units table itemId = s.units table itemId) ∧
    s'.gold + s'.innCoins = s.gold + s.innCoins

/-- The destination does not end with what it had and what was sent. -/
def transferSpills (item : Item) (count : ℕ) (src dst : UserItemSlot) : Prop :=
  src.itemId ≠ 0 ∧ item.countableD ≠ 0 ∧ unitsLanded item count dst ≠ unitsOwed item count src dst

def inputSpills (table : ItemTable) (s : WarehouseSession) (req : WarehouseRequest) : Prop :=
  ∃ item, table req.itemId = some item ∧ InputAllowed s item req ∧
    transferSpills item (asU16 req.count) (s.inventory.slot (SLOT_MAX + req.srcPos))
      (Inventory.slot s.warehouse (req.referencePos + req.dstPos))

def outputSpills (table : ItemTable) (env : WarehouseEnv) (s : WarehouseSession)
    (req : WarehouseRequest) : Prop :=
  ∃ item, table req.itemId = some item ∧ OutputAllowed table env s item req ∧
    transferSpills item (asU16 req.count)
      (Inventory.slot s.warehouse (req.referencePos + req.srcPos))
      (s.inventory.slot (SLOT_MAX + req.dstPos))

def spillsUnits (table : ItemTable) (env : WarehouseEnv) (s : WarehouseSession)
    (data : List UInt8) : Prop :=
  ∃ op req, receivedInn env data = some (op, req) ∧
    (op = WAREHOUSE_INPUT ∧ inputSpills table s req ∨
      op = WAREHOUSE_OUTPUT ∧ outputSpills table env s req)

theorem units_warehousePadded {wh : List UserItemSlot} {id : ℕ} (hid : id ≠ 0) :
    units table id (warehousePadded wh) = units table id wh := by
  simp [units, warehousePadded, Tally.total_replicate, hid]

theorem keepsValue_refl (s : WarehouseSession) : KeepsValue table s s := ⟨fun _ _ => rfl, rfl⟩

theorem keepsValue_of_untouched {s s' : WarehouseSession} (h : Untouched s s') :
    KeepsValue table s s' := by
  rcases h with rfl | rfl
  · exact keepsValue_refl _
  · refine ⟨fun id hid => ?_, rfl⟩
    simp only [WarehouseSession.units, units_warehousePadded hid]

theorem whIdx_lt {i : ℕ} (s : WarehouseSession) (h : i < WAREHOUSE_MAX) :
    i < (warehousePadded s.warehouse).length := by
  rw [length_warehousePadded]
  omega

/-- What is gained of the moved item is what landed beyond the owed, and the other way round. -/
theorem inputDone_units (env : WarehouseEnv) {s : WarehouseSession} {req : WarehouseRequest}
    (htable : table req.itemId = some item) (h : InputAllowed s item req) {id : ℕ} (hid : id ≠ 0) :
    (inputDone env s item req).units table id +
        (if id = (s.inventory.slot (SLOT_MAX + req.srcPos)).itemId ∧ item.countableD ≠ 0 then
          unitsOwed item (asU16 req.count) (s.inventory.slot (SLOT_MAX + req.srcPos))
            (Inventory.slot s.warehouse (req.referencePos + req.dstPos)) else 0) =
      s.units table id +
        (if id = (s.inventory.slot (SLOT_MAX + req.srcPos)).itemId ∧ item.countableD ≠ 0 then
          unitsLanded item (asU16 req.count)
            (Inventory.slot s.warehouse (req.referencePos + req.dstPos)) else 0) := by
  have htransfer := @transferItem_units table item _ _ _ env.nextItemSerial
    (by rw [h.holds]; exact htable) h.enough h.free id hid
  have hwrite := fun a b => @units_exchange table s.inventory (warehousePadded s.warehouse) id
    (SLOT_MAX + req.srcPos) _ h.src_len (whIdx_lt s h.wh_lt) a b
  have hslot (w : List UserItemSlot) (i : ℕ) : w.getD i {} = Inventory.slot w i := rfl
  simp only [hslot, slot_warehousePadded, units_warehousePadded hid] at hwrite
  have := hwrite
    (transferItem item (asU16 req.count) env.nextItemSerial
      (s.inventory.slot (SLOT_MAX + req.srcPos))
      (Inventory.slot s.warehouse (req.referencePos + req.dstPos))).1
    (transferItem item (asU16 req.count) env.nextItemSerial
      (s.inventory.slot (SLOT_MAX + req.srcPos))
      (Inventory.slot s.warehouse (req.referencePos + req.dstPos))).2
  simp only [WarehouseSession.units, inputDone]
  omega

theorem outputDone_units {env : WarehouseEnv} {s : WarehouseSession} {req : WarehouseRequest}
    (htable : table req.itemId = some item) (h : OutputAllowed table env s item req) {id : ℕ}
    (hid : id ≠ 0) :
    (outputDone env s item req).units table id +
        (if id = (Inventory.slot s.warehouse (req.referencePos + req.srcPos)).itemId ∧
            item.countableD ≠ 0 then
          unitsOwed item (asU16 req.count)
            (Inventory.slot s.warehouse (req.referencePos + req.srcPos))
            (s.inventory.slot (SLOT_MAX + req.dstPos)) else 0) =
      s.units table id +
        (if id = (Inventory.slot s.warehouse (req.referencePos + req.srcPos)).itemId ∧
            item.countableD ≠ 0 then
          unitsLanded item (asU16 req.count) (s.inventory.slot (SLOT_MAX + req.dstPos)) else 0) := by
  have htransfer := @transferItem_units table item _ _ _ env.nextItemSerial
    (by rw [h.holds]; exact htable) h.enough h.free id hid
  have hwrite := fun a b => @units_exchange table s.inventory (warehousePadded s.warehouse) id
    (SLOT_MAX + req.dstPos) _ h.dst_len (whIdx_lt s h.wh_lt) a b
  have hslot (w : List UserItemSlot) (i : ℕ) : w.getD i {} = Inventory.slot w i := rfl
  simp only [hslot, slot_warehousePadded, units_warehousePadded hid] at hwrite
  have := hwrite
    (transferItem item (asU16 req.count) env.nextItemSerial
      (Inventory.slot s.warehouse (req.referencePos + req.srcPos))
      (s.inventory.slot (SLOT_MAX + req.dstPos))).2
    (transferItem item (asU16 req.count) env.nextItemSerial
      (Inventory.slot s.warehouse (req.referencePos + req.srcPos))
      (s.inventory.slot (SLOT_MAX + req.dstPos))).1
  simp only [WarehouseSession.units, outputDone]
  omega

/-- A balance with an owed and a landed part is even for every item exactly when nothing spills. -/
theorem even_iff_not_spills {count : ℕ} {f g : ℕ → ℕ}
    (h : ∀ id ≠ 0, g id + (if id = src.itemId ∧ item.countableD ≠ 0 then
        unitsOwed item count src dst else 0) =
      f id + (if id = src.itemId ∧ item.countableD ≠ 0 then unitsLanded item count dst else 0)) :
    (∀ id ≠ 0, g id = f id) ↔ ¬ transferSpills item count src dst := by
  constructor
  · rintro heven ⟨hid, hne, hspill⟩
    have h1 := h _ hid
    have h2 := heven _ hid
    have hmoves : src.itemId = src.itemId ∧ item.countableD ≠ 0 := ⟨rfl, hne⟩
    rw [if_pos hmoves, if_pos hmoves] at h1
    omega
  · intro hkeeps id hid
    have h1 := h id hid
    split_ifs at h1 with hmoves
    · have : unitsLanded item count dst = unitsOwed item count src dst := by
        by_contra hspill
        exact hkeeps ⟨hmoves.1 ▸ hid, hmoves.2, hspill⟩
      omega
    · omega

theorem moveDone_units {s : WarehouseSession} {a b : ℕ} (ha : a < WAREHOUSE_MAX)
    (hb : b < WAREHOUSE_MAX) (hempty : (Inventory.slot s.warehouse b).itemId = 0) {id : ℕ}
    (hid : id ≠ 0) : (moveDone s a b).units table id = s.units table id := by
  have hmove := @units_move table id _ a b (whIdx_lt s ha) (whIdx_lt s hb) hid
    (by rw [slot_warehousePadded]; exact hempty)
  rw [slot_warehousePadded, units_warehousePadded hid] at hmove
  simp only [WarehouseSession.units, moveDone, hmove]

theorem handleWarehouseInput_keeps_iff (env : WarehouseEnv) (s : WarehouseSession)
    (req : WarehouseRequest) :
    KeepsValue table s (handleWarehouseInput table env s req).2 ↔ ¬ inputSpills table s req := by
  by_cases hitem : ∃ item, table req.itemId = some item ∧ InputAllowed s item req
  · obtain ⟨item, htable, hallowed⟩ := hitem
    have heven := even_iff_not_spills fun id hid => inputDone_units env htable hallowed hid
    have hspills : inputSpills table s req ↔
        transferSpills item (asU16 req.count) (s.inventory.slot (SLOT_MAX + req.srcPos))
          (Inventory.slot s.warehouse (req.referencePos + req.dstPos)) := by
      simp [inputSpills, htable, hallowed]
    rw [handleWarehouseInput_item env htable hallowed, hspills, ← heven]
    exact and_iff_left rfl
  · have hnot : ¬ inputSpills table s req := fun ⟨item, htable, hallowed, _⟩ =>
      hitem ⟨item, htable, hallowed⟩
    refine ⟨fun _ => hnot, fun _ => ?_⟩
    by_cases hgold : GoldInputAllowed s req
    · rw [handleWarehouseInput_gold table env hgold]
      obtain ⟨-, -, hle, -⟩ := hgold
      refine ⟨fun _ _ => rfl, ?_⟩
      dsimp only
      omega
    · exact keepsValue_of_untouched (handleWarehouseInput_refused env
        (fun item htable hallowed => hitem ⟨item, htable, hallowed⟩) hgold).2

theorem handleWarehouseOutput_keeps_iff (env : WarehouseEnv) (s : WarehouseSession)
    (req : WarehouseRequest) :
    KeepsValue table s (handleWarehouseOutput table env s req).2 ↔
      ¬ outputSpills table env s req := by
  by_cases hitem : ∃ item, table req.itemId = some item ∧ OutputAllowed table env s item req
  · obtain ⟨item, htable, hallowed⟩ := hitem
    have heven := even_iff_not_spills fun id hid => outputDone_units htable hallowed hid
    have hspills : outputSpills table env s req ↔
        transferSpills item (asU16 req.count)
          (Inventory.slot s.warehouse (req.referencePos + req.srcPos))
          (s.inventory.slot (SLOT_MAX + req.dstPos)) := by
      simp [outputSpills, htable, hallowed]
    rw [handleWarehouseOutput_item htable hallowed, hspills, ← heven]
    exact and_iff_left rfl
  · have hnot : ¬ outputSpills table env s req := fun ⟨item, htable, hallowed, _⟩ =>
      hitem ⟨item, htable, hallowed⟩
    refine ⟨fun _ => hnot, fun _ => ?_⟩
    by_cases hgold : GoldOutputAllowed s req
    · rw [handleWarehouseOutput_gold table env hgold]
      obtain ⟨-, -, hle, -⟩ := hgold
      refine ⟨fun _ _ => rfl, ?_⟩
      dsimp only
      omega
    · exact keepsValue_of_untouched (handleWarehouseOutput_refused
        (fun item htable hallowed => hitem ⟨item, htable, hallowed⟩) hgold).2

theorem handleWarehouseMove_keeps (s : WarehouseSession) (req : WarehouseRequest) :
    KeepsValue table s (handleWarehouseMove s req).2 := by
  by_cases hallowed : MoveAllowed s.warehouse req.itemId (req.referencePos + req.srcPos)
      (req.referencePos + req.dstPos) WAREHOUSE_MAX
  · rw [handleWarehouseMove_of_allowed hallowed]
    obtain ⟨hsrc, hdst, -, hempty⟩ := hallowed
    exact ⟨fun id hid => moveDone_units hsrc hdst hempty hid, rfl⟩
  · exact keepsValue_of_untouched (handleWarehouseMove_refused hallowed).2

theorem handleWarehouseInvenmove_keeps (s : WarehouseSession) (req : WarehouseRequest) :
    KeepsValue table s (handleWarehouseInvenmove s req).2 := by
  rcases handleWarehouseInvenmove_cases s req with ⟨-, hsame⟩ | ⟨a, b, ha, hb, hempty, hmoved⟩
  · rw [hsame]
    exact keepsValue_refl s
  · rw [hmoved]
    refine ⟨fun id hid => ?_, rfl⟩
    simp only [WarehouseSession.units, units_move ha hb hid hempty]

theorem handleWarehouse_keeps_iff {env : WarehouseEnv} {data : List UInt8}
    (hopen : opensWarehouse env data = false) (table : ItemTable) (s : WarehouseSession) :
    KeepsValue table s (handleWarehouse table env s data).2 ↔ ¬ spillsUnits table env s data := by
  unfold spillsUnits
  cases hreq : receivedInn env data with
  | none =>
    rw [(handleWarehouse_dropped hopen hreq table s).2]
    exact ⟨fun _ => by simp, fun _ => keepsValue_refl s⟩
  | some r =>
    obtain ⟨op, req⟩ := r
    have hspills : (∃ op' req', some (op, req) = some (op', req') ∧
        (op' = WAREHOUSE_INPUT ∧ inputSpills table s req' ∨
          op' = WAREHOUSE_OUTPUT ∧ outputSpills table env s req')) ↔
        op = WAREHOUSE_INPUT ∧ inputSpills table s req ∨
          op = WAREHOUSE_OUTPUT ∧ outputSpills table env s req := by
      simp
    rw [handleWarehouse_received hreq, hspills]
    split_ifs with hin hout hmove hinv
    · subst hin
      rw [handleWarehouseInput_keeps_iff]
      simp [WAREHOUSE_INPUT, WAREHOUSE_OUTPUT]
    · subst hout
      rw [handleWarehouseOutput_keeps_iff]
      simp [WAREHOUSE_INPUT, WAREHOUSE_OUTPUT]
    · exact ⟨fun _ => by simp [hin, hout], fun _ => handleWarehouseMove_keeps s req⟩
    · exact ⟨fun _ => by simp [hin, hout], fun _ => handleWarehouseInvenmove_keeps s req⟩
    · exact ⟨fun _ => by simp [hin, hout], fun _ => keepsValue_refl s⟩

def Opened (s : WarehouseSession) : Prop :=
  s.warehouseLoaded = true ∧ s.warehouse.length = WAREHOUSE_MAX

theorem warehousePadded_opened {s : WarehouseSession} (h : Opened s) :
    warehousePadded s.warehouse = s.warehouse := by
  simp [warehousePadded, h.2]

theorem untouched_opened {s s' : WarehouseSession} (h : Opened s) (hs : Untouched s s') :
    s' = s := by
  rcases hs with rfl | rfl
  · rfl
  · rw [warehousePadded_opened h]

theorem handleWarehouse_opened (table : ItemTable) (env : WarehouseEnv) {s : WarehouseSession}
    (data : List UInt8) (h : Opened s) : Opened (handleWarehouse table env s data).2 := by
  have hpadded := warehousePadded_opened h
  obtain ⟨hloaded, hlen⟩ := h
  rcases handleWarehouse_cases table env s data with ⟨-, hsame⟩ | ⟨-, hstep⟩
  · rw [untouched_opened ⟨hloaded, hlen⟩ hsame]
    exact ⟨hloaded, hlen⟩
  · generalize (handleWarehouse table env s data).2 = s' at hstep
    cases hstep with
    | opened hopen hpaid =>
      rw [handleWarehouseOpen, if_neg hpaid]
      dsimp only
      rw [if_pos hloaded]
      exact ⟨hloaded, hlen⟩
    | inputItem hreq htable hallowed =>
      refine ⟨hloaded, ?_⟩
      simp [WarehouseSession.saveWarehouseSlot, inputDone, hpadded, hlen]
    | inputGold => exact ⟨hloaded, hlen⟩
    | outputItem hreq htable hallowed =>
      refine ⟨hloaded, ?_⟩
      simp [WarehouseSession.saveWarehouseSlot, outputDone, hpadded, hlen]
    | outputGold => exact ⟨hloaded, hlen⟩
    | moved hreq hallowed =>
      refine ⟨hloaded, ?_⟩
      simp [WarehouseSession.saveWarehouseSlot, moveDone, hpadded, hlen]
    | movedInBag => exact ⟨hloaded, hlen⟩

def warehouseStep (table : ItemTable) (s : WarehouseSession) (i : WarehouseEnv × List UInt8) :
    WarehouseSession :=
  (handleWarehouse table i.1 s i.2).2

/-- On an opened warehouse, over any run of requests other than OPEN none of which spills,
every item keeps its units and gold and inn coins their sum; and in whatever state the run
ends, a request that fails changes nothing. -/
theorem warehouse_conserves (table : ItemTable) {s : WarehouseSession}
    {steps : List (WarehouseEnv × List UInt8)} (hopened : Opened s)
    (hok : Run.Along (warehouseStep table)
      (fun s i => opensWarehouse i.1 i.2 = false ∧ ¬ spillsUnits table i.1 s i.2) s steps) :
    KeepsValue table s (Run.run (warehouseStep table) s steps) ∧
      ∀ env data,
        (handleWarehouse table env (Run.run (warehouseStep table) s steps) data).1 ≠ .success →
        (handleWarehouse table env (Run.run (warehouseStep table) s steps) data).2 =
          Run.run (warehouseStep table) s steps := by
  have hkept : Opened (Run.run (warehouseStep table) s steps) ∧
      KeepsValue table s (Run.run (warehouseStep table) s steps) := by
    refine Run.invariant (fun t => Opened t ∧ KeepsValue table s t) ?_ hok
      ⟨hopened, keepsValue_refl s⟩
    rintro t ⟨env, data⟩ ⟨ht, hunits, hgold⟩ ⟨hopen, hspills⟩
    obtain ⟨hunits', hgold'⟩ := (handleWarehouse_keeps_iff hopen table t).mpr hspills
    refine ⟨handleWarehouse_opened table env data ht, fun id hid => ?_, ?_⟩
    · rw [warehouseStep, hunits' id hid, hunits id hid]
    · rw [warehouseStep, hgold', hgold]
  refine ⟨hkept.2, fun env data hfailed => ?_⟩
  rcases handleWarehouse_cases table env (Run.run (warehouseStep table) s steps) data with
    ⟨-, hsame⟩ | ⟨hsuccess, -⟩
  · exact untouched_opened hkept.1 hsame
  · exact absurd hsuccess hfailed

def quietInn : WarehouseEnv where
  inGame := true
  isPlayerDead := false
  isTrading := false
  isStoreOpen := false
  isMerchanting := false
  isSellingMerchant := false
  isSellingMerchantPreparing := false
  isBuyingMerchantPreparing := false
  isMining := false
  isFishing := false
  genieActive := false
  zoneId := 21
  isNpcDead := fun _ => false
  isInNpcRange := fun _ => true
  npcType := fun _ => some NPC_WAREHOUSE
  itemWeight := 0
  maxWeight := 5000
  nextItemSerial := 1

/-- Ten potions in the first bag slot, and 9995 in the first slot of the opened warehouse. -/
def almostFullInn : WarehouseSession where
  inventory := Inventory.padded
    (List.replicate SLOT_MAX {} ++ [{ itemId := 389010000, durability := 1, count := 10 }])
  gold := 1000
  warehouse := { itemId := 389010000, durability := 1, count := 9995 } ::
    List.replicate (WAREHOUSE_MAX - 1) {}
  innCoins := 0
  warehouseLoaded := true
  store := ⟨fun _ => none, 0, Nat.zero_le _⟩

/-- INPUT of potions from the first bag slot to the first slot of the first page. -/
def storePotions (count : ℕ) : List UInt8 :=
  [2, 0, 0, 0, 0] ++ Bytes.le 4 389010000 ++ [0, 0, 0] ++ Bytes.le 4 count

/-- Four more potions fit, and stay. -/
theorem warehouse_conserves_potions :
    KeepsValue potionTable almostFullInn
      (Run.run (warehouseStep potionTable) almostFullInn [(quietInn, storePotions 4)]) := by
  have hopened : Opened almostFullInn := ⟨rfl, by decide +kernel⟩
  refine (@warehouse_conserves potionTable almostFullInn [(quietInn, storePotions 4)] hopened
    ⟨⟨by decide +kernel, ?_⟩, trivial⟩).1
  rintro ⟨op, req, hreq, hspills⟩
  have hparsed : receivedInn quietInn (storePotions 4) =
      some (WAREHOUSE_INPUT, ⟨389010000, 0, 0, 0, 4⟩) := by decide +kernel
  obtain ⟨rfl, rfl⟩ := Prod.mk.inj (Option.some.inj (hparsed.symm.trans hreq))
  rcases hspills with ⟨-, item, hitem, -, -, -, hspill⟩ | ⟨hop, -⟩
  · obtain rfl := Option.some.inj ((show potionTable 389010000 = some { countable := some 1 } from
      rfl).symm.trans hitem)
    exact hspill (by decide +kernel)
  · cases hop

/-- All ten do not: the stack is clamped to 9999, the bag slot is emptied. -/
theorem potions_past_stack_limit :
    ¬ KeepsValue potionTable almostFullInn
      (Run.run (warehouseStep potionTable) almostFullInn [(quietInn, storePotions 10)]) := by
  intro h
  have hafter : (Run.run (warehouseStep potionTable) almostFullInn
      [(quietInn, storePotions 10)]).units potionTable 389010000 = 9999 := by decide +kernel
  have hbefore : almostFullInn.units potionTable 389010000 = 10005 := by decide +kernel
  have hkept := h.1 389010000 (by decide)
  omega

end KoServer
