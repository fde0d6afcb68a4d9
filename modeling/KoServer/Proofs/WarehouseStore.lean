import KoServer.Proofs.Warehouse

/-! Stored contents over a login. The requests write single rows and the coins back from the
session's copy, and only OPEN reads the rows. Once it has, copy and rows agree; before that
a write may replace a row that was never read. -/

namespace KoServer

variable {table : ItemTable} {item : Item}

def storedUnits (table : ItemTable) (itemId : ℕ) (store : WarehouseStore) : ℕ :=
  units table itemId store.loadWarehouse

@[simp] theorem length_loadWarehouse (store : WarehouseStore) :
    store.loadWarehouse.length = WAREHOUSE_MAX := by
  simp [WarehouseStore.loadWarehouse]

theorem slot_loadWarehouse (store : WarehouseStore) {i : ℕ} (hi : i < WAREHOUSE_MAX) :
    Inventory.slot store.loadWarehouse i = store.row i := by
  simp [Inventory.slot, WarehouseStore.loadWarehouse, List.getD_eq_getElem?_getD, hi]

theorem row_saveWarehouseItem (store : WarehouseStore) (i j : ℕ) (s : UserItemSlot) :
    (store.saveWarehouseItem i s).row j = if j = i then s else store.row j := by
  simp only [WarehouseStore.row, WarehouseStore.saveWarehouseItem, Function.update_apply]
  split_ifs <;> rfl

/-- A saved row is what the next load finds there. -/
theorem loadWarehouse_saveWarehouseItem (store : WarehouseStore) (i : ℕ) (s : UserItemSlot) :
    (store.saveWarehouseItem i s).loadWarehouse = store.loadWarehouse.set i s := by
  refine List.ext_getElem (by simp) fun j hj _ => ?_
  have hj' : j < WAREHOUSE_MAX := by simpa using hj
  simp only [WarehouseStore.loadWarehouse, List.getElem_map, List.getElem_range, List.getElem_set,
    row_saveWarehouseItem]
  by_cases h : j = i
  · rw [if_pos h, if_pos h.symm]
  · rw [if_neg h, if_neg (Ne.symm h)]

def Synced (s : WarehouseSession) : Prop :=
  s.warehouse = s.store.loadWarehouse ∧ s.innCoins = s.store.coins

/-- Before the first OPEN, the row holds more of some item than the copy it is saved from. -/
def overwritesUnread (table : ItemTable) (s : WarehouseSession) (i : ℕ) : Prop :=
  s.warehouseLoaded = false ∧ ∃ id ≠ 0,
    slotUnits table id (Inventory.slot s.warehouse i) < slotUnits table id (s.store.row i)

/-- Before the first OPEN, more coins are stored than the session knows of. -/
def forgetsCoins (s : WarehouseSession) : Prop :=
  s.warehouseLoaded = false ∧ s.innCoins < s.store.coins

/-- The destination ends with less than it had and was sent. -/
def transferLoses (item : Item) (count : ℕ) (src dst : UserItemSlot) : Prop :=
  src.itemId ≠ 0 ∧ item.countableD ≠ 0 ∧ unitsLanded item count dst < unitsOwed item count src dst

def inputLosesStored (table : ItemTable) (s : WarehouseSession) (req : WarehouseRequest) : Prop :=
  GoldInputAllowed s req ∧ forgetsCoins s ∨
    ∃ item, table req.itemId = some item ∧ InputAllowed s item req ∧
      (transferLoses item (asU16 req.count) (s.inventory.slot (SLOT_MAX + req.srcPos))
          (Inventory.slot s.warehouse (req.referencePos + req.dstPos)) ∨
        overwritesUnread table s (req.referencePos + req.dstPos))

def outputLosesStored (table : ItemTable) (env : WarehouseEnv) (s : WarehouseSession)
    (req : WarehouseRequest) : Prop :=
  GoldOutputAllowed s req ∧ forgetsCoins s ∨
    ∃ item, table req.itemId = some item ∧ OutputAllowed table env s item req ∧
      (transferLoses item (asU16 req.count)
          (Inventory.slot s.warehouse (req.referencePos + req.srcPos))
          (s.inventory.slot (SLOT_MAX + req.dstPos)) ∨
        overwritesUnread table s (req.referencePos + req.srcPos))

def moveLosesStored (table : ItemTable) (s : WarehouseSession) (req : WarehouseRequest) : Prop :=
  MoveAllowed s.warehouse req.itemId (req.referencePos + req.srcPos)
      (req.referencePos + req.dstPos) WAREHOUSE_MAX ∧
    (overwritesUnread table s (req.referencePos + req.srcPos) ∨
      overwritesUnread table s (req.referencePos + req.dstPos))

/-- A request that goes through and loses something: in a transfer that falls short, or
under a row or a coin total that was never read. -/
def losesStored (table : ItemTable) (env : WarehouseEnv) (s : WarehouseSession)
    (data : List UInt8) : Prop :=
  ∃ op req, receivedInn env data = some (op, req) ∧
    (op = WAREHOUSE_INPUT ∧ inputLosesStored table s req ∨
      op = WAREHOUSE_OUTPUT ∧ outputLosesStored table env s req ∨
      op = WAREHOUSE_MOVE ∧ moveLosesStored table s req)

def WriteThrough (s : WarehouseSession) : Prop :=
  (s.warehouseLoaded = true → Synced s) ∧ s.innCoins ≤ I32_MAX

theorem row_le_of_not_overwrites {s : WarehouseSession} {i : ℕ} (hs : WriteThrough s)
    (hi : i < WAREHOUSE_MAX) (h : ¬ overwritesUnread table s i) {id : ℕ} (hid : id ≠ 0) :
    slotUnits table id (s.store.row i) ≤ slotUnits table id (Inventory.slot s.warehouse i) := by
  cases hloaded : s.warehouseLoaded with
  | true =>
    rw [(hs.1 hloaded).1, slot_loadWarehouse _ hi]
  | false =>
    by_contra hlt
    exact h ⟨hloaded, id, hid, by omega⟩

theorem coins_le_of_not_forgets {s : WarehouseSession} (hs : WriteThrough s)
    (h : ¬ forgetsCoins s) : s.store.coins ≤ s.innCoins := by
  cases hloaded : s.warehouseLoaded with
  | true => rw [(hs.1 hloaded).2]
  | false =>
    by_contra hlt
    exact h ⟨hloaded, by omega⟩

theorem warehousePadded_load (store : WarehouseStore) :
    warehousePadded store.loadWarehouse = store.loadWarehouse := by
  simp [warehousePadded]

/-- Nothing that was stored or carried is gone, up to a toll in gold. -/
def KeepsStored (table : ItemTable) (toll : ℕ) (s s' : WarehouseSession) : Prop :=
  (∀ id ≠ 0, storedUnits table id s.store + units table id s.inventory ≤
      storedUnits table id s'.store + units table id s'.inventory) ∧
    s.store.coins + s.gold ≤ s'.store.coins + s'.gold + toll ∧
    ∀ i, WAREHOUSE_MAX ≤ i → s'.store.rows i = s.store.rows i

theorem saveWarehouseItem_rows_of_ge (store : WarehouseStore) {i j : ℕ} (s : UserItemSlot)
    (hi : i < WAREHOUSE_MAX) (hj : WAREHOUSE_MAX ≤ j) :
    (store.saveWarehouseItem i s).rows j = store.rows j :=
  Function.update_of_ne (by omega) _ _

theorem exchange_keeps {store : WarehouseStore} {inv : Inventory} {i w id : ℕ}
    {a b : UserItemSlot} (hi : i < inv.length) (hw : w < WAREHOUSE_MAX)
    (h : slotUnits table id (inv.slot i) + slotUnits table id (store.row w) ≤
      slotUnits table id a + slotUnits table id b) :
    storedUnits table id store + units table id inv ≤
      storedUnits table id (store.saveWarehouseItem w b) + units table id (inv.set i a) := by
  have hw' : w < store.loadWarehouse.length := by rwa [length_loadWarehouse]
  have hwrite := @units_exchange table inv store.loadWarehouse id i w hi hw' a b
  have hrow : store.loadWarehouse.getD w {} = store.row w := slot_loadWarehouse store hw
  rw [hrow] at hwrite
  unfold storedUnits
  rw [loadWarehouse_saveWarehouseItem]
  omega

theorem transferItem_keeps {src dst : UserItemSlot} {count n : ℕ}
    (htable : table src.itemId = some item) (hcount : count ≤ src.count)
    (hfree : destinationTaken item src dst = false) (hkeeps : ¬ transferLoses item count src dst)
    {id : ℕ} (hid : id ≠ 0) :
    slotUnits table id src + slotUnits table id dst ≤
      slotUnits table id (transferItem item count n src dst).1 +
        slotUnits table id (transferItem item count n src dst).2 := by
  have hunits := @transferItem_units table item src dst count n htable hcount hfree id hid
  split_ifs at hunits with hmoves
  · have : unitsOwed item count src dst ≤ unitsLanded item count dst := by
      by_contra hlt
      exact hkeeps ⟨hmoves.1 ▸ hid, hmoves.2, by omega⟩
    omega
  · omega

theorem inputItem_keepsStored (env : WarehouseEnv) {s : WarehouseSession}
    {req : WarehouseRequest} (hs : WriteThrough s) (htable : table req.itemId = some item)
    (h : InputAllowed s item req)
    (hkeeps : ¬ transferLoses item (asU16 req.count) (s.inventory.slot (SLOT_MAX + req.srcPos))
      (Inventory.slot s.warehouse (req.referencePos + req.dstPos)))
    (hread : ¬ overwritesUnread table s (req.referencePos + req.dstPos)) :
    KeepsStored table 0 s
      ((inputDone env s item req).saveWarehouseSlot (req.referencePos + req.dstPos)) := by
  have hsaved := Inventory.slot_set_self (whIdx_lt s h.wh_lt)
    (transferItem item (asU16 req.count) env.nextItemSerial
      (s.inventory.slot (SLOT_MAX + req.srcPos))
      (Inventory.slot s.warehouse (req.referencePos + req.dstPos))).2
  simp only [WarehouseSession.saveWarehouseSlot, inputDone, hsaved]
  refine ⟨fun id hid => ?_, ?_, fun i hi => saveWarehouseItem_rows_of_ge _ _ h.wh_lt hi⟩
  · refine exchange_keeps h.src_len h.wh_lt ?_
    have hrow := row_le_of_not_overwrites hs h.wh_lt hread hid
    have hmoved := @transferItem_keeps table item _ _ _ env.nextItemSerial
      (by rw [h.holds]; exact htable) h.enough h.free hkeeps id hid
    omega
  · simp only [WarehouseStore.saveWarehouseItem]
    omega

theorem outputItem_keepsStored {env : WarehouseEnv} {s : WarehouseSession}
    {req : WarehouseRequest} (hs : WriteThrough s) (htable : table req.itemId = some item)
    (h : OutputAllowed table env s item req)
    (hkeeps : ¬ transferLoses item (asU16 req.count)
      (Inventory.slot s.warehouse (req.referencePos + req.srcPos))
      (s.inventory.slot (SLOT_MAX + req.dstPos)))
    (hread : ¬ overwritesUnread table s (req.referencePos + req.srcPos)) :
    KeepsStored table 0 s
      ((outputDone env s item req).saveWarehouseSlot (req.referencePos + req.srcPos)) := by
  have hsaved := Inventory.slot_set_self (whIdx_lt s h.wh_lt)
    (transferItem item (asU16 req.count) env.nextItemSerial
      (Inventory.slot s.warehouse (req.referencePos + req.srcPos))
      (s.inventory.slot (SLOT_MAX + req.dstPos))).1
  simp only [WarehouseSession.saveWarehouseSlot, outputDone, hsaved]
  refine ⟨fun id hid => ?_, ?_, fun i hi => saveWarehouseItem_rows_of_ge _ _ h.wh_lt hi⟩
  · refine exchange_keeps h.dst_len h.wh_lt ?_
    have hrow := row_le_of_not_overwrites hs h.wh_lt hread hid
    have hmoved := @transferItem_keeps table item _ _ _ env.nextItemSerial
      (by rw [h.holds]; exact htable) h.enough h.free hkeeps id hid
    omega
  · simp only [WarehouseStore.saveWarehouseItem]
    omega

/-- The rows of a MOVE: what was read from the source ends in one of the two. -/
theorem moved_keepsStored {s : WarehouseSession} {a b : ℕ} (hs : WriteThrough s)
    (ha : a < WAREHOUSE_MAX) (hb : b < WAREHOUSE_MAX)
    (hempty : (Inventory.slot s.warehouse b).itemId = 0)
    (hreadSrc : ¬ overwritesUnread table s a) (hreadDst : ¬ overwritesUnread table s b) :
    KeepsStored table 0 s (((moveDone s a b).saveWarehouseSlot a).saveWarehouseSlot b) := by
  have hlena := whIdx_lt s ha
  have hlenb := whIdx_lt s hb
  have hlena' : a < ((warehousePadded s.warehouse).set b (Inventory.slot s.warehouse a)).length := by
    rwa [List.length_set]
  have hsavedSrc : Inventory.slot (moveDone s a b).warehouse a = {} :=
    Inventory.slot_set_self hlena' _
  simp only [WarehouseSession.saveWarehouseSlot, hsavedSrc]
  refine ⟨fun id hid => ?_, ?_, fun i hi => ?_⟩
  · have hrowSrc := row_le_of_not_overwrites hs ha hreadSrc hid
    have hrowDst := row_le_of_not_overwrites hs hb hreadDst hid
    have hnone := slotUnits_of_empty table hid hempty
    have h0 := slotUnits_empty table hid
    have hloada : a < s.store.loadWarehouse.length := by rwa [length_loadWarehouse]
    have hloadb : b < s.store.loadWarehouse.length := by rwa [length_loadWarehouse]
    simp only [storedUnits, loadWarehouse_saveWarehouseItem]
    rcases eq_or_ne a b with rfl | hab
    · have hsavedDst : Inventory.slot (moveDone s a a).warehouse a = {} := hsavedSrc
      rw [hsavedDst, List.set_set]
      have hset := units_set table id hloada {}
      rw [slot_loadWarehouse _ ha] at hset
      simp only [moveDone]
      omega
    · have hsavedDst : Inventory.slot (moveDone s a b).warehouse b =
          Inventory.slot s.warehouse a := by
        simp only [moveDone]
        rw [Inventory.slot_set_ne hab, Inventory.slot_set_self hlenb]
      have hset := units_set_set table id hloada hloadb hab {} (Inventory.slot s.warehouse a)
      rw [slot_loadWarehouse _ ha, slot_loadWarehouse _ hb] at hset
      rw [hsavedDst]
      simp only [moveDone]
      omega
  · simp only [moveDone, WarehouseStore.saveWarehouseItem]
    omega
  · rw [saveWarehouseItem_rows_of_ge _ _ hb hi, saveWarehouseItem_rows_of_ge _ _ ha hi]
    rfl

theorem warehouse_eq_of_synced {s : WarehouseSession} (h : Synced s) :
    warehousePadded s.warehouse = s.store.loadWarehouse := by
  rw [h.1, warehousePadded_load]

/-- Writing a slot and saving it keeps copy and rows equal. -/
theorem synced_save {s : WarehouseSession} {wh : List UserItemSlot} {store : WarehouseStore}
    (hwh : wh = store.loadWarehouse) (hcoins : s.innCoins = store.coins) {i : ℕ}
    (a : UserItemSlot) (hi : i < WAREHOUSE_MAX) :
    Synced ({ s with warehouse := wh.set i a, store := store }.saveWarehouseSlot i) := by
  have hlen : i < wh.length := by rwa [hwh, length_loadWarehouse]
  refine ⟨?_, hcoins⟩
  simp only [WarehouseSession.saveWarehouseSlot]
  rw [loadWarehouse_saveWarehouseItem, Inventory.slot_set_self hlen, hwh]

theorem coin_max_le : COIN_MAX ≤ I32_MAX := by decide

theorem handleWarehouse_writeThrough {env : WarehouseEnv} {s : WarehouseSession}
    {data : List UInt8} (hs : WriteThrough s) :
    WriteThrough (handleWarehouse table env s data).2 := by
  obtain ⟨hsynced, hcoins⟩ := hs
  have hmax := coin_max_le
  rcases handleWarehouse_cases table env s data with ⟨-, hsame | hpadded⟩ | ⟨-, hstep⟩
  · rw [hsame]
    exact ⟨hsynced, hcoins⟩
  · rw [hpadded]
    refine ⟨fun hloaded => ?_, hcoins⟩
    exact ⟨warehouse_eq_of_synced (hsynced hloaded), (hsynced hloaded).2⟩
  · generalize (handleWarehouse table env s data).2 = s' at hstep
    cases hstep with
    | opened hopen hpaid =>
      rw [handleWarehouseOpen, if_neg hpaid]
      dsimp only
      by_cases hloaded : s.warehouseLoaded = true
      · rw [if_pos hloaded]
        exact ⟨hsynced, hcoins⟩
      · rw [if_neg hloaded]
        exact ⟨fun _ => ⟨rfl, rfl⟩, s.store.coins_le⟩
    | inputItem hreq htable hallowed =>
      refine ⟨fun hloaded => ?_, hcoins⟩
      obtain hsync := hsynced hloaded
      exact synced_save (warehouse_eq_of_synced hsync) hsync.2 _ hallowed.wh_lt
    | inputGold hreq hallowed =>
      have hroom := hallowed.2.2.2
      refine ⟨fun hloaded => ⟨(hsynced hloaded).1, ?_⟩, ?_⟩
      · simp only [WarehouseStore.saveWarehouseCoins]
        omega
      · dsimp only
        omega
    | outputItem hreq htable hallowed =>
      refine ⟨fun hloaded => ?_, hcoins⟩
      obtain hsync := hsynced hloaded
      exact synced_save (warehouse_eq_of_synced hsync) hsync.2 _ hallowed.wh_lt
    | outputGold hreq hallowed =>
      refine ⟨fun hloaded => ⟨(hsynced hloaded).1, ?_⟩, ?_⟩
      · simp only [WarehouseStore.saveWarehouseCoins]
        omega
      · dsimp only
        omega
    | @moved req hreq hallowed =>
      refine ⟨fun hloaded => ?_, hcoins⟩
      obtain hsync := hsynced hloaded
      obtain ⟨hsrc, hdst, -, -⟩ := hallowed
      generalize req.referencePos + req.srcPos = a at hsrc ⊢
      generalize req.referencePos + req.dstPos = b at hdst ⊢
      have hwh := warehouse_eq_of_synced hsync
      refine ⟨?_, hsync.2⟩
      simp only [WarehouseSession.saveWarehouseSlot, loadWarehouse_saveWarehouseItem, moveDone, hwh]
      have hlena : a < s.store.loadWarehouse.length := by rwa [length_loadWarehouse]
      have hlenb : b < s.store.loadWarehouse.length := by rwa [length_loadWarehouse]
      have hlena' (x : UserItemSlot) : a < (s.store.loadWarehouse.set b x).length := by
        rwa [List.length_set]
      rw [Inventory.slot_set_self (hlena' _)]
      rcases eq_or_ne a b with rfl | hab
      · rw [Inventory.slot_set_self (hlena' _), List.set_set, List.set_set]
      · rw [Inventory.slot_set_ne hab, Inventory.slot_set_self hlenb, List.set_comm _ _ hab]
    | movedInBag => exact ⟨hsynced, hcoins⟩

def openToll (env : WarehouseEnv) (s : WarehouseSession) (data : List UInt8) : ℕ :=
  if opensWarehouse env data ∧ isPkZone env.zoneId ∧ PK_ZONE_WAREHOUSE_COST ≤ s.gold then
    PK_ZONE_WAREHOUSE_COST
  else 0

/-- Rows, coins and bag as they were; only gold is paid. -/
theorem keepsStored_of_eq {s s' : WarehouseSession} {toll : ℕ} (hstore : s'.store = s.store)
    (hinv : s'.inventory = s.inventory) (hgold : s.gold ≤ s'.gold + toll) :
    KeepsStored table toll s s' := by
  refine ⟨fun id _ => ?_, ?_, fun i _ => ?_⟩
  · rw [hstore, hinv]
  · rw [hstore]
    omega
  · rw [hstore]

theorem handleWarehouse_keepsStored {env : WarehouseEnv} {s : WarehouseSession}
    {data : List UInt8} (hs : WriteThrough s) (hkeeps : ¬ losesStored table env s data) :
    KeepsStored table (openToll env s data) s (handleWarehouse table env s data).2 := by
  have hmax := coin_max_le
  have hfree {s' : WarehouseSession} (h : KeepsStored table 0 s s') :
      KeepsStored table (openToll env s data) s s' := ⟨h.1, by have := h.2.1; omega, h.2.2⟩
  rcases handleWarehouse_cases table env s data with ⟨-, hsame | hpadded⟩ | ⟨-, hstep⟩
  · rw [hsame]
    exact hfree (keepsStored_of_eq rfl rfl le_rfl)
  · rw [hpadded]
    exact hfree (keepsStored_of_eq rfl rfl le_rfl)
  · generalize (handleWarehouse table env s data).2 = s' at hstep
    cases hstep with
    | opened hopen hpaid =>
      rw [handleWarehouseOpen, if_neg hpaid]
      have htoll : (if isPkZone env.zoneId then s.gold - PK_ZONE_WAREHOUSE_COST else s.gold) +
          openToll env s data = s.gold := by
        unfold openToll
        split_ifs with hpk hcharged hcharged
        · omega
        · rw [not_and, not_lt] at hpaid
          exact absurd ⟨hopen, hpk, hpaid hpk⟩ hcharged
        · exact absurd hcharged.2.1 hpk
        · rfl
      dsimp only
      by_cases hloaded : s.warehouseLoaded = true
      · rw [if_pos hloaded]
        exact keepsStored_of_eq rfl rfl (by dsimp only; omega)
      · rw [if_neg hloaded]
        exact keepsStored_of_eq rfl rfl (by dsimp only; omega)
    | inputItem hreq htable hallowed =>
      refine hfree (inputItem_keepsStored env hs htable hallowed ?_ ?_)
      · exact fun h => hkeeps ⟨_, _, hreq, Or.inl ⟨rfl, Or.inr ⟨_, htable, hallowed, Or.inl h⟩⟩⟩
      · exact fun h => hkeeps ⟨_, _, hreq, Or.inl ⟨rfl, Or.inr ⟨_, htable, hallowed, Or.inr h⟩⟩⟩
    | inputGold hreq hallowed =>
      have hknown := coins_le_of_not_forgets hs fun h =>
        hkeeps ⟨_, _, hreq, Or.inl ⟨rfl, Or.inl ⟨hallowed, h⟩⟩⟩
      obtain ⟨-, -, hgold, hroom⟩ := hallowed
      refine hfree ⟨fun _ _ => le_rfl, ?_, fun _ _ => rfl⟩
      simp only [WarehouseStore.saveWarehouseCoins]
      omega
    | outputItem hreq htable hallowed =>
      refine hfree (outputItem_keepsStored hs htable hallowed ?_ ?_)
      · exact fun h => hkeeps
          ⟨_, _, hreq, Or.inr (Or.inl ⟨rfl, Or.inr ⟨_, htable, hallowed, Or.inl h⟩⟩)⟩
      · exact fun h => hkeeps
          ⟨_, _, hreq, Or.inr (Or.inl ⟨rfl, Or.inr ⟨_, htable, hallowed, Or.inr h⟩⟩)⟩
    | outputGold hreq hallowed =>
      have hknown := coins_le_of_not_forgets hs fun h =>
        hkeeps ⟨_, _, hreq, Or.inr (Or.inl ⟨rfl, Or.inl ⟨hallowed, h⟩⟩)⟩
      obtain ⟨-, hcoins⟩ := hs
      obtain ⟨-, -, hgold, hroom⟩ := hallowed
      refine hfree ⟨fun _ _ => le_rfl, ?_, fun _ _ => rfl⟩
      simp only [WarehouseStore.saveWarehouseCoins]
      omega
    | moved hreq hallowed =>
      refine hfree (moved_keepsStored hs hallowed.1 hallowed.2.1 hallowed.2.2.2 ?_ ?_)
      · exact fun h => hkeeps ⟨_, _, hreq, Or.inr (Or.inr ⟨rfl, hallowed, Or.inl h⟩)⟩
      · exact fun h => hkeeps ⟨_, _, hreq, Or.inr (Or.inr ⟨rfl, hallowed, Or.inr h⟩)⟩
    | movedInBag ha hb hempty =>
      refine hfree ⟨fun id hid => ?_, le_rfl, fun _ _ => rfl⟩
      rw [units_move ha hb hid hempty]

/-- The state after the login: nothing is read yet. -/
structure AfterLogin (s : WarehouseSession) : Prop where
  unloaded : s.warehouseLoaded = false
  warehouse : s.warehouse = []
  innCoins : s.innCoins = 0

/-- A run that also adds up what the openings charged. -/
def payingStep (table : ItemTable) (p : WarehouseSession × ℕ) (i : WarehouseEnv × List UInt8) :
    WarehouseSession × ℕ :=
  (warehouseStep table p.1 i, p.2 + openToll i.1 p.1 i.2)

/-- After any run of requests since the login none of which loses anything by itself, the
rows, the bag, the coins and the gold together hold what they held, less the tolls. -/
theorem stored_contents_kept (table : ItemTable) {s : WarehouseSession}
    {steps : List (WarehouseEnv × List UInt8)} (hlogin : AfterLogin s)
    (hok : Run.Along (payingStep table) (fun p i => ¬ losesStored table i.1 p.1 i.2) (s, 0)
      steps) :
    KeepsStored table (Run.run (payingStep table) (s, 0) steps).2 s
      (Run.run (payingStep table) (s, 0) steps).1 := by
  have hstart : WriteThrough s := by
    have hcoins := hlogin.innCoins
    refine ⟨fun h => ?_, by omega⟩
    rw [hlogin.unloaded] at h
    cases h
  have hstep (p : WarehouseSession × ℕ) (i : WarehouseEnv × List UInt8)
      (hp : WriteThrough p.1 ∧ KeepsStored table p.2 s p.1)
      (hkeeps : ¬ losesStored table i.1 p.1 i.2) :
      WriteThrough (payingStep table p i).1 ∧
        KeepsStored table (payingStep table p i).2 s (payingStep table p i).1 := by
    obtain ⟨hwrite, hitems, hgold, hrows⟩ := hp
    obtain ⟨hitems', hgold', hrows'⟩ := handleWarehouse_keepsStored hwrite hkeeps
    refine ⟨handleWarehouse_writeThrough hwrite, fun id hid => ?_, ?_, fun j hj => ?_⟩
    · exact le_trans (hitems id hid) (hitems' id hid)
    · simp only [payingStep, warehouseStep] at hgold hgold' ⊢
      omega
    · exact (hrows' j hj).trans (hrows j hj)
  have hzero : WriteThrough s ∧ KeepsStored table 0 s s :=
    ⟨hstart, keepsStored_of_eq rfl rfl le_rfl⟩
  have hrun := Run.invariant (fun p => WriteThrough p.1 ∧ KeepsStored table p.2 s p.1) hstep hok
  exact (hrun hzero).2

def innAfterLogin : WarehouseSession where
  inventory := List.replicate INVENTORY_TOTAL {}
  gold := 1000
  warehouse := []
  innCoins := 0
  warehouseLoaded := false
  store := ⟨fun _ => none, 1000000, by decide⟩

def storeGold (count : ℕ) : List UInt8 :=
  [2, 0, 0, 0, 0] ++ Bytes.le 4 ITEM_GOLD ++ [0, 0, 0] ++ Bytes.le 4 count

/-- Opened first, the inn adds the coin to what it holds. -/
theorem stored_contents_kept_opened_first :
    KeepsStored potionTable
      (Run.run (payingStep potionTable) (innAfterLogin, 0)
        [(quietInn, [1]), (quietInn, storeGold 1)]).2
      innAfterLogin
      (Run.run (payingStep potionTable) (innAfterLogin, 0)
        [(quietInn, [1]), (quietInn, storeGold 1)]).1 := by
  refine stored_contents_kept potionTable ⟨rfl, rfl, rfl⟩ ⟨?_, ?_, trivial⟩
  · rintro ⟨op, req, hreq, -⟩
    have hopen : receivedInn quietInn [1] = none := by decide +kernel
    rw [hopen] at hreq
    cases hreq
  · rintro ⟨op, req, hreq, hloses⟩
    have hparsed : receivedInn quietInn (storeGold 1) =
        some (WAREHOUSE_INPUT, ⟨ITEM_GOLD, 0, 0, 0, 1⟩) := by decide +kernel
    obtain ⟨rfl, rfl⟩ := Prod.mk.inj (Option.some.inj (hparsed.symm.trans hreq))
    rcases hloses with ⟨-, ⟨-, hunread, -⟩ | ⟨item, -, hallowed, -⟩⟩ | ⟨hop, -⟩ | ⟨hop, -⟩
    · revert hunread
      decide +kernel
    · exact hallowed.notGold rfl
    · cases hop
    · cases hop

/-- Not opened, it forgets the million: one coin is what it writes back. -/
theorem inn_coins_overwritten :
    ¬ KeepsStored potionTable
      (Run.run (payingStep potionTable) (innAfterLogin, 0) [(quietInn, storeGold 1)]).2
      innAfterLogin
      (Run.run (payingStep potionTable) (innAfterLogin, 0) [(quietInn, storeGold 1)]).1 := by
  rintro ⟨-, hgold, -⟩
  revert hgold
  decide +kernel

end KoServer
