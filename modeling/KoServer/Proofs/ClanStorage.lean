import KoServer.Proofs.Inventory
import KoServer.Proofs.Warehouse
import KoServer.Spec.ClanStorage

/-! What the closures of a clan's storages move. A deposit and a withdrawal each write two slots
under two locks, so the two halves are counted one by one. -/

namespace KoServer

variable {G : Type} {table : ItemTable} {item : Item} {src dst : UserItemSlot} {b b' : ClanStorage G}

namespace ClanStorage

theorem idx_lt {i : ℕ} (b : ClanStorage G) (h : i < WAREHOUSE_MAX) : i < b.items.length := by
  rwa [b.items_length]

theorem slot_setItem_self {i : ℕ} (h : i < WAREHOUSE_MAX) (s : UserItemSlot) :
    (b.setItem i s).slot i = s := Inventory.slot_set_self (b.idx_lt h) s

theorem slot_setItem_ne {i j : ℕ} (h : i ≠ j) (s : UserItemSlot) :
    (b.setItem i s).slot j = b.slot j := Inventory.slot_set_ne h s

theorem units_setItem (table : ItemTable) (id : ℕ) {i : ℕ} (h : i < WAREHOUSE_MAX)
    (s : UserItemSlot) :
    units table id (b.setItem i s).items + slotUnits table id (b.slot i) =
      units table id b.items + slotUnits table id s := units_set table id (b.idx_lt h) s

end ClanStorage

def movedUnits (table : ItemTable) (id itemId count : ℕ) : ℕ :=
  if id = itemId then if nonCountable table itemId then 1 else count else 0

/-- The destination ends with less, or with more, than it had and what was sent. -/
def landsShort (item : Item) (count : ℕ) (dst : UserItemSlot) : Prop :=
  item.countableD ≠ 0 ∧
    unitsLanded item count dst ≠ (if 0 < item.countableD ∧ dst.itemId ≠ 0 then dst.count else 0) + count

/-- A source that is emptied of more than was sent. -/
def leavesShort (item : Item) (count : ℕ) (src : UserItemSlot) : Prop :=
  item.countableD < 0 ∧ src.count ≠ count

instance (item : Item) (count : ℕ) (dst : UserItemSlot) : Decidable (landsShort item count dst) := by
  unfold landsShort
  infer_instance

instance (item : Item) (count : ℕ) (src : UserItemSlot) : Decidable (leavesShort item count src) := by
  unfold leavesShort
  infer_instance

theorem storedItem_count {count nextSerial : ℕ} :
    (storedItem item count nextSerial src dst).count = unitsLanded item count dst :=
  @transferItem_landed item src dst count nextSerial

theorem reducedItem_eq {count : ℕ} : reducedItem item count src =
    if 0 < item.countableD ∧ src.count - count ≠ 0 then { src with count := src.count - count }
    else {} := by
  rw [← @transferItem_left item src {} count 0]
  simp only [reducedItem, transferItem, decide_eq_true_eq]

theorem slotUnits_of_ne {id : ℕ} {s : UserItemSlot} (h : s.itemId ≠ id) : slotUnits table id s = 0 :=
  if_neg h

theorem slotUnits_countable {id : ℕ} {s : UserItemSlot} (hs : s.itemId = id)
    (hid : nonCountable table id = false) : slotUnits table id s = s.count := by
  rw [slotUnits, if_pos hs, hid]
  rfl

theorem slotUnits_nonCountable {id : ℕ} {s : UserItemSlot} (hs : s.itemId = id)
    (hid : nonCountable table id = true) : slotUnits table id s = 1 := by
  rw [slotUnits, if_pos hs, hid]
  rfl

theorem movedUnits_countable {itemId count : ℕ} (h : nonCountable table itemId = false) :
    movedUnits table itemId itemId count = count := by
  rw [movedUnits, if_pos rfl, h]
  rfl

theorem movedUnits_nonCountable {itemId count : ℕ} (h : nonCountable table itemId = true) :
    movedUnits table itemId itemId count = 1 := by
  rw [movedUnits, if_pos rfl, h]
  rfl

theorem storedItem_units {count nextSerial id : ℕ} (htable : table src.itemId = some item)
    (hfree : destinationTaken item src dst = false) (hwhole : ¬ landsShort item count dst)
    (hid : id ≠ 0) :
    slotUnits table id (storedItem item count nextSerial src dst) =
      slotUnits table id dst + movedUnits table id src.itemId count := by
  have hdst := of_destinationTaken hfree
  have harrived : (storedItem item count nextSerial src dst).itemId = src.itemId := rfl
  have hnon := nonCountable_iff_of_some htable
  rcases ne_or_eq src.itemId id with hne | rfl
  · have hdst0 : dst.itemId ≠ id := by
      rcases hdst with h | h
      · rw [h]
        exact hid.symm
      · rwa [h.2]
    rw [slotUnits_of_ne (harrived ▸ hne), slotUnits_of_ne hdst0, movedUnits, if_neg hne.symm]
  cases hzero : nonCountable table src.itemId with
  | true =>
    have hc := hnon.mp hzero
    have hdst0 : dst.itemId = 0 := hdst.resolve_right fun h => by omega
    rw [slotUnits_nonCountable harrived hzero, slotUnits_of_empty table hid hdst0,
      movedUnits_nonCountable hzero]
  | false =>
    have hc : item.countableD ≠ 0 := fun h => by
      rw [hnon.mpr h] at hzero
      cases hzero
    have hlanded := not_not.mp fun h => hwhole ⟨hc, h⟩
    rw [slotUnits_countable harrived hzero, storedItem_count, hlanded, movedUnits_countable hzero]
    congr 1
    rcases hdst with hempty | ⟨hpos, hsame⟩
    · rw [if_neg (fun h => h.2 hempty), slotUnits_of_empty table hid hempty]
    · rw [if_pos ⟨hpos, hsame ▸ hid⟩, slotUnits_countable hsame hzero]

theorem reducedItem_units {count itemId id : ℕ} (htable : table itemId = some item)
    (hsrc : src.itemId = itemId) (hcount : count ≤ src.count) (hwhole : ¬ leavesShort item count src)
    (hid : id ≠ 0) :
    slotUnits table id (reducedItem item count src) + movedUnits table id itemId count =
      slotUnits table id src := by
  have hnon := nonCountable_iff_of_some htable
  rw [reducedItem_eq]
  rcases ne_or_eq itemId id with hne | rfl
  · have hother : src.itemId ≠ id := hsrc ▸ hne
    have hleft : slotUnits table id
        (if 0 < item.countableD ∧ src.count - count ≠ 0 then
          { src with count := src.count - count } else {}) = 0 := by
      split_ifs
      · exact slotUnits_of_ne hother
      · exact slotUnits_empty table hid
    rw [hleft, movedUnits, if_neg hne.symm, slotUnits_of_ne hother]
  cases hzero : nonCountable table itemId with
  | true =>
    have hc := hnon.mp hzero
    rw [if_neg (by omega), slotUnits_empty table hid, slotUnits_nonCountable hsrc hzero,
      movedUnits_nonCountable hzero]
  | false =>
    have hc : item.countableD ≠ 0 := fun h => by
      rw [hnon.mpr h] at hzero
      cases hzero
    rw [slotUnits_countable hsrc hzero, movedUnits_countable hzero]
    split_ifs with hleft
    · have hrest : slotUnits table itemId { src with count := src.count - count } =
          src.count - count := slotUnits_countable hsrc hzero
      rw [hrest]
      omega
    · rw [slotUnits_empty table hid]
      by_cases hpos : 0 < item.countableD
      · omega
      · have := not_not.mp fun h => hwhole ⟨by omega, h⟩
        omega

theorem storeIn_eq_some {count nextSerial whIdx : ℕ} :
    storeIn item count nextSerial whIdx src b = some b' ↔
      destinationTaken item src (b.slot whIdx) = false ∧
        b' = b.setItem whIdx (storedItem item count nextSerial src (b.slot whIdx)) := by
  unfold storeIn
  split_ifs with htaken
  · simp [htaken]
  · simp [htaken, eq_comm]

theorem reduceInventory_eq_some {count srcIdx : ℕ} {inv inv' : Inventory} :
    reduceInventory item count srcIdx inv = some inv' ↔
      srcIdx < inv.length ∧ inv' = inv.set srcIdx (reducedItem item count (inv.slot srcIdx)) := by
  unfold reduceInventory
  split_ifs with h
  · simp [h]
  · simp [not_le.mp h, eq_comm]

theorem readStored_ok {itemId count whIdx : ℕ} (h : readStored itemId count whIdx b = .ok src) :
    src = b.slot whIdx ∧ src.itemId = itemId ∧ count ≤ src.count ∧ src.flag ≠ ITEM_FLAG_DUPLICATE := by
  unfold readStored at h
  dsimp only at h
  split_ifs at h with hbad hdup
  obtain ⟨hid, hcount⟩ := not_or.mp hbad
  obtain rfl := Except.ok.inj h
  exact ⟨rfl, not_not.mp hid, not_lt.mp hcount, hdup⟩

theorem readStored_ne_success {itemId count whIdx : ℕ} {r : ClanResult}
    (h : readStored itemId count whIdx b = .error r) : r ≠ .success := by
  unfold readStored at h
  dsimp only at h
  split_ifs at h <;> obtain rfl := Except.error.inj h <;> decide

theorem addToInventory_eq_some {count nextSerial dstIdx : ℕ} {inv inv' : Inventory} :
    addToInventory item count nextSerial dstIdx src inv = some inv' ↔
      dstIdx < inv.length ∧ destinationTaken item src (inv.slot dstIdx) = false ∧
        inv' = inv.set dstIdx (storedItem item count nextSerial src (inv.slot dstIdx)) := by
  unfold addToInventory
  split_ifs with hlen htaken
  · simp [hlen]
  · simp [htaken]
  · simp [not_le.mp hlen, htaken, eq_comm]

theorem deductStored_eq_some {itemId count whIdx : ℕ} :
    deductStored item itemId count whIdx b = some b' ↔
      (b.slot whIdx).itemId = itemId ∧ count ≤ (b.slot whIdx).count ∧
        b' = b.setItem whIdx (reducedItem item count (b.slot whIdx)) := by
  unfold deductStored
  split_ifs with hbad
  · simp only [false_iff]
    rintro ⟨hid, hcount, -⟩
    exact hbad.elim (fun h => h hid) (fun h => absurd h (not_lt.mpr hcount))
  · obtain ⟨hid, hcount⟩ := not_or.mp hbad
    simp [not_not.mp hid, not_lt.mp hcount, eq_comm]

/-- What a deposit brings. -/
theorem storeIn_units {count nextSerial whIdx id : ℕ} (hwh : whIdx < WAREHOUSE_MAX)
    (htable : table src.itemId = some item)
    (hstore : storeIn item count nextSerial whIdx src b = some b')
    (hwhole : ¬ landsShort item count (b.slot whIdx)) (hid : id ≠ 0) :
    units table id b'.items = units table id b.items + movedUnits table id src.itemId count := by
  obtain ⟨hfree, rfl⟩ := storeIn_eq_some.mp hstore
  have hset := ClanStorage.units_setItem (b := b) table id hwh
    (storedItem item count nextSerial src (b.slot whIdx))
  have harrives := @storedItem_units table item src _ count nextSerial id htable hfree hwhole hid
  omega

end KoServer
