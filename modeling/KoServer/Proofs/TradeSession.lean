import KoServer.Proofs.Inventory
import KoServer.Spec.Trade

/-! One side of a trade. Its offers are in escrow: what a player holds is what is in the slots
and what is on the list. -/

namespace KoServer

section Held

variable (table : ItemTable) (id : ℕ)

def offeredUnits (ex : ExchangeItem) : ℕ :=
  if ex.itemId = id ∧ ex.itemId ≠ ITEM_GOLD then if nonCountable table id then 1 else ex.count
  else 0

def offeredGold (ex : ExchangeItem) : ℕ := if ex.itemId = ITEM_GOLD then ex.count else 0

def offeredFrom (p : ℕ) (ex : ExchangeItem) : ℕ :=
  if ex.srcPos = p ∧ ex.itemId ≠ ITEM_GOLD then ex.count else 0

def Session.held (h : Session) : ℕ :=
  units table id h.inventory + Tally.total (offeredUnits table id) h.exchangeItems

def Session.coins (h : Session) : ℕ := h.gold + Tally.total offeredGold h.exchangeItems

section

variable {ex : ExchangeItem}

theorem offeredUnits_gold (h : ex.itemId = ITEM_GOLD) : offeredUnits table id ex = 0 :=
  if_neg fun hex => hex.2 h

theorem offeredUnits_item (h : ex.itemId ≠ ITEM_GOLD) : offeredUnits table id ex =
    if ex.itemId = id then if nonCountable table id then 1 else ex.count else 0 := by
  unfold offeredUnits
  simp only [ne_eq, h, not_false_eq_true, and_true]

theorem offeredGold_gold (h : ex.itemId = ITEM_GOLD) : offeredGold ex = ex.count := if_pos h

theorem offeredGold_item (h : ex.itemId ≠ ITEM_GOLD) : offeredGold ex = 0 := if_neg h

end

end Held

/-- A list without gold asks nothing of the purse, another that it stays below the cap. -/
def GoldFits (gold : ℕ) (items : List ExchangeItem) : Prop :=
  (∀ ex ∈ items, ex.itemId ≠ ITEM_GOLD) ∨ gold + Tally.total offeredGold items ≤ COIN_MAX

section

variable {gold : ℕ} {ex : ExchangeItem} {items : List ExchangeItem}

instance : Decidable (GoldFits gold items) := by
  unfold GoldFits
  infer_instance

theorem total_offeredGold_none (hnone : ∀ ex ∈ items, ex.itemId ≠ ITEM_GOLD) :
    Tally.total offeredGold items = 0 := by
  induction items with
  | nil => rfl
  | cons ex items ih =>
    obtain ⟨hex, hrest⟩ := List.forall_mem_cons.mp hnone
    rw [Tally.total_cons, offeredGold_item hex, ih hrest]

theorem GoldFits.le (h : GoldFits gold items) (hle : gold ≤ COIN_MAX) :
    gold + Tally.total offeredGold items ≤ COIN_MAX := by
  rcases h with hnone | hfits
  · rwa [total_offeredGold_none hnone]
  · exact hfits

theorem GoldFits.lt (h : GoldFits gold items) (hlt : gold < 2 ^ 32) :
    gold + Tally.total offeredGold items < 2 ^ 32 := by
  rcases h with hnone | hfits
  · rwa [total_offeredGold_none hnone]
  · exact hfits.trans_lt (by decide)

theorem GoldFits.cons_item (h : GoldFits gold items) (hgold : ex.itemId ≠ ITEM_GOLD) :
    GoldFits gold (ex :: items) := by
  rcases h with hnone | hle
  · exact .inl (List.forall_mem_cons.mpr ⟨hgold, hnone⟩)
  · refine .inr ?_
    rwa [Tally.total_cons, offeredGold_item hgold, Nat.zero_add]

theorem GoldFits.of_item (h : GoldFits gold (ex :: items)) (hgold : ex.itemId ≠ ITEM_GOLD) :
    GoldFits gold items := by
  rcases h with hnone | hle
  · exact .inl (List.forall_mem_cons.mp hnone).2
  · rw [Tally.total_cons, offeredGold_item hgold, Nat.zero_add] at hle
    exact .inr hle

theorem GoldFits.of_gold (h : GoldFits gold (ex :: items)) (hgold : ex.itemId = ITEM_GOLD) :
    gold + ex.count + Tally.total offeredGold items ≤ COIN_MAX := by
  rcases h with hnone | hle
  · exact absurd hgold (hnone ex List.mem_cons_self)
  · rw [Tally.total_cons, offeredGold_gold hgold] at hle
    omega

theorem goldGain_fits (h : GoldFits gold (ex :: items)) (hgold : ex.itemId = ITEM_GOLD) :
    goldGain gold ex.count = gold + offeredGold ex ∧ GoldFits (goldGain gold ex.count) items := by
  have hle := h.of_gold hgold
  have hgain : goldGain gold ex.count = gold + ex.count := if_neg (by omega)
  rw [hgain, offeredGold_gold hgold]
  exact ⟨rfl, .inr hle⟩

end

theorem nonCountable_iff {table : ItemTable} {id : ℕ} :
    nonCountable table id = true ↔ countableOf table id = 0 := by
  simp [nonCountable, countableOf]

structure TidySlot (s : UserItemSlot) : Prop where
  count_le : s.count ≤ ITEMCOUNT_MAX
  empty : s.itemId = 0 → s.count = 0

def Tidy (inv : Inventory) : Prop := ∀ i, TidySlot (inv.slot i)

theorem tidySlot_default : TidySlot {} := ⟨Nat.zero_le _, fun _ => rfl⟩

theorem Tidy.set {inv : Inventory} (h : Tidy inv) (i : ℕ) {s : UserItemSlot} (hs : TidySlot s) :
    Tidy (inv.set i s) := by
  intro j
  rcases Nat.lt_or_ge i inv.length with hi | hi
  · rcases eq_or_ne i j with rfl | hne
    · rwa [Inventory.slot_set_self hi]
    · rw [Inventory.slot_set_ne hne]
      exact h j
  · rw [List.set_eq_of_length_le hi]
    exact h j

variable {table : ItemTable} {inv : Inventory} {ex : ExchangeItem} {id : ℕ}

section Return

variable (table) in
structure Home (inv : Inventory) (ex : ExchangeItem) : Prop where
  inRange : ex.srcPos < inv.length
  itemId_ne : ex.itemId ≠ 0
  fits : (inv.slot ex.srcPos).itemId = 0 ∨
    (inv.slot ex.srcPos).itemId = ex.itemId ∧ nonCountable table ex.itemId = false

def ExchangeItem.key (ex : ExchangeItem) : ℕ × ℕ := (ex.itemId, ex.srcPos)

variable (table) in
/-- Two offers from one slot are of one stackable item. -/
def Compatible (k k' : ℕ × ℕ) : Prop :=
  k.1 ≠ ITEM_GOLD → k'.1 ≠ ITEM_GOLD → k.2 = k'.2 → k.1 = k'.1 ∧ nonCountable table k.1 = false

/-- The slot it came from holds what it held and what comes back. -/
theorem returnItem_eq (hhome : Home table inv ex) (htidy : Tidy inv)
    (hroom : (inv.slot ex.srcPos).count + ex.count ≤ ITEMCOUNT_MAX) :
    ∃ s, returnItem inv ex = inv.set ex.srcPos s ∧ s.itemId = ex.itemId ∧
      s.count = (inv.slot ex.srcPos).count + ex.count := by
  obtain ⟨hrange, hid, hfits⟩ := hhome
  have hmax : ITEMCOUNT_MAX = 9999 := rfl
  unfold returnItem asU16
  rw [if_neg (not_le.mpr hrange)]
  dsimp only
  by_cases hsame : (inv.slot ex.srcPos).itemId = ex.itemId
  · rw [if_pos hsame]
    refine ⟨_, rfl, hsame, ?_⟩
    dsimp only
    omega
  · have hempty : (inv.slot ex.srcPos).itemId = 0 := hfits.resolve_right fun h => hsame h.1
    have hzero := (htidy ex.srcPos).empty hempty
    rw [if_neg hsame, if_pos hempty]
    refine ⟨_, rfl, rfl, ?_⟩
    dsimp only
    omega

theorem units_returnItem (hhome : Home table inv ex) (htidy : Tidy inv)
    (hroom : (inv.slot ex.srcPos).count + ex.count ≤ ITEMCOUNT_MAX) (hgold : ex.itemId ≠ ITEM_GOLD)
    (hid : id ≠ 0) :
    units table id (returnItem inv ex) = units table id inv + offeredUnits table id ex := by
  obtain ⟨s, hset, hitem, hcount⟩ := returnItem_eq hhome htidy hroom
  obtain ⟨hrange, -, hfits⟩ := hhome
  have hunits := units_set table id hrange s
  rw [← hset] at hunits
  have hslot : slotUnits table id s = slotUnits table id (inv.slot ex.srcPos) +
      offeredUnits table id ex := by
    unfold slotUnits offeredUnits
    rw [hitem, hcount]
    rcases hfits with hempty | ⟨hsame, hstack⟩
    · have hzero := (htidy ex.srcPos).empty hempty
      rw [hempty, hzero, if_neg hid.symm]
      simp [hgold]
    · rw [hsame]
      by_cases h : ex.itemId = id
      · subst h
        simp [hgold, hstack]
      · simp [h]
  omega

/-- What a list of offers needs to go back: every slot is open to its offers and has room for
all of them, and so has the purse. -/
structure Returnable (table : ItemTable) (h : Session) (items : List ExchangeItem) : Prop where
  tidy : Tidy h.inventory
  home : ∀ ex ∈ items, ex.itemId ≠ ITEM_GOLD → Home table h.inventory ex
  compatible : (items.map ExchangeItem.key).Pairwise (Compatible table)
  room : ∀ p, (h.inventory.slot p).count + Tally.total (offeredFrom p) items ≤ ITEMCOUNT_MAX
  gold : GoldFits h.gold items

theorem offeredFrom_self (hgold : ex.itemId ≠ ITEM_GOLD) : offeredFrom ex.srcPos ex = ex.count :=
  if_pos ⟨rfl, hgold⟩

/-- One offer goes back, and the others still can. -/
theorem returnable_giveItemBack {h : Session} {items : List ExchangeItem}
    (hr : Returnable table h (ex :: items)) : Returnable table (h.giveItemBack ex) items := by
  obtain ⟨htidy, hhome, hcompatible, hroom, hfits⟩ := hr
  obtain ⟨hfirst, hrest⟩ := List.pairwise_cons.mp hcompatible
  simp only [Tally.total_cons] at hroom
  unfold Session.giveItemBack
  split_ifs with hgold
  · refine ⟨htidy, fun e he => hhome e (List.mem_cons_of_mem ex he), hrest, fun p => ?_,
      (goldGain_fits hfits hgold).2⟩
    have := hroom p
    show (h.inventory.slot p).count + _ ≤ _
    omega
  · have hback := hhome ex List.mem_cons_self hgold
    have hsrc := hroom ex.srcPos
    rw [offeredFrom_self hgold] at hsrc
    obtain ⟨s, hset, hitem, hcount⟩ := returnItem_eq hback htidy (by omega)
    have hself : (returnItem h.inventory ex).slot ex.srcPos = s := by
      rw [hset, Inventory.slot_set_self hback.inRange]
    have hother : ∀ p, ex.srcPos ≠ p → (returnItem h.inventory ex).slot p = h.inventory.slot p := by
      intro p hp
      rw [hset, Inventory.slot_set_ne hp]
    refine ⟨?_, fun e he hne => ?_, hrest, fun p => ?_, hfits.of_item hgold⟩
    · show Tidy (returnItem h.inventory ex)
      rw [hset]
      refine htidy.set _ ⟨by omega, fun h0 => absurd (hitem.symm.trans h0) hback.itemId_ne⟩
    · have hopen := hhome e (List.mem_cons_of_mem ex he) hne
      refine ⟨?_, hopen.itemId_ne, ?_⟩
      · show e.srcPos < (returnItem h.inventory ex).length
        rw [hset, List.length_set]
        exact hopen.inRange
      · show ((returnItem h.inventory ex).slot e.srcPos).itemId = 0 ∨
          ((returnItem h.inventory ex).slot e.srcPos).itemId = e.itemId ∧ _
        rcases eq_or_ne ex.srcPos e.srcPos with hp | hp
        · have hsame := hfirst e.key (List.mem_map_of_mem he) hgold hne hp
          obtain ⟨hid, hstack⟩ : ex.itemId = e.itemId ∧ nonCountable table ex.itemId = false := hsame
          rw [← hp, hself, hitem, ← hid]
          exact Or.inr ⟨rfl, hstack⟩
        · rw [hother _ hp]
          exact hopen.fits
    · show ((returnItem h.inventory ex).slot p).count + _ ≤ _
      have := hroom p
      rcases eq_or_ne ex.srcPos p with rfl | hp
      · rw [offeredFrom_self hgold] at this
        rw [hself, hcount]
        omega
      · rw [hother _ hp]
        omega

theorem giveItemBack_holds {h : Session} {items : List ExchangeItem}
    (hr : Returnable table h (ex :: items)) (hid : id ≠ 0) :
    units table id (h.giveItemBack ex).inventory =
        units table id h.inventory + offeredUnits table id ex ∧
      (h.giveItemBack ex).gold = h.gold + offeredGold ex := by
  have hsrc := hr.room ex.srcPos
  simp only [Tally.total_cons] at hsrc
  unfold Session.giveItemBack
  split_ifs with hgold
  · refine ⟨?_, (goldGain_fits hr.gold hgold).1⟩
    show units table id h.inventory = _
    simp [offeredUnits, hgold]
  · rw [offeredFrom_self hgold] at hsrc
    refine ⟨?_, ?_⟩
    · exact units_returnItem (hr.home ex List.mem_cons_self hgold) hr.tidy (by omega) hgold hid
    · show h.gold = _
      simp [offeredGold, hgold]

theorem foldl_giveItemBack {h : Session} {items : List ExchangeItem}
    (hr : Returnable table h items) :
    Tidy (items.foldl Session.giveItemBack h).inventory ∧
      (∀ id, id ≠ 0 → units table id (items.foldl Session.giveItemBack h).inventory =
        units table id h.inventory + Tally.total (offeredUnits table id) items) ∧
      (items.foldl Session.giveItemBack h).gold = h.gold + Tally.total offeredGold items := by
  induction items generalizing h with
  | nil => exact ⟨hr.tidy, fun _ _ => rfl, rfl⟩
  | cons ex items ih =>
    obtain ⟨htidy, hunits, hgold⟩ := ih (returnable_giveItemBack hr)
    refine ⟨htidy, fun id hid => ?_, ?_⟩
    · rw [List.foldl_cons, hunits id hid, (giveItemBack_holds hr hid).1, Tally.total_cons]
      omega
    · rw [List.foldl_cons, hgold, (giveItemBack_holds hr one_ne_zero).2, Tally.total_cons]
      omega

end Return

section Delivery

theorem nodup_bagSlots : bagSlots.Nodup := by decide

/-- One slot that is written takes at most one free slot away. -/
theorem countFreeSlots_set (i : ℕ) (s : UserItemSlot) :
    countFreeSlots inv ≤ countFreeSlots (inv.set i s) + 1 := by
  apply Tally.countP_le_succ nodup_bagSlots i
  intro j _ hne hfree
  simpa [freeSlot, Inventory.slot_set_ne hne.symm] using hfree

/-- A slot that was found is empty, or has a stack of the item with room. -/
theorem findSlotForItem_spec {itemId count i : ℕ}
    (h : findSlotForItem table inv itemId count = some i) :
    i < inv.length ∧ ((inv.slot i).itemId = 0 ∨
      (inv.slot i).itemId = itemId ∧ ((inv.slot i).count + count) % 2 ^ 16 ≤ ITEMCOUNT_MAX) := by
  have hfree : ∀ j, bagSlots.find? (freeSlot inv) = some j →
      j < inv.length ∧ (inv.slot j).itemId = 0 := by
    intro j hj
    simpa [freeSlot] using List.find?_some hj
  unfold findSlotForItem at h
  split at h
  · cases h
  · split_ifs at h
    · split at h
      · next j hj =>
        obtain rfl := Option.some.inj h
        have hstack := List.find?_some hj
        simp only [stackWithRoom, Bool.and_eq_true, decide_eq_true_eq] at hstack
        exact ⟨hstack.1.1, Or.inr ⟨hstack.1.2, hstack.2⟩⟩
      · exact ⟨(hfree i h).1, Or.inl (hfree i h).2⟩
    · exact ⟨(hfree i h).1, Or.inl (hfree i h).2⟩

theorem findSlotForItem_mem {itemId count i : ℕ}
    (h : findSlotForItem table inv itemId count = some i) : i ∈ bagSlots := by
  unfold findSlotForItem at h
  split at h
  · cases h
  · split_ifs at h
    · split at h
      · next j hj =>
        obtain rfl := Option.some.inj h
        exact List.mem_of_find?_eq_some hj
      · exact List.mem_of_find?_eq_some h
    · exact List.mem_of_find?_eq_some h

theorem findSlotForItem_isSome {itemId : ℕ} (count : ℕ) (hknown : (table itemId).isSome)
    (hfree : 0 < countFreeSlots inv) : ∃ i, findSlotForItem table inv itemId count = some i := by
  have hsome : (bagSlots.find? (freeSlot inv)).isSome := by
    rw [List.find?_isSome]
    exact List.countP_pos_iff.mp hfree
  obtain ⟨item, hitem⟩ := Option.isSome_iff_exists.mp hknown
  obtain ⟨j, hj⟩ := Option.isSome_iff_exists.mp hsome
  unfold findSlotForItem
  rw [hitem]
  dsimp only
  split_ifs
  · split
    · exact ⟨_, rfl⟩
    · exact ⟨j, hj⟩
  · exact ⟨j, hj⟩

variable (table) in
/-- An offer that a delivery carries over in full. -/
structure Deliverable (ex : ExchangeItem) : Prop where
  known : (table ex.itemId).isSome
  stackable : nonCountable table ex.itemId = false
  itemId_ne : ex.itemId ≠ 0
  count_le : ex.count ≤ ITEMCOUNT_MAX

theorem placeItem_eq (hd : Deliverable table ex) (htidy : Tidy inv) {i : ℕ}
    (hfind : findSlotForItem table inv ex.itemId (asU16 ex.count) = some i) :
    ∃ s, placeItem table inv i ex = inv.set i s ∧ s.itemId = ex.itemId ∧
      s.count = (inv.slot i).count + ex.count ∧ s.count ≤ ITEMCOUNT_MAX := by
  obtain ⟨hrange, hfits⟩ := findSlotForItem_spec hfind
  have hcountable : countableOf table ex.itemId ≠ 0 := by
    intro hzero
    have hstack := hd.stackable
    rw [nonCountable_iff.mpr hzero] at hstack
    cases hstack
  have hmax : ITEMCOUNT_MAX = 9999 := rfl
  have hle := hd.count_le
  have hslot := (htidy i).count_le
  have hempty := (htidy i).empty
  unfold placeItem
  unfold asU16 at hfits ⊢
  rw [if_neg (not_le.mpr hrange)]
  dsimp only
  rw [if_neg hcountable]
  refine ⟨_, rfl, rfl, ?_, ?_⟩
  · dsimp only
    omega
  · dsimp only
    omega

structure Received (table : ItemTable) (ex : ExchangeItem) (inv inv' : Inventory) : Prop where
  tidy : Tidy inv'
  length : inv'.length = inv.length
  units : ∀ id, id ≠ 0 → units table id inv' = units table id inv + offeredUnits table id ex
  free : countFreeSlots inv ≤ countFreeSlots inv' + 1
  keeps : ∀ j, (inv.slot j).itemId ≠ 0 → (inv'.slot j).itemId = (inv.slot j).itemId

theorem received_placeItem (hd : Deliverable table ex) (hgold : ex.itemId ≠ ITEM_GOLD)
    (htidy : Tidy inv) {i : ℕ}
    (hfind : findSlotForItem table inv ex.itemId (asU16 ex.count) = some i) :
    Received table ex inv (placeItem table inv i ex) := by
  obtain ⟨hrange, hfits⟩ := findSlotForItem_spec hfind
  obtain ⟨s, hset, hitem, hcount, hle⟩ := placeItem_eq hd htidy hfind
  rw [hset]
  refine ⟨?_, List.length_set, ?_, ?_, ?_⟩
  · exact htidy.set i ⟨hle, fun h0 => absurd (hitem.symm.trans h0) hd.itemId_ne⟩
  · intro id hid
    have hunits := units_set table id hrange s
    have hslot : slotUnits table id s =
        slotUnits table id (inv.slot i) + offeredUnits table id ex := by
      unfold slotUnits offeredUnits
      rw [hitem, hcount]
      by_cases hsame : ex.itemId = id
      · subst hsame
        have hstack := hd.stackable
        rcases hfits with hempty | ⟨hsame, -⟩
        · have hzero := (htidy i).empty hempty
          simp [hempty, hzero, hid.symm, hgold, hstack]
        · simp [hsame, hgold, hstack]
      · rcases hfits with hempty | ⟨hitem', -⟩
        · simp [hsame, hempty, hid.symm]
        · simp [hsame, hitem']
    omega
  · exact countFreeSlots_set i s
  · intro j hj
    rcases eq_or_ne i j with rfl | hne
    · rw [Inventory.slot_set_self hrange, hitem]
      exact (hfits.resolve_left hj).1.symm
    · rw [Inventory.slot_set_ne hne]

structure Receivable (table : ItemTable) (h : Session) (items : List ExchangeItem) : Prop where
  tidy : Tidy h.inventory
  deliverable : ∀ ex ∈ items, ex.itemId ≠ ITEM_GOLD → Deliverable table ex
  free : items.countP (·.itemId ≠ ITEM_GOLD) ≤ countFreeSlots h.inventory
  gold : GoldFits h.gold items

theorem receiveItem_spec {h : Session} {items : List ExchangeItem}
    (hr : Receivable table h (ex :: items)) :
    Receivable table (h.receiveItem table ex) items ∧
      (h.receiveItem table ex).inventory.length = h.inventory.length ∧
      (∀ id, id ≠ 0 → units table id (h.receiveItem table ex).inventory =
        units table id h.inventory + offeredUnits table id ex) ∧
      (h.receiveItem table ex).gold = h.gold + offeredGold ex ∧
      ∀ j, (h.inventory.slot j).itemId ≠ 0 →
        ((h.receiveItem table ex).inventory.slot j).itemId = (h.inventory.slot j).itemId := by
  obtain ⟨htidy, hdeliverable, hfree, hfits⟩ := hr
  have hrest : ∀ e ∈ items, e.itemId ≠ ITEM_GOLD → Deliverable table e :=
    fun e he => hdeliverable e (List.mem_cons_of_mem ex he)
  rw [List.countP_cons] at hfree
  unfold Session.receiveItem
  by_cases hgold : ex.itemId = ITEM_GOLD
  · obtain ⟨hgain, hfits'⟩ := goldGain_fits hfits hgold
    rw [if_pos hgold]
    refine ⟨⟨htidy, hrest, ?_, hfits'⟩, rfl, fun id _ => ?_, hgain, fun _ _ => rfl⟩
    · exact le_trans (Nat.le_add_right _ _) hfree
    · show units table id h.inventory = _
      simp [offeredUnits, hgold]
  · have hd := hdeliverable ex List.mem_cons_self hgold
    rw [if_pos (by simpa using hgold)] at hfree
    obtain ⟨i, hfind⟩ := findSlotForItem_isSome (asU16 ex.count) hd.known
      (Nat.lt_of_lt_of_le (Nat.succ_pos _) hfree)
    have hplace := received_placeItem hd hgold htidy hfind
    have hzero : offeredGold ex = 0 := if_neg hgold
    rw [if_neg hgold, hfind]
    have := hplace.free
    refine ⟨⟨hplace.tidy, hrest, ?_, hfits.of_item hgold⟩, hplace.length, hplace.units, ?_,
      hplace.keeps⟩
    · dsimp only
      omega
    · rw [hzero]
      rfl

theorem foldl_receiveItem {h : Session} {items : List ExchangeItem}
    (hr : Receivable table h items) :
    Tidy (items.foldl (Session.receiveItem table) h).inventory ∧
      (items.foldl (Session.receiveItem table) h).inventory.length = h.inventory.length ∧
      (∀ id, id ≠ 0 → units table id (items.foldl (Session.receiveItem table) h).inventory =
        units table id h.inventory + Tally.total (offeredUnits table id) items) ∧
      (items.foldl (Session.receiveItem table) h).gold = h.gold + Tally.total offeredGold items ∧
      ∀ j, (h.inventory.slot j).itemId ≠ 0 →
        ((items.foldl (Session.receiveItem table) h).inventory.slot j).itemId =
          (h.inventory.slot j).itemId := by
  induction items generalizing h with
  | nil => exact ⟨hr.tidy, rfl, fun _ _ => rfl, rfl, fun _ _ => rfl⟩
  | cons ex items ih =>
    obtain ⟨hr', hlen, hunits, hgold, hkeeps⟩ := receiveItem_spec hr
    obtain ⟨htidy, hlen', hunits', hgold', hkeeps'⟩ := ih hr'
    refine ⟨htidy, hlen'.trans hlen, fun id hid => ?_, ?_, fun j hj => ?_⟩
    · rw [List.foldl_cons, hunits' id hid, hunits id hid, Tally.total_cons]
      omega
    · rw [List.foldl_cons, hgold', hgold, Tally.total_cons]
      omega
    · rw [List.foldl_cons, hkeeps' j (by rwa [hkeeps j hj]), hkeeps j hj]

end Delivery

section Clearing

variable (table) in
def Clearable (inv : Inventory) (p : ℕ) : Prop :=
  (inv.slot p).itemId = 0 ∨ nonCountable table (inv.slot p).itemId = false

theorem units_clear {p : ℕ} (hrange : p < inv.length) (hzero : (inv.slot p).count = 0)
    (hclear : Clearable table inv p) (hid : id ≠ 0) :
    units table id (inv.set p {}) = units table id inv := by
  have hlost : slotUnits table id (inv.slot p) = 0 := by
    rcases hclear with hempty | hstack
    · exact slotUnits_of_empty table hid hempty
    · unfold slotUnits
      split_ifs with hsame hnon
      · rw [hsame, hnon] at hstack
        cases hstack
      · exact hzero
      · rfl
  have hset := units_set table id hrange {}
  rw [hlost, slotUnits_empty table hid] at hset
  exact hset

theorem Clearable.set {p q : ℕ} (h : Clearable table inv q) (hrange : p < inv.length) :
    Clearable table (inv.set p {}) q := by
  unfold Clearable
  rcases eq_or_ne p q with rfl | hne
  · left
    rw [Inventory.slot_set_self hrange]
  · rw [Inventory.slot_set_ne hne]
    exact h

theorem clearSource_spec {h : Session} (htidy : Tidy h.inventory)
    (hclear : ex.itemId ≠ ITEM_GOLD → Clearable table h.inventory ex.srcPos) :
    Tidy (h.clearSource ex).inventory ∧
      (∀ p, Clearable table h.inventory p → Clearable table (h.clearSource ex).inventory p) ∧
      (∀ id, id ≠ 0 → units table id (h.clearSource ex).inventory = units table id h.inventory) ∧
      (h.clearSource ex).gold = h.gold := by
  unfold Session.clearSource
  split_ifs with hgold hslot
  · exact ⟨htidy, fun _ hp => hp, fun _ _ => rfl, rfl⟩
  · obtain ⟨hrange, hzero⟩ := hslot
    refine ⟨htidy.set ex.srcPos tidySlot_default, fun p hp => hp.set hrange, fun id hid => ?_, rfl⟩
    exact units_clear hrange hzero (hclear hgold) hid
  · exact ⟨htidy, fun _ hp => hp, fun _ _ => rfl, rfl⟩

theorem foldl_clearSource {h : Session} {items : List ExchangeItem} (htidy : Tidy h.inventory)
    (hclear : ∀ ex ∈ items, ex.itemId ≠ ITEM_GOLD → Clearable table h.inventory ex.srcPos) :
    Tidy (items.foldl Session.clearSource h).inventory ∧
      (∀ id, id ≠ 0 → units table id (items.foldl Session.clearSource h).inventory =
        units table id h.inventory) ∧
      (items.foldl Session.clearSource h).gold = h.gold := by
  induction items generalizing h with
  | nil => exact ⟨htidy, fun _ _ => rfl, rfl⟩
  | cons ex items ih =>
    obtain ⟨hfirst, hrest⟩ := List.forall_mem_cons.mp hclear
    obtain ⟨htidy', hkeep, hunits, hgold⟩ := clearSource_spec htidy hfirst
    obtain ⟨htidy'', hunits', hgold'⟩ := ih htidy' fun e he hne => hkeep _ (hrest e he hne)
    refine ⟨htidy'', fun id hid => ?_, hgold'.trans hgold⟩
    rw [List.foldl_cons, hunits' id hid, hunits id hid]

end Clearing

section Offers

def offeredCount (id : ℕ) (ex : ExchangeItem) : ℕ :=
  if ex.itemId = id ∧ ex.itemId ≠ ITEM_GOLD then ex.count else 0

def bagStock (id : ℕ) (inv : Inventory) : ℕ := Tally.total (fun i => stack id (inv.slot i)) bagSlots

variable {items items' : List ExchangeItem} {itemId count : ℕ}

theorem update_keys (h : updateExchangeItemCount itemId count items = some items') :
    items'.map ExchangeItem.key = items.map ExchangeItem.key := by
  induction items generalizing items' with
  | nil => cases h
  | cons ex items ih =>
    unfold updateExchangeItemCount at h
    split_ifs at h
    · obtain rfl := Option.some.inj h
      rfl
    · obtain ⟨rest, hrest, rfl⟩ := Option.map_eq_some_iff.mp h
      rw [List.map_cons, List.map_cons, ih hrest]

/-- One entry of the item has grown, as far as it can. -/
theorem update_total (h : updateExchangeItemCount itemId count items = some items') :
    ∃ ex ∈ items, ex.itemId = itemId ∧ ∀ f : ExchangeItem → ℕ,
      Tally.total f items' + f ex =
        Tally.total f items + f { ex with count := min (ex.count + count) (2 ^ 32 - 1) } := by
  induction items generalizing items' with
  | nil => cases h
  | cons ex items ih =>
    unfold updateExchangeItemCount at h
    split_ifs at h with hid
    · obtain rfl := Option.some.inj h
      refine ⟨ex, List.mem_cons_self, hid, fun f => ?_⟩
      rw [Tally.total_cons, Tally.total_cons]
      omega
    · obtain ⟨rest, hrest, rfl⟩ := Option.map_eq_some_iff.mp h
      obtain ⟨e, he, hitem, htotal⟩ := ih hrest
      refine ⟨e, List.mem_cons_of_mem ex he, hitem, fun f => ?_⟩
      have := htotal f
      rw [Tally.total_cons, Tally.total_cons]
      omega

theorem update_none (h : updateExchangeItemCount itemId count items = none) :
    ∀ ex ∈ items, ex.itemId ≠ itemId := by
  induction items with
  | nil => intro ex hex; cases hex
  | cons ex items ih =>
    unfold updateExchangeItemCount at h
    split_ifs at h with hid
    exact List.forall_mem_cons.mpr ⟨hid, ih (Option.map_eq_none_iff.mp h)⟩

/-- An invariant of either side of a trade: the offers could go back, were there room, and
nothing in the lists is near the end of its range. -/
structure Sound (table : ItemTable) (h : Session) : Prop where
  tidy : Tidy h.inventory
  home : ∀ ex ∈ h.exchangeItems, ex.itemId ≠ ITEM_GOLD → Home table h.inventory ex
  compatible : (h.exchangeItems.map ExchangeItem.key).Pairwise (Compatible table)
  oneGold : h.exchangeItems.countP (·.itemId = ITEM_GOLD) ≤ 1
  coins : h.coins < 2 ^ 32
  stock : ∀ id, bagStock id h.inventory + Tally.total (offeredCount id) h.exchangeItems ≤
    HAVE_MAX * ITEMCOUNT_MAX

theorem Sound.gold_lt {h : Session} (hs : Sound table h) : h.gold < 2 ^ 32 :=
  (Nat.le_add_right _ _).trans_lt hs.coins

theorem bagStock_le (h : Tidy inv) (id : ℕ) : bagStock id inv ≤ HAVE_MAX * ITEMCOUNT_MAX := by
  apply Tally.total_le_of_forall_le
  intro i _
  unfold stack
  split_ifs
  · exact (h i).count_le
  · exact Nat.zero_le _

theorem sound_of_no_offers {h : Session} (htidy : Tidy h.inventory) (hgold : h.gold < 2 ^ 32)
    (hno : h.exchangeItems = []) : Sound table h := by
  refine ⟨htidy, ?_, ?_, ?_, ?_, ?_⟩
  · rw [hno]
    intro ex hex
    cases hex
  · rw [hno]
    exact List.Pairwise.nil
  · rw [hno, List.countP_nil]
    exact Nat.zero_le _
  · rw [Session.coins, hno, Tally.total_nil, Nat.add_zero]
    exact hgold
  · intro id
    rw [hno, Tally.total_nil, Nat.add_zero]
    exact bagStock_le htidy id

theorem bagStock_set {i : ℕ} (hi : i ∈ bagSlots) (hrange : i < inv.length) (s : UserItemSlot)
    (id : ℕ) : bagStock id (inv.set i s) + stack id (inv.slot i) = bagStock id inv + stack id s := by
  have hother : ∀ j, j ≠ i → stack id (Inventory.slot (inv.set i s) j) = stack id (inv.slot j) :=
    fun j hj => congrArg (stack id) (Inventory.slot_set_ne hj.symm s)
  have h := Tally.total_update nodup_bagSlots hi hother
  rw [Inventory.slot_set_self hrange] at h
  exact h

theorem offeredCount_item (h : ex.itemId ≠ ITEM_GOLD) :
    offeredCount id ex = if ex.itemId = id then ex.count else 0 := by
  unfold offeredCount
  simp only [ne_eq, h, not_false_eq_true, and_true]

theorem offeredCount_gold (h : ex.itemId = ITEM_GOLD) : offeredCount id ex = 0 :=
  if_neg fun hex => hex.2 h

theorem exists_key (hkeys : items'.map ExchangeItem.key = items.map ExchangeItem.key)
    (hex : ex ∈ items') : ∃ e ∈ items, e.itemId = ex.itemId ∧ e.srcPos = ex.srcPos := by
  have hmem : ex.key ∈ items.map ExchangeItem.key := hkeys ▸ List.mem_map_of_mem hex
  obtain ⟨e, he, hkey⟩ := List.mem_map.mp hmem
  obtain ⟨hid, hsrc⟩ := Prod.mk.inj hkey
  exact ⟨e, he, hid, hsrc⟩

theorem Home.congr {e : ExchangeItem} (h : Home table inv e) (hid : e.itemId = ex.itemId)
    (hsrc : e.srcPos = ex.srcPos) : Home table inv ex := by
  obtain ⟨hrange, hid0, hfits⟩ := h
  rw [hid] at hid0 hfits
  rw [hsrc] at hrange hfits
  exact ⟨hrange, hid0, hfits⟩

theorem home_of_keys (h : ∀ ex ∈ items, ex.itemId ≠ ITEM_GOLD → Home table inv ex)
    (hkeys : items'.map ExchangeItem.key = items.map ExchangeItem.key) :
    ∀ ex ∈ items', ex.itemId ≠ ITEM_GOLD → Home table inv ex := by
  intro ex hex hne
  obtain ⟨e, he, hid, hsrc⟩ := exists_key hkeys hex
  exact (h e he (hid ▸ hne)).congr hid hsrc

theorem countP_gold_of_keys (hkeys : items'.map ExchangeItem.key = items.map ExchangeItem.key) :
    items'.countP (·.itemId = ITEM_GOLD) = items.countP (·.itemId = ITEM_GOLD) := by
  have h := congrArg (List.countP fun k : ℕ × ℕ => decide (k.1 = ITEM_GOLD)) hkeys
  rw [List.countP_map, List.countP_map] at h
  exact h

theorem offerGold_eq {h : Session} (hcoins : h.coins < 2 ^ 32) (hcount : count ≤ h.gold)
    (hhome : ∀ ex ∈ h.exchangeItems, ex.itemId ≠ ITEM_GOLD → Home table h.inventory ex)
    (hcompatible : (h.exchangeItems.map ExchangeItem.key).Pairwise (Compatible table))
    (hone : h.exchangeItems.countP (·.itemId = ITEM_GOLD) ≤ 1) :
    ∃ items, h.offerGold count = { h with gold := h.gold - count, exchangeItems := items } ∧
      (∀ ex ∈ items, ex.itemId ≠ ITEM_GOLD → Home table h.inventory ex) ∧
      (items.map ExchangeItem.key).Pairwise (Compatible table) ∧
      items.countP (·.itemId = ITEM_GOLD) ≤ 1 ∧
      Tally.total offeredGold items = Tally.total offeredGold h.exchangeItems + count ∧
      (∀ id, Tally.total (offeredUnits table id) items =
        Tally.total (offeredUnits table id) h.exchangeItems) ∧
      ∀ id, Tally.total (offeredCount id) items = Tally.total (offeredCount id) h.exchangeItems := by
  unfold Session.coins at hcoins
  unfold Session.offerGold Session.goldLose Session.addExchangeItem
  simp only [if_pos hcount]
  split
  · next items hupdate =>
    have hkeys := update_keys hupdate
    obtain ⟨e, he, hitem, htotal⟩ := update_total hupdate
    refine ⟨items, rfl, home_of_keys hhome hkeys, hkeys ▸ hcompatible, ?_, ?_, ?_, ?_⟩
    · rw [countP_gold_of_keys hkeys]
      exact hone
    · have hgold := htotal offeredGold
      have hentry := Tally.le_total offeredGold he
      rw [offeredGold_gold hitem] at hgold hentry
      rw [offeredGold_gold (by exact hitem)] at hgold
      dsimp only at hgold
      omega
    · intro id
      have hunits := htotal (offeredUnits table id)
      rw [offeredUnits_gold _ _ hitem, offeredUnits_gold _ _ (by exact hitem)] at hunits
      exact hunits
    · intro id
      have hcounts := htotal (offeredCount id)
      rw [offeredCount_gold hitem, offeredCount_gold (by exact hitem)] at hcounts
      exact hcounts
  · next hupdate =>
    have hnone := update_none hupdate
    refine ⟨_, rfl, ?_, ?_, ?_, ?_, ?_, ?_⟩
    · intro ex hex hne
      rcases List.mem_append.mp hex with hex | hex
      · exact hhome ex hex hne
      · exact absurd (congrArg ExchangeItem.itemId (List.mem_singleton.mp hex)) hne
    · rw [List.map_append]
      refine List.pairwise_append.mpr ⟨hcompatible, List.pairwise_singleton _ _, ?_⟩
      intro k _ k' hk' _ hne
      exact absurd (congrArg Prod.fst (List.mem_singleton.mp hk')) hne
    · rw [List.countP_append, List.countP_eq_zero.mpr fun e he => by simpa using hnone e he]
      simp
    · simp [offeredGold]
    · simp [offeredUnits]
    · simp [offeredCount]

theorem sound_offerGold {h : Session} (hs : Sound table h) (hcount : count ≤ h.gold) :
    Sound table (h.offerGold count) ∧ (h.offerGold count).coins = h.coins ∧
      ∀ id, (h.offerGold count).held table id = h.held table id := by
  obtain ⟨htidy, hhome, hcompatible, hone, hcoins, hstock⟩ := hs
  obtain ⟨items, heq, hhome', hcompatible', hone', hgold, hunits, hcounts⟩ :=
    offerGold_eq hcoins hcount hhome hcompatible hone
  have hsame : (h.offerGold count).coins = h.coins := by
    rw [heq]
    simp only [Session.coins, hgold]
    omega
  refine ⟨?_, hsame, fun id => ?_⟩
  · rw [← hsame] at hcoins
    rw [heq] at hcoins ⊢
    refine ⟨htidy, hhome', hcompatible', hone', hcoins, fun id => ?_⟩
    rw [hcounts id]
    exact hstock id
  · rw [heq]
    simp only [Session.held, hunits]

/-- An item that the checks let into the trade. -/
structure Offerable (h : Session) (req : ExchangeAdd) : Prop where
  pos_lt : req.pos < HAVE_MAX
  itemId_ne : req.itemId ≠ 0
  not_gold : req.itemId ≠ ITEM_GOLD
  inRange : SLOT_MAX + req.pos < h.inventory.length
  sameItem : (h.inventory.slot (SLOT_MAX + req.pos)).itemId = req.itemId
  enough : asU16 req.count ≤ (h.inventory.slot (SLOT_MAX + req.pos)).count

/-- An offer that records what it takes: no count is cut to sixteen bits, and an item that does
not stack goes whole. -/
structure FairOffer (table : ItemTable) (h : Session) (req : ExchangeAdd) : Prop where
  count_lt : req.count < 2 ^ 16
  whole : nonCountable table req.itemId = true →
    (h.inventory.slot (SLOT_MAX + req.pos)).count = req.count

variable {h : Session} {req : ExchangeAdd}

theorem takeOffered_eq {i : ℕ} (hrange : i < inv.length) (hcount : count < 2 ^ 16) :
    ∃ s, Session.takeOffered inv i count = inv.set i s ∧ s.count = (inv.slot i).count - count ∧
      s.itemId = if (inv.slot i).count - count = 0 then 0 else (inv.slot i).itemId := by
  unfold Session.takeOffered asU16
  rw [if_pos hrange, Nat.mod_eq_of_lt hcount]
  dsimp only
  split_ifs with hzero
  · exact ⟨_, rfl, hzero.symm, rfl⟩
  · exact ⟨_, rfl, rfl, rfl⟩

structure Listed (table : ItemTable) (items items' : List ExchangeItem) (req : ExchangeAdd) :
    Prop where
  keys : items'.map ExchangeItem.key = items.map ExchangeItem.key ∨
    items'.map ExchangeItem.key = items.map ExchangeItem.key ++ [(req.itemId, SLOT_MAX + req.pos)]
  gold : Tally.total offeredGold items' = Tally.total offeredGold items
  units : ∀ id, Tally.total (offeredUnits table id) items' =
    Tally.total (offeredUnits table id) items +
    if req.itemId = id then if nonCountable table id then 1 else req.count else 0
  counts : ∀ id, Tally.total (offeredCount id) items' =
    Tally.total (offeredCount id) items + if req.itemId = id then req.count else 0

theorem offerItem_eq (table : ItemTable) (ho : Offerable h req)
    (hroom : Tally.total (offeredCount req.itemId) h.exchangeItems + req.count < 2 ^ 32) :
    ∃ items, h.offerItem table req =
        { h with
          inventory := Session.takeOffered h.inventory (SLOT_MAX + req.pos) req.count
          exchangeItems := items } ∧
      Listed table h.exchangeItems items req := by
  have hgold := ho.not_gold
  unfold Session.offerItem Session.addExchangeItem
  dsimp only
  split
  · next items hupdate =>
    split_ifs at hupdate with hcountable
    obtain ⟨e, he, hitem, htotal⟩ := update_total hupdate
    have hne : e.itemId ≠ ITEM_GOLD := hitem ▸ hgold
    have hstack : nonCountable table req.itemId = false := by
      rw [Bool.eq_false_iff, Ne, nonCountable_iff]
      omega
    have hentry := Tally.le_total (offeredCount req.itemId) he
    rw [offeredCount_item hne, if_pos hitem] at hentry
    have hgrown : min (e.count + req.count) (2 ^ 32 - 1) = e.count + req.count := by omega
    rw [hgrown] at htotal
    refine ⟨items, rfl, Or.inl (update_keys hupdate), ?_, fun id => ?_, fun id => ?_⟩
    · have hsum := htotal offeredGold
      rw [offeredGold_item hne, offeredGold_item (by exact hne)] at hsum
      exact hsum
    · have hsum := htotal (offeredUnits table id)
      rw [offeredUnits_item _ _ hne, offeredUnits_item _ _ (by exact hne)] at hsum
      dsimp only at hsum
      rw [hitem] at hsum
      split_ifs at hsum ⊢ with hid hnon
      · rw [← hid, hstack] at hnon
        cases hnon
      · omega
      · exact hsum
    · have hsum := htotal (offeredCount id)
      rw [offeredCount_item hne, offeredCount_item (by exact hne)] at hsum
      dsimp only at hsum
      rw [hitem] at hsum
      split_ifs at hsum ⊢ with hid
      · omega
      · exact hsum
  · next hupdate =>
    refine ⟨_, rfl, Or.inr ?_, ?_, fun id => ?_, fun id => ?_⟩
    · rw [List.map_append]
      rfl
    · rw [Tally.total_append, Tally.total_cons, Tally.total_nil, offeredGold_item (by exact hgold)]
      rfl
    · rw [Tally.total_append, Tally.total_cons, Tally.total_nil,
        offeredUnits_item _ _ (by exact hgold)]
      rfl
    · rw [Tally.total_append, Tally.total_cons, Tally.total_nil, offeredCount_item (by exact hgold)]
      rfl

theorem slotUnits_take {s s' : UserItemSlot} (hid : id ≠ 0) (hitem0 : s.itemId ≠ 0)
    (hcount : count ≤ s.count) (hwhole : nonCountable table s.itemId = true → s.count = count)
    (hcount' : s'.count = s.count - count)
    (hitem : s'.itemId = if s.count - count = 0 then 0 else s.itemId) :
    slotUnits table id s' +
        (if s.itemId = id then if nonCountable table id then 1 else count else 0) =
      slotUnits table id s := by
  unfold slotUnits
  rw [hitem, hcount']
  by_cases hsame : s.itemId = id
  · subst hsame
    split_ifs <;> simp_all
    omega
  · split_ifs <;> simp_all

theorem stack_take (id : ℕ) {s s' : UserItemSlot} (hcount : count ≤ s.count)
    (hcount' : s'.count = s.count - count)
    (hitem : s'.itemId = if s.count - count = 0 then 0 else s.itemId) :
    stack id s' + (if s.itemId = id then count else 0) ≤ stack id s := by
  unfold stack
  rw [hitem, hcount']
  split_ifs <;> omega

/-- An offer is of an old key, or of the new one. -/
theorem Listed.cases (hl : Listed table items items' req) (hex : ex ∈ items') :
    (∃ e ∈ items, e.itemId = ex.itemId ∧ e.srcPos = ex.srcPos) ∨
      ex.itemId = req.itemId ∧ ex.srcPos = SLOT_MAX + req.pos := by
  rcases hl.keys with hkeys | hkeys
  · exact Or.inl (exists_key hkeys hex)
  · have hmem : ex.key ∈ items.map ExchangeItem.key ++ [(req.itemId, SLOT_MAX + req.pos)] :=
      hkeys ▸ List.mem_map_of_mem hex
    rcases List.mem_append.mp hmem with hold | hnew
    · obtain ⟨e, he, hkey⟩ := List.mem_map.mp hold
      obtain ⟨hid, hsrc⟩ := Prod.mk.inj hkey
      exact Or.inl ⟨e, he, hid, hsrc⟩
    · exact Or.inr (Prod.mk.inj (List.mem_singleton.mp hnew))

theorem stackable_of_home (hhome : Home table inv ex) {i : ℕ} (hsrc : ex.srcPos = i)
    (hitem : (inv.slot i).itemId ≠ 0) :
    ex.itemId = (inv.slot i).itemId ∧ nonCountable table (inv.slot i).itemId = false := by
  subst hsrc
  obtain ⟨hsame, hstack⟩ := hhome.fits.resolve_left hitem
  exact ⟨hsame.symm, hsame ▸ hstack⟩

/-- A slot stays the home of its offers when more is taken. -/
theorem Home.take {i : ℕ} {s : UserItemSlot} (hhome : Home table inv ex) (hrange : i < inv.length)
    (hitem0 : (inv.slot i).itemId ≠ 0) {c : ℕ}
    (hitem : s.itemId = if c = 0 then 0 else (inv.slot i).itemId) :
    Home table (inv.set i s) ex := by
  refine ⟨by rw [List.length_set]; exact hhome.inRange, hhome.itemId_ne, ?_⟩
  rcases eq_or_ne i ex.srcPos with hi | hi
  · obtain ⟨hsame, hstack⟩ := stackable_of_home hhome hi.symm hitem0
    rw [← hi, Inventory.slot_set_self hrange, hitem, hsame]
    split_ifs
    · exact Or.inl rfl
    · exact Or.inr ⟨rfl, hstack⟩
  · rw [Inventory.slot_set_ne hi]
    exact hhome.fits

/-- An item that is offered in full leaves its slot, and the rest is as it was. -/
theorem sound_offerItem (hs : Sound table h) (ho : Offerable h req) (hfair : FairOffer table h req) :
    Sound table (h.offerItem table req) ∧ (h.offerItem table req).coins = h.coins ∧
      ∀ id, id ≠ 0 → (h.offerItem table req).held table id = h.held table id := by
  obtain ⟨htidy, hhome, hcompatible, hone, hcoins, hstock⟩ := hs
  obtain ⟨hcount_lt, hwhole⟩ := hfair
  obtain ⟨hpos, hid0, hgold, hrange, hsame, henough⟩ := ho
  rw [asU16, Nat.mod_eq_of_lt hcount_lt] at henough
  have hmax : ITEMCOUNT_MAX = 9999 := rfl
  have hproduct : HAVE_MAX * ITEMCOUNT_MAX = 279972 := rfl
  have htaken := (htidy (SLOT_MAX + req.pos)).count_le
  have hitem0 : (h.inventory.slot (SLOT_MAX + req.pos)).itemId ≠ 0 := hsame ▸ hid0
  have hbound := hstock req.itemId
  obtain ⟨items, heq, hl⟩ := offerItem_eq table ⟨hpos, hid0, hgold, hrange, hsame,
    (Nat.mod_le _ _).trans henough⟩ (by omega)
  obtain ⟨s, hset, hcount, hitem⟩ := takeOffered_eq hrange hcount_lt
  rw [heq, hset]
  refine ⟨⟨?_, ?_, ?_, ?_, ?_, fun id => ?_⟩, ?_, fun id hid => ?_⟩
  · refine htidy.set _ ⟨by omega, fun hzero => ?_⟩
    rw [hitem] at hzero
    split_ifs at hzero with hnone
    · omega
    · exact absurd hzero hitem0
  · intro ex hex hne
    rcases hl.cases hex with ⟨e, he, hid, hsrc⟩ | ⟨hid, hsrc⟩
    · exact ((hhome e he (hid ▸ hne)).take hrange hitem0 hitem).congr hid hsrc
    · refine ⟨?_, hid ▸ hid0, ?_⟩
      · rw [hsrc, List.length_set]
        exact hrange
      · rw [hsrc, Inventory.slot_set_self hrange, hitem, hid, ← hsame]
        split_ifs with hnone
        · exact Or.inl rfl
        · refine Or.inr ⟨rfl, ?_⟩
          rw [Bool.eq_false_iff]
          intro hnon
          have := hwhole (hsame ▸ hnon)
          omega
  · show (items.map ExchangeItem.key).Pairwise (Compatible table)
    rcases hl.keys with hkeys | hkeys
    · rw [hkeys]
      exact hcompatible
    · rw [hkeys]
      refine List.pairwise_append.mpr ⟨hcompatible, List.pairwise_singleton _ _, ?_⟩
      intro k hk k' hk' hne hne' hsrc
      obtain ⟨e, he, rfl⟩ := List.mem_map.mp hk
      obtain rfl := List.mem_singleton.mp hk'
      have hstack := stackable_of_home (hhome e he hne) hsrc hitem0
      exact ⟨hstack.1.trans hsame, (congrArg (nonCountable table) hstack.1).trans hstack.2⟩
  · show items.countP _ ≤ 1
    rcases hl.keys with hkeys | hkeys
    · rw [countP_gold_of_keys hkeys]
      exact hone
    · have hcountP := congrArg (List.countP fun k : ℕ × ℕ => decide (k.1 = ITEM_GOLD)) hkeys
      rw [List.countP_append, List.countP_map, List.countP_map, List.countP_singleton] at hcountP
      simp only [hgold, decide_false, Bool.false_eq_true, if_false, Nat.add_zero] at hcountP
      exact hcountP.trans_le hone
  · rw [Session.coins, hl.gold]
    exact hcoins
  · have hbag : SLOT_MAX + req.pos ∈ bagSlots :=
      List.mem_map_of_mem (List.mem_range.mpr hpos)
    have hstack := bagStock_set hbag hrange s id
    have htake := stack_take id henough hcount hitem
    have hcounts := hl.counts id
    have := hstock id
    rw [hsame] at htake
    show bagStock id (List.set h.inventory _ s) + Tally.total (offeredCount id) items ≤ _
    omega
  · rw [Session.coins, hl.gold]
    rfl
  · have hunits := units_set table id hrange s
    have htake := slotUnits_take hid hitem0 henough (hsame ▸ hwhole) hcount hitem
    have hgained := hl.units id
    rw [hsame] at htake
    show units table id (List.set h.inventory _ s) + Tally.total (offeredUnits table id) items = _
    unfold Session.held
    omega

end Offers

end KoServer
