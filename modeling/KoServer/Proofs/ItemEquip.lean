import KoServer.Proofs.ItemMove

/-! What a move can put into an equipment slot. Equipping brings the moved item, and the
checks are about that item. Taking an item off and moving it between two slots may bring a
second one, which is checked for its slot type at most. -/

namespace KoServer

/-- What the class, level and stat checks ask; they are skipped without a character. -/
def wearable (character : Option CharacterInfo) (item : Item) : Bool :=
  match character with
  | none => true
  | some ch => itemClassAvailable item ch.classId && itemEquipAvailable item ch

def Equippable (ctx : MoveContext) (s : UserItemSlot) (pos : ℕ) : Prop :=
  ∃ item, ctx.table s.itemId = some item ∧ isValidSlotPos item pos = true ∧
    wearable ctx.character item = true ∧ s.flag ≠ ITEM_FLAG_DUPLICATE

def NewlyWornFits (ctx : MoveContext) (inv inv' : Inventory) : Prop :=
  ∀ i < SLOT_MAX, (inv'.slot i).itemId ≠ 0 → inv'.slot i ≠ inv.slot i →
    Equippable ctx (inv'.slot i) i

/-- The bag item that an unequip brings back fits the slot type, but not the player. -/
def unfitSwapBack (ctx : MoveContext) (inv : Inventory) (src dst : ℕ) : Prop :=
  let back := inv.slot (SLOT_MAX + dst)
  back.itemId ≠ 0 ∧ back ≠ inv.slot src ∧
    (back.flag = ITEM_FLAG_DUPLICATE ∨
      ∃ item ∈ ctx.table back.itemId, wearable ctx.character item = false)

/-- The item moved between two slots is a duplicate, or the one it changes places with may
not be worn or not stand in the other slot. -/
def unfitExchange (ctx : MoveContext) (inv : Inventory) (src dst : ℕ) : Prop :=
  let held := inv.slot src
  let other := inv.slot dst
  held ≠ other ∧
    (held.itemId ≠ 0 ∧ held.flag = ITEM_FLAG_DUPLICATE ∨
      other.itemId ≠ 0 ∧
        (other.flag = ITEM_FLAG_DUPLICATE ∨ ∃ item ∈ ctx.table other.itemId,
          (isValidSlotPos item src && wearable ctx.character item) = false))

def bringsUnfit (ctx : MoveContext) (inv : Inventory) (req : MoveRequest) : Prop :=
  match req.dir with
  | .slotInven => unfitSwapBack ctx inv req.srcPos req.dstPos
  | .slotSlot => req.srcPos < SLOT_MAX ∧ unfitExchange ctx inv req.srcPos req.dstPos
  | _ => False

/-- A move the checks let through, of an item that is there, with an unfit second item. -/
def unfitMove (ctx : MoveContext) (s : MoveSession) (data : List UInt8) : Prop :=
  ∃ req item, receivedMove ctx data = some req ∧ ctx.table req.itemId = some item ∧
    moveRefused ctx s req item = false ∧ (s.inventory.slot req.srcPos).itemId = req.itemId ∧
    bringsUnfit ctx s.inventory req

variable {ctx : MoveContext} {inv inv' : Inventory}

theorem slot_set {i j : ℕ} (hi : i < inv.length) (a : UserItemSlot) :
    Inventory.slot (inv.set i a) j = if i = j then a else inv.slot j := by
  split_ifs with h
  · subst h
    exact Inventory.slot_set_self hi a
  · exact Inventory.slot_set_ne h a

theorem slot_swap {a b i : ℕ} (ha : a < inv.length) (hb : b < inv.length) :
    (inv.swap a b).slot i = if b = i then inv.slot a else if a = i then inv.slot b else
      inv.slot i := by
  have hb' : b < (inv.set a (inv.slot b)).length := by rwa [List.length_set]
  rw [Inventory.swap, slot_set hb', slot_set ha]

/-- Outside the bag slot a swap started from, only the destination changes. -/
theorem slot_swapItems {a b i : ℕ} (ha : a < inv.length) (hb : b < inv.length) (hia : a ≠ i) :
    (swapItems inv a b).slot i = if b = i then inv.slot a else inv.slot i := by
  unfold swapItems
  split_ifs with hocc hbi hbi
  · rw [slot_swap ha hb, if_pos hbi]
  · rw [slot_swap ha hb, if_neg hbi, if_neg hia]
  · rw [Inventory.slot_set_ne hia, slot_set hb, if_pos hbi]
  · rw [Inventory.slot_set_ne hia, slot_set hb, if_neg hbi]

/-- Where a swap started from there is then what stood at the destination. -/
theorem slot_swapItems_src {a b : ℕ} (ha : a < inv.length) (hb : b < inv.length) (hab : a ≠ b) :
    (swapItems inv a b).slot a =
      if (inv.slot b).itemId ≠ 0 then inv.slot b else {} := by
  have ha' : a < (inv.set b (inv.slot a)).length := by rwa [List.length_set]
  unfold swapItems
  split_ifs
  · rw [slot_swap ha hb, if_neg hab.symm, if_pos rfl]
  · rw [slot_set ha', if_pos rfl]

def SameEquipment (inv inv' : Inventory) : Prop := ∀ i < SLOT_MAX, inv'.slot i = inv.slot i

theorem newlyWornFits_of_same (h : SameEquipment inv inv') : NewlyWornFits ctx inv inv' :=
  fun i hi _ hne => absurd (h i hi) hne

theorem swapItems_sameEquipment {a b : ℕ} (ha : a < inv.length) (hb : b < inv.length)
    (hbag : SLOT_MAX ≤ a) (hbag' : SLOT_MAX ≤ b) : SameEquipment inv (swapItems inv a b) := by
  intro i hi
  rw [slot_swapItems ha hb (by omega), if_neg (by omega)]

theorem set_set_sameEquipment {a b : ℕ} (hbag : SLOT_MAX ≤ a) (hbag' : SLOT_MAX ≤ b)
    (s t : UserItemSlot) : SameEquipment inv ((inv.set b s).set a t) := by
  intro i hi
  rw [Inventory.slot_set_ne (by omega), Inventory.slot_set_ne (by omega)]

theorem slot_max_le_of_cospPosToAbsIndex {pos idx : ℕ} (h : cospPosToAbsIndex pos = some idx) :
    SLOT_MAX ≤ idx := by
  have hslotMax : SLOT_MAX = 14 := rfl
  have hcosp : INVENTORY_COSP = 42 := rfl
  unfold cospPosToAbsIndex at h
  split_ifs at h
  all_goals obtain rfl := Option.some.inj h
  any_goals decide
  omega

theorem moveInInventory_sameEquipment {table : ItemTable} {t : ℤ} {rh lh : Option ℤ}
    {req : MoveRequest} (hlen : INVENTORY_TOTAL ≤ inv.length)
    (hdir : req.dir ≠ .invenSlot ∧ req.dir ≠ .slotInven ∧ req.dir ≠ .slotSlot)
    (h : moveInInventory table t rh lh req inv = some inv') : SameEquipment inv inv' := by
  have htotal : INVENTORY_TOTAL = 96 := rfl
  have hslotMax : SLOT_MAX = 14 := rfl
  have hhaveMax : HAVE_MAX = 28 := rfl
  have hcosp : INVENTORY_COSP = 42 := rfl
  have hmbag : INVENTORY_MBAG = 53 := rfl
  have hmbagTotal : MBAG_TOTAL = 36 := rfl
  have hcbag3 : CBAG3 = 96 := rfl
  obtain ⟨dir, itemId, src, dst⟩ := req
  obtain ⟨hequip, hunequip, hexchange⟩ := hdir
  cases dir with
  | invenSlot => exact absurd rfl hequip
  | slotInven => exact absurd rfl hunequip
  | slotSlot => exact absurd rfl hexchange
  | invenInven =>
    simp only [moveInInventory] at h
    split_ifs at h
    all_goals obtain rfl := Option.some.inj h
    · exact set_set_sameEquipment (by omega) (by omega) _ _
    · exact swapItems_sameEquipment (by omega) (by omega) (by omega) (by omega)
  | invenToCosp =>
    simp only [moveInInventory] at h
    split_ifs at h with h1 h2 h3 h4 h5 h6
    all_goals try obtain rfl := Option.some.inj h
    · exact swapItems_sameEquipment (by omega) (by omega) (by omega) (by omega)
    · exact swapItems_sameEquipment (by omega) (by omega) (by omega) (by omega)
    · split at h
      · next idx hidx =>
        have := slot_max_le_of_cospPosToAbsIndex hidx
        split_ifs at h
        obtain rfl := Option.some.inj h
        exact swapItems_sameEquipment (by omega) (by omega) (by omega) (by omega)
      · cases h
  | cospToInven =>
    simp only [moveInInventory] at h
    split_ifs at h
    split at h
    · next idx hidx =>
      have := slot_max_le_of_cospPosToAbsIndex hidx
      split_ifs at h
      obtain rfl := Option.some.inj h
      exact swapItems_sameEquipment (by omega) (by omega) (by omega) (by omega)
    · cases h
  | invenToMbag =>
    simp only [moveInInventory] at h
    split_ifs at h
    all_goals obtain rfl := Option.some.inj h
    · exact set_set_sameEquipment (by omega) (by omega) _ _
    · exact swapItems_sameEquipment (by omega) (by omega) (by omega) (by omega)
  | mbagToInven =>
    simp only [moveInInventory] at h
    split_ifs at h
    obtain rfl := Option.some.inj h
    exact swapItems_sameEquipment (by omega) (by omega) (by omega) (by omega)
  | mbagToMbag =>
    simp only [moveInInventory] at h
    split_ifs at h
    all_goals obtain rfl := Option.some.inj h
    · exact set_set_sameEquipment (by omega) (by omega) _ _
    · exact swapItems_sameEquipment (by omega) (by omega) (by omega) (by omega)
  | slotInvenToMbag =>
    simp only [moveInInventory] at h
    split_ifs at h
    all_goals obtain rfl := Option.some.inj h
    · exact swapItems_sameEquipment (by omega) (by omega) (by omega) (by omega)
    · exact swapItems_sameEquipment (by omega) (by omega) (by omega) (by omega)
  | invenToPet => cases h
  | petToInven => cases h

/-- Among the equipment slots, one takes over the bag slot and another may be emptied. -/
def WearsOnly (inv inv' : Inventory) (src dst : ℕ) : Prop :=
  ∀ i < SLOT_MAX, inv'.slot i = inv.slot i ∨ (inv'.slot i).itemId = 0 ∨
    i = dst ∧ inv'.slot i = inv.slot src

theorem swapItems_wearsOnly {src dst : ℕ} (hsrc : src < inv.length) (hdst : dst < inv.length)
    (hbag : SLOT_MAX ≤ src) : WearsOnly inv (swapItems inv src dst) src dst := by
  intro i hi
  rw [slot_swapItems hsrc hdst (by omega)]
  split_ifs with h
  · exact Or.inr (Or.inr ⟨h.symm, rfl⟩)
  · exact Or.inl rfl

theorem equipForcingOff_wearsOnly {src dst other : ℕ} (hdst : dst < inv.length)
    (hother : other < inv.length) (hbag : SLOT_MAX ≤ src) :
    WearsOnly inv (equipForcingOff inv src dst other) src dst := by
  intro i hi
  have hother' : other < ((inv.set dst (inv.slot src)).set src (inv.slot other)).length := by
    simpa using hother
  have hsrci : src ≠ i := by omega
  rw [equipForcingOff, slot_set hother', Inventory.slot_set_ne hsrci, slot_set hdst]
  split_ifs with h1 h2
  · exact Or.inr (Or.inl rfl)
  · exact Or.inr (Or.inr ⟨h2.symm, rfl⟩)
  · exact Or.inl rfl

/-- A two-handed weapon goes to the hand of its slot type, whatever the request says. -/
theorem handleTwoHandedEquip_wearsOnly {src dst : ℕ} {t : ℤ} {rh lh : Option ℤ}
    (hlen : INVENTORY_TOTAL ≤ inv.length) (hsrc : src < inv.length) (hbag : SLOT_MAX ≤ src)
    (hdst : dst < SLOT_MAX) (hright : t = ITEM_SLOT_2H_RIGHT → dst = RIGHTHAND)
    (hleft : t = ITEM_SLOT_2H_LEFT → dst = LEFTHAND)
    (h : handleTwoHandedEquip inv src dst t rh lh = some inv') : WearsOnly inv inv' src dst := by
  have htotal : INVENTORY_TOTAL = 96 := rfl
  have hslotMax : SLOT_MAX = 14 := rfl
  have hrh : RIGHTHAND = 6 := rfl
  have hlh : LEFTHAND = 8 := rfl
  have hdstlen : dst < inv.length := by omega
  have hswap : WearsOnly inv (swapItems inv src dst) src dst :=
    swapItems_wearsOnly hsrc hdstlen hbag
  have hforce (other : ℕ) (hother : other < SLOT_MAX) :
      WearsOnly inv (equipForcingOff inv src dst other) src dst :=
    equipForcingOff_wearsOnly hdstlen (by omega) hbag
  have hcheckRight : WearsOnly inv (twoHandCheck1hRight inv src dst lh) src dst := by
    unfold twoHandCheck1hRight
    split_ifs
    · exact hforce LEFTHAND (by omega)
    · exact hswap
    · exact hswap
  have hcheckLeft : WearsOnly inv (twoHandCheck1hLeft inv src dst rh) src dst := by
    unfold twoHandCheck1hLeft
    split_ifs
    · exact hforce RIGHTHAND (by omega)
    · exact hswap
    · exact hswap
  rcases handleTwoHandedEquip_cases inv src dst t rh lh with
    ⟨-, heq⟩ | ⟨-, heq⟩ | ⟨-, heq | heq | ⟨ht, -, heq⟩ | ⟨ht, -, heq⟩⟩
  all_goals
    rw [heq] at h
    cases h
  · exact hcheckRight
  · exact hcheckLeft
  · exact hswap
  · rw [← hright ht]
    exact hforce LEFTHAND (by omega)
  · rw [← hleft ht]
    exact hforce RIGHTHAND (by omega)

theorem slotInven_fits_iff {src dst : ℕ} (hsrc : src < SLOT_MAX)
    (hlen : SLOT_MAX + dst < inv.length)
    (hback : (inv.slot (SLOT_MAX + dst)).itemId ≠ 0 → ∃ d,
      ctx.table (inv.slot (SLOT_MAX + dst)).itemId = some d ∧ isValidSlotPos d src = true) :
    NewlyWornFits ctx inv (swapItems inv src (SLOT_MAX + dst)) ↔
      ¬ unfitSwapBack ctx inv src dst := by
  have hsrclen : src < inv.length := by omega
  have hne : src ≠ SLOT_MAX + dst := by omega
  have hother (i : ℕ) (hi : i < SLOT_MAX) (hisrc : src ≠ i) :
      (swapItems inv src (SLOT_MAX + dst)).slot i = inv.slot i := by
    rw [slot_swapItems hsrclen hlen hisrc, if_neg (by omega)]
  have hin := slot_swapItems_src hsrclen hlen hne
  unfold unfitSwapBack
  constructor
  · rintro hfits ⟨hid, hnew, hunfit⟩
    rw [if_pos hid] at hin
    obtain ⟨d, hd, -, hwear, hflag⟩ := hin ▸ hfits src hsrc (by rwa [hin]) (by rwa [hin])
    rcases hunfit with hdup | ⟨d', hd', hnot⟩
    · exact hflag hdup
    · obtain rfl := Option.some.inj (hd.symm.trans hd')
      rw [hwear] at hnot
      cases hnot
  · intro hfit i hi hid hnew
    rcases eq_or_ne src i with rfl | hisrc
    · rw [hin] at hid hnew ⊢
      split_ifs at hid hnew ⊢ with hocc
      · obtain ⟨d, hd, hvalid⟩ := hback hocc
        refine ⟨d, hd, hvalid, ?_, fun hdup => hfit ⟨hocc, hnew, Or.inl hdup⟩⟩
        by_contra hnot
        exact hfit ⟨hocc, hnew, Or.inr ⟨d, hd, by simpa using hnot⟩⟩
      · exact absurd rfl hid
    · exact absurd (hother i hi hisrc) hnew

theorem slotSlot_fits_iff {src dst : ℕ} {item : Item} (hsrc : src < SLOT_MAX)
    (hdst : dst < SLOT_MAX) (hlen : INVENTORY_TOTAL ≤ inv.length)
    (hitem : ctx.table (inv.slot src).itemId = some item) (hvalid : isValidSlotPos item dst = true)
    (hwear : wearable ctx.character item = true)
    (hknown : (inv.slot dst).itemId ≠ 0 → ∃ d, ctx.table (inv.slot dst).itemId = some d) :
    NewlyWornFits ctx inv (inv.swap src dst) ↔ ¬ unfitExchange ctx inv src dst := by
  have htotal : INVENTORY_TOTAL = 96 := rfl
  have hslotMax : SLOT_MAX = 14 := rfl
  have hread (i : ℕ) := @slot_swap inv src dst i (by omega) (by omega)
  have hsrcIn : (inv.swap src dst).slot src = inv.slot dst := by
    rw [hread]
    split_ifs with h hself
    · rw [h]
    · rfl
    · exact absurd rfl hself
  have hdstIn : (inv.swap src dst).slot dst = inv.slot src := by rw [hread, if_pos rfl]
  unfold unfitExchange
  constructor
  · rintro hfits ⟨hne, ⟨hid, hdup⟩ | ⟨hid, hunfit⟩⟩
    · obtain ⟨-, -, -, -, hflag⟩ := hdstIn ▸ hfits dst hdst (by rwa [hdstIn]) (by rwa [hdstIn])
      exact hflag hdup
    · obtain ⟨d, hd, hpos, hok, hflag⟩ :=
        hsrcIn ▸ hfits src hsrc (by rwa [hsrcIn]) (by rw [hsrcIn]; exact hne.symm)
      rcases hunfit with hdup | ⟨d', hd', hnot⟩
      · exact hflag hdup
      · obtain rfl := Option.some.inj (hd.symm.trans hd')
        rw [hpos, hok] at hnot
        cases hnot
  · intro hfit i hi hid hnew
    by_cases hidst : i = dst
    · subst hidst
      rw [hdstIn] at hid hnew ⊢
      exact ⟨item, hitem, hvalid, hwear, fun hdup => hfit ⟨hnew, Or.inl ⟨hid, hdup⟩⟩⟩
    by_cases hisrc : i = src
    · subst hisrc
      rw [hsrcIn] at hid hnew ⊢
      obtain ⟨d, hd⟩ := hknown hid
      by_contra hnot
      refine hfit ⟨hnew.symm, Or.inr ⟨hid, ?_⟩⟩
      by_contra hboth
      rw [not_or] at hboth
      obtain ⟨hflag, hall⟩ := hboth
      refine hnot ⟨d, hd, ?_, ?_, hflag⟩
      · by_contra h
        exact hall ⟨d, hd, by simp [h]⟩
      · by_contra h
        exact hall ⟨d, hd, by simp [h]⟩
    · rw [hread, if_neg (Ne.symm hidst), if_neg (Ne.symm hisrc)] at hnew
      exact absurd rfl hnew

theorem MoveChecked.wearable {s : MoveSession} {req : MoveRequest} {item : Item}
    (h : MoveChecked ctx s req item) (hd : req.dir = .invenSlot ∨ req.dir = .slotSlot) :
    wearable ctx.character item = true := by
  obtain ⟨-, -, hfit⟩ := h.wear hd
  unfold KoServer.wearable
  split
  · rfl
  · next ch hch =>
    obtain ⟨hclass, hequip⟩ := hfit ch hch
    rw [hclass, hequip, Bool.and_self]

/-- The other item of a move the swap-back check lets through is known, and not unfit. -/
theorem of_swapBackRefused {table : ItemTable} {dst : ℕ} {unfit : Item → Bool}
    (h : swapBackRefused table inv dst unfit = false) (hid : (inv.slot dst).itemId ≠ 0) :
    ∃ d, table (inv.slot dst).itemId = some d ∧ unfit d = false := by
  unfold swapBackRefused at h
  split at h
  · next hnone =>
    rw [Inventory.slot, List.getD_eq_getElem?_getD, hnone] at hid
    exact absurd rfl hid
  · next t ht =>
    rw [Inventory.slot_of_getElem? ht] at hid ⊢
    simp only [hid, ne_eq, not_false_eq_true, decide_true, Bool.true_and] at h
    split at h
    · cases h
    · next d hd => exact ⟨d, hd, h⟩

theorem newlyWornFits_padded :
    NewlyWornFits ctx inv.padded inv' ↔ NewlyWornFits ctx inv inv' := by
  simp only [NewlyWornFits, Inventory.slot_padded]

theorem sameEquipment_padded : SameEquipment inv inv.padded := fun i _ => Inventory.slot_padded i

theorem movePet_sameEquipment (s : MoveSession) (req : MoveRequest) :
    SameEquipment s.inventory (movePet s req).2.inventory := by
  have hset {i : ℕ} (hi : SLOT_MAX ≤ i) (a : UserItemSlot) :
      SameEquipment s.inventory (s.inventory.padded.set i a) := by
    intro j hj
    rw [Inventory.slot_set_ne (by omega), Inventory.slot_padded]
  unfold movePet
  split
  · exact fun _ _ => rfl
  · split
    · exact sameEquipment_padded
    · next hmove =>
      unfold moveWithPet at hmove
      split at hmove
      · dsimp only at hmove
        split_ifs at hmove
        all_goals
          obtain ⟨rfl, -⟩ := Prod.mk.inj (Option.some.inj hmove)
          exact hset (Nat.le_add_right _ _) _
      · dsimp only at hmove
        split_ifs at hmove
        all_goals
          obtain ⟨rfl, -⟩ := Prod.mk.inj (Option.some.inj hmove)
          exact hset (Nat.le_add_right _ _) _
      · cases hmove

theorem handleInventoryRefresh_sameEquipment (s : MoveSession) :
    SameEquipment s.inventory (handleInventoryRefresh s).2.inventory := by
  intro i hi
  have hlen : i < (s.inventory.padded.take SLOT_MAX).length := by
    rw [List.length_take]
    have := @Inventory.total_le_padded s.inventory
    have : INVENTORY_TOTAL = 96 := rfl
    have : SLOT_MAX = 14 := rfl
    omega
  rw [← @Inventory.slot_padded s.inventory]
  simp only [handleInventoryRefresh, Inventory.slot, List.append_assoc]
  rw [List.getD_append _ _ _ _ hlen]
  simp [List.getD_eq_getElem?_getD, hi]

/-- A move the checks let through brings an unfit item only as its second item. -/
theorem moveInInventory_fits_iff {s : MoveSession} {req : MoveRequest} {item : Item}
    {rh lh : Option ℤ} (hitem : ctx.table req.itemId = some item)
    (hrefused : moveRefused ctx s req item = false)
    (h : moveInInventory ctx.table (item.slot.getD (-1)) rh lh req s.inventory.padded =
      some inv') :
    NewlyWornFits ctx s.inventory inv' ↔
      ¬ ((s.inventory.slot req.srcPos).itemId = req.itemId ∧
        bringsUnfit ctx s.inventory req) := by
  have hlen : INVENTORY_TOTAL ≤ s.inventory.padded.length := Inventory.total_le_padded
  have htotal : INVENTORY_TOTAL = 96 := rfl
  have hslotMax : SLOT_MAX = 14 := rfl
  have hhaveMax : HAVE_MAX = 28 := rfl
  have hchecked := checked_of_moveRefused hrefused
  rw [← newlyWornFits_padded]
  obtain ⟨dir, itemId, src, dst⟩ := req
  cases dir with
  | invenSlot =>
    obtain ⟨hdstMax, hvalid, -⟩ := hchecked.wear (Or.inl rfl)
    obtain ⟨hsrcMax, hflag⟩ := hchecked.equip rfl
    simp only [bringsUnfit, and_false, not_false_eq_true, iff_true]
    simp only [moveInInventory, Inventory.slot_padded] at h
    split_ifs at h with h1 h2
    have hright : item.slot.getD (-1) = ITEM_SLOT_2H_RIGHT → dst = RIGHTHAND := by
      intro ht
      rw [isValidSlotPos, ht] at hvalid
      simpa [ITEM_SLOT_2H_RIGHT, ITEM_SLOT_1H_RIGHT, ITEM_SLOT_1H_LEFT,
        ITEM_SLOT_EITHER_HAND] using hvalid
    have hleft : item.slot.getD (-1) = ITEM_SLOT_2H_LEFT → dst = LEFTHAND := by
      intro ht
      rw [isValidSlotPos, ht] at hvalid
      simpa [ITEM_SLOT_2H_LEFT, ITEM_SLOT_2H_RIGHT, ITEM_SLOT_1H_RIGHT, ITEM_SLOT_1H_LEFT,
        ITEM_SLOT_EITHER_HAND] using hvalid
    have hworn := handleTwoHandedEquip_wearsOnly hlen (by omega) (by omega) hdstMax hright hleft h
    intro i hi hid hnew
    rcases hworn i hi with hsame | hempty | ⟨rfl, hin⟩
    · exact absurd hsame hnew
    · exact absurd hempty hid
    · rw [hin, Inventory.slot_padded]
      exact ⟨item, by rw [not_not.mp h2]; exact hitem, hvalid, hchecked.wearable (Or.inl rfl), hflag⟩
  | slotInven =>
    obtain ⟨hsrcMax, hdstMax, hback⟩ := hchecked.unequip rfl
    simp only [moveInInventory, Inventory.slot_padded] at h
    split_ifs at h with h1 h2
    obtain rfl := Option.some.inj h
    rw [slotInven_fits_iff hsrcMax (by omega), and_iff_right (not_not.mp h2)]
    · simp only [unfitSwapBack, bringsUnfit, Inventory.slot_padded]
    · rw [Inventory.slot_padded]
      intro hid
      obtain ⟨d, hd, hfit⟩ := of_swapBackRefused hback hid
      exact ⟨d, hd, by simpa using (Bool.or_eq_false_iff.mp hfit).2⟩
  | slotSlot =>
    obtain ⟨hdstMax, hvalid, -⟩ := hchecked.wear (Or.inr rfl)
    have hwear := hchecked.wearable (Or.inr rfl)
    simp only [moveInInventory, Inventory.slot_padded] at h
    split_ifs at h with h1 h2
    obtain rfl := Option.some.inj h
    have hsrcMax : src < SLOT_MAX := by omega
    have hheld : (s.inventory.slot src).itemId = itemId := not_not.mp h2
    rw [@slotSlot_fits_iff ctx _ src dst item hsrcMax hdstMax hlen ?_ hvalid hwear ?_,
      and_iff_right hheld]
    · simp only [unfitExchange, bringsUnfit, Inventory.slot_padded]
      rw [and_iff_right hsrcMax]
    · rw [Inventory.slot_padded, hheld]
      exact hitem
    · rw [Inventory.slot_padded]
      intro hid
      obtain ⟨d, hd, -⟩ := of_swapBackRefused (hchecked.exchange rfl) hid
      exact ⟨d, hd⟩
  | _ =>
    simp only [bringsUnfit, and_false, not_false_eq_true, iff_true]
    exact newlyWornFits_of_same
      (moveInInventory_sameEquipment hlen ⟨by simp, by simp, by simp⟩ h)

/-- The closure refuses to take off or to exchange an item only when it is not there. -/
theorem moveInInventory_none {s : MoveSession} {req : MoveRequest} {item : Item} {t : ℤ}
    {rh lh : Option ℤ} (hchecked : MoveChecked ctx s req item)
    (hheld : (s.inventory.slot req.srcPos).itemId = req.itemId)
    (hnone : moveInInventory ctx.table t rh lh req s.inventory.padded = none) :
    req.dir ≠ .slotInven ∧ ¬(req.dir = .slotSlot ∧ req.srcPos < SLOT_MAX) := by
  have htotal : INVENTORY_TOTAL = 96 := rfl
  have hslotMax : SLOT_MAX = 14 := rfl
  have hhaveMax : HAVE_MAX = 28 := rfl
  obtain ⟨dir, itemId, src, dst⟩ := req
  constructor
  · rintro rfl
    obtain ⟨(hsrcMax : src < SLOT_MAX), (hdstMax : dst < HAVE_MAX), -⟩ := hchecked.unequip rfl
    simp only [moveInInventory, Inventory.slot_padded] at hnone
    rw [if_neg (by omega), if_neg (not_not.mpr hheld)] at hnone
    cases hnone
  · rintro ⟨rfl, (hsrcMax : src < SLOT_MAX)⟩
    obtain ⟨(hdstMax : dst < SLOT_MAX), -⟩ := hchecked.wear (Or.inr rfl)
    simp only [moveInInventory, Inventory.slot_padded] at hnone
    rw [if_neg (by omega), if_neg (not_not.mpr hheld)] at hnone
    cases hnone

theorem performMove_fits_iff (ctx : MoveContext) (s : MoveSession) (req : MoveRequest) :
    NewlyWornFits ctx s.inventory (performMove ctx s req).2.inventory ↔
      ¬ ∃ item, ctx.table req.itemId = some item ∧ moveRefused ctx s req item = false ∧
        (s.inventory.slot req.srcPos).itemId = req.itemId ∧ bringsUnfit ctx s.inventory req := by
  have hsame {i : Inventory} (h : SameEquipment s.inventory i) {P : Prop} (hP : ¬ P) :
      NewlyWornFits ctx s.inventory i ↔ ¬ P := ⟨fun _ => hP, fun _ => newlyWornFits_of_same h⟩
  unfold performMove
  cases htable : ctx.table req.itemId with
  | none => exact hsame (fun _ _ => rfl) (by simp)
  | some item =>
    simp only [Option.some.injEq, exists_eq_left']
    cases hrefused : moveRefused ctx s req item with
    | true => exact hsame (fun _ _ => rfl) (by simp)
    | false =>
      simp only [Bool.false_eq_true, if_false, true_and]
      by_cases hpet : req.dir = .invenToPet ∨ req.dir = .petToInven
      · rw [if_pos hpet]
        refine hsame (movePet_sameEquipment s req) ?_
        rcases hpet with hd | hd <;> simp [bringsUnfit, hd]
      · rw [if_neg hpet]
        split
        · next hnone =>
          refine hsame sameEquipment_padded ?_
          rintro ⟨hheld, hunfit⟩
          obtain ⟨hunequip, hexchange⟩ :=
            moveInInventory_none (checked_of_moveRefused hrefused) hheld hnone
          cases hdir : req.dir with
          | slotInven => exact hunequip hdir
          | slotSlot =>
            have hrange : req.srcPos < SLOT_MAX := by
              simp only [bringsUnfit, hdir] at hunfit
              exact hunfit.1
            exact hexchange ⟨hdir, hrange⟩
          | _ => simp only [bringsUnfit, hdir] at hunfit
        · next inv' hsome => exact moveInInventory_fits_iff htable hrefused hsome

/-- Everything a request newly puts into an equipment slot meets the conditions of a direct
equip, unless the request is an unequip onto, or an exchange with, an unfit item. -/
theorem newly_worn_fits_iff (ctx : MoveContext) (s : MoveSession) (data : List UInt8) :
    NewlyWornFits ctx s.inventory (handleItemMove ctx s data).2.inventory ↔
      ¬ unfitMove ctx s data := by
  unfold unfitMove
  cases hreq : receivedMove ctx data with
  | some req =>
    rw [handleItemMove_received hreq, performMove_fits_iff]
    simp
  | none =>
    simp only [reduceCtorEq, false_and, exists_false, not_false_eq_true, iff_true]
    refine newlyWornFits_of_same ?_
    rcases handleItemMove_not_received s hreq with h | h
    · rw [h]
      exact fun _ _ => rfl
    · rw [h]
      exact handleInventoryRefresh_sameEquipment s

/-- A warrior of level 10 wears a plain helmet and carries one for level 80. -/
def helmetTable : ItemTable := fun id =>
  if id = 204001000 then some { slot := some ITEM_SLOT_HELMET }
  else if id = 206008000 then some { slot := some ITEM_SLOT_HELMET, reqLevel := some 80 }
  else none

def helmetContext : MoveContext where
  table := helmetTable
  inGame := true
  dead := false
  trading := false
  merchanting := false
  mining := false
  fishing := false
  browsingMerchant := false
  zoneId := 21
  character := some
    { classId := 101, level := 10, str := 65, sta := 65, dex := 60, intel := 50, cha := 50 }

def helmetSession : MoveSession where
  inventory := ((List.replicate INVENTORY_TOTAL {}).set HEAD
    { itemId := 204001000, durability := 3000, count := 1 }).set SLOT_MAX
      { itemId := 206008000, durability := 5000, count := 1 }
  petData := none
  equippedItems := []
  fairyCheck := false
  autoLoot := false

/-- Taking the plain helmet off onto the other one puts that one on. -/
theorem helmet_swapped_on :
    ¬ NewlyWornFits helmetContext helmetSession.inventory
      (handleItemMove helmetContext helmetSession
        ([1, 2] ++ Bytes.le 4 204001000 ++ [1, 0])).2.inventory := by
  intro h
  have hid : ((handleItemMove helmetContext helmetSession
      ([1, 2] ++ Bytes.le 4 204001000 ++ [1, 0])).2.inventory.slot HEAD).itemId = 206008000 := by
    decide +kernel
  have hold : (helmetSession.inventory.slot HEAD).itemId = 204001000 := by decide +kernel
  obtain ⟨item, hitem, -, hwear, -⟩ := h HEAD (by decide) (by rw [hid]; decide) (by
    intro heq
    rw [heq, hold] at hid
    cases hid)
  rw [hid] at hitem
  obtain rfl := Option.some.inj hitem
  revert hwear
  decide

end KoServer
