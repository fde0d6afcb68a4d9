import KoServer.Proofs.ItemEquip

/-! When a move leaves the other hand of a two-handed weapon free. Equipping clears that hand.
An exchange of two equipment slots does not look at it, and goes wrong where it brings a weapon
to a hand from elsewhere than the other hand. -/

namespace KoServer

inductive Hand
  | right | left
  deriving DecidableEq

namespace Hand

def slot : Hand → ℕ
  | right => RIGHTHAND
  | left => LEFTHAND

def other : Hand → Hand
  | right => left
  | left => right

def twoHanded : Hand → ℤ
  | right => ITEM_SLOT_2H_RIGHT
  | left => ITEM_SLOT_2H_LEFT

def oneHanded : Hand → ℤ
  | right => ITEM_SLOT_1H_RIGHT
  | left => ITEM_SLOT_1H_LEFT

@[simp] theorem other_other (hand : Hand) : hand.other.other = hand := by
  cases hand <;> rfl

theorem slot_lt (hand : Hand) : hand.slot < SLOT_MAX := by
  cases hand <;> decide

theorem slot_inj {hand hand' : Hand} (h : hand.slot = hand'.slot) : hand = hand' := by
  cases hand <;> cases hand' <;> first | rfl | exact absurd h (by decide)

theorem slot_other_ne (hand : Hand) : hand.other.slot ≠ hand.slot := by
  cases hand <;> decide

theorem eq_or_other (hand hand' : Hand) : hand' = hand ∨ hand' = hand.other := by
  cases hand <;> cases hand' <;> decide

end Hand

variable {table : ItemTable} {inv inv' : Inventory} {hand : Hand} {x y : UserItemSlot}

def slotTypeOf (table : ItemTable) (s : UserItemSlot) : Option ℤ :=
  if s.itemId ≠ 0 then (table s.itemId).bind Item.slot else none

theorem handItemSlotType_eq (slot : ℕ) :
    handItemSlotType table inv slot = slotTypeOf table (inv.slot slot) := by
  unfold handItemSlotType
  split
  · next hnone =>
    rw [Inventory.slot, List.getD_eq_getElem?_getD, hnone]
    rfl
  · next s hs =>
    rw [Inventory.slot_of_getElem? hs]
    rfl

theorem slotTypeOf_empty (h : x.itemId = 0) : slotTypeOf table x = none :=
  if_neg (not_not.mpr h)

theorem slotTypeOf_some {t : ℤ} (h : slotTypeOf table x = some t) : x.itemId ≠ 0 := by
  intro hempty
  rw [slotTypeOf_empty hempty] at h
  cases h

theorem slotTypeOf_item {item : Item} (hitem : table x.itemId = some item) (hx : x.itemId ≠ 0) :
    slotTypeOf table x = item.slot := by
  rw [slotTypeOf, if_pos hx, hitem]
  rfl

theorem slotType_of_item {item : Item} {t : ℤ} (hitem : table x.itemId = some item)
    (h : slotTypeOf table x = some t) : item.slot.getD (-1) = t := by
  rw [slotTypeOf_item hitem (slotTypeOf_some h)] at h
  rw [h, Option.getD_some]

def HandsExclude (table : ItemTable) (inv : Inventory) : Prop :=
  ∀ hand : Hand, slotTypeOf table (inv.slot hand.slot) = some hand.twoHanded →
    (inv.slot hand.other.slot).itemId = 0

def HandsApart (table : ItemTable) (hand : Hand) (x y : UserItemSlot) : Prop :=
  (slotTypeOf table x = some hand.twoHanded → y.itemId = 0) ∧
    (slotTypeOf table y = some hand.other.twoHanded → x.itemId = 0)

theorem handsExclude_iff (hand : Hand) : HandsExclude table inv ↔
    HandsApart table hand (inv.slot hand.slot) (inv.slot hand.other.slot) := by
  constructor
  · intro h
    have hother := h hand.other
    rw [Hand.other_other] at hother
    exact ⟨h hand, hother⟩
  · intro h hand'
    rcases Hand.eq_or_other hand hand' with rfl | rfl
    · exact h.1
    · rw [Hand.other_other]
      exact h.2

theorem apart_of_empty (h : y.itemId = 0) : HandsApart table hand x y := by
  constructor
  · intro _
    exact h
  · intro htwo
    exact absurd h (slotTypeOf_some htwo)

theorem apart_symm (h : HandsApart table hand x y) : HandsApart table hand.other y x := by
  unfold HandsApart
  rw [Hand.other_other]
  exact h.symm

theorem apart_of_empty' (h : x.itemId = 0) : HandsApart table hand x y := by
  have hempty : HandsApart table hand.other y x := apart_of_empty h
  have := apart_symm hempty
  rwa [Hand.other_other] at this

def Clashes (table : ItemTable) (inv : Inventory) (hand : Hand) (x : UserItemSlot) : Prop :=
  slotTypeOf table x = some hand.twoHanded ∧ (inv.slot hand.other.slot).itemId ≠ 0 ∨
    x.itemId ≠ 0 ∧ slotTypeOf table (inv.slot hand.other.slot) = some hand.other.twoHanded

theorem apart_iff_not_clashes :
    HandsApart table hand x (inv.slot hand.other.slot) ↔ ¬Clashes table inv hand x := by
  unfold HandsApart Clashes
  tauto

theorem handsExclude_of_same (h : SameEquipment inv inv') (hin : HandsExclude table inv) :
    HandsExclude table inv' := by
  intro hand
  rw [h _ hand.slot_lt, h _ hand.other.slot_lt]
  exact hin hand

theorem handsExclude_of_emptied (hin : HandsExclude table inv)
    (h : ∀ hand : Hand, inv'.slot hand.slot = inv.slot hand.slot ∨ (inv'.slot hand.slot).itemId = 0) :
    HandsExclude table inv' := by
  intro hand htwo
  have hsame := (h hand).resolve_right (slotTypeOf_some htwo)
  rw [hsame] at htwo
  rcases h hand.other with hother | hother
  · rw [hother]
    exact hin hand htwo
  · exact hother

theorem isValidSlotPos_hand {item : Item} (hand : Hand) (h : isValidSlotPos item hand.slot = true) :
    item.slot.getD (-1) = ITEM_SLOT_EITHER_HAND ∨ item.slot.getD (-1) = hand.oneHanded ∨
      item.slot.getD (-1) = hand.twoHanded := by
  cases hand with
  | right =>
    simp only [isValidSlotPos, Hand.slot, RIGHTHAND, LEFTHAND, BREAST, LEG, HEAD, GLOVE, FOOT,
      RIGHTEAR, LEFTEAR, NECK, RIGHTRING, LEFTRING, SHOULDER, WAIST, Nat.reduceEqDiff, decide_false,
      decide_true, Bool.or_false, ite_self] at h
    split_ifs at h with heither hone hother htwo
    · exact Or.inl heither
    · exact Or.inr (Or.inl hone)
    · exact Or.inr (Or.inr htwo)
  | left =>
    simp only [isValidSlotPos, Hand.slot, RIGHTHAND, LEFTHAND, BREAST, LEG, HEAD, GLOVE, FOOT,
      RIGHTEAR, LEFTEAR, NECK, RIGHTRING, LEFTRING, SHOULDER, WAIST, Nat.reduceEqDiff, decide_false,
      decide_true, Bool.or_false, ite_self] at h
    split_ifs at h with heither hother hone hright htwo
    · exact Or.inl heither
    · exact Or.inr (Or.inl hone)
    · exact Or.inr (Or.inr htwo)

theorem isValidSlotPos_twoHanded {item : Item} {dst : ℕ} (hand : Hand)
    (h : isValidSlotPos item dst = true) (ht : item.slot.getD (-1) = hand.twoHanded) :
    dst = hand.slot := by
  rw [isValidSlotPos, ht] at h
  cases hand <;> simpa [Hand.slot, Hand.twoHanded, ITEM_SLOT_2H_LEFT, ITEM_SLOT_2H_RIGHT, ITEM_SLOT_1H_RIGHT,
    ITEM_SLOT_1H_LEFT, ITEM_SLOT_EITHER_HAND] using h

/-- What equipping does for a hand: the other one is emptied or is empty, or neither weapon needs
two hands. -/
def EquipsHand (table : ItemTable) (inv inv' : Inventory) (hand : Hand) (src : ℕ) (t : ℤ) : Prop :=
  inv' = equipForcingOff inv src hand.slot hand.other.slot ∨
    inv' = swapItems inv src hand.slot ∧
      ((inv.slot hand.other.slot).itemId = 0 ∨
        t ≠ hand.twoHanded ∧
          slotTypeOf table (inv.slot hand.other.slot) ≠ some hand.other.twoHanded)

theorem equipsHand_check {src : ℕ} {t : ℤ} (hand : Hand) (ht : t ≠ hand.twoHanded) :
    EquipsHand table inv
      (if (inv.slot hand.other.slot).itemId ≠ 0 then
        if slotTypeOf table (inv.slot hand.other.slot) = some hand.other.twoHanded then
          equipForcingOff inv src hand.slot hand.other.slot
        else swapItems inv src hand.slot
      else swapItems inv src hand.slot) hand src t := by
  split_ifs with hheld htwo
  · exact Or.inl rfl
  · exact Or.inr ⟨rfl, Or.inr ⟨ht, htwo⟩⟩
  · exact Or.inr ⟨rfl, Or.inl (not_not.mp hheld)⟩

/-- A two-handed weapon is not put on with both hands full. -/
theorem equipsHand_twoHanded {src : ℕ} (hand : Hand)
    (h : (if (inv.slot LEFTHAND).itemId ≠ 0 ∧ (inv.slot RIGHTHAND).itemId ≠ 0 then none
      else if (inv.slot hand.other.slot).itemId ≠ 0 then
        some (equipForcingOff inv src hand.slot hand.other.slot)
      else some (swapItems inv src hand.slot)) = some inv') :
    EquipsHand table inv inv' hand src hand.twoHanded := by
  split_ifs at h with hboth hheld
  · exact Or.inl (Option.some.inj h).symm
  · exact Or.inr ⟨(Option.some.inj h).symm, Or.inl (not_not.mp hheld)⟩

theorem handleTwoHandedEquip_hand {src : ℕ} {item : Item} (hand : Hand)
    (hvalid : isValidSlotPos item hand.slot = true)
    (h : handleTwoHandedEquip inv src hand.slot (item.slot.getD (-1))
      (handItemSlotType table inv RIGHTHAND) (handItemSlotType table inv LEFTHAND) = some inv') :
    EquipsHand table inv inv' hand src (item.slot.getD (-1)) := by
  rw [handItemSlotType_eq, handItemSlotType_eq] at h
  cases hand with
  | right =>
    have hcheck {t : ℤ} : t ≠ ITEM_SLOT_2H_RIGHT → EquipsHand table inv
        (twoHandCheck1hRight inv src RIGHTHAND (slotTypeOf table (inv.slot LEFTHAND)))
        .right src t := equipsHand_check .right
    rcases isValidSlotPos_hand .right hvalid with ht | ht | ht
    · rw [ht] at h ⊢
      obtain rfl := Option.some.inj h
      exact hcheck (by decide)
    · rw [ht] at h ⊢
      obtain rfl := Option.some.inj h
      exact hcheck (by decide)
    · rw [ht] at h ⊢
      exact equipsHand_twoHanded .right h
  | left =>
    have hcheck {t : ℤ} : t ≠ ITEM_SLOT_2H_LEFT → EquipsHand table inv
        (twoHandCheck1hLeft inv src LEFTHAND (slotTypeOf table (inv.slot RIGHTHAND)))
        .left src t := equipsHand_check .left
    rcases isValidSlotPos_hand .left hvalid with ht | ht | ht
    · rw [ht] at h ⊢
      obtain rfl := Option.some.inj h
      exact hcheck (by decide)
    · rw [ht] at h ⊢
      obtain rfl := Option.some.inj h
      exact hcheck (by decide)
    · rw [ht] at h ⊢
      exact equipsHand_twoHanded .left h

/-- A weapon that is put on leaves the hands apart. -/
theorem equipsHand_exclude {src : ℕ} {item : Item} (hlen : INVENTORY_TOTAL ≤ inv.length)
    (hsrc : src < inv.length) (hbag : SLOT_MAX ≤ src)
    (hitem : table (inv.slot src).itemId = some item)
    (h : EquipsHand table inv inv' hand src (item.slot.getD (-1))) : HandsExclude table inv' := by
  have hhand := hand.slot_lt
  have hother := hand.other.slot_lt
  have hne := hand.slot_other_ne
  have htotal : INVENTORY_TOTAL = 96 := rfl
  have hslotMax : SLOT_MAX = 14 := rfl
  rw [handsExclude_iff hand]
  rcases h with rfl | ⟨rfl, hfree⟩
  · apply apart_of_empty
    rw [equipForcingOff, Inventory.slot_set_self (by simp; omega)]
  · rw [slot_swapItems hsrc (by omega) (by omega), if_pos rfl,
      slot_swapItems hsrc (by omega) (by omega), if_neg hne.symm]
    rcases hfree with hempty | ⟨hone, hone'⟩
    · exact apart_of_empty hempty
    · constructor
      · intro htwo
        exact absurd (slotType_of_item hitem htwo) hone
      · intro htwo
        exact absurd htwo hone'

theorem not_clashes_of_type (hin : HandsExclude table inv) (hheld : (inv.slot hand.slot).itemId ≠ 0)
    (htype : slotTypeOf table x = some hand.twoHanded →
      slotTypeOf table (inv.slot hand.slot) = some hand.twoHanded) :
    ¬Clashes table inv hand x := by
  intro hclash
  rcases hclash with ⟨htwo, hfull⟩ | ⟨-, htwo⟩
  · exact hfull (hin hand (htype htwo))
  · have hempty := hin hand.other htwo
    rw [Hand.other_other] at hempty
    exact hheld hempty

theorem not_clashes_empty (h : x.itemId = 0) : ¬Clashes table inv hand x := by
  intro hclash
  rcases hclash with ⟨htwo, -⟩ | ⟨hfull, -⟩
  · exact slotTypeOf_some htwo h
  · exact hfull h

/-- Two items whose slot types agree as the checks see them. -/
theorem slotTypeOf_same {item item' : Item} {hand : Hand} (hitem : table x.itemId = some item)
    (hx : x.itemId ≠ 0) (hitem' : table y.itemId = some item')
    (hsame : item'.slot.getD (-1) = item.slot.getD (-1))
    (htwo : slotTypeOf table y = some hand.twoHanded) : slotTypeOf table x = some hand.twoHanded := by
  have ht := (hsame.symm.trans (slotType_of_item hitem' htwo))
  rw [slotTypeOf_item hitem hx]
  cases hslot : item.slot with
  | none =>
    rw [hslot] at ht
    cases hand <;> exact absurd ht (by decide)
  | some t =>
    rw [hslot] at ht
    exact congrArg some ht

/-- What comes back into an empty hand, when the request names no item, clashes with the other. -/
def SwapsIn (table : ItemTable) (inv : Inventory) (src : ℕ) (back : UserItemSlot) : Prop :=
  ∃ hand : Hand, src = hand.slot ∧ (inv.slot src).itemId = 0 ∧ Clashes table inv hand back

theorem apart_swapsIn_iff {item : Item} {back : UserItemSlot} (hin : HandsExclude table inv)
    (hitem : table (inv.slot hand.slot).itemId = some item)
    (hback : back.itemId ≠ 0 → ∃ d, table back.itemId = some d ∧
      d.slot.getD (-1) = item.slot.getD (-1)) :
    HandsApart table hand back (inv.slot hand.other.slot) ↔ ¬SwapsIn table inv hand.slot back := by
  rw [apart_iff_not_clashes, not_iff_not]
  constructor
  · intro hclash
    refine ⟨hand, rfl, ?_, hclash⟩
    by_contra hheld
    refine not_clashes_of_type hin hheld (fun htwo => ?_) hclash
    obtain ⟨d, hd, hsame⟩ := hback (slotTypeOf_some htwo)
    exact slotTypeOf_same hitem hheld hd hsame htwo
  · intro ⟨hand', hslot, _, hclash⟩
    obtain rfl := Hand.slot_inj hslot
    exact hclash

theorem slotInven_exclude_iff {src dst : ℕ} {item : Item} (hin : HandsExclude table inv)
    (hsrc : src < SLOT_MAX) (hlen : SLOT_MAX + dst < inv.length)
    (hitem : table (inv.slot src).itemId = some item)
    (hback : (inv.slot (SLOT_MAX + dst)).itemId ≠ 0 → ∃ d,
      table (inv.slot (SLOT_MAX + dst)).itemId = some d ∧
        d.slot.getD (-1) = item.slot.getD (-1)) :
    HandsExclude table (swapItems inv src (SLOT_MAX + dst)) ↔
      ¬SwapsIn table inv src (inv.slot (SLOT_MAX + dst)) := by
  have hread (i : ℕ) (hi : i < SLOT_MAX) (hne : src ≠ i) :
      (swapItems inv src (SLOT_MAX + dst)).slot i = inv.slot i := by
    rw [slot_swapItems (by omega) hlen hne, if_neg (by omega)]
  by_cases hhand : ∃ hand : Hand, src = hand.slot
  · obtain ⟨hand, rfl⟩ := hhand
    rw [handsExclude_iff hand, hread _ hand.other.slot_lt hand.slot_other_ne.symm,
      slot_swapItems_src (by omega) hlen (by omega)]
    split_ifs with hocc
    · exact apart_swapsIn_iff hin hitem hback
    · apply iff_of_true (apart_of_empty' rfl)
      intro ⟨hand', _, _, hclash⟩
      exact not_clashes_empty (not_not.mp hocc) hclash
  · rw [not_exists] at hhand
    apply iff_of_true
    · intro hand
      rw [hread _ hand.slot_lt (hhand hand), hread _ hand.other.slot_lt (hhand hand.other)]
      exact hin hand
    · intro ⟨hand, hsrc', _⟩
      exact hhand hand hsrc'

def NoHand (slot : ℕ) : Prop := ∀ hand : Hand, slot ≠ hand.slot

/-- A weapon that stood where no weapon belongs clashes with what the other hand holds. -/
def BringsIn (table : ItemTable) (inv : Inventory) (src dst : ℕ) : Prop :=
  ∃ hand : Hand, dst = hand.slot ∧ NoHand src ∧ Clashes table inv hand (inv.slot src)

/-- Two hands that exchange what they hold: it is of one slot type, and of none that needs both. -/
theorem apart_exchanged {item : Item} (hin : HandsExclude table inv)
    (hitem : table (inv.slot hand.slot).itemId = some item)
    (hvalid : isValidSlotPos item hand.other.slot = true)
    (hback : (inv.slot hand.other.slot).itemId ≠ 0 → ∃ d,
      table (inv.slot hand.other.slot).itemId = some d ∧ d.slot.getD (-1) = item.slot.getD (-1)) :
    HandsApart table hand (inv.slot hand.other.slot) (inv.slot hand.slot) := by
  constructor
  · intro htwo
    obtain ⟨d, hd, hsame⟩ := hback (slotTypeOf_some htwo)
    have ht := hsame.symm.trans (slotType_of_item hd htwo)
    exact absurd (isValidSlotPos_twoHanded hand hvalid ht) hand.slot_other_ne
  · intro htwo
    by_contra hfull
    obtain ⟨d, hd, hsame⟩ := hback hfull
    have hheld := slotTypeOf_some htwo
    have hempty := hin hand.other (slotTypeOf_same hd hfull hitem hsame.symm htwo)
    rw [Hand.other_other] at hempty
    exact hheld hempty

theorem slotSlot_exclude_iff {src dst : ℕ} {item : Item} (hin : HandsExclude table inv)
    (hsrc : src < SLOT_MAX) (hdst : dst < SLOT_MAX) (hlen : INVENTORY_TOTAL ≤ inv.length)
    (hitem : table (inv.slot src).itemId = some item) (hvalid : isValidSlotPos item dst = true)
    (hback : (inv.slot dst).itemId ≠ 0 → ∃ d,
      table (inv.slot dst).itemId = some d ∧ d.slot.getD (-1) = item.slot.getD (-1)) :
    HandsExclude table (inv.swap src dst) ↔
      ¬(BringsIn table inv src dst ∨ NoHand dst ∧ SwapsIn table inv src (inv.slot dst)) := by
  have htotal : INVENTORY_TOTAL = 96 := rfl
  have hslotMax : SLOT_MAX = 14 := rfl
  have hread (i : ℕ) := @slot_swap inv src dst i (by omega) (by omega)
  by_cases hfrom : ∃ hand : Hand, src = hand.slot
  · obtain ⟨hand, rfl⟩ := hfrom
    have hbrings : ¬BringsIn table inv hand.slot dst := fun ⟨_, _, hno, _⟩ => hno hand rfl
    by_cases hto : ∃ hand' : Hand, dst = hand'.slot
    · obtain ⟨hand', rfl⟩ := hto
      apply iff_of_true
      · rw [handsExclude_iff hand, hread, hread]
        rcases Hand.eq_or_other hand hand' with rfl | rfl
        · rw [if_pos rfl, if_neg hand'.slot_other_ne.symm, if_neg hand'.slot_other_ne.symm]
          exact (handsExclude_iff hand').mp hin
        · rw [if_neg hand.slot_other_ne, if_pos rfl, if_pos rfl]
          exact apart_exchanged hin hitem hvalid hback
      · intro hbad
        exact hbad.elim hbrings fun h => h.1 hand' rfl
    · rw [not_exists] at hto
      rw [or_iff_right hbrings, and_iff_right (show NoHand dst from hto), handsExclude_iff hand, hread, hread,
        if_neg (hto hand), if_pos rfl, if_neg (hto hand.other), if_neg hand.slot_other_ne.symm]
      exact apart_swapsIn_iff hin hitem hback
  · rw [not_exists] at hfrom
    have hswaps : ¬(NoHand dst ∧ SwapsIn table inv src (inv.slot dst)) :=
      fun ⟨_, hand, hsame, _⟩ => hfrom hand hsame
    rw [or_iff_left hswaps]
    by_cases hto : ∃ hand : Hand, dst = hand.slot
    · obtain ⟨hand, rfl⟩ := hto
      rw [handsExclude_iff hand, hread, hread, if_pos rfl, if_neg hand.slot_other_ne.symm,
        if_neg (hfrom hand.other), apart_iff_not_clashes, not_iff_not]
      constructor
      · intro hclash
        exact ⟨hand, rfl, hfrom, hclash⟩
      · intro ⟨hand', hslot, _, hclash⟩
        obtain rfl := Hand.slot_inj hslot
        exact hclash
    · rw [not_exists] at hto
      apply iff_of_true
      · intro hand
        rw [hread, hread, if_neg (hto hand), if_neg (hfrom hand), if_neg (hto hand.other),
          if_neg (hfrom hand.other)]
        exact hin hand
      · intro ⟨hand, hslot, _⟩
        exact hto hand hslot

/-- A move that brings something to a hand without a look at the other one. -/
def clashingMove (table : ItemTable) (inv : Inventory) (req : MoveRequest) : Prop :=
  match req.dir with
  | .slotInven => SwapsIn table inv req.srcPos (inv.slot (SLOT_MAX + req.dstPos))
  | .slotSlot =>
    req.srcPos < SLOT_MAX ∧
      (BringsIn table inv req.srcPos req.dstPos ∨
        NoHand req.dstPos ∧ SwapsIn table inv req.srcPos (inv.slot req.dstPos))
  | _ => False

theorem handsExclude_padded : HandsExclude table inv.padded ↔ HandsExclude table inv := by
  simp only [HandsExclude, Inventory.slot_padded]

theorem clashingMove_padded {req : MoveRequest} :
    clashingMove table inv.padded req ↔ clashingMove table inv req := by
  simp only [clashingMove, SwapsIn, BringsIn, Clashes, Inventory.slot_padded]

theorem invenSlot_exclude {src dst : ℕ} {item : Item} (hin : HandsExclude table inv)
    (hlen : INVENTORY_TOTAL ≤ inv.length) (hsrc : src < HAVE_MAX) (hdst : dst < SLOT_MAX)
    (hitem : table (inv.slot (SLOT_MAX + src)).itemId = some item)
    (hvalid : isValidSlotPos item dst = true)
    (h : handleTwoHandedEquip inv (SLOT_MAX + src) dst (item.slot.getD (-1))
      (handItemSlotType table inv RIGHTHAND) (handItemSlotType table inv LEFTHAND) = some inv') :
    HandsExclude table inv' := by
  have htotal : INVENTORY_TOTAL = 96 := rfl
  have hslotMax : SLOT_MAX = 14 := rfl
  have hhaveMax : HAVE_MAX = 28 := rfl
  by_cases hhand : ∃ hand : Hand, dst = hand.slot
  · obtain ⟨hand, rfl⟩ := hhand
    exact equipsHand_exclude hlen (by omega) (by omega) hitem
      (handleTwoHandedEquip_hand hand hvalid h)
  · rw [not_exists] at hhand
    have hworn := handleTwoHandedEquip_wearsOnly hlen (by omega) (by omega) hdst
      (isValidSlotPos_twoHanded .right hvalid) (isValidSlotPos_twoHanded .left hvalid) h
    apply handsExclude_of_emptied hin
    intro hand
    rcases hworn _ hand.slot_lt with hsame | hempty | ⟨hd, -⟩
    · exact Or.inl hsame
    · exact Or.inr hempty
    · exact absurd hd.symm (hhand hand)

/-- The closure, on a request that the checks let through. -/
theorem moveInInventory_exclude_iff {ctx : MoveContext} {s : MoveSession} {req : MoveRequest}
    {item : Item} (hitem : ctx.table req.itemId = some item)
    (hrefused : moveRefused ctx s req item = false)
    (hin : HandsExclude ctx.table s.inventory.padded)
    (h : moveInInventory ctx.table (item.slot.getD (-1))
      (handItemSlotType ctx.table s.inventory.padded RIGHTHAND)
      (handItemSlotType ctx.table s.inventory.padded LEFTHAND) req s.inventory.padded =
        some inv') :
    HandsExclude ctx.table inv' ↔
      ¬((s.inventory.padded.slot req.srcPos).itemId = req.itemId ∧
        clashingMove ctx.table s.inventory.padded req) := by
  have hlen : INVENTORY_TOTAL ≤ s.inventory.padded.length := Inventory.total_le_padded
  have htotal : INVENTORY_TOTAL = 96 := rfl
  have hslotMax : SLOT_MAX = 14 := rfl
  have hhaveMax : HAVE_MAX = 28 := rfl
  have hchecked := checked_of_moveRefused hrefused
  obtain ⟨dir, itemId, src, dst⟩ := req
  cases dir with
  | invenSlot =>
    obtain ⟨hdstMax, hvalid, -⟩ := hchecked.wear (Or.inl rfl)
    obtain ⟨hsrcMax, -⟩ := hchecked.equip rfl
    simp only [clashingMove, and_false, not_false_eq_true, iff_true]
    simp only [moveInInventory] at h
    split_ifs at h with hrange hheld
    exact invenSlot_exclude hin hlen hsrcMax hdstMax (by rwa [not_not.mp hheld]) hvalid h
  | slotInven =>
    obtain ⟨hsrcMax, hdstMax, hback⟩ := hchecked.unequip rfl
    simp only [moveInInventory] at h
    split_ifs at h with hrange hheld
    obtain rfl := Option.some.inj h
    rw [and_iff_right (not_not.mp hheld)]
    apply slotInven_exclude_iff hin hsrcMax (by omega) (by rwa [not_not.mp hheld])
    rw [Inventory.slot_padded]
    intro hid
    obtain ⟨d, hd, hfit⟩ := of_swapBackRefused hback hid
    exact ⟨d, hd, by simpa using (Bool.or_eq_false_iff.mp hfit).1⟩
  | slotSlot =>
    obtain ⟨hdstMax, hvalid, -⟩ := hchecked.wear (Or.inr rfl)
    simp only [moveInInventory] at h
    split_ifs at h with hrange hheld
    obtain rfl := Option.some.inj h
    have hsrcMax : src < SLOT_MAX := by omega
    simp only [clashingMove]
    rw [and_iff_right (not_not.mp hheld), and_iff_right hsrcMax]
    apply slotSlot_exclude_iff hin hsrcMax hdstMax hlen (by rwa [not_not.mp hheld]) hvalid
    rw [Inventory.slot_padded]
    intro hid
    obtain ⟨d, hd, hfit⟩ := of_swapBackRefused (hchecked.exchange rfl) hid
    exact ⟨d, hd, by simpa using hfit⟩
  | _ =>
    simp only [clashingMove, and_false, not_false_eq_true, iff_true]
    exact handsExclude_of_same
      (moveInInventory_sameEquipment hlen ⟨by simp, by simp, by simp⟩ h) hin

theorem performMove_exclude_iff {ctx : MoveContext} {s : MoveSession}
    (hin : HandsExclude ctx.table s.inventory) (req : MoveRequest) :
    HandsExclude ctx.table (performMove ctx s req).2.inventory ↔
      ¬∃ item, ctx.table req.itemId = some item ∧ moveRefused ctx s req item = false ∧
        (s.inventory.slot req.srcPos).itemId = req.itemId ∧
          clashingMove ctx.table s.inventory req := by
  have hsame {i : Inventory} (h : SameEquipment s.inventory i) {P : Prop} (hP : ¬P) :
      HandsExclude ctx.table i ↔ ¬P := iff_of_true (handsExclude_of_same h hin) hP
  unfold performMove
  cases htable : ctx.table req.itemId with
  | none => exact hsame (fun _ _ => rfl) (by simp)
  | some item =>
    simp only [Option.some.injEq, exists_eq_left']
    cases hrefused : moveRefused ctx s req item with
    | true => exact hsame (fun _ _ => rfl) (by simp)
    | false =>
      simp only [Bool.false_eq_true, if_false, true_and]
      by_cases hpet : req.dir = .invenToPet ∨ req.dir = .petToInven
      · rw [if_pos hpet]
        apply hsame (movePet_sameEquipment s req)
        rcases hpet with hd | hd <;> simp [clashingMove, hd]
      · rw [if_neg hpet]
        split
        · next hnone =>
          apply hsame sameEquipment_padded
          intro ⟨hheld, hclash⟩
          obtain ⟨hunequip, hexchange⟩ :=
            moveInInventory_none (checked_of_moveRefused hrefused) hheld hnone
          cases hdir : req.dir with
          | slotInven => exact hunequip hdir
          | slotSlot =>
            have hrange : req.srcPos < SLOT_MAX := by
              simp only [clashingMove, hdir] at hclash
              exact hclash.1
            exact hexchange ⟨hdir, hrange⟩
          | _ => simp only [clashingMove, hdir] at hclash
        · next inv' hsome =>
          rw [← handItemSlotType_padded, ← @handItemSlotType_padded _ s.inventory LEFTHAND] at hsome
          have hiff := moveInInventory_exclude_iff htable hrefused (handsExclude_padded.mpr hin) hsome
          rw [Inventory.slot_padded, clashingMove_padded] at hiff
          exact hiff

/-- With the hands apart, equipping loses nothing. -/
theorem losesUnits_of_exclude {t : ℤ} {req : MoveRequest} (hin : HandsExclude table inv)
    (hdir : req.dir = .invenSlot) : ¬losesUnits table inv t req := by
  simp only [losesUnits, hdir]
  rintro ⟨-, hforces, hfull, -⟩
  rcases hforces with ⟨hd, -, htwo⟩ | ⟨hd, -, htwo⟩
  · rw [handItemSlotType_eq] at htwo
    rw [hd] at hfull
    exact hfull (hin .left htwo)
  · rw [handItemSlotType_eq] at htwo
    rw [hd] at hfull
    exact hfull (hin .right htwo)

/-- A request that the checks let through, and that brings a weapon to a hand whose other hand
does not go with it. -/
def clashingRequest (ctx : MoveContext) (s : MoveSession) (data : List UInt8) : Prop :=
  ∃ req item, receivedMove ctx data = some req ∧ ctx.table req.itemId = some item ∧
    moveRefused ctx s req item = false ∧ (s.inventory.slot req.srcPos).itemId = req.itemId ∧
      clashingMove ctx.table s.inventory req

/-- A request that the checks let through, and that merges a stack onto itself or past the limit. -/
def lossyMerge (ctx : MoveContext) (s : MoveSession) (data : List UInt8) : Prop :=
  ∃ req item, receivedMove ctx data = some req ∧ ctx.table req.itemId = some item ∧
    moveRefused ctx s req item = false ∧ req.dir ≠ .invenSlot ∧
      losesUnits ctx.table s.inventory (item.slot.getD (-1)) req

/-- With the hands apart before, a request leaves them apart exactly where it does not bring a
clashing weapon to a hand, and drops nothing exactly where it is no lossy merge. -/
theorem two_handed_iff (ctx : MoveContext) (s : MoveSession) (data : List UInt8)
    (hin : HandsExclude ctx.table s.inventory) :
    (HandsExclude ctx.table (handleItemMove ctx s data).2.inventory ↔
        ¬clashingRequest ctx s data) ∧
      ((∀ itemId ≠ 0,
          (handleItemMove ctx s data).2.units ctx.table itemId = s.units ctx.table itemId) ↔
        ¬lossyMerge ctx s data) := by
  unfold clashingRequest lossyMerge
  cases hreq : receivedMove ctx data with
  | some req =>
    rw [handleItemMove_received hreq, performMove_exclude_iff hin, (performMove_spec ctx s req).1]
    constructor
    · simp
    · simp only [Option.some.injEq]
      constructor
      · intro hkeeps ⟨req', item, hsame, hitem, hrefused, _, hloses⟩
        subst hsame
        exact hkeeps ⟨item, hitem, hrefused, hloses⟩
      · intro hkeeps ⟨item, hitem, hrefused, hloses⟩
        exact hkeeps ⟨req, item, rfl, hitem, hrefused,
          fun hdir => losesUnits_of_exclude hin hdir hloses, hloses⟩
  | none =>
    simp only [reduceCtorEq, false_and, exists_false, not_false_eq_true, iff_true]
    rcases handleItemMove_not_received s hreq with h | h
    · rw [h]
      exact ⟨hin, fun _ _ => rfl⟩
    · rw [h]
      exact ⟨handsExclude_of_same (handleInventoryRefresh_sameEquipment s) hin,
        fun _ hid => handleInventoryRefresh_units s hid⟩

def arsenalTable : ItemTable := fun id =>
  if id = 1 then some { slot := some ITEM_SLOT_2H_RIGHT, kind := some 22 }
  else if id = 2 then some { slot := some ITEM_SLOT_1H_LEFT, kind := some 60 }
  else if id = 3 then some { countable := some 1 }
  else none

def arsenalContext : MoveContext := { potionContext with table := arsenalTable }

/-- The sword in the right hand, the shield in the bag. -/
def armedSession : MoveSession :=
  { potionSession with
    inventory := ((List.replicate INVENTORY_TOTAL ({} : UserItemSlot)).set RIGHTHAND
      { itemId := 1, count := 1 }).set SLOT_MAX { itemId := 2, count := 1 } }

theorem armed_two_handed :
    (HandsExclude arsenalContext.table (handleItemMove arsenalContext armedSession
        ([1, 1] ++ Bytes.le 4 2 ++ [0, 8])).2.inventory ↔
      ¬clashingRequest arsenalContext armedSession ([1, 1] ++ Bytes.le 4 2 ++ [0, 8])) ∧
    ((∀ itemId ≠ 0, (handleItemMove arsenalContext armedSession
        ([1, 1] ++ Bytes.le 4 2 ++ [0, 8])).2.units arsenalContext.table itemId =
          armedSession.units arsenalContext.table itemId) ↔
      ¬lossyMerge arsenalContext armedSession ([1, 1] ++ Bytes.le 4 2 ++ [0, 8])) := by
  apply two_handed_iff
  intro hand
  cases hand <;> decide

/-- The sword where a helmet belongs, the shield in the left hand, potions in the bag. -/
def clutteredSession : MoveSession :=
  { potionSession with
    inventory := (((List.replicate INVENTORY_TOTAL ({} : UserItemSlot)).set HEAD
      { itemId := 1, count := 1 }).set LEFTHAND { itemId := 2, count := 1 }).set SLOT_MAX
      { itemId := 3, count := 100 } }

/-- The potions dropped on their own slot are gone. The sword goes from the helmet's slot to the
right hand, and the shield stays in the left one. -/
theorem cluttered_moves :
    HandsExclude arsenalTable clutteredSession.inventory ∧
      ((handleItemMove arsenalContext clutteredSession
          ([1, 3] ++ Bytes.le 4 3 ++ [0, 0])).1 = .moved ∧
        clutteredSession.units arsenalTable 3 = 100 ∧
        (handleItemMove arsenalContext clutteredSession
          ([1, 3] ++ Bytes.le 4 3 ++ [0, 0])).2.units arsenalTable 3 = 0) ∧
      (handleItemMove arsenalContext clutteredSession
          ([1, 4] ++ Bytes.le 4 1 ++ [1, 6])).1 = .moved ∧
        ¬HandsExclude arsenalTable (handleItemMove arsenalContext clutteredSession
          ([1, 4] ++ Bytes.le 4 1 ++ [1, 6])).2.inventory := by
  refine ⟨fun hand => ?_, ⟨by decide +kernel, by decide +kernel, by decide +kernel⟩,
    by decide +kernel, fun hapart => ?_⟩
  · cases hand <;> decide
  · exact absurd (hapart .right (by decide +kernel)) (by decide +kernel)

end KoServer
