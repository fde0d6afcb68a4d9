import KoServer.Proofs.Inventory
import KoServer.Spec.ItemMove

/-! Which moves keep every unit. Swaps and moves into an empty slot always do. Two steps may
lose some: a merge, past the stack limit or of a stack onto itself, and a weapon put into
an occupied hand while the other hand's two-handed weapon is forced off. -/

namespace KoServer

def ConservesUnits (table : ItemTable) (inv inv' : Inventory) : Prop :=
  ∀ itemId ≠ 0, units table itemId inv' = units table itemId inv

/-- A merge of these two slots does not keep what they hold. -/
def mergeLoses (inv : Inventory) (srcIdx dstIdx : ℕ) : Prop :=
  if srcIdx = dstIdx then 0 < (inv.slot srcIdx).count
  else ITEMCOUNT_MAX < (inv.slot srcIdx).count + (inv.slot dstIdx).count

def mergesInto (table : ItemTable) (inv : Inventory) (itemId srcIdx dstIdx : ℕ) : Prop :=
  itemId ≠ 0 ∧ (inv.slot srcIdx).itemId = itemId ∧ (inv.slot dstIdx).itemId = itemId ∧
    mergesStacks table itemId = true

variable {table : ItemTable} {inv : Inventory}

theorem swapItems_conserves {a b : ℕ} (ha : a < inv.length) (hb : b < inv.length) :
    ConservesUnits table inv (swapItems inv a b) := by
  intro itemId hid
  unfold swapItems
  split_ifs with h
  · exact units_swap ha hb
  · exact units_move ha hb hid (not_not.mp h)

/-- Both merges set the destination to a stack of the clamped sum and clear the source. -/
theorem merge_conserves_iff {itemId a b : ℕ} (ha : a < inv.length) (hb : b < inv.length)
    (hmerge : mergesInto table inv itemId a b) {s : UserItemSlot} (hs : s.itemId = itemId)
    (hcount : s.count = min ((inv.slot a).count + (inv.slot b).count) ITEMCOUNT_MAX) :
    ConservesUnits table inv ((inv.set b s).set a {}) ↔ ¬ mergeLoses inv a b := by
  obtain ⟨hid, hida, hidb, hstacks⟩ := hmerge
  have hcountable : nonCountable table itemId = false := by
    unfold mergesStacks at hstacks
    unfold nonCountable
    simp only [decide_eq_true_eq] at hstacks
    rw [hstacks]
    rfl
  have hown {t : UserItemSlot} (ht : t.itemId = itemId) : slotUnits table itemId t = t.count := by
    simp [slotUnits, ht, hcountable]
  have hother {id : ℕ} (hne : id ≠ itemId) {t : UserItemSlot} (ht : t.itemId = itemId) :
      slotUnits table id t = 0 := if_neg (by rw [ht]; exact hne.symm)
  unfold mergeLoses
  rcases eq_or_ne a b with rfl | hab
  · rw [if_pos rfl, List.set_set]
    constructor
    · intro h
      have hset := units_set table itemId ha {}
      rw [h itemId hid, hown hida, slotUnits_empty table hid] at hset
      omega
    · intro h id hne
      have hset := units_set table id ha {}
      rw [slotUnits_empty table hne] at hset
      by_cases heq : id = itemId
      · subst heq
        rw [hown hida] at hset
        omega
      · rw [hother heq hida] at hset
        omega
  · rw [if_neg hab]
    have hset (id : ℕ) := units_set_set table id hb ha hab.symm s {}
    constructor
    · intro h
      have h1 := hset itemId
      rw [h itemId hid, hown hida, hown hidb, hown hs, slotUnits_empty table hid, hcount] at h1
      omega
    · intro h id hne
      have h1 := hset id
      rw [slotUnits_empty table hne] at h1
      by_cases heq : id = itemId
      · subst heq
        rw [hown hida, hown hidb, hown hs, hcount] at h1
        omega
      · rw [hother heq hida, hother heq hidb, hother heq hs] at h1
        omega

/-- A forced-off weapon ends where the new one came from; only the destination hand is
overwritten. -/
theorem equipForcingOff_conserves_iff {a b c : ℕ} (ha : a < inv.length) (hb : b < inv.length)
    (hc : c < inv.length) (hab : a ≠ b) (hac : a ≠ c) (hbc : b ≠ c) :
    ConservesUnits table inv (equipForcingOff inv a b c) ↔ ¬ holdsUnits table (inv.slot b) := by
  have hset (itemId : ℕ) (hid : itemId ≠ 0) :
      units table itemId (equipForcingOff inv a b c) + slotUnits table itemId (inv.slot b) =
        units table itemId inv := by
    have h2 := units_set_set table itemId hb ha hab.symm (inv.slot a)
      (inv.slot c)
    have hc' : c < ((inv.set b (inv.slot a)).set a (inv.slot c)).length := by simpa using hc
    have h3 := units_set table itemId hc' {}
    rw [Inventory.slot_set_ne hac, Inventory.slot_set_ne hbc, slotUnits_empty table hid] at h3
    unfold equipForcingOff
    omega
  rw [not_holdsUnits]
  refine forall₂_congr fun itemId hid => ?_
  have := hset itemId hid
  omega

theorem conservesUnits_refl : ConservesUnits table inv inv := fun _ _ => rfl

theorem conserves_iff_of {P : Prop} {inv' : Inventory} (h : ConservesUnits table inv inv')
    (hP : ¬ P) : ConservesUnits table inv inv' ↔ ¬ P :=
  ⟨fun _ => hP, fun _ => h⟩

theorem handItemSlotType_some {hand : ℕ} {t : ℤ} (h : handItemSlotType table inv hand = some t) :
    (inv.slot hand).itemId ≠ 0 := by
  unfold handItemSlotType at h
  split at h
  · cases h
  · next s hs =>
    rw [Inventory.slot_of_getElem? hs]
    split_ifs at h with hid
    exact hid

/-- Equipping into `dst` takes the other hand's two-handed weapon off. -/
def forcesOff (table : ItemTable) (inv : Inventory) (itemSlotType : ℤ) (dst : ℕ) : Prop :=
  dst = RIGHTHAND ∧ itemSlotType ∈ [ITEM_SLOT_1H_RIGHT, ITEM_SLOT_EITHER_HAND] ∧
      handItemSlotType table inv LEFTHAND = some ITEM_SLOT_2H_LEFT ∨
    dst = LEFTHAND ∧ itemSlotType ∈ [ITEM_SLOT_1H_LEFT, ITEM_SLOT_EITHER_HAND] ∧
      handItemSlotType table inv RIGHTHAND = some ITEM_SLOT_2H_RIGHT

theorem twoHandCheck_conserves_iff {src hand other : ℕ} (t : ℤ) (hsrc : src < inv.length)
    (hbag : SLOT_MAX ≤ src) (hhand : hand < SLOT_MAX) (hother : other < SLOT_MAX)
    (hne : hand ≠ other) :
    ConservesUnits table inv
        (if (inv.slot other).itemId ≠ 0 then
          if handItemSlotType table inv other = some t then equipForcingOff inv src hand other
          else swapItems inv src hand
        else swapItems inv src hand) ↔
      ¬ (handItemSlotType table inv other = some t ∧ holdsUnits table (inv.slot hand)) := by
  have hh : hand < inv.length := by omega
  have ho : other < inv.length := by omega
  have hsh : src ≠ hand := by omega
  have hso : src ≠ other := by omega
  split_ifs with hheld h2h
  · rw [equipForcingOff_conserves_iff hsrc hh ho hsh hso hne]
    simp [h2h]
  · exact conserves_iff_of (swapItems_conserves hsrc hh) fun h => h2h h.1
  · exact conserves_iff_of (swapItems_conserves hsrc hh) fun h => hheld (handItemSlotType_some h.1)

theorem twoHandCheck1hRight_conserves_iff {src : ℕ} (hsrc : src < inv.length)
    (hbag : SLOT_MAX ≤ src) :
    ConservesUnits table inv
        (twoHandCheck1hRight inv src RIGHTHAND (handItemSlotType table inv LEFTHAND)) ↔
      ¬ (handItemSlotType table inv LEFTHAND = some ITEM_SLOT_2H_LEFT ∧
        holdsUnits table (inv.slot RIGHTHAND)) :=
  twoHandCheck_conserves_iff _ hsrc hbag (by decide) (by decide) (by decide)

theorem twoHandCheck1hLeft_conserves_iff {src : ℕ} (hsrc : src < inv.length)
    (hbag : SLOT_MAX ≤ src) :
    ConservesUnits table inv
        (twoHandCheck1hLeft inv src LEFTHAND (handItemSlotType table inv RIGHTHAND)) ↔
      ¬ (handItemSlotType table inv RIGHTHAND = some ITEM_SLOT_2H_RIGHT ∧
        holdsUnits table (inv.slot LEFTHAND)) :=
  twoHandCheck_conserves_iff _ hsrc hbag (by decide) (by decide) (by decide)

/-- A two-handed weapon only goes on when the hand it needs is free, or becomes free. -/
theorem equipForcingOff_conserves_of_free {src a b : ℕ} (hsrc : src < inv.length)
    (hbag : SLOT_MAX ≤ src) (ha : a < SLOT_MAX) (hb : b < SLOT_MAX) (hab : a ≠ b)
    (hfree : (inv.slot a).itemId = 0) : ConservesUnits table inv (equipForcingOff inv src a b) :=
  (equipForcingOff_conserves_iff hsrc (by omega) (by omega) (by omega) (by omega) hab).mpr
    fun h => h.1 hfree

/-- One-handed weapons go where their slot type says. -/
theorem hand_of_isValidSlotPos {item : Item} {dst : ℕ} (h : isValidSlotPos item dst = true) :
    (item.slot.getD (-1) = ITEM_SLOT_1H_RIGHT → dst = RIGHTHAND) ∧
      (item.slot.getD (-1) = ITEM_SLOT_1H_LEFT → dst = LEFTHAND) := by
  constructor
  all_goals
    intro ht
    rw [isValidSlotPos, ht] at h
    simpa [ITEM_SLOT_1H_RIGHT, ITEM_SLOT_1H_LEFT, ITEM_SLOT_EITHER_HAND] using h

/-- What becomes of the other hand when `handleTwoHandedEquip` puts an item on: a one-handed
weapon checks it, a two-handed one empties it, anything else leaves it alone. -/
theorem handleTwoHandedEquip_cases (inv : Inventory) (src dst : ℕ) (t : ℤ) (rh lh : Option ℤ) :
    ((t = ITEM_SLOT_1H_RIGHT ∨ t = ITEM_SLOT_EITHER_HAND ∧ dst = RIGHTHAND) ∧
        handleTwoHandedEquip inv src dst t rh lh = some (twoHandCheck1hRight inv src dst lh)) ∨
      ((t = ITEM_SLOT_1H_LEFT ∨ t = ITEM_SLOT_EITHER_HAND ∧ dst = LEFTHAND) ∧
        handleTwoHandedEquip inv src dst t rh lh = some (twoHandCheck1hLeft inv src dst rh)) ∨
      ((t ≠ ITEM_SLOT_1H_RIGHT ∧ t ≠ ITEM_SLOT_1H_LEFT ∧
          (t = ITEM_SLOT_EITHER_HAND → dst ≠ RIGHTHAND ∧ dst ≠ LEFTHAND)) ∧
        (handleTwoHandedEquip inv src dst t rh lh = none ∨
          handleTwoHandedEquip inv src dst t rh lh = some (swapItems inv src dst) ∨
          t = ITEM_SLOT_2H_RIGHT ∧ (inv.slot RIGHTHAND).itemId = 0 ∧
            handleTwoHandedEquip inv src dst t rh lh =
              some (equipForcingOff inv src RIGHTHAND LEFTHAND) ∨
          t = ITEM_SLOT_2H_LEFT ∧ (inv.slot LEFTHAND).itemId = 0 ∧
            handleTwoHandedEquip inv src dst t rh lh =
              some (equipForcingOff inv src LEFTHAND RIGHTHAND))) := by
  unfold handleTwoHandedEquip
  by_cases h1 : t = ITEM_SLOT_1H_RIGHT
  · exact Or.inl ⟨Or.inl h1, if_pos h1⟩
  by_cases h2 : t = ITEM_SLOT_EITHER_HAND ∧ dst = RIGHTHAND
  · rw [if_neg h1, if_pos h2]
    exact Or.inl ⟨Or.inr h2, rfl⟩
  by_cases h3 : t = ITEM_SLOT_1H_LEFT
  · rw [if_neg h1, if_neg h2, if_pos h3]
    exact Or.inr (Or.inl ⟨Or.inl h3, rfl⟩)
  by_cases h4 : t = ITEM_SLOT_EITHER_HAND ∧ dst = LEFTHAND
  · rw [if_neg h1, if_neg h2, if_neg h3, if_pos h4]
    exact Or.inr (Or.inl ⟨Or.inr h4, rfl⟩)
  rw [if_neg h1, if_neg h2, if_neg h3, if_neg h4]
  refine Or.inr (Or.inr ⟨⟨h1, h3, fun ht => ⟨fun hd => h2 ⟨ht, hd⟩, fun hd => h4 ⟨ht, hd⟩⟩⟩, ?_⟩)
  by_cases h5 : t = ITEM_SLOT_2H_RIGHT
  · rw [if_pos h5]
    by_cases hl : (inv.slot LEFTHAND).itemId = 0
    · rw [if_neg fun h => h.1 hl, if_neg (not_not.mpr hl)]
      exact Or.inr (Or.inl rfl)
    by_cases hr : (inv.slot RIGHTHAND).itemId = 0
    · rw [if_neg fun h => h.2 hr, if_pos hl]
      exact Or.inr (Or.inr (Or.inl ⟨h5, hr, rfl⟩))
    · exact Or.inl (if_pos ⟨hl, hr⟩)
  rw [if_neg h5]
  by_cases h8 : t = ITEM_SLOT_2H_LEFT
  · rw [if_pos h8]
    by_cases hr : (inv.slot RIGHTHAND).itemId = 0
    · rw [if_neg fun h => h.2 hr, if_neg (not_not.mpr hr)]
      exact Or.inr (Or.inl rfl)
    by_cases hl : (inv.slot LEFTHAND).itemId = 0
    · rw [if_neg fun h => h.1 hl, if_pos hr]
      exact Or.inr (Or.inr (Or.inr ⟨h8, hl, rfl⟩))
    · exact Or.inl (if_pos ⟨hl, hr⟩)
  · exact Or.inr (Or.inl (if_neg h8))

theorem handleTwoHandedEquip_conserves_iff {src dst : ℕ} {t : ℤ} (hsrc : src < inv.length)
    (hbag : SLOT_MAX ≤ src) (hdst : dst < SLOT_MAX)
    (hright : t = ITEM_SLOT_1H_RIGHT → dst = RIGHTHAND)
    (hleft : t = ITEM_SLOT_1H_LEFT → dst = LEFTHAND) :
    ConservesUnits table inv
        ((handleTwoHandedEquip inv src dst t (handItemSlotType table inv RIGHTHAND)
          (handItemSlotType table inv LEFTHAND)).getD inv) ↔
      ¬ (forcesOff table inv t dst ∧ holdsUnits table (inv.slot dst)) := by
  have hdstlen : dst < inv.length := by omega
  rcases handleTwoHandedEquip_cases inv src dst t (handItemSlotType table inv RIGHTHAND)
    (handItemSlotType table inv LEFTHAND) with ⟨ht, heq⟩ | ⟨ht, heq⟩ | ⟨⟨h1, h3, heither⟩, hother⟩
  · have hd : dst = RIGHTHAND := ht.elim hright And.right
    rw [heq, Option.getD_some, hd, twoHandCheck1hRight_conserves_iff hsrc hbag]
    rcases ht with ht | ⟨ht, -⟩ <;> simp [forcesOff, ht, RIGHTHAND, LEFTHAND]
  · have hd : dst = LEFTHAND := ht.elim hleft And.right
    rw [heq, Option.getD_some, hd, twoHandCheck1hLeft_conserves_iff hsrc hbag]
    rcases ht with ht | ⟨ht, -⟩ <;> simp [forcesOff, ht, RIGHTHAND, LEFTHAND]
  · -- no other slot type takes a weapon off the other hand with the destination occupied
    refine conserves_iff_of ?_ ?_
    · rcases hother with heq | heq | ⟨-, hr, heq⟩ | ⟨-, hl, heq⟩
      · rw [heq]
        exact conservesUnits_refl
      · rw [heq]
        exact swapItems_conserves hsrc hdstlen
      · rw [heq]
        exact equipForcingOff_conserves_of_free hsrc hbag (by decide) (by decide) (by decide) hr
      · rw [heq]
        exact equipForcingOff_conserves_of_free hsrc hbag (by decide) (by decide) (by decide) hl
    · rintro ⟨⟨hd, ht, -⟩ | ⟨hd, ht, -⟩, -⟩
      · rcases List.mem_pair.mp ht with ht | ht
        · exact h1 ht
        · exact (heither ht).1 hd
      · rcases List.mem_pair.mp ht with ht | ht
        · exact h3 ht
        · exact (heither ht).2 hd

def losesUnits (table : ItemTable) (inv : Inventory) (itemSlotType : ℤ) (req : MoveRequest) :
    Prop :=
  match req.dir with
  | .invenSlot =>
    (inv.slot (SLOT_MAX + req.srcPos)).itemId = req.itemId ∧
      forcesOff table inv itemSlotType req.dstPos ∧ holdsUnits table (inv.slot req.dstPos)
  | .invenInven =>
    (req.srcPos < HAVE_MAX ∧ req.dstPos < HAVE_MAX) ∧
      mergesInto table inv req.itemId (SLOT_MAX + req.srcPos) (SLOT_MAX + req.dstPos) ∧
      mergeLoses inv (SLOT_MAX + req.srcPos) (SLOT_MAX + req.dstPos)
  | .invenToMbag =>
    (req.srcPos < HAVE_MAX ∧ req.dstPos < MBAG_TOTAL ∧
        mbagPresent inv (INVENTORY_MBAG + req.dstPos) = true) ∧
      mergesInto table inv req.itemId (SLOT_MAX + req.srcPos) (INVENTORY_MBAG + req.dstPos) ∧
      mergeLoses inv (SLOT_MAX + req.srcPos) (INVENTORY_MBAG + req.dstPos)
  | .mbagToMbag =>
    (req.srcPos < MBAG_TOTAL ∧ req.dstPos < MBAG_TOTAL ∧
        mbagPresent inv (INVENTORY_MBAG + req.dstPos) = true) ∧
      mergesInto table inv req.itemId (INVENTORY_MBAG + req.srcPos) (INVENTORY_MBAG + req.dstPos) ∧
      mergeLoses inv (INVENTORY_MBAG + req.srcPos) (INVENTORY_MBAG + req.dstPos)
  | _ => False

theorem mergeKeepingDst_conserves_iff {itemId a b : ℕ} (ha : a < inv.length) (hb : b < inv.length)
    (hmerge : mergesInto table inv itemId a b) :
    ConservesUnits table inv (mergeKeepingDst inv a b) ↔ ¬ mergeLoses inv a b := by
  refine merge_conserves_iff ha hb hmerge hmerge.2.2.1 ?_
  simp only [saturatingAdd16, ITEMCOUNT_MAX]
  omega

/-- The magic bags do not ask for an item to be there: two empty slots may be merged. -/
theorem mergeTakingSrc_conserves_iff {itemId a b : ℕ} (ha : a < inv.length) (hb : b < inv.length)
    (hida : (inv.slot a).itemId = itemId) (hidb : (inv.slot b).itemId = itemId)
    (hstacks : mergesStacks table itemId = true) :
    ConservesUnits table inv (mergeTakingSrc inv a b) ↔
      ¬ (mergesInto table inv itemId a b ∧ mergeLoses inv a b) := by
  obtain ⟨s, hs, hcount, hdef⟩ : ∃ s : UserItemSlot, s.itemId = itemId ∧
      s.count = min ((inv.slot a).count + (inv.slot b).count) ITEMCOUNT_MAX ∧
      mergeTakingSrc inv a b = (inv.set b s).set a {} := by
    refine ⟨{ inv.slot a with
      count := min (saturatingAdd16 (inv.slot a).count (inv.slot b).count) ITEMCOUNT_MAX },
      hida, ?_, rfl⟩
    simp only [saturatingAdd16, ITEMCOUNT_MAX]
    omega
  rw [hdef]
  rcases eq_or_ne itemId 0 with rfl | hid
  · refine conserves_iff_of (fun id hne => ?_) fun h => h.1.1 rfl
    have ha0 := slotUnits_of_empty table hne hida
    have hb0 := slotUnits_of_empty table hne hidb
    have hs0 := slotUnits_of_empty table hne hs
    have h0 := slotUnits_empty table hne
    rcases eq_or_ne a b with rfl | hab
    · have hset := units_set table id ha {}
      rw [List.set_set]
      omega
    · have hset := units_set_set table id hb ha hab.symm s {}
      omega
  · have hmerge : mergesInto table inv itemId a b := ⟨hid, hida, hidb, hstacks⟩
    rw [and_iff_right hmerge]
    exact merge_conserves_iff ha hb hmerge hs hcount

theorem moveInInventory_conserves_iff (table : ItemTable) {t : ℤ} {req : MoveRequest}
    (hlen : INVENTORY_TOTAL ≤ inv.length)
    (hbag : req.dir = .invenSlot → req.srcPos < HAVE_MAX)
    (hright : req.dir = .invenSlot → t = ITEM_SLOT_1H_RIGHT → req.dstPos = RIGHTHAND)
    (hleft : req.dir = .invenSlot → t = ITEM_SLOT_1H_LEFT → req.dstPos = LEFTHAND) :
    ConservesUnits table inv
        ((moveInInventory table t (handItemSlotType table inv RIGHTHAND)
          (handItemSlotType table inv LEFTHAND) req inv).getD inv) ↔
      ¬ losesUnits table inv t req := by
  have htotal : INVENTORY_TOTAL = 96 := rfl
  have hslotMax : SLOT_MAX = 14 := rfl
  have hhaveMax : HAVE_MAX = 28 := rfl
  have hmbag : INVENTORY_MBAG = 53 := rfl
  have hmbagTotal : MBAG_TOTAL = 36 := rfl
  obtain ⟨dir, itemId, src, dst⟩ := req
  cases dir with
  | invenSlot =>
    have hsrc : src < HAVE_MAX := hbag rfl
    have hright : t = ITEM_SLOT_1H_RIGHT → dst = RIGHTHAND := hright rfl
    have hleft : t = ITEM_SLOT_1H_LEFT → dst = LEFTHAND := hleft rfl
    simp only [moveInInventory, losesUnits]
    split_ifs with h1 h2
    · refine conserves_iff_of conservesUnits_refl ?_
      rintro ⟨-, ⟨hd, -⟩ | ⟨hd, -⟩, -⟩
      · have : RIGHTHAND = 6 := rfl
        omega
      · have : LEFTHAND = 8 := rfl
        omega
    · exact conserves_iff_of conservesUnits_refl fun h => h2 h.1
    · rw [handleTwoHandedEquip_conserves_iff (by omega) (by omega) (by omega) hright hleft]
      simp [not_not.mp h2]
  | invenInven =>
    simp only [moveInInventory, losesUnits]
    split_ifs with h1 h2 h3
    · exact conserves_iff_of conservesUnits_refl fun h => by omega
    · exact conserves_iff_of conservesUnits_refl fun h => h2 h.2.1.2.1
    · have hmerge : mergesInto table inv itemId (SLOT_MAX + src) (SLOT_MAX + dst) :=
        ⟨h3.2.1 ▸ h3.2.2, not_not.mp h2, h3.2.1, h3.1⟩
      rw [Option.getD_some, mergeKeepingDst_conserves_iff (by omega) (by omega) hmerge]
      have hpos : src < HAVE_MAX ∧ dst < HAVE_MAX := by omega
      simp only [hpos, hmerge, true_and, and_self]
    · refine conserves_iff_of (swapItems_conserves (by omega) (by omega)) ?_
      rintro ⟨-, hmerge, -⟩
      exact h3 ⟨hmerge.2.2.2, hmerge.2.2.1, hmerge.2.2.1 ▸ hmerge.1⟩
  | invenToMbag =>
    simp only [moveInInventory, losesUnits]
    split_ifs with h1 h2 h3 h4 h5 h6
    · exact conserves_iff_of conservesUnits_refl fun h => by omega
    · exact conserves_iff_of conservesUnits_refl fun h => by omega
    · exact conserves_iff_of conservesUnits_refl fun h => by simp [h.1.2.2] at h3
    · exact conserves_iff_of conservesUnits_refl fun h => h4 h.2.1.2.1
    · exact conserves_iff_of conservesUnits_refl fun h => h5.2.2 h.2.1.2.2.1
    · rw [Option.getD_some, mergeTakingSrc_conserves_iff (by omega) (by omega) (not_not.mp h4)
        h6.1 h6.2]
      have hpos : src < HAVE_MAX ∧ dst < MBAG_TOTAL ∧
          mbagPresent inv (INVENTORY_MBAG + dst) = true := ⟨by omega, by omega, by simpa using h3⟩
      rw [and_iff_right hpos]
    · refine conserves_iff_of (swapItems_conserves (by omega) (by omega)) ?_
      rintro ⟨-, hmerge, -⟩
      exact h6 ⟨hmerge.2.2.1, hmerge.2.2.2⟩
  | mbagToMbag =>
    simp only [moveInInventory, losesUnits]
    split_ifs with h1 h2 h3 h4 h5
    · exact conserves_iff_of conservesUnits_refl fun h => by omega
    · exact conserves_iff_of conservesUnits_refl fun h => by omega
    · exact conserves_iff_of conservesUnits_refl fun h => by simp [h.1.2.2] at h3
    · exact conserves_iff_of conservesUnits_refl fun h => h4 h.2.1.2.1
    · rw [Option.getD_some, mergeTakingSrc_conserves_iff (by omega) (by omega) (not_not.mp h4)
        h5.1 h5.2]
      have hpos : src < MBAG_TOTAL ∧ dst < MBAG_TOTAL ∧
          mbagPresent inv (INVENTORY_MBAG + dst) = true := ⟨by omega, by omega, by simpa using h3⟩
      rw [and_iff_right hpos]
    · refine conserves_iff_of (swapItems_conserves (by omega) (by omega)) ?_
      rintro ⟨-, hmerge, -⟩
      exact h5 ⟨hmerge.2.2.1, hmerge.2.2.2⟩
  | slotInven =>
    simp only [moveInInventory, losesUnits, not_false_iff, iff_true]
    split_ifs with h1 h2
    · exact conservesUnits_refl
    · exact conservesUnits_refl
    · exact swapItems_conserves (by omega) (by omega)
  | slotSlot =>
    simp only [moveInInventory, losesUnits, not_false_iff, iff_true]
    split_ifs with h1 h2
    · exact conservesUnits_refl
    · exact conservesUnits_refl
    · exact fun itemId _ => units_swap (by omega) (by omega)
  | invenToCosp =>
    simp only [moveInInventory, losesUnits, not_false_iff, iff_true]
    split_ifs with h1 h2 h3 h4 h5 h6 h7
    all_goals try exact conservesUnits_refl
    · exact swapItems_conserves (by omega) (by omega)
    · exact swapItems_conserves (by omega) (by omega)
    · split
      · split_ifs with hidx
        · exact swapItems_conserves (by omega) hidx
        · exact conservesUnits_refl
      · exact conservesUnits_refl
  | cospToInven =>
    simp only [moveInInventory, losesUnits, not_false_iff, iff_true]
    split_ifs with h1
    · exact conservesUnits_refl
    · split
      · split_ifs with hidx hid
        · exact conservesUnits_refl
        · exact conservesUnits_refl
        · exact swapItems_conserves (by omega) (by omega)
      · exact conservesUnits_refl
  | mbagToInven =>
    simp only [moveInInventory, losesUnits, not_false_iff, iff_true]
    split_ifs with h1 h2 h3
    · exact conservesUnits_refl
    · exact conservesUnits_refl
    · exact conservesUnits_refl
    · exact swapItems_conserves (by omega) (by omega)
  | slotInvenToMbag =>
    simp only [moveInInventory, losesUnits, not_false_iff, iff_true]
    split_ifs with h1 h2 h3 h4
    all_goals try exact conservesUnits_refl
    all_goals exact swapItems_conserves (by omega) (by omega)
  | invenToPet => exact conserves_iff_of conservesUnits_refl id
  | petToInven => exact conserves_iff_of conservesUnits_refl id

theorem handItemSlotType_padded (hand : ℕ) :
    handItemSlotType table inv.padded hand = handItemSlotType table inv hand := by
  unfold handItemSlotType Inventory.padded
  rcases Nat.lt_or_ge hand inv.length with h | h
  · rw [List.getElem?_append_left h]
  · rw [List.getElem?_append_right h, List.getElem?_eq_none h, List.getElem?_replicate]
    split_ifs <;> simp

theorem losesUnits_padded {t : ℤ} {req : MoveRequest} :
    losesUnits table inv.padded t req ↔ losesUnits table inv t req := by
  simp only [losesUnits, forcesOff, handItemSlotType_padded, Inventory.slot_padded, mergesInto,
    mergeLoses, mbagPresent]

/-- The state checks of `handle`. -/
def moveBlocked (ctx : MoveContext) : Bool :=
  !ctx.inGame || ctx.dead || ctx.trading || ctx.merchanting || ctx.mining || ctx.fishing ||
    ctx.browsingMerchant || ctx.zoneId = ZONE_CHAOS_DUNGEON

/-- The fields of a move request; only the direction can be refused. -/
def parseMove (reader : PacketReader) : Option MoveRequest :=
  let (dirByte, reader) := reader.readU8D
  let (itemId, reader) := reader.readU32D
  let (srcPos, reader) := reader.readU8D
  let (dstPos, _) := reader.readU8D
  (ItemMoveDir.fromU8 dirByte).map fun dir => ⟨dir, itemId, srcPos, dstPos⟩

/-- The move request that gets past the state checks of `handle` and parses. -/
def receivedMove (ctx : MoveContext) (data : List UInt8) : Option MoveRequest :=
  let typed := (PacketReader.new data).readU8D
  if moveBlocked ctx then none else if typed.1 = 1 then parseMove typed.2 else none

def MoveSession.units (table : ItemTable) (itemId : ℕ) (s : MoveSession) : ℕ :=
  KoServer.units table itemId s.inventory +
    match s.petData with
    | none => 0
    | some pet => KoServer.units table itemId pet.items

/-- A request the checks let through, and that loses units all the same. -/
def lossyMove (ctx : MoveContext) (s : MoveSession) (data : List UInt8) : Prop :=
  ∃ req item, receivedMove ctx data = some req ∧ ctx.table req.itemId = some item ∧
    moveRefused ctx s req item = false ∧
    losesUnits ctx.table s.inventory (item.slot.getD (-1)) req

/-- Every slot reads as before; a short array may have been filled up with empty slots. -/
def SameSlots (s s' : MoveSession) : Prop :=
  (∀ i, s'.inventory.slot i = s.inventory.slot i) ∧ s'.petData = s.petData

theorem sameSlots_refl (s : MoveSession) : SameSlots s s := ⟨fun _ => rfl, rfl⟩

theorem sameSlots_padded (s : MoveSession) : SameSlots s { s with inventory := s.inventory.padded } :=
  ⟨Inventory.slot_padded, rfl⟩

theorem units_eq_of_padded (s : MoveSession) {itemId : ℕ} (hid : itemId ≠ 0) :
    ({ s with inventory := s.inventory.padded } : MoveSession).units table itemId =
      s.units table itemId := by
  simp only [MoveSession.units, units_padded hid]

theorem units_eq_iff_conserves {s s' : MoveSession} (h : s'.petData = s.petData) :
    (∀ itemId ≠ 0, s'.units table itemId = s.units table itemId) ↔
      ConservesUnits table s.inventory.padded s'.inventory := by
  refine forall₂_congr fun itemId hid => ?_
  simp only [MoveSession.units, h, units_padded hid, Nat.add_right_cancel_iff]

theorem units_exchange {items : Inventory} {itemId i j : ℕ} (hi : i < inv.length)
    (hj : j < items.length) (a b : UserItemSlot) :
    units table itemId (inv.set i a) + units table itemId (items.set j b) +
        (slotUnits table itemId (inv.slot i) + slotUnits table itemId (items.getD j {})) =
      units table itemId inv + units table itemId items +
        (slotUnits table itemId a + slotUnits table itemId b) := by
  have ha := units_set table itemId hi a
  have hb := units_set table itemId hj b
  simp only [Inventory.slot] at ha hb ⊢
  omega

/-- Between the inventory and the pet, slots are swapped or moved whole. -/
theorem moveWithPet_units {req : MoveRequest} {pet : PetState} {inv' : Inventory} {pet' : PetState}
    (hsrc : req.dir = .invenToPet → SLOT_MAX + req.srcPos < inv.length ∧
      req.dstPos < PET_INVENTORY_TOTAL)
    (hdst : req.dir = .petToInven → req.srcPos < PET_INVENTORY_TOTAL)
    (h : moveWithPet req inv pet = some (inv', pet')) {itemId : ℕ} (hid : itemId ≠ 0) :
    units table itemId inv' + units table itemId pet'.items =
      units table itemId inv + units table itemId pet.items := by
  have hpet := pet.items_length
  have h0 := slotUnits_empty table hid
  unfold moveWithPet at h
  split at h
  · next hdir =>
    obtain ⟨hi, hj⟩ := hsrc hdir
    rw [← hpet] at hj
    have hwrite := @units_exchange table inv pet.items itemId _ _ hi hj
    dsimp only at h
    split_ifs at h with h1 h2
    · obtain ⟨rfl, rfl⟩ := Prod.mk.inj (Option.some.inj h)
      have := hwrite (pet.items.getD req.dstPos {}) (inv.slot (SLOT_MAX + req.srcPos))
      simp only [PetState.set]
      omega
    · obtain ⟨rfl, rfl⟩ := Prod.mk.inj (Option.some.inj h)
      have := slotUnits_of_empty table hid (not_not.mp h2)
      have := hwrite {} (inv.slot (SLOT_MAX + req.srcPos))
      simp only [PetState.set]
      omega
  · next hdir =>
    have hj := hdst hdir
    rw [← hpet] at hj
    dsimp only at h
    split_ifs at h with h1 h2
    all_goals
      have hi : SLOT_MAX + req.dstPos < inv.length := by omega
      have hwrite := @units_exchange table inv pet.items itemId _ _ hi hj
      obtain ⟨rfl, rfl⟩ := Prod.mk.inj (Option.some.inj h)
    · have := hwrite (pet.items.getD req.srcPos {}) (inv.slot (SLOT_MAX + req.dstPos))
      simp only [PetState.set]
      omega
    · have := slotUnits_of_empty table hid (not_not.mp h2)
      have := hwrite (pet.items.getD req.srcPos {}) {}
      simp only [PetState.set]
      omega
  · cases h

/-- What the checks before the closure establish of a request they let through. -/
structure MoveChecked (ctx : MoveContext) (s : MoveSession) (req : MoveRequest)
    (item : Item) : Prop where
  wear : req.dir = .invenSlot ∨ req.dir = .slotSlot →
    req.dstPos < SLOT_MAX ∧ isValidSlotPos item req.dstPos = true ∧
      ∀ ch ∈ ctx.character, itemClassAvailable item ch.classId = true ∧
        itemEquipAvailable item ch = true
  equip : req.dir = .invenSlot → req.srcPos < HAVE_MAX ∧
    (s.inventory.slot (SLOT_MAX + req.srcPos)).flag ≠ ITEM_FLAG_DUPLICATE
  unequip : req.dir = .slotInven → req.srcPos < SLOT_MAX ∧ req.dstPos < HAVE_MAX ∧
    swapBackRefused ctx.table s.inventory (SLOT_MAX + req.dstPos)
      (fun d => d.slot.getD (-1) ≠ item.slot.getD (-1) || !isValidSlotPos d req.srcPos) = false
  exchange : req.dir = .slotSlot → swapBackRefused ctx.table s.inventory req.dstPos
    (fun d => d.slot.getD (-1) ≠ item.slot.getD (-1)) = false
  toPet : req.dir = .invenToPet → req.srcPos < HAVE_MAX ∧ req.dstPos < PET_INVENTORY_TOTAL
  fromPet : req.dir = .petToInven → req.srcPos < PET_INVENTORY_TOTAL

theorem checked_of_moveRefused {ctx : MoveContext} {s : MoveSession} {req : MoveRequest}
    {item : Item} (h : moveRefused ctx s req item = false) : MoveChecked ctx s req item := by
  simp only [moveRefused, Bool.or_eq_false_iff] at h
  obtain ⟨⟨⟨⟨⟨⟨⟨⟨⟨⟨⟨⟨hwear, hunequip⟩, hequip⟩, hflag⟩, -⟩, -⟩, hback⟩, hexchange⟩, -⟩, -⟩, -⟩,
    hto⟩, hfrom⟩ := h
  constructor
  case wear =>
    intro hd
    have hdir : (decide (req.dir = .invenSlot) || decide (req.dir = .slotSlot)) = true := by
      simpa using hd
    simp only [hdir, Bool.true_and, Bool.or_eq_false_iff, decide_eq_false_iff_not, not_le,
      Bool.not_eq_false'] at hwear
    obtain ⟨⟨hdst, hvalid⟩, hfit⟩ := hwear
    refine ⟨hdst, hvalid, fun ch hch => ?_⟩
    simpa only [Option.mem_def.mp hch, Bool.or_eq_false_iff, Bool.not_eq_false'] using hfit
  case equip =>
    intro hd
    simp only [hd, decide_true, Bool.true_and, decide_eq_false_iff_not, not_le] at hequip hflag
    exact ⟨hequip, hflag⟩
  case unequip =>
    intro hd
    simp only [hd, decide_true, Bool.true_and, Bool.or_eq_false_iff, decide_eq_false_iff_not,
      not_le] at hunequip hback
    exact ⟨hunequip.1, hunequip.2, hback⟩
  case exchange =>
    intro hd
    simpa only [hd, decide_true, Bool.true_and] using hexchange
  case toPet =>
    intro hd
    simpa only [hd, decide_true, Bool.true_and, Bool.or_eq_false_iff, decide_eq_false_iff_not,
      not_le] using hto
  case fromPet =>
    intro hd
    simp only [hd, decide_true, Bool.true_and, Bool.or_eq_false_iff, decide_eq_false_iff_not,
      not_le] at hfrom
    exact hfrom.1

theorem movePet_spec (table : ItemTable) {ctx : MoveContext} {s : MoveSession} {req : MoveRequest}
    {item : Item} (h : moveRefused ctx s req item = false) :
    (∀ itemId ≠ 0, (movePet s req).2.units table itemId = s.units table itemId) ∧
      ((movePet s req).1 = .failed → SameSlots s (movePet s req).2) := by
  have hchecked := checked_of_moveRefused h
  unfold movePet
  split
  · exact ⟨fun _ _ => rfl, fun _ => sameSlots_refl s⟩
  · next pet hpet =>
    split
    · exact ⟨fun _ hid => units_eq_of_padded s hid, fun _ => sameSlots_padded s⟩
    · next inv' pet' hmove =>
      refine ⟨fun itemId hid => ?_, nofun⟩
      have hlen : INVENTORY_TOTAL ≤ s.inventory.padded.length := Inventory.total_le_padded
      have hsum : units table itemId inv' + units table itemId pet'.items =
          units table itemId s.inventory.padded + units table itemId pet.items :=
        moveWithPet_units (fun hd => ?_) hchecked.fromPet hmove hid
      · simp only [MoveSession.units, hpet]
        rw [hsum, units_padded hid]
      · obtain ⟨h1, h2⟩ := hchecked.toPet hd
        have : INVENTORY_TOTAL = 96 := rfl
        have : SLOT_MAX = 14 := rfl
        have : HAVE_MAX = 28 := rfl
        exact ⟨by omega, h2⟩

theorem performMove_spec (ctx : MoveContext) (s : MoveSession) (req : MoveRequest) :
    ((∀ itemId ≠ 0, (performMove ctx s req).2.units ctx.table itemId = s.units ctx.table itemId) ↔
        ¬ ∃ item, ctx.table req.itemId = some item ∧ moveRefused ctx s req item = false ∧
          losesUnits ctx.table s.inventory (item.slot.getD (-1)) req) ∧
      ((performMove ctx s req).1 = .failed → SameSlots s (performMove ctx s req).2) := by
  unfold performMove
  cases htable : ctx.table req.itemId with
  | none => exact ⟨⟨fun _ => by simp, fun _ _ _ => rfl⟩, fun _ => sameSlots_refl s⟩
  | some item =>
    simp only [Option.some.injEq, exists_eq_left']
    cases hrefused : moveRefused ctx s req item with
    | true => exact ⟨⟨fun _ => by simp, fun _ _ _ => rfl⟩, fun _ => sameSlots_refl s⟩
    | false =>
      simp only [Bool.false_eq_true, if_false, true_and]
      by_cases hpet : req.dir = .invenToPet ∨ req.dir = .petToInven
      · rw [if_pos hpet]
        obtain ⟨hunits, hsame⟩ := movePet_spec ctx.table hrefused
        refine ⟨⟨fun _ => ?_, fun _ => hunits⟩, hsame⟩
        rcases hpet with hd | hd <;> simp [losesUnits, hd]
      · rw [if_neg hpet]
        have hchecked := checked_of_moveRefused hrefused
        have hvalid (hd : req.dir = .invenSlot) := (hchecked.wear (Or.inl hd)).2.1
        have hlen : INVENTORY_TOTAL ≤ s.inventory.padded.length := Inventory.total_le_padded
        have hiff := moveInInventory_conserves_iff ctx.table hlen (fun hd => (hchecked.equip hd).1)
          (fun hd => (hand_of_isValidSlotPos (hvalid hd)).1)
          (fun hd => (hand_of_isValidSlotPos (hvalid hd)).2)
        rw [losesUnits_padded, handItemSlotType_padded, handItemSlotType_padded] at hiff
        split
        · next hnone =>
          rw [hnone] at hiff
          refine ⟨(units_eq_iff_conserves ?_).trans hiff, fun _ => sameSlots_padded s⟩
          rfl
        · next inv' hsome =>
          rw [hsome] at hiff
          refine ⟨(units_eq_iff_conserves ?_).trans hiff, nofun⟩
          rfl

theorem handleItemMove_blocked {ctx : MoveContext} {s : MoveSession} {data : List UInt8}
    (h : moveBlocked ctx = true) : (handleItemMove ctx s data).2 = s := by
  unfold handleItemMove
  split_ifs with h1 h2 h3
  · rfl
  · rfl
  · rfl
  · simp only [moveBlocked, Bool.or_eq_true, decide_eq_true_eq] at h h1 h2
    tauto

theorem handleItemMove_open {ctx : MoveContext} {s : MoveSession} {data : List UInt8}
    (h : moveBlocked ctx = false) :
    handleItemMove ctx s data =
      match ((PacketReader.new data).readU8D).1 with
      | 1 => handleInventorySystem ctx s ((PacketReader.new data).readU8D).2
      | 2 => handleInventoryRefresh s
      | _ => (.failed, s) := by
  simp only [moveBlocked, Bool.or_eq_false_iff, decide_eq_false_iff_not] at h
  obtain ⟨⟨⟨⟨⟨⟨⟨h1, h2⟩, h3⟩, h4⟩, h5⟩, h6⟩, h7⟩, h8⟩ := h
  unfold handleItemMove
  split_ifs with hout hbusy
  · simp [h1, h2] at hout
  · simp [h3, h4, h5, h6, h7] at hbusy
  · rfl

theorem handleInventorySystem_eq (ctx : MoveContext) (s : MoveSession) (reader : PacketReader) :
    handleInventorySystem ctx s reader =
      match parseMove reader with
      | none => (.failed, s)
      | some req => performMove ctx s req := by
  unfold handleInventorySystem parseMove
  cases hdir : ItemMoveDir.fromU8 reader.readU8D.1 <;> simp [hdir]

theorem handleItemMove_received {ctx : MoveContext} {s : MoveSession} {data : List UInt8}
    {req : MoveRequest} (h : receivedMove ctx data = some req) :
    handleItemMove ctx s data = performMove ctx s req := by
  unfold receivedMove at h
  dsimp only at h
  split_ifs at h with hblocked htype
  rw [handleItemMove_open (by simpa using hblocked), htype]
  simp only [handleInventorySystem_eq, h]

/-- Without a move request there is at most the sorting of the bag. -/
theorem handleItemMove_not_received {ctx : MoveContext} (s : MoveSession) {data : List UInt8}
    (h : receivedMove ctx data = none) :
    (handleItemMove ctx s data).2 = s ∨ handleItemMove ctx s data = handleInventoryRefresh s := by
  cases hblocked : moveBlocked ctx with
  | true => exact Or.inl (handleItemMove_blocked hblocked)
  | false =>
    rw [handleItemMove_open hblocked]
    unfold receivedMove at h
    dsimp only at h
    rw [hblocked, if_neg (by decide)] at h
    split
    · next htype =>
      rw [if_pos htype] at h
      rw [handleInventorySystem_eq, h]
      exact Or.inl rfl
    · exact Or.inr rfl
    · exact Or.inl rfl

theorem handleInventoryRefresh_units (s : MoveSession) {itemId : ℕ} (hid : itemId ≠ 0) :
    (handleInventoryRefresh s).2.units table itemId = s.units table itemId := by
  have hsort : (handleInventoryRefresh s).2.inventory.Perm s.inventory.padded := by
    have hsplit : s.inventory.padded = s.inventory.padded.take SLOT_MAX ++
        ((s.inventory.padded.drop SLOT_MAX).take HAVE_MAX ++
          s.inventory.padded.drop (SLOT_MAX + HAVE_MAX)) := by
      rw [← List.drop_drop, List.take_append_drop, List.take_append_drop]
    conv_rhs => rw [hsplit]
    simp only [handleInventoryRefresh, List.append_assoc]
    exact ((List.mergeSort_perm _ _).append_right _).append_left _
  simp only [MoveSession.units, KoServer.units, Tally.total_perm _ hsort]
  exact congrArg (· + _) (units_padded hid)

/-- A move keeps the units of every item unless it merges past the limit, merges a stack
into itself or forces a weapon off with the destination hand occupied; and a failed
request leaves every slot as it was. -/
theorem item_move_conserves_iff (ctx : MoveContext) (s : MoveSession) (data : List UInt8) :
    ((∀ itemId ≠ 0,
        (handleItemMove ctx s data).2.units ctx.table itemId = s.units ctx.table itemId) ∧
      ((handleItemMove ctx s data).1 = .failed → SameSlots s (handleItemMove ctx s data).2)) ↔
    ¬ lossyMove ctx s data := by
  unfold lossyMove
  cases hreq : receivedMove ctx data with
  | some req =>
    rw [handleItemMove_received hreq]
    obtain ⟨hiff, hsame⟩ := performMove_spec ctx s req
    rw [and_iff_left hsame, hiff]
    simp
  | none =>
    simp only [reduceCtorEq, false_and, exists_false, not_false_eq_true, iff_true]
    rcases handleItemMove_not_received s hreq with h | h
    · rw [h]
      exact ⟨fun _ _ => rfl, fun _ => sameSlots_refl s⟩
    · rw [h]
      exact ⟨fun _ hid => handleInventoryRefresh_units s hid, nofun⟩

/-- A player in the field who owns a hundred potions in the first bag slot. -/
def potionTable : ItemTable := fun id => if id = 389010000 then some { countable := some 1 } else none

def potionContext : MoveContext where
  table := potionTable
  inGame := true
  dead := false
  trading := false
  merchanting := false
  mining := false
  fishing := false
  browsingMerchant := false
  zoneId := 21
  character := none

def potionSession : MoveSession where
  inventory := List.replicate SLOT_MAX {} ++ [{ itemId := 389010000, durability := 1, count := 100 }]
  petData := none
  equippedItems := []
  fairyCheck := false
  autoLoot := false

/-- Dropping a stack on its own slot is a merge with itself, and the clear comes last. -/
theorem stack_dropped_on_itself :
    ¬ ((∀ itemId ≠ 0,
        (handleItemMove potionContext potionSession
          ([1, 3] ++ Bytes.le 4 389010000 ++ [0, 0])).2.units potionTable itemId =
          potionSession.units potionTable itemId) ∧
      ((handleItemMove potionContext potionSession
          ([1, 3] ++ Bytes.le 4 389010000 ++ [0, 0])).1 = .failed →
        SameSlots potionSession (handleItemMove potionContext potionSession
          ([1, 3] ++ Bytes.le 4 389010000 ++ [0, 0])).2)) := by
  intro h
  have hgone : (handleItemMove potionContext potionSession
      ([1, 3] ++ Bytes.le 4 389010000 ++ [0, 0])).2.units potionTable 389010000 = 0 := by
    decide +kernel
  have hhad : potionSession.units potionTable 389010000 = 100 := by decide +kernel
  have hkept := h.1 389010000 (by decide)
  omega

end KoServer
