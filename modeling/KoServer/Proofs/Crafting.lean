import Mathlib.Data.List.Nodup
import KoServer.Proofs.BagItems
import KoServer.Proofs.Merchant
import KoServer.Spec.Crafting

/-! What a crafting takes from the bag and what it puts there, against its recipe. The
materials come from slots that are all different; the product's slot and the shadow piece's
are found apart from them. -/

namespace KoServer

/-- The entries of a recipe that ask for something. -/
def ItemSpecialSewingRow.required (recipe : ItemSpecialSewingRow) : List (ℤ × ℤ) :=
  recipe.reqItems.filter fun entry => entry.1 ≠ 0

def suppliedPairs (materials : List SewMaterial) : List (ℤ × ℤ) :=
  materials.map fun m => ((m.itemId : ℤ), (m.count : ℤ))

def suppliedUnits (id : ℕ) (materials : List SewMaterial) : ℕ :=
  Tally.total (fun m => if m.itemId = id then m.count else 0) materials

def suppliedAt (i : ℕ) (materials : List SewMaterial) : ℕ :=
  Tally.total (fun m => if m.actualIdx = i then m.count else 0) materials

theorem suppliedUnits_cons (id : ℕ) (m : SewMaterial) (materials : List SewMaterial) :
    suppliedUnits id (m :: materials) =
      (if m.itemId = id then m.count else 0) + suppliedUnits id materials := Tally.total_cons _ _ _

theorem suppliedAt_cons (i : ℕ) (m : SewMaterial) (materials : List SewMaterial) :
    suppliedAt i (m :: materials) =
      (if m.actualIdx = i then m.count else 0) + suppliedAt i materials := Tally.total_cons _ _ _

def AskedFor (p : CraftingPlan) : Prop :=
  ∀ entry ∈ suppliedPairs p.materials,
    (suppliedPairs p.materials).count entry ≤ p.recipe.required.count entry

theorem materialCount_eq (recipe : ItemSpecialSewingRow) :
    recipe.materialCount = recipe.required.length := by
  have hmap : (List.range ITEMS_SPECIAL_EXCHANGE_GROUP).map (recipe.reqItems.getD · (0, 0)) =
      recipe.reqItems := by
    apply List.ext_getElem
    · rw [List.length_map, List.length_range, recipe.length_reqItems]
    · intro i hi hi'
      rw [List.getElem_map, List.getElem_range, List.getD_eq_getElem _ _ hi']
  rw [ItemSpecialSewingRow.required, ← List.countP_eq_length_filter]
  conv_rhs => rw [← hmap, List.countP_map]
  rfl

theorem perm_required_iff {p : CraftingPlan} (h : p.recipe.materialCount = p.materials.length) :
    (suppliedPairs p.materials).Perm p.recipe.required ↔ AskedFor p := by
  constructor
  · intro hperm entry _
    exact (hperm.count_eq entry).le
  · intro hasked
    have hsub : (suppliedPairs p.materials).Subperm p.recipe.required :=
      List.subperm_ext_iff.mpr hasked
    refine hsub.perm_of_length_le ?_
    rw [← materialCount_eq, h, suppliedPairs, List.length_map]

structure Furnished (inv : Inventory) (p : CraftingPlan) : Prop where
  asked : p.recipe.materialCount = p.materials.length
  nodup : (p.materials.map SewMaterial.actualIdx).Nodup
  there : ∀ m ∈ p.materials, m.actualIdx ∈ bagSlots ∧ (inv.slot m.actualIdx).itemId ≠ 0 ∧
    (inv.slot m.actualIdx).itemId = m.itemId ∧ m.count ≤ (inv.slot m.actualIdx).count
  small : ∀ m ∈ p.materials, m.count ≤ 999
  shadow : ∀ z, p.shadow = some z → SLOT_MAX + z ∈ bagSlots ∧ SLOT_MAX + z < inv.length ∧
    (inv.slot (SLOT_MAX + z)).itemId = ITEM_SHADOW_PIECE
  product : p.recipe.giveItemId ≠ 0

theorem mem_bagSlots_of_lt {i : ℕ} (h : i < HAVE_MAX) : SLOT_MAX + i ∈ bagSlots :=
  List.mem_map_of_mem (List.mem_range.mpr h)

theorem readMatSlots_spec {n : ℕ} {reader reader' : PacketReader} {slots : List ℕ}
    (h : readMatSlots n reader = some (slots, reader')) : ∀ i ∈ slots, i < HAVE_MAX := by
  induction n generalizing reader reader' slots with
  | zero =>
    obtain ⟨rfl, -⟩ := Prod.mk.inj (Option.some.inj h)
    simp
  | succ n ih =>
    simp only [readMatSlots] at h
    split_ifs at h with hslot
    obtain ⟨⟨rest, reader''⟩, hrest, heq⟩ := Option.map_eq_some_iff.mp h
    obtain ⟨rfl, -⟩ := Prod.mk.inj heq
    exact List.forall_mem_cons.mpr ⟨Nat.lt_of_not_le hslot, ih hrest⟩

theorem readDigit_le {reader reader' : PacketReader} {decimal : ℕ}
    (h : readDigit reader = some (decimal, reader')) : decimal ≤ 9 := by
  simp only [readDigit] at h
  obtain ⟨hle, h⟩ := Option.ite_none_left_eq_some.mp h
  obtain ⟨rfl, -⟩ := Prod.mk.inj (Option.some.inj h)
  exact not_lt.mp hle

theorem readCount_le {reader reader' : PacketReader} {count : ℕ}
    (h : readCount reader = some (count, reader')) : count ≤ 999 := by
  unfold readCount at h
  split at h
  · cases h
  next c0 reader₁ h₀ =>
  split at h
  · cases h
  next c1 reader₂ h₁ =>
  split at h
  · cases h
  next c2 reader₃ h₂ =>
  obtain ⟨rfl, -⟩ := Prod.mk.inj (Option.some.inj h)
  have := readDigit_le h₀
  have := readDigit_le h₁
  have := readDigit_le h₂
  omega

theorem readMaterial_spec {table : ItemTable} {inv : Inventory} {matSlot : ℕ}
    {reader reader' : PacketReader} {m : SewMaterial}
    (h : readMaterial table inv matSlot reader = some (m, reader')) :
    m.slot = matSlot ∧ m.count ≤ 999 ∧ (inv.slot m.actualIdx).itemId ≠ 0 ∧
      (inv.slot m.actualIdx).itemId = m.itemId ∧ m.count ≤ (inv.slot m.actualIdx).count := by
  unfold readMaterial at h
  split at h
  · cases h
  next invSlot hget =>
  dsimp only at h
  split_ifs at h with hempty hflag
  all_goals
    split at h
    · cases h
    split at h
    · cases h
    next count reader'' hcount =>
    split_ifs at h with hwrong hcountable
    obtain ⟨rfl, -⟩ := Prod.mk.inj (Option.some.inj h)
    simp only [not_or, not_not, not_lt] at hwrong
    rw [SewMaterial.actualIdx, Inventory.slot_of_getElem? hget]
    exact ⟨rfl, readCount_le hcount, fun hnone => hempty (Or.inl hnone), hwrong.1, hwrong.2.1⟩

theorem readMaterials_spec {table : ItemTable} {inv : Inventory} {slots : List ℕ}
    {reader : PacketReader} {materials : List SewMaterial}
    (h : readMaterials table inv slots reader = some materials) :
    materials.map SewMaterial.slot = slots ∧ ∀ m ∈ materials, m.count ≤ 999 ∧
      (inv.slot m.actualIdx).itemId ≠ 0 ∧ (inv.slot m.actualIdx).itemId = m.itemId ∧
        m.count ≤ (inv.slot m.actualIdx).count := by
  induction slots generalizing reader materials with
  | nil =>
    obtain rfl := Option.some.inj h
    simp
  | cons matSlot slots ih =>
    simp only [readMaterials] at h
    split at h
    · cases h
    next m reader' hm =>
    obtain ⟨rest, hrest, rfl⟩ := Option.map_eq_some_iff.mp h
    obtain ⟨hslot, hthere⟩ := readMaterial_spec hm
    obtain ⟨hslots, hall⟩ := ih hrest
    rw [List.map_cons, hslot, hslots]
    exact ⟨rfl, List.forall_mem_cons.mpr ⟨hthere, hall⟩⟩

theorem shadowPieceThere_spec {inv : Inventory} {z : ℕ} (h : shadowPieceThere inv z = true) :
    SLOT_MAX + z < inv.length ∧ (inv.slot (SLOT_MAX + z)).itemId = ITEM_SHADOW_PIECE := by
  unfold shadowPieceThere at h
  split at h
  · cases h
  next slot hget =>
  rw [Inventory.slot_of_getElem? hget]
  simp only [Bool.and_eq_true, decide_eq_true_eq] at h
  exact ⟨(List.getElem?_eq_some_iff.mp hget).1, h.1.1.1.1.1⟩

theorem checkShozin_furnished {env : CraftingEnv} {pick : ℕ} {inv : Inventory}
    {data : PacketReader} {p : CraftingPlan} (h : checkShozin env pick inv data = some p) :
    Furnished inv p := by
  simp only [checkShozin, Option.ite_none_left_eq_some] at h
  obtain ⟨-, -, -, hslot, h⟩ := h
  cases hnpc : env.npcType data.readU32D.1 with
  | none => simp [hnpc] at h
  | some npcType =>
  simp only [hnpc, Option.ite_none_left_eq_some] at h
  obtain ⟨-, hshadow, h⟩ := h
  split at h
  · cases h
  next slots reader hslots =>
  obtain ⟨hnodup, h⟩ := Option.ite_none_left_eq_some.mp h
  split at h
  · cases h
  next materials hmaterials =>
  split at h
  · cases h
  · cases h
  next first others hrecipes =>
  obtain ⟨hnull, h⟩ := Option.ite_none_left_eq_some.mp h
  obtain rfl := Option.some.inj h
  obtain ⟨hmap, hthere⟩ := readMaterials_spec hmaterials
  rw [not_not] at hnodup
  have hidx : materials.map SewMaterial.actualIdx = slots.map (SLOT_MAX + ·) := by
    rw [← hmap, List.map_map]
    rfl
  refine ⟨?_, ?_, fun m hm => ?_, fun m hm => (hthere m hm).1, fun z hz => ?_,
    fun hgive => hnull (Or.inr hgive)⟩
  · -- the recipe is one of those that were kept
    obtain ⟨all, -, hkept⟩ := Option.map_eq_some_iff.mp hrecipes
    have hmem : (first :: others).getD (pick % (first :: others).length) first ∈ first :: others := by
      have hlt : pick % (first :: others).length < (first :: others).length :=
        Nat.mod_lt _ (Nat.succ_pos _)
      rw [List.getD_eq_getElem _ _ hlt]
      exact List.getElem_mem hlt
    rw [← hkept] at hmem
    have hmatch := List.of_mem_filter hmem
    rw [hkept] at hmatch
    simp only [recipeMatchesMaterials, Bool.and_eq_true, decide_eq_true_eq] at hmatch
    exact hmatch.1
  · rw [hidx]
    exact List.Nodup.map (add_right_injective SLOT_MAX) hnodup
  · have hlt : m.slot < HAVE_MAX :=
      readMatSlots_spec hslots m.slot (hmap ▸ List.mem_map_of_mem hm)
    exact ⟨mem_bagSlots_of_lt hlt, (hthere m hm).2⟩
  · dsimp only at hz
    split_ifs at hz with hpiece
    obtain rfl := Option.some.inj hz
    have hspec := shadowPieceThere_spec (by simpa [hpiece] using hshadow)
    exact ⟨mem_bagSlots_of_lt (Nat.lt_of_not_le hslot), hspec⟩

theorem stack_removeMaterial {id : ℕ} (hid : id ≠ 0) (inv : Inventory) (m : SewMaterial) (i : ℕ) :
    stack id ((removeMaterial inv m).slot i) =
      stack id (inv.slot i) - if m.actualIdx = i then m.count else 0 := by
  unfold removeMaterial
  by_cases hi : m.actualIdx = i
  · subst hi
    rw [if_pos rfl]
    by_cases hthere : m.actualIdx < inv.length ∧ (inv.slot m.actualIdx).itemId ≠ 0
    · rw [if_pos hthere]
      split_ifs with hlt
      · rw [Inventory.slot_set_self hthere.1]
        unfold stack
        split_ifs <;> simp
      · rw [Inventory.slot_set_self hthere.1, stack_default hid]
        unfold stack
        split_ifs <;> omega
    · rw [if_neg hthere]
      have hempty : (inv.slot m.actualIdx).itemId = 0 := by
        by_contra hne
        have hlen : inv.length ≤ m.actualIdx := Nat.le_of_not_lt fun hlt => hthere ⟨hlt, hne⟩
        exact hne (by rw [Inventory.slot, List.getD_eq_default _ _ hlen])
      rw [stack_of_empty hid hempty, Nat.zero_sub]
  · rw [if_neg hi, Nat.sub_zero]
    dsimp only
    split_ifs
    · rw [Inventory.slot_set_ne hi]
    · rw [Inventory.slot_set_ne hi]
    · rfl

theorem length_removeMaterial (inv : Inventory) (m : SewMaterial) :
    (removeMaterial inv m).length = inv.length := by
  unfold removeMaterial
  dsimp only
  split_ifs <;> simp

theorem length_removeMaterials (inv : Inventory) (materials : List SewMaterial) :
    (materials.foldl removeMaterial inv).length = inv.length := by
  induction materials generalizing inv with
  | nil => rfl
  | cons m materials ih => rw [List.foldl_cons, ih, length_removeMaterial]

theorem stack_removeMaterials {id : ℕ} (hid : id ≠ 0) (inv : Inventory)
    (materials : List SewMaterial) (i : ℕ) :
    stack id ((materials.foldl removeMaterial inv).slot i) =
      stack id (inv.slot i) - suppliedAt i materials := by
  induction materials generalizing inv with
  | nil => rfl
  | cons m materials ih =>
    rw [List.foldl_cons, ih, stack_removeMaterial hid, suppliedAt_cons, Nat.sub_sub]

theorem suppliedAt_le {i n : ℕ} {materials : List SewMaterial}
    (hnodup : (materials.map SewMaterial.actualIdx).Nodup)
    (h : ∀ m ∈ materials, m.actualIdx = i → m.count ≤ n) : suppliedAt i materials ≤ n := by
  induction materials with
  | nil => exact Nat.zero_le n
  | cons m materials ih =>
    obtain ⟨hnot, hnodup⟩ := List.nodup_cons.mp hnodup
    obtain ⟨hm, hrest⟩ := List.forall_mem_cons.mp h
    rw [suppliedAt_cons]
    by_cases hi : m.actualIdx = i
    · have hnone : suppliedAt i materials = 0 := by
        rw [suppliedAt, Tally.total_congr (g := fun _ => 0)]
        · simp [Tally.total]
        · intro m' hm'
          refine if_neg fun hi' => hnot ?_
          rw [hi, ← hi']
          exact List.mem_map_of_mem hm'
      rw [hnone, if_pos hi, Nat.add_zero]
      exact hm hi
    · rw [if_neg hi, Nat.zero_add]
      exact ih hnodup hrest

theorem total_suppliedAt {id : ℕ} {inv : Inventory} {materials : List SewMaterial}
    (h : ∀ m ∈ materials, m.actualIdx ∈ bagSlots ∧ (inv.slot m.actualIdx).itemId = m.itemId) :
    Tally.total (fun i => if (inv.slot i).itemId = id then suppliedAt i materials else 0) bagSlots =
      suppliedUnits id materials := by
  induction materials with
  | nil =>
    rw [suppliedUnits, Tally.total_nil, Tally.total_congr (g := fun _ => 0)]
    · simp [Tally.total]
    · intro i _
      exact ite_self 0
  | cons m materials ih =>
    obtain ⟨⟨hmem, hid⟩, hrest⟩ := List.forall_mem_cons.mp h
    have hsplit : ∀ i ∈ bagSlots,
        (if (inv.slot i).itemId = id then suppliedAt i (m :: materials) else 0) =
          (if i = m.actualIdx then (if m.itemId = id then m.count else 0) else 0) +
            if (inv.slot i).itemId = id then suppliedAt i materials else 0 := by
      intro i _
      rw [suppliedAt_cons]
      by_cases hi : i = m.actualIdx
      · rw [if_pos hi, if_pos hi.symm, hi, hid]
        split_ifs <;> rfl
      · rw [if_neg hi, if_neg (Ne.symm hi), Nat.zero_add, Nat.zero_add]
    rw [Tally.total_congr _ hsplit, Tally.total_add, Tally.total_single nodup_bagSlots hmem,
      ih hrest, suppliedUnits_cons]

def suppliedOf (id : ℕ) (inv : Inventory) (p : CraftingPlan) (i : ℕ) : ℕ :=
  if (inv.slot i).itemId = id then suppliedAt i p.materials else 0

def shadowUnits (p : CraftingPlan) (id : ℕ) : ℕ :=
  if p.shadow.isSome ∧ id = ITEM_SHADOW_PIECE then 1 else 0

def UnitsFollow (inv inv' : Inventory) (p : CraftingPlan) (product : ℕ → ℤ) : Prop :=
  ∀ id ≠ 0, (bagStock id inv' : ℤ) + suppliedUnits id p.materials + shadowUnits p id =
    bagStock id inv + product id

section

variable {inv inv' : Inventory} {p : CraftingPlan}

theorem suppliedOf_le (hf : Furnished inv p) (id i : ℕ) :
    suppliedOf id inv p i ≤ stack id (inv.slot i) := by
  unfold suppliedOf stack
  split_ifs
  · refine suppliedAt_le hf.nodup fun m hm hi => ?_
    subst hi
    exact (hf.there m hm).2.2.2
  · exact le_rfl

theorem suppliedAt_empty (hf : Furnished inv p) {i : ℕ} (h : (inv.slot i).itemId = 0) :
    suppliedAt i p.materials = 0 := by
  apply Nat.eq_zero_of_le_zero
  refine suppliedAt_le hf.nodup fun m hm hi => ?_
  subst hi
  exact absurd h (hf.there m hm).2.1

theorem unitsFollow_iff {product : ℕ → ℤ} {e : List ℕ} (hf : Furnished inv p) (he : e.Nodup)
    (hsub : e ⊆ bagSlots) (hoff : ∀ id ≠ 0, ∀ i, i ∉ e →
      stack id (inv'.slot i) = stack id (inv.slot i) - suppliedAt i p.materials) :
    UnitsFollow inv inv' p product ↔ ∀ id ≠ 0,
      (Tally.total (fun i => stack id (inv'.slot i) + suppliedOf id inv p i) e : ℤ) +
          shadowUnits p id =
        Tally.total (fun i => stack id (inv.slot i)) e + product id := by
  refine forall₂_congr fun id hid => ?_
  have hslots : ∀ i, i ∉ e →
      stack id (inv'.slot i) + suppliedOf id inv p i = stack id (inv.slot i) := by
    intro i hi
    have hle := suppliedOf_le hf id i
    rw [hoff id hid i hi]
    unfold suppliedOf stack at *
    split_ifs at * <;> omega
  have htotal := Tally.total_off nodup_bagSlots he hsub hslots
  rw [Tally.total_add] at htotal
  have hsupplied : Tally.total (suppliedOf id inv p) bagSlots = suppliedUnits id p.materials :=
    total_suppliedAt fun m hm => ⟨(hf.there m hm).1, (hf.there m hm).2.2.1⟩
  have hstock : ∀ inv : Inventory,
      bagStock id inv = Tally.total (fun i => stack id (inv.slot i)) bagSlots := fun _ => rfl
  rw [hstock, hstock]
  change Tally.total (fun i => stack id (inv'.slot i)) bagSlots +
    Tally.total (suppliedOf id inv p) bagSlots + _ = _ at htotal
  omega

def LastPiece (inv : Inventory) (p : CraftingPlan) : Prop :=
  ∀ z, p.shadow = some z →
    (inv.slot (SLOT_MAX + z)).count = suppliedAt (SLOT_MAX + z) p.materials + 1

structure Placed (env : CraftingEnv) (inv : Inventory) (p : CraftingPlan) (item : Item) (pos : ℕ) :
    Prop where
  known : env.getItem p.giveItemId = some item
  light : p.tooHeavy env item = false
  given : item.countableD ≠ 2
  slot : findSlotForItem env.getItem inv p.giveItemId (p.finalCount item) = some pos

/-- `give_item` sets the count of such an item to 1. -/
abbrev SetToOne (item : Item) : Prop := item.kindD = ITEM_KIND_UNIQUE ∨ item.countableD = 0

/-- The slot as it was has room for all of the product. Where the count is set to 1, the units
there and the new ones come to 1, or to what is supplied from the slot. -/
def CraftingPlan.HasRoom (p : CraftingPlan) (item : Item) (slot : UserItemSlot) (supplied : ℕ) :
    Prop :=
  if SetToOne item then stack p.giveItemId slot + p.recipe.giveItemCount = max 1 supplied
  else if slot.itemId = 0 then
    0 ≤ p.recipe.giveItemCount ∧ p.recipe.giveItemCount ≤ ITEMCOUNT_MAX ∧
      (slot.count = 0 ∨ p.recipe.giveItemCount = ITEMCOUNT_MAX)
  else slot.count + p.recipe.giveItemCount ≤ ITEMCOUNT_MAX ∧
    (0 ≤ p.recipe.giveItemCount ∨ slot.count + p.recipe.giveItemCount = ITEMCOUNT_MAX)

/-- What the slot comes to before anything is removed: 1, or all that fits; what is supplied from
it is there in any case. -/
def CraftingPlan.comesTo (p : CraftingPlan) (item : Item) (slot : UserItemSlot) (supplied : ℕ) : ℕ :=
  if SetToOne item then max 1 supplied else min (slot.count + p.recipe.giveCount) ITEMCOUNT_MAX

/-- The slot of the product takes all of it, and is not the one that is wiped. Where the product
is itself the shadow piece, what one slot has too much may make up for the other. -/
def ProductFits (item : Item) (inv : Inventory) (p : CraftingPlan) (pos : ℕ) : Prop :=
  let supplied := suppliedAt pos p.materials
  match p.shadow with
  | none => p.HasRoom item (inv.slot pos) supplied
  | some z =>
    if pos = SLOT_MAX + z then (supplied + 1 : ℤ) = (inv.slot pos).count + p.recipe.giveItemCount
    else if p.giveItemId = ITEM_SHADOW_PIECE then
      (p.comesTo item (inv.slot pos) supplied : ℤ) + suppliedAt (SLOT_MAX + z) p.materials + 1 =
        stack p.giveItemId (inv.slot pos) + p.recipe.giveItemCount + (inv.slot (SLOT_MAX + z)).count
    else p.HasRoom item (inv.slot pos) supplied ∧ LastPiece inv p

theorem hasRoom_iff {item : Item} {slot : UserItemSlot} {supplied : ℕ}
    (hslot : slot.itemId = 0 ∨ slot.itemId = p.giveItemId) (hne : p.giveItemId ≠ 0) :
    p.HasRoom item slot supplied ↔
      (p.comesTo item slot supplied : ℤ) = stack p.giveItemId slot + p.recipe.giveItemCount := by
  have hcap : ITEMCOUNT_MAX = 9999 := rfl
  unfold CraftingPlan.comesTo CraftingPlan.HasRoom ItemSpecialSewingRow.giveCount
  split_ifs with hone hempty
  · exact eq_comm
  · rw [stack_of_empty hne hempty]
    omega
  · rw [stack, if_pos (hslot.resolve_left hempty)]
    omega

theorem stack_eq_ite {s : UserItemSlot} {k : ℕ} (h : s.itemId = k) (id : ℕ) :
    stack id s = if id = k then s.count else 0 := by
  subst h
  exact if_congr eq_comm rfl rfl

theorem suppliedOf_eq_ite {i k : ℕ} (h : (inv.slot i).itemId = k) (id : ℕ) :
    suppliedOf id inv p i = if id = k then suppliedAt i p.materials else 0 := by
  subst h
  exact if_congr eq_comm rfl rfl

theorem shadowUnits_some {z : ℕ} (h : p.shadow = some z) (id : ℕ) :
    shadowUnits p id = if id = ITEM_SHADOW_PIECE then 1 else 0 := by
  simp [shadowUnits, h]

theorem shadowUnits_none (h : p.shadow = none) (id : ℕ) : shadowUnits p id = 0 := by
  simp [shadowUnits, h]

theorem lastPiece_some {z : ℕ} (h : p.shadow = some z) : LastPiece inv p ↔
    (inv.slot (SLOT_MAX + z)).count = suppliedAt (SLOT_MAX + z) p.materials + 1 := by
  simp [LastPiece, h]

/-- The slots that the materials alone leave behind. -/
theorem stack_removeAll {given : Inventory} {i id : ℕ} (hid : id ≠ 0)
    (hi : ∀ z, p.shadow = some z → i ≠ SLOT_MAX + z) :
    stack id ((p.removeAll given).slot i) =
      stack id (given.slot i) - suppliedAt i p.materials := by
  unfold CraftingPlan.removeAll
  cases hshadow : p.shadow with
  | none => exact stack_removeMaterials hid given p.materials i
  | some z =>
    rw [removeShadow, Inventory.slot_set_ne (hi z hshadow).symm]
    exact stack_removeMaterials hid given p.materials i

theorem stack_removeAll_shadow {given : Inventory} {z id : ℕ} (hid : id ≠ 0)
    (hshadow : p.shadow = some z) (hlt : SLOT_MAX + z < given.length) :
    stack id ((p.removeAll given).slot (SLOT_MAX + z)) = 0 := by
  have hlen : SLOT_MAX + z < (p.materials.foldl removeMaterial given).length := by
    rwa [length_removeMaterials]
  rw [CraftingPlan.removeAll, hshadow, removeShadow, Inventory.slot_set_self hlen,
    stack_default hid]

theorem ne_of_shadow {z i : ℕ} (hshadow : p.shadow = some z) (hi : i ≠ SLOT_MAX + z) :
    ∀ z', p.shadow = some z' → i ≠ SLOT_MAX + z' := by
  intro z' hz'
  obtain rfl := Option.some.inj (hshadow.symm.trans hz')
  exact hi

theorem unitsFollow_failed_iff (hf : Furnished inv p) :
    UnitsFollow inv (p.removeAll inv) p (fun _ => 0) ↔ LastPiece inv p := by
  cases hshadow : p.shadow with
  | none =>
    have hoff : ∀ id ≠ 0, ∀ i, i ∉ ([] : List ℕ) → stack id ((p.removeAll inv).slot i) =
        stack id (inv.slot i) - suppliedAt i p.materials :=
      fun id hid i _ => stack_removeAll hid (by simp [hshadow])
    rw [unitsFollow_iff hf List.nodup_nil (List.nil_subset _) hoff]
    simp [shadowUnits_none hshadow, LastPiece, hshadow]
  | some z =>
    obtain ⟨hmem, hlt, hpiece⟩ := hf.shadow z hshadow
    have hsub : [SLOT_MAX + z] ⊆ bagSlots := by simpa using hmem
    have hoff : ∀ id ≠ 0, ∀ i, i ∉ [SLOT_MAX + z] → stack id ((p.removeAll inv).slot i) =
        stack id (inv.slot i) - suppliedAt i p.materials := by
      intro id hid i hi
      exact stack_removeAll hid (ne_of_shadow hshadow (by simpa using hi))
    rw [unitsFollow_iff hf (List.nodup_singleton _) hsub hoff, lastPiece_some hshadow]
    simp only [Tally.total_cons, Tally.total_nil, shadowUnits_some hshadow, stack_eq_ite hpiece,
      suppliedOf_eq_ite hpiece]
    constructor
    · intro h
      have hS := h ITEM_SHADOW_PIECE (by decide)
      rw [stack_removeAll_shadow (by decide) hshadow hlt] at hS
      simp only [if_true] at hS
      omega
    · intro h id hid
      rw [stack_removeAll_shadow hid hshadow hlt]
      split_ifs <;> omega

section Product

variable {given : Inventory} {item : Item} {pos : ℕ}

structure ProductIn (inv given : Inventory) (p : CraftingPlan) (item : Item) (pos : ℕ) : Prop where
  mem : pos ∈ bagSlots
  before : (inv.slot pos).itemId = 0 ∨ (inv.slot pos).itemId = p.giveItemId
  after : (given.slot pos).itemId = p.giveItemId
  count : (given.slot pos).count =
    if SetToOne item then 1 else min ((inv.slot pos).count + p.recipe.giveCount) ITEMCOUNT_MAX
  same : sameBut pos inv given

theorem giveItemId_ne_zero (hf : Furnished inv p) : p.giveItemId ≠ 0 := by
  have hrange := p.recipe.giveItemId_range
  have hne := hf.product
  unfold CraftingPlan.giveItemId asU32
  omega

theorem giveProduct_placed {env : CraftingEnv} {item : Item} (h : Placed env inv p item pos) :
    ∃ given, p.giveProduct env inv = some given ∧ ProductIn inv given p item pos := by
  obtain ⟨hlt, hbefore⟩ := findSlotForItem_spec h.slot
  refine ⟨inv.set pos (stackGiven item env.serial p.giveItemId (p.finalCount item) (inv.slot pos)),
    ?_, findSlotForItem_mem h.slot, hbefore.imp_right And.left, ?_, ?_, sameBut_set _ _ _⟩
  · unfold CraftingPlan.giveProduct giveItem
    simp only [h.known, h.light, h.slot, if_neg h.given, if_neg (not_le.mpr hlt),
      Bool.false_eq_true, if_false]
  · rw [Inventory.slot_set_self hlt]
    rfl
  · rw [Inventory.slot_set_self hlt]
    unfold stackGiven saturatingAdd16 CraftingPlan.finalCount
    dsimp only
    have hcap : ITEMCOUNT_MAX = 9999 := rfl
    by_cases hone : SetToOne item
    · rw [if_pos hone, if_pos hone]
    · have hmany : ¬ (item.kindD = ITEM_KIND_UNIQUE ∧ item.countableD = 0) := fun h => hone (.inl h.1)
      rw [if_neg hone, if_neg hone, if_neg hmany]
      omega

theorem placed_of_giveProduct {env : CraftingEnv} (h : p.giveProduct env inv = some given) :
    ∃ item pos, Placed env inv p item pos := by
  unfold CraftingPlan.giveProduct at h
  split at h
  · cases h
  next proto hproto =>
  obtain ⟨hlight, hgive⟩ := Option.ite_none_left_eq_some.mp h
  obtain ⟨item, pos, hitem, hpos, -, -⟩ := giveItem_spec hgive
  obtain rfl := Option.some.inj (hproto.symm.trans hitem)
  refine ⟨proto, pos, hproto, by simpa using hlight, fun htwo => ?_, hpos⟩
  rw [giveItem, hproto] at hgive
  simp [htwo] at hgive

theorem suppliedAt_small (hf : Furnished inv p) (i : ℕ) :
    suppliedAt i p.materials ≤ 999 ∧ suppliedAt i p.materials ≤ (inv.slot i).count := by
  refine ⟨suppliedAt_le hf.nodup fun m hm _ => hf.small m hm, suppliedAt_le hf.nodup ?_⟩
  rintro m hm rfl
  exact (hf.there m hm).2.2.2

theorem gained_at (hf : Furnished inv p) (hd : ProductIn inv given p item pos)
    (hpos : ∀ z, p.shadow = some z → pos ≠ SLOT_MAX + z) {id : ℕ} (hid : id ≠ 0) :
    stack id ((p.removeAll given).slot pos) + suppliedOf id inv p pos =
      if id = p.giveItemId then p.comesTo item (inv.slot pos) (suppliedAt pos p.materials)
      else 0 := by
  have hcomes : p.comesTo item (inv.slot pos) (suppliedAt pos p.materials) =
      max (given.slot pos).count (suppliedAt pos p.materials) := by
    obtain ⟨hsmall, hle⟩ := suppliedAt_small hf pos
    have hcap : ITEMCOUNT_MAX = 9999 := rfl
    rw [hd.count]
    unfold CraftingPlan.comesTo
    split_ifs
    · rfl
    · omega
  rw [hcomes, stack_removeAll hid hpos, stack_eq_ite hd.after]
  rcases hd.before with hempty | hmore
  · rw [suppliedOf_eq_ite hempty, if_neg hid, suppliedAt_empty hf hempty]
    simp
  · rw [suppliedOf_eq_ite hmore]
    split_ifs <;> omega

theorem stack_before (hd : ProductIn inv given p item pos) {id : ℕ} (hid : id ≠ 0) :
    stack id (inv.slot pos) = if id = p.giveItemId then stack p.giveItemId (inv.slot pos) else 0 := by
  split_ifs with h
  · rw [h]
  · rcases hd.before with hempty | hmore
    · exact stack_of_empty hid hempty
    · exact stack_of_other hmore h

def productUnits (p : CraftingPlan) (id : ℕ) : ℤ :=
  if id = p.giveItemId then p.recipe.giveItemCount else 0

theorem stack_crafted (hd : ProductIn inv given p item pos) {id i : ℕ} (hid : id ≠ 0) (hi : i ≠ pos)
    (hz : ∀ z, p.shadow = some z → i ≠ SLOT_MAX + z) :
    stack id ((p.removeAll given).slot i) = stack id (inv.slot i) - suppliedAt i p.materials := by
  rw [stack_removeAll hid hz, hd.same.2 i hi]

theorem crafted_plain_iff (hf : Furnished inv p) (hd : ProductIn inv given p item pos)
    (hshadow : p.shadow = none) : UnitsFollow inv (p.removeAll given) p (productUnits p) ↔
      p.HasRoom item (inv.slot pos) (suppliedAt pos p.materials) := by
  have hP := giveItemId_ne_zero hf
  have hno : ∀ i, ∀ z, p.shadow = some z → i ≠ SLOT_MAX + z := by simp [hshadow]
  have hsub : [pos] ⊆ bagSlots := by simpa using hd.mem
  rw [hasRoom_iff hd.before hP, unitsFollow_iff hf (List.nodup_singleton _) hsub
    fun id hid i hi => stack_crafted hd hid (by simpa using hi) (hno i)]
  simp only [Tally.total_cons, Tally.total_nil, shadowUnits_none hshadow, productUnits]
  constructor
  · intro h
    have hp := h p.giveItemId hP
    rw [gained_at hf hd (hno pos) hP, if_pos rfl, if_pos rfl] at hp
    omega
  · intro h id hid
    rw [gained_at hf hd (hno pos) hid, stack_before hd hid]
    split_ifs <;> omega

/-- The product joined the shadow pieces, and goes with them. -/
theorem crafted_wiped_iff (hf : Furnished inv p) {z : ℕ}
    (hd : ProductIn inv given p item (SLOT_MAX + z)) (hshadow : p.shadow = some z) :
    UnitsFollow inv (p.removeAll given) p (productUnits p) ↔
      (suppliedAt (SLOT_MAX + z) p.materials + 1 : ℤ) =
        (inv.slot (SLOT_MAX + z)).count + p.recipe.giveItemCount := by
  obtain ⟨hmem, hlt, hpiece⟩ := hf.shadow z hshadow
  have hz : SLOT_MAX + z < given.length := by rwa [show given.length = inv.length from hd.same.1]
  have hsame : p.giveItemId = ITEM_SHADOW_PIECE := by
    rcases hd.before with hempty | hmore
    · rw [hpiece] at hempty
      cases hempty
    · rw [← hmore, hpiece]
  have hsub : [SLOT_MAX + z] ⊆ bagSlots := by simpa using hmem
  rw [unitsFollow_iff hf (List.nodup_singleton _) hsub fun id hid i hi =>
    stack_crafted hd hid (by simpa using hi) (ne_of_shadow hshadow (by simpa using hi))]
  simp only [Tally.total_cons, Tally.total_nil, shadowUnits_some hshadow, productUnits,
    suppliedOf_eq_ite hpiece, stack_eq_ite hpiece, hsame]
  constructor
  · intro h
    have hp := h ITEM_SHADOW_PIECE (by decide)
    rw [stack_removeAll_shadow (by decide) hshadow hz] at hp
    simp only [if_true] at hp ⊢
    omega
  · intro h id hid
    rw [stack_removeAll_shadow hid hshadow hz]
    split_ifs at * <;> omega

theorem crafted_apart_iff (hf : Furnished inv p) (hd : ProductIn inv given p item pos) {z : ℕ}
    (hshadow : p.shadow = some z) (hapart : pos ≠ SLOT_MAX + z) :
    UnitsFollow inv (p.removeAll given) p (productUnits p) ↔
      if p.giveItemId = ITEM_SHADOW_PIECE then
        (p.comesTo item (inv.slot pos) (suppliedAt pos p.materials) : ℤ) +
            suppliedAt (SLOT_MAX + z) p.materials + 1 =
          stack p.giveItemId (inv.slot pos) + p.recipe.giveItemCount +
            (inv.slot (SLOT_MAX + z)).count
      else p.HasRoom item (inv.slot pos) (suppliedAt pos p.materials) ∧ LastPiece inv p := by
  have hP := giveItemId_ne_zero hf
  obtain ⟨hmem, hlt, hpiece⟩ := hf.shadow z hshadow
  have hz : SLOT_MAX + z < given.length := by rwa [show given.length = inv.length from hd.same.1]
  have hnodup : [pos, SLOT_MAX + z].Nodup := by simpa using hapart
  have hsub : [pos, SLOT_MAX + z] ⊆ bagSlots := by simpa using ⟨hd.mem, hmem⟩
  rw [hasRoom_iff hd.before hP, unitsFollow_iff hf hnodup hsub fun id hid i hi =>
    stack_crafted hd hid (fun heq => hi (by simp [heq]))
      (ne_of_shadow hshadow fun heq => hi (by simp [heq])), lastPiece_some hshadow]
  simp only [Tally.total_cons, Tally.total_nil, shadowUnits_some hshadow, productUnits,
    suppliedOf_eq_ite hpiece, stack_eq_ite hpiece]
  have hgained := fun id (hid : id ≠ 0) => gained_at hf hd (ne_of_shadow hshadow hapart) hid
  constructor
  · intro h
    have hp := h p.giveItemId hP
    rw [hgained _ hP, stack_removeAll_shadow hP hshadow hz, if_pos rfl] at hp
    have hs := h ITEM_SHADOW_PIECE (by decide)
    rw [hgained _ (by decide), stack_removeAll_shadow (by decide) hshadow hz,
      stack_before hd (by decide)] at hs
    have hcomm : ITEM_SHADOW_PIECE = p.giveItemId ↔ p.giveItemId = ITEM_SHADOW_PIECE := eq_comm
    simp only [hcomm, if_true] at hs
    split_ifs at * <;> omega
  · intro h id hid
    rw [hgained id hid, stack_removeAll_shadow hid hshadow hz, stack_before hd hid]
    split_ifs at * <;> omega

theorem unitsFollow_crafted_iff (hf : Furnished inv p) (hd : ProductIn inv given p item pos) :
    UnitsFollow inv (p.removeAll given) p (productUnits p) ↔ ProductFits item inv p pos := by
  unfold ProductFits
  cases hshadow : p.shadow with
  | none => exact crafted_plain_iff hf hd hshadow
  | some z =>
    dsimp only
    by_cases hwiped : pos = SLOT_MAX + z
    · subst hwiped
      rw [if_pos rfl]
      exact crafted_wiped_iff hf hd hshadow
    · rw [if_neg hwiped]
      exact crafted_apart_iff hf hd hshadow hwiped

end Product

end

/-- What is supplied is what the recipe asks for, and the bag changes by it and by the product;
a request that is refused changes nothing. -/
def FollowsRecipe (inv : Inventory) : CraftingOutcome → Prop
  | .refused => CraftingOutcome.refused.inventory inv = inv
  | .failed p inv' => (suppliedPairs p.materials).Perm p.recipe.required ∧
    UnitsFollow inv inv' p fun _ => 0
  | .crafted p inv' _ => (suppliedPairs p.materials).Perm p.recipe.required ∧
    UnitsFollow inv inv' p (productUnits p)

/-- No pair is supplied too often, the slot with the shadow piece is used up by one piece, and
with a success the product fits where it goes. -/
def CraftsExactly (env : CraftingEnv) (draws : CraftingDraws) (inv : Inventory)
    (data : PacketReader) : Prop :=
  ∀ p, checkShozin env draws.pick inv data = some p →
    if p.recipe.upgradeRate p.shadow.isSome < draws.randVal.val then AskedFor p ∧ LastPiece inv p
    else ∀ item pos, Placed env inv p item pos → AskedFor p ∧ ProductFits item inv p pos

theorem shozinExchange_followsRecipe_iff (env : CraftingEnv) (draws : CraftingDraws)
    (inv : Inventory) (data : PacketReader) :
    FollowsRecipe inv (shozinExchange env draws inv data) ↔ CraftsExactly env draws inv data := by
  unfold shozinExchange CraftsExactly
  cases hcheck : checkShozin env draws.pick inv data with
  | none => simp [FollowsRecipe, CraftingOutcome.inventory]
  | some p =>
    have hf := checkShozin_furnished hcheck
    have hasked := perm_required_iff hf.asked
    simp only [Option.some.injEq, forall_eq']
    unfold CraftingPlan.perform
    by_cases hroll : p.recipe.upgradeRate p.shadow.isSome < draws.randVal.val
    · rw [if_pos hroll, if_pos hroll]
      exact and_congr hasked (unitsFollow_failed_iff hf)
    · rw [if_neg hroll, if_neg hroll]
      constructor
      · intro hfollows item pos hplaced
        obtain ⟨given, hgive, hin⟩ := giveProduct_placed hplaced
        rw [hgive] at hfollows
        exact hfollows.imp hasked.mp (unitsFollow_crafted_iff hf hin).mp
      · intro hexact
        cases hgive : p.giveProduct env inv with
        | none => rfl
        | some given =>
          obtain ⟨item, pos, hplaced⟩ := placed_of_giveProduct hgive
          obtain ⟨given', hgive', hin⟩ := giveProduct_placed hplaced
          obtain rfl := Option.some.inj (hgive.symm.trans hgive')
          exact (hexact item pos hplaced).imp hasked.mpr (unitsFollow_crafted_iff hf hin).mpr

/-- A recipe of two different materials. -/
def pairRecipe : ItemSpecialSewingRow where
  nIndex := 1
  reqItems := [(389010000, 1), (389020000, 1)] ++ List.replicate 8 (0, 0)
  length_reqItems := rfl
  giveItemId := 389030000
  giveItemId_range := by decide
  giveItemCount := 1
  successRate := 10000
  isShadowSuccess := false

def pairEnv : CraftingEnv where
  isPlayerDead := false
  isSellingMerchantPreparing := false
  isTrading := false
  isMerchanting := false
  isMining := false
  isFishing := false
  position := some 21
  getNpcInstance := fun _ => some (19073, false)
  isNpcDead := fun _ => false
  isInNpcRange := fun _ => true
  getNpcTemplate := fun _ _ => some NPC_CRAFTSMAN
  getItem := fun _ => some { countable := some 1 }
  getSpecialSewingRecipes := fun _ => some [pairRecipe]
  weights := none
  serial := 9

/-- Two slots of the bag with one of the first material each. -/
def pairBag : Inventory :=
  ((List.replicate INVENTORY_TOTAL ({} : UserItemSlot)).set 14
    { itemId := 389010000, count := 1, serialNum := 1 }).set 15
    { itemId := 389010000, count := 1, serialNum := 2 }

/-- NPC 1, no shadow piece, and one of material 389010000 from either slot. -/
def pairRequest : List UInt8 :=
  [1, 0, 0, 0, 0, 0, 0, 0, 0, 2, 0, 1, 0] ++
    [51, 56, 57, 48, 49, 48, 48, 48, 48, 48, 48, 49] ++
    [51, 56, 57, 48, 49, 48, 48, 48, 48, 48, 48, 49]

/-- The second material is never supplied, and its product is made. -/
theorem shozinExchange_not_followsRecipe :
    ¬ FollowsRecipe pairBag
      (shozinExchange pairEnv ⟨0, 0⟩ pairBag (PacketReader.new pairRequest)) := by
  have hrun : shozinExchange pairEnv ⟨0, 0⟩ pairBag (PacketReader.new pairRequest) =
      .crafted ⟨1, pairRecipe, [⟨0, 389010000, 1⟩, ⟨1, 389010000, 1⟩], none⟩
        ((List.replicate INVENTORY_TOTAL ({} : UserItemSlot)).set 16
          { itemId := 389030000, count := 1, serialNum := 9 }) 2 := by
    decide +kernel
  rw [hrun]
  rintro ⟨hperm, -⟩
  exact absurd hperm (by decide)

end KoServer
