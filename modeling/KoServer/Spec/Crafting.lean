import KoServer.Spec.BagItems
import KoServer.Spec.Merchant

/-! Crafting by special part sewing: `shozin_exchange` of `handler/item_upgrade.rs`. The
release profile has no overflow checks, so the `u32` sums wrap. -/

namespace KoServer

def ITEMS_SPECIAL_EXCHANGE_GROUP : ℕ := 10
def NPC_CRAFTSMAN : ℕ := 135
def NPC_JEWELY : ℕ := 174
def ITEM_SHADOW_PIECE : ℕ := 700009000

inductive CraftingErrorCode
  | wrongMaterial
  | success
  | failed
  deriving DecidableEq

/-- `is_moradon`: `ZONE_MORADON` to `ZONE_MORADON5`. -/
def isMoradon (zoneId : ℕ) : Bool := 21 ≤ zoneId && zoneId ≤ 25

structure ItemSpecialSewingRow where
  nIndex : ℤ
  /-- The columns `req_item_id_1`, `req_item_count_1` to the tenth. -/
  reqItems : List (ℤ × ℤ)
  length_reqItems : reqItems.length = ITEMS_SPECIAL_EXCHANGE_GROUP
  giveItemId : ℤ
  /-- An `i32`. -/
  giveItemId_range : -2 ^ 31 ≤ giveItemId ∧ giveItemId < 2 ^ 31
  giveItemCount : ℤ
  successRate : ℤ
  isShadowSuccess : Bool
  deriving DecidableEq

namespace ItemSpecialSewingRow

variable (recipe : ItemSpecialSewingRow)

def reqItemIdAt (index : ℕ) : ℤ := (recipe.reqItems.getD index (0, 0)).1

def reqItemCountAt (index : ℕ) : ℤ := (recipe.reqItems.getD index (0, 0)).2

def materialCount : ℕ :=
  (List.range ITEMS_SPECIAL_EXCHANGE_GROUP).countP fun i => recipe.reqItemIdAt i ≠ 0

/-- `give_item_count.clamp(0, u16::MAX)`. -/
def giveCount : ℕ := (max 0 (min recipe.giveItemCount (2 ^ 16 - 1))).toNat

def upgradeRate (hasShadow : Bool) : ℕ :=
  let rate := asU32 recipe.successRate
  let rate :=
    if !hasShadow then rate
    else if recipe.isShadowSuccess then 10000
    else (rate + rate * 40 % 2 ^ 32 / 100) % 2 ^ 32
  min rate 10000

end ItemSpecialSewingRow

structure SewMaterial where
  slot : ℕ
  itemId : ℕ
  count : ℕ
  deriving DecidableEq

def SewMaterial.actualIdx (m : SewMaterial) : ℕ := SLOT_MAX + m.slot

structure CraftingEnv where
  isPlayerDead : Bool
  isSellingMerchantPreparing : Bool
  isTrading : Bool
  isMerchanting : Bool
  isMining : Bool
  isFishing : Bool
  /-- The zone of the position. -/
  position : Option ℕ
  /-- The template number of an NPC and whether it is a monster. -/
  getNpcInstance : ℕ → Option (ℕ × Bool)
  isNpcDead : ℕ → Bool
  isInNpcRange : ℕ → Bool
  /-- The type in a template. -/
  getNpcTemplate : ℕ → Bool → Option ℕ
  getItem : ItemTable
  getSpecialSewingRecipes : ℤ → Option (List ItemSpecialSewingRow)
  /-- `item_weight` and `max_weight` of the character. -/
  weights : Option (ℤ × ℤ)
  serial : ℕ

/-- The rolls: a number to pick a recipe with, and `rand_range(0, 10001)`. -/
structure CraftingDraws where
  pick : ℕ
  randVal : Fin 10001

def CraftingEnv.npcType (env : CraftingEnv) (npcId : ℕ) : Option ℕ :=
  match env.getNpcInstance npcId with
  | none => none
  | some (protoId, isMonster) =>
    if env.isNpcDead npcId || !env.isInNpcRange npcId then none
    else env.getNpcTemplate protoId isMonster

def shadowPieceThere (inv : Inventory) (shadowSlot : ℕ) : Bool :=
  match inv[SLOT_MAX + shadowSlot]? with
  | none => false
  | some slot =>
    slot.itemId = ITEM_SHADOW_PIECE && 1 ≤ slot.count && slot.flag ≠ ITEM_FLAG_BOUND &&
      slot.flag ≠ ITEM_FLAG_DUPLICATE && slot.flag ≠ ITEM_FLAG_RENTED &&
      slot.flag ≠ ITEM_FLAG_SEALED

def readMatSlots : ℕ → PacketReader → Option (List ℕ × PacketReader)
  | 0, reader => some ([], reader)
  | n + 1, reader =>
    let (slot, reader) := reader.readU8.getD (0xff, reader)
    if HAVE_MAX ≤ slot then none
    else (readMatSlots n reader).map fun (slots, reader) => (slot :: slots, reader)

/-- An ASCII digit, `b.wrapping_sub(48)`. -/
def readDigit (reader : PacketReader) : Option (ℕ × PacketReader) :=
  let (b, reader) := reader.readU8D
  let decimal := (b + 208) % 256
  if 9 < decimal then none else some (decimal, reader)

/-- The digits of a number from `place` down, added to `itemId`. -/
def readItemId : ℕ → ℕ → ℕ → PacketReader → Option (ℕ × PacketReader)
  | 0, _, itemId, reader => some (itemId, reader)
  | n + 1, place, itemId, reader =>
    match readDigit reader with
    | none => none
    | some (decimal, reader) =>
      readItemId n (place / 10) ((itemId + decimal * place) % 2 ^ 32) reader

def readCount (reader : PacketReader) : Option (ℕ × PacketReader) :=
  match readDigit reader with
  | none => none
  | some (c0, reader) =>
    match readDigit reader with
    | none => none
    | some (c1, reader) =>
      match readDigit reader with
      | none => none
      | some (c2, reader) => some (c0 * 100 + c1 * 10 + c2, reader)

def readMaterial (table : ItemTable) (inv : Inventory) (matSlot : ℕ) (reader : PacketReader) :
    Option (SewMaterial × PacketReader) :=
  match inv[SLOT_MAX + matSlot]? with
  | none => none
  | some invSlot =>
    if invSlot.itemId = 0 ∨ invSlot.count = 0 then none
    else if invSlot.flag = ITEM_FLAG_DUPLICATE ∨ invSlot.flag = ITEM_FLAG_RENTED then none
    else
      let digits :=
        if 999999999 < invSlot.itemId then readItemId 10 1000000000 0 reader
        else readItemId 9 100000000 0 reader
      match digits with
      | none => none
      | some (itemId, reader) =>
        match readCount reader with
        | none => none
        | some (count, reader) =>
          if invSlot.itemId ≠ itemId ∨ invSlot.count < count ∨ count = 0 then none
          else if (table itemId).any (fun proto => 1 < count && proto.countableD = 0) then none
          else some (⟨matSlot, itemId, count⟩, reader)

def readMaterials (table : ItemTable) (inv : Inventory) :
    List ℕ → PacketReader → Option (List SewMaterial)
  | [], _ => some []
  | matSlot :: slots, reader =>
    match readMaterial table inv matSlot reader with
    | none => none
    | some (m, reader) => (readMaterials table inv slots reader).map (m :: ·)

/-- A material is the one of entry `x` of the recipe. -/
def matchesAt (recipe : ItemSpecialSewingRow) (m : SewMaterial) (x : ℕ) : Bool :=
  recipe.reqItemIdAt x ≠ 0 && m.itemId = asU32 (recipe.reqItemIdAt x) &&
    m.count = asU16 (asU32 (recipe.reqItemCountAt x))

def recipeMatchesMaterials (materials : List SewMaterial) (recipe : ItemSpecialSewingRow) : Bool :=
  recipe.materialCount = materials.length &&
    materials.countP (fun m => m.itemId ≠ 0 &&
      (List.range ITEMS_SPECIAL_EXCHANGE_GROUP).any (matchesAt recipe m)) = materials.length

structure CraftingPlan where
  npcId : ℕ
  recipe : ItemSpecialSewingRow
  materials : List SewMaterial
  /-- The slot of the bag with the shadow piece, where one is used. -/
  shadow : Option ℕ
  deriving DecidableEq

def checkShozin (env : CraftingEnv) (pick : ℕ) (inv : Inventory) (data : PacketReader) :
    Option CraftingPlan :=
  let (npcId, reader) := data.readU32D
  let (shadowPieceId, reader) := reader.readU32D
  let (shadowSlot, reader) := reader.readU8.getD (0xff, reader)
  let (materialCount, reader) := reader.readU8D
  if ITEMS_SPECIAL_EXCHANGE_GROUP < materialCount then none
  else if env.isPlayerDead || env.isSellingMerchantPreparing || env.isTrading ||
      env.isMerchanting || env.isMining || env.isFishing then none
  else if !env.position.any isMoradon then none
  else if HAVE_MAX ≤ shadowSlot then none
  else
    match env.npcType npcId with
    | none => none
    | some npcType =>
      let hasShadow : Bool := shadowPieceId = ITEM_SHADOW_PIECE
      if npcType ≠ NPC_CRAFTSMAN ∧ npcType ≠ NPC_JEWELY then none
      else if hasShadow && !shadowPieceThere inv shadowSlot then none
      else
        match readMatSlots materialCount reader with
        | none => none
        | some (slots, reader) =>
          if ¬ slots.Nodup then none
          else
            match readMaterials env.getItem inv slots reader.readU8D.2 with
            | none => none
            | some materials =>
              let npcDbId := if npcType = NPC_JEWELY then 31402 else 19073
              match (env.getSpecialSewingRecipes npcDbId).map
                  fun recipes => recipes.filter (recipeMatchesMaterials materials) with
              | none | some [] => none
              | some (first :: others) =>
                let recipes := first :: others
                let recipe := recipes.getD (pick % recipes.length) first
                if recipe.nIndex = 0 ∨ recipe.giveItemId = 0 then none
                else some ⟨npcId, recipe, materials, if hasShadow then some shadowSlot else none⟩

def removeMaterial (inv : Inventory) (m : SewMaterial) : Inventory :=
  let slot := inv.slot m.actualIdx
  if m.actualIdx < inv.length ∧ slot.itemId ≠ 0 then
    if m.count < slot.count then inv.set m.actualIdx { slot with count := slot.count - m.count }
    else inv.set m.actualIdx {}
  else inv

/-- The whole slot, whatever it holds by now. -/
def removeShadow (inv : Inventory) : Option ℕ → Inventory
  | none => inv
  | some shadowSlot => inv.set (SLOT_MAX + shadowSlot) {}

def CraftingPlan.removeAll (p : CraftingPlan) (inv : Inventory) : Inventory :=
  removeShadow (p.materials.foldl removeMaterial inv) p.shadow

inductive CraftingOutcome
  | refused
  | failed (p : CraftingPlan) (inv : Inventory)
  | crafted (p : CraftingPlan) (inv : Inventory) (giveItemSlot : ℕ)
  deriving DecidableEq

namespace CraftingPlan

variable (env : CraftingEnv) (p : CraftingPlan)

def giveItemId : ℕ := asU32 p.recipe.giveItemId

/-- Whether the product would be too heavy, an `i32` sum. -/
def tooHeavy (proto : Item) : Bool :=
  let weight := max (-2 ^ 31) (min (proto.weight.getD 0 * p.recipe.giveCount) (2 ^ 31 - 1))
  env.weights.any fun (itemWeight, maxWeight) => maxWeight < asI32 (itemWeight + weight)

def finalCount (proto : Item) : ℕ :=
  if proto.kindD = ITEM_KIND_UNIQUE ∧ proto.countableD = 0 then 1 else p.recipe.giveCount

def giveProduct (inv : Inventory) : Option Inventory :=
  match env.getItem p.giveItemId with
  | none => none
  | some proto =>
    if p.tooHeavy env proto then none
    else giveItem env.getItem env.serial inv p.giveItemId (p.finalCount proto)

/-- The slot for the answer, looked for once the product is in. -/
def giveItemSlot (inv : Inventory) : ℕ :=
  match findSlotForItem env.getItem inv p.giveItemId 0 with
  | none => 0
  | some slot => if SLOT_MAX ≤ slot then slot - SLOT_MAX else 0

def perform (draws : CraftingDraws) (inv : Inventory) : CraftingOutcome :=
  if p.recipe.upgradeRate p.shadow.isSome < draws.randVal.val then .failed p (p.removeAll inv)
  else
    match p.giveProduct env inv with
    | none => .refused
    | some given => .crafted p (p.removeAll given) (p.giveItemSlot env given)

end CraftingPlan

def shozinExchange (env : CraftingEnv) (draws : CraftingDraws) (inv : Inventory)
    (data : PacketReader) : CraftingOutcome :=
  match checkShozin env draws.pick inv data with
  | none => .refused
  | some p => p.perform env draws inv

structure CraftingReply where
  resultCode : CraftingErrorCode
  /-- The NPC, and with a success the product and its slot; nothing with a refusal. -/
  npcId : Option ℕ := none
  given : Option (ℕ × ℕ) := none

def CraftingOutcome.reply : CraftingOutcome → CraftingReply
  | .refused => ⟨.wrongMaterial, none, none⟩
  | .failed p _ => ⟨.failed, some p.npcId, none⟩
  | .crafted p _ slot => ⟨.success, some p.npcId, some (p.giveItemId, slot)⟩

def CraftingOutcome.inventory (inv : Inventory) : CraftingOutcome → Inventory
  | .refused => inv
  | .failed _ inv' | .crafted _ inv' _ => inv'

end KoServer
