import KoServer.Spec.Merchant
import KoServer.Spec.Warehouse
import Mathlib.Logic.Function.Basic

/-! Picking up from a bundle on the ground: `handler/item_get.rs`, the bundle methods of
`world/zone.rs` and `gold_gain_with_bonus_silent` of `world/inventory.rs`. Positions are in floating
point, so they are of any type `Pos` here, with the range checks given. -/

namespace KoServer

def NPC_HAVE_ITEM_LIST : ℕ := 12

/-- `itemId = 0` is an empty slot. -/
structure LootItem where
  itemId : ℕ := 0
  count : ℕ := 0
  slotId : ℕ := 0
deriving DecidableEq

structure GroundBundle (Pos : Type*) where
  bundleId : ℕ
  itemsCount : ℕ
  looter : ℕ
  position : Pos
  items : Fin NPC_HAVE_ITEM_LIST → LootItem

instance {Pos : Type*} [Inhabited Pos] : Inhabited (GroundBundle Pos) where
  default := ⟨0, 0, 0xFFF, default, fun _ => {}⟩

structure Picker where
  inventory : Inventory
  gold : ℕ
deriving DecidableEq

/-- What raises the gold that a session picks up; `jackpot` is the multiplier, if one is drawn. -/
structure GoldBonus where
  noahGainAmount : ℕ
  itemGoldBonus : ℕ
  clanPremium : Bool
  moneyRate : ℕ
  perkCoin : ℕ
  jackpot : Option ℕ
deriving DecidableEq

def GoldBonus.off : GoldBonus := ⟨100, 0, false, 0, 0, none⟩

/-- What a request reads besides bundles and pickers. -/
structure LootEnv (Pos : Type*) extends WarehouseEnv where
  position : ℕ → Option Pos
  /-- The character of the session is dead. -/
  dead : ℕ → Bool
  partyId : ℕ → Option ℕ
  /-- The sessions in the party, each once. -/
  party : ℕ → Option (List ℕ)
  party_nodup : ∀ p members, party p = some members → members.Nodup
  /-- The square of the distance is above `RANGE_50M`, and at most that. -/
  tooFar : Pos → Pos → Bool
  inRange : Pos → Pos → Bool
  bonus : ℕ → GoldBonus

/-- The answer; `solo` with the bag position, none for gold, the item, its count and the gold. -/
inductive LootResult
  | ignored | error | noWeight | itemGivenAway
  | solo (invPos : Option ℕ) (itemId count gold : ℕ)
deriving DecidableEq

structure LootWorld (Pos : Type*) where
  bundles : ℕ → Option (GroundBundle Pos)
  pickers : ℕ → Option Picker

/-- `gold_gain_with_bonus_silent`, up to the gain, in `u32`. -/
def goldWithBonus (b : GoldBonus) (amount : ℕ) : ℕ :=
  let rate := b.noahGainAmount + b.itemGoldBonus + if b.clanPremium then 2 else 0
  let gold := amount * rate % 2 ^ 32 / 100
  let gold := if 0 < b.moneyRate then gold * (100 + b.moneyRate) % 2 ^ 32 / 100 else gold
  if 0 < b.perkCoin then (gold + gold * b.perkCoin % 2 ^ 32 / 100) % 2 ^ 32 else gold

/-- `try_jackpot_noah`, or the plain gain where there is no jackpot. -/
def lootGold (b : GoldBonus) (amount : ℕ) : ℕ :=
  match b.jackpot with
  | some multiplier =>
    if amount = 0 then goldWithBonus b amount
    else goldWithBonus b (saturatingMul32 amount multiplier)
  | none => goldWithBonus b amount

namespace LootWorld

variable {Pos : Type*} (s : LootWorld Pos)

def goldOf (sid : ℕ) : ℕ := (s.pickers sid).elim 0 Picker.gold

def updatePicker (sid : ℕ) (updater : Picker → Picker) : LootWorld Pos :=
  { s with pickers := Function.update s.pickers sid ((s.pickers sid).map updater) }

/-- `gold_gain_silent`. -/
def goldGain (sid amount : ℕ) : LootWorld Pos :=
  s.updatePicker sid fun p => { p with gold := KoServer.goldGain p.gold amount }

def tryTakeBundleItem (bundleId : ℕ) (slotId : Fin NPC_HAVE_ITEM_LIST) :
    Option (ℕ × ℕ) × LootWorld Pos :=
  match s.bundles bundleId with
  | none => (none, s)
  | some bundle =>
    let slot := bundle.items slotId
    if slot.itemId = 0 ∨ slot.count = 0 then (none, s)
    else
      let bundle := { bundle with
        items := Function.update bundle.items slotId {}
        itemsCount := bundle.itemsCount - 1 }
      let left := if bundle.itemsCount = 0 then none else some bundle
      (some (slot.itemId, slot.count), { s with bundles := Function.update s.bundles bundleId left })

def restoreBundleItem [Inhabited Pos] (bundleId : ℕ) (slotId : Fin NPC_HAVE_ITEM_LIST)
    (itemId count : ℕ) : LootWorld Pos :=
  let item : LootItem := ⟨itemId, count, slotId⟩
  let bundle : GroundBundle Pos :=
    match s.bundles bundleId with
    | some bundle =>
      { bundle with
        items := Function.update bundle.items slotId item
        itemsCount := min (bundle.itemsCount + 1) 255 }
    | none =>
      { (default : GroundBundle Pos) with
        bundleId := bundleId
        itemsCount := 1
        items := Function.update (fun _ => {}) slotId item }
  { s with bundles := Function.update s.bundles bundleId (some bundle) }

end LootWorld

/-- The owner of a bundle and the owner's party may take from it. -/
def LootEnv.mayLoot {Pos : Type*} (env : LootEnv Pos) (sid looter : ℕ) : Bool :=
  looter = sid ||
    match env.partyId sid, env.partyId looter with
    | some mp, some op => mp = op
    | _, _ => false

namespace LootWorld

variable {Pos : Type*} [Inhabited Pos] (table : ItemTable) (env : LootEnv Pos) (s : LootWorld Pos)
  (sid bundleId : ℕ) (slotId : Fin NPC_HAVE_ITEM_LIST)

def eligible (members : List ℕ) (position : Pos) : List ℕ :=
  members.filter fun sid =>
    (s.pickers sid).isSome && !env.dead sid && (env.position sid).any fun p => env.inRange p position

/-- Gold that has been taken. A share is the quotient in `f32`, which is exact enough for a `u16` and
at most eight members. -/
def pickGold (position : Pos) (count : ℕ) : LootResult × LootWorld Pos :=
  match (env.partyId sid).bind env.party with
  | some members =>
    let eligible := s.eligible env members position
    if eligible = [] then (.error, s)
    else
      let share := count / eligible.length
      (.itemGivenAway,
        eligible.foldl (fun s member => s.goldGain member (lootGold (env.bonus member) share)) s)
  | none =>
    if COIN_MAX < s.goldOf sid + count then
      (.error, s.restoreBundleItem bundleId slotId ITEM_GOLD count)
    else
      let s := s.goldGain sid (lootGold (env.bonus sid) count)
      (.solo none ITEM_GOLD count (s.goldOf sid), s)

def pickItem (itemId count : ℕ) : LootResult × LootWorld Pos :=
  let restored := s.restoreBundleItem bundleId slotId itemId count
  match s.pickers sid with
  | none => (.noWeight, restored)
  | some picker =>
    let inv := picker.inventory
    if !checkWeight table env.toWarehouseEnv inv itemId count then (.noWeight, restored)
    else
      match findSlotForItem table inv itemId count, table itemId with
      | some dstPos, some itemDef =>
        if INVENTORY_TOTAL ≤ dstPos then (.error, restored)
        else if inv.length ≤ dstPos then (.error, restored)
        else
          let slot := inv.slot dstPos
          let isNew : Bool := slot.itemId = 0
          let slot := { slot with
            itemId := itemId
            count := min (saturatingAdd16 slot.count count) ITEMCOUNT_MAX
            durability := if isNew then itemDef.duration.getD 0 else slot.durability
            serialNum := if isNew then env.nextItemSerial else slot.serialNum }
          (.solo (some (dstPos - SLOT_MAX)) itemId slot.count picker.gold,
            s.updatePicker sid fun p => { p with inventory := inv.set dstPos slot })
      | _, _ => (.error, restored)

end LootWorld

structure LootRequest (Pos : Type*) where
  env : LootEnv Pos
  sid : ℕ
  bundleId : ℕ
  slotId : ℕ

/-- `item_get::handle`. -/
def LootWorld.handle {Pos : Type*} [Inhabited Pos] (table : ItemTable) (s : LootWorld Pos)
    (req : LootRequest Pos) : LootResult × LootWorld Pos :=
  let env := req.env
  if (s.pickers req.sid).isNone then (.ignored, s)
  else if env.isPlayerDead || env.isTrading || env.isMerchanting || env.isMining ||
      env.isFishing then
    (.error, s)
  else if h : req.slotId < NPC_HAVE_ITEM_LIST then
    match s.bundles req.bundleId with
    | none => (.error, s)
    | some bundle =>
      if !env.mayLoot req.sid bundle.looter then (.error, s)
      else
        let slotId : Fin NPC_HAVE_ITEM_LIST := ⟨req.slotId, h⟩
        let lootItem := bundle.items slotId
        if lootItem.itemId = 0 ∨ lootItem.count = 0 then (.error, s)
        else
          match env.position req.sid with
          | none => (.error, s)
          | some pos =>
            if env.tooFar pos bundle.position then (.error, s)
            else
              match s.tryTakeBundleItem req.bundleId slotId with
              | (none, s) => (.error, s)
              | (some (takenId, takenCount), s) =>
                if takenId ≠ lootItem.itemId then (.error, s)
                else if takenId = ITEM_GOLD then
                  s.pickGold env req.sid req.bundleId slotId bundle.position takenCount
                else s.pickItem table env req.sid req.bundleId slotId takenId takenCount
  else (.error, s)

end KoServer
