import KoServer.Spec.Merchant
import KoServer.Spec.NpcTrade

/-! Buying from an NPC with gold or loyalty, from `handler/npc_trade.rs`, and the taxes on it. -/

namespace KoServer

def TAX_EXEMPT_SCROLLS : List ℕ := [379068000, 379107000, 379109000, 379110000, 379067000]

def LOYALTY_SELLING_GROUP : ℕ := 249000

inductive TaxZoneType
  | kingTariff | siegeMoradon | siegeDelos | noTax
  deriving DecidableEq

/-- The nations' home and Eslant zones, Bifrost, and the zones of wars and events. -/
def KING_TARIFF_ZONES : List ℕ :=
  [1, 5, 6, 2, 7, 8, 11, 13, 14, 12, 15, 16, 31, 61, 62, 63, 64, 65, 66, 69, 71, 72, 73, 75, 81, 82,
    83, 84, 86, 87, 96, 97, 98, 99, 95, 89, 29, 77, 78, 18, 28, 74]

/-- `ZONE_MORADON` to `ZONE_MORADON5`, and `ZONE_ARENA`. -/
def MORADON_ZONES : List ℕ := [21, 22, 23, 24, 25, 48]

/-- `ZONE_DELOS`, `ZONE_DESPERATION_ABYSS`, `ZONE_HELL_ABYSS`, `ZONE_DELOS_CASTELLAN`. -/
def DELOS_ZONES : List ℕ := [30, 32, 33, 35]

def classifyZoneTax (zoneId : ℕ) : TaxZoneType :=
  if zoneId ∈ KING_TARIFF_ZONES then .kingTariff
  else if zoneId ∈ MORADON_ZONES then .siegeMoradon
  else if zoneId ∈ DELOS_ZONES then .siegeDelos
  else .noTax

def calculateItemTax (basePrice : ℕ) (zoneType : TaxZoneType) (kingTariff siegeTariff : ℕ) :
    ℕ × ℤ :=
  match zoneType with
  | .kingTariff =>
    let tariffPct := kingTariff + 10
    let tax := (basePrice * tariffPct / 100) % 2 ^ 32
    (saturatingAdd32 basePrice tax, asI32 tax)
  | .siegeMoradon | .siegeDelos =>
    let adjustmentPct : ℤ := siegeTariff - 10
    let taxAbs := (basePrice * adjustmentPct.natAbs / 100) % 2 ^ 32
    if adjustmentPct < 0 then (basePrice - taxAbs, -asI32 taxAbs)
    else (saturatingAdd32 basePrice taxAbs, asI32 taxAbs)
  | .noTax => (basePrice, 0)

def isTaxExempt (itemId : ℕ) : Bool := itemId ∈ TAX_EXEMPT_SCROLLS

def I32 (n : ℤ) : Prop := -2 ^ 31 ≤ n ∧ n < 2 ^ 31

instance (n : ℤ) : Decidable (I32 n) := inferInstanceAs (Decidable (_ ∧ _))

/-- The columns that only the shop reads, and the `i32` prices. -/
structure ShopItem extends Item where
  npBuyPrice : Option ℤ := none
  sellingGroup : Option ℤ := none
  buyPrice_i32 : I32 (buyPrice.getD 0)
  npBuyPrice_i32 : I32 (npBuyPrice.getD 0)

structure KingTaxes where
  territoryTariff : ℕ
  nationalTreasury : ℕ
  territoryTax : ℕ

structure SiegeTaxes where
  masterKnights : ℕ
  moradonTariff : ℕ
  delosTariff : ℕ
  dungeonCharge : ℤ
  moradonTax : ℤ
  delosTax : ℤ

/-- What `handle_buy` reads and does not change. -/
structure NpcBuyContext where
  table : ℕ → Option ShopItem
  itemSellTable : ℤ → List (List ℤ)
  zoneId : ℕ
  itemWeight : ℕ
  maxWeight : ℕ
  hasCharacter : Bool

structure NpcBuyState where
  inventory : Inventory
  gold : ℕ
  loyalty : ℕ
  drGmTotalSold : ℕ
  nextItemSerial : ℕ
  /-- The king system of the buyer's nation. -/
  king : Option KingTaxes
  siege : SiegeTaxes

def NpcBuyState.currency (isLoyalty : Bool) (s : NpcBuyState) : ℕ :=
  if isLoyalty then s.loyalty else s.gold

def validateSellTableItem (ctx : NpcBuyContext) (sellingGroup : ℤ) (slotIndex : ℕ) (itemId : ℤ) :
    Bool :=
  (ctx.itemSellTable sellingGroup).any (fun row => row.getD slotIndex 0 = itemId) ||
  match ctx.table (asU32 itemId) with
  | none => false
  | some item =>
    match item.sellingGroup with
    | none => false
    | some sg => asI32 (sg * 1000) = sellingGroup

structure BuyEntry where
  itemId : ℕ
  invPos : ℕ
  count : ℕ
  line : ℕ
  index : ℕ
  deriving DecidableEq

/-- Reading never fails, so the checks of an entry can come after all are read. -/
def readBuyEntries : ℕ → PacketReader → List BuyEntry
  | 0, _ => []
  | n + 1, reader =>
    let (itemId, reader) := reader.readU32D
    let (invPos, reader) := reader.readU8D
    let (count, reader) := reader.readU16D
    let (line, reader) := reader.readU8D
    let (index, reader) := reader.readU8D
    ⟨itemId, invPos, count, line, index⟩ :: readBuyEntries n reader

def buyEntryError (ctx : NpcBuyContext) (sellingGroup : ℕ) (e : BuyEntry) : Option ℕ :=
  if e.itemId = 0 ∨ e.count = 0 ∨ HAVE_MAX ≤ e.invPos ∨ ITEMCOUNT_MAX ≤ e.count then some 20
  else if 12 ≤ e.line ∨ 24 ≤ e.index then some 21
  else if !validateSellTableItem ctx (asI32 sellingGroup) e.index (asI32 e.itemId) then some 22
  else none

def parseBuyItems (ctx : NpcBuyContext) (sellingGroup : ℕ) :
    List BuyEntry → Except ℕ (List TradeItem)
  | [] => .ok []
  | e :: entries =>
    match buyEntryError ctx sellingGroup e with
    | some code => .error code
    | none =>
      match parseBuyItems ctx sellingGroup entries with
      | .error code => .error code
      | .ok items => .ok (⟨e.itemId, e.invPos, e.count, 0⟩ :: items)

/-- The same slot cannot appear twice. -/
def samePosTwice : List TradeItem → Bool
  | [] => false
  | item :: items => items.any (fun other => item.invPos = other.invPos) || samePosTwice items

structure BuyTotals where
  totalPrice : ℕ := 0
  totalWeight : ℕ := 0
  totalKingTax : ℕ := 0
  totalSiegeTax : ℤ := 0

/-- Only what is charged on top counts as revenue. -/
def BuyTotals.addTax (t : BuyTotals) (zoneType : TaxZoneType) (tax : ℤ) : BuyTotals :=
  { t with
    totalKingTax :=
      if zoneType = .kingTariff ∧ 0 < tax then t.totalKingTax + tax.toNat else t.totalKingTax
    totalSiegeTax :=
      if (zoneType = .siegeMoradon ∨ zoneType = .siegeDelos) ∧ 0 < tax then t.totalSiegeTax + tax
      else t.totalSiegeTax }

def zoneTaxType (ctx : NpcBuyContext) (isLoyalty : Bool) : TaxZoneType :=
  if isLoyalty then .noTax else classifyZoneTax ctx.zoneId

def activeSiegeTariff (siege : SiegeTaxes) : TaxZoneType → ℕ
  | .siegeMoradon => siege.moradonTariff
  | .siegeDelos => siege.delosTariff
  | _ => 10

def kingTariffOf (s : NpcBuyState) : ℕ := (s.king.map KingTaxes.territoryTariff).getD 0

def basePrice (isLoyalty : Bool) (itemDef : ShopItem) (count : ℕ) : ℕ :=
  let unitPrice :=
    if isLoyalty then asU64 (itemDef.npBuyPrice.getD 0) else asU64 (itemDef.buyPrice.getD 0)
  unitPrice * count % 2 ^ 64

/-- The price with its tax, and the tax, which is nothing where none applies. -/
def transactionPrice (ctx : NpcBuyContext) (s : NpcBuyState) (isLoyalty : Bool) (itemId base : ℕ) :
    ℕ × ℤ :=
  if !isLoyalty && !isTaxExempt itemId then
    let zoneType := zoneTaxType ctx isLoyalty
    calculateItemTax (base % 2 ^ 32) zoneType (kingTariffOf s) (activeSiegeTariff s.siege zoneType)
  else (base, 0)

def buySlotError (itemDef : ShopItem) (slot : UserItemSlot) (item : TradeItem) : Option ℕ :=
  if slot.itemId ≠ 0 then
    if slot.itemId ≠ item.itemId then some 28
    else if itemDef.countableD = 0 ∨ item.count = 0 then some 29
    else if 0 < itemDef.countableD ∧ ITEMCOUNT_MAX < (item.count + slot.count) % 2 ^ 16 then some 4
    else none
  else none

/-- One turn of the validation loop. -/
def checkBuyItem (ctx : NpcBuyContext) (s : NpcBuyState) (isLoyalty : Bool) (t : BuyTotals)
    (item : TradeItem) : Except ℕ (BuyTotals × TradeItem) :=
  match ctx.table item.itemId with
  | none => .error 24
  | some itemDef =>
    let base := basePrice isLoyalty itemDef item.count
    if COIN_MAX < base then .error 25
    else
      let (price, tax) := transactionPrice ctx s isLoyalty item.itemId base
      let t := t.addTax (zoneTaxType ctx isLoyalty) tax
      if COIN_MAX < price then .error 26
      else
        let t := { t with totalPrice := t.totalPrice + price }
        if COIN_MAX < t.totalPrice then .error 27
        else
          let weight := saturatingMul32 (asU32 (itemDef.weight.getD 0)) item.count
          let t := { t with totalWeight := saturatingAdd32 t.totalWeight weight }
          if ctx.maxWeight < saturatingAdd32 t.totalWeight ctx.itemWeight then .error 4
          else
            match buySlotError itemDef (s.inventory.slot (SLOT_MAX + item.invPos)) item with
            | some code => .error code
            | none => .ok (t, { item with buyPrice := price % 2 ^ 32 })

def checkBuyItems (ctx : NpcBuyContext) (s : NpcBuyState) (isLoyalty : Bool) :
    BuyTotals → List TradeItem → Except ℕ (BuyTotals × List TradeItem)
  | t, [] => .ok (t, [])
  | t, item :: items =>
    match checkBuyItem ctx s isLoyalty t item with
    | .error code => .error code
    | .ok (t, item) =>
      match checkBuyItems ctx s isLoyalty t items with
      | .error code => .error code
      | .ok (t, items) => .ok (t, item :: items)

def payForBuy (s : NpcBuyState) (isLoyalty : Bool) (totalPrice : ℕ) : NpcBuyState :=
  if isLoyalty then { s with loyalty := s.loyalty - totalPrice % 2 ^ 32 }
  else
    { s with
      gold := (goldLose s.gold (totalPrice % 2 ^ 32)).getD s.gold
      drGmTotalSold := (s.drGmTotalSold + totalPrice) % 2 ^ 64 }

def boughtSlot (itemDef : ShopItem) (serial : ℕ) (item : TradeItem) (slot : UserItemSlot) :
    UserItemSlot :=
  { slot with
    itemId := item.itemId
    count :=
      if itemDef.countableD = 0 then 1
      else min ((slot.count + item.count) % 2 ^ 16) ITEMCOUNT_MAX
    durability := if slot.durability = 0 then itemDef.duration.getD 0 else slot.durability
    serialNum := if slot.itemId = 0 then serial else slot.serialNum }

/-- One turn of the execution loop, which uses up a serial even for a slot that is not there. -/
def giveBought (ctx : NpcBuyContext) (s : NpcBuyState) (item : TradeItem) : NpcBuyState :=
  if item.itemId = 0 then s
  else
    match ctx.table item.itemId with
    | none => s
    | some itemDef =>
      let actualSlot := SLOT_MAX + item.invPos
      let serial := s.nextItemSerial
      let s := { s with nextItemSerial := (serial + 1) % 2 ^ 64 }
      if s.inventory.length ≤ actualSlot then s
      else
        { s with
          inventory := s.inventory.set actualSlot
            (boughtSlot itemDef serial item (s.inventory.slot actualSlot)) }

def saturatingAddI32 (a b : ℤ) : ℤ := max (-2 ^ 31) (min (a + b) (2 ^ 31 - 1))

def collectTaxes (s : NpcBuyState) (zoneType : TaxZoneType) (t : BuyTotals) : NpcBuyState :=
  let s :=
    if 0 < t.totalKingTax ∧ zoneType = .kingTariff then
      let treasuryShare := (t.totalKingTax * 80 / 100) % 2 ^ 32
      let territoryShare := (t.totalKingTax * 20 / 100) % 2 ^ 32
      { s with
        king := s.king.map fun ks =>
          { ks with
            nationalTreasury := min (saturatingAdd32 ks.nationalTreasury treasuryShare) COIN_MAX
            territoryTax := min (saturatingAdd32 ks.territoryTax territoryShare) COIN_MAX } }
    else s
  if 0 < t.totalSiegeTax ∧ 0 < s.siege.masterKnights then
    let siegeTax := asU32 t.totalSiegeTax
    let dungeonShare := asI32 ((siegeTax * 80 / 100 : ℕ) : ℤ)
    let zoneTaxShare := asI32 ((siegeTax * 10 / 100 : ℕ) : ℤ)
    let siege := { s.siege with
      dungeonCharge := saturatingAddI32 s.siege.dungeonCharge dungeonShare }
    { s with
      siege :=
        match zoneType with
        | .siegeMoradon => { siege with moradonTax := saturatingAddI32 siege.moradonTax zoneTaxShare }
        | .siegeDelos => { siege with delosTax := saturatingAddI32 siege.delosTax zoneTaxShare }
        | _ => siege }
  else s

/-- The error code, or what is left of the currency, the price, and the group of a loyalty
shop. -/
inductive BuyReply
  | fail (code : ℕ)
  | success (after totalPrice : ℕ) (sellingGroup : Option ℕ)
  deriving DecidableEq

def handleBuy (ctx : NpcBuyContext) (s : NpcBuyState) (reader : PacketReader)
    (itemCount sellingGroup : ℕ) (isLoyalty : Bool) : BuyReply × NpcBuyState :=
  match parseBuyItems ctx sellingGroup (readBuyEntries itemCount reader) with
  | .error code => (.fail code, s)
  | .ok items =>
    if samePosTwice items then (.fail 23, s)
    else
      match checkBuyItems ctx s isLoyalty {} items with
      | .error code => (.fail code, s)
      | .ok (t, items) =>
        if !ctx.hasCharacter then (.fail 1, s)
        else if s.currency isLoyalty < t.totalPrice % 2 ^ 32 then (.fail 3, s)
        else
          let s := items.foldl (giveBought ctx) (payForBuy s isLoyalty t.totalPrice)
          let s := collectTaxes s (zoneTaxType ctx isLoyalty) t
          let group := if isLoyalty then some (sellingGroup % 2 ^ 8) else none
          (.success (s.currency isLoyalty) (t.totalPrice % 2 ^ 32) group, s)

/-- The end of `handle` for a purchase: the number of entries, then the entries. -/
def handleBuyRequest (ctx : NpcBuyContext) (s : NpcBuyState) (reader : PacketReader) (group : ℕ) :
    BuyReply × NpcBuyState :=
  let (itemCount, reader) := reader.readU8D
  if itemCount = 0 ∨ 24 < itemCount then (.fail 1, s)
  else handleBuy ctx s reader itemCount group (group = LOYALTY_SELLING_GROUP)

end KoServer
