import KoServer.Spec.GuildBank

/-! The clan warehouse, from `handler/clan_warehouse.rs`, and withdrawals of several members from
one of the clan's storages, closure by closure. -/

namespace KoServer

abbrev ClanWarehouse := ClanStorage ℕ

/-- `clan_warehouse_items`, keyed by clan and `slot_index`, and `n_money` of `knights`. -/
structure ClanWarehouseStore where
  items : ℕ × ℕ → Option UserItemSlot
  money : ℕ → ℤ

/-- `ensure_loaded` with no entry in the cache. -/
def ClanWarehouseStore.loadClanWarehouse (store : ClanWarehouseStore) (clan : ℕ) :
    ClanWarehouse where
  items := (List.range WAREHOUSE_MAX).map fun i => (store.items (clan, i)).getD {}
  items_length := by simp
  gold := (store.money clan).toNat

inductive WarehouseWrite
  | slot (slotIdx : ℕ) (slot : UserItemSlot)
  | gold (gold : ℕ)
  deriving DecidableEq

/-- The task of `save_clan_wh_slot_async` or `save_clan_gold_async`. -/
def ClanWarehouseStore.execute (clan : ℕ) (store : ClanWarehouseStore) :
    WarehouseWrite → ClanWarehouseStore
  | .slot slotIdx slot =>
    { store with items := Function.update store.items (clan, slotIdx) (some slot) }
  | .gold gold => { store with money := Function.update store.money clan (min gold I32_MAX : ℕ) }

structure ClanWarehouseState where
  warehouse : ClanWarehouse
  member : ClanMember
  pending : List WarehouseWrite
  deriving DecidableEq

namespace ClanWarehouseState

def saveSlot (s : ClanWarehouseState) (slotIdx : ℕ) : ClanWarehouseState :=
  { s with pending := s.pending ++ [.slot slotIdx (s.warehouse.slot slotIdx)] }

def saveGold (s : ClanWarehouseState) : ClanWarehouseState :=
  { s with pending := s.pending ++ [.gold s.warehouse.gold] }

end ClanWarehouseState

def handleInput (table : ItemTable) (env : ClanEnv) (s : ClanWarehouseState) (req : ClanRequest) :
    ClanResult × ClanWarehouseState :=
  let whIdx := req.whSlot req.dstPos
  let srcIdx := SLOT_MAX + req.srcPos
  if !validateBasicState env || env.clanFame.isNone || !env.clanKnown then (.error, s)
  else if !env.isInNpcRange req.npcId then (.error, s)
  else if req.count = 0 then (.error, s)
  else if req.itemId = ITEM_GOLD then
    if req.count ≤ s.member.gold ∧ s.warehouse.gold + req.count ≤ COIN_MAX then
      (.success, ClanWarehouseState.saveGold { s with
        warehouse := { s.warehouse with gold := s.warehouse.gold + req.count }
        member := { s.member with
          gold := (goldLose s.member.gold req.count).getD s.member.gold } })
    else (.error, s)
  else
    match table req.itemId with
    | none => (.error, s)
    | some item =>
      if HAVE_MAX ≤ req.srcPos ∨ WAREHOUSE_MAX ≤ whIdx then (.error, s)
      else if ITEM_NO_TRADE_MIN ≤ req.itemId ∧ req.itemId ≤ ITEM_NO_TRADE_MAX then (.error, s)
      else
        match s.member.inventory[srcIdx]? with
        | none => (.error, s)
        | some src =>
          if src.itemId ≠ req.itemId then (.error, s)
          else
            match depositRefused src (asU16 req.count) with
            | some refusal => (refusal, s)
            | none =>
              match storeIn item (asU16 req.count) env.nextItemSerial whIdx src s.warehouse with
              | none => (.error, s)
              | some warehouse =>
                match reduceInventory item (asU16 req.count) srcIdx s.member.inventory with
                | none => (.error, { s with warehouse := warehouse.setItem whIdx {} })
                | some inventory =>
                  (.success, ClanWarehouseState.saveSlot { s with
                    warehouse := warehouse
                    member := { s.member with inventory := inventory } } whIdx)

/-- What comes before a withdrawal reads its slot: an answer, with the gold that may have moved,
or the item. It reads nothing that another member's withdrawal of items changes. -/
abbrev WithdrawStart (G : Type) :=
  ClanEnv → ClanStorage G → ClanMember → ClanRequest →
    (ClanResult × ClanStorage G × ClanMember) ⊕ Item

/-- `handle_output` up to its read. -/
def outputStart (table : ItemTable) : WithdrawStart ℕ := fun env b m req =>
  if !validateBasicState env then .inl (.error, b, m)
  else if !(env.clanFame.any isLeaderOrAssistant) || !env.clanKnown then .inl (.error, b, m)
  else if !env.isInNpcRange req.npcId then .inl (.error, b, m)
  else if req.count = 0 then .inl (.error, b, m)
  else if req.itemId = ITEM_GOLD then
    if req.count ≤ b.gold ∧ m.gold + req.count ≤ COIN_MAX then
      .inl (.success, { b with gold := b.gold - req.count },
        { m with gold := goldGain m.gold req.count })
    else .inl (.error, b, m)
  else
    match table req.itemId with
    | none => .inl (.error, b, m)
    | some item =>
      if !checkWeight table env.toWarehouseEnv m.inventory req.itemId (asU16 req.count) then
        .inl (.overweight, b, m)
      else if WAREHOUSE_MAX ≤ req.whSlot req.srcPos ∨ HAVE_MAX ≤ req.dstPos then .inl (.error, b, m)
      else .inr item

/-- `handle_withdraw` of the guild bank up to its read. -/
def withdrawStart (table : ItemTable) : WithdrawStart ℤ := fun env b m req =>
  match withdrawChecked table env m.inventory req with
  | .error refusal => .inl (refusal, b, m)
  | .ok item => .inr item

inductive WithdrawPhase
  | idle
  | adding (nextSerial : ℕ) (item : Item) (req : ClanRequest) (src : UserItemSlot)
  | deducting (item : Item) (req : ClanRequest)
  | rollingBack (req : ClanRequest)
  | answered (result : ClanResult)
  deriving DecidableEq

def WithdrawPhase.finished : WithdrawPhase → Bool
  | .idle => true
  | .answered _ => true
  | _ => false

structure WithdrawMember where
  member : ClanMember
  phase : WithdrawPhase
  before : Inventory
  deriving DecidableEq

structure ClanSystem (ι G : Type) where
  storage : ClanStorage G
  members : ι → WithdrawMember

inductive WithdrawStep (ι : Type)
  | request (m : ι) (env : ClanEnv) (req : ClanRequest)
  | proceed (m : ι)

variable {ι G : Type} [DecidableEq ι]

namespace ClanSystem

def put (s : ClanSystem ι G) (m : ι) (w : WithdrawMember) : ClanSystem ι G :=
  { s with members := Function.update s.members m w }

def request (start : WithdrawStart G) (s : ClanSystem ι G) (m : ι) (env : ClanEnv)
    (req : ClanRequest) : ClanSystem ι G :=
  let w := s.members m
  if !w.phase.finished then s
  else
    match start env s.storage w.member req with
    | .inl (result, storage, member) =>
      { s with storage := storage }.put m ⟨member, .answered result, w.member.inventory⟩
    | .inr item =>
      match readStored req.itemId (asU16 req.count) (req.whSlot req.srcPos) s.storage with
      | .error refusal => s.put m ⟨w.member, .answered refusal, w.member.inventory⟩
      | .ok src =>
        s.put m ⟨w.member, .adding env.nextItemSerial item req src, w.member.inventory⟩

def proceed (s : ClanSystem ι G) (m : ι) : ClanSystem ι G :=
  let w := s.members m
  match w.phase with
  | .idle => s
  | .answered _ => s
  | .adding nextSerial item req src =>
    match addToInventory item (asU16 req.count) nextSerial (SLOT_MAX + req.dstPos) src
        w.member.inventory with
    | none => s.put m { w with phase := .answered .error }
    | some inventory =>
      s.put m { w with
        member := { w.member with inventory := inventory }, phase := .deducting item req }
  | .deducting item req =>
    match deductStored item req.itemId (asU16 req.count) (req.whSlot req.srcPos) s.storage with
    | none => s.put m { w with phase := .rollingBack req }
    | some storage => { s with storage := storage }.put m { w with phase := .answered .success }
  | .rollingBack req =>
    s.put m { w with
      member := { w.member with
        inventory := rollbackInventory (SLOT_MAX + req.dstPos) w.member.inventory }
      phase := .answered .error }

end ClanSystem

def withdrawStep (start : WithdrawStart G) (s : ClanSystem ι G) :
    WithdrawStep ι → ClanSystem ι G
  | .request m env req => s.request start m env req
  | .proceed m => s.proceed m

end KoServer
