import KoServer.Spec.ClanStorage

/-! The guild bank, from `handler/guild_bank.rs`: the four item requests, the database writes
that they spawn, and the load. The casts of a slot to the columns of its row are undone by the
casts of the load, so a row keeps the numbers as they are. -/

namespace KoServer

abbrev GuildBank := ClanStorage ℤ

/-- The columns of `guild_bank_item` that the load reads. -/
structure BankRow where
  itemId : ℕ
  count : ℕ
  durability : ℤ
  flag : ℕ
  expireTime : ℕ
  deriving DecidableEq

/-- `guild_bank_item`, keyed by clan, `tab_index` and `slot_id`, and the gold of `guild_bank`. -/
structure GuildBankStore where
  items : ℕ × ℕ × ℕ → Option BankRow
  gold : ℕ → ℤ

namespace GuildBankStore

def upsertItem (store : GuildBankStore) (clan tab slotId : ℕ) (row : BankRow) : GuildBankStore :=
  { store with items := Function.update store.items (clan, tab, slotId) (some row) }

def removeItem (store : GuildBankStore) (clan tab slotId : ℕ) : GuildBankStore :=
  { store with items := Function.update store.items (clan, tab, slotId) none }

def updateGold (store : GuildBankStore) (clan : ℕ) (gold : ℤ) : GuildBankStore :=
  { store with gold := Function.update store.gold clan gold }

/-- The rows come in the order of their tabs, so the last one for a flat index is that of the
highest tab. -/
def loadItem (store : GuildBankStore) (clan flatIdx : ℕ) : UserItemSlot :=
  match (List.range (flatIdx / ITEMS_PER_PAGE + 1)).reverse.findSome? fun tab =>
      store.items (clan, tab, flatIdx - tab * ITEMS_PER_PAGE) with
  | none => {}
  | some row =>
    { itemId := row.itemId
      durability := row.durability
      count := row.count
      flag := row.flag
      expireTime := row.expireTime }

/-- `ensure_loaded` with no entry in the cache. -/
def loadGuildBank (store : GuildBankStore) (clan : ℕ) : GuildBank where
  items := (List.range WAREHOUSE_MAX).map (store.loadItem clan)
  items_length := by simp
  gold := store.gold clan

end GuildBankStore

inductive BankWrite
  | slot (flatIdx : ℕ) (slot : UserItemSlot)
  | gold (gold : ℤ)
  deriving DecidableEq

/-- The task of `save_gb_slot_async` or `save_gb_gold_async`. -/
def GuildBankStore.execute (clan : ℕ) (store : GuildBankStore) : BankWrite → GuildBankStore
  | .slot flatIdx slot =>
    let tabIndex := flatIdx / ITEMS_PER_PAGE
    let slotId := flatIdx
    if slot.itemId = 0 then store.removeItem clan tabIndex slotId
    else store.upsertItem clan tabIndex slotId
      { itemId := slot.itemId
        count := slot.count
        durability := slot.durability
        flag := slot.flag
        expireTime := slot.expireTime }
  | .gold gold => store.updateGold clan gold

/-- The bank in the cache, the member whose request it is, and the tasks spawned so far. -/
structure BankState where
  bank : GuildBank
  member : ClanMember
  pending : List BankWrite
  deriving DecidableEq

namespace BankState

def saveSlot (s : BankState) (flatIdx : ℕ) : BankState :=
  { s with pending := s.pending ++ [.slot flatIdx (s.bank.slot flatIdx)] }

def saveGold (s : BankState) : BankState := { s with pending := s.pending ++ [.gold s.bank.gold] }

end BankState

/-- Direction 0 deposits. The gold check of `gold_lose` has been made by then, and the cap of
`gold_gain` is not reached. -/
def handleGoldOp (env : ClanEnv) (s : BankState) (amount direction : ℕ) : ClanResult × BankState :=
  if !validateBasicState env then (.error, s)
  else
    match env.clanFame with
    | none => (.error, s)
    | some fame =>
      if amount = 0 then (.error, s)
      else if direction = 0 then
        if amount ≤ s.member.gold ∧ s.bank.gold + amount ≤ COIN_MAX then
          (.success, BankState.saveGold { s with
            bank := { s.bank with gold := s.bank.gold + amount }
            member := { s.member with gold := (goldLose s.member.gold amount).getD s.member.gold } })
        else (.error, s)
      else if !isLeaderOrAssistant fame then (.error, s)
      else if (amount : ℤ) ≤ s.bank.gold ∧ s.member.gold + amount ≤ COIN_MAX then
        (.success, BankState.saveGold { s with
          bank := { s.bank with gold := s.bank.gold - amount }
          member := { s.member with gold := goldGain s.member.gold amount } })
      else (.error, s)

def handleDeposit (table : ItemTable) (env : ClanEnv) (s : BankState) (req : ClanRequest) :
    ClanResult × BankState :=
  let whIdx := req.whSlot req.dstPos
  let srcIdx := SLOT_MAX + req.srcPos
  if !validateBasicState env || env.clanFame.isNone || !env.clanKnown then (.error, s)
  else if req.count = 0 ∨ req.itemId = 0 ∨ req.itemId = ITEM_GOLD then (.error, s)
  else
    match table req.itemId with
    | none => (.error, s)
    | some item =>
      if HAVE_MAX ≤ req.srcPos ∨ WAREHOUSE_MAX ≤ whIdx then (.error, s)
      else if ITEM_NO_TRADE_MIN ≤ req.itemId ∧ req.itemId ≤ ITEM_NO_TRADE_MAX then (.error, s)
      else
        match s.member.inventory[srcIdx]? with
        | none => (.error, s)
        | some src =>
          if src.itemId ≠ req.itemId then (.error, s)
          else
            match depositRefused src (asU16 req.count) with
            | some refusal => (refusal, s)
            | none =>
              match storeIn item (asU16 req.count) env.nextItemSerial whIdx src s.bank with
              | none => (.full, s)
              | some bank =>
                match reduceInventory item (asU16 req.count) srcIdx s.member.inventory with
                | none => (.error, { s with bank := bank.setItem whIdx {} })
                | some inventory =>
                  (.success, BankState.saveSlot { s with
                    bank := bank
                    member := { s.member with inventory := inventory } } whIdx)

/-- Everything that `handle_withdraw` checks before it reads the bank. -/
def withdrawChecked (table : ItemTable) (env : ClanEnv) (inv : Inventory) (req : ClanRequest) :
    Except ClanResult Item :=
  if !validateBasicState env then .error .error
  else if !(env.clanFame.any isLeaderOrAssistant) || !env.clanKnown then .error .error
  else if req.count = 0 ∨ req.itemId = 0 ∨ req.itemId = ITEM_GOLD then .error .error
  else
    match table req.itemId with
    | none => .error .error
    | some item =>
      if !checkWeight table env.toWarehouseEnv inv req.itemId (asU16 req.count) then
        .error .overweight
      else if WAREHOUSE_MAX ≤ req.whSlot req.srcPos ∨ HAVE_MAX ≤ req.dstPos then .error .error
      else .ok item

def handleWithdraw (table : ItemTable) (env : ClanEnv) (s : BankState) (req : ClanRequest) :
    ClanResult × BankState :=
  let whIdx := req.whSlot req.srcPos
  let dstIdx := SLOT_MAX + req.dstPos
  match withdrawChecked table env s.member.inventory req with
  | .error refusal => (refusal, s)
  | .ok item =>
    match readStored req.itemId (asU16 req.count) whIdx s.bank with
    | .error refusal => (refusal, s)
    | .ok src =>
      match addToInventory item (asU16 req.count) env.nextItemSerial dstIdx src
          s.member.inventory with
      | none => (.error, s)
      | some inventory =>
        match deductStored item req.itemId (asU16 req.count) whIdx s.bank with
        | none =>
          (.error, { s with
            member := { s.member with inventory := rollbackInventory dstIdx inventory } })
        | some bank =>
          (.success, BankState.saveSlot { s with
            bank := bank
            member := { s.member with inventory := inventory } } whIdx)

def handleMoveItem (env : ClanEnv) (s : BankState) (req : ClanRequest) : ClanResult × BankState :=
  let srcIdx := req.whSlot req.srcPos
  let dstIdx := req.whSlot req.dstPos
  if !validateBasicState env then (.error, s)
  else if !(env.clanFame.any isLeaderOrAssistant) || !env.clanKnown then (.error, s)
  else if WAREHOUSE_MAX ≤ srcIdx ∨ WAREHOUSE_MAX ≤ dstIdx then (.error, s)
  else
    let src := s.bank.slot srcIdx
    let dst := s.bank.slot dstIdx
    if src.itemId = req.itemId ∧ dst.itemId = 0 then
      if src.flag = ITEM_FLAG_DUPLICATE ∨ dst.flag = ITEM_FLAG_DUPLICATE then (.duplicate, s)
      else
        let s := { s with bank := (s.bank.setItem dstIdx src).setItem srcIdx {} }
        (.success, (s.saveSlot srcIdx).saveSlot dstIdx)
    else (.error, s)

inductive GuildRequest
  | goldOp (amount direction : ℕ)
  | deposit (req : ClanRequest)
  | withdraw (req : ClanRequest)
  | moveItem (req : ClanRequest)
  deriving DecidableEq

/-- `handle_item_data`, after the fields are read. -/
def handleItemData (table : ItemTable) (env : ClanEnv) (s : BankState) :
    GuildRequest → ClanResult × BankState
  | .goldOp amount direction => handleGoldOp env s amount direction
  | .deposit req => handleDeposit table env s req
  | .withdraw req => handleWithdraw table env s req
  | .moveItem req => handleMoveItem env s req

structure PersistState where
  state : BankState
  store : GuildBankStore

inductive PersistStep
  | request (env : ClanEnv) (member : ClanMember) (r : GuildRequest)
  | execute (i : ℕ)

/-- A request of some member, or one of the tasks that were spawned, whichever comes to run. -/
def persistStep (table : ItemTable) (clan : ℕ) (s : PersistState) : PersistStep → PersistState
  | .request env member r =>
    { s with state := (handleItemData table env { s.state with member := member } r).2 }
  | .execute i =>
    match s.state.pending[i]? with
    | none => s
    | some w =>
      { state := { s.state with pending := s.state.pending.eraseIdx i }
        store := s.store.execute clan w }

end KoServer
