import KoServer.Spec.Trade
import KoServer.Spec.Warehouse

/-! The ways out of a trade that are no packets of it: the window reset of `trigger_zone_change`
in `handler/zone_change.rs`, `handler/logout.rs`, and the cleanup after a lost connection in
`session.rs`; with them what the last two save of what the character has. -/

namespace KoServer

structure Belongings where
  inventory : Inventory
  gold : ℕ

/-- The row of a character. The gold is in an `INTEGER` column that is checked to be at least 0. -/
structure CharacterRow where
  inventory : Inventory
  gold : Fin (2 ^ 31)

namespace CharacterRow

variable (row : CharacterRow) (h : Session)

def belongings : Belongings := ⟨row.inventory, row.gold⟩

/-- `save_items_batch`; an empty inventory is not written. -/
def savedItems : Inventory := if h.inventory.isEmpty then row.inventory else h.inventory

/-- What a logout writes: `gold.min(i32::MAX as u32) as i32`. -/
def saveAtLogout : CharacterRow where
  inventory := row.savedItems h
  gold := ⟨min h.gold I32_MAX, (Nat.min_le_right _ _).trans_lt (by decide)⟩

/-- `gold as i32` of a lost connection. The column refuses what is negative then, and the gold of
the row stays. -/
def saveAtCleanup : CharacterRow where
  inventory := row.savedItems h
  gold := if hlt : h.gold < 2 ^ 31 then ⟨h.gold, hlt⟩ else row.gold

end CharacterRow

/-- The trade block that all three have: both sides are reset, and nothing is given back. -/
def World.dropTrade (w : World) (sid : SessionId) : World :=
  if w.isTrading sid then
    match w.exchangeUser sid with
    | none => w.resetTrade sid
    | some partner => (w.resetTrade sid).resetTrade partner
  else w

structure TradeServer where
  world : World
  rows : SessionId → CharacterRow

namespace TradeServer

variable (v : TradeServer) (sid : SessionId)

def triggerZoneChange : TradeServer := { v with world := v.world.dropTrade sid }

def saveRow (save : CharacterRow → Session → CharacterRow) : TradeServer :=
  { v with rows := fun s => if s = sid then save (v.rows s) (v.world.session s) else v.rows s }

/-- What a logout and a lost connection have in common: the row is saved first, then comes the
trade, and `unregister_session` is the end. -/
def leaveGame (save : CharacterRow → Session → CharacterRow) : TradeServer :=
  if (v.world sid).isNone then v
  else { v.saveRow sid save with world := fun s => if s = sid then none else v.world.dropTrade sid s }

/-- `handle` of the logout handler. -/
def logout : TradeServer := v.leaveGame sid CharacterRow.saveAtLogout

/-- `cleanup` of the session. A shop that goes on offline keeps the session as it is. -/
def cleanup (offlineMerchant : Bool) : TradeServer :=
  if offlineMerchant then v.saveRow sid CharacterRow.saveAtCleanup
  else v.leaveGame sid CharacterRow.saveAtCleanup

end TradeServer

inductive TradeEvent where
  | packet (env : TradeEnv) (sid : SessionId) (msg : TradeMsg)
  | zoneChange (sid : SessionId)
  | logout (sid : SessionId)
  | connectionLost (sid : SessionId) (offlineMerchant : Bool)

def TradeEvent.sid : TradeEvent → SessionId
  | packet _ sid _ => sid
  | zoneChange sid => sid
  | logout sid => sid
  | connectionLost sid _ => sid

def TradeServer.handle (table : ItemTable) (v : TradeServer) : TradeEvent → TradeServer
  | .packet env sid msg => { v with world := handleExchange table env v.world sid msg }
  | .zoneChange sid => v.triggerZoneChange sid
  | .logout sid => v.logout sid
  | .connectionLost sid offlineMerchant => v.cleanup sid offlineMerchant

end KoServer
