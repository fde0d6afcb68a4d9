import KoServer.Spec.Challenge
import KoServer.Spec.Party
import KoServer.Spec.Warehouse

/-! Who of a party an item from the ground goes to: `get_item_routing_user` of
`handler/npc_loot.rs`. Positions are of any type `Pos`, with the range check given. -/

namespace KoServer

/-- What `check_weight` and the search for a slot read of a session, and whether it is alive. -/
structure Carrier (Pos : Type*) where
  position : Pos
  /-- `res_hp_type` and `hp` of the character, if there is one. -/
  character : Option (ℕ × ℤ)
  inventory : Inventory
  env : WarehouseEnv

structure LootParty extends Party where
  itemRouting : ℕ
  /-- `add_member` lets nobody in twice. -/
  members_nodup : toParty.activeMembers.Nodup

structure RoutingCall (Pos : Type*) where
  carriers : SessionId → Option (Carrier Pos)
  /-- The square of the distance is at most `RANGE_50M`. -/
  inRange : Pos → Pos → Bool
  senderSid : SessionId
  itemId : ℕ
  count : ℕ

namespace RoutingCall

variable {Pos : Type*} (table : ItemTable) (call : RoutingCall Pos)

def aliveInRange (senderPos : Pos) (c : Carrier Pos) : Bool :=
  match c.character with
  | none => false
  | some (resHpType, hp) =>
    if resHpType = USER_DEAD || hp ≤ 0 then false else call.inRange c.position senderPos

def accepts (senderPos : Pos) (memberSid : SessionId) : Bool :=
  match call.carriers memberSid with
  | none => false
  | some c =>
    call.aliveInRange senderPos c && checkWeight table c.env c.inventory call.itemId call.count &&
      (findSlotForItem table c.inventory call.itemId call.count).any fun p => p < INVENTORY_TOTAL

def isEligible (memberSid : SessionId) : Bool :=
  (call.carriers call.senderSid).any fun sender => call.accepts table sender.position memberSid

end RoutingCall

/-- The cursor starts again behind the last slot. -/
def nextRouting (routing : ℕ) : ℕ := if 6 < routing then 0 else routing + 1

def routingLoop (members : List (Option SessionId)) (accepts : SessionId → Bool) :
    ℕ → ℕ → Option SessionId × ℕ
  | 0, routing => (none, routing)
  | passes + 1, routing =>
    let routing := nextRouting routing
    match members.getD routing none with
    | none => routingLoop members accepts passes routing
    | some memberSid =>
      if accepts memberSid then (some memberSid, routing)
      else routingLoop members accepts passes routing

def getItemRoutingUser {Pos : Type*} (table : ItemTable) (partyId : ℕ) (call : RoutingCall Pos)
    (parties : ℕ → Option LootParty) : Option SessionId × (ℕ → Option LootParty) :=
  match parties partyId, call.carriers call.senderSid with
  | some party, some sender =>
    let (found, routing) :=
      routingLoop party.members (call.accepts table sender.position) 8 party.itemRouting
    (found, Function.update parties partyId (some { party with itemRouting := routing }))
  | _, _ => (none, parties)

def routeItems {Pos : Type*} (table : ItemTable) (partyId : ℕ) :
    List (RoutingCall Pos) → (ℕ → Option LootParty) → List (Option SessionId)
  | [], _ => []
  | call :: calls, parties =>
    let (receiver, parties) := getItemRoutingUser table partyId call parties
    receiver :: routeItems table partyId calls parties

end KoServer
