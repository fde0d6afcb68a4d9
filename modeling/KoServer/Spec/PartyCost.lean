import KoServer.Spec.BagItems
import KoServer.Spec.ItemRouting

/-! A price that every member of a party pays in items: `rob_all_item_party` of
`world/inventory.rs`. -/

namespace KoServer

structure Payer where
  character : Option (Option ℕ)
  inventory : Inventory

structure CostWorld where
  parties : ℕ → Option LootParty
  sessions : SessionId → Option Payer

namespace CostWorld

variable (table : ItemTable) (w : CostWorld) (sid : SessionId) (itemId count : ℕ)

def inventoryOf : Inventory :=
  match w.sessions sid with
  | none => []
  | some payer => payer.inventory

def getPartyId : Option ℕ := (w.sessions sid).bind fun payer => payer.character.join

/-- `rob_item` of a session. -/
def robItemOf : Bool × CostWorld :=
  if count = 0 then (true, w)
  else
    match w.sessions sid with
    | none => (false, w)
    | some payer =>
      match robItem table payer.inventory itemId count with
      | none => (false, w)
      | some inventory =>
        (true, { w with sessions := Function.update w.sessions sid (some { payer with inventory }) })

def checkExistItem : Bool :=
  count = 0 || (w.sessions sid).any fun payer => checkExistItemCount payer.inventory itemId count

def membersInGame (party : LootParty) : List SessionId :=
  party.activeMembers.filter fun msid =>
    (w.sessions msid).any fun payer => payer.character.any Option.isSome

def robMembers (members : List SessionId) : Bool × CostWorld :=
  if members.all fun msid => w.checkExistItem msid itemId count then
    (true, members.foldl (fun w msid => (w.robItemOf table msid itemId count).2) w)
  else (false, w)

def robAllItemParty : Bool × CostWorld :=
  if count = 0 then (false, w)
  else
    match w.getPartyId sid with
    | none => w.robItemOf table sid itemId count
    | some partyId =>
      match w.parties partyId with
      | none => w.robItemOf table sid itemId count
      | some party =>
        if w.membersInGame party = [] then w.robItemOf table sid itemId count
        else w.robMembers table itemId count (w.membersInGame party)

end CostWorld

end KoServer
