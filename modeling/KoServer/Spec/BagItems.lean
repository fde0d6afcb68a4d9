import KoServer.Spec.ItemMove
import KoServer.Spec.NpcTrade
import KoServer.Spec.Trade

/-! What is given into the bag and taken out of it by item number: `give_item`, `rob_item`
and `check_exist_item` of `world/inventory.rs`. -/

namespace KoServer

def stackGiven (item : Item) (serial itemId count : ℕ) (slot : UserItemSlot) : UserItemSlot :=
  { slot with
    itemId := itemId
    count :=
      if item.kindD = ITEM_KIND_UNIQUE ∨ item.countableD = 0 then 1
      else min (saturatingAdd16 slot.count count) ITEMCOUNT_MAX
    durability := item.duration.getD 0
    serialNum := if slot.itemId = 0 then serial else slot.serialNum }

def giveItem (table : ItemTable) (serial : ℕ) (inv : Inventory) (itemId count : ℕ) :
    Option Inventory :=
  match table itemId with
  | none => none
  | some item =>
    if item.countableD = 2 then none
    else
      match findSlotForItem table inv itemId count with
      | none => none
      | some pos =>
        if inv.length ≤ pos then none
        else some (inv.set pos (stackGiven item serial itemId count (inv.slot pos)))

/-- `check_exist_item`: the sum over the bag is a `u32`. -/
def checkExistItemCount (inv : Inventory) (itemId count : ℕ) : Bool :=
  count ≤ (((inv.drop SLOT_MAX).take HAVE_MAX).filter fun s => s.itemId = itemId).foldl
    (fun total s => total + s.count) 0

def robFrom (consumable : Bool) (itemId count : ℕ) (inv : Inventory) : List ℕ → Option Inventory
  | [] => none
  | i :: is =>
    let slot := inv.slot i
    if inv.length ≤ i ∨ slot.itemId ≠ itemId then robFrom consumable itemId count inv is
    else if consumable then
      -- the charges of a scroll are its durability, an `i16`
      let charges := Int.bmod count (2 ^ 16)
      let durability := Int.bmod (slot.durability - charges) (2 ^ 16)
      if slot.durability < charges then none
      else if durability ≤ 0 then some (inv.set i {})
      else some (inv.set i { slot with durability := durability })
    else if slot.count < count then robFrom consumable itemId count inv is
    else if slot.count = count then some (inv.set i {})
    else some (inv.set i { slot with count := slot.count - count })

def robItem (table : ItemTable) (inv : Inventory) (itemId count : ℕ) : Option Inventory :=
  if count = 0 then some inv
  else
    robFrom (((table itemId).bind Item.kind).getD 0 = ITEM_KIND_UNIQUE) itemId count inv bagSlots

end KoServer
