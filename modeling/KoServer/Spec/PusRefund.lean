import KoServer.Spec.Inventory
import KoServer.Spec.KnightCash

/-! Returning what was bought in the cash shop, from `handler/pus_refund.rs`, with the refund table
of `repositories/cash_shop.rs`. The refund list of a session follows the table only at a login. -/

namespace KoServer

def REFUND_COOLDOWN_SECS : ℕ := 5

def REFUND_WINDOW_SECS : ℕ := 3600

inductive RefundError
  | itemNotFound
  | timeExpired
  | procesTime
  | notInventory
  | itemUsed
  deriving DecidableEq

/-- What was bought: `buyType` is 0 for KC and 1 for TL. -/
structure Purchase where
  itemId : ℕ
  itemId_lt : itemId < 2 ^ 32
  itemPrice : ℕ
  itemPrice_lt : itemPrice < 2 ^ 32
  itemCount : ℕ
  itemCount_lt : itemCount < 2 ^ 16
  buyingTime : ℕ
  buyingTime_lt : buyingTime < 2 ^ 31
  itemDuration : ℕ
  itemDuration_lt : itemDuration < 2 ^ 16
  buyType : ℕ
  buyType_le : buyType ≤ 1

structure PusRefundEntry where
  itemId : ℕ
  itemPrice : ℕ
  itemCount : ℕ
  itemDuration : ℕ
  expiredTime : ℕ
  buyType : ℕ
  deriving DecidableEq

/-- A row of `pus_refund`; its columns are signed. -/
structure PusRefundRow where
  mserial : ℤ
  itemId : ℤ
  itemCount : ℤ
  itemPrice : ℤ
  buyingTime : ℤ
  itemDuration : ℤ
  buyType : ℤ
  deriving DecidableEq

namespace Purchase

/-- What `register_purchase` is given. -/
def entry (p : Purchase) : PusRefundEntry where
  itemId := p.itemId
  itemPrice := p.itemPrice
  itemCount := p.itemCount
  itemDuration := p.itemDuration
  expiredTime := p.buyingTime + REFUND_WINDOW_SECS
  buyType := p.buyType

/-- What `insert_purchase` is given. -/
def row (serial : ℕ) (p : Purchase) : PusRefundRow where
  mserial := asI64 serial
  itemId := asI32 p.itemId
  itemCount := Int.bmod p.itemCount (2 ^ 16)
  itemPrice := asI32 p.itemPrice
  buyingTime := asI32 p.buyingTime
  itemDuration := Int.bmod p.itemDuration (2 ^ 16)
  buyType := p.buyType

end Purchase

/-- The entry that `load_and_send_refund_list` makes of a row. -/
def PusRefundRow.entry (row : PusRefundRow) : PusRefundEntry where
  itemId := asU32 row.itemId
  itemPrice := asU32 row.itemPrice
  itemCount := (row.itemCount % 2 ^ 16).toNat
  itemDuration := (row.itemDuration % 2 ^ 16).toNat
  expiredTime := asU64 row.buyingTime + REFUND_WINDOW_SECS
  buyType := (row.buyType % 2 ^ 8).toNat

structure RefundWorld where
  inventory : Inventory
  knightCash : ℕ
  tlBalance : ℕ
  pusRefundMap : ℕ → Option PusRefundEntry
  pusRefundLastTime : ℕ
  rows : List PusRefundRow
  deletions : List ℕ

/-- A packet that cannot be sent ends the request: the stack change, the new balance, or the
answer. -/
inductive SendFailure
  | stackChange
  | balance
  | success
  deriving DecidableEq

inductive RefundOutcome
  | error (code : RefundError)
  | aborted (credited : Bool)
  | returned
  deriving DecidableEq

namespace RefundOutcome

def credited : RefundOutcome → Bool
  | error _ => false
  | aborted credited => credited
  | returned => true

end RefundOutcome

namespace RefundWorld

def foundSlot (inv : Inventory) (itemId : ℕ) : Option ℕ :=
  inv.findIdx? fun slot => slot.itemId = itemId && 0 < slot.count

def clearSlot (slot : UserItemSlot) : UserItemSlot :=
  { slot with itemId := 0, count := 0, durability := 0 }

def refundAmounts (entry : PusRefundEntry) : ℤ × ℤ :=
  (if entry.buyType = 0 then asI32 entry.itemPrice else 0,
    if entry.buyType = 1 then asI32 entry.itemPrice else 0)

/-- `give_balance`, which does nothing for two zeros. -/
def giveBalance (s : RefundWorld) (amounts : ℤ × ℤ) : RefundWorld :=
  if amounts.1 = 0 ∧ amounts.2 = 0 then s
  else
    let new := (CashCall.giveBalance amounts.1 amounts.2).balances s.knightCash s.tlBalance
    { s with knightCash := new.1, tlBalance := new.2 }

def returnItem (s : RefundWorld) (serial : ℕ) (entry : PusRefundEntry) (slotIdx : ℕ)
    (failure : Option SendFailure) : RefundWorld × RefundOutcome :=
  let s := { s with inventory := s.inventory.modify slotIdx clearSlot }
  if failure = some .stackChange then (s, .aborted false)
  else
    let amounts := refundAmounts entry
    let s := s.giveBalance amounts
    if failure = some .balance ∧ ¬(amounts.1 = 0 ∧ amounts.2 = 0) then (s, .aborted true)
    else
      let s :=
        { s with
          pusRefundMap := Function.update s.pusRefundMap serial none
          deletions := s.deletions ++ [serial] }
      if failure = some .success then (s, .aborted true) else (s, .returned)

def handleItemReturn (s : RefundWorld) (serial now : ℕ) (failure : Option SendFailure) :
    RefundWorld × RefundOutcome :=
  if now < s.pusRefundLastTime + REFUND_COOLDOWN_SECS then (s, .error .procesTime)
  else
    let s := { s with pusRefundLastTime := now }
    match s.pusRefundMap serial with
    | none => (s, .error .itemNotFound)
    | some entry =>
      if entry.expiredTime < now then (s, .error .timeExpired)
      else
        match foundSlot s.inventory entry.itemId with
        | none => (s, .error .notInventory)
        | some slotIdx =>
          if (s.inventory.slot slotIdx).count ≠ entry.itemCount then (s, .error .itemUsed)
          else s.returnItem serial entry slotIdx failure

/-- The map that `load_and_send_refund_list` builds from the rows that are not expired. -/
def loadMap (rows : List PusRefundRow) (now : ℕ) : ℕ → Option PusRefundEntry :=
  rows.foldl (fun map row =>
    if row.entry.expiredTime < now then map
    else Function.update map (asU64 row.mserial) (some row.entry)) fun _ => none

/-- `load_and_send_refund_list`; a failed query and an empty table leave the map. -/
def loadRefundList (s : RefundWorld) (now : ℕ) (dbOk : Bool) : RefundWorld :=
  if !dbOk || s.rows.isEmpty then s else { s with pusRefundMap := loadMap s.rows now }

def registerPurchase (s : RefundWorld) (serial : ℕ) (p : Purchase) : RefundWorld :=
  { s with
    pusRefundMap := Function.update s.pusRefundMap serial (some p.entry)
    rows := s.rows ++ [p.row serial] }

def deletePurchase (s : RefundWorld) (serial : ℕ) : RefundWorld :=
  { s with rows := s.rows.filter fun row => row.mserial ≠ asI64 serial }

end RefundWorld

/-- `play` stands for everything else that changes what the account has. A deletion that runs may
fail, and is not tried again. -/
inductive RefundEvent
  | buy (serial : Fin (2 ^ 64)) (p : Purchase)
  | play (inventory : Inventory) (knightCash tlBalance : Fin (2 ^ 32))
  | refund (serial now : ℕ) (failure : Option SendFailure)
  | delete (i : ℕ) (dbOk : Bool)
  | connect
  | gameStart (now : ℕ) (dbOk : Bool)

/-- What was bought under a serial, and how often it was credited. -/
structure RefundHistory where
  world : RefundWorld
  purchases : ℕ → Option Purchase
  refunds : ℕ → ℕ

namespace RefundHistory

def step (h : RefundHistory) : RefundEvent → RefundHistory
  | .buy serial p =>
    if (h.purchases serial).isSome then h
    else
      { h with
        world := h.world.registerPurchase serial p
        purchases := Function.update h.purchases serial (some p) }
  | .play inventory knightCash tlBalance =>
    { h with world := { h.world with inventory, knightCash, tlBalance } }
  | .refund serial now failure =>
    let (world, outcome) := h.world.handleItemReturn serial now failure
    { h with
      world := world
      refunds :=
        if outcome.credited then Function.update h.refunds serial (h.refunds serial + 1)
        else h.refunds }
  | .delete i dbOk =>
    match h.world.deletions[i]? with
    | none => h
    | some serial =>
      let world := { h.world with deletions := h.world.deletions.eraseIdx i }
      { h with world := if dbOk then world.deletePurchase serial else world }
  | .connect =>
    { h with world := { h.world with pusRefundMap := fun _ => none, pusRefundLastTime := 0 } }
  | .gameStart now dbOk => { h with world := h.world.loadRefundList now dbOk }

structure Start (h : RefundHistory) : Prop where
  knightCash_lt : h.world.knightCash < 2 ^ 32
  tlBalance_lt : h.world.tlBalance < 2 ^ 32
  pusRefundMap : ∀ serial, h.world.pusRefundMap serial = none
  rows : h.world.rows = []
  purchases : ∀ serial, h.purchases serial = none
  refunds : ∀ serial, h.refunds serial = 0

end RefundHistory

end KoServer
