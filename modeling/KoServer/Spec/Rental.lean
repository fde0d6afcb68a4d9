import Mathlib.Logic.Function.Basic
import KoServer.Lib.Rows
import KoServer.Spec.Merchant
import KoServer.Spec.NpcTrade
import KoServer.Spec.Trade

/-! Renting items out, from `handler/rental.rs` and the catalog of `world/tables.rs`. Between a
request's awaits it runs on the whole world at once; a session's next request waits until the one
before it has ended. -/

namespace KoServer

/-- `MAX_RENTAL_ITEMS_PER_USER` -/
def MAX_RENTAL_ITEMS_PER_USER : ℤ := 10

/-- A character's name, which `handle` of `newchar.rs` refuses where it is empty. The name stands
for the session the character is in. -/
abbrev RenterName := { name : List Char // name ≠ [] }

structure RentalItemRow where
  rentalIndex : ℤ
  itemIndex : ℤ
  durability : ℤ
  serialNumber : ℤ
  rentalTime : ℤ
  rentalMoney : ℤ
  lenderCharId : List Char
  borrowerCharId : List Char
  deriving DecidableEq

/-- What the requests read and change of a character in game. -/
structure Renter where
  gold : ℕ
  inventory : Inventory
  inRange : ∀ s ∈ inventory, s.itemId < 2 ^ 32 ∧ s.serialNum < 2 ^ 64

/-- A `rental_register` that waits for `count_by_user`. -/
structure PendingRegister where
  slot : ℕ
  item : UserItemSlot
  rentalTime : ℕ
  rentalMoney : ℕ
  deriving DecidableEq

structure RentalWorld where
  renters : RenterName → Option Renter
  rentalItems : ℤ → Option RentalItemRow
  rentalIndexCounter : ℤ
  pending : RenterName → Option PendingRegister

inductive RentalAnswer
  | silent
  | failed
  | succeeded
  deriving DecidableEq

structure RegisterRequest where
  slot : ℕ
  rentalTime : ℕ
  rentalMoney : ℕ
  rentalMoney_lt : rentalMoney < 2 ^ 32

/-- What `count_by_user` gives. -/
inductive CountByUser
  | noPool
  | dbError
  | rows (n : ℤ)
  deriving DecidableEq

def RentalItemRow.isItem (row : RentalItemRow) (s : UserItemSlot) : Bool :=
  s.itemId = asU32 row.itemIndex && s.serialNum = asU64 row.serialNumber

def RentalItemRow.isRented (row : RentalItemRow) (s : UserItemSlot) : Bool :=
  row.isItem s && s.flag = ITEM_FLAG_RENTED

/-- What `rental_lend` writes into the free slot. -/
def RentalItemRow.lentInto (row : RentalItemRow) (s : UserItemSlot) : UserItemSlot :=
  { s with
    itemId := asU32 row.itemIndex
    durability := row.durability
    count := 1
    flag := ITEM_FLAG_RENTED
    serialNum := asU64 row.serialNumber
    expireTime := 0 }

namespace Renter

def setFlag (r : Renter) (k flag : ℕ) : Renter where
  gold := r.gold
  inventory := r.inventory.modify k fun s => { s with flag }
  inRange := Rows.forall_mem_modify _ k r.inRange fun _ h => h

def receive (r : Renter) (k : ℕ) (row : RentalItemRow) : Renter where
  gold := r.gold
  inventory := r.inventory.modify k row.lentInto
  inRange := Rows.forall_mem_modify _ k r.inRange fun _ _ => ⟨asU32_lt _, asU64_lt _⟩

/-- `ch.gold.saturating_sub` -/
def pay (r : Renter) (amount : ℕ) : Renter := { r with gold := r.gold - amount }

/-- The loop of `rental_item_cancel`: the first rented slot of the item gets flag 0. -/
def release (r : Renter) (row : RentalItemRow) : Renter :=
  match r.inventory.findIdx? row.isRented with
  | none => r
  | some k => r.setFlag k 0

end Renter

namespace RentalWorld

/-- `next_rental_index`; the counter is an `AtomicI32`. -/
def nextRentalIndex (s : RentalWorld) : ℤ := asI32 (s.rentalIndexCounter + 1)

def setRenter (s : RentalWorld) (name : RenterName) (r : Renter) : RentalWorld :=
  { s with renters := Function.update s.renters name (some r) }

def setRow (s : RentalWorld) (rentalIndex : ℤ) (row : Option RentalItemRow) : RentalWorld :=
  { s with rentalItems := Function.update s.rentalItems rentalIndex row }

def setPending (s : RentalWorld) (name : RenterName) (p : Option PendingRegister) : RentalWorld :=
  { s with pending := Function.update s.pending name p }

/-- `rental_register` up to `count_by_user`. -/
def rentalRegister (s : RentalWorld) (name : RenterName) (hasAccount : Bool)
    (req : RegisterRequest) : RentalWorld × RentalAnswer :=
  if req.slot < SLOT_MAX ∨ SLOT_MAX + HAVE_MAX ≤ req.slot then (s, .failed)
  else
    match (s.renters name).bind (·.inventory[req.slot]?) with
    | none => (s, .failed)
    | some item =>
      if item.itemId = 0 then (s, .failed)
      else if item.flag ≠ 0 then (s, .failed)
      else if !hasAccount then (s, .failed)
      else (s.setPending name (some ⟨req.slot, item, req.rentalTime, req.rentalMoney⟩), .silent)

/-- A failed query counts as 0; without a pool nothing is counted. -/
def countRefused : CountByUser → Bool
  | .noPool => false
  | .dbError => decide (MAX_RENTAL_ITEMS_PER_USER ≤ 0)
  | .rows n => decide (MAX_RENTAL_ITEMS_PER_USER ≤ n)

/-- The row that `rental_register` inserts into the catalog. -/
def catalogRow (rentalIndex : ℤ) (name : RenterName) (p : PendingRegister) : RentalItemRow where
  rentalIndex := rentalIndex
  itemIndex := asI32 p.item.itemId
  durability := p.item.durability
  serialNumber := asI64 p.item.serialNum
  rentalTime := Int.bmod p.rentalTime (2 ^ 16)
  rentalMoney := asI32 p.rentalMoney
  lenderCharId := name
  borrowerCharId := []

/-- `rental_register` from the answer of `count_by_user` on. -/
def rentalListed (table : ItemTable) (s : RentalWorld) (name : RenterName) (p : PendingRegister)
    (count : CountByUser) : RentalWorld × RentalAnswer :=
  if countRefused count then (s, .failed)
  else
    let rentalIndex := s.nextRentalIndex
    let s := { s with rentalIndexCounter := rentalIndex }
    match table p.item.itemId with
    | none => (s, .failed)
    | some _ =>
      match s.renters name with
      | none => (s, .failed)
      | some r =>
        match r.inventory[p.slot]? with
        | none => (s, .failed)
        | some slot =>
          if slot.itemId = p.item.itemId ∧ slot.serialNum = p.item.serialNum then
            ((s.setRenter name (r.setFlag p.slot ITEM_FLAG_RENTED)).setRow rentalIndex
              (some (catalogRow rentalIndex name p)), .succeeded)
          else (s, .failed)

def rentalLend (s : RentalWorld) (name : RenterName) (hasAccount : Bool) (index : ℕ) :
    RentalWorld × RentalAnswer :=
  let rentalIndex := asI32 index
  match s.rentalItems rentalIndex with
  | none => (s, .failed)
  | some row =>
    if row.borrowerCharId ≠ [] then (s, .failed)
    else
      match s.renters name with
      | none => (s, .failed)
      | some r =>
        if !hasAccount then (s, .failed)
        else if name.val = row.lenderCharId then (s, .failed)
        else if r.gold < asU32 row.rentalMoney then (s, .failed)
        else
          match bagSlots.find? (freeSlot r.inventory) with
          | none => (s, .failed)
          | some slot =>
            ((s.setRenter name ((r.receive slot row).pay (asU32 row.rentalMoney))).setRow
              rentalIndex (some { row with borrowerCharId := name }), .succeeded)

def rentalItemCancel (s : RentalWorld) (name : RenterName) (index : ℕ) :
    RentalWorld × RentalAnswer :=
  let rentalIndex := asI32 index
  match s.renters name with
  | none => (s, .failed)
  | some r =>
    match s.rentalItems rentalIndex with
    | none => (s, .failed)
    | some row =>
      if row.lenderCharId ≠ name.val ∨ row.borrowerCharId ≠ [] then (s, .failed)
      else ((s.setRenter name (r.release row)).setRow rentalIndex none, .succeeded)

end RentalWorld

/-- What happens between two awaits. `admitted`: the session is in game and its character alive. -/
inductive RentalEvent
  | register (name : RenterName) (admitted hasAccount : Bool) (req : RegisterRequest)
  | counted (name : RenterName) (count : CountByUser)
  | lend (name : RenterName) (admitted hasAccount : Bool) (index : ℕ)
  | cancel (name : RenterName) (admitted : Bool) (index : ℕ)

namespace RentalWorld

/-- A request whose session has one under way is not read yet. -/
def step (table : ItemTable) (s : RentalWorld) : RentalEvent → RentalWorld × RentalAnswer
  | .register name admitted hasAccount req =>
    if !admitted || (s.pending name).isSome then (s, .silent)
    else s.rentalRegister name hasAccount req
  | .counted name count =>
    match s.pending name with
    | none => (s, .silent)
    | some p => rentalListed table (s.setPending name none) name p count
  | .lend name admitted hasAccount index =>
    if !admitted || (s.pending name).isSome then (s, .silent)
    else s.rentalLend name hasAccount index
  | .cancel name admitted index =>
    if !admitted || (s.pending name).isSome then (s, .silent)
    else s.rentalItemCancel name index

end RentalWorld

/-- A listing as it was made, beside the row of the catalog, and who has borrowed it since. -/
structure Listing where
  lender : RenterName
  slot : ℕ
  flag : ℕ
  price : ℕ
  takers : List RenterName
  deriving DecidableEq

structure RentalHistory where
  world : RentalWorld
  listings : ℤ → Option Listing

namespace RentalHistory

def record (h : RentalHistory) : RentalEvent → ℤ → Option Listing
  | .counted name _ =>
    match h.world.pending name with
    | none => h.listings
    | some p =>
      Function.update h.listings h.world.nextRentalIndex
        (some ⟨name, p.slot, p.item.flag, p.rentalMoney, []⟩)
  | .lend name _ _ index =>
    Function.update h.listings (asI32 index)
      ((h.listings (asI32 index)).map fun l => { l with takers := l.takers ++ [name] })
  | .cancel _ _ index => Function.update h.listings (asI32 index) none
  | .register .. => h.listings

def step (table : ItemTable) (h : RentalHistory) (e : RentalEvent) : RentalHistory where
  world := (h.world.step table e).1
  listings := if (h.world.step table e).2 = .succeeded then h.record e else h.listings

structure Start (h : RentalHistory) : Prop where
  rentalItems : ∀ i, h.world.rentalItems i = none
  listings : ∀ i, h.listings i = none
  pending : ∀ name, h.world.pending name = none

end RentalHistory

end KoServer
