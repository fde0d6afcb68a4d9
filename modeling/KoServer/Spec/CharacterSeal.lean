import KoServer.Spec.Letter

/-! Sealing a character into a cypher ring and taking it out again, from
`handler/character_seal.rs` and `repositories/character_seal.rs`. A database call that fails ends
the request there; what the calls before it wrote stays. -/

namespace KoServer

def ITEM_SEAL_SCROLL : ℕ := 800111000
def ITEM_CYPHER_RING : ℕ := 800112000

/-- The row of a character in `userdata`. -/
structure UserData where
  nation : ℤ
  race : ℤ := 0
  classId : ℤ
  level : ℤ := 1
  rebirthLevel : ℤ := 0
  face : ℤ := 0
  hairRgb : ℤ := 0
  rank : ℤ := 0
  title : ℤ := 0
  exp : ℤ := 0
  loyalty : ℤ := 501
  loyaltyMonthly : ℤ := 0
  mannerPoint : ℤ := 0
  fame : ℤ := 0
  city : ℤ := 0
  knights : ℤ := 0
  hp : ℤ := 100
  mp : ℤ := 100
  sp : ℤ := 100
  strong : ℤ := 0
  sta : ℤ := 0
  dex : ℤ := 0
  intel : ℤ := 0
  cha : ℤ := 0
  rebStr : ℤ := 0
  rebSta : ℤ := 0
  rebDex : ℤ := 0
  rebIntel : ℤ := 0
  rebCha : ℤ := 0
  authority : ℤ := 1
  freePoints : ℤ := 0
  gold : ℤ := 0
  skillCat1 : ℤ := 0
  skillCat2 : ℤ := 0
  skillCat3 : ℤ := 0
  skillMaster : ℤ := 0
  zone : ℤ := 21
  deriving DecidableEq

structure CharacterSealItemRow where
  id : ℕ
  accountId : List Char
  charName : List Char
  race : ℤ
  classId : ℤ
  level : ℤ
  rebirthLevel : ℤ
  face : ℤ
  hairRgb : ℤ
  rank : ℤ
  title : ℤ
  exp : ℤ
  loyalty : ℤ
  loyaltyMonthly : ℤ
  mannerPoint : ℤ
  fame : ℤ
  city : ℤ
  knights : ℤ
  hp : ℤ
  mp : ℤ
  sp : ℤ
  zoneId : ℤ
  strong : ℤ
  sta : ℤ
  dex : ℤ
  intel : ℤ
  cha : ℤ
  authority : ℤ
  freePoints : ℤ
  gold : ℤ
  skillCat1 : ℤ
  skillCat2 : ℤ
  skillCat3 : ℤ
  skillMaster : ℤ
  inventoryData : Option (List ℕ)
  itemSerial : ℤ
  deriving DecidableEq

structure CharacterSealMappingRow where
  uniqueId : ℤ
  sealItemId : ℕ
  accountId : List Char
  deriving DecidableEq

/-- The row of the account in `account_char`; `str_char_id1` is slot 0. -/
structure AccountCharRow where
  bCharNum : ℤ
  strCharId : Fin 4 → Option (List Char)

structure SealWorld where
  accountChar : Option AccountCharRow
  userdata : List Char → Option UserData
  userItems : List Char → List UserItemSlot
  sealItems : List CharacterSealItemRow
  sealMapping : List CharacterSealMappingRow
  nextSealItemId : ℕ
  nextUniqueId : ℕ
  inventory : Inventory

structure SealPlayer where
  name : List Char
  nation : ℕ
  vipPassword : List Char
  accountId : Option (List Char)

/-- The database calls of the two requests, in their order. -/
inductive SealCall
  | getAccountChars | sealCharacter | nextUniqueId | createMapping | loadTarget | clearCharSlot
  | deleteUserItems | deleteUserData
  | getSealList | loadSealItem | unsealLoad | insertUserData | updateCharSlot | deleteSeal | saveItem
  deriving DecidableEq

inductive SealAnswer
  | silent
  | dbError
  | scrollError
  | ringError (code : ℕ)
  | sealed (srcSlot : ℕ) (uniqueId : ℕ) (name : List Char) (classId level race : ℕ)
  | restored (srcSlot : ℕ)
  deriving DecidableEq

/-- `INSERT INTO character_seal_items .. SELECT .. FROM userdata`. -/
def sealRow (id : ℕ) (accountId charName : List Char) (itemSerial : ℤ) (c : UserData) :
    CharacterSealItemRow where
  id := id
  accountId := accountId
  charName := charName
  race := c.race
  classId := c.classId
  level := c.level
  rebirthLevel := c.rebirthLevel
  face := c.face
  hairRgb := c.hairRgb
  rank := c.rank
  title := c.title
  exp := c.exp
  loyalty := c.loyalty
  loyaltyMonthly := c.loyaltyMonthly
  mannerPoint := c.mannerPoint
  fame := c.fame
  city := c.city
  knights := c.knights
  hp := c.hp
  mp := c.mp
  sp := c.sp
  zoneId := c.zone
  strong := c.strong
  sta := c.sta
  dex := c.dex
  intel := c.intel
  cha := c.cha
  authority := c.authority
  freePoints := c.freePoints
  gold := c.gold
  skillCat1 := c.skillCat1
  skillCat2 := c.skillCat2
  skillCat3 := c.skillCat3
  skillMaster := c.skillMaster
  inventoryData := none
  itemSerial := itemSerial

/-- The row that `unseal_character` inserts; the columns it does not name get their defaults. -/
def unsealRow (r : CharacterSealItemRow) : UserData where
  nation := if r.classId.tdiv 100 = 1 then 2 else 1
  race := r.race
  classId := r.classId
  level := r.level
  rebirthLevel := r.rebirthLevel
  face := r.face
  hairRgb := r.hairRgb
  rank := r.rank
  title := r.title
  exp := r.exp
  loyalty := r.loyalty
  loyaltyMonthly := r.loyaltyMonthly
  mannerPoint := r.mannerPoint
  fame := r.fame
  city := r.city
  knights := r.knights
  hp := r.hp
  mp := r.mp
  sp := r.sp
  strong := r.strong
  sta := r.sta
  dex := r.dex
  intel := r.intel
  cha := r.cha
  authority := r.authority
  freePoints := r.freePoints
  gold := r.gold
  skillCat1 := r.skillCat1
  skillCat2 := r.skillCat2
  skillCat3 := r.skillCat3
  skillMaster := r.skillMaster

namespace SealWorld

variable (w : SealWorld)

def sealCharacter (accountId charName : List Char) (itemSerial : ℤ) : Option (ℕ × SealWorld) :=
  match w.userdata charName with
  | none => none
  | some c =>
    -- The primary key of the table.
    if w.sealItems.any (·.id = w.nextSealItemId) then none
    else
      some (w.nextSealItemId,
        { w with
          sealItems := w.sealItems ++ [sealRow w.nextSealItemId accountId charName itemSerial c]
          nextSealItemId := w.nextSealItemId + 1 })

/-- The next value of the sequence, cast to an `i32`. -/
def newUniqueId : ℤ := asI32 w.nextUniqueId

def takeUniqueId : SealWorld := { w with nextUniqueId := w.nextUniqueId + 1 }

def createMapping (uniqueId : ℤ) (sealItemId : ℕ) (accountId : List Char) :
    Option (Unit × SealWorld) :=
  if w.sealMapping.any (·.uniqueId = uniqueId) then none
  else some ((), { w with sealMapping := w.sealMapping ++ [⟨uniqueId, sealItemId, accountId⟩] })

def clearCharSlot (slot : Fin 4) : SealWorld :=
  { w with
    accountChar := w.accountChar.map fun ac =>
      ⟨max (ac.bCharNum - 1) 0, Function.update ac.strCharId slot none⟩ }

def deleteUserItems (charName : List Char) : SealWorld :=
  { w with userItems := Function.update w.userItems charName [] }

def deleteUserData (charName : List Char) : SealWorld :=
  { w with
    userdata := Function.update w.userdata charName none
    userItems := Function.update w.userItems charName [] }

def getSealList (accountId : List Char) : List CharacterSealMappingRow :=
  w.sealMapping.filter (·.accountId = accountId)

def loadSealItemByUniqueId (uniqueId : ℤ) : Option CharacterSealItemRow :=
  (w.sealMapping.find? (·.uniqueId = uniqueId)).bind fun m =>
    w.sealItems.find? (·.id = m.sealItemId)

/-- The name is the primary key of the table. -/
def insertUserData (r : CharacterSealItemRow) : Option (Unit × SealWorld) :=
  match w.userdata r.charName with
  | some _ => none
  | none =>
    some ((), { w with userdata := Function.update w.userdata r.charName (some (unsealRow r)) })

def updateCharSlot (slot : Fin 4) (charName : List Char) : SealWorld :=
  { w with
    accountChar := w.accountChar.map fun ac =>
      ⟨ac.bCharNum + 1, Function.update ac.strCharId slot (some charName)⟩ }

def deleteSeal (uniqueId : ℤ) : SealWorld :=
  match w.sealMapping.find? (·.uniqueId = uniqueId) with
  | none => w
  | some m =>
    { w with
      sealItems := w.sealItems.filter (·.id ≠ m.sealItemId)
      sealMapping := w.sealMapping.filter (·.sealItemId ≠ m.sealItemId) }

end SealWorld

section

variable {α : Type*} (failing : Option SealCall)

/-- A call either fails or its statement runs, and the request goes on with what it answers. -/
def query (call : SealCall) (w : SealWorld) (answer : Option (α × SealWorld))
    (next : α → SealWorld → SealWorld × SealAnswer) : SealWorld × SealAnswer :=
  if failing = some call then (w, .dbError)
  else
    match answer with
    | none => (w, .dbError)
    | some (a, w) => next a w

def execute (call : SealCall) (w w' : SealWorld) (next : SealWorld → SealWorld × SealAnswer) :
    SealWorld × SealAnswer :=
  query failing call w (some ((), w')) fun _ w => next w

def fetch (call : SealCall) (w : SealWorld) (row : α) (next : α → SealWorld × SealAnswer) :
    SealWorld × SealAnswer :=
  query failing call w (some (row, w)) fun row _ => next row

end

def AccountCharRow.name (ac : AccountCharRow) (slot : Fin 4) : List Char :=
  (ac.strCharId slot).getD []

def AccountCharRow.position (ac : AccountCharRow) (targetName : List Char) : Option (Fin 4) :=
  (List.finRange 4).find? fun slot => eqIgnoreAsciiCase (ac.name slot) targetName

structure ScrollRequest where
  srcSlot : ℕ
  itemId : ℕ
  targetName : List Char
  password : List Char

structure RingRequest where
  srcSlot : ℕ
  itemId : ℕ
  targetSlot : ℕ

def ScrollRequest.check (req : ScrollRequest) (p : SealPlayer) (inv : Inventory) :
    Option (List Char × UserItemSlot) :=
  if req.targetName = [] ∨ eqIgnoreAsciiCase req.targetName p.name then none
  else if p.vipPassword ≠ req.password then none
  else if HAVE_MAX ≤ req.srcSlot then none
  else
    match inv[SLOT_MAX + req.srcSlot]? with
    | none => none
    | some slot =>
      if slot.itemId = ITEM_SEAL_SCROLL ∧ req.itemId = ITEM_SEAL_SCROLL ∧
          slot.flag = ITEM_FLAG_NONE then
        p.accountId.map fun accountId => (accountId, slot)
      else none

def becomeRing (absSlot : ℕ) (inv : Inventory) : Inventory :=
  inv.modify absSlot fun slot => { slot with itemId := ITEM_CYPHER_RING }

def sealTarget (failing : Option SealCall) (req : ScrollRequest) (accountId : List Char)
    (slot : UserItemSlot) (charSlotIdx : Fin 4) (w : SealWorld) : SealWorld × SealAnswer :=
  query failing .sealCharacter w
      (w.sealCharacter accountId req.targetName (asI64 slot.serialNum)) fun sealId w =>
  query failing .nextUniqueId w (some (w.newUniqueId, w.takeUniqueId)) fun uniqueId w =>
  query failing .createMapping w (w.createMapping uniqueId sealId accountId) fun _ w =>
  fetch failing .loadTarget w (w.userdata req.targetName) fun targetChar =>
  execute failing .clearCharSlot w (w.clearCharSlot charSlotIdx) fun w =>
  execute failing .deleteUserItems w (w.deleteUserItems req.targetName) fun w =>
  execute failing .deleteUserData w (w.deleteUserData req.targetName) fun w =>
  ({ w with inventory := becomeRing (SLOT_MAX + req.srcSlot) w.inventory },
    match targetChar with
    | some tc =>
      .sealed req.srcSlot (asU32 uniqueId) req.targetName (asU8 tc.classId) (asU8 tc.level)
        (asU8 tc.race)
    | none => .sealed req.srcSlot (asU32 uniqueId) req.targetName 0 0 0)

def handleUseScroll (failing : Option SealCall) (p : SealPlayer) (req : ScrollRequest)
    (w : SealWorld) : SealWorld × SealAnswer :=
  match req.check p w.inventory with
  | none => (w, .scrollError)
  | some (accountId, slot) =>
    fetch failing .getAccountChars w w.accountChar fun ac =>
    match ac.bind (·.position req.targetName) with
    | none => (w, .scrollError)
    | some charSlotIdx => sealTarget failing req accountId slot charSlotIdx w

def clearRing (absSlot : ℕ) (inv : Inventory) : Inventory :=
  inv.modify absSlot fun slot =>
    { slot with itemId := 0, durability := 0, count := 0, flag := 0, serialNum := 0 }

/-- `unseal_character`, which goes on with the name only where there is a sealed character. -/
def unsealCharacter (failing : Option SealCall) (uniqueId : ℤ) (slot : Fin 4) (w : SealWorld)
    (next : Bool → SealWorld → SealWorld × SealAnswer) : SealWorld × SealAnswer :=
  fetch failing .unsealLoad w (w.loadSealItemByUniqueId uniqueId) fun sealItem =>
  match sealItem with
  | none => next false w
  | some r =>
    query failing .insertUserData w (w.insertUserData r) fun _ w =>
    execute failing .updateCharSlot w (w.updateCharSlot slot r.charName) fun w =>
    execute failing .deleteSeal w (w.deleteSeal uniqueId) fun w =>
    next true w

def otherNation (p : SealPlayer) (sealItem : Option CharacterSealItemRow) : Bool :=
  match sealItem with
  | some r => asU8 (r.classId.tdiv 100) ≠ p.nation
  | none => false

/-- A ring in a bag slot, into an empty character slot. The save of the cleared bag slot only
warns where it fails. -/
def useRingIn (failing : Option SealCall) (p : SealPlayer) (req : RingRequest)
    (accountId : List Char) (slot : Fin 4) (w : SealWorld) : SealWorld × SealAnswer :=
  fetch failing .getSealList w (w.getSealList accountId) fun mappings =>
  match mappings.head? with
  | none => (w, .ringError 0)
  | some m =>
    fetch failing .loadSealItem w (w.loadSealItemByUniqueId m.uniqueId) fun sealItem =>
    if otherNation p sealItem then (w, .ringError 0)
    else
      unsealCharacter failing m.uniqueId slot w fun restored w =>
        if restored then
          ({ w with inventory := clearRing (SLOT_MAX + req.srcSlot) w.inventory },
            .restored req.srcSlot)
        else (w, .ringError 0)

def RingRequest.holdsRing (req : RingRequest) (inv : Inventory) : Bool :=
  match inv[SLOT_MAX + req.srcSlot]? with
  | some slot => slot.itemId = ITEM_CYPHER_RING ∧ slot.flag = ITEM_FLAG_NONE
  | none => false

theorem RingRequest.targetSlot_lt {req : RingRequest}
    (h : ¬(HAVE_MAX ≤ req.srcSlot ∨ req.itemId ≠ ITEM_CYPHER_RING ∨ 4 ≤ req.targetSlot)) :
    req.targetSlot < 4 := by
  omega

def handleUseRing (failing : Option SealCall) (p : SealPlayer) (req : RingRequest)
    (w : SealWorld) : SealWorld × SealAnswer :=
  if h : HAVE_MAX ≤ req.srcSlot ∨ req.itemId ≠ ITEM_CYPHER_RING ∨ 4 ≤ req.targetSlot then
    (w, .silent)
  else
    have hslot : req.targetSlot < 4 := RingRequest.targetSlot_lt h
    if !req.holdsRing w.inventory then (w, .ringError 0)
    else
      match p.accountId with
      | none => (w, .ringError 0)
      | some accountId =>
        fetch failing .getAccountChars w w.accountChar fun ac =>
        match ac with
        | none => (w, .ringError 0)
        | some ac =>
          if ac.name ⟨req.targetSlot, hslot⟩ ≠ [] then (w, .ringError 3)
          else useRingIn failing p req accountId ⟨req.targetSlot, hslot⟩ w

inductive CharacterSealRequest
  | useScroll (req : ScrollRequest)
  | useRing (req : RingRequest)

def handleSeal (failing : Option SealCall) (p : SealPlayer) (w : SealWorld) :
    CharacterSealRequest → SealWorld × SealAnswer
  | .useScroll req => handleUseScroll failing p req w
  | .useRing req => handleUseRing failing p req w

end KoServer
