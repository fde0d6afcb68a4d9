import KoServer.Spec.Merchant
import KoServer.Spec.NpcTrade
import KoServer.Spec.Party

/-! Letters with an item and coins, from `handler/letter.rs` and `repositories/letter.rs`. The
database calls of an operation come one after the other; one that fails ends it there. -/

namespace KoServer

def LETTER_GET_ITEM : ℕ := 4
def LETTER_SEND : ℕ := 6
def LETTER_DELETE : ℕ := 7

def LETTER_COST_TEXT : ℕ := 1000
def LETTER_COST_ITEM : ℕ := 10000
def MAX_DELETE_COUNT : ℕ := 5
def ZONE_KNIGHT_ROYALE : ℕ := 76

structure LetterRow where
  senderName : List Char
  recipientName : List Char
  subject : List Char
  message : List Char
  bType : ℤ
  itemId : ℤ
  itemCount : ℤ
  itemDurability : ℤ
  itemSerial : ℤ
  itemExpiry : ℤ
  coins : ℤ
  sendDate : ℤ
  bDeleted : Bool := false
  itemTaken : Bool := false
  deriving DecidableEq

structure MailCharacter where
  name : List Char
  inventory : Inventory
  gold : ℕ
  deriving DecidableEq

structure MailState where
  characters : List MailCharacter
  letters : List LetterRow
  /-- The names of all characters there are. -/
  userdata : List (List Char)
  nextItemSerial : ℕ
  deriving DecidableEq

def MailState.setCharacter (s : MailState) (who : ℕ) (c : MailCharacter) : MailState :=
  { s with characters := s.characters.set who c }

/-- What an operation reads of the player besides. -/
structure LetterEnv where
  inGame : Bool
  isPlayerDead : Bool
  isMerchanting : Bool
  isTrading : Bool
  isMining : Bool
  isFishing : Bool
  zoneId : ℕ
  itemWeight : ℕ
  maxWeight : ℕ
  /-- The seconds of the clock, a `u32`. -/
  now : ℕ
  sendDate : ℤ

/-- Which of the database calls of an operation fail, in their order. -/
abbrev DbFaults := ℕ → Bool

inductive LetterReply
  | ignored
  | dbError
  | result (code : ℤ)
  | deleted (letterIds : List ℕ)
  deriving DecidableEq

structure Attachment where
  itemId : ℕ := 0
  srcPos : ℕ := 0
  coins : ℕ := 0
  itemCount : ℕ := 0
  itemDurability : ℤ := 0
  itemSerial : ℕ := 0
  itemExpiry : ℕ := 0

def attachmentLocked (itemDef : Item) (slot : UserItemSlot) : Bool :=
  itemDef.race.getD 0 = RACE_UNTRADEABLE || ITEM_GOLD ≤ slot.itemId ||
  slot.flag = ITEM_FLAG_SEALED || slot.flag = ITEM_FLAG_RENTED || slot.flag = ITEM_FLAG_BOUND ||
  slot.flag = ITEM_FLAG_DUPLICATE || 0 < slot.expireTime

/-- The fields of a letter of type 2, with their checks. -/
def readAttachment (table : ItemTable) (c : MailCharacter) (reader : PacketReader) :
    Except ℤ (Attachment × PacketReader) :=
  let (itemId, reader) := reader.readU32D
  let (srcPos, reader) := reader.readU8D
  let (coins, reader) := reader.readU32D
  if HAVE_MAX ≤ srcPos then .error (-1)
  else
    match table itemId with
    | none => .error (-1)
    | some itemDef =>
      match c.inventory[SLOT_MAX + srcPos]? with
      | none => .error (-1)
      | some slot =>
        if slot.itemId ≠ itemId then .error (-1)
        else if attachmentLocked itemDef slot then .error (-32)
        else
          .ok (⟨itemId, srcPos, coins, slot.count, slot.durability, slot.serialNum, slot.expireTime⟩,
            reader)

def readText (limit : ℕ) (reader : PacketReader) : Option (List Char × PacketReader) :=
  match reader.readSbyteString with
  | none => none
  | some (text, reader) =>
    if text ≠ [] ∧ (asBytes text).length ≤ limit then some (text, reader) else none

def eqIgnoreAsciiCase (a b : List Char) : Bool := a.map Char.toLower = b.map Char.toLower

structure SendRequest where
  recipient : List Char
  subject : List Char
  bType : ℕ
  attachment : Attachment
  message : List Char

def readSend (table : ItemTable) (c : MailCharacter) (reader : PacketReader) :
    Except ℤ SendRequest :=
  match readText 20 reader with
  | none => .error (-1)
  | some (recipient, reader) =>
    match readText 31 reader with
    | none => .error (-1)
    | some (subject, reader) =>
      let (bType, reader) := reader.readU8D
      if bType = 0 ∨ 2 < bType then .error (-1)
      else if eqIgnoreAsciiCase recipient c.name then .error (-6)
      else
        match if bType = 2 then readAttachment table c reader else .ok ({}, reader) with
        | .error code => .error code
        | .ok (attachment, reader) =>
          match readText 128 reader with
          | none => .error (-1)
          | some (message, _) => .ok ⟨recipient, subject, bType, attachment, message⟩

/-- The row of `send_letter`, with its casts. -/
def newLetter (env : LetterEnv) (c : MailCharacter) (req : SendRequest) : LetterRow where
  senderName := c.name
  recipientName := req.recipient
  subject := req.subject
  message := req.message
  bType := req.bType
  itemId := asI32 req.attachment.itemId
  itemCount := asI16 req.attachment.itemCount
  itemDurability := req.attachment.itemDurability
  itemSerial := asI64 req.attachment.itemSerial
  itemExpiry := asI32 req.attachment.itemExpiry
  coins := asI32 req.attachment.coins
  sendDate := env.sendDate

def removeAttached (inv : Inventory) (invPos itemId : ℕ) : Inventory :=
  if invPos < inv.length ∧ (inv.slot invPos).itemId = itemId then inv.set invPos {} else inv

def handleSend (table : ItemTable) (env : LetterEnv) (fails : DbFaults) (s : MailState) (who : ℕ)
    (c : MailCharacter) (reader : PacketReader) : LetterReply × MailState :=
  if !env.inGame || env.isMerchanting || env.isTrading || env.isMining || env.isFishing then
    (.result (-1), s)
  else if env.zoneId = ZONE_KNIGHT_ROYALE then (.result (-1), s)
  else
    match readSend table c reader with
    | .error code => (.result code, s)
    | .ok req =>
      let att := req.attachment
      let goldCost := if req.bType = 2 ∧ att.itemId ≠ 0 then LETTER_COST_ITEM else LETTER_COST_TEXT
      if c.gold < goldCost ∨ c.gold < saturatingAdd32 goldCost att.coins then (.result (-3), s)
      -- `SELECT COUNT(*)`, then `INSERT`
      else if fails 0 then (.dbError, s)
      else if req.recipient ∉ s.userdata then (.result (-2), s)
      else if fails 1 then (.dbError, s)
      else
        let s := { s with letters := s.letters ++ [newLetter env c req] }
        let totalGoldCost := if 0 < att.coins then saturatingAdd32 goldCost att.coins else goldCost
        match goldLose c.gold totalGoldCost with
        | none => (.result (-3), s)
        | some gold =>
          let inventory :=
            if req.bType = 2 ∧ att.itemId ≠ 0 then
              removeAttached c.inventory (SLOT_MAX + att.srcPos) att.itemId
            else c.inventory
          (.result 1, s.setCharacter who { c with inventory := inventory, gold := gold })

/-- The row of an id; from `2 ^ 31` on it is negative as an `i32`, and no row has it. -/
def letterAt (letters : List LetterRow) (letterId : ℕ) : Option LetterRow :=
  if 2 ^ 31 ≤ letterId then none else letters[letterId]?

/-- `UPDATE letter ... WHERE letter_id = $1 AND recipient_name = $2`. -/
def updateLetter (letters : List LetterRow) (recipient : List Char) (letterId : ℕ)
    (f : LetterRow → LetterRow) : List LetterRow :=
  match letterAt letters letterId with
  | none => letters
  | some row => if row.recipientName = recipient then letters.set letterId (f row) else letters

def getItemFromLetter (letters : List LetterRow) (recipient : List Char) (letterId : ℕ) :
    Option LetterRow :=
  (letterAt letters letterId).filter fun row =>
    row.recipientName = recipient && !row.bDeleted && !row.itemTaken

def markItemTaken (letters : List LetterRow) (recipient : List Char) (letterId : ℕ) :
    List LetterRow :=
  updateLetter letters recipient letterId fun row => { row with itemTaken := true }

def hasEmptyInventorySlot (inv : Inventory) : Bool := bagSlots.any (freeSlot inv)

def receivedSlot (env : LetterEnv) (letter : LetterRow) (serial : ℕ) (slot : UserItemSlot) :
    UserItemSlot :=
  let expiryDays := letter.itemExpiry.toNat
  { slot with
    itemId := asU32 letter.itemId
    count := min ((slot.count + letter.itemCount.toNat) % 2 ^ 16) ITEMCOUNT_MAX
    durability := Int.bmod (slot.durability + letter.itemDurability.toNat) (2 ^ 16)
    serialNum := serial
    expireTime := if 0 < expiryDays then (env.now + 86400 * expiryDays) % 2 ^ 32 else 0 }

def grantLetter (table : ItemTable) (env : LetterEnv) (nextItemSerial : ℕ) (c : MailCharacter)
    (letter : LetterRow) : Except ℤ (MailCharacter × ℕ) :=
  let itemId := asU32 letter.itemId
  let count := letter.itemCount.toNat
  let coins := letter.coins.toNat
  let gold := if 0 < coins then goldGain c.gold coins else c.gold
  if itemId = 0 ∧ coins = 0 then .error (-1)
  else if itemId ≠ 0 then
    match table itemId with
    | none => .error (-1)
    | some itemDef =>
      match findSlotForItem table c.inventory itemId count with
      | none => .error (-2)
      | some pos =>
        let addWeight := asU32 (itemDef.weight.getD 0) * count % 2 ^ 32
        if !hasEmptyInventorySlot c.inventory then .error (-1)
        else if env.maxWeight < (env.itemWeight + addWeight) % 2 ^ 32 then .error (-5)
        else if 0 < coins ∧ COIN_MAX < c.gold + coins then .error (-1)
        else
          let serial := asU64 letter.itemSerial
          let (actualSerial, nextItemSerial) :=
            if serial ≠ 0 then (serial, nextItemSerial)
            else (nextItemSerial, (nextItemSerial + 1) % 2 ^ 64)
          if c.inventory.length ≤ pos then .error (-1)
          else
            let slot := receivedSlot env letter actualSerial (c.inventory.slot pos)
            .ok ({ c with inventory := c.inventory.set pos slot, gold := gold }, nextItemSerial)
  else if COIN_MAX < c.gold + coins then .error (-1)
  else .ok ({ c with gold := gold }, nextItemSerial)

def handleGetItem (table : ItemTable) (env : LetterEnv) (fails : DbFaults) (s : MailState)
    (who : ℕ) (c : MailCharacter) (reader : PacketReader) : LetterReply × MailState :=
  if env.isMerchanting || env.isTrading then (.result (-1), s)
  else if env.zoneId ∈ [ZONE_KNIGHT_ROYALE, ZONE_CHAOS_DUNGEON, ZONE_DUNGEON_DEFENCE] then
    (.result (-1), s)
  else
    let letterId := reader.readU32D.1
    if fails 0 then (.dbError, s)
    else
      match getItemFromLetter s.letters c.name letterId with
      | none => (.result (-1), s)
      | some letter =>
        match grantLetter table env s.nextItemSerial c letter with
        | .error code => (.result code, s)
        | .ok (c', nextItemSerial) =>
          let s := { s.setCharacter who c' with nextItemSerial := nextItemSerial }
          -- the player has it by now, whether the mark succeeds or not
          if fails 1 then (.dbError, s)
          else (.result 1, { s with letters := markItemTaken s.letters c.name letterId })

def readLetterIds : ℕ → PacketReader → List ℕ
  | 0, _ => []
  | n + 1, reader => reader.readU32D.1 :: readLetterIds n reader.readU32D.2

/-- From the `k`-th call on, and whether all succeeded. -/
def deleteLetters (fails : DbFaults) (recipient : List Char) :
    ℕ → List ℕ → List LetterRow → Bool × List LetterRow
  | _, [], letters => (true, letters)
  | k, letterId :: ids, letters =>
    if fails k then (false, letters)
    else
      deleteLetters fails recipient (k + 1) ids
        (updateLetter letters recipient letterId fun row => { row with bDeleted := true })

def handleDelete (fails : DbFaults) (s : MailState) (c : MailCharacter) (reader : PacketReader) :
    LetterReply × MailState :=
  let (count, reader) := reader.readU8D
  if MAX_DELETE_COUNT < count then (.result (-3), s)
  else
    let letterIds := readLetterIds count reader
    let (done, letters) := deleteLetters fails c.name 0 letterIds s.letters
    (if done then .deleted letterIds else .dbError, { s with letters := letters })

/-- The requests that are left out only list letters or mark them as read. -/
def handleLetter (table : ItemTable) (env : LetterEnv) (fails : DbFaults) (s : MailState) (who : ℕ)
    (data : List UInt8) : LetterReply × MailState :=
  if !env.inGame || env.isPlayerDead then (.ignored, s)
  else
    let (letterOpcode, reader) := (PacketReader.new data).readU8D
    match s.characters[who]? with
    | none => (.ignored, s)
    | some c =>
      if letterOpcode = LETTER_SEND then handleSend table env fails s who c reader
      else if letterOpcode = LETTER_GET_ITEM then handleGetItem table env fails s who c reader
      else if letterOpcode = LETTER_DELETE then handleDelete fails s c reader
      else (.ignored, s)

structure MailStep where
  who : ℕ
  env : LetterEnv
  data : List UInt8
  fails : DbFaults

def mailStep (table : ItemTable) (s : MailState) (i : MailStep) : MailState :=
  (handleLetter table i.env i.fails s i.who i.data).2

end KoServer
