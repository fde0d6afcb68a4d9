import KoServer.Spec.Letter
import KoServer.Spec.NpcBuy

/-! The king's funds: `handle_tax` and `handle_event` of `handler/king.rs`, and what a taxed purchase
pays in. A request reads the king record, may give gold to a character, and then writes the record.
A session takes its next request when the last one is done. -/

namespace KoServer

def KING_TAX : ℕ := 3
def KING_EVENT_OPCODE : ℕ := 4
def KING_EVENT_NOAH : ℕ := 1
def KING_EVENT_EXP : ℕ := 2
def KING_EVENT_PRIZE : ℕ := 3
def KING_EVENT_WEATHER : ℕ := 5

/-- The local time that an event starts at. -/
structure EventClock where
  day : ℕ
  hour : ℕ
  minute : ℕ
deriving DecidableEq

structure RoyalEvent where
  amount : ℕ
  start : EventClock
  /-- In minutes. -/
  duration : ℕ
deriving DecidableEq

structure KingSystem extends KingTaxes where
  kingName : List Char
  noahEvent : Option RoyalEvent
  expEvent : Option RoyalEvent

structure Citizen where
  name : List Char
  nation : ℕ
  gold : ℕ
deriving DecidableEq

inductive RoyalRequest
  | collectTax
  | noah (amount : ℕ)
  | exp (amount : ℕ)
  | prize (coins : ℕ) (targetName : List Char)
  | weather (weatherType amount : ℕ)
deriving DecidableEq

structure RoyalTask where
  sid : ℕ
  nation : ℕ
  request : RoyalRequest
  now : EventClock
  /-- The territory tax for a collection, the treasury for an event. -/
  snapshot : ℕ
  payee : Option ℕ
  paid : Bool
deriving DecidableEq

structure RoyalWorld where
  kingSystems : ℕ → Option KingSystem
  citizens : ℕ → Option Citizen
  /-- It may lead to a session that is gone. -/
  findSessionByName : List Char → Option ℕ
  inFlight : List RoyalTask

inductive RoyalStep
  | request (sid : ℕ) (now : EventClock) (data : List UInt8)
  /-- The gold to the one who gets it. -/
  | pay (sid : ℕ)
  | write (sid : ℕ)
  /-- The end of a purchase by a character of the nation. -/
  | purchase (nation totalKingTax : ℕ)

def readChoice (limit : ℕ → Bool) (reader : PacketReader) : Option (ℕ × PacketReader) :=
  reader.readU8.filter fun v => limit v.1

/-- `handle_event`. A fugitive or a notice touches no funds. -/
def readRoyalEvent (reader : PacketReader) : Option RoyalRequest :=
  match reader.readU8 with
  | none => none
  | some (eventOpcode, reader) =>
    if eventOpcode = KING_EVENT_NOAH then
      (readChoice (fun v => 1 ≤ v && v ≤ 3) reader).map fun v => .noah v.1
    else if eventOpcode = KING_EVENT_EXP then
      (readChoice (fun v => v = 10 || v = 30 || v = 50) reader).map fun v => .exp v.1
    else if eventOpcode = KING_EVENT_PRIZE then
      match reader.readU32 with
      | none => none
      | some (coins, reader) =>
        if coins = 0 then none else (readText 21 reader).map fun v => .prize coins v.1
    else if eventOpcode = KING_EVENT_WEATHER then
      match readChoice (fun v => 1 ≤ v && v ≤ 3) reader with
      | none => none
      | some (weatherType, reader) =>
        (readChoice (fun v => 0 < v && v ≤ 100) reader).map fun v => .weather weatherType v.1
    else none

/-- Of `handle_tax` only the collection. -/
def readRoyalRequest (reader : PacketReader) : Option RoyalRequest :=
  match reader.readU8 with
  | none => none
  | some (subOpcode, reader) =>
    if subOpcode = KING_TAX then
      match reader.readU8 with
      | none => none
      | some (taxOpcode, _) => if taxOpcode = 2 then some .collectTax else none
    else if subOpcode = KING_EVENT_OPCODE then readRoyalEvent reader
    else none

/-- What a request takes out of the funds it has read. -/
def RoyalTask.amount (t : RoyalTask) : ℕ :=
  match t.request with
  | .collectTax => t.snapshot
  | .noah amount => 30000000 * amount
  | .exp amount => 30000000 * amount
  | .prize coins _ => coins
  | .weather _ _ => 100000

def KingSystem.write (ks : KingSystem) (t : RoyalTask) : KingSystem :=
  let newTreasury := t.snapshot - t.amount
  match t.request with
  | .collectTax => { ks with territoryTax := 0 }
  | .noah amount =>
    { ks with nationalTreasury := newTreasury, noahEvent := some ⟨amount, t.now, 30⟩ }
  | .exp amount => { ks with nationalTreasury := newTreasury, expEvent := some ⟨amount, t.now, 30⟩ }
  | .prize _ _ => { ks with nationalTreasury := newTreasury }
  | .weather _ _ => { ks with nationalTreasury := newTreasury }

/-- The shares of a purchase, `as u32`. -/
def treasuryShare (totalKingTax : ℕ) : ℕ := (totalKingTax * 80 / 100) % 2 ^ 32

def territoryShare (totalKingTax : ℕ) : ℕ := (totalKingTax * 20 / 100) % 2 ^ 32

def KingTaxes.deposit (ks : KingTaxes) (totalKingTax : ℕ) : KingTaxes :=
  { ks with
    nationalTreasury :=
      min (saturatingAdd32 ks.nationalTreasury (treasuryShare totalKingTax)) COIN_MAX
    territoryTax := min (saturatingAdd32 ks.territoryTax (territoryShare totalKingTax)) COIN_MAX }

def KingSystem.deposit (ks : KingSystem) (totalKingTax : ℕ) : KingSystem :=
  { ks with toKingTaxes := ks.toKingTaxes.deposit totalKingTax }

namespace RoyalWorld

variable (s : RoyalWorld)

def isKing (nation : ℕ) (name : List Char) : Bool :=
  (s.kingSystems nation).any fun ks => ks.kingName ≠ [] && eqIgnoreAsciiCase ks.kingName name

/-- The checks on the funds, and the character who gets the gold. -/
def checkFunds (sid nation : ℕ) (now : EventClock) (ks : KingSystem) (request : RoyalRequest) :
    Option RoyalTask :=
  match request with
  | .collectTax =>
    if ks.territoryTax = 0 then none
    else some ⟨sid, nation, request, now, ks.territoryTax, some sid, false⟩
  | .prize coins targetName =>
    if ks.nationalTreasury < coins then none
    else (s.findSessionByName targetName).map fun targetSid =>
      ⟨sid, nation, request, now, ks.nationalTreasury, some targetSid, false⟩
  | .noah _ | .exp _ | .weather _ _ =>
    let t : RoyalTask := ⟨sid, nation, request, now, ks.nationalTreasury, none, false⟩
    if ks.nationalTreasury < t.amount then none else some t

def accept (sid : ℕ) (now : EventClock) (data : List UInt8) : Option RoyalTask :=
  match s.citizens sid, readRoyalRequest (PacketReader.new data) with
  | some c, some request =>
    if !s.isKing c.nation c.name then none
    else (s.kingSystems c.nation).bind fun ks => s.checkFunds sid c.nation now ks request
  | _, _ => none

/-- `c.gold.saturating_add(amount)`, where the session has a character. -/
def giveGold (sid amount : ℕ) : RoyalWorld :=
  { s with
    citizens := Function.update s.citizens sid
      ((s.citizens sid).map fun c => { c with gold := saturatingAdd32 c.gold amount }) }

def updateKingSystem (nation : ℕ) (f : KingSystem → KingSystem) : RoyalWorld :=
  { s with kingSystems := Function.update s.kingSystems nation ((s.kingSystems nation).map f) }

def taskAt (sid : ℕ) (part : RoyalTask → Bool) : Option RoyalTask :=
  s.inFlight.find? fun t => t.sid = sid && part t

def unpaid (t : RoyalTask) : Bool := t.payee.isSome && !t.paid

def royal : RoyalStep → RoyalWorld
  | .request sid now data =>
    if sid ∈ s.inFlight.map RoyalTask.sid then s
    else
      match s.accept sid now data with
      | none => s
      | some t => { s with inFlight := t :: s.inFlight }
  | .pay sid =>
    match s.taskAt sid unpaid with
    | none => s
    | some t =>
      { s.giveGold (t.payee.getD 0) t.amount with
        inFlight := { t with paid := true } :: s.inFlight.erase t }
  | .write sid =>
    match s.taskAt sid (!unpaid ·) with
    | none => s
    | some t =>
      { s.updateKingSystem t.nation (·.write t) with inFlight := s.inFlight.erase t }
  | .purchase nation totalKingTax =>
    if totalKingTax = 0 then s else s.updateKingSystem nation (·.deposit totalKingTax)

def handleKing (sid : ℕ) (now : EventClock) (data : List UInt8) : RoyalWorld :=
  ((s.royal (.request sid now data)).royal (.pay sid)).royal (.write sid)

end RoyalWorld

end KoServer
