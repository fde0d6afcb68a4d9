import Mathlib.Logic.Function.Basic
import KoServer.Lib.Roster
import KoServer.Spec.ItemMove
import KoServer.Spec.Trade

/-! Parties: `handler/party.rs`, the party methods of `world/social.rs` and `Party` of
`world/types.rs`. A handler runs on the whole world at once here. -/

namespace KoServer

def PARTY_CREATE : ℕ := 0x01
def PARTY_PERMIT : ℕ := 0x02
def PARTY_INSERT : ℕ := 0x03
def PARTY_REMOVE : ℕ := 0x04
def PARTY_DELETE : ℕ := 0x05
def PARTY_PROMOTE : ℕ := 0x1C
def PARTY_COMMAND_PROMATE : ℕ := 0x1E
def PARTY_TARGET_NUMBER : ℕ := 0x1F
def PARTY_ALERT : ℕ := 0x20
def MAX_PARTY_USERS : ℕ := 8

def PARTY_ERR_LEVEL : ℤ := -2
def PARTY_ERR_NATION : ℤ := -3
def PARTY_ERR_ZONE : ℤ := -5
def PARTY_ERR_OFFLINE : ℤ := -6
def PARTY_ERR_GENERIC : ℤ := -7
def PARTY_ERR_ZONE_RESTRICTED : ℤ := -9
def PARTY_ERR_SEEKING_ITEM : ℤ := -10

def ZONE_DELOS : ℕ := 30
def ZONE_BORDER_DEFENSE_WAR : ℕ := 84
def ZONE_JURAID_MOUNTAIN : ℕ := 87
def ZONE_DUNGEON_DEFENCE : ℕ := 89
def ZONE_PRISON : ℕ := 92

/-- Moradon, arenas, Forgotten Temple, Under Castle, Stone zones, Delos Castellan, Draki
Tower, Old Moradon and Eslant. -/
def isPartnerPartyZone (zoneId : ℕ) : Bool :=
  zoneId ∈ [21, 22, 23, 24, 25, 48, 51, 52, 53, 55, 86, 81, 82, 83, 35, 95, 29, 11, 13, 14, 12, 15,
    16]

def isPartyRestrictedZone (zoneId : ℕ) : Bool :=
  zoneId ∈ [ZONE_CHAOS_DUNGEON, ZONE_PRISON, ZONE_DUNGEON_DEFENCE]

def isLevelCheckRelaxedZone (zoneId : ℕ) : Bool :=
  zoneId ∈ [ZONE_BORDER_DEFENSE_WAR, ZONE_JURAID_MOUNTAIN]

/-- Within eight levels, or within two thirds and three halves. -/
def isLevelCompatible (a b : ℕ) : Bool :=
  b ≤ a + 8 && a ≤ b + 8 || b ≤ a * 3 / 2 && a * 2 / 3 ≤ b

structure Party where
  members : List (Option SessionId)
  members_length : members.length = MAX_PARTY_USERS
  targetNumberId : ℤ
  commandLeaderSid : Option SessionId

namespace Party

def new (leaderSid : SessionId) : Party where
  members := some leaderSid :: List.replicate (MAX_PARTY_USERS - 1) none
  members_length := rfl
  targetNumberId := -1
  commandLeaderSid := some leaderSid

def leaderSid (party : Party) : Option SessionId := party.members.head?.join

def activeMembers (party : Party) : List SessionId := Roster.occupants party.members

def memberCount (party : Party) : ℕ := party.activeMembers.length

def isFull (party : Party) : Bool := MAX_PARTY_USERS ≤ party.memberCount

def contains (party : Party) (sid : SessionId) : Bool := party.members.contains (some sid)

def isLeader (party : Party) (sid : SessionId) : Bool := party.leaderSid = some sid

def isCommandLeader (party : Party) (sid : SessionId) : Bool := party.commandLeaderSid = some sid

/-- The first empty slot, for a session that is not in yet; `none` is `false`. -/
def addMember (party : Party) (sid : SessionId) : Option Party :=
  if party.contains sid then none
  else
    match h : Roster.enlist sid party.members with
    | none => none
    | some members => some { party with
        members := members
        members_length := by rw [Roster.length_of_enlist h, party.members_length] }

def removeMember (party : Party) (sid : SessionId) : Option Party :=
  match h : Roster.strike sid party.members with
  | none => none
  | some members => some { party with
      members := members
      members_length := by rw [Roster.length_of_strike h, party.members_length] }

def findSlot (party : Party) (sid : SessionId) : Option ℕ :=
  party.members.findIdx? (· = some sid)

def swapLeader (party : Party) (pos : ℕ) : Party :=
  if 0 < pos ∧ pos < MAX_PARTY_USERS then
    { party with
      members := Roster.exchange party.members 0 pos
      members_length := by rw [Roster.length_exchange, party.members_length] }
  else party

end Party

/-- What a character in game has of a party: `party_id`, and the type it was last asked for. -/
structure PartySession where
  partyId : Option ℕ
  partyType : ℕ
  deriving DecidableEq

/-- Party ids are `u16`s, and 0 means no party. -/
structure PartyWorld where
  sessions : SessionId → Option PartySession
  parties : ℕ → Option Party
  partyInvitations : SessionId → Option (ℕ × SessionId)
  nextPartyId : ℕ

namespace PartyWorld

variable (w : PartyWorld)

def getPartyId (sid : SessionId) : Option ℕ := (w.sessions sid).bind PartySession.partyId

def isInParty (sid : SessionId) : Bool := (w.getPartyId sid).isSome

def hasPartyInvitation (sid : SessionId) : Bool := (w.partyInvitations sid).isSome

def partyTypeOf (sid : SessionId) : ℕ := ((w.sessions sid).map PartySession.partyType).getD 0

/-- `sessions.get_mut` of a session that is there. -/
def updateSession (sid : SessionId) (f : PartySession → PartySession) : PartyWorld :=
  { w with sessions := Function.update w.sessions sid ((w.sessions sid).map f) }

def setPartyId (sid : SessionId) (partyId : Option ℕ) : PartyWorld :=
  w.updateSession sid fun s => { s with partyId := partyId }

def setParty (partyId : ℕ) (party : Option Party) : PartyWorld :=
  { w with parties := Function.update w.parties partyId party }

/-- The next id that `create_party` draws: 0 is skipped. -/
def drawnPartyId : ℕ := if w.nextPartyId = 0 then 1 else w.nextPartyId

/-- Inserts whatever stood under the id before. -/
def createParty (leaderSid : SessionId) : PartyWorld :=
  let partyId := w.drawnPartyId
  (({ w with nextPartyId := (partyId + 1) % 2 ^ 16 }.setParty partyId
    (some (Party.new leaderSid))).setPartyId leaderSid (some partyId))

def addPartyMember (partyId : ℕ) (sid : SessionId) : PartyWorld :=
  match (w.parties partyId).bind (·.addMember sid) with
  | none => w
  | some party => (w.setParty partyId (some party)).setPartyId sid (some partyId)

def leaveParty (sid : SessionId) : PartyWorld :=
  w.updateSession sid fun _ => { partyId := none, partyType := 0 }

def removePartyMember (partyId : ℕ) (sid : SessionId) : PartyWorld :=
  match (w.parties partyId).bind (·.removeMember sid) with
  | none => w
  | some party => (w.setParty partyId (some party)).leaveParty sid

def disbandParty (partyId : ℕ) : PartyWorld :=
  match w.parties partyId with
  | none => w
  | some party => party.activeMembers.foldl leaveParty (w.setParty partyId none)

def promotePartyLeader (partyId : ℕ) (newLeaderSid : SessionId) : PartyWorld :=
  match w.parties partyId with
  | none => w
  | some party =>
    match party.findSlot newLeaderSid with
    | none => w
    | some pos => w.setParty partyId (some (party.swapLeader pos))

def setPartyInvitation (invitee : SessionId) (partyId : ℕ) (inviter : SessionId) : PartyWorld :=
  { w with partyInvitations := Function.update w.partyInvitations invitee (some (partyId, inviter)) }

def removePartyInvitation (sid : SessionId) : PartyWorld :=
  { w with partyInvitations := Function.update w.partyInvitations sid none }

/-- The leader passes the lead on, and goes; a party of one is dissolved. -/
def cleanupPartyOnDisconnect (sid : SessionId) : PartyWorld :=
  let w := w.removePartyInvitation sid
  match w.getPartyId sid with
  | none => w
  | some partyId =>
    match w.parties partyId with
    | none => w
    | some party =>
      let w' :=
        if party.isLeader sid then
          match Roster.occupants (party.members.drop 1) with
          | [] => w
          | nextSid :: _ => w.promotePartyLeader partyId nextSid
        else w
      if (party.activeMembers.filter (· ≠ sid)).length ≤ 1 then w'.disbandParty partyId
      else w'.removePartyMember partyId sid

end PartyWorld

/-- What the handlers read besides. -/
structure PartyEnv where
  isPlayerDead : SessionId → Bool
  findSessionByName : List Char → Option SessionId
  zoneId : SessionId → ℕ
  nation : SessionId → ℕ
  level : SessionId → ℕ
  knightsId : SessionId → ℕ
  /-- The seeking party item. -/
  checkExistItem : SessionId → Bool
  cswActive : Bool
  /-- `get_knights`, its alliance. -/
  knightsAlliance : ℕ → Option ℕ
  /-- `get_alliance`, its main clan. -/
  allianceMainClan : ℕ → Option ℕ
  /-- Less than 850 ms since the last target number, alert or command request. -/
  targetNumberBlocked : SessionId → Bool

namespace PartyEnv

variable (env : PartyEnv)

/-- On Delos during a siege, another clan must be the main clan's alliance. -/
def cswAllowed (sid target : SessionId) : Bool :=
  !(env.zoneId sid = ZONE_DELOS && env.knightsId sid ≠ env.knightsId target && env.cswActive) ||
    env.knightsId target = 0 ||
    match env.knightsAlliance (env.knightsId target) with
    | none => false
    | some alliance =>
      alliance ≠ 0 &&
        match env.allianceMainClan alliance with
        | none => false
        | some mainClan => alliance = mainClan

def nationAllowed (sid target : SessionId) : Bool :=
  env.nation sid = env.nation target || isPartnerPartyZone (env.zoneId sid)

def levelAllowed (sid target : SessionId) : Bool :=
  env.level sid < 30 || env.level target < 30 || isLevelCheckRelaxedZone (env.zoneId sid) ||
    0 < env.knightsId sid && env.knightsId sid = env.knightsId target ||
    isLevelCompatible (env.level sid) (env.level target)

end PartyEnv

/-- Where a failing request stops, with the code it answers; `none` answers nothing. -/
abbrev PartyRefusal := Option ℤ

def PARTY_TYPE_SEEKING : ℕ := 2

def findInvitee (env : PartyEnv) (w : PartyWorld) (sid : SessionId) (targetName : List Char) :
    Except PartyRefusal SessionId :=
  match env.findSessionByName targetName with
  | none => .error (some PARTY_ERR_GENERIC)
  | some target =>
    if target = sid then .error (some PARTY_ERR_GENERIC)
    else if (w.sessions target).isNone then .error (some PARTY_ERR_OFFLINE)
    else if w.isInParty target || w.hasPartyInvitation target then
      .error (some PARTY_ERR_GENERIC)
    else .ok target

def createChecks (env : PartyEnv) (w : PartyWorld) (sid : SessionId) (targetName : List Char)
    (partyType : ℕ) : Except PartyRefusal SessionId :=
  match findInvitee env w sid targetName with
  | .error e => .error e
  | .ok target =>
    if !env.nationAllowed sid target then .error (some PARTY_ERR_NATION)
    else if partyType = PARTY_TYPE_SEEKING && !env.checkExistItem target then
      .error (some PARTY_ERR_SEEKING_ITEM)
    else if !env.cswAllowed sid target then .error (some PARTY_ERR_NATION)
    else if env.zoneId sid ≠ env.zoneId target then .error (some PARTY_ERR_ZONE)
    else if isPartyRestrictedZone (env.zoneId sid) then .error (some PARTY_ERR_ZONE_RESTRICTED)
    else if !env.levelAllowed sid target then .error (some PARTY_ERR_LEVEL)
    else if w.isInParty sid || w.hasPartyInvitation sid then .error (some PARTY_ERR_GENERIC)
    else .ok target

def inviteChecks (env : PartyEnv) (w : PartyWorld) (sid : SessionId) (targetName : List Char)
    (partyType : ℕ) : Except PartyRefusal (ℕ × SessionId) :=
  match w.getPartyId sid with
  | none => .error (some PARTY_ERR_GENERIC)
  | some partyId =>
    match w.parties partyId with
    | none => .error (some PARTY_ERR_GENERIC)
    | some party =>
      if !party.isLeader sid || party.isFull then .error (some PARTY_ERR_GENERIC)
      else
        match findInvitee env w sid targetName with
        | .error e => .error e
        | .ok target =>
          if !env.nationAllowed sid target then .error (some PARTY_ERR_NATION)
          else if (partyType = PARTY_TYPE_SEEKING || w.partyTypeOf sid = PARTY_TYPE_SEEKING) &&
              !env.checkExistItem target then .error (some PARTY_ERR_SEEKING_ITEM)
          else if env.zoneId sid ≠ env.zoneId target then .error (some PARTY_ERR_ZONE)
          else if isPartyRestrictedZone (env.zoneId sid) then
            .error (some PARTY_ERR_ZONE_RESTRICTED)
          else if !env.levelAllowed sid target then .error (some PARTY_ERR_LEVEL)
          else .ok (partyId, target)

def storePartyType (w : PartyWorld) (sid : SessionId) (partyType : ℕ) : PartyWorld :=
  w.updateSession sid fun s => { s with partyType := partyType }

def handlePartyCreate (env : PartyEnv) (w : PartyWorld) (sid : SessionId)
    (targetName : List Char) (partyType : ℕ) : PartyWorld :=
  let w := storePartyType w sid partyType
  match createChecks env w sid targetName partyType with
  | .error _ => w
  | .ok target => (w.createParty sid).setPartyInvitation target w.drawnPartyId sid

def handlePartyInvite (env : PartyEnv) (w : PartyWorld) (sid : SessionId)
    (targetName : List Char) (partyType : ℕ) : PartyWorld :=
  let w := storePartyType w sid partyType
  match inviteChecks env w sid targetName partyType with
  | .error _ => w
  | .ok (partyId, target) => w.setPartyInvitation target partyId sid

/-- An answer to the pending invitation, which is used up in any case. -/
def handlePartyPermit (env : PartyEnv) (w : PartyWorld) (sid : SessionId) (accept : ℕ) :
    PartyWorld :=
  match w.partyInvitations sid with
  | none => w
  | some (partyId, _) =>
    let w := w.removePartyInvitation sid
    match w.parties partyId with
    | none => w
    | some party =>
      if accept = 0 then if party.memberCount ≤ 1 then w.disbandParty partyId else w
      else
        match party.leaderSid with
        | none => w
        | some leader =>
          if (w.sessions leader).isNone || env.zoneId sid ≠ env.zoneId leader || party.isFull then w
          else (storePartyType w sid (w.partyTypeOf leader)).addPartyMember partyId sid

def handlePartyRemove (w : PartyWorld) (sid target : SessionId) : PartyWorld :=
  match w.getPartyId sid with
  | none => w
  | some partyId =>
    match w.parties partyId with
    | none => w
    | some party =>
      if target = sid && party.isLeader sid then w.disbandParty partyId
      else if target ≠ sid && !party.isLeader sid then w
      else if (party.activeMembers.filter (· ≠ target)).length ≤ 1 then w.disbandParty partyId
      else w.removePartyMember partyId target

def handlePartyDelete (w : PartyWorld) (sid : SessionId) : PartyWorld :=
  match w.getPartyId sid with
  | none => w
  | some partyId => w.disbandParty partyId

def handlePartyPromote (w : PartyWorld) (sid newLeader : SessionId) : PartyWorld :=
  match w.getPartyId sid with
  | none => w
  | some partyId =>
    match w.parties partyId with
    | none => w
    | some party =>
      if !party.isLeader sid || !party.contains newLeader then w
      else
        let w := w.promotePartyLeader partyId newLeader
        if party.isCommandLeader sid then
          w.setParty partyId ((w.parties partyId).map fun p =>
            { p with commandLeaderSid := some newLeader })
        else w

def updateOwnParty (w : PartyWorld) (sid : SessionId) (f : Party → Party) : PartyWorld :=
  match w.getPartyId sid with
  | none => w
  | some partyId =>
    match w.parties partyId with
    | none => w
    | some party =>
      if party.isCommandLeader sid then w.setParty partyId (some (f party)) else w

def asI16 (n : ℕ) : ℤ := if n % 2 ^ 16 < 2 ^ 15 then n % 2 ^ 16 else n % 2 ^ 16 - 2 ^ 16

def handleTargetNumber (env : PartyEnv) (w : PartyWorld) (sid : SessionId) (targetId : ℤ) :
    PartyWorld :=
  if env.targetNumberBlocked sid then w
  else updateOwnParty w sid fun party => { party with targetNumberId := targetId }

def handlePartyCommand (env : PartyEnv) (w : PartyWorld) (sid target : SessionId) : PartyWorld :=
  if env.targetNumberBlocked sid then w
  else updateOwnParty w sid fun party =>
    if party.contains target then { party with commandLeaderSid := some target } else party

inductive PartyRequest where
  | create (targetName : List Char) (partyType : ℕ)
  | invite (targetName : List Char) (partyType : ℕ)
  | permit (accept : ℕ)
  | remove (target : SessionId)
  | delete
  | promote (newLeader : SessionId)
  | targetNumber (targetId : ℤ)
  | alert
  | command (target : SessionId)

/-- What the sub-handlers read; `none` where one of them gives up at a missing field. -/
def parsePartyRequest (data : List UInt8) : Option PartyRequest :=
  match (PacketReader.new data).readU8 with
  | none => none
  | some (subOpcode, reader) =>
    if subOpcode = PARTY_CREATE ∨ subOpcode = PARTY_INSERT then
      match reader.readString with
      | none => none
      | some (targetName, reader) =>
        if targetName = [] then none
        else if subOpcode = PARTY_CREATE then some (.create targetName reader.readU8D.1)
        else some (.invite targetName reader.readU8D.1)
    else if subOpcode = PARTY_PERMIT then reader.readU8.map fun r => .permit r.1
    else if subOpcode = PARTY_REMOVE then reader.readU16.map fun r => .remove r.1
    else if subOpcode = PARTY_DELETE then some .delete
    else if subOpcode = PARTY_PROMOTE then reader.readU16.map fun r => .promote r.1
    else if subOpcode = PARTY_TARGET_NUMBER then
      some (.targetNumber ((reader.readU16.map fun r => asI16 r.1).getD (-1)))
    else if subOpcode = PARTY_ALERT then some .alert
    else if subOpcode = PARTY_COMMAND_PROMATE then some (.command reader.readU16D.1)
    else none

def performParty (env : PartyEnv) (w : PartyWorld) (sid : SessionId) :
    PartyRequest → PartyWorld
  | .create targetName partyType => handlePartyCreate env w sid targetName partyType
  | .invite targetName partyType => handlePartyInvite env w sid targetName partyType
  | .permit accept => handlePartyPermit env w sid accept
  | .remove target => handlePartyRemove w sid target
  | .delete => handlePartyDelete w sid
  | .promote newLeader => handlePartyPromote w sid newLeader
  | .targetNumber targetId => handleTargetNumber env w sid targetId
  | .alert => w
  | .command target => handlePartyCommand env w sid target

def receivedParty (env : PartyEnv) (w : PartyWorld) (sid : SessionId) (data : List UInt8) :
    Option PartyRequest :=
  if (w.sessions sid).isNone || env.isPlayerDead sid then none else parsePartyRequest data

def handleParty (env : PartyEnv) (w : PartyWorld) (sid : SessionId) (data : List UInt8) :
    PartyWorld :=
  match receivedParty env w sid data with
  | none => w
  | some req => performParty env w sid req

/-- What happens to the world: a character enters the game, sends a party request, or is gone. -/
inductive PartyEvent where
  | login (sid : SessionId)
  | request (sid : SessionId) (data : List UInt8)
  | disconnect (sid : SessionId)

def partyStep (w : PartyWorld) (i : PartyEnv × PartyEvent) : PartyWorld :=
  match i.2 with
  | .login sid =>
    if (w.sessions sid).isSome then w
    else { w with sessions := Function.update w.sessions sid (some ⟨none, 0⟩) }
  | .request sid data => handleParty i.1 w sid data
  | .disconnect sid =>
    let w := w.cleanupPartyOnDisconnect sid
    { w with sessions := Function.update w.sessions sid none }

def PartyWorld.start : PartyWorld where
  sessions := fun _ => none
  parties := fun _ => none
  partyInvitations := fun _ => none
  nextPartyId := 1

end KoServer
