import KoServer.Lib.Rows
import KoServer.Spec.ClanStorage
import KoServer.Spec.Packet

/-! Clans and their ranks, from `handler/knights.rs`, the clan methods of `world/social.rs` and the
queries of `ko-db`'s `repositories/knights.rs`. A request is handled as a whole, and its queries
succeed; a dead player's request is dropped. -/

namespace KoServer

def OFFICER : ℕ := 4
def TRAINEE : ℕ := 5
def COMMAND_CAPTAIN : ℕ := 100
def MAX_CLAN_USERS : ℕ := 50
def CLAN_COIN_REQUIREMENT : ℕ := 500000
def CLAN_LEVEL_REQUIREMENT : ℕ := 30
def CLAN_TYPE_TRAINING : ℕ := 1
def CLAN_TYPE_ROYAL1 : ℕ := 12
def MAX_ID_SIZE : ℕ := 20

/-- `to_lowercase` and `to_uppercase` of a Rust string. -/
structure CaseMaps where
  toLowercase : List Char → List Char
  toUppercase : List Char → List Char

/-- A row of `userdata`, by the primary key `str_user_id`. -/
structure UserRow where
  name : List Char
  knights : ℕ
  fame : ℕ
deriving DecidableEq

/-- A row of the `knights` table, by the primary key `id_num`. -/
structure KnightsRow where
  idNum : ℕ
  idName : List Char

/-- The character of a session, with the session's invitation to a clan. -/
structure Clansman where
  name : List Char
  nation : ℕ
  level : ℕ
  gold : ℕ
  knightsId : ℕ
  fame : ℕ
  pendingKnightsInvite : ℕ
deriving DecidableEq

structure KnightsInfo where
  id : ℕ
  flag : ℕ
  nation : ℕ
  name : List Char
  chief : List Char
  viceChief1 : List Char
  viceChief2 : List Char
  viceChief3 : List Char
  members : ℕ
  alliance : ℕ
  allianceReq : ℕ
deriving DecidableEq

/-- The first free slot, if there is one. -/
def KnightsInfo.addViceChief (k : KnightsInfo) (targetName : List Char) : KnightsInfo :=
  if k.viceChief1 = [] then { k with viceChief1 := targetName }
  else if k.viceChief2 = [] then { k with viceChief2 := targetName }
  else if k.viceChief3 = [] then { k with viceChief3 := targetName }
  else k

def KnightsInfo.clearViceChief (names : CaseMaps) (k : KnightsInfo) (targetName : List Char) : KnightsInfo :=
  if names.toUppercase k.viceChief1 = names.toUppercase targetName then { k with viceChief1 := [] }
  else if names.toUppercase k.viceChief2 = names.toUppercase targetName then
    { k with viceChief2 := [] }
  else if names.toUppercase k.viceChief3 = names.toUppercase targetName then
    { k with viceChief3 := [] }
  else k

/-- The database and the runtime tables. -/
structure ClanWorld where
  users : List UserRow
  rows : List KnightsRow
  sessions : ℕ → Option Clansman
  nameToSession : List Char → Option ℕ
  knights : ℕ → Option KnightsInfo

/-- What a request finds in the world besides clans. -/
structure KnightsEnv where
  isPlayerDead : Bool
  /-- `is_trading` or `is_merchanting`. -/
  isTrading : Bool
  /-- The zone lets clans be changed. -/
  clanUpdates : Bool
  autoRoyal : Bool
  targetDead : Bool

namespace ClanWorld

variable (names : CaseMaps) (env : KnightsEnv) (s : ClanWorld)

def findSessionByName (name : List Char) : Option ℕ := s.nameToSession (names.toLowercase name)

def updateCharacterStats (sid : ℕ) (updater : Clansman → Clansman) : ClanWorld :=
  { s with sessions := Function.update s.sessions sid ((s.sessions sid).map updater) }

def insertKnights (info : KnightsInfo) : ClanWorld :=
  { s with knights := Function.update s.knights info.id (some info) }

def removeKnights (clanId : ℕ) : ClanWorld :=
  { s with knights := Function.update s.knights clanId none }

def updateKnights (clanId : ℕ) (updater : KnightsInfo → KnightsInfo) : ClanWorld :=
  { s with knights := Function.update s.knights clanId ((s.knights clanId).map updater) }

def clearKnightsFromSessions (clanId : ℕ) : ClanWorld :=
  { s with
    sessions := fun sid => (s.sessions sid).map fun ch =>
      if ch.knightsId = clanId then { ch with knightsId := 0, fame := 0 } else ch }

def updateUserKnights (charName : List Char) (knightsId fame : ℕ) : ClanWorld :=
  { s with
    users := Rows.update UserRow.name charName
      (fun u => { u with knights := knightsId, fame := fame }) s.users }

def removeFromKnights (charName : List Char) (knightsId : ℕ) : ClanWorld :=
  { s with
    users := Rows.update UserRow.name charName
      (fun u => if u.knights = knightsId then { u with knights := 0, fame := 0 } else u) s.users }

def clearAllMembers (knightsId : ℕ) : ClanWorld :=
  { s with
    users := Rows.update UserRow.knights knightsId
      (fun u => { u with knights := 0, fame := 0 }) s.users }

/-- The part of `handover_leadership` that is in `userdata`. -/
def handoverLeadership (clanId : ℕ) (newChief oldChief : List Char) : ClanWorld :=
  let promoted := Rows.update UserRow.name newChief
    (fun u => if u.knights = clanId then { u with fame := CHIEF } else u) s.users
  { s with
    users := Rows.update UserRow.name oldChief
      (fun u => if u.knights = clanId then { u with fame := TRAINEE } else u) promoted }

def createKnights (idNum : ℕ) (name : List Char) : ClanWorld :=
  { s with rows := ⟨idNum, name⟩ :: s.rows }

def destroyKnights (idNum : ℕ) : ClanWorld :=
  { s with rows := s.rows.filter fun row => row.idNum ≠ idNum }

def nextClanId (nation : ℕ) : ℕ :=
  let (minId, maxId) := if nation = 2 then (15001, 32000) else (1, 14999)
  let ids := (s.rows.map KnightsRow.idNum).filter fun id => minId ≤ id ∧ id ≤ maxId
  let nextId := ids.foldl max (minId - 1) + 1
  if nextId ≤ maxId then nextId else minId

def handleCreate (sid : ℕ) (clanName : List Char) : ClanWorld :=
  match s.sessions sid with
  | none => s
  | some ch =>
    if env.isTrading then s
    else if clanName = [] ∨ MAX_ID_SIZE < (asBytes clanName).length then s
    else if 0 < ch.knightsId then s
    else if ch.level < CLAN_LEVEL_REQUIREMENT then s
    else if ch.gold < CLAN_COIN_REQUIREMENT then s
    else if ¬ env.clanUpdates then s
    else if clanName ∈ s.rows.map KnightsRow.idName then s
    else
      let nextId := s.nextClanId ch.nation
      if nextId ∈ s.rows.map KnightsRow.idNum then s
      else
        let s := s.createKnights nextId clanName
        let s := s.updateUserKnights ch.name nextId CHIEF
        let s := s.updateCharacterStats sid fun c =>
          { c with gold := ch.gold - CLAN_COIN_REQUIREMENT, knightsId := nextId, fame := CHIEF }
        s.insertKnights
          { id := nextId
            flag := if env.autoRoyal then CLAN_TYPE_ROYAL1 else CLAN_TYPE_TRAINING
            nation := ch.nation
            name := clanName
            chief := ch.name
            viceChief1 := []
            viceChief2 := []
            viceChief3 := []
            members := 1
            alliance := 0
            allianceReq := 0 }

def handleJoin (sid target : ℕ) : ClanWorld :=
  match s.sessions sid with
  | none => s
  | some ch =>
    if ¬ env.clanUpdates then s
    else if ch.fame ≠ CHIEF ∧ ch.fame ≠ VICECHIEF then s
    else
      match s.knights ch.knightsId, s.sessions target with
      | some _, some targetCh =>
        if env.targetDead then s
        else if targetCh.nation ≠ ch.nation then s
        else if 0 < targetCh.knightsId then s
        else s.updateCharacterStats target fun c => { c with pendingKnightsInvite := ch.knightsId }
      | _, _ => s

def handleJoinReq (sid response clanId : ℕ) : ClanWorld :=
  if response ≠ 1 then s.updateCharacterStats sid fun c => { c with pendingKnightsInvite := 0 }
  else
    match s.sessions sid with
    | none => s
    | some ch =>
      if ch.pendingKnightsInvite = 0 ∨ ch.pendingKnightsInvite ≠ clanId then s
      else
        let s := s.updateCharacterStats sid fun c => { c with pendingKnightsInvite := 0 }
        if 0 < ch.knightsId then s
        else
          match s.knights clanId with
          | none => s
          | some clan =>
            if MAX_CLAN_USERS ≤ clan.members then s
            else
              let s := s.updateUserKnights ch.name clanId TRAINEE
              let s := s.updateCharacterStats sid fun c =>
                { c with knightsId := clanId, fame := TRAINEE }
              s.updateKnights clanId fun k => { k with members := clan.members + 1 }

def handleDestroy (sid : ℕ) : ClanWorld :=
  match s.sessions sid with
  | none => s
  | some ch =>
    if ch.fame ≠ CHIEF then s
    else if ch.knightsId = 0 then s
    else if ¬ env.clanUpdates then s
    else
      (((s.clearAllMembers ch.knightsId).destroyKnights ch.knightsId).clearKnightsFromSessions
        ch.knightsId).removeKnights ch.knightsId

/-- The count that both ways out of a clan write back. -/
def dropMember (clanId : ℕ) : ClanWorld :=
  match s.knights clanId with
  | none => s
  | some clan => s.updateKnights clanId fun k => { k with members := clan.members - 1 }

def handleWithdraw (sid : ℕ) : ClanWorld :=
  match s.sessions sid with
  | none => s
  | some ch =>
    if ch.fame = CHIEF then s.handleDestroy env sid
    else if ch.knightsId = 0 then s
    else if ch.fame = COMMAND_CAPTAIN then s
    else if ¬ env.clanUpdates then s
    else
      ((s.updateUserKnights ch.name 0 0).dropMember ch.knightsId).updateCharacterStats sid fun c =>
        { c with knightsId := 0, fame := 0 }

/-- Whether a target that is online is turned away. -/
def targetRefused (ch : Clansman) (targetName : List Char) : Bool :=
  match (s.findSessionByName names targetName).bind s.sessions with
  | none => false
  | some tc => ch.nation ≠ tc.nation || ch.knightsId ≠ tc.knightsId

def handleRemove (sid : ℕ) (targetName : List Char) : ClanWorld :=
  match s.sessions sid with
  | none => s
  | some ch =>
    if ch.knightsId = 0 then s
    else if ch.fame ≠ CHIEF then s
    else if names.toUppercase targetName = names.toUppercase ch.name then s
    else if s.targetRefused names ch targetName then s
    else if ¬ env.clanUpdates then s
    else
      let s := (s.removeFromKnights targetName ch.knightsId).dropMember ch.knightsId
      match s.findSessionByName names targetName with
      | none => s
      | some targetSid =>
        s.updateCharacterStats targetSid fun c => { c with knightsId := 0, fame := 0 }

def handleChief (sid : ℕ) (targetName : List Char) : ClanWorld :=
  match s.sessions sid with
  | none => s
  | some ch =>
    if ch.fame ≠ CHIEF then s
    else if ch.knightsId = 0 then s
    else if ¬ env.clanUpdates then s
    else
      match s.findSessionByName names targetName with
      | none => s
      | some targetSid =>
        match s.sessions targetSid with
        | none => s
        | some targetCh =>
          if targetCh.knightsId ≠ ch.knightsId then s
          else
            let s := s.updateUserKnights ch.name ch.knightsId TRAINEE
            let s := s.updateUserKnights targetCh.name ch.knightsId CHIEF
            let s := s.updateCharacterStats sid fun c => { c with fame := TRAINEE }
            let s := s.updateCharacterStats targetSid fun c => { c with fame := CHIEF }
            s.updateKnights ch.knightsId fun k => { k with chief := targetCh.name }

def handleVicechief (sid : ℕ) (targetName : List Char) : ClanWorld :=
  match s.sessions sid with
  | none => s
  | some ch =>
    if targetName = [] then s
    else if ch.fame ≠ CHIEF then s
    else if ch.knightsId = 0 then s
    else
      match s.findSessionByName names targetName with
      | none => s
      | some targetSid =>
        if s.targetRefused names ch targetName then s
        else
          let s := s.updateUserKnights targetName ch.knightsId VICECHIEF
          let s := s.updateCharacterStats targetSid fun c => { c with fame := VICECHIEF }
          s.updateKnights ch.knightsId fun k => k.addViceChief targetName

def handleOfficer (sid : ℕ) (targetName : List Char) : ClanWorld :=
  match s.sessions sid with
  | none => s
  | some ch =>
    if ch.fame ≠ CHIEF then s
    else if ch.knightsId = 0 then s
    else
      match s.findSessionByName names targetName with
      | none => s
      | some targetSid =>
        if s.targetRefused names ch targetName then s
        else
          let s := s.updateUserKnights targetName ch.knightsId OFFICER
          s.updateCharacterStats targetSid fun c => { c with fame := OFFICER }

def handleHandoverReq (sid : ℕ) (targetName : List Char) : ClanWorld :=
  match s.sessions sid with
  | none => s
  | some ch =>
    if ch.fame ≠ CHIEF ∨ ch.knightsId = 0 then s
    else if s.knights ch.knightsId = none then s
    else
      match s.findSessionByName names targetName with
      | none => s
      | some targetSid =>
        match s.sessions targetSid with
        | none => s
        | some targetCh =>
          if targetCh.fame ≠ VICECHIEF ∨ targetCh.knightsId ≠ ch.knightsId then s
          else
            let s := s.handoverLeadership ch.knightsId targetName ch.name
            let s := s.updateKnights ch.knightsId fun k =>
              { k.clearViceChief names targetName with chief := targetName }
            let s := s.updateCharacterStats sid fun c => { c with fame := TRAINEE }
            s.updateCharacterStats targetSid fun c => { c with fame := CHIEF }

end ClanWorld

inductive MembershipRequest
  | create (clanName : List Char)
  | join (target : ℕ)
  | joinReq (response clanId : ℕ)
  | withdraw
  | remove (targetName : List Char)
  | destroy

inductive RankRequest
  | membership (request : MembershipRequest)
  | chief (targetName : List Char)
  | vicechief (targetName : List Char)
  | officer (targetName : List Char)
  | handoverReq (targetName : List Char)

/-- A request, from the session `sid`. -/
structure ClanStep (Request : Type) where
  sid : ℕ
  env : KnightsEnv
  request : Request

namespace ClanWorld

variable (names : CaseMaps)

def membership (s : ClanWorld) (step : ClanStep MembershipRequest) : ClanWorld :=
  if step.env.isPlayerDead then s
  else
    match step.request with
    | .create clanName => s.handleCreate step.env step.sid clanName
    | .join target => s.handleJoin step.env step.sid target
    | .joinReq response clanId => s.handleJoinReq step.sid response clanId
    | .withdraw => s.handleWithdraw step.env step.sid
    | .remove targetName => s.handleRemove names step.env step.sid targetName
    | .destroy => s.handleDestroy step.env step.sid

def ranks (s : ClanWorld) (step : ClanStep RankRequest) : ClanWorld :=
  if step.env.isPlayerDead then s
  else
    match step.request with
    | .membership request => s.membership names ⟨step.sid, step.env, request⟩
    | .chief targetName => s.handleChief names step.env step.sid targetName
    | .vicechief targetName => s.handleVicechief names step.sid targetName
    | .officer targetName => s.handleOfficer names step.sid targetName
    | .handoverReq targetName => s.handleHandoverReq names step.sid targetName

end ClanWorld

end KoServer
