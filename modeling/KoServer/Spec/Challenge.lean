import Mathlib.Logic.Function.Basic
import KoServer.Lib.Run
import KoServer.Spec.MonsterStone
import KoServer.Spec.Party

/-! Challenges: duels of two players and fights of two clans, asked for, accepted, taken back and
refused, and the warp to the arena that an accepted one brings. -/

namespace KoServer

open Function

def ZONE_ARENA : ℕ := 48
def USER_DEAD : ℕ := 3
def MERCHANT_STATE_NONE : ℤ := -1
def TRADE_STATE_NONE : ℕ := 1

def CHALLENGE_PVP_REQUEST : ℕ := 1
def CHALLENGE_PVP_CANCEL : ℕ := 2
def CHALLENGE_PVP_ACCEPT : ℕ := 3
def CHALLENGE_PVP_REJECT : ℕ := 4
def CHALLENGE_PVP_REQ_SENT : ℕ := 5
def CHALLENGE_CVC_REQUEST : ℕ := 6
def CHALLENGE_CVC_CANCEL : ℕ := 7
def CHALLENGE_CVC_ACCEPT : ℕ := 8
def CHALLENGE_CVC_REJECT : ℕ := 9
def CHALLENGE_CVC_REQ_SENT : ℕ := 10
def CHALLENGE_GENERIC_ERROR : ℕ := 11
def CHALLENGE_ZONE_ERROR : ℕ := 12
def CHALLENGE_CLAN_ERROR : ℕ := 13

inductive ChallengeKind
  | pvp
  | cvc
  deriving DecidableEq

namespace ChallengeKind

def requestCode : ChallengeKind → ℕ
  | pvp => CHALLENGE_PVP_REQUEST
  | cvc => CHALLENGE_CVC_REQUEST

def cancelCode : ChallengeKind → ℕ
  | pvp => CHALLENGE_PVP_CANCEL
  | cvc => CHALLENGE_CVC_CANCEL

def acceptCode : ChallengeKind → ℕ
  | pvp => CHALLENGE_PVP_ACCEPT
  | cvc => CHALLENGE_CVC_ACCEPT

def rejectCode : ChallengeKind → ℕ
  | pvp => CHALLENGE_PVP_REJECT
  | cvc => CHALLENGE_CVC_REJECT

def reqSentCode : ChallengeKind → ℕ
  | pvp => CHALLENGE_PVP_REQ_SENT
  | cvc => CHALLENGE_CVC_REQ_SENT

end ChallengeKind

/-- The three fields of a session. A pending challenge is kept as the code that ends it: the one to
cancel it with for the requester, the one to reject it with for the other. -/
@[ext] structure ChallengeState where
  requestingChallenge : ℕ := 0
  challengeRequested : ℕ := 0
  challengeUser : Int16 := -1
  deriving DecidableEq

/-- What else the handlers read of a player. -/
structure Surroundings where
  inGame : Bool := true
  zoneId : ℕ
  partyId : Option ℕ := none
  exchangeUser : Option UInt16 := none
  tradeState : ℕ := TRADE_STATE_NONE
  merchantState : ℤ := MERCHANT_STATE_NONE
  isMining : Bool := false
  isFishing : Bool := false
  resHpType : ℕ := 1
  hp : ℤ := 1
  knightsId : ℕ := 0
  fame : ℕ := 0

namespace Surroundings

def isPlayerDead (p : Surroundings) : Bool := p.resHpType = USER_DEAD || p.hp ≤ 0

/-- In a party, trading or keeping a stall. -/
def busy (p : Surroundings) : Bool :=
  p.partyId.isSome || p.exchangeUser.isSome || p.merchantState ≠ MERCHANT_STATE_NONE

def isClanLeader (p : Surroundings) : Bool := p.fame = 1 && 0 < p.knightsId

end Surroundings

structure DuelPlayer where
  name : String
  around : Surroundings
  challenge : ChallengeState := {}

structure ZoneAttacks where
  canAttackOtherNation : Bool := false
  canAttackSameNation : Bool := false
  isWarZone : Bool := false

/-- The players online, those listed in each zone, who bears a name, and the zones. -/
structure DuelWorld where
  players : UInt16 → Option DuelPlayer
  zoneSessionIndex : ℕ → List UInt16
  findSessionByName : String → Option UInt16
  zone : ℕ → Option ZoneAttacks

structure ChallengePacket where
  opcode : ℕ
  name : Option String := none
  deriving DecidableEq

structure ChallengeReply where
  world : DuelWorld
  sent : List (UInt16 × ChallengePacket) := []
  moved : List UInt16 := []

namespace DuelWorld

variable (w : DuelWorld) (sid : UInt16)

def challenges (s : UInt16) : Option ChallengeState := (w.players s).map DuelPlayer.challenge

def getChallengeState : ChallengeState := (w.challenges sid).getD {}

def updateSession (f : DuelPlayer → DuelPlayer) : DuelWorld :=
  { w with players := update w.players sid ((w.players sid).map f) }

def updateChallenge (f : ChallengeState → ChallengeState) : DuelWorld :=
  w.updateSession sid fun p => { p with challenge := f p.challenge }

def getSessionClanId : ℕ := ((w.players sid).map fun p => p.around.knightsId).getD 0

def isSessionClanLeader : Bool := (w.players sid).any fun p => p.around.isClanLeader

def isNationPvpZone (zoneId : ℕ) : Bool :=
  (w.zone zoneId).any fun z => z.canAttackOtherNation && !z.canAttackSameNation

def noChallengeZone (zoneId : ℕ) : Bool :=
  w.isNationPvpZone zoneId || zoneId = ZONE_DELOS || (w.zone zoneId).any ZoneAttacks.isWarZone

/-- `update_position`: the session, and the lists of the zone it leaves and of the one it enters. -/
def updatePosition (zoneId : ℕ) : DuelWorld :=
  match w.players sid with
  | none => w
  | some p =>
    let w' := w.updateSession sid fun p => { p with around := { p.around with zoneId := zoneId } }
    let old := p.around.zoneId
    if old = zoneId then w' else
      let left := if old = 0 then w.zoneSessionIndex else
        update w.zoneSessionIndex old ((w.zoneSessionIndex old).filter (· ≠ sid))
      { w' with
        zoneSessionIndex := if zoneId = 0 then left else update left zoneId
          (if sid ∈ left zoneId then left zoneId else sid :: left zoneId) }

/-- The part of `ResetWindows` that ends a challenge, pending or requested. -/
def resetChallenge : DuelWorld :=
  let c := w.getChallengeState sid
  if c.requestingChallenge = 0 ∧ c.challengeRequested = 0 then w else
    let w' := if 0 ≤ c.challengeUser then w.updateChallenge c.challengeUser.toUInt16 fun _ => {} else w
    w'.updateChallenge sid fun _ => {}

/-- `trigger_zone_change`, when it lets the player through: a warp within the zone leaves the
windows open. -/
def triggerZoneChange (dest : ℕ) (arrives : Bool) : DuelWorld × List UInt16 :=
  match w.players sid with
  | none => (w, [])
  | some p =>
    if !arrives then (w, [])
    else if p.around.zoneId = dest then (w, [sid])
    else ((w.resetChallenge sid).updatePosition sid dest, [sid])

/-- The state set on both players. -/
def ask (target : UInt16) (kind : ChallengeKind) : DuelWorld :=
  (w.updateChallenge sid fun c =>
    { c with requestingChallenge := kind.cancelCode, challengeUser := target.toInt16 }
  ).updateChallenge target fun c =>
    { c with challengeRequested := kind.rejectCode, challengeUser := sid.toInt16 }

/-- What the two requests share; only a clan challenge asks for clan leaders. -/
def handleRequest (kind : ChallengeKind) (name : Option String) : ChallengeReply :=
  let error (code : ℕ) : ChallengeReply := ⟨w, [(sid, { opcode := code })], []⟩
  match w.players sid with
  | none => ⟨w, [], []⟩
  | some p =>
    if p.challenge.requestingChallenge ≠ 0 || p.challenge.challengeRequested ≠ 0 ||
        p.around.zoneId = ZONE_ARENA || p.around.busy then
      error CHALLENGE_GENERIC_ERROR
    else if kind = .cvc && !w.isSessionClanLeader sid then error CHALLENGE_CLAN_ERROR
    else if w.noChallengeZone p.around.zoneId then error CHALLENGE_ZONE_ERROR
    else match name with
      | none => ⟨w, [], []⟩
      | some name =>
        match w.findSessionByName name with
        | none => error CHALLENGE_GENERIC_ERROR
        | some target =>
          match w.players target with
          | none => error CHALLENGE_GENERIC_ERROR
          | some q =>
            if q.around.resHpType = USER_DEAD || q.challenge.requestingChallenge ≠ 0 ||
                q.challenge.challengeRequested ≠ 0 || q.around.zoneId ≠ p.around.zoneId ||
                q.around.busy then
              error CHALLENGE_GENERIC_ERROR
            else if kind = .cvc && !w.isSessionClanLeader target then error CHALLENGE_CLAN_ERROR
            else
              { world := w.ask sid target kind
                sent := [(target, { opcode := kind.requestCode, name := p.name }),
                  (sid, { opcode := kind.reqSentCode, name := name })] }

def handlePvpRequest (name : Option String) : ChallengeReply := w.handleRequest sid .pvp name

def handleCvcRequest (name : Option String) : ChallengeReply := w.handleRequest sid .cvc name

def clearRequested : DuelWorld :=
  w.updateChallenge sid fun c => { c with challengeUser := -1, challengeRequested := 0 }

def clearRequesting : DuelWorld :=
  w.updateChallenge sid fun c => { c with challengeUser := -1, requestingChallenge := 0 }

/-- `send_zone_change` to the arena, for a session that is there. -/
def sendToArena (acc : DuelWorld × List UInt16) (sid : UInt16) : DuelWorld × List UInt16 :=
  (acc.1.updatePosition sid ZONE_ARENA, acc.2 ++ [sid])

def handlePvpAccept (arrives : Bool) : ChallengeReply :=
  let c := w.getChallengeState sid
  if c.challengeRequested = 0 then ⟨w, [], []⟩ else
    let requester := c.challengeUser.toUInt16
    let w₁ := w.clearRequested sid
    match w₁.players requester with
    | none => ⟨w₁, [(sid, { opcode := CHALLENGE_GENERIC_ERROR })], []⟩
    | some _ =>
      let w₂ := w₁.clearRequesting requester
      let r := sendToArena (w₂.triggerZoneChange sid ZONE_ARENA arrives) requester
      ⟨r.1, [], r.2⟩

/-- `get_cvc_eligible_clan_members`. -/
def cvcEligible (clanId : ℕ) (p : DuelPlayer) : Bool :=
  p.around.knightsId = clanId && !isInTempleEventZone p.around.zoneId &&
    !(p.around.merchantState ≠ MERCHANT_STATE_NONE || p.around.isMining || p.around.isFishing ||
      p.challenge.requestingChallenge ≠ 0 || 0 ≤ p.challenge.challengeUser ||
      p.around.tradeState ≠ TRADE_STATE_NONE || p.around.partyId.isSome)

def getCvcEligibleClanMembers (clanId originZone : ℕ) : List UInt16 :=
  (w.zoneSessionIndex originZone).filter fun s => (w.players s).any (cvcEligible clanId)

def handleCvcAccept : ChallengeReply :=
  let c := w.getChallengeState sid
  if c.challengeRequested = 0 then ⟨w, [], []⟩ else
    let selfClanId := w.getSessionClanId sid
    if selfClanId = 0 then ⟨w, [], []⟩ else
      let w₁ := w.clearRequested sid
      let requester := c.challengeUser.toUInt16
      let requesterClanId := w₁.getSessionClanId requester
      if requesterClanId = 0 then ⟨w₁, [(sid, { opcode := CHALLENGE_GENERIC_ERROR })], []⟩ else
        let w₂ := w₁.clearRequesting requester
        let originZone := ((w₂.players sid).map fun p => p.around.zoneId).getD 0
        let clan₁ := (w₂.getCvcEligibleClanMembers selfClanId originZone).foldl sendToArena (w₂, [])
        let clan₂ := (clan₁.1.getCvcEligibleClanMembers requesterClanId originZone).foldl
          sendToArena clan₁
        ⟨clan₂.1, [], clan₂.2⟩

/-- The requester takes a challenge of either kind back. -/
def handleCancelled (opcode : ℕ) : ChallengeReply :=
  let c := w.getChallengeState sid
  if c.requestingChallenge = 0 then ⟨w, [], []⟩ else
    let target := c.challengeUser.toUInt16
    if (w.getChallengeState target).challengeUser = sid.toInt16 then
      ⟨(w.clearRequested target).clearRequesting sid, [(target, { opcode := opcode })], []⟩
    else ⟨w.clearRequesting sid, [(sid, { opcode := CHALLENGE_GENERIC_ERROR })], []⟩

def handleRejected (opcode : ℕ) : ChallengeReply :=
  let c := w.getChallengeState sid
  if c.challengeRequested = 0 then ⟨w, [], []⟩ else
    let requester := c.challengeUser.toUInt16
    if (w.getChallengeState requester).challengeUser = sid.toInt16 then
      ⟨(w.clearRequesting requester).clearRequested sid,
        [(requester, { opcode := opcode }), (sid, { opcode := opcode })], []⟩
    else ⟨w.clearRequested sid, [(sid, { opcode := CHALLENGE_GENERIC_ERROR })], []⟩

def mayChallenge : Bool := (w.players sid).any fun p => p.around.inGame && !p.around.isPlayerDead

/-- `handle` of a challenge packet, and whether a zone change of its sender is let through. -/
def handleChallenge (opcode : ℕ) (name : Option String) (arrives : Bool) : ChallengeReply :=
  if !w.mayChallenge sid then ⟨w, [], []⟩
  else if opcode = CHALLENGE_PVP_REQUEST then w.handlePvpRequest sid name
  else if opcode = CHALLENGE_PVP_ACCEPT then w.handlePvpAccept sid arrives
  else if opcode = CHALLENGE_CVC_REQUEST then w.handleCvcRequest sid name
  else if opcode = CHALLENGE_CVC_ACCEPT then w.handleCvcAccept sid
  else if opcode = CHALLENGE_PVP_CANCEL ∨ opcode = CHALLENGE_CVC_CANCEL then
    w.handleCancelled sid opcode
  else if opcode = CHALLENGE_PVP_REJECT ∨ opcode = CHALLENGE_CVC_REJECT then
    w.handleRejected sid opcode
  else ⟨w, [], []⟩

end DuelWorld

/-- A packet, a zone change that a player makes, and anything else that happens around the players:
to their clans, zones, parties, trades, lives. -/
inductive DuelEvent
  | packet (sid : UInt16) (opcode : ℕ) (name : Option String) (arrives : Bool)
  | zoneChange (sid : UInt16) (dest : ℕ)
  | around (others : UInt16 → Surroundings) (zoneSessionIndex : ℕ → List UInt16)

namespace DuelWorld

def handle (w : DuelWorld) : DuelEvent → ChallengeReply
  | .packet sid opcode name arrives => w.handleChallenge sid opcode name arrives
  | .zoneChange sid dest => ⟨(w.triggerZoneChange sid dest true).1, [], []⟩
  | .around others index =>
    ⟨{ w with
        players := fun s => (w.players s).map fun p => { p with around := others s }
        zoneSessionIndex := index }, [], []⟩

def step (w : DuelWorld) (e : DuelEvent) : DuelWorld := (w.handle e).world

/-- Nobody has challenged anybody yet. -/
def Idle (w : DuelWorld) : Prop := ∀ s c, w.challenges s = some c → c = {}

end DuelWorld

end KoServer
