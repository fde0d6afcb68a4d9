import KoServer.Spec.TempleRooms

/-! The end of an event and its rewards, and the tick of the event task
(`systems/event_system.rs`). -/

namespace KoServer

/-- `JuraidRoomState`. Its kills are counted by `record_monster_kill`, which nothing calls. -/
structure JuraidRoomState where
  karusKills : ℕ := 0
  elmoradKills : ℕ := 0

def determineWinner (karus elmorad : ℕ) : ℕ :=
  if elmorad < karus then 1 else if karus < elmorad then 2 else 0

namespace EventRoomManager

variable (erm : EventRoomManager) (t : TempleEventType)

def decideRooms (verdict : EventRoom → Option ℕ) (close : EventRoom → ℕ → EventRoom) :
    EventRoomManager × List (ℕ × ℕ) :=
  ({ erm with
      rooms := erm.rooms.map fun r =>
        if r.eventType = t then (verdict r).elim r (close r) else r },
    (erm.listRooms t).filterMap fun r => (verdict r).map fun winner => (r.roomId, winner))

def bdwDetermineAllWinners : EventRoomManager × List (ℕ × ℕ) :=
  erm.decideRooms .borderDefenceWar
    (fun r =>
      if r.finished || r.state ≠ .running then none
      else some (determineWinner r.karusScore r.elmoradScore))
    fun r winner => { r with winnerNation := winner, finishPacketSent := true }

def juraidDetermineAllWinners (juraidRooms : ℕ → Option JuraidRoomState) :
    EventRoomManager × List (ℕ × ℕ) :=
  erm.decideRooms .juraidMountain
    (fun r =>
      (juraidRooms r.roomId).bind fun state =>
        if r.finished || r.state ≠ .running then none
        else some (determineWinner state.karusKills state.elmoradKills))
    fun r winner => { r with winnerNation := winner, finishPacketSent := true }

/-- `determine_all_winners` of the dungeon, which has none: its rooms are finished. -/
def chaosDetermineAllWinners : EventRoomManager × List (ℕ × ℕ) :=
  erm.decideRooms .chaosDungeon (fun r => if r.mixedUsers = [] then none else some 0)
    fun r winner => { r with winnerNation := winner, finished := true }

def determineAllWinners (juraidRooms : ℕ → Option JuraidRoomState) :
    EventRoomManager × List (ℕ × ℕ) :=
  match t with
  | .borderDefenceWar => erm.bdwDetermineAllWinners
  | .juraidMountain => erm.juraidDetermineAllWinners juraidRooms
  | .chaosDungeon => erm.chaosDetermineAllWinners
  | .forgottenTemple => (erm, [])

def sendWinnerScreen (now : ℕ) : EventRoomManager :=
  { erm with
    rooms := erm.rooms.map fun r =>
      if r.eventType = t ∧ r.finished = false then
        r.finishWith
          (if t = .chaosDungeon then 0 else determineWinner r.karusScore r.elmoradScore) now
      else r }

def templeEventRoomClose (now : ℕ) : EventRoomManager :=
  { erm with
    rooms := erm.rooms.map fun r =>
      if r.eventType = t ∧ r.finishPacketSent = true ∧ r.finished = false ∧
          0 < r.finishTimeCounter ∧ r.finishTimeCounter ≤ now then
        { r with finished := true }
      else r }

end EventRoomManager

inductive RewardKind where
  | winner
  | loser
  | rank (n : ℕ)
  deriving DecidableEq

structure RewardGrant where
  roomId : ℕ
  userName : List Char
  sessionId : ℕ
  kind : RewardKind
  deriving DecidableEq

def TempleEventType.localId : TempleEventType → ℕ
  | borderDefenceWar => 9
  | forgottenTemple => 14
  | chaosDungeon => 10
  | juraidMountain => 11

def localIdToEventType : ℕ → Option TempleEventType
  | 9 => some .borderDefenceWar
  | 10 => some .chaosDungeon
  | 11 => some .juraidMountain
  | _ => none

namespace EventUser

def eligible (u : EventUser) : Bool := !u.prizeGiven && !u.loggedOut

def markPrize (u : EventUser) : EventUser := if u.eligible then { u with prizeGiven := true } else u

end EventUser

namespace EventRoom

variable (r : EventRoom)

def markPrizes : EventRoom :=
  { r with
    karusUsers := r.karusUsers.map EventUser.markPrize
    elmoradUsers := r.elmoradUsers.map EventUser.markPrize
    mixedUsers := r.mixedUsers.map EventUser.markPrize }

/-- What the participants of a room get that `winner` has won. -/
def prizes (winner : ℕ) : List RewardGrant :=
  (r.users.filter EventUser.eligible).map fun u =>
    ⟨r.roomId, u.userName, u.sessionId, if u.nation = winner then .winner else .loser⟩

/-- `get_player_chaos_rank`, of the participants by their kills. -/
def chaosRank (participants : List EventUser) (sessionId : ℕ) : ℕ :=
  let ranked := participants.mergeSort fun a b => b.kills ≤ a.kills
  match ranked.findIdx? (·.sessionId = sessionId) with
  | none => 0
  | some i => i + 1

/-- A room of `distribute_chaos_finish_exp`: who has left the game meanwhile gets nothing. -/
def chaosFinish (present : ℕ → Bool) : EventRoom × List RewardGrant :=
  let takes (u : EventUser) : Bool := u.userName ≠ [] && u.eligible
  if r.finished then (r, [])
  else
    let participants := r.mixedUsers.filter takes
    ({ r with
        finished := true
        mixedUsers := r.mixedUsers.map fun u => if takes u then { u with prizeGiven := true } else u },
      (participants.filter fun u => present u.sessionId).map fun u =>
        ⟨r.roomId, u.userName, u.sessionId, .rank (chaosRank participants u.sessionId)⟩)

end EventRoom

def distributeChaosFinishExp (erm : EventRoomManager) (present : ℕ → Bool) :
    EventRoomManager × List RewardGrant :=
  ({ erm with
      rooms := erm.rooms.map fun r =>
        if r.eventType = .chaosDungeon then (r.chaosFinish present).1 else r },
    (erm.listRooms .chaosDungeon).flatMap fun r => (r.chaosFinish present).2)

def rewardRooms (t : TempleEventType) :
    EventRoomManager → List (ℕ × ℕ) → EventRoomManager × List RewardGrant
  | erm, [] => (erm, [])
  | erm, (roomId, winner) :: results =>
    match erm.getRoom t roomId with
    | none => rewardRooms t erm results
    | some r =>
      let (erm', grants) := rewardRooms t (erm.updateRoom t roomId EventRoom.markPrizes) results
      (erm', r.prizes winner ++ grants)

def distributeEventRewards (rewardTable : ℕ → Bool) (erm : EventRoomManager) (localId : ℕ)
    (results : List (ℕ × ℕ)) : EventRoomManager × List RewardGrant :=
  if rewardTable localId then
    match localIdToEventType localId with
    | none => (erm, [])
    | some t => rewardRooms t erm results
  else (erm, [])

structure TempleServer where
  erm : EventRoomManager
  juraidRooms : ℕ → Option JuraidRoomState
  clock : ℕ
  present : ℕ → Bool
  rewardTable : ℕ → Bool

inductive EventTickAction where
  | none
  | transitionedToActive
  | transitionedToRewards (results : List (ℕ × ℕ))
  | transitionedToCleanup
  | manualCloseCleanup

namespace TempleServer

variable (w : TempleServer)

def initRooms (t : TempleEventType) : TempleServer :=
  match t with
  | .borderDefenceWar => { w with erm := (w.erm.createRooms t DEFAULT_BDW_ROOMS).assignNations t }
  | .juraidMountain =>
    { w with
      erm := (w.erm.createRooms t DEFAULT_JURAID_ROOMS).assignNations t
      juraidRooms := fun id => if 1 ≤ id ∧ id ≤ DEFAULT_JURAID_ROOMS then some {} else .none }
  | .chaosDungeon => { w with erm := (w.erm.createRooms t DEFAULT_CHAOS_ROOMS).assignMixed t }
  | .forgottenTemple => w

def cleanupEvent (t : TempleEventType) : TempleServer :=
  { w with
    erm :=
      match t with
      | .forgottenTemple => w.erm.resetTempleEvent
      | _ => (w.erm.destroyRooms t).resetTempleEvent
    juraidRooms := if t = .juraidMountain then fun _ => .none else w.juraidRooms }

def attackTick (opts : VroomOpt) : TempleServer :=
  { w with
    erm := w.erm.updateTempleEvent fun s =>
      (s.attackOpenTick opts w.clock).attackCloseTick opts w.clock }

def finishEvent (t : TempleEventType) : TempleServer × List (ℕ × ℕ) :=
  let (erm, results) := w.erm.determineAllWinners t w.juraidRooms
  ({ w with erm := erm.transitionToFinish }, results)

def eventTickAt : TempleServer × EventTickAction :=
  let s := w.erm.templeEvent
  match s.activeEvent with
  | .none => (w, .none)
  | some t =>
    match t.vroomIndex.bind w.erm.vroomOpts with
    | .none => (w, .none)
    | some opts =>
      match s.currentPhase with
      | .inactive => (w, .none)
      | .registration =>
        if s.isSignExpiredAt opts w.clock then
          (({ w with erm := w.erm.transitionToActive }).initRooms t, .transitionedToActive)
        else (w, .none)
      | .countdown => (w, .none)
      | .active =>
        if s.manualClose && s.isManualExpiredAt opts w.clock then
          let w' := (w.finishEvent t).1
          (({ w' with erm := w'.erm.transitionToReset }).cleanupEvent t, .manualCloseCleanup)
        else
          let w' := w.attackTick opts
          if w'.erm.templeEvent.isPlayExpiredAt opts w.clock then
            let (w', results) := w'.finishEvent t
            (w', .transitionedToRewards results)
          else (w', .none)
      | .rewards =>
        if s.isResetExpiredAt opts w.clock then
          (({ w with erm := w.erm.transitionToReset }).cleanupEvent t, .transitionedToCleanup)
        else (w, .none)
      | .cleanup => ({ w with erm := w.erm.resetTempleEvent }, .none)

def reward (t : TempleEventType) (results : List (ℕ × ℕ)) :
    EventRoomManager × List RewardGrant :=
  let erm := w.erm.sendWinnerScreen t w.clock
  if t = .chaosDungeon then distributeChaosFinishExp erm w.present
  else distributeEventRewards w.rewardTable erm t.localId results

def closeRooms : TempleServer :=
  match w.erm.templeEvent.currentPhase, w.erm.templeEvent.activeEvent with
  | .rewards, some t => { w with erm := w.erm.templeEventRoomClose t w.clock }
  | _, _ => w

/-- A tick of `start_event_system_task`, without the schedule: what it leaves and whom it
rewards. -/
def tick : TempleServer × List RewardGrant :=
  match w.eventTickAt, w.erm.templeEvent.activeEvent with
  | (w', .transitionedToRewards results), some t =>
    let (erm, grants) := w'.reward t results
    (({ w' with erm := erm }).closeRooms, grants)
  | (w', _), _ => (w'.closeRooms, [])

end TempleServer

inductive TempleStep where
  | wait (secs : ℕ)
  | enterGame (sid : ℕ)
  | join (sid : ℕ) (p : EventPlayer)
  | leave (p : EventPlayer)
  | logout (sid : ℕ) (name : List Char) (zoneId : ℕ)
  | warpOut (name : List Char) (zoneId : ℕ)
  | playerKill (name : List Char) (nation : ℕ)
  | delivery (name : List Char) (nation : ℕ)
  | monsterKill (name : List Char) (nation : ℕ)
  | mountainKill (name : List Char) (nation : ℕ)
  | dungeonKill (name deadName : List Char)
  | manualClose
  | tick

namespace TempleServer

/-- What it leaves, and whom it rewards. A logout and a lost connection clean up alike, and so does
a warp out of the zone as to the room. -/
def handle (w : TempleServer) : TempleStep → TempleServer × List RewardGrant
  | .wait secs => ({ w with clock := w.clock + secs }, [])
  | .enterGame sid => ({ w with present := Function.update w.present sid true }, [])
  | .join sid p => ({ w with erm := handleTempleJoin w.erm sid p }, [])
  | .leave p => ({ w with erm := handleTempleDisband w.erm p }, [])
  | .logout sid name zoneId =>
    ({ w with
        erm := signUpCleanup (w.erm.bdwUserLogout name w.clock zoneId) name
        present := Function.update w.present sid false }, [])
  | .warpOut name zoneId => ({ w with erm := w.erm.bdwUserLogout name w.clock zoneId }, [])
  | .playerKill name nation => ({ w with erm := w.erm.trackBdwPlayerKill name nation w.clock }, [])
  | .delivery name nation => ({ w with erm := w.erm.altarDelivery name nation w.clock }, [])
  | .monsterKill name nation => ({ w with erm := w.erm.trackJuraidMonsterKill name nation }, [])
  | .mountainKill name nation => ({ w with erm := w.erm.trackJuraidPvpKill name nation }, [])
  | .dungeonKill name deadName => ({ w with erm := w.erm.trackChaosPvpKill name deadName }, [])
  | .manualClose => ({ w with erm := w.erm.manualClose w.clock }, [])
  | .tick => w.tick

def opened (vroomOpts : ℕ → Option VroomOpt) (rewardTable present : ℕ → Bool)
    (params : EventOpenParams) (now : ℕ) : TempleServer where
  erm := openVirtualEvent { vroomOpts := vroomOpts } params now
  juraidRooms := fun _ => none
  clock := now
  present := present
  rewardTable := rewardTable

end TempleServer

end KoServer
