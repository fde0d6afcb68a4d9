import KoServer.Spec.NpcTrade
import KoServer.Spec.Party

/-! The room events (Border Defence War, Chaos Dungeon, Juraid Mountain): their state and sign-up
list in `systems/event_room.rs`, the opening, the phases and the timers of
`systems/event_system.rs`, and the sign-up requests of `handler/event.rs`. -/

namespace KoServer

inductive TempleEventType where
  | borderDefenceWar
  | forgottenTemple
  | chaosDungeon
  | juraidMountain
  deriving DecidableEq

def TempleEventType.zoneId : TempleEventType → ℕ
  | borderDefenceWar => 84
  | forgottenTemple => 55
  | chaosDungeon => 85
  | juraidMountain => 87

/-- `EventRoomManager::vroom_index`. -/
def TempleEventType.vroomIndex : TempleEventType → Option ℕ
  | borderDefenceWar => some 0
  | forgottenTemple => none
  | chaosDungeon => some 1
  | juraidMountain => some 2

/-- The timing of an event, in minutes, but for `finish`, which is in seconds. All are `i32`. -/
structure VroomOpt where
  sign : ℤ
  play : ℤ
  attackOpen : ℤ
  attackClose : ℤ
  finish : ℤ

/-- `active_event` is `none` where the source has -1. -/
structure TempleEventState where
  activeEvent : Option TempleEventType := none
  isActive : Bool := false
  allowJoin : Bool := false
  isAttackable : Bool := false
  isAutomatic : Bool := false
  zoneId : ℕ := 0
  startTime : ℕ := 0
  closedTime : ℕ := 0
  signRemainSeconds : ℕ := 0
  lastEventRoom : ℕ := 0
  allUserCount : ℕ := 0
  karusUserCount : ℕ := 0
  elmoradUserCount : ℕ := 0
  timerStartControl : Bool := false
  timerAttackOpenControl : Bool := false
  timerAttackCloseControl : Bool := false
  timerFinishControl : Bool := false
  timerResetControl : Bool := false
  manualClose : Bool := false
  manualClosedTime : ℕ := 0
  deriving DecidableEq

structure SignedUpUser where
  userName : List Char
  sessionId : ℕ
  nation : ℕ
  joinOrder : ℕ
  deriving DecidableEq

structure EventUser where
  userName : List Char
  sessionId : ℕ
  nation : ℕ
  prizeGiven : Bool := false
  loggedOut : Bool := false
  kills : ℕ := 0
  deaths : ℕ := 0
  deriving DecidableEq

inductive RoomState where
  | idle
  | running
  deriving DecidableEq

/-- The lists stand for maps by user name. -/
structure EventRoom where
  roomId : ℕ
  eventType : TempleEventType
  state : RoomState := .idle
  karusUsers : List EventUser := []
  elmoradUsers : List EventUser := []
  mixedUsers : List EventUser := []
  finished : Bool := false
  finishPacketSent : Bool := false
  finishTimeCounter : ℕ := 0
  winnerNation : ℕ := 0
  karusScore : ℕ := 0
  elmoradScore : ℕ := 0
  deriving DecidableEq

structure EventRoomManager where
  rooms : List EventRoom := []
  templeEvent : TempleEventState := {}
  signedUpUsers : List SignedUpUser := []
  nextJoinOrder : ℕ := 1
  vroomOpts : ℕ → Option VroomOpt := fun _ => none

namespace EventRoomManager

variable (erm : EventRoomManager)

def updateTempleEvent (f : TempleEventState → TempleEventState) : EventRoomManager :=
  { erm with templeEvent := f erm.templeEvent }

/-- `add_signed_up_user`; the order is an `AtomicU32`. -/
def addSignedUpUser (userName : List Char) (sessionId nation : ℕ) : Option EventRoomManager :=
  if erm.signedUpUsers.any (·.userName = userName) then none
  else
    some
      { erm with
        signedUpUsers := erm.signedUpUsers ++ [⟨userName, sessionId, nation, erm.nextJoinOrder⟩]
        nextJoinOrder := (erm.nextJoinOrder + 1) % 2 ^ 32 }

/-- `remove_signed_up_user`: the first entry of the name. -/
def removeSignedUpUser (userName : List Char) : Option (SignedUpUser × EventRoomManager) :=
  match erm.signedUpUsers.find? (·.userName = userName) with
  | none => none
  | some user =>
    some (user, { erm with signedUpUsers := erm.signedUpUsers.eraseP (·.userName = userName) })

def clearSignedUpUsers : EventRoomManager := { erm with signedUpUsers := [], nextJoinOrder := 1 }

def resetTempleEvent : EventRoomManager :=
  (erm.updateTempleEvent fun _ => {}).clearSignedUpUsers

def countIn (nation : ℕ) : EventRoomManager :=
  erm.updateTempleEvent fun s =>
    let karus := if nation = 1 then (s.karusUserCount + 1) % 2 ^ 16 else s.karusUserCount
    let elmorad := if nation = 1 then s.elmoradUserCount else (s.elmoradUserCount + 1) % 2 ^ 16
    { s with
      karusUserCount := karus
      elmoradUserCount := elmorad
      allUserCount := (karus + elmorad) % 2 ^ 16 }

def countOut (nation : ℕ) : EventRoomManager :=
  erm.updateTempleEvent fun s =>
    let karus := if nation = 1 then s.karusUserCount - 1 else s.karusUserCount
    let elmorad := if nation = 1 then s.elmoradUserCount else s.elmoradUserCount - 1
    { s with
      karusUserCount := karus
      elmoradUserCount := elmorad
      allUserCount := (karus + elmorad) % 2 ^ 16 }

end EventRoomManager

structure EventOpenParams where
  eventType : TempleEventType
  vroomOpts : VroomOpt
  isAutomatic : Bool
  /-- No requirement where it is 0, as in the next. -/
  minLevel : ℤ
  maxLevel : ℤ
  reqLoyalty : ℤ
  reqMoney : ℤ

/-- A number of minutes as seconds: `(minutes as u64) * 60`. -/
def minuteSecs (minutes : ℤ) : ℕ := asU64 minutes * 60 % 2 ^ 64

/-- A sum of `u64`s. -/
def addSecs (time secs : ℕ) : ℕ := (time + secs) % 2 ^ 64

/-- `open_virtual_event` at the time `now`. The requirements are not read. -/
def openVirtualEvent (erm : EventRoomManager) (params : EventOpenParams) (now : ℕ) :
    EventRoomManager :=
  let signSecs := minuteSecs params.vroomOpts.sign
  let closeTime := addSecs signSecs (minuteSecs params.vroomOpts.play)
  erm.resetTempleEvent.updateTempleEvent fun s =>
    { s with
      isAttackable := false
      allowJoin := true
      activeEvent := some params.eventType
      zoneId := params.eventType.zoneId
      startTime := now
      closedTime := addSecs now closeTime
      signRemainSeconds := addSecs now signSecs
      isAutomatic := params.isAutomatic }

inductive EventPhase where
  | inactive
  | registration
  | countdown
  | active
  | rewards
  | cleanup
  deriving DecidableEq

def TempleEventState.currentPhase (s : TempleEventState) : EventPhase :=
  if s.activeEvent = none then .inactive
  else if s.timerResetControl then .cleanup
  else if s.timerFinishControl then .rewards
  else if !s.isActive then .registration
  else if !s.timerStartControl then .countdown
  else .active

namespace EventRoomManager

variable (erm : EventRoomManager)

def transitionToActive : EventRoomManager :=
  erm.updateTempleEvent fun s =>
    { s with
      allowJoin := false
      signRemainSeconds := 0
      lastEventRoom := 1
      isActive := true
      timerStartControl := true }

def transitionToFinish : EventRoomManager :=
  erm.updateTempleEvent fun s => { s with timerFinishControl := true }

def transitionToReset : EventRoomManager :=
  erm.updateTempleEvent fun s => { s with timerResetControl := true }

def manualClose (now : ℕ) : EventRoomManager :=
  erm.updateTempleEvent fun s =>
    if s.activeEvent = none || !s.isActive || s.manualClose then s
    else { s with manualClose := true, manualClosedTime := now }

end EventRoomManager

namespace TempleEventState

variable (s : TempleEventState) (opts : VroomOpt) (now : ℕ)

/-- `is_sign_expired_at`, a second later in the war. -/
def isSignExpiredAt : Bool :=
  let expires := addSecs s.startTime (minuteSecs opts.sign)
  if s.activeEvent = some .borderDefenceWar then expires < now else expires ≤ now

/-- The time of `sign` and `minutes` more minutes; they are added as `i32`. -/
def timeOf (minutes : ℤ) : ℕ := addSecs s.startTime (minuteSecs (asI32 (opts.sign + minutes)))

def isPlayExpiredAt : Bool := s.timeOf opts opts.play ≤ now

/-- `is_reset_expired_at`: a minute later but in the dungeon. -/
def isResetExpiredAt : Bool :=
  let extraMin := if s.activeEvent = some .chaosDungeon then 0 else 1
  addSecs s.startTime
    (addSecs (minuteSecs (asI32 (asI32 (opts.sign + opts.play) + extraMin))) (asU64 opts.finish)) ≤
      now

def isManualExpiredAt : Bool := addSecs s.manualClosedTime (asU64 opts.finish) ≤ now

def attackOpenTick : TempleEventState :=
  if !s.timerAttackOpenControl && !s.isAttackable && s.timeOf opts opts.attackOpen ≤ now then
    { s with isAttackable := true, timerAttackOpenControl := true }
  else s

def attackCloseTick : TempleEventState :=
  if !s.timerAttackCloseControl && s.isAttackable && s.timeOf opts opts.attackClose ≤ now then
    { s with isAttackable := false, timerAttackCloseControl := true }
  else s

end TempleEventState

def MATTOCK : ℕ := 389132000
def GOLDEN_MATTOCK : ℕ := 389135000
def FISHING_ROD : ℕ := 191346000
def GOLDEN_FISHING_ROD : ℕ := 191347000

structure EventPlayer where
  name : List Char
  nation : ℕ
  zoneId : ℕ
  level : ℤ
  loyalty : ℤ
  gold : ℤ
  isMining : Bool := false
  isFishing : Bool := false
  rightHandItem : ℕ := 0

def EventPlayer.holdsTool (p : EventPlayer) : Bool :=
  p.isMining || p.isFishing || p.rightHandItem = MATTOCK || p.rightHandItem = GOLDEN_MATTOCK ||
  p.rightHandItem = FISHING_ROD || p.rightHandItem = GOLDEN_FISHING_ROD

/-- The checks of `handle_temple_join`, in its order. -/
def templeJoinRefused (s : TempleEventState) (p : EventPlayer) : Bool :=
  p.zoneId = ZONE_PRISON ||
  (p.zoneId = TempleEventType.borderDefenceWar.zoneId ||
    p.zoneId = TempleEventType.chaosDungeon.zoneId ||
    p.zoneId = TempleEventType.juraidMountain.zoneId) ||
  (s.activeEvent = none || !s.allowJoin) || s.isActive ||
  (s.activeEvent = some .chaosDungeon && p.holdsTool)

def handleTempleJoin (erm : EventRoomManager) (sid : ℕ) (p : EventPlayer) : EventRoomManager :=
  if templeJoinRefused erm.templeEvent p then erm
  else
    match erm.addSignedUpUser p.name sid p.nation with
    | none => erm
    | some erm' => erm'.countIn p.nation

def withdrawSignUp (erm : EventRoomManager) (name : List Char) : EventRoomManager :=
  match erm.removeSignedUpUser name with
  | none => erm
  | some (user, erm') => erm'.countOut user.nation

def handleTempleDisband (erm : EventRoomManager) (p : EventPlayer) : EventRoomManager :=
  if p.zoneId = ZONE_PRISON || erm.templeEvent.activeEvent = none || erm.templeEvent.isActive then
    erm
  else withdrawSignUp erm p.name

def signUpCleanup (erm : EventRoomManager) (name : List Char) : EventRoomManager :=
  if erm.templeEvent.activeEvent ≠ none ∧ erm.templeEvent.isActive = false then
    withdrawSignUp erm name
  else erm

end KoServer
