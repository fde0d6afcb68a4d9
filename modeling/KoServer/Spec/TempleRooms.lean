import KoServer.Spec.TempleEvent

/-! The rooms of an event: how they are filled, scored, won, rewarded and closed, and the tick that
drives the event (`systems/event_room.rs`, `event_system.rs`, `bdw.rs`, `juraid.rs`, `chaos.rs`, the
kill tracking of `handler/dead.rs` and `bdw_user_logout`). Altars, bridges and packets are left
out. -/

namespace KoServer

def MAX_TEMPLE_EVENT_ROOM : ℕ := 60
def MAX_ROOM_USERS_PER_NATION : ℕ := 8
def MAX_CHAOS_ROOM_USERS : ℕ := 18
def DEFAULT_BDW_ROOMS : ℕ := 10
def DEFAULT_JURAID_ROOMS : ℕ := 10
def DEFAULT_CHAOS_ROOMS : ℕ := 10
def KILL_POINTS : ℕ := 1
def ALTAR_DELIVERY_POINTS : ℕ := 10
def WINNER_SCREEN_COUNTDOWN_SECS : ℕ := 20

namespace EventRoom

variable (r : EventRoom)

def users : List EventUser := r.karusUsers ++ r.elmoradUsers ++ r.mixedUsers

def addUser (user : EventUser) : Option EventRoom :=
  let insert (users : List EventUser) := users.filter (·.userName ≠ user.userName) ++ [user]
  match r.eventType with
  | .chaosDungeon =>
    if MAX_CHAOS_ROOM_USERS ≤ r.mixedUsers.length then none
    else some { r with mixedUsers := insert r.mixedUsers }
  | _ =>
    if user.nation = 1 then
      if MAX_ROOM_USERS_PER_NATION ≤ r.karusUsers.length then none
      else some { r with karusUsers := insert r.karusUsers }
    else
      if MAX_ROOM_USERS_PER_NATION ≤ r.elmoradUsers.length then none
      else some { r with elmoradUsers := insert r.elmoradUsers }

/-- `get_user`. -/
def hasUser (name : List Char) : Bool := r.users.any (·.userName = name)

def activeKarus : ℕ := r.karusUsers.countP (!·.loggedOut)

def activeElmorad : ℕ := r.elmoradUsers.countP (!·.loggedOut)

end EventRoom

namespace EventRoomManager

variable (erm : EventRoomManager) (t : TempleEventType)

/-- `create_rooms`: new rooms in the place of the old. -/
def createRooms (maxRooms : ℕ) : EventRoomManager :=
  let count := min maxRooms MAX_TEMPLE_EVENT_ROOM
  { erm with
    rooms := erm.rooms.filter (fun r => ¬(r.eventType = t ∧ 1 ≤ r.roomId ∧ r.roomId ≤ count)) ++
      (List.range' 1 count).map fun id => { roomId := id, eventType := t } }

def destroyRooms : EventRoomManager := { erm with rooms := erm.rooms.filter (·.eventType ≠ t) }

/-- `list_rooms`, with the rooms themselves. -/
def listRooms : List EventRoom := erm.rooms.filter (·.eventType = t)

def getRoom (roomId : ℕ) : Option EventRoom := (erm.listRooms t).find? (·.roomId = roomId)

/-- What is done with the room under `get_room_mut`. -/
def updateRoom (roomId : ℕ) (f : EventRoom → EventRoom) : EventRoomManager :=
  { erm with
    rooms := erm.rooms.map fun r => if r.eventType = t ∧ r.roomId = roomId then f r else r }

def findUserRoom (name : List Char) : Option (ℕ × Bool) :=
  ((erm.listRooms t).find? (·.hasUser name)).map fun r => (r.roomId, r.finished)

def updateUserRoom (name : List Char) (f : EventRoom → EventRoom) : EventRoomManager :=
  match erm.findUserRoom t name with
  | none => erm
  | some (roomId, _) => erm.updateRoom t roomId f

end EventRoomManager

def SignedUpUser.enter (u : SignedUpUser) (nation : ℕ) : EventUser where
  userName := u.userName
  sessionId := u.sessionId
  nation := nation

def fillSlots (nation : ℕ) :
    ℕ → List SignedUpUser → EventRoom → List SignedUpUser × EventRoom
  | 0, queue, r => (queue, r)
  | _ + 1, [], r => ([], r)
  | slots + 1, u :: queue, r =>
    match r.addUser (u.enter nation) with
    | none => fillSlots nation slots (u :: queue) r
    | some r' => fillSlots nation slots queue r'

def fillRooms : List EventRoom → List SignedUpUser → List SignedUpUser → List EventRoom
  | [], _, _ => []
  | r :: rooms, karus, elmorad =>
    if karus = [] ∧ elmorad = [] then r :: rooms
    else
      let (karus', r') := fillSlots 1 (MAX_ROOM_USERS_PER_NATION - r.karusUsers.length) karus r
      let (elmorad', r'') :=
        fillSlots 2 (MAX_ROOM_USERS_PER_NATION - r'.elmoradUsers.length) elmorad r'
      { r'' with state := .running } :: fillRooms rooms karus' elmorad'

/-- The dungeon does not part the nations; who is not let in is passed over. -/
def fillMixed : ℕ → List SignedUpUser → EventRoom → List SignedUpUser × EventRoom
  | 0, queue, r => (queue, r)
  | _ + 1, [], r => ([], r)
  | slots + 1, u :: queue, r =>
    match r.addUser (u.enter u.nation) with
    | none => fillMixed slots queue r
    | some r' => fillMixed slots queue r'

def fillMixedRooms : List EventRoom → List SignedUpUser → List EventRoom
  | [], _ => []
  | r :: rooms, queue =>
    let (queue', r') := fillMixed (MAX_CHAOS_ROOM_USERS - r.mixedUsers.length) queue r
    (if r'.mixedUsers = [] then r' else { r' with state := .running }) ::
      fillMixedRooms rooms queue'

namespace EventRoomManager

variable (erm : EventRoomManager) (t : TempleEventType)

/-- The rooms of the event by their ids, as `fill` leaves them. -/
def fillWith (fill : List EventRoom → List EventRoom) : EventRoomManager :=
  { erm with
    rooms := (erm.destroyRooms t).rooms ++
      fill ((erm.listRooms t).mergeSort fun a b => a.roomId ≤ b.roomId) }

def nationQueue (nation : ℕ) : List SignedUpUser :=
  (erm.signedUpUsers.filter (·.nation = nation)).mergeSort fun a b => a.joinOrder ≤ b.joinOrder

/-- `assign_users_to_rooms` of the war and of the mountain. -/
def assignNations : EventRoomManager :=
  if erm.signedUpUsers = [] then erm
  else erm.fillWith t fun rooms => fillRooms rooms (erm.nationQueue 1) (erm.nationQueue 2)

/-- `assign_users_to_rooms` of the dungeon. -/
def assignMixed : EventRoomManager :=
  if erm.signedUpUsers = [] then erm
  else
    erm.fillWith t fun rooms =>
      fillMixedRooms rooms (erm.signedUpUsers.mergeSort fun a b => a.joinOrder ≤ b.joinOrder)

end EventRoomManager

/-! What the assignments return. The loops are those above, with their count `total_assigned`. -/

def assignedSlots (nation : ℕ) : ℕ → List SignedUpUser → EventRoom → ℕ
  | 0, _, _ => 0
  | _ + 1, [], _ => 0
  | slots + 1, u :: queue, r =>
    match r.addUser (u.enter nation) with
    | none => assignedSlots nation slots (u :: queue) r
    | some r' => 1 + assignedSlots nation slots queue r'

def assignedRooms : List EventRoom → List SignedUpUser → List SignedUpUser → ℕ
  | [], _, _ => 0
  | r :: rooms, karus, elmorad =>
    if karus = [] ∧ elmorad = [] then 0
    else
      let slots := MAX_ROOM_USERS_PER_NATION - r.karusUsers.length
      let (karus', r') := fillSlots 1 slots karus r
      let slots' := MAX_ROOM_USERS_PER_NATION - r'.elmoradUsers.length
      let (elmorad', _) := fillSlots 2 slots' elmorad r'
      assignedSlots 1 slots karus r + assignedSlots 2 slots' elmorad r' +
        assignedRooms rooms karus' elmorad'

def assignedMixed : ℕ → List SignedUpUser → EventRoom → ℕ
  | 0, _, _ => 0
  | _ + 1, [], _ => 0
  | slots + 1, u :: queue, r =>
    match r.addUser (u.enter u.nation) with
    | none => assignedMixed slots queue r
    | some r' => 1 + assignedMixed slots queue r'

def assignedMixedRooms : List EventRoom → List SignedUpUser → ℕ
  | [], _ => 0
  | r :: rooms, queue =>
    let slots := MAX_CHAOS_ROOM_USERS - r.mixedUsers.length
    assignedMixed slots queue r + assignedMixedRooms rooms (fillMixed slots queue r).1

namespace EventRoomManager

variable (erm : EventRoomManager) (t : TempleEventType)

def sortedRooms : List EventRoom := (erm.listRooms t).mergeSort fun a b => a.roomId ≤ b.roomId

/-- What `assign_users_to_rooms` of the war and of the mountain returns. -/
def assignNationsTotal : ℕ :=
  if erm.signedUpUsers = [] then 0
  else assignedRooms (erm.sortedRooms t) (erm.nationQueue 1) (erm.nationQueue 2)

/-- What `assign_users_to_rooms` of the dungeon returns. -/
def assignMixedTotal : ℕ :=
  if erm.signedUpUsers = [] then 0
  else
    assignedMixedRooms (erm.sortedRooms t)
      (erm.signedUpUsers.mergeSort fun a b => a.joinOrder ≤ b.joinOrder)

end EventRoomManager

def computeWinThreshold (totalPlayers : ℕ) : ℕ :=
  if 16 ≤ totalPlayers then 600
  else if 10 ≤ totalPlayers then 400
  else if 5 ≤ totalPlayers then 300
  else 130

namespace EventRoom

variable (r : EventRoom)

/-- `check_win_condition`: the winner, if there is one now. -/
def checkWinCondition : Option ℕ :=
  let threshold := computeWinThreshold (r.activeKarus + r.activeElmorad)
  if r.winnerNation ≠ 0 then none
  else if threshold ≤ r.elmoradScore then some 2
  else if threshold ≤ r.karusScore then some 1
  else none

def finishWith (winner now : ℕ) : EventRoom :=
  { r with
    winnerNation := winner
    finishPacketSent := true
    finishTimeCounter := now + WINNER_SCREEN_COUNTDOWN_SECS }

def scorePoints (points nation now : ℕ) : EventRoom :=
  if r.finishPacketSent then r
  else
    let r' :=
      if nation = 2 ∧ 0 < r.activeElmorad then
        { r with elmoradScore := r.elmoradScore + points * r.activeElmorad }
      else if nation = 1 ∧ 0 < r.activeKarus then
        { r with karusScore := r.karusScore + points * r.activeKarus }
      else r
    match r'.checkWinCondition with
    | none => r'
    | some winner => r'.finishWith winner now

def markLoggedOut (name : List Char) : EventRoom :=
  let mark (u : EventUser) := if u.userName = name then { u with loggedOut := true } else u
  if r.karusUsers.any (·.userName = name) then { r with karusUsers := r.karusUsers.map mark }
  else { r with elmoradUsers := r.elmoradUsers.map mark }

def forfeit (now : ℕ) : EventRoom :=
  if r.finishPacketSent || r.winnerNation ≠ 0 then r
  else if r.activeKarus = 0 ∧ 0 < r.activeElmorad then r.finishWith 2 now
  else if r.activeElmorad = 0 ∧ 0 < r.activeKarus then r.finishWith 1 now
  else r

end EventRoom

namespace EventRoomManager

variable (erm : EventRoomManager) (name : List Char) (nation now : ℕ)

/-- The event is past the sign-up: `is_bdw_active` and its like. -/
def isRunning (t : TempleEventType) : Bool :=
  erm.templeEvent.activeEvent = some t && erm.templeEvent.isActive

def trackBdwPlayerKill : EventRoomManager :=
  if erm.isRunning .borderDefenceWar then
    erm.updateUserRoom .borderDefenceWar name fun r => r.scorePoints KILL_POINTS nation now
  else erm

/-- `altar_delivery_score_change`. -/
def altarDelivery : EventRoomManager :=
  if erm.isRunning .borderDefenceWar then
    erm.updateUserRoom .borderDefenceWar name fun r =>
      r.scorePoints ALTAR_DELIVERY_POINTS nation now
  else erm

def trackJuraidMonsterKill : EventRoomManager :=
  if erm.isRunning .juraidMountain then
    erm.updateUserRoom .juraidMountain name fun r =>
      if nation = 1 then { r with karusScore := r.karusScore + 1 }
      else { r with elmoradScore := r.elmoradScore + 1 }
  else erm

def trackJuraidPvpKill : EventRoomManager :=
  if erm.isRunning .juraidMountain then
    erm.updateUserRoom .juraidMountain name fun r =>
      if r.finishPacketSent then r
      else if nation = 2 then { r with elmoradScore := r.elmoradScore + 1 }
      else { r with karusScore := r.karusScore + 1 }
  else erm

def trackChaosPvpKill (deadName : List Char) : EventRoomManager :=
  let kill (u : EventUser) := if u.userName = name then { u with kills := u.kills + 1 } else u
  let die (u : EventUser) := if u.userName = deadName then { u with deaths := u.deaths + 1 } else u
  if erm.isRunning .chaosDungeon then
    erm.updateUserRoom .chaosDungeon name fun r =>
      { r with mixedUsers := r.mixedUsers.map fun u => die (kill u) }
  else erm

/-- `bdw_user_logout`, for a player in the zone. -/
def bdwUserLogout (zoneId : ℕ) : EventRoomManager :=
  if erm.isRunning .borderDefenceWar && zoneId = TempleEventType.borderDefenceWar.zoneId then
    erm.updateUserRoom .borderDefenceWar name fun r => (r.markLoggedOut name).forfeit now
  else erm

end EventRoomManager

end KoServer
