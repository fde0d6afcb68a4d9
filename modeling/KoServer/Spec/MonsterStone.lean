import KoServer.Spec.BagItems
import KoServer.Spec.Party

/-! Monster Stone rooms: `systems/monster_stone.rs`, `handle_monster_stone` of `handler/event.rs`,
the boss kill of `handler/attack.rs`, the exits of `handler/zone_change.rs` and of a logout, and the
timer of `systems/event_system.rs`. Monsters, vendors and packets are left out. -/

namespace KoServer

def STONE_MAX_ROOMS : ℕ := 750
def ROOM_DURATION_SECS : ℕ := 1800
def FINISH_GRACE_SECS : ℕ := 20
def ITEM_STONE1 : ℕ := 300144036
def ITEM_STONE2 : ℕ := 300145037
def ITEM_STONE3 : ℕ := 300146038
def ITEM_UNIVERSAL : ℕ := 900144023
def ZONE_MORADON : ℕ := 21
def ZONE_STONE1 : ℕ := 81
def ZONE_STONE2 : ℕ := 82
def ZONE_STONE3 : ℕ := 83
def ZONE_DRAKI_TOWER : ℕ := 95

def isMonsterStoneZone (zoneId : ℕ) : Bool :=
  zoneId = ZONE_STONE1 || zoneId = ZONE_STONE2 || zoneId = ZONE_STONE3

def isInTempleEventZone (zoneId : ℕ) : Bool :=
  zoneId = ZONE_BORDER_DEFENSE_WAR || zoneId = ZONE_CHAOS_DUNGEON || zoneId = ZONE_JURAID_MOUNTAIN

structure MonsterStoneRoom where
  roomId : ℕ
  usable : Bool := true
  active : Bool := false
  zoneId : ℕ := 0
  monsterFamily : ℕ := 0
  startZoneId : ℕ := 0
  startTime : ℕ := 0
  finishTime : ℕ := 0
  waitingTime : ℕ := 0
  bossKilled : Bool := false
  users : List ℕ := []
  deriving DecidableEq

namespace MonsterStoneRoom

variable (r : MonsterStoneRoom)

/-- The id and `usable` stay. -/
def reset : MonsterStoneRoom := { roomId := r.roomId, usable := r.usable }

def isAvailable : Bool := r.usable && !r.active && r.users.isEmpty

/-- What `activate_room` makes of an available room. -/
def activate (zoneId monsterFamily startZoneId now : ℕ) : MonsterStoneRoom :=
  { r with
    active := true
    zoneId := zoneId
    monsterFamily := monsterFamily
    startZoneId := startZoneId
    startTime := now
    finishTime := now + ROOM_DURATION_SECS
    bossKilled := false
    waitingTime := 0 }

/-- The check of `timer_tick`. -/
def expired (now : ℕ) : Bool :=
  r.usable && r.active &&
    (!r.bossKilled && r.finishTime ≤ now ||
      r.bossKilled && 0 < r.waitingTime && r.waitingTime ≤ now)

end MonsterStoneRoom

structure MonsterStoneManager where
  rooms : List MonsterStoneRoom

namespace MonsterStoneManager

variable (mgr : MonsterStoneManager)

/-- `MonsterStoneManager::new`. -/
def new : MonsterStoneManager := ⟨(List.range STONE_MAX_ROOMS).map fun id => { roomId := id }⟩

def allocateRoom : Option ℕ := (mgr.rooms.find? (·.isAvailable)).map (·.roomId)

def getRoom (roomId : ℕ) : Option MonsterStoneRoom := mgr.rooms[roomId]?

/-- What is done with a room under `get_mut`. -/
def updateRoom (roomId : ℕ) (f : MonsterStoneRoom → MonsterStoneRoom) : MonsterStoneManager :=
  ⟨mgr.rooms.modify roomId f⟩

def activateRoom (roomId zoneId monsterFamily startZoneId now : ℕ) : MonsterStoneManager :=
  mgr.updateRoom roomId fun r =>
    if r.isAvailable then r.activate zoneId monsterFamily startZoneId now else r

/-- `timer_tick`: the expired rooms are no longer active, and listed. -/
def timerTick (now : ℕ) : MonsterStoneManager × List ℕ :=
  (⟨mgr.rooms.map fun r => if r.expired now then { r with active := false } else r⟩,
    (mgr.rooms.filter (·.expired now)).map (·.roomId))

def bossKilled (roomId now : ℕ) : MonsterStoneManager :=
  mgr.updateRoom roomId fun r =>
    if !r.active || r.bossKilled then r
    else { r with bossKilled := true, waitingTime := now + FINISH_GRACE_SECS }

/-- `reset_room`, with the users that it returns. -/
def resetRoom (roomId : ℕ) : MonsterStoneManager × List ℕ :=
  (mgr.updateRoom roomId (·.reset), ((mgr.getRoom roomId).map (·.users)).getD [])

def addUser (roomId sid : ℕ) : MonsterStoneManager :=
  mgr.updateRoom roomId fun r =>
    if sid ∈ r.users then r else { r with users := r.users ++ [sid] }

def findUserRoom (sid : ℕ) : Option ℕ :=
  (mgr.rooms.find? fun r => r.active && sid ∈ r.users).map (·.roomId)

end MonsterStoneManager

def genRange (roll lo hi : ℕ) : ℕ := lo + roll % (hi + 1 - lo)

def universalStoneZoneFamily (level roll : ℕ) : Option (ℕ × ℕ) :=
  if level < 20 then none
  else if level ≤ 29 then some (ZONE_STONE1, 1)
  else if level ≤ 35 then some (ZONE_STONE1, 2)
  else if level ≤ 40 then some (ZONE_STONE1, 3)
  else if level ≤ 46 then some (ZONE_STONE1, 4)
  else if level ≤ 55 then
    let family := genRange roll 4 5
    some (if family ≤ 4 then ZONE_STONE1 else ZONE_STONE2, family)
  else if level ≤ 60 then some (ZONE_STONE2, genRange roll 6 8)
  else if level ≤ 66 then some (ZONE_STONE2, genRange roll 8 9)
  else if level ≤ 70 then
    let family := genRange roll 9 10
    some (if family = 9 then ZONE_STONE2 else ZONE_STONE3, family)
  else if level ≤ 74 then some (ZONE_STONE3, genRange roll 10 12)
  else some (ZONE_STONE3, 13)

def itemToZone (itemId : ℕ) : Option ℕ :=
  if itemId = ITEM_STONE1 then some ZONE_STONE1
  else if itemId = ITEM_STONE2 then some ZONE_STONE2
  else if itemId = ITEM_STONE3 then some ZONE_STONE3
  else none

def randomFamilyForZone (zoneId roll : ℕ) : ℕ :=
  if zoneId = ZONE_STONE1 then genRange roll 1 4
  else if zoneId = ZONE_STONE2 then genRange roll 5 9
  else if zoneId = ZONE_STONE3 then genRange roll 10 13
  else 1

def isMonsterStoneItem (itemId : ℕ) : Bool :=
  itemId ∈ [ITEM_STONE1, ITEM_STONE2, ITEM_STONE3, ITEM_UNIVERSAL]

/-- What a session in the game holds that the stones read. -/
structure StoneUser where
  zoneId : ℕ
  level : ℕ
  hp : ℤ
  maxHp : ℤ
  trading : Bool := false
  merchanting : Bool := false
  mining : Bool := false
  fishing : Bool := false
  joinedEvent : Bool := false
  drakiRoomId : ℕ := 0
  inventory : Inventory
  eventRoom : ℕ := 0
  monsterStoneStatus : Bool := false

/-- The cleanups of `trigger_zone_change` for who leaves the dungeon defence, the chaos dungeon, the
Draki tower or a temple event. -/
def StoneUser.forgetRoom (zoneId dest : ℕ) (u : StoneUser) : StoneUser :=
  let defence : Bool := zoneId = ZONE_DUNGEON_DEFENCE && dest ≠ ZONE_DUNGEON_DEFENCE
  let chaos : Bool := zoneId = ZONE_CHAOS_DUNGEON && dest ≠ ZONE_CHAOS_DUNGEON && u.joinedEvent
  let draki : Bool := zoneId = ZONE_DRAKI_TOWER && dest ≠ ZONE_DRAKI_TOWER && 0 < u.drakiRoomId
  let u' :=
    { u with
      eventRoom := if defence || chaos || draki then 0 else u.eventRoom
      drakiRoomId := if draki then 0 else u.drakiRoomId }
  if isInTempleEventZone zoneId && !isInTempleEventZone dest && 0 < u'.eventRoom then
    { u' with eventRoom := 0, monsterStoneStatus := false, joinedEvent := false }
  else u'

structure StoneEnv where
  table : ItemTable
  monsterstoneStatus : Bool
  newMonsterstone : ℕ
  /-- `get_monster_stone_spawns` finds some. -/
  hasSpawns : ℕ → ℕ → Bool

structure StoneWorld where
  manager : MonsterStoneManager
  sessions : ℕ → Option StoneUser

/-- A stone is used: who is in the party, if there is one, what is drawn, and whether the warp of
`trigger_zone_change` is let through. -/
structure StoneRequest where
  itemId : ℕ
  party : Option (List ℕ)
  roll : ℕ
  admitted : Bool
  now : ℕ

namespace StoneWorld

variable (w : StoneWorld)

/-- `update_session`. -/
def updateUser (sid : ℕ) (f : StoneUser → StoneUser) : StoneWorld :=
  { w with sessions := Function.update w.sessions sid ((w.sessions sid).map f) }

/-- `server_teleport_to_zone`. -/
def serverTeleportToZone (sid zoneId : ℕ) : StoneWorld :=
  w.updateUser sid fun u => { u with zoneId := zoneId }

/-- A user of a room that is given up: `event_room` and the status are cleared. -/
def clearRoom (sid : ℕ) : StoneWorld :=
  w.updateUser sid fun u => { u with eventRoom := 0, monsterStoneStatus := false }

/-- `monster_stone_exit_room`. -/
def exitRoom (sid : ℕ) : StoneWorld :=
  match w.manager.findUserRoom sid with
  | none => w.clearRoom sid
  | some roomId =>
    let (manager, users) := w.manager.resetRoom roomId
    users.foldl (fun w uid =>
      let w' := w.clearRoom uid
      let inStoneZone := ((w'.sessions uid).map fun u => isMonsterStoneZone u.zoneId).getD false
      if uid ≠ sid ∧ inStoneZone = true then w'.serverTeleportToZone uid ZONE_MORADON else w')
      { w with manager := manager }

/-- `trigger_zone_change`; its other checks let the warp through or not. -/
def triggerZoneChange (sid dest : ℕ) (admitted : Bool) : StoneWorld :=
  match w.sessions sid with
  | none => w
  | some u =>
    if !admitted || u.zoneId = dest then w
    else
      let w₁ :=
        if isMonsterStoneZone u.zoneId && !isMonsterStoneZone dest && 0 < u.eventRoom then
          w.exitRoom sid
        else w
      (w₁.updateUser sid (StoneUser.forgetRoom u.zoneId dest)).serverTeleportToZone sid dest

/-- Who comes along: nobody who trades, is in a PK zone or is dead. -/
def isEligible (sid : ℕ) : Bool :=
  match w.sessions sid with
  | none => false
  | some u =>
    !u.trading && !u.merchanting && !(71 ≤ u.zoneId && u.zoneId ≤ 73) && 0 < u.hp

def eligibleMembers (sid : ℕ) (party : Option (List ℕ)) : List ℕ :=
  match party with
  | none => [sid]
  | some members => members.filter w.isEligible

end StoneWorld

def StoneEnv.zoneFamily (env : StoneEnv) (itemId level roll : ℕ) : Option (ℕ × ℕ) :=
  if env.newMonsterstone ≠ 0 then
    if itemId = ITEM_UNIVERSAL then none
    else (itemToZone itemId).map fun zoneId => (zoneId, randomFamilyForZone zoneId roll)
  else if itemId ≠ ITEM_UNIVERSAL then none
  else universalStoneZoneFamily level roll

/-- An activation that has passed its checks: the room, its zone and family, and the inventory that
the stone was taken from. -/
structure StoneEntry where
  roomId : ℕ
  zoneId : ℕ
  family : ℕ
  startZoneId : ℕ
  inventory : Inventory

namespace StoneWorld

variable (env : StoneEnv) (w : StoneWorld) (sid : ℕ)

/-- The checks of `handle_monster_stone`, in its order. -/
def stoneEntry (r : StoneRequest) : Option StoneEntry :=
  match w.sessions sid with
  | none => none
  | some u =>
    if u.trading || u.merchanting || u.mining || u.fishing then none
    else if !env.monsterstoneStatus then none
    else if !isMonsterStoneItem r.itemId then none
    else if u.hp < u.maxHp.tdiv 2 then none
    else if u.zoneId = ZONE_PRISON || isMonsterStoneZone u.zoneId || isInTempleEventZone u.zoneId then
      none
    else if 0 < u.eventRoom then none
    else if !checkExistItemCount u.inventory r.itemId 1 then none
    else
      match w.manager.allocateRoom with
      | none => none
      | some roomId =>
        match env.zoneFamily r.itemId u.level r.roll with
        | none => none
        | some (zoneId, family) =>
          if !env.hasSpawns zoneId family then none
          else (robItem env.table u.inventory r.itemId 1).map fun inv =>
            ⟨roomId, zoneId, family, u.zoneId, inv⟩

def enterRoom (r : StoneRequest) (entry : StoneEntry) (members : List ℕ) : StoneWorld :=
  let manager := members.foldl (fun mgr m => mgr.addUser entry.roomId m)
    (w.manager.activateRoom entry.roomId entry.zoneId entry.family entry.startZoneId r.now)
  let w₁ := members.foldl (fun w m =>
    w.updateUser m fun u => { u with eventRoom := entry.roomId + 1, monsterStoneStatus := true })
    { w with manager := manager }
  members.foldl (fun w m =>
    if m = sid then w.triggerZoneChange sid entry.zoneId r.admitted
    else w.serverTeleportToZone m entry.zoneId) w₁

/-- `handle_monster_stone`. -/
def handleMonsterStone (r : StoneRequest) : StoneWorld :=
  match w.stoneEntry env sid r with
  | none => w
  | some entry =>
    let w := w.updateUser sid fun u => { u with inventory := entry.inventory }
    w.enterRoom sid r entry (w.eligibleMembers sid r.party)

def expireRoom (roomId : ℕ) : StoneWorld :=
  match w.manager.getRoom roomId with
  | none => w
  | some room =>
    let w := room.users.foldl (fun w uid => (w.clearRoom uid).serverTeleportToZone uid ZONE_MORADON) w
    { w with manager := (w.manager.resetRoom roomId).1 }

/-- The Monster Stone part of the event task's tick. -/
def stoneTick (now : ℕ) : StoneWorld :=
  let (manager, expired) := w.manager.timerTick now
  expired.foldl expireRoom { w with manager := manager }

/-- `monster_stone_boss_kill`, of a boss in the room `event_room`. -/
def monsterStoneBossKill (eventRoom now : ℕ) : StoneWorld :=
  if 0 < eventRoom then { w with manager := w.manager.bossKilled (eventRoom - 1) now } else w

/-- The cleanups of a logout and of a lost connection, which are alike, and the end of the
session. -/
def disconnect : StoneWorld :=
  match w.sessions sid with
  | none => w
  | some u =>
    let w₁ := if 0 < u.eventRoom then w.exitRoom sid else w
    { w₁ with sessions := Function.update w₁.sessions sid none }

end StoneWorld

/-- `changed` is whatever else happens to a session; it moves neither the room nor the status. -/
inductive StoneStep where
  | enterGame (sid : ℕ) (u : StoneUser)
  | changed (sid : ℕ) (u : StoneUser)
  | activate (sid : ℕ) (r : StoneRequest)
  | bossKill (eventRoom now : ℕ)
  | tick (now : ℕ)
  | zoneChange (sid dest : ℕ) (admitted : Bool)
  | logout (sid : ℕ)
  | disconnect (sid : ℕ)

namespace StoneWorld

def step (env : StoneEnv) (w : StoneWorld) : StoneStep → StoneWorld
  | .enterGame sid u =>
    if (w.sessions sid).isSome then w
    else
      { w with
        sessions :=
          Function.update w.sessions sid (some { u with eventRoom := 0, monsterStoneStatus := false }) }
  | .changed sid u =>
    w.updateUser sid fun v =>
      { u with eventRoom := v.eventRoom, monsterStoneStatus := v.monsterStoneStatus }
  | .activate sid r => w.handleMonsterStone env sid r
  | .bossKill eventRoom now => w.monsterStoneBossKill eventRoom now
  | .tick now => w.stoneTick now
  | .zoneChange sid dest admitted => w.triggerZoneChange sid dest admitted
  | .logout sid => w.disconnect sid
  | .disconnect sid => w.disconnect sid

def start : StoneWorld := ⟨MonsterStoneManager.new, fun _ => none⟩

end StoneWorld

end KoServer
