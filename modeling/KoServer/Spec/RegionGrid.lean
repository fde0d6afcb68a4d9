import Mathlib.Data.List.Nodup
import Mathlib.Data.Rat.Floor
import KoServer.Spec.Frames
import KoServer.Spec.MonsterStone
import KoServer.Spec.Warehouse

/-! The region grid of a zone and the stored positions: `zone.rs`, `update_position` of
`world/session.rs`, and what moves a session in `handler/move_handler.rs`,
`handler/zone_change.rs`, `systems/event_room.rs` and `systems/event_system.rs`. Heights and
packets are left out. -/

namespace KoServer

def VIEW_DISTANCE : ℕ := 48
def ZONE_KARUS : ℕ := 1
def ZONE_ELMORAD : ℕ := 2
def NATION_CAPITAL_MIN_LEVEL : ℕ := 35

/-- `pos as u16`, which saturates. -/
def posAsU16 (pos : ℚ) : ℕ := min ⌊pos⌋.toNat U16_MAX

def calcRegion (pos : ℚ) : ℕ := posAsU16 pos / VIEW_DISTANCE

/-- The `HashSet` of a cell. -/
structure Region where
  users : List ℕ := []
  nodup : users.Nodup := by simp

namespace Region

variable (r : Region) (id : ℕ)

def insert : Region := ⟨r.users.insert id, r.nodup.insert⟩

def remove : Region := ⟨r.users.erase id, r.nodup.erase id⟩

end Region

/-- The map that a zone is loaded with: its size, and its width and height where there is an SMD
file. -/
structure ZoneMap where
  mapSize : ℕ
  mapSize_le : mapSize ≤ U16_MAX
  mapData : Option (ℚ × ℚ) := none

/-- Cells outside of the grid are neither read nor written. -/
structure ZoneState extends ZoneMap where
  regions : ℕ → ℕ → Region

namespace ZoneState

variable (zone : ZoneState)

/-- `max_region_x` and `max_region_z`, which `build_region_grid` makes the same. -/
def maxRegion : ℕ := zone.mapSize / VIEW_DISTANCE + 1

def isValidPosition (x z : ℚ) : Bool :=
  match zone.mapData with
  | some (width, height) => 0 ≤ x && 0 ≤ z && x < width && z < height
  | none => true

def getRegion (rx rz : ℕ) : Option Region :=
  if zone.maxRegion ≤ rx ∨ zone.maxRegion ≤ rz then none else some (zone.regions rx rz)

def setRegion (rx rz : ℕ) (r : Region) : ZoneState :=
  { zone with regions := Function.update zone.regions rx (Function.update (zone.regions rx) rz r) }

def addUser (rx rz id : ℕ) : ZoneState :=
  match zone.getRegion rx rz with
  | some r => zone.setRegion rx rz (r.insert id)
  | none => zone

def removeUser (rx rz id : ℕ) : ZoneState :=
  match zone.getRegion rx rz with
  | some r => zone.setRegion rx rz (r.remove id)
  | none => zone

/-- `rx as i16 + dx`, which wraps around. -/
def neighbour (rx : ℕ) (dx : ℤ) : ℤ := ((rx : ℤ).bmod 65536 + dx).bmod 65536

/-- What `get_users_in_3x3` takes from one of the nine cells. -/
def usersNear (rx rz : ℕ) (dx dz : ℤ) : List ℕ :=
  let nx := neighbour rx dx
  let nz := neighbour rz dz
  if 0 ≤ nx ∧ 0 ≤ nz then
    match zone.getRegion nx.toNat nz.toNat with
    | some r => r.users
    | none => []
  else []

def getUsersIn3x3 (rx rz : ℕ) : List ℕ :=
  [-1, 0, 1].flatMap fun dx => [-1, 0, 1].flatMap fun dz => zone.usersNear rx rz dx dz

end ZoneState

structure Position where
  zoneId : ℕ
  x : ℚ
  z : ℚ
  regionX : ℕ
  regionZ : ℕ
  deriving DecidableEq

namespace Position

def new (zoneId : ℕ) (x z : ℚ) : Position where
  zoneId := zoneId
  x := x
  z := z
  regionX := calcRegion x
  regionZ := calcRegion z

end Position

inductive RegionChangeResult where
  | noChange
  | changed (oldRx oldRz newRx newRz : ℕ)
  deriving DecidableEq

structure GridWorld where
  zones : ℕ → Option ZoneState
  sessions : ℕ → Option Position

namespace GridWorld

variable (w : GridWorld)

def start (table : ℕ → Option ZoneMap) : GridWorld where
  zones := fun zoneId => (table zoneId).map fun map => { map with regions := fun _ _ => {} }
  sessions := fun _ => none

/-- The region coordinates alone say whether there is a change. -/
def updatePosition (id zoneId : ℕ) (x z : ℚ) : RegionChangeResult × GridWorld :=
  let newRx := calcRegion x
  let newRz := calcRegion z
  match w.sessions id with
  | some pos =>
    (if pos.regionX ≠ newRx ∨ pos.regionZ ≠ newRz then
        .changed pos.regionX pos.regionZ newRx newRz
      else .noChange,
      { w with sessions := Function.update w.sessions id (some (Position.new zoneId x z)) })
  | none => (.noChange, w)

/-- `get_zone` and then `f`, where the zone is loaded. -/
def withZone (zoneId : ℕ) (f : ZoneState → ZoneState) : GridWorld :=
  match w.zones zoneId with
  | some zone => { w with zones := Function.update w.zones zoneId (some (f zone)) }
  | none => w

def register (id : ℕ) (pos : Position) : GridWorld :=
  { w with sessions := Function.update w.sessions id (some pos) }

def unregister (id : ℕ) : GridWorld := { w with sessions := Function.update w.sessions id none }

/-- `handle_phase2`, which a session in game does not reach again. -/
def handlePhase2 (sid zoneId : ℕ) (x z : ℚ) : GridWorld :=
  match w.sessions sid with
  | some _ => w
  | none =>
    let pos := Position.new zoneId x z
    (w.register sid pos).withZone zoneId fun zone => zone.addUser pos.regionX pos.regionZ sid

/-- Where the zone is loaded, the check of the map's bounds. -/
def outOfBounds (zoneId : ℕ) (x z : ℚ) : Bool :=
  (w.zones zoneId).any fun zone => !zone.isValidPosition x z

/-- `admitted`: none of the checks on death, echo, speed and zone change rejects the move. The
coordinates are ten times those of the world. -/
def handleMove (sid : ℕ) (admitted : Bool) (willX willZ : ℕ) : GridWorld :=
  match w.sessions sid with
  | none => w
  | some snap =>
    let x : ℚ := willX / 10
    let z : ℚ := willZ / 10
    if !admitted || w.outOfBounds snap.zoneId x z then w
    else
      match w.updatePosition sid snap.zoneId x z with
      | (.changed oldRx oldRz newRx newRz, w') =>
        w'.withZone snap.zoneId fun zone => (zone.removeUser oldRx oldRz sid).addUser newRx newRz sid
      | (.noChange, w') => w'

/-- Out of the old zone's grid, to the new position, into the new zone's grid. -/
def regrid (sid : ℕ) (pos : Position) (destZone : ℕ) (destX destZ : ℚ) : GridWorld :=
  let w' := w.withZone pos.zoneId fun zone => zone.removeUser pos.regionX pos.regionZ sid
  (w'.updatePosition sid destZone destX destZ).2.withZone destZone fun zone =>
    zone.addUser (calcRegion destX) (calcRegion destZ) sid

def sameZoneWarp (sid : ℕ) (destX destZ : ℚ) : GridWorld :=
  match w.sessions sid with
  | none => w
  | some pos =>
    if w.outOfBounds pos.zoneId destX destZ then w
    else w.regrid sid pos pos.zoneId destX destZ

/-- Where (0, 0) stands for the start of the zone, which `resolve_zero_coords` draws. -/
def resolveCoords (destX destZ : ℚ) (drawn : ℚ × ℚ) : ℚ × ℚ :=
  if destX = 0 ∧ destZ = 0 then drawn else (destX, destZ)

/-- `may`: no zone change is running and a teleport is allowed. `admitted`: neither the zone's
status nor the checks on entry are against it. -/
def triggerZoneChange (sid destZone : ℕ) (destX destZ : ℚ) (drawn : ℚ × ℚ)
    (may admitted : Bool) : GridWorld :=
  if !may then w
  else
    match w.sessions sid with
    | none => w
    | some pos =>
      if pos.zoneId = destZone then w.sameZoneWarp sid destX destZ
      else if (w.zones destZone).isNone then w
      else
        let dest := resolveCoords destX destZ drawn
        if w.outOfBounds destZone dest.1 dest.2 || !admitted then w
        else w.regrid sid pos destZone dest.1 dest.2

def serverTeleportToZone (sid destZone : ℕ) (destX destZ : ℚ) (drawn : ℚ × ℚ) : GridWorld :=
  match w.sessions sid with
  | none => w
  | some pos =>
    if pos.zoneId = destZone then w
    else
      let dest := resolveCoords destX destZ drawn
      w.regrid sid pos destZone dest.1 dest.2

def sendEventZoneChange (sid zoneId : ℕ) : GridWorld := (w.updatePosition sid zoneId 0 0).2

def kickOutDestination (eventZone nation level : ℕ) : ℕ :=
  if eventZone = ZONE_BORDER_DEFENSE_WAR ∨ eventZone = ZONE_CHAOS_DUNGEON then
    if NATION_CAPITAL_MIN_LEVEL ≤ level then
      if nation = 1 then ZONE_KARUS else if nation = 2 then ZONE_ELMORAD else ZONE_MORADON
    else ZONE_MORADON
  else if eventZone = ZONE_JURAID_MOUNTAIN then
    if NATION_CAPITAL_MIN_LEVEL ≤ level then ZONE_RONARK_LAND else ZONE_MORADON
  else ZONE_MORADON

/-- The kick of one user of a room by `temple_event_room_close`. -/
def kickOut (sid eventZone nation level : ℕ) : GridWorld :=
  (w.updatePosition sid (kickOutDestination eventZone nation level) 0 0).2

def warpPlayerInZone (sid zoneId : ℕ) (destX destZ : ℚ) : GridWorld :=
  (w.updatePosition sid zoneId destX destZ).2

/-- A logout, a disconnect and the removal of an account's older session: out of the grid at the
stored position, then out of the sessions. -/
def leaveGame (sid : ℕ) : GridWorld :=
  match w.sessions sid with
  | none => w
  | some pos =>
    (w.withZone pos.zoneId fun zone => zone.removeUser pos.regionX pos.regionZ sid).unregister sid

end GridWorld

inductive GridStep where
  | enterGame (sid zoneId : ℕ) (x z : ℚ)
  | move (sid : ℕ) (admitted : Bool) (willX willZ : ℕ)
  | sameZoneWarp (sid : ℕ) (destX destZ : ℚ)
  | zoneChange (sid destZone : ℕ) (destX destZ : ℚ) (drawn : ℚ × ℚ) (may admitted : Bool)
  | serverTeleport (sid destZone : ℕ) (destX destZ : ℚ) (drawn : ℚ × ℚ)
  | templeTeleport (sid zoneId : ℕ)
  | templeKick (sid eventZone nation level : ℕ)
  | soccerWarp (sid zoneId : ℕ) (destX destZ : ℚ)
  | logout (sid : ℕ)
  | disconnect (sid : ℕ)

def GridWorld.step (w : GridWorld) : GridStep → GridWorld
  | .enterGame sid zoneId x z => w.handlePhase2 sid zoneId x z
  | .move sid admitted willX willZ => w.handleMove sid admitted willX willZ
  | .sameZoneWarp sid destX destZ => w.sameZoneWarp sid destX destZ
  | .zoneChange sid destZone destX destZ drawn may admitted =>
    w.triggerZoneChange sid destZone destX destZ drawn may admitted
  | .serverTeleport sid destZone destX destZ drawn =>
    w.serverTeleportToZone sid destZone destX destZ drawn
  | .templeTeleport sid zoneId => w.sendEventZoneChange sid zoneId
  | .templeKick sid eventZone nation level => w.kickOut sid eventZone nation level
  | .soccerWarp sid zoneId destX destZ => w.warpPlayerInZone sid zoneId destX destZ
  | .logout sid => w.leaveGame sid
  | .disconnect sid => w.leaveGame sid

end KoServer
