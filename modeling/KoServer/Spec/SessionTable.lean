import Mathlib.Algebra.Order.Ring.Nat
import Mathlib.Data.Finset.Basic
import Mathlib.Logic.Function.Basic

/-! Session ids and the three indexes kept beside the table of sessions: `world/session.rs`
(`allocate_session_id`, `register_session`, `register_ingame`, `unregister_session`,
`update_session`, `kick_session_for_duplicate`), with the connections of `server.rs` and
`session.rs` that call them. -/

namespace KoServer

/-- `character` is the name in the loaded `CharacterInfo`. -/
structure SessionHandle where
  character : Option (List Char) := none
  zoneId : ℕ := 0
  deriving DecidableEq

/-- `clients` are the connections that are served, each with its id and whether it has entered the
game. A session that stays for an offline merchant has no client. -/
structure SessionTable where
  nextSessionId : ℕ
  clients : List (ℕ × Bool)
  sessions : ℕ → Option SessionHandle
  zoneSessionIndex : ℕ → Finset ℕ
  nameToSession : List Char → Option ℕ
  onlineCount : ℕ

namespace SessionTable

variable (toLower : List Char → List Char) (w : SessionTable)

def start : SessionTable where
  nextSessionId := 1
  clients := []
  sessions := fun _ => none
  zoneSessionIndex := fun _ => ∅
  nameToSession := fun _ => none
  onlineCount := 0

/-- The id, and the counter after it: `fetch_add` on an `AtomicU16`, once more where it gives 0. -/
def allocateSessionId : ℕ × ℕ :=
  if w.nextSessionId ≠ 0 then (w.nextSessionId, (w.nextSessionId + 1) % 2 ^ 16)
  else
    let next := (w.nextSessionId + 1) % 2 ^ 16
    (next, (next + 1) % 2 ^ 16)

def registerSession (id : ℕ) : SessionTable :=
  { w with sessions := Function.update w.sessions id (some {}) }

def movedIndex (id oldZone newZone : ℕ) : ℕ → Finset ℕ :=
  if oldZone ≠ newZone then
    let index :=
      if oldZone ≠ 0 then
        Function.update w.zoneSessionIndex oldZone ((w.zoneSessionIndex oldZone).erase id)
      else w.zoneSessionIndex
    if newZone ≠ 0 then Function.update index newZone (insert id (index newZone)) else index
  else w.zoneSessionIndex

def registerIngame (id : ℕ) (name : List Char) (zoneId : ℕ) : SessionTable :=
  match w.sessions id with
  | some handle =>
    { w with
      sessions := Function.update w.sessions id (some { character := some name, zoneId := zoneId })
      nameToSession := Function.update w.nameToSession (toLower name) (some id)
      onlineCount := (w.onlineCount + 1) % 2 ^ 32
      zoneSessionIndex := w.movedIndex id handle.zoneId zoneId }
  | none => w

/-- `update_session` with a closure that sets the zone, and `update_position`. -/
def updateZone (id zoneId : ℕ) : SessionTable :=
  match w.sessions id with
  | some handle =>
    { w with
      sessions := Function.update w.sessions id (some { handle with zoneId := zoneId })
      zoneSessionIndex := w.movedIndex id handle.zoneId zoneId }
  | none => w

/-- The index forgets the name whichever session it maps it to. -/
def unregisterSession (id : ℕ) : SessionTable :=
  match w.sessions id with
  | some handle =>
    let removed : SessionTable := { w with
      sessions := Function.update w.sessions id none
      zoneSessionIndex := w.movedIndex id handle.zoneId 0 }
    match handle.character with
    | some name =>
      { removed with
        nameToSession := Function.update w.nameToSession (toLower name) none
        onlineCount := (w.onlineCount + (2 ^ 32 - 1)) % 2 ^ 32 }
    | none => removed
  | none => w

/-- Neither the name nor the count is looked after. -/
def kickSessionForDuplicate (id : ℕ) : SessionTable :=
  match w.sessions id with
  | some handle =>
    { w with
      sessions := Function.update w.sessions id none
      zoneSessionIndex := w.movedIndex id handle.zoneId 0 }
  | none => w

/-- `upgrade_to_ingame` and then `register_ingame`; a connection gets there once. -/
def enterGame (client : ℕ) (name : List Char) (zoneId : ℕ) : SessionTable :=
  match w.clients[client]? with
  | some (id, false) =>
    { (w.registerSession id).registerIngame toLower id name zoneId with
      clients := w.clients.set client (id, true) }
  | _ => w

end SessionTable

inductive SessionStep where
  /-- `admitted`: neither the cap on sessions nor the one on the address rejects it. -/
  | connect (admitted : Bool)
  | enterGame (client : ℕ) (name : List Char) (zoneId : ℕ)
  | changeZone (id zoneId : ℕ)
  /-- The cleanup when a connection has ended. -/
  | disconnect (client : ℕ)
  /-- The connection ends and an offline merchant stays. -/
  | stayOffline (client : ℕ)
  /-- A logout, an operator's kick, the end of an offline merchant. -/
  | unregister (id : ℕ)
  | kickDuplicate (id : ℕ)

def SessionTable.step (toLower : List Char → List Char) (w : SessionTable) :
    SessionStep → SessionTable
  | .connect admitted =>
    if admitted then
      { w with
        nextSessionId := w.allocateSessionId.2
        clients := w.clients ++ [(w.allocateSessionId.1, false)] }
    else w
  | .enterGame client name zoneId => w.enterGame toLower client name zoneId
  | .changeZone id zoneId => w.updateZone id zoneId
  | .disconnect client =>
    match w.clients[client]? with
    | some (id, _) =>
      { w.unregisterSession toLower id with clients := w.clients.eraseIdx client }
    | none => w
  | .stayOffline client => { w with clients := w.clients.eraseIdx client }
  | .unregister id => w.unregisterSession toLower id
  | .kickDuplicate id => w.kickSessionForDuplicate id

end KoServer
