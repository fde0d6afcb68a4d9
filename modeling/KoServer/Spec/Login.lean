import KoServer.Lib.KeyedList
import KoServer.Lib.Run
import KoServer.Spec.SessionTable

/-! The way of a connection into the game and out of it: `handler/login.rs`, `nation.rs`,
`selchar.rs`, the phases of `gamestart.rs`, `logout.rs` and the end of a connection in `session.rs`,
over the tables of `world/session.rs`. A handler is cut at its awaits: what it does between two of
them is one step, and the steps of different connections come in any order. -/

namespace KoServer.Login

def MAX_ID_SIZE : ℕ := 20

inductive SessionState
  | connected
  | versionChecked
  | loggedIn
  | nationSelected
  | characterSelected
  | inGame
  deriving DecidableEq

/-- Of a `SessionHandle`: the account, the name in the loaded `CharacterInfo` and `is_offline`. -/
structure Handle where
  accountId : List Char := []
  character : Option (List Char) := none
  isOffline : Bool := false
  deriving DecidableEq

/-- Where the task of a connection is: at `read_packet`, at an await of a handler, or over. From
the first case of a login to the last the lock of the account is held. -/
inductive Task
  | reading
  | cleaningOffline (account : List Char) (old : ℕ)
  | kickingAccount (account : List Char) (old : ℕ)
  | authenticating (account : List Char)
  | answeringLogin (account : List Char)
  | settingNation
  | loadingCharacter (name : List Char)
  | kickingCharacter (name : List Char) (old : ℕ)
  | loadingGame
  /-- The session is in the table, its account not yet. -/
  | enteringGame
  | loggingOut
  | ended
  deriving DecidableEq

/-- A `ClientSession`; `upgraded` once its stream is split, which can be done once. -/
structure Client where
  sessionId : ℕ
  state : SessionState := .connected
  accountId : Option (List Char) := none
  characterId : Option (List Char) := none
  upgraded : Bool := false
  task : Task := .reading
  deriving DecidableEq

/-- `clients` are the connections in the order they were accepted, those that have ended too. -/
structure World where
  nextSessionId : ℕ
  clients : List Client
  sessions : KeyedList (Prod.fst : ℕ × Handle → ℕ)
  nameToSession : List Char → Option ℕ
  loginInProgress : Finset (List Char)

theorem updated_key {f : Handle → Handle} {id : ℕ} (e : ℕ × Handle) :
    (if e.1 = id then (e.1, f e.2) else e).1 = e.1 := by
  split_ifs
  · rfl
  · rfl

namespace World

variable (toLower : List Char → List Char) (visit : Shuffle (ℕ × Handle)) (w : World)

def start : World where
  nextSessionId := SessionTable.start.nextSessionId
  clients := []
  sessions := KeyedList.empty
  nameToSession := fun _ => none
  loginInProgress := ∅

/-- The counter of `SessionTable`. -/
def allocateSessionId : ℕ × ℕ :=
  SessionTable.allocateSessionId { SessionTable.start with nextSessionId := w.nextSessionId }

def handle (id : ℕ) : Option Handle := (w.sessions.find id).map Prod.snd

def setClient (i : ℕ) (c : Client) : World := { w with clients := w.clients.set i c }

def registerSession (id : ℕ) : World := { w with sessions := w.sessions.insert (id, {}) }

def updateSession (id : ℕ) (f : Handle → Handle) : World :=
  { w with
    sessions := w.sessions.adjust (fun e => if e.1 = id then (e.1, f e.2) else e) updated_key }

def registerIngame (id : ℕ) (name : List Char) : World :=
  if (w.handle id).isSome then
    { w.updateSession id fun h => { h with character := some name } with
      nameToSession := Function.update w.nameToSession (toLower name) (some id) }
  else w

def removeSession (id : ℕ) : World := { w with sessions := w.sessions.erase id }

/-- The index forgets the name whichever session it maps it to. -/
def unregisterSession (id : ℕ) : World :=
  match (w.handle id).bind Handle.character with
  | some name =>
    { w.removeSession id with
      nameToSession := Function.update w.nameToSession (toLower name) none }
  | none => w.removeSession id

/-- After the save: the index of names is left as it is. -/
def kickSessionForDuplicate (id : ℕ) : World := w.removeSession id

/-- The first session of the account that the walk over the table meets. -/
def findSessionByAccount (account : List Char) : Option ℕ :=
  ((visit.order w.sessions.entries).find? fun e => toLower e.2.accountId = toLower account).map
    Prod.fst

def findSessionByName (name : List Char) : Option ℕ := w.nameToSession (toLower name)

def isOfflineStatus (id : ℕ) : Bool := ((w.handle id).map Handle.isOffline).getD false

/-- `with_session(id, |h| h.account_id.clone()).unwrap_or_default()` -/
def accountOf (id : ℕ) : List Char := ((w.handle id).map Handle.accountId).getD []

def tryAcquireLoginLock (account : List Char) : Option World :=
  if toLower account ∈ w.loginInProgress then none
  else some { w with loginInProgress := insert (toLower account) w.loginInProgress }

def releaseLoginLock (account : List Char) : World :=
  { w with loginInProgress := w.loginInProgress.erase (toLower account) }

/-- Bytes: the characters it accepts have one each. -/
def stringIsValid (s : List Char) : Bool := s.all fun c => c.isAlphanum || c = ':' || c = '_'

def login (i : ℕ) (c : Client) (account password : Option (List Char)) : World :=
  if c.state ≠ .versionChecked then w
  else if c.accountId.isSome then w
  else
    match account, password with
    | some account, some password =>
      if account ≠ [] ∧ account.length ≤ MAX_ID_SIZE ∧ stringIsValid account = true ∧
          password ≠ [] then
        match w.tryAcquireLoginLock toLower account with
        | none => w
        | some locked =>
          match locked.findSessionByAccount toLower visit account with
          | some old =>
            if locked.isOfflineStatus old = true then
              locked.setClient i { c with task := .cleaningOffline account old }
            else locked.setClient i { c with task := .kickingAccount account old }
          | none => locked.setClient i { c with task := .authenticating account }
      else w
    | _, _ => w

def selNation (i : ℕ) (c : Client) (nation : Option ℕ) : World :=
  if c.state ≠ .loggedIn then w
  else if c.accountId = none then w
  else if nation = some 1 ∨ nation = some 2 then w.setClient i { c with task := .settingNation }
  else w

def selChar (i : ℕ) (c : Client) (account name : List Char) : World :=
  if c.state ≠ .loggedIn ∧ c.state ≠ .nationSelected then w
  else
    match c.accountId with
    | none => w
    | some sessionAccount =>
      if (if account = [] then sessionAccount else account) ≠ sessionAccount ∨ name = [] then w
      else w.setClient i { c with task := .loadingCharacter name }

/-- `cleanup`; `stays` where the character keeps a stall and carries the item for it. -/
def cleanup (i : ℕ) (c : Client) (stays : Bool) : World :=
  if c.state = .inGame ∧ stays = true ∧ (w.handle c.sessionId).isSome = true ∧
      w.isOfflineStatus c.sessionId = false then
    (w.updateSession c.sessionId fun h => { h with isOffline := true }).setClient i
      { c with task := .ended }
  else (w.unregisterSession toLower c.sessionId).setClient i { c with task := .ended }

def gameStart (i : ℕ) (c : Client) (subOpcode : ℕ) : World :=
  if c.state ≠ .characterSelected then w
  else
    match subOpcode with
    | 1 => w
    | 2 => w.setClient i { c with task := .loadingGame }
    | _ => w.cleanup toLower i c false

def logout (i : ℕ) (c : Client) : World :=
  if c.state ≠ .inGame then w else w.setClient i { c with task := .loggingOut }

/-- `authority` of the account that was found; a negative one is banned. -/
def authenticated (i : ℕ) (c : Client) (account : List Char) (authority : Option ℤ) : World :=
  match authority with
  | some authority =>
    if authority < 0 then w.setClient i { c with task := .answeringLogin account }
    else
      (w.updateSession c.sessionId fun h => { h with accountId := account }).setClient i
        { c with
          accountId := some account, state := .loggedIn, task := .answeringLogin account }
  | none => w.setClient i { c with task := .answeringLogin account }

def selectCharacter (i : ℕ) (c : Client) (name : List Char) : World :=
  w.setClient i
    { c with state := .characterSelected, characterId := some name, task := .reading }

def characterLoaded (i : ℕ) (c : Client) (name : List Char) (found : Bool) : World :=
  if found = true then
    match w.findSessionByName toLower name with
    | some existing =>
      if some (w.accountOf existing) = c.accountId then
        w.setClient i { c with task := .kickingCharacter name existing }
      else w.setClient i { c with task := .reading }
    | none => w.selectCharacter i c name
  else w.setClient i { c with task := .reading }

/-- The row that is found bears the name it was looked up by. A failing read ends the handler with
an error, and so does a stream that is split already. -/
def gameLoaded (i : ℕ) (c : Client) (found : Option Bool) : World :=
  match found with
  | some true =>
    if c.upgraded = true then w.cleanup toLower i c false
    else
      ((w.registerSession c.sessionId).registerIngame toLower c.sessionId
        (c.characterId.getD "unknown".toList)).setClient i
        { c with upgraded := true, state := .inGame, task := .enteringGame }
  | some false => w.setClient i { c with task := .reading }
  | none => w.cleanup toLower i c false

/-- Up to `load_account_premiums`; an error before it ends the connection. -/
def entered (i : ℕ) (c : Client) (ok : Bool) : World :=
  if ok = true then
    match c.accountId with
    | some account =>
      (w.updateSession c.sessionId fun h => { h with accountId := account }).setClient i
        { c with task := .reading }
    | none => w.setClient i { c with task := .reading }
  else w.cleanup toLower i c false

def loggedOut (i : ℕ) (c : Client) (sent : Bool) : World :=
  let left := w.unregisterSession toLower c.sessionId
  if sent = true then left.setClient i { c with state := .loggedIn, task := .reading }
  else left.cleanup toLower i c false

end World

inductive Packet
  | kickout
  | versionCheck
  | login (account password : Option (List Char))
  | selNation (nation : Option ℕ)
  | selChar (account name : List Char)
  | gameStart (subOpcode : ℕ)
  | logout

inductive Answer
  | saved
  | account (authority : Option ℤ)
  | sent (ok : Bool)
  | stored (ok : Bool)
  /-- `none` is an error of the database. -/
  | loaded (found : Option Bool)

inductive Event
  /-- A connection that neither the cap on sessions nor the one on its address rejects. -/
  | connect
  | packet (i : ℕ) (p : Packet) (visit : Shuffle (ℕ × Handle))
  | resume (i : ℕ) (answer : Answer)
  /-- `read_packet` fails or is given up. -/
  | disconnect (i : ℕ) (stays : Bool)
  /-- An operator's kick, the end of an offline merchant. -/
  | unregister (id : ℕ)

namespace World

variable (toLower : List Char → List Char) (w : World)

def dispatch (visit : Shuffle (ℕ × Handle)) (i : ℕ) (c : Client) : Packet → World
  | .kickout | .versionCheck =>
    if c.state = .connected then w.setClient i { c with state := .versionChecked } else w
  | .login account password => w.login toLower visit i c account password
  | .selNation nation => w.selNation i c nation
  | .selChar account name => w.selChar i c account name
  | .gameStart subOpcode => w.gameStart toLower i c subOpcode
  | .logout => w.logout i c

def resume (i : ℕ) (c : Client) (answer : Answer) : World :=
  match c.task, answer with
  | .cleaningOffline account old, .saved =>
    (w.unregisterSession toLower old).setClient i { c with task := .authenticating account }
  | .kickingAccount account old, .saved =>
    (w.kickSessionForDuplicate old).setClient i { c with task := .authenticating account }
  | .authenticating account, .account authority => w.authenticated i c account authority
  | .answeringLogin account, .sent true =>
    (w.releaseLoginLock toLower account).setClient i { c with task := .reading }
  | .answeringLogin account, .sent false =>
    (w.releaseLoginLock toLower account).cleanup toLower i c false
  | .settingNation, .stored ok =>
    w.setClient i
      { c with state := if ok = true then .nationSelected else c.state, task := .reading }
  | .loadingCharacter name, .loaded found =>
    w.characterLoaded toLower i c name (found = some true)
  | .kickingCharacter name old, .saved =>
    (w.kickSessionForDuplicate old).selectCharacter i c name
  | .loadingGame, .loaded found => w.gameLoaded toLower i c found
  | .enteringGame, .sent ok => w.entered toLower i c ok
  | .loggingOut, .sent ok => w.loggedOut toLower i c ok
  | _, _ => w

def step : Event → World
  | .connect =>
    { w with
      nextSessionId := w.allocateSessionId.2
      clients := w.clients ++ [{ sessionId := w.allocateSessionId.1 }] }
  | .packet i p visit =>
    match w.clients[i]? with
    | some c => if c.task = .reading then w.dispatch toLower visit i c p else w
    | none => w
  | .resume i answer =>
    match w.clients[i]? with
    | some c => w.resume toLower i c answer
    | none => w
  | .disconnect i stays =>
    match w.clients[i]? with
    | some c => if c.task = .reading then w.cleanup toLower i c stays else w
    | none => w
  | .unregister id => w.unregisterSession toLower id

def run (w : World) (events : List Event) : World := Run.run (step toLower) w events

end World

end KoServer.Login
