import KoServer.Lib.Exclusive
import KoServer.Lib.Phases
import KoServer.Spec.Login

/-! Connections on their way into the game, in whatever order their steps come: what a step can do,
the stages that one connection goes through, and the login locks. -/

namespace KoServer.Login

variable {toLower : List Char → List Char} {w w' : World} {i : ℕ} {c : Client} {e : Event}

namespace World

variable (toLower w)

@[simp] theorem setClient_clients (i : ℕ) (c : Client) :
    (w.setClient i c).clients = w.clients.set i c := rfl

@[simp] theorem setClient_nextSessionId (i : ℕ) (c : Client) :
    (w.setClient i c).nextSessionId = w.nextSessionId := rfl

@[simp] theorem setClient_handle (i : ℕ) (c : Client) : (w.setClient i c).handle = w.handle := rfl

@[simp] theorem setClient_nameToSession (i : ℕ) (c : Client) :
    (w.setClient i c).nameToSession = w.nameToSession := rfl

@[simp] theorem setClient_loginInProgress (i : ℕ) (c : Client) :
    (w.setClient i c).loginInProgress = w.loginInProgress := rfl

@[simp] theorem handle_removeSession (id : ℕ) :
    (w.removeSession id).handle = Function.update w.handle id none := by
  funext j
  unfold handle removeSession
  by_cases hj : j = id
  · subst hj
    rw [Function.update_self, Option.map_eq_none_iff, KeyedList.find_eq_none]
    intro e he
    exact (KeyedList.mem_erase.mp he).2
  · rw [Function.update_of_ne hj, KeyedList.find_erase_of_ne hj]

@[simp] theorem handle_updateSession (id : ℕ) (f : Handle → Handle) :
    (w.updateSession id f).handle = Function.update w.handle id ((w.handle id).map f) := by
  have hfind : ∀ j, (w.updateSession id f).handle j =
      ((w.sessions.find j).map fun e => if e.1 = id then (e.1, f e.2) else e).map Prod.snd := by
    intro j
    unfold handle updateSession
    rw [KeyedList.find_adjust]
  funext j
  rw [hfind]
  unfold handle
  cases he : w.sessions.find j with
  | none =>
    by_cases hj : j = id
    · subst hj
      simp [he]
    · simp [Function.update_of_ne hj, he]
  | some e =>
    have hkey : e.1 = j := (KeyedList.find_eq_some.mp he).2
    by_cases hj : j = id
    · subst hj
      simp [he, hkey]
    · simp [he, hkey, hj]

@[simp] theorem handle_registerSession (id : ℕ) :
    (w.registerSession id).handle = Function.update w.handle id (some {}) := by
  funext j
  unfold handle registerSession
  by_cases hj : j = id
  · subst hj
    rw [Function.update_self]
    have hfind : (w.sessions.insert (j, ({} : Handle))).find j = some (j, {}) :=
      KeyedList.find_insert_self (a := (j, ({} : Handle)))
    rw [hfind]
    rfl
  · rw [Function.update_of_ne hj, KeyedList.find_insert_of_ne (fun h => hj h.symm)]

theorem registerIngame_registerSession (id : ℕ) (name : List Char) :
    (w.registerSession id).registerIngame toLower id name =
      { (w.registerSession id).updateSession id fun h => { h with character := some name } with
        nameToSession := Function.update w.nameToSession (toLower name) (some id) } := by
  unfold registerIngame
  rw [if_pos (by simp)]
  rfl

@[simp] theorem handle_registerIngame (id : ℕ) (name : List Char) :
    ((w.registerSession id).registerIngame toLower id name).handle =
      Function.update w.handle id (some { character := some name }) := by
  rw [registerIngame_registerSession]
  have hsame : ((w.registerSession id).updateSession id fun h =>
      { h with character := some name }).handle =
        Function.update w.handle id (some { character := some name }) := by simp
  exact hsame

@[simp] theorem clients_registerIngame (id : ℕ) (name : List Char) :
    ((w.registerSession id).registerIngame toLower id name).clients = w.clients := by
  rw [registerIngame_registerSession]
  rfl

@[simp] theorem handle_unregisterSession (id : ℕ) :
    (w.unregisterSession toLower id).handle = Function.update w.handle id none := by
  unfold unregisterSession
  split
  · exact handle_removeSession w id
  · exact handle_removeSession w id

@[simp] theorem clients_unregisterSession (id : ℕ) :
    (w.unregisterSession toLower id).clients = w.clients := by
  unfold unregisterSession
  split
  · rfl
  · rfl

@[simp] theorem nextSessionId_unregisterSession (id : ℕ) :
    (w.unregisterSession toLower id).nextSessionId = w.nextSessionId := by
  unfold unregisterSession
  split
  · rfl
  · rfl

@[simp] theorem loginInProgress_unregisterSession (id : ℕ) :
    (w.unregisterSession toLower id).loginInProgress = w.loginInProgress := by
  unfold unregisterSession
  split
  · rfl
  · rfl

theorem nameToSession_unregisterSession {id : ℕ} {h : Handle} {name : List Char}
    (hh : w.handle id = some h) (hname : h.character = some name) :
    (w.unregisterSession toLower id).nameToSession =
      Function.update w.nameToSession (toLower name) none := by
  unfold unregisterSession
  rw [hh, Option.bind_some, hname]

theorem nameToSession_unregisterSession_of_none {id : ℕ}
    (hnone : (w.handle id).bind Handle.character = none) :
    (w.unregisterSession toLower id).nameToSession = w.nameToSession := by
  unfold unregisterSession
  rw [hnone]
  rfl

theorem unregisterSession_unregisterSession (id : ℕ) :
    (w.unregisterSession toLower id).unregisterSession toLower id =
      w.unregisterSession toLower id := by
  have hgone : (w.unregisterSession toLower id).handle id = none := by simp
  have herased : (w.unregisterSession toLower id).sessions = w.sessions.erase id := by
    unfold unregisterSession
    split
    · rfl
    · rfl
  have hagain : (w.unregisterSession toLower id).sessions.erase id = w.sessions.erase id := by
    rw [herased]
    simp [KeyedList.erase, KeyedList.filter]
  rw [unregisterSession, hgone]
  change { w.unregisterSession toLower id with
    sessions := (w.unregisterSession toLower id).sessions.erase id } = _
  rw [hagain, ← herased]

end World

/-- The session that a login has found. -/
inductive Looked (toLower : List Char → List Char) (w : World) (account : List Char) : Task → Prop
  | none (h : ∀ id h, w.handle id = some h → toLower h.accountId ≠ toLower account) :
    Looked toLower w account (.authenticating account)
  | offline {old : ℕ} {h : Handle} (hold : w.handle old = some h)
    (haccount : toLower h.accountId = toLower account) :
    Looked toLower w account (.cleaningOffline account old)
  | online {old : ℕ} {h : Handle} (hold : w.handle old = some h)
    (haccount : toLower h.accountId = toLower account) :
    Looked toLower w account (.kickingAccount account old)

/-- A client ends with nothing in its hands. -/
def Client.Loose (c : Client) : Prop :=
  c.task = .reading ∨ c.task = .loadingGame ∨ c.task = .enteringGame ∨ c.task = .loggingOut

/-- The world after a step of client `c`, the `i`th, that changes something; the events that put a
session into the table and an account into the session are told apart. -/
inductive Move (toLower : List Char → List Char) (w : World) (i : ℕ) (c : Client) (e : Event) :
    World → Prop
  | shake (hr : c.task = .reading) (hs : c.state = .connected) :
    Move toLower w i c e (w.setClient i { c with state := .versionChecked })
  | lock {account : List Char} {task : Task} (hr : c.task = .reading)
    (hs : c.state = .versionChecked) (hnone : c.accountId = none) (hne : account ≠ [])
    (hfree : toLower account ∉ w.loginInProgress) (hlook : Looked toLower w account task) :
    Move toLower w i c e
      ({ w with loginInProgress := insert (toLower account) w.loginInProgress }.setClient i
        { c with task := task })
  | cleaned {account : List Char} {old : ℕ} (ht : c.task = .cleaningOffline account old) :
    Move toLower w i c e
      ((w.unregisterSession toLower old).setClient i { c with task := .authenticating account })
  | kicked {account : List Char} {old : ℕ} (ht : c.task = .kickingAccount account old) :
    Move toLower w i c e
      ((w.removeSession old).setClient i { c with task := .authenticating account })
  | accepted {account : List Char} (ht : c.task = .authenticating account) :
    Move toLower w i c e
      ((w.updateSession c.sessionId fun h => { h with accountId := account }).setClient i
        { c with
          accountId := some account, state := .loggedIn, task := .answeringLogin account })
  | refused {account : List Char} (ht : c.task = .authenticating account) :
    Move toLower w i c e (w.setClient i { c with task := .answeringLogin account })
  | answered {account : List Char} (ht : c.task = .answeringLogin account) :
    Move toLower w i c e
      ((w.releaseLoginLock toLower account).setClient i { c with task := .reading })
  | unanswered {account : List Char} (ht : c.task = .answeringLogin account) :
    Move toLower w i c e
      (((w.releaseLoginLock toLower account).unregisterSession toLower c.sessionId).setClient i
        { c with task := .ended })
  | askNation (hr : c.task = .reading) (hs : c.state = .loggedIn) :
    Move toLower w i c e (w.setClient i { c with task := .settingNation })
  | nationSet (ht : c.task = .settingNation) :
    Move toLower w i c e
      (w.setClient i { c with state := .nationSelected, task := .reading })
  | askCharacter {name : List Char} (hr : c.task = .reading)
    (hs : c.state = .loggedIn ∨ c.state = .nationSelected) :
    Move toLower w i c e (w.setClient i { c with task := .loadingCharacter name })
  | free {name : List Char} (ht : c.task = .loadingCharacter name)
    (hfree : w.nameToSession (toLower name) = none) :
    Move toLower w i c e (w.selectCharacter i c name)
  | taken {name : List Char} {old : ℕ} (ht : c.task = .loadingCharacter name)
    (hold : w.nameToSession (toLower name) = some old)
    (haccount : some (w.accountOf old) = c.accountId) :
    Move toLower w i c e (w.setClient i { c with task := .kickingCharacter name old })
  | replaced {name : List Char} {old : ℕ} (ht : c.task = .kickingCharacter name old) :
    Move toLower w i c e ((w.removeSession old).selectCharacter i c name)
  | askGame (hr : c.task = .reading) (hs : c.state = .characterSelected) :
    Move toLower w i c e (w.setClient i { c with task := .loadingGame })
  | enter (he : e = .resume i (.loaded (some true))) (ht : c.task = .loadingGame)
    (hup : c.upgraded = false) :
    Move toLower w i c e
      (((w.registerSession c.sessionId).registerIngame toLower c.sessionId
        (c.characterId.getD "unknown".toList)).setClient i
        { c with upgraded := true, state := .inGame, task := .enteringGame })
  | entered {account : List Char} (he : e = .resume i (.sent true)) (ht : c.task = .enteringGame)
    (haccount : c.accountId = some account) :
    Move toLower w i c e
      ((w.updateSession c.sessionId fun h => { h with accountId := account }).setClient i
        { c with task := .reading })
  | askLogout (hr : c.task = .reading) (hs : c.state = .inGame) :
    Move toLower w i c e (w.setClient i { c with task := .loggingOut })
  | loggedOut (ht : c.task = .loggingOut) :
    Move toLower w i c e
      ((w.unregisterSession toLower c.sessionId).setClient i
        { c with state := .loggedIn, task := .reading })
  /-- An await that brings nothing. -/
  | back (ht : c.task = .settingNation ∨ (∃ name, c.task = .loadingCharacter name) ∨
      c.task = .loadingGame ∨ c.task = .enteringGame ∧ c.accountId = none) :
    Move toLower w i c e (w.setClient i { c with task := .reading })
  | leave (hl : c.Loose) :
    Move toLower w i c e
      ((w.unregisterSession toLower c.sessionId).setClient i { c with task := .ended })
  | stay (hr : c.task = .reading) (hs : c.state = .inGame) :
    Move toLower w i c e
      ((w.updateSession c.sessionId fun h => { h with isOffline := true }).setClient i
        { c with task := .ended })

namespace World

variable (toLower w i c e)

theorem exists_handle_of_mem {e : ℕ × Handle} (he : e ∈ w.sessions.entries) :
    w.handle e.1 = some e.2 := by
  unfold handle
  rw [KeyedList.find_eq_some.mpr ⟨he, rfl⟩]
  rfl

theorem mem_of_handle {id : ℕ} {h : Handle} (hh : w.handle id = some h) :
    (id, h) ∈ w.sessions.entries := by
  obtain ⟨e, he, rfl⟩ := Option.map_eq_some_iff.mp hh
  obtain ⟨hmem, rfl⟩ := KeyedList.find_eq_some.mp he
  exact hmem

theorem findSessionByAccount_some {visit : Shuffle (ℕ × Handle)} {account : List Char} {id : ℕ}
    (hf : w.findSessionByAccount toLower visit account = some id) :
    ∃ h, w.handle id = some h ∧ toLower h.accountId = toLower account := by
  obtain ⟨e, he, rfl⟩ := Option.map_eq_some_iff.mp hf
  have hmem : e ∈ w.sessions.entries := visit.mem_order.mp (List.mem_of_find?_eq_some he)
  exact ⟨e.2, w.exists_handle_of_mem hmem, by simpa using List.find?_some he⟩

theorem findSessionByAccount_none {visit : Shuffle (ℕ × Handle)} {account : List Char}
    (hf : w.findSessionByAccount toLower visit account = none) (id : ℕ) (h : Handle)
    (hh : w.handle id = some h) : toLower h.accountId ≠ toLower account := by
  have hall := List.find?_eq_none.mp (Option.map_eq_none_iff.mp hf)
  have hne := hall (id, h) (visit.mem_order.mpr (w.mem_of_handle hh))
  simpa using hne

theorem login_cases (hr : c.task = .reading) (visit : Shuffle (ℕ × Handle))
    (account password : Option (List Char)) :
    w.login toLower visit i c account password = w ∨
      Move toLower w i c e (w.login toLower visit i c account password) := by
  unfold login
  split_ifs with hs hsome
  · exact .inl rfl
  · exact .inl rfl
  have hs : c.state = .versionChecked := by simpa using hs
  have hnone : c.accountId = none := by simpa using hsome
  split
  · rename_i account password
    split_ifs with hok
    · unfold tryAcquireLoginLock
      split_ifs with hheld
      · exact .inl rfl
      · dsimp only
        split
        · rename_i old hf
          obtain ⟨h, hh, haccount⟩ := findSessionByAccount_some toLower _ hf
          split_ifs with hoff
          · exact .inr (.lock hr hs hnone hok.1 hheld (.offline hh haccount))
          · exact .inr (.lock hr hs hnone hok.1 hheld (.online hh haccount))
        · rename_i hf
          exact .inr (.lock hr hs hnone hok.1 hheld
            (.none (findSessionByAccount_none toLower _ hf)))
    · exact .inl rfl
  · exact .inl rfl

theorem selNation_cases (hr : c.task = .reading) (nation : Option ℕ) :
    w.selNation i c nation = w ∨ Move toLower w i c e (w.selNation i c nation) := by
  unfold selNation
  split_ifs with hs hnone hnation
  · exact .inl rfl
  · exact .inl rfl
  · exact .inr (.askNation hr (by simpa using hs))
  · exact .inl rfl

theorem selChar_cases (hr : c.task = .reading) (account name : List Char) :
    w.selChar i c account name = w ∨ Move toLower w i c e (w.selChar i c account name) := by
  unfold selChar
  by_cases hs : c.state ≠ .loggedIn ∧ c.state ≠ .nationSelected
  · rw [if_pos hs]
    exact .inl rfl
  · rw [if_neg hs]
    have hs : c.state = .loggedIn ∨ c.state = .nationSelected := by
      by_contra hno
      exact hs (not_or.mp hno)
    split
    · exact .inl rfl
    · rename_i sessionAccount _
      by_cases hbad : (if account = [] then sessionAccount else account) ≠ sessionAccount ∨ name = []
      · rw [if_pos hbad]
        exact .inl rfl
      · rw [if_neg hbad]
        exact .inr (.askCharacter hr hs)

theorem cleanup_of_loose (hl : c.Loose) : Move toLower w i c e (w.cleanup toLower i c false) := by
  unfold cleanup
  rw [if_neg (by simp)]
  exact .leave hl

theorem cleanup_cases (hr : c.task = .reading) (stays : Bool) :
    Move toLower w i c e (w.cleanup toLower i c stays) := by
  unfold cleanup
  split_ifs with hstay
  · exact .stay hr hstay.1
  · exact .leave (.inl hr)

theorem gameStart_cases (hr : c.task = .reading) (subOpcode : ℕ) :
    w.gameStart toLower i c subOpcode = w ∨
      Move toLower w i c e (w.gameStart toLower i c subOpcode) := by
  unfold gameStart
  split_ifs with hs
  · exact .inl rfl
  · split
    · exact .inl rfl
    · exact .inr (.askGame hr (by simpa using hs))
    · exact .inr (w.cleanup_cases toLower i c e hr false)

theorem logout_cases (hr : c.task = .reading) :
    w.logout i c = w ∨ Move toLower w i c e (w.logout i c) := by
  unfold logout
  split_ifs with hs
  · exact .inl rfl
  · exact .inr (.askLogout hr (by simpa using hs))

theorem dispatch_cases (hr : c.task = .reading) (visit : Shuffle (ℕ × Handle)) (p : Packet) :
    w.dispatch toLower visit i c p = w ∨ Move toLower w i c e (w.dispatch toLower visit i c p) := by
  have hshake : (if c.state = .connected then w.setClient i { c with state := .versionChecked }
      else w) = w ∨ Move toLower w i c e
        (if c.state = .connected then w.setClient i { c with state := .versionChecked } else w) := by
    split_ifs with hs
    · exact .inr (.shake hr hs)
    · exact .inl rfl
  cases p with
  | kickout => exact hshake
  | versionCheck => exact hshake
  | login account password => exact w.login_cases toLower i c e hr visit account password
  | selNation nation => exact w.selNation_cases toLower i c e hr nation
  | selChar account name => exact w.selChar_cases toLower i c e hr account name
  | gameStart subOpcode => exact w.gameStart_cases toLower i c e hr subOpcode
  | logout => exact w.logout_cases toLower i c e hr

theorem authenticated_cases {account : List Char} (ht : c.task = .authenticating account)
    (authority : Option ℤ) : Move toLower w i c e (w.authenticated i c account authority) := by
  unfold authenticated
  split
  · split_ifs
    · exact .refused ht
    · exact .accepted ht
  · exact .refused ht

theorem characterLoaded_cases {name : List Char} (ht : c.task = .loadingCharacter name)
    (found : Bool) : Move toLower w i c e (w.characterLoaded toLower i c name found) := by
  have hback : Move toLower w i c e (w.setClient i { c with task := .reading }) :=
    .back (.inr (.inl ⟨name, ht⟩))
  unfold characterLoaded findSessionByName
  split_ifs
  · split
    · rename_i existing hold
      split_ifs with haccount
      · exact .taken ht hold haccount
      · exact hback
    · rename_i hfree
      exact .free ht hfree
  · exact hback

theorem gameLoaded_cases (ht : c.task = .loadingGame) (found : Option Bool)
    (he : e = .resume i (.loaded found)) :
    Move toLower w i c e (w.gameLoaded toLower i c found) := by
  have hloose : c.Loose := .inr (.inl ht)
  unfold gameLoaded
  split
  · split_ifs with hup
    · exact w.cleanup_of_loose toLower i c e hloose
    · exact .enter he ht (by simpa using hup)
  · exact .back (.inr (.inr (.inl ht)))
  · exact w.cleanup_of_loose toLower i c e hloose

theorem entered_cases (ht : c.task = .enteringGame) (ok : Bool)
    (he : e = .resume i (.sent ok)) :
    Move toLower w i c e (w.entered toLower i c ok) := by
  unfold entered
  split_ifs with hok
  · subst hok
    split
    · rename_i account haccount
      exact .entered he ht haccount
    · rename_i hnone
      exact .back (.inr (.inr (.inr ⟨ht, hnone⟩)))
  · exact w.cleanup_of_loose toLower i c e (.inr (.inr (.inl ht)))

theorem loggedOut_cases (ht : c.task = .loggingOut) (sent : Bool) :
    Move toLower w i c e (w.loggedOut toLower i c sent) := by
  unfold loggedOut
  dsimp only
  split_ifs
  · exact .loggedOut ht
  · unfold cleanup
    rw [if_neg (by simp), unregisterSession_unregisterSession]
    exact .leave (.inr (.inr (.inr ht)))

theorem resume_cases (answer : Answer) (he : e = .resume i answer) :
    w.resume toLower i c answer = w ∨ Move toLower w i c e (w.resume toLower i c answer) := by
  unfold resume
  split
  · rename_i ht
    exact .inr (.cleaned ht)
  · rename_i ht
    exact .inr (.kicked ht)
  · rename_i ht
    exact .inr (w.authenticated_cases toLower i c e ht _)
  · rename_i ht
    exact .inr (.answered ht)
  · rename_i ht
    refine .inr ?_
    unfold cleanup
    rw [if_neg (by simp)]
    exact .unanswered ht
  · rename_i ok ht
    cases ok with
    | true => exact .inr (.nationSet ht)
    | false => exact .inr (.back (.inl ht))
  · rename_i ht
    exact .inr (w.characterLoaded_cases toLower i c e ht _)
  · rename_i ht
    exact .inr (.replaced ht)
  · rename_i ht
    exact .inr (w.gameLoaded_cases toLower i c e ht _ he)
  · rename_i ht
    exact .inr (w.entered_cases toLower i c e ht _ he)
  · rename_i ht
    exact .inr (w.loggedOut_cases toLower i c e ht _)
  · exact .inl rfl

/-- A step changes nothing, or it is a move of one client, or it comes from outside. -/
theorem step_cases (e : Event) :
    w.step toLower e = w ∨
    (∃ i c, w.clients[i]? = some c ∧ Move toLower w i c e (w.step toLower e)) ∨
    e = .connect ∨ ∃ id, e = .unregister id := by
  cases e with
  | connect => exact .inr (.inr (.inl rfl))
  | unregister id => exact .inr (.inr (.inr ⟨id, rfl⟩))
  | packet i p visit =>
    cases hc : w.clients[i]? with
    | none => exact .inl (by simp only [step, hc])
    | some c =>
      simp only [step, hc]
      split_ifs with hr
      · rcases w.dispatch_cases toLower i c _ hr visit p with hsame | hmove
        · exact .inl hsame
        · exact .inr (.inl ⟨i, c, hc, hmove⟩)
      · exact .inl rfl
  | resume i answer =>
    cases hc : w.clients[i]? with
    | none => exact .inl (by simp only [step, hc])
    | some c =>
      simp only [step, hc]
      rcases w.resume_cases toLower i c _ answer rfl with hsame | hmove
      · exact .inl hsame
      · exact .inr (.inl ⟨i, c, hc, hmove⟩)
  | disconnect i stays =>
    cases hc : w.clients[i]? with
    | none => exact .inl (by simp only [step, hc])
    | some c =>
      simp only [step, hc]
      split_ifs with hr
      · exact .inr (.inl ⟨i, c, hc, w.cleanup_cases toLower i c _ hr stays⟩)
      · exact .inl rfl

end World

/-- The states in which a handler can be at its await. -/
def Task.Fits (state : SessionState) : Task → Prop
  | .reading | .ended => True
  | .cleaningOffline account _ | .kickingAccount account _ | .authenticating account =>
    state = .versionChecked ∧ account ≠ []
  | .answeringLogin _ => state = .versionChecked ∨ state = .loggedIn
  | .settingNation => state = .loggedIn
  | .loadingCharacter _ | .kickingCharacter _ _ => state = .loggedIn ∨ state = .nationSelected
  | .loadingGame => state = .characterSelected
  | .enteringGame | .loggingOut => state = .inGame

structure Client.Sound (c : Client) : Prop where
  fits : c.task.Fits c.state
  upgraded : c.state = .inGame → c.upgraded = true
  early : c.state = .connected ∨ c.state = .versionChecked → c.upgraded = false
  fresh : c.state = .connected ∨ c.state = .versionChecked → c.accountId = none
  account : c.state ≠ .connected → c.state ≠ .versionChecked → ∃ a, c.accountId = some a ∧ a ≠ []

/-- How far a client has come; it can enter the game once, and log out and select after it. -/
def Client.progress (c : Client) : ℕ :=
  match c.state with
  | .connected => 1
  | .versionChecked => 2
  | .loggedIn | .nationSelected => if c.upgraded = true then 6 else 3
  | .characterSelected => if c.upgraded = true then 7 else 4
  | .inGame => 5

theorem Client.Sound.at (hc : c.Sound) {task : Task} (ht : task.Fits c.state) :
    ({ c with task := task } : Client).Sound :=
  ⟨ht, hc.upgraded, hc.early, hc.fresh, hc.account⟩

theorem Client.Sound.fits_of (hc : c.Sound) {task : Task} (ht : c.task = task) :
    task.Fits c.state := ht ▸ hc.fits

theorem Client.Sound.select (hc : c.Sound) (hs : c.state = .loggedIn ∨ c.state = .nationSelected)
    (name : List Char) :
    ({ c with state := .characterSelected, characterId := some name, task := .reading } :
      Client).Sound where
  fits := trivial
  upgraded := by simp
  early := by simp
  fresh := by simp
  account := by
    intro _ _
    rcases hs with hs | hs <;> exact hc.account (by simp [hs]) (by simp [hs])

/-- A client after a move of its own, and how it comes along. -/
structure Client.Advances (c c' : Client) : Prop where
  sound : c'.Sound
  sessionId : c'.sessionId = c.sessionId
  upgraded : c.upgraded = true → c'.upgraded = true
  progress : c'.progress = c.progress ∨ c'.progress = c.progress + 1

theorem Client.Sound.advances (hc : c.Sound) {task : Task} (ht : task.Fits c.state) :
    c.Advances { c with task := task } :=
  ⟨hc.at ht, rfl, fun h => h, .inl rfl⟩

theorem Client.Sound.advances_select (hc : c.Sound)
    (hs : c.state = .loggedIn ∨ c.state = .nationSelected) (name : List Char) :
    c.Advances { c with state := .characterSelected, characterId := some name, task := .reading } where
  sound := hc.select hs name
  sessionId := rfl
  upgraded := fun h => h
  progress := by
    right
    unfold Client.progress
    rcases hs with hs | hs
    all_goals
      rw [hs]
      cases c.upgraded <;> rfl

theorem clients_of_unregister (id : ℕ) (c' : Client) :
    ((w.unregisterSession toLower id).setClient i c').clients = w.clients.set i c' := by simp

theorem clients_of_enter (id : ℕ) (name : List Char) (c' : Client) :
    (((w.registerSession id).registerIngame toLower id name).setClient i c').clients =
      w.clients.set i c' := by simp

/-- The connection that moves comes along, and no other is touched. -/
theorem Move.client (hm : Move toLower w i c e w') (hc : c.Sound) :
    ∃ c', w'.clients = w.clients.set i c' ∧ c.Advances c' := by
  cases hm with
  | shake hr hs =>
    refine ⟨_, rfl, ⟨?_, rfl, fun h => h, ?_⟩⟩
    · exact ⟨hr ▸ trivial, by simp, fun _ => hc.early (.inl hs), fun _ => hc.fresh (.inl hs),
        by simp⟩
    · exact .inr (by simp [Client.progress, hs])
  | lock hr hs hnone hne hfree hlook =>
    refine ⟨_, rfl, hc.advances ?_⟩
    cases hlook <;> exact ⟨hs, hne⟩
  | cleaned ht =>
    have hfits := hc.fits_of ht
    exact ⟨_, clients_of_unregister _ _, hc.advances hfits⟩
  | kicked ht =>
    have hfits := hc.fits_of ht
    exact ⟨_, rfl, hc.advances hfits⟩
  | accepted ht =>
    obtain ⟨hs, hne⟩ := hc.fits_of ht
    have hup := hc.early (.inr hs)
    refine ⟨_, rfl, ⟨⟨.inr rfl, by simp, by simp, by simp, fun _ _ => ⟨_, rfl, hne⟩⟩, rfl,
      fun h => h, ?_⟩⟩
    exact .inr (by simp [Client.progress, hs, hup])
  | refused ht => exact ⟨_, rfl, hc.advances (.inl (hc.fits_of ht).1)⟩
  | answered ht => exact ⟨_, rfl, hc.advances trivial⟩
  | unanswered ht => exact ⟨_, clients_of_unregister _ _, hc.advances trivial⟩
  | askNation hr hs => exact ⟨_, rfl, hc.advances hs⟩
  | nationSet ht =>
    have hs : c.state = .loggedIn := hc.fits_of ht
    refine ⟨_, rfl, ⟨⟨trivial, by simp, by simp, by simp, ?_⟩, rfl, fun h => h, ?_⟩⟩
    · exact fun _ _ => hc.account (by simp [hs]) (by simp [hs])
    · exact .inl (by simp [Client.progress, hs])
  | askCharacter hr hs => exact ⟨_, rfl, hc.advances hs⟩
  | free ht hfree => exact ⟨_, rfl, hc.advances_select (hc.fits_of ht) _⟩
  | taken ht hold haccount =>
    have hfits := hc.fits_of ht
    exact ⟨_, rfl, hc.advances hfits⟩
  | replaced ht => exact ⟨_, rfl, hc.advances_select (hc.fits_of ht) _⟩
  | askGame hr hs => exact ⟨_, rfl, hc.advances hs⟩
  | enter he ht hup =>
    have hs : c.state = .characterSelected := hc.fits_of ht
    refine ⟨_, clients_of_enter _ _ _,
      ⟨⟨rfl, by simp, by simp, by simp, ?_⟩, rfl, fun _ => rfl, ?_⟩⟩
    · exact fun _ _ => hc.account (by simp [hs]) (by simp [hs])
    · exact .inr (by simp [Client.progress, hs, hup])
  | entered he ht haccount => exact ⟨_, rfl, hc.advances trivial⟩
  | askLogout hr hs => exact ⟨_, rfl, hc.advances hs⟩
  | loggedOut ht =>
    have hs : c.state = .inGame := hc.fits_of ht
    have hup := hc.upgraded hs
    refine ⟨_, clients_of_unregister _ _,
      ⟨⟨trivial, by simp, by simp, by simp, ?_⟩, rfl, fun h => h, ?_⟩⟩
    · exact fun _ _ => hc.account (by simp [hs]) (by simp [hs])
    · exact .inr (by simp [Client.progress, hs, hup])
  | back ht => exact ⟨_, rfl, hc.advances trivial⟩
  | leave hl => exact ⟨_, clients_of_unregister _ _, hc.advances trivial⟩
  | stay hr hs => exact ⟨_, rfl, hc.advances trivial⟩

namespace World

def Sound (w : World) : Prop := ∀ (i : ℕ) (c : Client), w.clients[i]? = some c → c.Sound

theorem sound_start : start.Sound := by
  intro i c hc
  simp [start] at hc

/-- What a step does to the `i`th connection: nothing, or it is accepted, or it moves. -/
theorem step_client (toLower : List Char → List Char) (hw : w.Sound) (e : Event) (i : ℕ) :
    (w.step toLower e).clients[i]? = w.clients[i]? ∨
    (e = .connect ∧ i = w.clients.length ∧
      (w.step toLower e).clients[i]? = some { sessionId := w.allocateSessionId.1 }) ∨
    ∃ c c', w.clients[i]? = some c ∧ (w.step toLower e).clients[i]? = some c' ∧ c.Advances c' := by
  rcases w.step_cases toLower e with hsame | ⟨j, c, hc, hmove⟩ | rfl | ⟨id, rfl⟩
  · exact .inl (by rw [hsame])
  · obtain ⟨c', hclients, hadv⟩ := hmove.client (hw j c hc)
    have hlt : j < w.clients.length := (List.getElem?_eq_some_iff.mp hc).1
    rw [hclients, List.getElem?_set]
    by_cases hj : j = i
    · subst hj
      exact .inr (.inr ⟨c, c', hc, by simp [hlt], hadv⟩)
    · exact .inl (by rw [if_neg hj])
  · by_cases hi : i = w.clients.length
    · subst hi
      exact .inr (.inl ⟨rfl, rfl, by simp [step]⟩)
    · refine .inl ?_
      simp only [step]
      rw [List.getElem?_append]
      split_ifs with hlt
      · rfl
      · have hge : w.clients.length < i := by omega
        rw [List.getElem?_eq_none (by simp; omega), List.getElem?_eq_none (by omega)]
  · exact .inl (by simp [step])

theorem Sound.step (hw : w.Sound) (e : Event) : (w.step toLower e).Sound := by
  intro i c' hc'
  rcases step_client toLower hw e i with hsame | ⟨-, -, hnew⟩ | ⟨c, c₁, hc, hc₁, hadv⟩
  · exact hw i c' (hsame ▸ hc')
  · rw [hnew] at hc'
    cases hc'
    exact ⟨trivial, by simp, fun _ => rfl, fun _ => rfl, by simp⟩
  · rw [hc₁] at hc'
    cases hc'
    exact hadv.sound

/-- The state of the `i`th connection, the choice of a nation apart. -/
def stage (i : ℕ) (w : World) : Option SessionState :=
  (w.clients[i]?).map fun c =>
    match c.state with
    | .nationSelected => .loggedIn
    | state => state

def progress (i : ℕ) (w : World) : ℕ := ((w.clients[i]?).map Client.progress).getD 0

def stages : List (Option SessionState) :=
  [none, some .connected, some .versionChecked, some .loggedIn, some .characterSelected,
    some .inGame, some .loggedIn, some .characterSelected]

theorem progress_lt (i : ℕ) : w.progress i < stages.length := by
  unfold progress
  cases w.clients[i]? with
  | none => decide
  | some c =>
    have hle : c.progress ≤ 7 := by
      unfold Client.progress
      cases c.state <;> cases c.upgraded <;> decide
    exact Nat.lt_succ_of_le hle

theorem stage_eq (i : ℕ) : w.stage i = (stages[w.progress i]?).getD none := by
  unfold stage progress
  cases w.clients[i]? with
  | none => rfl
  | some c =>
    simp only [Option.map_some, Option.getD_some, Client.progress]
    cases c.state <;> cases c.upgraded <;> rfl

theorem stages_change {k : ℕ} (hk : k + 1 < stages.length) :
    (stages[k + 1]?).getD none ≠ (stages[k]?).getD none := by
  have hall : ∀ k < 7, (stages[k + 1]?).getD none ≠ (stages[k]?).getD none := by decide
  exact hall k (Nat.lt_of_succ_lt_succ hk)

theorem progress_step (hw : w.Sound) (e : Event) (i : ℕ) :
    (w.step toLower e).progress i = w.progress i ∨
      (w.step toLower e).progress i = w.progress i + 1 := by
  unfold progress
  rcases step_client toLower hw e i with hsame | ⟨-, rfl, hnew⟩ | ⟨c, c', hc, hc', hadv⟩
  · exact .inl (by rw [hsame])
  · rw [hnew, List.getElem?_eq_none (Nat.le_refl _)]
    exact .inr rfl
  · rw [hc, hc']
    exact hadv.progress

/-- Whatever else goes on, a connection is accepted, shakes hands, logs in, selects a character,
enters the game, logs out and selects once more, in this order and as far as it comes: it never
enters the game twice. -/
theorem stages_of_connection (i : ℕ) (events : List Event) :
    Run.changes (step toLower) (stage i) start events <+: stages.tail := by
  have halong : Run.Along (step toLower) (fun _ _ => True) start events :=
    Run.along_true start events
  have hclimb : ∀ (w : World) (e : Event), w.Sound → True → (w.step toLower e).Sound ∧
      ((w.step toLower e).progress i = w.progress i ∨
        (w.step toLower e).progress i = w.progress i + 1 ∧
          (stages[w.progress i + 1]?).getD none ≠ (stages[w.progress i]?).getD none) := by
    intro w e hw _
    refine ⟨hw.step e, ?_⟩
    rcases progress_step hw e i with hstay | hup
    · exact .inl hstay
    · exact .inr ⟨hup, stages_change (hup ▸ progress_lt i)⟩
  have hchanges := (Run.changes_eq_of_climb Sound (progress i) (fun k => (stages[k]?).getD none)
    (fun w _ => w.stage_eq i) hclimb halong sound_start).2
  have hend := progress_lt (w := Run.run (step toLower) start events) i
  have hstart : start.progress i = 0 := rfl
  rw [hchanges, hstart]
  generalize (Run.run (step toLower) start events).progress i = k at hend ⊢
  have hsplit : List.range' 1 k ++ List.range' (1 + k) (7 - k) = List.range' 1 7 := by
    have hle : k ≤ 7 := Nat.le_of_lt_succ hend
    rw [List.range'_append_1, Nat.add_sub_cancel' hle]
  have hall : stages.tail = (List.range' 1 7).map fun k => (stages[k]?).getD none := by decide
  rw [hall, ← hsplit]
  apply List.IsPrefix.map
  exact List.prefix_append _ _

end World

def Client.lock (toLower : List Char → List Char) (c : Client) : Option (List Char) :=
  match c.task with
  | .cleaningOffline account _ | .kickingAccount account _ | .authenticating account
  | .answeringLogin account => some (toLower account)
  | _ => none

theorem Client.lock_of (c : Client) {task : Task} (ht : c.task = task) :
    c.lock toLower = ({ c with task := task } : Client).lock toLower := by
  subst ht
  rfl

theorem Client.Loose.lock (hl : c.Loose) : c.lock toLower = none := by
  unfold Client.lock
  rcases hl with ht | ht | ht | ht <;> rw [ht]

namespace World

def lockOf (toLower : List Char → List Char) (w : World) (i : ℕ) : Option (List Char) :=
  (w.clients[i]?).bind (Client.lock toLower)

def Locked (toLower : List Char → List Char) (w : World) : Prop :=
  Exclusive.Locks w.loginInProgress (w.lockOf toLower)

theorem locked_start : start.Locked toLower := Exclusive.Locks.empty

/-- What is read off the clients, when one of them moves. -/
theorem read_set {α : Type} (f : Client → Option α) (hi : i < w.clients.length) (c' : Client)
    (hclients : w'.clients = w.clients.set i c') :
    (fun j : ℕ => (w'.clients[j]?).bind f) =
      Function.update (fun j : ℕ => (w.clients[j]?).bind f) i (f c') := by
  funext j
  rw [hclients, List.getElem?_set]
  by_cases hj : i = j
  · subst hj
    simp [hi]
  · rw [if_neg hj, Function.update_of_ne (fun h => hj h.symm)]

/-- And when one is accepted of whom there is nothing to be read. -/
theorem read_append {α : Type} (f : Client → Option α) {c' : Client} (hnone : f c' = none) :
    (fun j : ℕ => ((w.clients ++ [c'])[j]?).bind f) = fun j => (w.clients[j]?).bind f := by
  funext j
  rw [List.getElem?_append]
  split_ifs with hlt
  · rfl
  · rw [List.getElem?_eq_none (Nat.le_of_not_lt hlt)]
    cases hj : [c'][j - w.clients.length]? with
    | none => rfl
    | some d =>
      have hd : d = c' := by simpa using List.mem_of_getElem? hj
      rw [hd]
      exact hnone

theorem read_alone {α β : Type} (f : Client → Option (α × β))
    (hall : ∀ d ∈ w.clients.eraseIdx i, (f d).map Prod.fst ≠ (f c).map Prod.fst) {a : α} {b b' : β}
    (hread : f c = some (a, b)) (j : ℕ) (hj : (w.clients[j]?).bind f = some (a, b')) : j = i := by
  by_contra hne
  obtain ⟨d, hd, hdread⟩ := Option.bind_eq_some_iff.mp hj
  have hmem : d ∈ w.clients.eraseIdx i := List.mem_eraseIdx_iff_getElem?.mpr ⟨j, hne, hd⟩
  apply hall d hmem
  rw [hdread, hread]
  rfl

/-- What is read off the sessions, when one leaves the table. -/
theorem read_gone {α : Type} (f : Handle → Option α) {id : ℕ}
    (hgone : w'.handle = Function.update w.handle id none) :
    (fun j => (w'.handle j).bind f) = Function.update (fun j => (w.handle j).bind f) id none := by
  funext j
  rw [hgone]
  by_cases hj : j = id
  · rw [hj, Function.update_self, Function.update_self]
    rfl
  · rw [Function.update_of_ne hj, Function.update_of_ne hj]

/-- And when one is rewritten in something else. -/
theorem read_updateSession {α : Type} (f : Handle → Option α) (id : ℕ) (g : Handle → Handle)
    (hg : ∀ h, f (g h) = f h) :
    (fun j => ((w.updateSession id g).handle j).bind f) = fun j => (w.handle j).bind f := by
  funext j
  rw [handle_updateSession]
  by_cases hj : j = id
  · rw [hj, Function.update_self]
    cases w.handle id with
    | none => rfl
    | some h => exact hg h
  · rw [Function.update_of_ne hj]

theorem lockOf_set (hi : i < w.clients.length) (c' : Client)
    (hclients : w'.clients = w.clients.set i c') :
    w'.lockOf toLower = Function.update (w.lockOf toLower) i (c'.lock toLower) :=
  read_set (Client.lock toLower) hi c' hclients

/-- A move of a client that neither takes a lock nor gives one back. -/
theorem Locked.keep (hw : w.Locked toLower) (hc : w.clients[i]? = some c) {c' : Client}
    (hclients : w'.clients = w.clients.set i c') (hheld : w'.loginInProgress = w.loginInProgress)
    (hlock : c'.lock toLower = c.lock toLower) : w'.Locked toLower := by
  have hi : i < w.clients.length := (List.getElem?_eq_some_iff.mp hc).1
  have howner : w.lockOf toLower i = c.lock toLower := by
    rw [lockOf, hc]
    rfl
  rw [Locked, hheld, lockOf_set hi c' hclients, hlock, ← howner, Function.update_eq_self]
  exact hw

theorem Locked.acquire (hw : w.Locked toLower) (hc : w.clients[i]? = some c)
    (hnone : c.lock toLower = none) {account : List Char}
    (hfree : toLower account ∉ w.loginInProgress) {c' : Client}
    (hlock : c'.lock toLower = some (toLower account)) :
    ({ w with loginInProgress := insert (toLower account) w.loginInProgress }.setClient i
      c').Locked toLower := by
  have hi : i < w.clients.length := (List.getElem?_eq_some_iff.mp hc).1
  have howner : w.lockOf toLower i = none := by
    rw [lockOf, hc]
    exact hnone
  rw [Locked, lockOf_set (w := w) hi c' rfl, hlock]
  exact Exclusive.Locks.acquire hw hfree howner

theorem Locked.release (hw : w.Locked toLower) (hc : w.clients[i]? = some c) {account : List Char}
    (hlock : c.lock toLower = some (toLower account)) {c' : Client}
    (hclients : w'.clients = w.clients.set i c')
    (hheld : w'.loginInProgress = w.loginInProgress.erase (toLower account))
    (hnone : c'.lock toLower = none) : w'.Locked toLower := by
  have hi : i < w.clients.length := (List.getElem?_eq_some_iff.mp hc).1
  have howner : w.lockOf toLower i = some (toLower account) := by
    rw [lockOf, hc]
    exact hlock
  rw [Locked, lockOf_set hi c' hclients, hheld, hnone]
  exact Exclusive.Locks.release hw howner

theorem Locked.move (hw : w.Locked toLower) (hc : w.clients[i]? = some c)
    (hm : Move toLower w i c e w') : w'.Locked toLower := by
  cases hm with
  | shake hr hs => exact hw.keep hc rfl rfl rfl
  | lock hr hs hnone hne hfree hlook =>
    have hreading : c.lock toLower = none := by rw [Client.lock, hr]
    refine hw.acquire hc hreading hfree ?_
    cases hlook <;> rfl
  | cleaned ht => exact hw.keep hc (clients_of_unregister _ _) (by simp) (c.lock_of ht).symm
  | kicked ht => exact hw.keep hc rfl rfl (c.lock_of ht).symm
  | accepted ht => exact hw.keep hc rfl rfl (c.lock_of ht).symm
  | refused ht => exact hw.keep hc rfl rfl (c.lock_of ht).symm
  | answered ht => exact hw.release hc (c.lock_of ht) rfl rfl rfl
  | unanswered ht =>
    exact hw.release hc (c.lock_of ht) (clients_of_unregister _ _)
      (by simp [releaseLoginLock]) rfl
  | askNation hr hs => exact hw.keep hc rfl rfl (c.lock_of hr).symm
  | nationSet ht => exact hw.keep hc rfl rfl (c.lock_of ht).symm
  | askCharacter hr hs => exact hw.keep hc rfl rfl (c.lock_of hr).symm
  | free ht hfree => exact hw.keep hc rfl rfl (c.lock_of ht).symm
  | taken ht hold haccount => exact hw.keep hc rfl rfl (c.lock_of ht).symm
  | replaced ht => exact hw.keep hc rfl rfl (c.lock_of ht).symm
  | askGame hr hs => exact hw.keep hc rfl rfl (c.lock_of hr).symm
  | enter he ht hup =>
    refine hw.keep hc (clients_of_enter _ _ _) ?_ (c.lock_of ht).symm
    rw [registerIngame_registerSession]
    rfl
  | entered he ht haccount => exact hw.keep hc rfl rfl (c.lock_of ht).symm
  | askLogout hr hs => exact hw.keep hc rfl rfl (c.lock_of hr).symm
  | loggedOut ht => exact hw.keep hc (clients_of_unregister _ _) (by simp) (c.lock_of ht).symm
  | back ht =>
    refine hw.keep hc rfl rfl ?_
    rcases ht with ht | ⟨name, ht⟩ | ht | ⟨ht, -⟩ <;> exact (c.lock_of ht).symm
  | leave hl => exact hw.keep hc (clients_of_unregister _ _) (by simp) hl.lock.symm
  | stay hr hs => exact hw.keep hc rfl rfl (c.lock_of hr).symm

theorem Locked.step (hw : w.Locked toLower) (e : Event) : (w.step toLower e).Locked toLower := by
  rcases w.step_cases toLower e with hsame | ⟨i, c, hc, hmove⟩ | rfl | ⟨id, rfl⟩
  · rwa [hsame]
  · exact hw.move hc hmove
  · have howner : (w.step toLower .connect).lockOf toLower = w.lockOf toLower :=
      read_append (Client.lock toLower) rfl
    rw [Locked, howner]
    exact hw
  · have hheld : (w.step toLower (.unregister id)).loginInProgress = w.loginInProgress := by
      simp [World.step]
    have howner : (w.step toLower (.unregister id)).lockOf toLower = w.lockOf toLower := by
      funext j
      simp [lockOf, World.step]
    rw [Locked, hheld, howner]
    exact hw

/-- At every moment of every run the locks are those of the logins under way, of which no two are
of one account, case aside. -/
theorem locks_of_logins (toLower : List Char → List Char) (events : List Event) :
    (∀ key, key ∈ (start.run toLower events).loginInProgress ↔
      ∃ (i : ℕ) (c : Client), (start.run toLower events).clients[i]? = some c ∧
        c.lock toLower = some key) ∧
    ∀ (i j : ℕ) (c d : Client) (key : List Char),
      (start.run toLower events).clients[i]? = some c →
      (start.run toLower events).clients[j]? = some d →
      c.lock toLower = some key → d.lock toLower = some key → i = j := by
  have halong : Run.Along (step toLower) (fun _ _ => True) start events :=
    Run.along_true start events
  have hlocked : (start.run toLower events).Locked toLower :=
    Run.invariant (World.Locked toLower) (fun w e hw _ => hw.step e) halong locked_start
  constructor
  · intro key
    rw [hlocked.listed key]
    simp only [lockOf, Option.bind_eq_some_iff]
  · intro i j c d key hc hd hkey hkey'
    apply hlocked.unique i j key
    · rw [lockOf, hc]
      exact hkey
    · rw [lockOf, hd]
      exact hkey'

end World

end KoServer.Login
