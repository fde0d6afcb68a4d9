import KoServer.Proofs.Login

/-! The names of characters: which sessions bear them, which connections are about to, and what the
index of names says. -/

namespace KoServer.Login

variable {toLower : List Char → List Char} {w w' : World} {i : ℕ} {c : Client} {e : Event}

/-- The name that a client has selected and not yet entered the game with, and the session it is
about to kick for it. -/
def Client.selection (toLower : List Char → List Char) (c : Client) :
    Option (List Char × Option ℕ) :=
  match c.task with
  | .kickingCharacter name old => some (toLower name, some old)
  | .ended => none
  | _ =>
    if c.state = .characterSelected then
      some (toLower (c.characterId.getD "unknown".toList), none)
    else none

theorem Client.selection_of (c : Client) {task : Task} (ht : c.task = task) :
    c.selection toLower = ({ c with task := task } : Client).selection toLower := by
  subst ht
  rfl

namespace World

/-- The name of a session, in lower case. -/
def nameOf (toLower : List Char → List Char) (w : World) (id : ℕ) : Option (List Char) :=
  ((w.handle id).bind Handle.character).map toLower

def selectionOf (toLower : List Char → List Char) (w : World) (i : ℕ) :
    Option (List Char × Option ℕ) := (w.clients[i]?).bind (Client.selection toLower)

/-- Where a connection enters the game, no other has its name selected. -/
def alone (toLower : List Char → List Char) (w : World) : Event → Bool
  | .resume i (.loaded (some true)) =>
    match w.clients[i]? with
    | some c =>
      c.task ≠ .loadingGame || (w.clients.eraseIdx i).all fun d =>
        (d.selection toLower).map Prod.fst ≠ (c.selection toLower).map Prod.fst
    | none => true
  | _ => true

structure Named (toLower : List Char → List Char) (w : World) : Prop where
  indexed : ∀ id name, w.nameOf toLower id = some name → w.nameToSession name = some id
  cleared : Exclusive.Cleared (w.nameOf toLower) (w.selectionOf toLower)

theorem named_start : start.Named toLower where
  indexed id name h := by cases h
  cleared := Exclusive.Cleared.empty

theorem selectionOf_set (hi : i < w.clients.length) (c' : Client)
    (hclients : w'.clients = w.clients.set i c') :
    w'.selectionOf toLower = Function.update (w.selectionOf toLower) i (c'.selection toLower) :=
  read_set (Client.selection toLower) hi c' hclients

theorem selectionOf_of (hc : w.clients[i]? = some c) :
    w.selectionOf toLower i = c.selection toLower := by
  rw [selectionOf, hc]
  rfl

theorem nameOf_of {id : ℕ} {h : Handle} (hid : w.handle id = some h) {name : List Char}
    (hname : h.character = some name) : w.nameOf toLower id = some (toLower name) := by
  rw [nameOf, hid, Option.bind_some, hname]
  rfl

theorem nameOf_eq (w : World) :
    w.nameOf toLower = fun id => (w.handle id).bind fun h => h.character.map toLower := by
  funext id
  exact Option.map_bind

theorem nameOf_updateSession (id : ℕ) (f : Handle → Handle)
    (hf : ∀ h, (f h).character = h.character) :
    (w.updateSession id f).nameOf toLower = w.nameOf toLower := by
  rw [nameOf_eq, nameOf_eq]
  apply read_updateSession
  intro h
  rw [hf]

theorem nameOf_of_gone {id : ℕ} (hgone : w'.handle = Function.update w.handle id none) :
    w'.nameOf toLower = Function.update (w.nameOf toLower) id none := by
  rw [nameOf_eq, nameOf_eq]
  exact read_gone _ hgone

theorem nameOf_ne_of_free (hw : w.Named toLower) {name : List Char}
    (hfree : w.nameToSession name = none) (id : ℕ) : w.nameOf toLower id ≠ some name := by
  intro hid
  rw [hw.indexed id name hid] at hfree
  cases hfree

theorem Named.setClient (hw : w.Named toLower) (hc : w.clients[i]? = some c) {c' : Client}
    (hsel : c'.selection toLower = c.selection toLower ∨ c'.selection toLower = none) :
    (w.setClient i c').Named toLower := by
  have hi : i < w.clients.length := (List.getElem?_eq_some_iff.mp hc).1
  refine ⟨hw.indexed, ?_⟩
  have hset : (w.setClient i c').selectionOf toLower =
      Function.update (w.selectionOf toLower) i (c'.selection toLower) := selectionOf_set hi c' rfl
  rw [hset]
  rcases hsel with hsame | hnone
  · rw [hsame, ← selectionOf_of hc, Function.update_eq_self]
    exact hw.cleared
  · rw [hnone]
    exact hw.cleared.giveUp

theorem Named.updateSession (hw : w.Named toLower) (id : ℕ) (f : Handle → Handle)
    (hf : ∀ h, (f h).character = h.character) : (w.updateSession id f).Named toLower := by
  have hname : (w.updateSession id f).nameOf toLower = w.nameOf toLower :=
    nameOf_updateSession id f hf
  refine ⟨?_, ?_⟩
  · intro j name hj
    rw [hname] at hj
    exact hw.indexed j name hj
  · rw [hname]
    exact hw.cleared

theorem Named.removeSession (hw : w.Named toLower) (id : ℕ) :
    (w.removeSession id).Named toLower := by
  have hname : (w.removeSession id).nameOf toLower = Function.update (w.nameOf toLower) id none :=
    nameOf_of_gone (handle_removeSession w id)
  refine ⟨?_, ?_⟩
  · intro j name hj
    rw [hname] at hj
    exact hw.indexed j name (Exclusive.of_update_none hj).2
  · rw [hname]
    exact hw.cleared.remove

theorem Named.unregisterSession (hw : w.Named toLower) (id : ℕ) :
    (w.unregisterSession toLower id).Named toLower := by
  have hname : (w.unregisterSession toLower id).nameOf toLower =
      Function.update (w.nameOf toLower) id none :=
    nameOf_of_gone (handle_unregisterSession toLower w id)
  have hsel : (w.unregisterSession toLower id).selectionOf toLower = w.selectionOf toLower := by
    funext j
    simp [selectionOf]
  refine ⟨?_, ?_⟩
  · intro j name hj
    rw [hname] at hj
    obtain ⟨hne, hj⟩ := Exclusive.of_update_none hj
    cases hchar : (w.handle id).bind Handle.character with
    | none =>
      rw [nameToSession_unregisterSession_of_none toLower w hchar]
      exact hw.indexed j name hj
    | some gone =>
      obtain ⟨h, hh, hgone⟩ := Option.bind_eq_some_iff.mp hchar
      -- the name that the index forgets is of no other session
      have hother : name ≠ toLower gone := by
        intro he
        apply hne
        apply hw.cleared.unique j id name hj
        rw [nameOf, hchar, he]
        rfl
      rw [nameToSession_unregisterSession toLower w hh hgone, Function.update_of_ne hother]
      exact hw.indexed j name hj
  · rw [hname, hsel]
    exact hw.cleared.remove

theorem Named.select (hw : w.Named toLower) (hc : w.clients[i]? = some c) {name : List Char}
    (hfree : ∀ id, w.nameOf toLower id ≠ some (toLower name)) :
    (w.selectCharacter i c name).Named toLower := by
  have hi : i < w.clients.length := (List.getElem?_eq_some_iff.mp hc).1
  refine ⟨hw.indexed, ?_⟩
  have hset : (w.selectCharacter i c name).selectionOf toLower =
      Function.update (w.selectionOf toLower) i (some (toLower name, none)) :=
    selectionOf_set hi
      { c with state := .characterSelected, characterId := some name, task := .reading } rfl
  rw [hset]
  apply hw.cleared.ask
  intro id hid
  exact absurd hid (hfree id)

theorem of_alone (halone : w.alone toLower (.resume i (.loaded (some true))) = true)
    (hc : w.clients[i]? = some c) (ht : c.task = .loadingGame) {name : List Char}
    (hsel : c.selection toLower = some (name, none)) (j : ℕ) (old : Option ℕ)
    (hj : w.selectionOf toLower j = some (name, old)) : j = i := by
  apply read_alone (Client.selection toLower) ?_ hsel j hj
  simpa [alone, hc, ht] using halone

theorem Named.enter (hw : w.Named toLower) (hc : w.clients[i]? = some c)
    (hs : c.state = .characterSelected) (ht : c.task = .loadingGame)
    (halone : w.alone toLower (.resume i (.loaded (some true))) = true) :
    (((w.registerSession c.sessionId).registerIngame toLower c.sessionId
      (c.characterId.getD "unknown".toList)).setClient i
      { c with upgraded := true, state := .inGame, task := .enteringGame }).Named toLower := by
  have hi : i < w.clients.length := (List.getElem?_eq_some_iff.mp hc).1
  have hsel : c.selection toLower = some (toLower (c.characterId.getD "unknown".toList), none) := by
    rw [Client.selection, ht]
    exact if_pos hs
  generalize c.characterId.getD "unknown".toList = name at hsel ⊢
  have hwaiting : w.selectionOf toLower i = some (toLower name, none) :=
    (selectionOf_of hc).trans hsel
  have hnone : ∀ id, w.nameOf toLower id ≠ some (toLower name) := by
    intro id hid
    cases hw.cleared.clear i _ none hwaiting id hid
  have hname : ((w.registerSession c.sessionId).registerIngame toLower c.sessionId name).nameOf
      toLower = Function.update (w.nameOf toLower) c.sessionId (some (toLower name)) := by
    funext id
    unfold nameOf
    rw [handle_registerIngame]
    by_cases hid : id = c.sessionId
    · subst hid
      simp
    · simp [Function.update_of_ne hid]
  have hindex : ((w.registerSession c.sessionId).registerIngame toLower c.sessionId
      name).nameToSession = Function.update w.nameToSession (toLower name) (some c.sessionId) := by
    rw [registerIngame_registerSession]
  refine ⟨?_, ?_⟩
  · intro id other hid
    rw [setClient_nameToSession, hindex]
    have hid : ((w.registerSession c.sessionId).registerIngame toLower c.sessionId name).nameOf
        toLower id = some other := hid
    rw [hname] at hid
    rcases Exclusive.of_update hid with ⟨rfl, hother⟩ | ⟨-, hid⟩
    · cases hother
      exact Function.update_self ..
    · have hne : other ≠ toLower name := fun he => hnone id (he ▸ hid)
      rw [Function.update_of_ne hne]
      exact hw.indexed id other hid
  · have hset : (((w.registerSession c.sessionId).registerIngame toLower c.sessionId
        name).setClient i
        { c with upgraded := true, state := .inGame, task := .enteringGame }).selectionOf toLower =
        Function.update (w.selectionOf toLower) i none :=
      selectionOf_set hi _ (clients_of_enter c.sessionId name _)
    rw [hset]
    have hentry : (((w.registerSession c.sessionId).registerIngame toLower c.sessionId
        name).setClient i { c with upgraded := true, state := .inGame, task := .enteringGame }).nameOf
        toLower = Function.update (w.nameOf toLower) c.sessionId (some (toLower name)) := hname
    rw [hentry]
    exact hw.cleared.enter hwaiting (of_alone halone hc ht hsel)

theorem Named.move (hw : w.Named toLower) (hsound : w.Sound) (hc : w.clients[i]? = some c)
    (halone : w.alone toLower e = true) (hm : Move toLower w i c e w') : w'.Named toLower := by
  have hfits := hsound i c hc
  cases hm with
  | shake hr hs => exact hw.setClient hc (.inr (by simp [Client.selection, hr]))
  | @lock account task hr hs hnone hne hfree hlook =>
    have hlocked : ({ w with
        loginInProgress := insert (toLower account) w.loginInProgress } : World).Named toLower :=
      ⟨hw.indexed, hw.cleared⟩
    refine hlocked.setClient hc (.inr ?_)
    cases hlook <;> simp [Client.selection, hs]
  | cleaned ht =>
    exact (hw.unregisterSession _).setClient (by simpa using hc) (.inl (c.selection_of ht).symm)
  | kicked ht =>
    exact (hw.removeSession _).setClient hc (.inl (c.selection_of ht).symm)
  | @accepted account ht =>
    have hset := hw.updateSession c.sessionId (fun h => { h with accountId := account })
      fun _ => rfl
    exact hset.setClient hc (.inr rfl)
  | refused ht => exact hw.setClient hc (.inl (c.selection_of ht).symm)
  | @answered account ht =>
    have hreleased : (w.releaseLoginLock toLower account).Named toLower :=
      ⟨hw.indexed, hw.cleared⟩
    exact hreleased.setClient hc (.inl (c.selection_of ht).symm)
  | @unanswered account ht =>
    have hreleased : (w.releaseLoginLock toLower account).Named toLower :=
      ⟨hw.indexed, hw.cleared⟩
    have hc' : ((w.releaseLoginLock toLower account).unregisterSession toLower
        c.sessionId).clients[i]? = some c := by
      rw [clients_unregisterSession]
      exact hc
    exact (hreleased.unregisterSession _).setClient hc' (.inr rfl)
  | askNation hr hs => exact hw.setClient hc (.inl (c.selection_of hr).symm)
  | nationSet ht => exact hw.setClient hc (.inr rfl)
  | askCharacter hr hs => exact hw.setClient hc (.inl (c.selection_of hr).symm)
  | free ht hfree => exact hw.select hc (nameOf_ne_of_free hw hfree)
  | @taken name old ht hold haccount =>
    have hi : i < w.clients.length := (List.getElem?_eq_some_iff.mp hc).1
    refine ⟨hw.indexed, ?_⟩
    have hset : (w.setClient i { c with task := .kickingCharacter name old }).selectionOf toLower =
        Function.update (w.selectionOf toLower) i (some (toLower name, some old)) :=
      selectionOf_set hi { c with task := .kickingCharacter name old } rfl
    rw [hset]
    apply hw.cleared.ask
    intro id hid
    rw [← hold]
    exact hw.indexed id _ hid
  | @replaced name old ht =>
    have hwaiting : w.selectionOf toLower i = some (toLower name, some old) :=
      (selectionOf_of hc).trans (c.selection_of ht)
    refine (hw.removeSession old).select hc ?_
    intro id hid
    rw [nameOf_of_gone (handle_removeSession w old)] at hid
    obtain ⟨hne, hid⟩ := Exclusive.of_update_none hid
    exact hne (Option.some.inj (hw.cleared.clear i _ _ hwaiting id hid)).symm
  | askGame hr hs => exact hw.setClient hc (.inl (c.selection_of hr).symm)
  | enter he ht hup => exact hw.enter hc (hfits.fits_of ht) ht (he ▸ halone)
  | @entered account he ht haccount =>
    have hset := hw.updateSession c.sessionId (fun h => { h with accountId := account })
      fun _ => rfl
    exact hset.setClient hc (.inl (c.selection_of ht).symm)
  | askLogout hr hs => exact hw.setClient hc (.inl (c.selection_of hr).symm)
  | loggedOut ht => exact (hw.unregisterSession _).setClient (by simpa using hc) (.inr rfl)
  | back ht =>
    refine hw.setClient hc (.inl ?_)
    rcases ht with ht | ⟨name, ht⟩ | ht | ⟨ht, -⟩ <;> exact (c.selection_of ht).symm
  | leave hl => exact (hw.unregisterSession _).setClient (by simpa using hc) (.inr rfl)
  | stay hr hs =>
    have hset := hw.updateSession c.sessionId (fun h => { h with isOffline := true }) fun _ => rfl
    exact hset.setClient hc (.inr rfl)

theorem Named.step (hw : w.Named toLower) (hsound : w.Sound) (e : Event)
    (halone : w.alone toLower e = true) : (w.step toLower e).Named toLower := by
  rcases w.step_cases toLower e with hsame | ⟨i, c, hc, hmove⟩ | rfl | ⟨id, rfl⟩
  · rwa [hsame]
  · exact hw.move hsound hc halone hmove
  · have hsel : (w.step toLower .connect).selectionOf toLower = w.selectionOf toLower :=
      read_append (Client.selection toLower) rfl
    refine ⟨hw.indexed, ?_⟩
    rw [hsel]
    exact hw.cleared
  · exact hw.unregisterSession id

theorem named_run (toLower : List Char → List Char) (events : List Event)
    (halone : Run.Along (step toLower) (fun w e => w.alone toLower e = true) start events) :
    (start.run toLower events).Named toLower := by
  have hrun : (start.run toLower events).Sound ∧ (start.run toLower events).Named toLower :=
    Run.invariant (fun w : World => w.Sound ∧ w.Named toLower)
      (fun w e hw he => ⟨hw.1.step e, hw.2.step hw.1 e he⟩) halone ⟨sound_start, named_start⟩
  exact hrun.2

/-- As long as no connection enters the game while another has its name selected, no two sessions
bear one name, case aside, and each is the one found under its name. -/
theorem names_are_single (toLower : List Char → List Char) (events : List Event)
    (halone : Run.Along (step toLower) (fun w e => w.alone toLower e = true) start events)
    {id id' : ℕ} {h h' : Handle} {name name' : List Char}
    (hid : (start.run toLower events).handle id = some h) (hname : h.character = some name)
    (hid' : (start.run toLower events).handle id' = some h') (hname' : h'.character = some name')
    (hsame : toLower name = toLower name') :
    id = id' ∧ (start.run toLower events).findSessionByName toLower name = some id := by
  have hnamed := named_run toLower events halone
  have hone : (start.run toLower events).nameOf toLower id = some (toLower name) :=
    nameOf_of hid hname
  have htwo : (start.run toLower events).nameOf toLower id' = some (toLower name) := by
    rw [nameOf_of hid' hname', hsame]
  exact ⟨hnamed.cleared.unique id id' _ hone htwo, hnamed.indexed id _ hone⟩

/-- The `i`th connection logs in and selects a character. -/
def selecting (i : ℕ) (account name : List Char) : List Event :=
  [.packet i .kickout .id, .packet i (.login (some account) (some ['p'])) .id,
    .resume i (.account (some 1)), .resume i (.sent true), .packet i (.selChar [] name) .id,
    .resume i (.loaded (some true))]

def entering (i : ℕ) : List Event :=
  [.packet i (.gameStart 2) .id, .resume i (.loaded (some true)), .resume i (.sent true)]

theorem names_of_two :
    (start.run (fun n => n) (.connect :: selecting 0 ['a'] ['k'] ++ entering 0 ++
      .connect :: selecting 1 ['b'] ['l'] ++ entering 1)).findSessionByName (fun n => n) ['k'] =
        some 1 := by
  have hone : (start.run (fun n => n) (.connect :: selecting 0 ['a'] ['k'] ++ entering 0 ++
      .connect :: selecting 1 ['b'] ['l'] ++ entering 1)).handle 1 =
        some { accountId := ['a'], character := some ['k'] } := by decide
  exact (names_are_single (fun n => n) _ (by decide) hone rfl hone rfl rfl).2

/-- Two connections that have selected one character both enter the game with it. -/
example : let w := start.run (fun n => n) (.connect :: .connect :: selecting 0 ['a'] ['k'] ++
      selecting 1 ['b'] ['k'] ++ entering 0 ++ entering 1)
    (w.handle 1).bind Handle.character = some ['k'] ∧
      (w.handle 2).bind Handle.character = some ['k'] := by
  decide

end World

end KoServer.Login
