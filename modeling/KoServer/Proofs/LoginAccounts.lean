import KoServer.Proofs.LoginKicked

/-! The accounts of the sessions in the game, and when a login finds the session it is to kick. -/

namespace KoServer.Login

variable {toLower : List Char → List Char} {w w' : World} {i : ℕ} {c : Client} {e : Event}

/-- The account that a client logs in to, or has logged in to without its being in the table yet,
and the session it is about to remove for it. -/
def Client.claim (toLower : List Char → List Char) (c : Client) :
    Option (List Char × Option ℕ) :=
  match c.task with
  | .cleaningOffline account old | .kickingAccount account old => some (toLower account, some old)
  | .authenticating account => some (toLower account, none)
  | .ended => none
  | .enteringGame => c.accountId.map fun account => (toLower account, none)
  | _ =>
    if c.upgraded = true then none else c.accountId.map fun account => (toLower account, none)

theorem Client.claim_of (c : Client) {task : Task} (ht : c.task = task) :
    c.claim toLower = ({ c with task := task } : Client).claim toLower := by
  subst ht
  rfl

namespace World

/-- The account of a session, in lower case. -/
def accountKey (toLower : List Char → List Char) (w : World) (id : ℕ) : Option (List Char) :=
  (w.handle id).bind fun h => if h.accountId = [] then none else some (toLower h.accountId)

/-- The sessions of an account, of which a login to it finds one. -/
def sessionsOfAccount (toLower : List Char → List Char) (w : World) (account : List Char) : Set ℕ :=
  {id | ∃ h, w.handle id = some h ∧ toLower h.accountId = toLower account}

def claimOf (toLower : List Char → List Char) (w : World) (i : ℕ) :
    Option (List Char × Option ℕ) := (w.clients[i]?).bind (Client.claim toLower)

/-- Where the account of a connection is written to the table, no other is on its way from a login
to the same account into the game. -/
def aloneOfAccount (toLower : List Char → List Char) (w : World) : Event → Bool
  | .resume i (.sent true) =>
    match w.clients[i]? with
    | some c =>
      c.task ≠ .enteringGame || (w.clients.eraseIdx i).all fun d =>
        (d.claim toLower).map Prod.fst ≠ (c.claim toLower).map Prod.fst
    | none => true
  | _ => true

def Accounted (toLower : List Char → List Char) (w : World) : Prop :=
  Exclusive.Cleared (w.accountKey toLower) (w.claimOf toLower)

theorem accounted_start : start.Accounted toLower := Exclusive.Cleared.empty

theorem claimOf_set (hi : i < w.clients.length) (c' : Client)
    (hclients : w'.clients = w.clients.set i c') :
    w'.claimOf toLower = Function.update (w.claimOf toLower) i (c'.claim toLower) :=
  read_set (Client.claim toLower) hi c' hclients

theorem accountKey_of {id : ℕ} {h : Handle} (hid : w.handle id = some h) (hne : h.accountId ≠ []) :
    w.accountKey toLower id = some (toLower h.accountId) := by
  rw [accountKey, hid, Option.bind_some, if_neg hne]

theorem accountKey_of_gone {id : ℕ} (hgone : w'.handle = Function.update w.handle id none) :
    w'.accountKey toLower = Function.update (w.accountKey toLower) id none :=
  read_gone _ hgone

theorem accountKey_updateSession (id : ℕ) (f : Handle → Handle)
    (hf : ∀ h, (f h).accountId = h.accountId) :
    (w.updateSession id f).accountKey toLower = w.accountKey toLower := by
  apply read_updateSession
  intro h
  rw [hf]

theorem accountKey_of_absent {id : ℕ} {f : Handle → Handle} (hnone : w.handle id = none) :
    (w.updateSession id f).accountKey toLower = w.accountKey toLower := by
  funext j
  unfold accountKey
  rw [handle_updateSession, hnone, Option.map_none]
  by_cases hj : j = id
  · subst hj
    rw [Function.update_self, hnone]
  · rw [Function.update_of_ne hj]

theorem accountKey_stored {id : ℕ} {h : Handle} (hh : w.handle id = some h) {account : List Char}
    (hne : account ≠ []) :
    (w.updateSession id fun h => { h with accountId := account }).accountKey toLower =
      Function.update (w.accountKey toLower) id (some (toLower account)) := by
  funext j
  unfold accountKey
  rw [handle_updateSession, hh, Option.map_some]
  by_cases hj : j = id
  · subst hj
    simp [hne]
  · simp [Function.update_of_ne hj]

theorem claimOf_of (hc : w.clients[i]? = some c) : w.claimOf toLower i = c.claim toLower := by
  rw [claimOf, hc]
  rfl

/-- A client whose claim stays or goes, while sessions stay or go. -/
theorem Accounted.keep (hw : w.Accounted toLower) (hc : w.clients[i]? = some c) {c' : Client}
    (hclients : w'.clients = w.clients.set i c')
    (hkey : w'.accountKey toLower = w.accountKey toLower ∨
      ∃ id, w'.accountKey toLower = Function.update (w.accountKey toLower) id none)
    (hclaim : c'.claim toLower = c.claim toLower ∨ c'.claim toLower = none) :
    w'.Accounted toLower := by
  have hi : i < w.clients.length := (List.getElem?_eq_some_iff.mp hc).1
  have hwaiting : Exclusive.Cleared (w.accountKey toLower) (w'.claimOf toLower) := by
    rw [claimOf_set hi c' hclients]
    rcases hclaim with hsame | hnone
    · rw [hsame, ← claimOf_of hc, Function.update_eq_self]
      exact hw
    · rw [hnone]
      exact Exclusive.Cleared.giveUp hw
  unfold Accounted
  rcases hkey with hsame | ⟨id, hgone⟩
  · rw [hsame]
    exact hwaiting
  · rw [hgone]
    exact hwaiting.remove

theorem of_aloneOfAccount (halone : w.aloneOfAccount toLower (.resume i (.sent true)) = true)
    (hc : w.clients[i]? = some c) (ht : c.task = .enteringGame) {account : List Char}
    (hclaim : c.claim toLower = some (account, none)) (j : ℕ) (old : Option ℕ)
    (hj : w.claimOf toLower j = some (account, old)) : j = i := by
  apply read_alone (Client.claim toLower) ?_ hclaim j hj
  simpa [aloneOfAccount, hc, ht] using halone

theorem handle_none_of_first (hsound : w.Sound) (hnum : w.Numbered) (hseated : w.Seated)
    (hc : w.clients[i]? = some c) (hs : c.state = .versionChecked) :
    w.handle c.sessionId = none := by
  by_contra hsome
  obtain ⟨j, d, hd, hdid, hup⟩ := hseated _ (Option.isSome_iff_ne_none.mpr hsome)
  rw [hnum.eq hc hd hdid, (hsound i c hc).early (.inr hs)] at hup
  cases hup

/-- A login comes to hold the claim to its account, with the one session of the account that there
can be. -/
theorem Accounted.lock (hw : w.Accounted toLower)
    (hlower : ∀ name, toLower name = toLower [] → name = []) (hc : w.clients[i]? = some c)
    {account : List Char} {task : Task} (hne : account ≠ [])
    (hlook : Looked toLower w account task) (hclients : w'.clients = w.clients.set i
      { c with task := task }) (hhandle : w'.handle = w.handle) : w'.Accounted toLower := by
  have hi : i < w.clients.length := (List.getElem?_eq_some_iff.mp hc).1
  have hkey : w'.accountKey toLower = w.accountKey toLower := by
    funext id
    rw [accountKey, hhandle]
    rfl
  have hfound : ∀ {old : ℕ} {h : Handle}, w.handle old = some h →
      toLower h.accountId = toLower account → w.accountKey toLower old = some (toLower account) := by
    intro old h hold haccount
    have hsome : h.accountId ≠ [] := by
      intro hnil
      apply hne
      apply hlower
      rw [← haccount, hnil]
    rw [accountKey_of hold hsome, haccount]
  unfold Accounted
  rw [hkey, claimOf_set hi _ hclients]
  cases hlook with
  | none hnone =>
    apply Exclusive.Cleared.ask hw
    intro id hid
    obtain ⟨h, hh, hkeyed⟩ := Option.bind_eq_some_iff.mp hid
    split_ifs at hkeyed
    exact absurd (Option.some.inj hkeyed) (hnone id h hh)
  | offline hold haccount =>
    apply Exclusive.Cleared.ask hw
    intro id hid
    rw [hw.unique _ id _ (hfound hold haccount) hid]
  | online hold haccount =>
    apply Exclusive.Cleared.ask hw
    intro id hid
    rw [hw.unique _ id _ (hfound hold haccount) hid]

theorem Accounted.kick (hw : w.Accounted toLower) (hc : w.clients[i]? = some c)
    {account : List Char} {old : ℕ} (hclaim : c.claim toLower = some (toLower account, some old))
    {c' : Client} (hclients : w'.clients = w.clients.set i c')
    (hkey : w'.accountKey toLower = Function.update (w.accountKey toLower) old none)
    (hclaim' : c'.claim toLower = some (toLower account, none)) : w'.Accounted toLower := by
  have hi : i < w.clients.length := (List.getElem?_eq_some_iff.mp hc).1
  unfold Accounted
  rw [hkey, claimOf_set hi c' hclients, hclaim']
  exact Exclusive.Cleared.kick hw ((claimOf_of hc).trans hclaim)

theorem Accounted.store (hw : w.Accounted toLower) (hsound : w.Sound)
    (hc : w.clients[i]? = some c) (ht : c.task = .enteringGame) {account : List Char}
    (haccount : c.accountId = some account)
    (halone : w.aloneOfAccount toLower (.resume i (.sent true)) = true) :
    ((w.updateSession c.sessionId fun h => { h with accountId := account }).setClient i
      { c with task := .reading }).Accounted toLower := by
  have hi : i < w.clients.length := (List.getElem?_eq_some_iff.mp hc).1
  have hfits := hsound i c hc
  have hs : c.state = .inGame := hfits.fits_of ht
  have hup := hfits.upgraded hs
  have hne : account ≠ [] := by
    obtain ⟨a, ha, hne⟩ := hfits.account (by simp [hs]) (by simp [hs])
    rw [haccount] at ha
    cases ha
    exact hne
  have hclaim : c.claim toLower = some (toLower account, none) := by
    simp [Client.claim, ht, haccount]
  have hnone : ({ c with task := .reading } : Client).claim toLower = none := by
    simp [Client.claim, hup]
  cases hh : w.handle c.sessionId with
  | none =>
    have habsent : (w.updateSession c.sessionId fun h =>
        { h with accountId := account }).accountKey toLower = w.accountKey toLower :=
      accountKey_of_absent hh
    exact hw.keep hc rfl (.inl habsent) (.inr hnone)
  | some h =>
    have hclaims : ((w.updateSession c.sessionId fun h => { h with accountId := account }).setClient
        i { c with task := .reading }).claimOf toLower =
          Function.update (w.claimOf toLower) i none := by
      rw [claimOf_set (w := w) hi { c with task := .reading } rfl, hnone]
    have hkeys : ((w.updateSession c.sessionId fun h => { h with accountId := account }).setClient
        i { c with task := .reading }).accountKey toLower =
          Function.update (w.accountKey toLower) c.sessionId (some (toLower account)) :=
      accountKey_stored hh hne
    unfold Accounted
    rw [hclaims, hkeys]
    exact Exclusive.Cleared.enter hw ((claimOf_of hc).trans hclaim)
      (of_aloneOfAccount halone hc ht hclaim)

theorem Accounted.move (hw : w.Accounted toLower)
    (hlower : ∀ name, toLower name = toLower [] → name = []) (hsound : w.Sound)
    (hnum : w.Numbered) (hseated : w.Seated) (hc : w.clients[i]? = some c)
    (halone : w.aloneOfAccount toLower e = true) (hm : Move toLower w i c e w') :
    w'.Accounted toLower := by
  have hfits := hsound i c hc
  have hleft : ∀ c', ((w.unregisterSession toLower c.sessionId).setClient i c').accountKey toLower =
      Function.update (w.accountKey toLower) c.sessionId none := by
    intro c'
    exact accountKey_of_gone (handle_unregisterSession toLower w c.sessionId)
  cases hm with
  | shake hr hs => exact hw.keep hc rfl (.inl rfl) (.inl rfl)
  | lock hr hs hnone hne hfree hlook => exact hw.lock hlower hc hne hlook rfl rfl
  | @cleaned account old ht =>
    exact hw.kick hc (c.claim_of ht) (clients_of_unregister _ _)
      (accountKey_of_gone (handle_unregisterSession toLower w old)) rfl
  | @kicked account old ht =>
    exact hw.kick hc (c.claim_of ht) rfl (accountKey_of_gone (handle_removeSession w old)) rfl
  | @accepted account ht =>
    obtain ⟨hs, -⟩ := hfits.fits_of ht
    have habsent : (w.updateSession c.sessionId fun h =>
        { h with accountId := account }).accountKey toLower = w.accountKey toLower :=
      accountKey_of_absent (handle_none_of_first hsound hnum hseated hc hs)
    refine hw.keep hc rfl (.inl habsent) (.inl ?_)
    rw [c.claim_of ht]
    simp [Client.claim, hfits.early (.inr hs)]
  | refused ht =>
    obtain ⟨hs, -⟩ := hfits.fits_of ht
    refine hw.keep hc rfl (.inl rfl) (.inr ?_)
    simp [Client.claim, hfits.fresh (.inr hs)]
  | answered ht => exact hw.keep hc rfl (.inl rfl) (.inl (c.claim_of ht).symm)
  | @unanswered account ht =>
    have hgone : (((w.releaseLoginLock toLower account).unregisterSession toLower
        c.sessionId).setClient i { c with task := .ended }).accountKey toLower =
          Function.update (w.accountKey toLower) c.sessionId none :=
      accountKey_of_gone (handle_unregisterSession toLower _ c.sessionId)
    exact hw.keep hc (clients_of_unregister _ _) (.inr ⟨_, hgone⟩) (.inr rfl)
  | askNation hr hs => exact hw.keep hc rfl (.inl rfl) (.inl (c.claim_of hr).symm)
  | nationSet ht => exact hw.keep hc rfl (.inl rfl) (.inl (c.claim_of ht).symm)
  | askCharacter hr hs => exact hw.keep hc rfl (.inl rfl) (.inl (c.claim_of hr).symm)
  | free ht hfree => exact hw.keep hc rfl (.inl rfl) (.inl (c.claim_of ht).symm)
  | taken ht hold haccount => exact hw.keep hc rfl (.inl rfl) (.inl (c.claim_of ht).symm)
  | @replaced name old ht =>
    exact hw.keep hc rfl (.inr ⟨old, accountKey_of_gone (handle_removeSession w old)⟩)
      (.inl (c.claim_of ht).symm)
  | askGame hr hs => exact hw.keep hc rfl (.inl rfl) (.inl (c.claim_of hr).symm)
  | enter he ht hup =>
    refine hw.keep hc (clients_of_enter _ _ _) (.inr ⟨c.sessionId, ?_⟩) (.inl ?_)
    · funext id
      rw [accountKey, setClient_handle, handle_registerIngame]
      by_cases hid : id = c.sessionId
      · rw [hid, Function.update_self, Function.update_self, Option.bind_some, if_pos rfl]
      · rw [Function.update_of_ne hid, Function.update_of_ne hid]
        rfl
    · rw [c.claim_of ht]
      simp [Client.claim, hup]
  | entered he ht haccount => exact hw.store hsound hc ht haccount (he ▸ halone)
  | askLogout hr hs => exact hw.keep hc rfl (.inl rfl) (.inl (c.claim_of hr).symm)
  | loggedOut ht =>
    exact hw.keep hc (clients_of_unregister _ _) (.inr ⟨_, hleft _⟩)
      (.inl (c.claim_of ht).symm)
  | back ht =>
    refine hw.keep hc rfl (.inl rfl) (.inl ?_)
    rcases ht with ht | ⟨name, ht⟩ | ht | ⟨ht, hnone⟩
    · exact (c.claim_of ht).symm
    · exact (c.claim_of ht).symm
    · exact (c.claim_of ht).symm
    · rw [c.claim_of ht]
      simp [Client.claim, hnone]
  | leave hl =>
    exact hw.keep hc (clients_of_unregister _ _) (.inr ⟨_, hleft _⟩) (.inr rfl)
  | stay hr hs =>
    have hsame : (w.updateSession c.sessionId fun h => { h with isOffline := true }).accountKey
        toLower = w.accountKey toLower := accountKey_updateSession _ _ fun _ => rfl
    exact hw.keep hc rfl (.inl hsame) (.inr rfl)

theorem Accounted.step (hw : w.Accounted toLower)
    (hlower : ∀ name, toLower name = toLower [] → name = []) (hsound : w.Sound)
    (hnum : w.Numbered) (hseated : w.Seated) (e : Event)
    (halone : w.aloneOfAccount toLower e = true) : (w.step toLower e).Accounted toLower := by
  rcases w.step_cases toLower e with hsame | ⟨i, c, hc, hmove⟩ | rfl | ⟨id, rfl⟩
  · rwa [hsame]
  · exact hw.move hlower hsound hnum hseated hc halone hmove
  · have hclaims : (w.step toLower .connect).claimOf toLower = w.claimOf toLower :=
      read_append (Client.claim toLower) rfl
    unfold Accounted
    rw [hclaims]
    exact hw
  · have hclaims : (w.step toLower (.unregister id)).claimOf toLower = w.claimOf toLower := by
      funext j
      change ((w.unregisterSession toLower id).clients[j]?).bind (Client.claim toLower) = _
      rw [clients_unregisterSession]
      rfl
    have hkeys : (w.step toLower (.unregister id)).accountKey toLower =
        Function.update (w.accountKey toLower) id none :=
      accountKey_of_gone (handle_unregisterSession toLower w id)
    unfold Accounted
    rw [hclaims, hkeys]
    exact Exclusive.Cleared.remove hw

theorem accounted_run (toLower : List Char → List Char)
    (hlower : ∀ name, toLower name = toLower [] → name = []) (events : List Event)
    (halone : Run.Along (World.step toLower) (fun w e => w.aloneOfAccount toLower e = true) start
      events)
    (hids : (start.run toLower events).clients.length < 2 ^ 16) :
    (start.run toLower events).Accounted toLower := by
  have hshort := Run.along_of_end Sound (fun w : World => w.clients.length)
    (fun w e hw => ⟨hw.step e, length_step toLower hw e⟩) sound_start hids
  have hrun : (start.run toLower events).Sound ∧ (start.run toLower events).Numbered ∧
      (start.run toLower events).Seated ∧ (start.run toLower events).Accounted toLower :=
    Run.invariant (fun w : World => w.Sound ∧ w.Numbered ∧ w.Seated ∧ w.Accounted toLower)
      (fun w e hw he => ⟨hw.1.step e, hw.2.1.step hw.1 e he.2, hw.2.2.1.step hw.1 e,
        hw.2.2.2.step hlower hw.1 hw.2.1 hw.2.2.1 e he.1⟩)
      (Run.along_and.mpr ⟨halone, hshort⟩)
      ⟨sound_start, numbered_start, seated_start, accounted_start⟩
  exact hrun.2.2.2

/-- As long as no connection comes into the game on an account that another is logging in to, or is
logged in to outside the game, a session with an account is the only one of it, case aside. -/
theorem accounts_are_single (toLower : List Char → List Char)
    (hlower : ∀ name, toLower name = toLower [] → name = []) (events : List Event)
    (halone : Run.Along (step toLower) (fun w e => w.aloneOfAccount toLower e = true) start events)
    (hids : (start.run toLower events).clients.length < 2 ^ 16)
    {id : ℕ} {h : Handle} (hid : (start.run toLower events).handle id = some h)
    (hne : h.accountId ≠ []) :
    (start.run toLower events).sessionsOfAccount toLower h.accountId = {id} := by
  ext id'
  constructor
  · rintro ⟨h', hid', hsame⟩
    have hne' : h'.accountId ≠ [] := by
      intro hnil
      apply hne
      apply hlower
      rw [← hsame, hnil]
    apply (accounted_run toLower hlower events halone hids).unique id' id (toLower h.accountId)
    · rw [accountKey_of hid' hne', hsame]
    · exact accountKey_of hid hne
  · rintro rfl
    exact ⟨h, hid, rfl⟩

/-- A second login of an account, with the first in the game: the first is kicked, and the second
comes into the game with another character. -/
theorem account_of_two :
    (start.run (fun n => n) (.connect :: selecting 0 ['a'] ['k'] ++ entering 0 ++
      [.connect, .packet 1 .kickout .id, .packet 1 (.login (some ['a']) (some ['p'])) .id,
        .resume 1 .saved, .resume 1 (.account (some 1)), .resume 1 (.sent true),
        .packet 1 (.selChar [] ['l']) .id, .resume 1 (.loaded (some true))] ++
      entering 1)).sessionsOfAccount (fun n => n) ['a'] = {2} := by
  have htwo : (start.run (fun n => n) (.connect :: selecting 0 ['a'] ['k'] ++ entering 0 ++
      [.connect, .packet 1 .kickout .id, .packet 1 (.login (some ['a']) (some ['p'])) .id,
        .resume 1 .saved, .resume 1 (.account (some 1)), .resume 1 (.sent true),
        .packet 1 (.selChar [] ['l']) .id, .resume 1 (.loaded (some true))] ++
      entering 1)).handle 2 = some { accountId := ['a'], character := some ['l'] } := by decide
  exact accounts_are_single (fun n => n) (fun _ h => h) _ (by decide) (by decide) htwo (by decide)

/-- Two connections that have logged in to one account before either is in the game both come into
it. -/
example : let w := start.run (fun n => n) (.connect :: .connect :: selecting 0 ['a'] ['k'] ++
      selecting 1 ['a'] ['l'] ++ entering 0 ++ entering 1)
    (w.handle 1).map Handle.accountId = some ['a'] ∧
      (w.handle 2).map Handle.accountId = some ['a'] := by
  decide

end World

end KoServer.Login
