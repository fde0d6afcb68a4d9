import KoServer.Proofs.LoginNames

/-! What is left of a session that a login has kicked: the index keeps its name, and with it nobody
comes into the game any more. -/

namespace KoServer.Login

variable {toLower : List Char → List Char} {w w' : World} {i : ℕ} {c : Client} {e : Event}

/-- The tables after a step that puts no session into them. -/
inductive World.Effect (toLower : List Char → List Char) (w w' : World) : Prop
  | same (hhandle : w'.handle = w.handle) (hindex : w'.nameToSession = w.nameToSession)
  | gone {id : ℕ} (hhandle : w'.handle = Function.update w.handle id none)
    (hindex : w'.nameToSession = w.nameToSession ∨ ∃ name, w.nameOf toLower id = some name ∧
      w'.nameToSession = Function.update w.nameToSession name none)
  | rewritten {id : ℕ} {f : Handle → Handle} (hf : ∀ h, (f h).character = h.character)
    (hhandle : w'.handle = Function.update w.handle id ((w.handle id).map f))
    (hindex : w'.nameToSession = w.nameToSession)

structure World.Enters (toLower : List Char → List Char) (w : World) (i : ℕ) (c : Client)
    (w' : World) : Prop where
  task : c.task = .loadingGame
  first : c.upgraded = false
  handle : w'.handle = Function.update w.handle c.sessionId
    (some { character := some (c.characterId.getD "unknown".toList) })
  index : w'.nameToSession = Function.update w.nameToSession
    (toLower (c.characterId.getD "unknown".toList)) (some c.sessionId)
  clients : w'.clients = w.clients.set i
    { c with upgraded := true, state := .inGame, task := .enteringGame }

namespace World

theorem Effect.unregister (id : ℕ) : w.Effect toLower (w.unregisterSession toLower id) := by
  refine .gone (handle_unregisterSession toLower w id) ?_
  cases hchar : (w.handle id).bind Handle.character with
  | none => exact .inl (nameToSession_unregisterSession_of_none toLower w hchar)
  | some name =>
    obtain ⟨h, hh, hname⟩ := Option.bind_eq_some_iff.mp hchar
    refine .inr ⟨toLower name, ?_, nameToSession_unregisterSession toLower w hh hname⟩
    exact nameOf_of hh hname

theorem Effect.remove (id : ℕ) : w.Effect toLower (w.removeSession id) :=
  .gone (handle_removeSession w id) (.inl rfl)

theorem Effect.update (id : ℕ) (f : Handle → Handle) (hf : ∀ h, (f h).character = h.character) :
    w.Effect toLower (w.updateSession id f) :=
  .rewritten hf (handle_updateSession w id f) rfl

theorem Effect.setClient (h : w.Effect toLower w') (i : ℕ) (c : Client) :
    w.Effect toLower (w'.setClient i c) := by
  cases h with
  | same hhandle hindex => exact .same hhandle hindex
  | gone hhandle hindex => exact .gone hhandle hindex
  | rewritten hf hhandle hindex => exact .rewritten hf hhandle hindex

theorem Effect.refl : w.Effect toLower w := .same rfl rfl

end World

theorem Move.effect (hm : Move toLower w i c e w') :
    w.Effect toLower w' ∨ w.Enters toLower i c w' := by
  cases hm with
  | shake hr hs => exact .inl (World.Effect.refl.setClient i _)
  | lock hr hs hnone hne hfree hlook => exact .inl (.same rfl rfl)
  | cleaned ht => exact .inl ((World.Effect.unregister _).setClient i _)
  | kicked ht => exact .inl ((World.Effect.remove _).setClient i _)
  | @accepted account ht =>
    exact .inl ((World.Effect.update c.sessionId
      (fun h => { h with accountId := account }) fun _ => rfl).setClient i _)
  | refused ht => exact .inl (World.Effect.refl.setClient i _)
  | answered ht => exact .inl (.same rfl rfl)
  | @unanswered account ht =>
    have hleft : (w.releaseLoginLock toLower account).Effect toLower
        ((w.releaseLoginLock toLower account).unregisterSession toLower c.sessionId) :=
      World.Effect.unregister c.sessionId
    left
    cases hleft with
    | same hhandle hindex => exact .same hhandle hindex
    | gone hhandle hindex => exact .gone hhandle hindex
    | rewritten hf hhandle hindex => exact .rewritten hf hhandle hindex
  | askNation hr hs => exact .inl (World.Effect.refl.setClient i _)
  | nationSet ht => exact .inl (World.Effect.refl.setClient i _)
  | askCharacter hr hs => exact .inl (World.Effect.refl.setClient i _)
  | free ht hfree => exact .inl (World.Effect.refl.setClient i _)
  | taken ht hold haccount => exact .inl (World.Effect.refl.setClient i _)
  | replaced ht => exact .inl ((World.Effect.remove _).setClient i _)
  | askGame hr hs => exact .inl (World.Effect.refl.setClient i _)
  | enter he ht hup =>
    refine .inr ⟨ht, hup, ?_, ?_, clients_of_enter _ _ _⟩
    · simp
    · rw [World.setClient_nameToSession, World.registerIngame_registerSession]
  | @entered account he ht haccount =>
    exact .inl ((World.Effect.update c.sessionId
      (fun h => { h with accountId := account }) fun _ => rfl).setClient i _)
  | askLogout hr hs => exact .inl (World.Effect.refl.setClient i _)
  | loggedOut ht => exact .inl ((World.Effect.unregister _).setClient i _)
  | back ht => exact .inl (World.Effect.refl.setClient i _)
  | leave hl => exact .inl ((World.Effect.unregister _).setClient i _)
  | stay hr hs =>
    exact .inl ((World.Effect.update c.sessionId
      (fun h => { h with isOffline := true }) fun _ => rfl).setClient i _)

namespace World

/-- No session comes of nothing. -/
theorem Effect.isSome (h : w.Effect toLower w') {id : ℕ} (hid : (w'.handle id).isSome = true) :
    (w.handle id).isSome = true := by
  obtain ⟨h', hh'⟩ := Option.isSome_iff_exists.mp hid
  cases h with
  | same hhandle hindex => rwa [hhandle] at hid
  | gone hhandle hindex =>
    rw [hhandle] at hh'
    rw [(Exclusive.of_update_none hh').2]
    rfl
  | rewritten hf hhandle hindex =>
    rw [hhandle] at hh'
    rcases Exclusive.of_update hh' with ⟨rfl, hmap⟩ | ⟨-, hh'⟩
    · obtain ⟨h₀, hh₀, -⟩ := Option.map_eq_some_iff.mp hmap
      rw [hh₀]
      rfl
    · rw [hh']
      rfl

theorem Effect.handle_none (h : w.Effect toLower w') {id : ℕ} (hnone : w.handle id = none) :
    w'.handle id = none := by
  by_contra hsome
  have hback := h.isSome (Option.isSome_iff_ne_none.mpr hsome)
  rw [hnone] at hback
  cases hback

theorem Effect.nameOf (h : w.Effect toLower w') {id : ℕ} {name : List Char}
    (hid : w'.nameOf toLower id = some name) : w.nameOf toLower id = some name := by
  obtain ⟨name₀, hbind, rfl⟩ := Option.map_eq_some_iff.mp hid
  obtain ⟨h', hh', hname⟩ := Option.bind_eq_some_iff.mp hbind
  cases h with
  | same hhandle hindex => exact nameOf_of (hhandle ▸ hh') hname
  | gone hhandle hindex =>
    rw [hhandle] at hh'
    exact nameOf_of (Exclusive.of_update_none hh').2 hname
  | rewritten hf hhandle hindex =>
    rw [hhandle] at hh'
    rcases Exclusive.of_update hh' with ⟨rfl, hmap⟩ | ⟨-, hh'⟩
    · obtain ⟨h₀, hh₀, rfl⟩ := Option.map_eq_some_iff.mp hmap
      exact nameOf_of hh₀ ((hf h₀).symm.trans hname)
    · exact nameOf_of hh' hname

theorem Effect.index (h : w.Effect toLower w') {name : List Char}
    (hnone : ∀ id, w.nameOf toLower id ≠ some name) :
    w'.nameToSession name = w.nameToSession name := by
  cases h with
  | same hhandle hindex => rw [hindex]
  | gone hhandle hindex =>
    rcases hindex with hindex | ⟨other, hother, hindex⟩
    · rw [hindex]
    · have hne : name ≠ other := fun he => hnone _ (he ▸ hother)
      rw [hindex, Function.update_of_ne hne]
  | rewritten hf hhandle hindex => rw [hindex]

theorem of_set {l : List Client} {i j : ℕ} {c d : Client} (h : (l.set i c)[j]? = some d) :
    j = i ∧ d = c ∨ j ≠ i ∧ l[j]? = some d := by
  rw [List.getElem?_set] at h
  split_ifs at h with he hlt
  · exact .inl ⟨he.symm, (Option.some.inj h).symm⟩
  · exact .inr ⟨fun hj => he hj.symm, h⟩

/-- The first 65535 connections are numbered in their order. -/
structure Numbered (w : World) : Prop where
  counter : w.nextSessionId = (w.clients.length + 1) % 2 ^ 16
  ids : ∀ (i : ℕ) (c : Client), w.clients[i]? = some c → c.sessionId = i + 1

theorem Numbered.eq (hw : w.Numbered) {j : ℕ} {d : Client} (hc : w.clients[i]? = some c)
    (hd : w.clients[j]? = some d) (hid : d.sessionId = c.sessionId) : d = c := by
  have hij : j = i := by
    have hci := hw.ids i c hc
    have hdj := hw.ids j d hd
    omega
  subst hij
  exact Option.some.inj (hd.symm.trans hc)

/-- A session belongs to a connection that has been in the game. -/
def Seated (w : World) : Prop := ∀ id, (w.handle id).isSome = true →
  ∃ (i : ℕ) (c : Client), w.clients[i]? = some c ∧ c.sessionId = id ∧ c.upgraded = true

end World

theorem Move.nextSessionId (hm : Move toLower w i c e w') : w'.nextSessionId = w.nextSessionId := by
  cases hm with
  | enter he ht hup => rw [World.setClient_nextSessionId, World.registerIngame_registerSession]; rfl
  | unanswered ht => simp [World.releaseLoginLock]
  | cleaned ht => simp
  | loggedOut ht => simp
  | leave hl => simp
  | _ => rfl

namespace World

theorem length_step (toLower : List Char → List Char) (hw : w.Sound) (e : Event) :
    w.clients.length ≤ (w.step toLower e).clients.length := by
  rcases w.step_cases toLower e with hsame | ⟨i, c, hc, hmove⟩ | rfl | ⟨id, rfl⟩
  · rw [hsame]
  · obtain ⟨c', hclients, -⟩ := hmove.client (hw i c hc)
    rw [hclients, List.length_set]
  · simp [step]
  · simp [step]

theorem Numbered.step (hw : w.Numbered) (hsound : w.Sound) (e : Event)
    (hlt : (w.step toLower e).clients.length < 2 ^ 16) : (w.step toLower e).Numbered := by
  rcases w.step_cases toLower e with hsame | ⟨i, c, hc, hmove⟩ | rfl | ⟨id, rfl⟩
  · rwa [hsame]
  · obtain ⟨c', hclients, hadv⟩ := hmove.client (hsound i c hc)
    refine ⟨?_, ?_⟩
    · rw [hmove.nextSessionId, hclients, List.length_set]
      exact hw.counter
    · intro j d hd
      rw [hclients] at hd
      rcases of_set hd with ⟨rfl, rfl⟩ | ⟨-, hd⟩
      · exact hadv.sessionId.trans (hw.ids _ c hc)
      · exact hw.ids j d hd
  · have hlt : w.clients.length + 1 < 2 ^ 16 := by simpa [World.step] using hlt
    have hnext : w.nextSessionId = w.clients.length + 1 := by
      rw [hw.counter, Nat.mod_eq_of_lt hlt]
    have hid : w.allocateSessionId =
        (w.clients.length + 1, (w.clients.length + 1 + 1) % 2 ^ 16) := by
      unfold allocateSessionId SessionTable.allocateSessionId
      simp [hnext]
    refine ⟨?_, ?_⟩
    · simp [World.step, hid]
    · intro j d hd
      have hd : (w.clients ++ [{ sessionId := w.allocateSessionId.1 }])[j]? = some d := hd
      rw [List.getElem?_append] at hd
      split_ifs at hd with hj
      · exact hw.ids j d hd
      · obtain ⟨h0, rfl⟩ : j - w.clients.length = 0 ∧
            d = { sessionId := w.allocateSessionId.1 } := by
          obtain ⟨hlt', hget⟩ := List.getElem?_eq_some_iff.mp hd
          have hz : j - w.clients.length = 0 := by simpa using hlt'
          refine ⟨hz, ?_⟩
          simpa [hz] using hget.symm
        have hj' : j = w.clients.length := by omega
        rw [hid, hj']
  · refine ⟨by simpa [World.step] using hw.counter, ?_⟩
    intro j d hd
    exact hw.ids j d (by simpa [World.step] using hd)

/-- A connection that has been in the game stays one, under its id. -/
theorem seat_move (hsound : w.Sound) (hc : w.clients[i]? = some c) (hm : Move toLower w i c e w')
    {id : ℕ} (hid : ∃ (j : ℕ) (d : Client), w.clients[j]? = some d ∧ d.sessionId = id ∧
      d.upgraded = true) :
    ∃ (j : ℕ) (d : Client), w'.clients[j]? = some d ∧ d.sessionId = id ∧ d.upgraded = true := by
  have hi : i < w.clients.length := (List.getElem?_eq_some_iff.mp hc).1
  obtain ⟨c', hclients, hadv⟩ := hm.client (hsound i c hc)
  obtain ⟨j, d, hd, hdid, hup⟩ := hid
  by_cases hj : j = i
  · subst hj
    rw [hc] at hd
    cases hd
    refine ⟨j, c', ?_, hadv.sessionId.trans hdid, hadv.upgraded hup⟩
    rw [hclients, List.getElem?_set_self hi]
  · refine ⟨j, d, ?_, hdid, hup⟩
    rw [hclients, List.getElem?_set_ne (fun h => hj h.symm)]
    exact hd

theorem seat_step (toLower : List Char → List Char) (hsound : w.Sound) (e : Event) {id : ℕ}
    (hid : ∃ (j : ℕ) (d : Client), w.clients[j]? = some d ∧ d.sessionId = id ∧ d.upgraded = true) :
    ∃ (j : ℕ) (d : Client), (w.step toLower e).clients[j]? = some d ∧ d.sessionId = id ∧
      d.upgraded = true := by
  rcases w.step_cases toLower e with hsame | ⟨i, c, hc, hmove⟩ | rfl | ⟨other, rfl⟩
  · rwa [hsame]
  · exact seat_move hsound hc hmove hid
  · obtain ⟨j, d, hd, hrest⟩ := hid
    have hlt : j < w.clients.length := (List.getElem?_eq_some_iff.mp hd).1
    refine ⟨j, d, ?_, hrest⟩
    simp only [World.step]
    rw [List.getElem?_append_left hlt]
    exact hd
  · simpa [World.step] using hid

theorem Seated.step (hw : w.Seated) (hsound : w.Sound) (e : Event) :
    (w.step toLower e).Seated := by
  intro id hid
  rcases w.step_cases toLower e with hsame | ⟨i, c, hc, hmove⟩ | rfl | ⟨other, rfl⟩
  · rw [hsame] at hid
    exact seat_step toLower hsound e (hw id hid)
  · have hi : i < w.clients.length := (List.getElem?_eq_some_iff.mp hc).1
    rcases hmove.effect with heff | henter
    · exact seat_move hsound hc hmove (hw id (heff.isSome hid))
    · by_cases hsid : id = c.sessionId
      · refine ⟨i, { c with upgraded := true, state := .inGame, task := .enteringGame }, ?_,
          hsid.symm, rfl⟩
        rw [henter.clients, List.getElem?_set_self hi]
      · rw [henter.handle, Function.update_of_ne hsid] at hid
        exact seat_move hsound hc hmove (hw id hid)
  · exact seat_step toLower hsound .connect (hw id hid)
  · have heff : w.Effect toLower (w.step toLower (.unregister other)) := Effect.unregister other
    exact seat_step toLower hsound (.unregister other) (hw id (heff.isSome hid))

theorem numbered_start : start.Numbered where
  counter := by decide
  ids i c hc := by simp [start] at hc

theorem seated_start : start.Seated := by
  intro id hid
  cases hid

end World

/-- A client that comes to select a name had it before, or it finds no session under the name, or
one of its own account. -/
theorem Move.selection (hm : Move toLower w i c e w') (hc : c.Sound) :
    ∃ c', w'.clients = w.clients.set i c' ∧ ∀ name kept, c'.selection toLower = some (name, kept) →
      (∃ kept', c.selection toLower = some (name, kept')) ∨ w.nameToSession name = none ∨
      ∃ old, w.nameToSession name = some old ∧ w.accountOf old ≠ [] := by
  have hkeep : ∀ {task task' : Task}, c.task = task →
      ({ c with task := task' } : Client).selection toLower =
        ({ c with task := task } : Client).selection toLower →
      ∀ name kept, ({ c with task := task' } : Client).selection toLower = some (name, kept) →
        (∃ kept', c.selection toLower = some (name, kept')) ∨ w.nameToSession name = none ∨
        ∃ old, w.nameToSession name = some old ∧ w.accountOf old ≠ [] := by
    intro task task' ht hsame name kept hsel
    rw [hsame, ← c.selection_of ht] at hsel
    exact .inl ⟨kept, hsel⟩
  cases hm with
  | shake hr hs =>
    refine ⟨_, rfl, fun name kept hsel => ?_⟩
    simp [Client.selection, hr] at hsel
  | lock hr hs hnone hne hfree hlook =>
    refine ⟨_, rfl, fun name kept hsel => ?_⟩
    cases hlook <;> simp [Client.selection, hs] at hsel
  | cleaned ht => exact ⟨_, clients_of_unregister _ _, hkeep ht rfl⟩
  | kicked ht => exact ⟨_, rfl, hkeep ht rfl⟩
  | accepted ht => exact ⟨_, rfl, fun name kept hsel => by cases hsel⟩
  | refused ht => exact ⟨_, rfl, hkeep ht rfl⟩
  | answered ht => exact ⟨_, rfl, hkeep ht rfl⟩
  | unanswered ht => exact ⟨_, clients_of_unregister _ _, fun name kept hsel => by cases hsel⟩
  | askNation hr hs => exact ⟨_, rfl, hkeep hr rfl⟩
  | nationSet ht => exact ⟨_, rfl, fun name kept hsel => by cases hsel⟩
  | askCharacter hr hs => exact ⟨_, rfl, hkeep hr rfl⟩
  | free ht hfree =>
    refine ⟨_, rfl, fun name kept hsel => ?_⟩
    cases hsel
    exact .inr (.inl hfree)
  | @taken _ old ht hold haccount =>
    refine ⟨_, rfl, fun name kept hsel => ?_⟩
    cases hsel
    have hs : c.state = .loggedIn ∨ c.state = .nationSelected := hc.fits_of ht
    obtain ⟨a, ha, hne⟩ : ∃ a, c.accountId = some a ∧ a ≠ [] := by
      rcases hs with hs | hs <;> exact hc.account (by simp [hs]) (by simp [hs])
    rw [ha] at haccount
    exact .inr (.inr ⟨old, hold, Option.some.inj haccount ▸ hne⟩)
  | replaced ht =>
    refine ⟨_, rfl, fun name kept hsel => ?_⟩
    cases hsel
    exact .inl ⟨_, c.selection_of ht⟩
  | askGame hr hs => exact ⟨_, rfl, hkeep hr rfl⟩
  | enter he ht hup => exact ⟨_, clients_of_enter _ _ _, fun name kept hsel => by cases hsel⟩
  | entered he ht haccount => exact ⟨_, rfl, hkeep ht rfl⟩
  | askLogout hr hs => exact ⟨_, rfl, hkeep hr rfl⟩
  | loggedOut ht => exact ⟨_, clients_of_unregister _ _, fun name kept hsel => by cases hsel⟩
  | back ht =>
    refine ⟨_, rfl, ?_⟩
    rcases ht with ht | ⟨name, ht⟩ | ht | ⟨ht, -⟩ <;> exact hkeep ht rfl
  | leave hl => exact ⟨_, clients_of_unregister _ _, fun name kept hsel => by cases hsel⟩
  | stay hr hs => exact ⟨_, rfl, fun name kept hsel => by cases hsel⟩

namespace World

/-- The index maps the name to a session that is gone for good, and nobody else has it. -/
structure Lost (toLower : List Char → List Char) (name : List Char) (old : ℕ) (w : World) :
    Prop where
  index : w.nameToSession name = some old
  gone : w.handle old = none
  spent : ∃ (i : ℕ) (c : Client), w.clients[i]? = some c ∧ c.sessionId = old ∧ c.upgraded = true
  unborn : ∀ id, w.nameOf toLower id ≠ some name
  unselected : ∀ i kept, w.selectionOf toLower i ≠ some (name, kept)

variable {name : List Char} {old : ℕ}

theorem Lost.move (hw : w.Lost toLower name old) (hsound : w.Sound) (hnum : w.Numbered)
    (hc : w.clients[i]? = some c) (hm : Move toLower w i c e w') : w'.Lost toLower name old := by
  have hi : i < w.clients.length := (List.getElem?_eq_some_iff.mp hc).1
  have hother : c.upgraded = false → c.sessionId ≠ old := by
    intro hup hsid
    obtain ⟨j, d, hd, hdid, hdup⟩ := hw.spent
    rw [hnum.eq hc hd (hdid.trans hsid.symm), hup] at hdup
    cases hdup
  have hunsel : ∀ kept, c.selection toLower ≠ some (name, kept) := by
    intro kept hsel
    exact hw.unselected i kept ((selectionOf_of hc).trans hsel)
  have hentering : w.Enters toLower i c w' →
      toLower (c.characterId.getD "unknown".toList) ≠ name := by
    intro henter hname
    have hs : c.state = .characterSelected := (hsound i c hc).fits_of henter.task
    apply hunsel none
    rw [Client.selection, henter.task, ← hname]
    exact if_pos hs
  refine ⟨?_, ?_, ?_, ?_, ?_⟩
  · rcases hm.effect with heff | henter
    · rw [heff.index hw.unborn]
      exact hw.index
    · rw [henter.index, Function.update_of_ne (hentering henter).symm]
      exact hw.index
  · rcases hm.effect with heff | henter
    · exact heff.handle_none hw.gone
    · rw [henter.handle, Function.update_of_ne (hother henter.first).symm]
      exact hw.gone
  · exact seat_move hsound hc hm hw.spent
  · intro id hid
    rcases hm.effect with heff | henter
    · exact hw.unborn id (heff.nameOf hid)
    · rw [nameOf, henter.handle] at hid
      by_cases hsid : id = c.sessionId
      · subst hsid
        rw [Function.update_self] at hid
        exact hentering henter (Option.some.inj hid)
      · rw [Function.update_of_ne hsid] at hid
        exact hw.unborn id hid
  · obtain ⟨c', hclients, hsel⟩ := hm.selection (hsound i c hc)
    intro j kept hj
    rw [selectionOf_set hi c' hclients] at hj
    rcases Exclusive.of_update hj with ⟨-, hj⟩ | ⟨-, hj⟩
    · rcases hsel name kept hj with ⟨kept', hkept⟩ | hnone | ⟨found, hfound, haccount⟩
      · exact hunsel kept' hkept
      · rw [hw.index] at hnone
        cases hnone
      · rw [hw.index] at hfound
        cases hfound
        apply haccount
        rw [accountOf, hw.gone]
        rfl
    · exact hw.unselected j kept hj

theorem Lost.step (hw : w.Lost toLower name old) (hsound : w.Sound) (hnum : w.Numbered)
    (e : Event) : (w.step toLower e).Lost toLower name old := by
  have hspent := seat_step toLower hsound e hw.spent
  rcases w.step_cases toLower e with hsame | ⟨i, c, hc, hmove⟩ | rfl | ⟨id, rfl⟩
  · rwa [hsame]
  · exact hw.move hsound hnum hc hmove
  · have hsel : (w.step toLower .connect).selectionOf toLower = w.selectionOf toLower :=
      read_append (Client.selection toLower) rfl
    refine ⟨hw.index, hw.gone, hspent, hw.unborn, ?_⟩
    rw [hsel]
    exact hw.unselected
  · have heff : w.Effect toLower (w.step toLower (.unregister id)) := Effect.unregister id
    have hclients : (w.step toLower (.unregister id)).clients = w.clients := by simp [World.step]
    refine ⟨(heff.index hw.unborn).trans hw.index, heff.handle_none hw.gone, hspent, ?_, ?_⟩
    · exact fun id' hid => hw.unborn id' (heff.nameOf hid)
    · intro j kept hj
      rw [selectionOf, hclients] at hj
      exact hw.unselected j kept hj

theorem length_run (hw : w.Sound) (events : List Event) :
    w.clients.length ≤ (w.run toLower events).clients.length := by
  induction events generalizing w with
  | nil => exact Nat.le_refl _
  | cons e events ih => exact (length_step toLower hw e).trans (ih (hw.step e))

theorem sound_run (toLower : List Char → List Char) (events : List Event) :
    (start.run toLower events).Sound := by
  have halong : Run.Along (World.step toLower) (fun _ _ => True) start events :=
    Run.along_true start events
  exact Run.invariant Sound (fun w e hw _ => hw.step e) halong sound_start

/-- While the ids last, every state of a run is numbered and seated. -/
theorem numbered_run (toLower : List Char → List Char) (events : List Event)
    (hids : (start.run toLower events).clients.length < 2 ^ 16) :
    (start.run toLower events).Numbered ∧ (start.run toLower events).Seated := by
  have hshort := Run.along_of_end Sound (fun w : World => w.clients.length)
    (fun w e hw => ⟨hw.step e, length_step toLower hw e⟩) sound_start hids
  have hrun : (start.run toLower events).Sound ∧ (start.run toLower events).Numbered ∧
      (start.run toLower events).Seated :=
    Run.invariant (fun w : World => w.Sound ∧ w.Numbered ∧ w.Seated)
      (fun w e hw hlt => ⟨hw.1.step e, hw.2.1.step hw.1 e hlt, hw.2.2.step hw.1 e⟩) hshort
      ⟨sound_start, numbered_start, seated_start⟩
  exact hrun.2

theorem Lost.run (hw : w.Lost toLower name old) (hsound : w.Sound) (hnum : w.Numbered)
    (events : List Event) (hids : (w.run toLower events).clients.length < 2 ^ 16) :
    (w.run toLower events).Lost toLower name old := by
  have hshort := Run.along_of_end Sound (fun w : World => w.clients.length)
    (fun w e hw => ⟨hw.step e, length_step toLower hw e⟩) hsound hids
  have hrun : (w.run toLower events).Sound ∧ (w.run toLower events).Numbered ∧
      (w.run toLower events).Lost toLower name old :=
    Run.invariant (fun w : World => w.Sound ∧ w.Numbered ∧ w.Lost toLower name old)
      (fun w e hw hlt => ⟨hw.1.step e, hw.2.1.step hw.1 e hlt, hw.2.2.step hw.1 hw.2.1 e⟩) hshort
      ⟨hsound, hnum, hw⟩
  exact hrun.2.2

theorem lost_of_kick (hnamed : w.Named toLower) (hsound : w.Sound) (hseated : w.Seated)
    (hc : w.clients[i]? = some c) {account : List Char} {h : Handle}
    (ht : c.task = .kickingAccount account old) (hold : w.handle old = some h)
    (hname : h.character = some name)
    (hnone : ∀ d ∈ w.clients, (d.selection toLower).map Prod.fst ≠ some (toLower name)) :
    (w.step toLower (.resume i .saved)).Lost toLower (toLower name) old := by
  have hstep : w.step toLower (.resume i .saved) =
      (w.removeSession old).setClient i { c with task := .authenticating account } := by
    simp only [step, hc, resume, ht]
    rfl
  have hborn : w.nameOf toLower old = some (toLower name) := nameOf_of hold hname
  have hunsel : ∀ d ∈ w.clients, ∀ kept, d.selection toLower ≠ some (toLower name, kept) := by
    intro d hd kept hsel
    apply hnone d hd
    rw [hsel]
    rfl
  rw [hstep]
  refine ⟨hnamed.indexed old _ hborn, ?_, ?_, ?_, ?_⟩
  · rw [setClient_handle, handle_removeSession, Function.update_self]
  · rw [← hstep]
    exact seat_step toLower hsound (.resume i .saved) (hseated old (by rw [hold]; rfl))
  · intro id hid
    have hid : (w.removeSession old).nameOf toLower id = some (toLower name) := hid
    rw [nameOf_of_gone (handle_removeSession w old)] at hid
    obtain ⟨hne, hid⟩ := Exclusive.of_update_none hid
    exact hne (hnamed.cleared.unique id old _ hid hborn)
  · intro j kept hj
    obtain ⟨d, hd, hsel⟩ := Option.bind_eq_some_iff.mp hj
    rw [setClient_clients] at hd
    rcases of_set hd with ⟨-, rfl⟩ | ⟨-, hd⟩
    · apply hunsel c (List.mem_of_getElem? hc) kept
      rw [c.selection_of ht]
      exact hsel
    · exact hunsel d (List.mem_of_getElem? hd) kept hsel

/-- A login that kicks a session out of the game leaves its character behind in the index: unless
another connection has selected the character at that moment, none does ever again and no session
bears its name, as long as no session id is used twice. -/
theorem kicked_name_is_lost (toLower : List Char → List Char) (before later : List Event)
    (halone : Run.Along (step toLower) (fun w e => w.alone toLower e = true) start before)
    {account : List Char} {h : Handle}
    (hc : (start.run toLower before).clients[i]? = some c)
    (ht : c.task = .kickingAccount account old)
    (hold : (start.run toLower before).handle old = some h) (hname : h.character = some name)
    (hnone : ∀ d ∈ (start.run toLower before).clients,
      (d.selection toLower).map Prod.fst ≠ some (toLower name))
    (hids : (start.run toLower (before ++ .resume i .saved :: later)).clients.length < 2 ^ 16) :
    (∀ d ∈ (start.run toLower (before ++ .resume i .saved :: later)).clients,
      (d.selection toLower).map Prod.fst ≠ some (toLower name)) ∧
    ∀ id h' name', (start.run toLower (before ++ .resume i .saved :: later)).handle id = some h' →
      h'.character = some name' → toLower name' ≠ toLower name := by
  have hsplit : start.run toLower (before ++ .resume i .saved :: later) =
      ((start.run toLower before).step toLower (.resume i .saved)).run toLower later :=
    Run.run_append start before (.resume i .saved :: later)
  have hsound := sound_run toLower before
  have hsound' : ((start.run toLower before).step toLower (.resume i .saved)).Sound :=
    hsound.step _
  rw [hsplit] at hids ⊢
  have hstill := (length_run hsound' later).trans_lt hids
  obtain ⟨hnum, hseated⟩ := numbered_run toLower before
    ((length_step toLower hsound _).trans_lt hstill)
  have hlost := lost_of_kick (named_run toLower before halone) hsound hseated hc ht hold hname hnone
  have hend := hlost.run hsound' (hnum.step hsound _ hstill) later hids
  constructor
  · intro d hd hsel
    obtain ⟨⟨lower, kept⟩, hkept, rfl⟩ := Option.map_eq_some_iff.mp hsel
    obtain ⟨j, hj⟩ := List.getElem?_of_mem hd
    exact hend.unselected j kept ((selectionOf_of hj).trans hkept)
  · intro id h' name' hid hname' hsame
    apply hend.unborn id
    rw [nameOf_of hid hname', hsame]

/-- A second login of the account kicks the first out of the game, and the character it asks for
then is refused. -/
theorem name_of_kicked :
    (start.run (fun n => n) ((.connect :: selecting 0 ['a'] ['k'] ++ entering 0 ++
        [.connect, .packet 1 .kickout .id, .packet 1 (.login (some ['a']) (some ['p'])) .id]) ++
        .resume 1 .saved :: [.resume 1 (.account (some 1)), .resume 1 (.sent true),
          .packet 1 (.selChar [] ['k']) .id, .resume 1 (.loaded (some true))])).clients.filter
      (fun d => (d.selection fun n => n).map Prod.fst = some ['k']) = [] := by
  have hc : (start.run (fun n => n) (.connect :: selecting 0 ['a'] ['k'] ++ entering 0 ++
      [.connect, .packet 1 .kickout .id,
        .packet 1 (.login (some ['a']) (some ['p'])) .id])).clients[1]? =
      some { sessionId := 2, state := .versionChecked, task := .kickingAccount ['a'] 1 } := by
    decide
  have hold : (start.run (fun n => n) (.connect :: selecting 0 ['a'] ['k'] ++ entering 0 ++
      [.connect, .packet 1 .kickout .id,
        .packet 1 (.login (some ['a']) (some ['p'])) .id])).handle 1 =
      some { accountId := ['a'], character := some ['k'] } := by decide
  apply List.filter_eq_nil_iff.mpr
  intro d hd
  have hlost := (kicked_name_is_lost (fun n => n) _ _ (by decide) hc rfl hold rfl (by decide)
    (by decide)).1 d hd
  simpa using hlost

end World

end KoServer.Login
