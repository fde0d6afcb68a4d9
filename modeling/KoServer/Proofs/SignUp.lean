import Mathlib.Data.List.Nodup
import KoServer.Lib.Run
import KoServer.Spec.TempleEvent

/-! The sign-up list of a room event. The list and its counters keep together; what the schedule
asks of the players is given to the opening and then forgotten. -/

namespace KoServer

/-- The list, the players in game, and what the code does not keep: how the event was opened, and
as what each player has signed up. -/
structure SignUpWorld where
  erm : EventRoomManager
  online : ℕ → Option (List Char)
  opened : Option EventOpenParams
  joinedAs : List Char → Option EventPlayer

inductive SignUpStep where
  | openEvent (params : EventOpenParams) (now : ℕ)
  | enterGame (sid : ℕ) (name : List Char)
  | join (sid : ℕ) (p : EventPlayer)
  | leave (sid : ℕ) (p : EventPlayer)
  | logout (sid : ℕ)

def EventRoomManager.admits (erm : EventRoomManager) (p : EventPlayer) : Bool :=
  !templeJoinRefused erm.templeEvent p && !erm.signedUpUsers.any (·.userName = p.name)

/-- A request comes from a session with the player it is about; the rest of the player may be
anything. A session id is a `u16` and not 0. -/
def SignUpWorld.step (w : SignUpWorld) : SignUpStep → SignUpWorld
  | .openEvent params now =>
    { w with
      erm := openVirtualEvent w.erm params now
      opened := some params
      joinedAs := fun _ => none }
  | .enterGame sid name =>
    if w.online sid = none ∧ 0 < sid ∧ sid < 2 ^ 16 then
      { w with online := Function.update w.online sid (some name) }
    else w
  | .join sid p =>
    if w.online sid = some p.name then
      { w with
        erm := handleTempleJoin w.erm sid p
        joinedAs :=
          if w.erm.admits p then Function.update w.joinedAs p.name (some p) else w.joinedAs }
    else w
  | .leave sid p =>
    if w.online sid = some p.name then { w with erm := handleTempleDisband w.erm p } else w
  | .logout sid =>
    match w.online sid with
    | none => w
    | some name =>
      { w with erm := signUpCleanup w.erm name, online := Function.update w.online sid none }

/-- The requirements of a schedule entry; 0 is none. -/
structure EventOpenParams.Meets (params : EventOpenParams) (p : EventPlayer) : Prop where
  minLevel : params.minLevel = 0 ∨ params.minLevel ≤ p.level
  maxLevel : params.maxLevel = 0 ∨ p.level ≤ params.maxLevel
  loyalty : params.reqLoyalty = 0 ∨ params.reqLoyalty ≤ p.loyalty
  money : params.reqMoney = 0 ∨ params.reqMoney ≤ p.gold

/-- Everybody is listed once, with the session he is in the game with, and counted for his
nation; who signed up for a scheduled event met its requirements then. -/
structure SignUpIntegrity (w : SignUpWorld) : Prop where
  once : (w.erm.signedUpUsers.map SignedUpUser.userName).Nodup
  online : ∀ u ∈ w.erm.signedUpUsers, w.online u.sessionId = some u.userName
  orders : (w.erm.signedUpUsers.map SignedUpUser.joinOrder).Nodup
  karus : w.erm.templeEvent.karusUserCount = w.erm.signedUpUsers.countP (·.nation = 1)
  elmorad : w.erm.templeEvent.elmoradUserCount = w.erm.signedUpUsers.countP (·.nation ≠ 1)
  all : w.erm.templeEvent.allUserCount =
    w.erm.templeEvent.karusUserCount + w.erm.templeEvent.elmoradUserCount
  required : ∀ u ∈ w.erm.signedUpUsers, ∃ p params, w.joinedAs u.userName = some p ∧
    w.opened = some params ∧ (params.isAutomatic = true → params.Meets p)

/-- Who signs up for a scheduled event meets its requirements, and the order counter has room. -/
def SignUpWorld.JoinsFit (w : SignUpWorld) : SignUpStep → Prop
  | .join sid p => w.online sid = some p.name → w.erm.admits p = true →
      (∀ params, w.opened = some params → params.isAutomatic = true → params.Meets p) ∧
      w.erm.nextJoinOrder + 1 < 2 ^ 32
  | _ => True

/-- What the steps keep: the orders are below the counter, the list is empty where there is no
event, and an event that is open has been opened. -/
structure SignUpWorld.Kept (w : SignUpWorld) : Prop extends SignUpIntegrity w where
  below : ∀ u ∈ w.erm.signedUpUsers, u.joinOrder < w.erm.nextJoinOrder
  signing : w.erm.templeEvent.isActive = false
  inactive : w.erm.templeEvent.activeEvent = none → w.erm.signedUpUsers = []
  opened : w.erm.templeEvent.activeEvent ≠ none → w.opened ≠ none
  sessions : ∀ sid name, w.online sid = some name → 0 < sid ∧ sid < 2 ^ 16

section

variable {w : SignUpWorld} {name : List Char} {sid : ℕ} {p : EventPlayer}

/-- What is found comes first, and the rest is what is left without it. -/
theorem perm_cons_eraseP {α : Type*} {q : α → Bool} {l : List α} {u : α}
    (hu : l.find? q = some u) : l.Perm (u :: l.eraseP q) := by
  obtain ⟨hq, as, bs, rfl, has⟩ := List.find?_eq_some_iff_append.mp hu
  have hnot : ∀ a ∈ as, ¬ q a = true := by simpa using has
  rw [List.eraseP_append_right _ hnot, List.eraseP_cons_of_pos hq]
  exact List.perm_middle

theorem nodup_map_concat {α β : Type*} {f : α → β} {l : List α} {x : α} (hl : (l.map f).Nodup)
    (hx : ∀ u ∈ l, f u ≠ f x) : ((l ++ [x]).map f).Nodup := by
  refine ((List.perm_append_singleton x l).map f).nodup_iff.mpr ?_
  refine List.nodup_cons.mpr ⟨fun hmem => ?_, hl⟩
  obtain ⟨u, hu, hux⟩ := List.mem_map.mp hmem
  exact hx u hu hux

theorem length_lt_of_online {online : ℕ → Option (List Char)} {l : List SignedUpUser}
    (hses : ∀ sid n, online sid = some n → 0 < sid ∧ sid < 2 ^ 16)
    (honce : (l.map SignedUpUser.userName).Nodup)
    (hon : ∀ u ∈ l, online u.sessionId = some u.userName) : l.length < 2 ^ 16 := by
  have hnodup : (l.map SignedUpUser.sessionId).Nodup := by
    refine (List.Nodup.of_map _ honce).map_on fun u hu v hv huv => ?_
    refine List.inj_on_of_nodup_map honce hu hv ?_
    have hname := hon u hu
    rw [huv, hon v hv] at hname
    exact (Option.some.inj hname).symm
  have hsub : l.map SignedUpUser.sessionId ⊆ List.range' 1 (2 ^ 16 - 1) := by
    intro sid hsid
    obtain ⟨u, hu, rfl⟩ := List.mem_map.mp hsid
    obtain ⟨hpos, hlt⟩ := hses _ _ (hon u hu)
    exact List.mem_range'_1.mpr ⟨hpos, by omega⟩
  have hle := (List.subperm_of_subset hnodup hsub).length_le
  rw [List.length_map, List.length_range'] at hle
  omega

theorem withdrawSignUp_of_none (hu : w.erm.signedUpUsers.find? (·.userName = name) = none) :
    withdrawSignUp w.erm name = w.erm := by
  simp only [withdrawSignUp, EventRoomManager.removeSignedUpUser, hu]

theorem withdrawSignUp_of_some {u : SignedUpUser}
    (hu : w.erm.signedUpUsers.find? (·.userName = name) = some u) :
    withdrawSignUp w.erm name = { w.erm with
      signedUpUsers := w.erm.signedUpUsers.eraseP (·.userName = name)
      templeEvent := (w.erm.countOut u.nation).templeEvent } := by
  simp only [withdrawSignUp, EventRoomManager.removeSignedUpUser, hu]
  rfl

theorem countOut_counts {u : SignedUpUser} {rest : List SignedUpUser} (h : w.Kept)
    (hperm : w.erm.signedUpUsers.Perm (u :: rest)) :
    let s := (w.erm.countOut u.nation).templeEvent
    s.karusUserCount = rest.countP (·.nation = 1) ∧ s.elmoradUserCount = rest.countP (·.nation ≠ 1) ∧
      s.allUserCount = s.karusUserCount + s.elmoradUserCount := by
  have hk := h.karus
  have he := h.elmorad
  have hlen := length_lt_of_online h.sessions h.once h.online
  have hsplit := rest.length_eq_countP_add_countP (·.nation = 1)
  rw [hperm.countP_eq, List.countP_cons] at hk he
  rw [hperm.length_eq, List.length_cons] at hlen
  simp only [EventRoomManager.countOut, EventRoomManager.updateTempleEvent, hk, he]
  by_cases hn : u.nation = 1
  · simp [hn] at hsplit ⊢
    omega
  · simp [hn] at hsplit ⊢
    omega

theorem countIn_counts {u : SignedUpUser} (h : w.Kept)
    (hroom : w.erm.signedUpUsers.length + 1 < 2 ^ 16) :
    let s := (w.erm.countIn u.nation).templeEvent
    let l := w.erm.signedUpUsers ++ [u]
    s.karusUserCount = l.countP (·.nation = 1) ∧ s.elmoradUserCount = l.countP (·.nation ≠ 1) ∧
      s.allUserCount = s.karusUserCount + s.elmoradUserCount := by
  have hsplit := w.erm.signedUpUsers.length_eq_countP_add_countP (·.nation = 1)
  simp only [EventRoomManager.countIn, EventRoomManager.updateTempleEvent, h.karus, h.elmorad,
    List.countP_append, List.countP_singleton]
  by_cases hn : u.nation = 1
  · simp [hn] at hsplit ⊢
    omega
  · simp [hn] at hsplit ⊢
    omega

/-- The entry of a name goes, with whoever of that name goes offline. -/
theorem withdrawSignUp_kept (h : w.Kept) {online : ℕ → Option (List Char)}
    (hstay : ∀ sid n, n ≠ name → w.online sid = some n → online sid = some n)
    (hsub : ∀ sid n, online sid = some n → w.online sid = some n) :
    ({ w with erm := withdrawSignUp w.erm name, online := online } : SignUpWorld).Kept := by
  have hses : ∀ sid n, online sid = some n → 0 < sid ∧ sid < 2 ^ 16 := fun sid n hn =>
    h.sessions sid n (hsub sid n hn)
  cases hu : w.erm.signedUpUsers.find? (·.userName = name) with
  | none =>
    rw [withdrawSignUp_of_none hu]
    have hne : ∀ u ∈ w.erm.signedUpUsers, u.userName ≠ name := by
      simpa using List.find?_eq_none.mp hu
    exact { h with
      online := fun u hmem => hstay _ _ (hne u hmem) (h.online u hmem)
      sessions := hses }
  | some u =>
    have hname : u.userName = name := by simpa using List.find?_some hu
    have hperm := perm_cons_eraseP hu
    have hmem : ∀ v ∈ w.erm.signedUpUsers.eraseP (·.userName = name), v ∈ w.erm.signedUpUsers :=
      fun v hv => List.mem_of_mem_eraseP hv
    have honce := (hperm.map SignedUpUser.userName).nodup_iff.mp h.once
    have horders := (hperm.map SignedUpUser.joinOrder).nodup_iff.mp h.orders
    rw [List.map_cons, List.nodup_cons] at honce horders
    obtain ⟨hk, he, ha⟩ := countOut_counts h hperm
    rw [withdrawSignUp_of_some hu]
    exact
      { once := honce.2
        online := fun v hv => by
          refine hstay _ _ (fun hvn => honce.1 ?_) (h.online v (hmem v hv))
          exact List.mem_map.mpr ⟨v, hv, hvn.trans hname.symm⟩
        orders := horders.2
        karus := hk
        elmorad := he
        all := ha
        required := fun v hv => h.required v (hmem v hv)
        below := fun v hv => h.below v (hmem v hv)
        signing := h.signing
        inactive := fun hnone => by simp [h.inactive hnone]
        opened := h.opened
        sessions := hses }

/-- A player who is not listed finds room in the counters. -/
theorem SignUpWorld.Kept.room (h : w.Kept) (hon : w.online sid = some name)
    (hnew : ∀ u ∈ w.erm.signedUpUsers, u.userName ≠ name) :
    w.erm.signedUpUsers.length + 1 < 2 ^ 16 := by
  refine length_lt_of_online (l := ⟨name, sid, 0, 0⟩ :: w.erm.signedUpUsers) h.sessions ?_ ?_
  · refine List.nodup_cons.mpr ⟨fun hmem => ?_, h.once⟩
    obtain ⟨u, hu, hname⟩ := List.mem_map.mp hmem
    exact hnew u hu hname
  · intro u hu
    rcases List.mem_cons.mp hu with rfl | hu
    · exact hon
    · exact h.online u hu

/-- A join either changes nothing or lists the player last. -/
theorem handleTempleJoin_eq (erm : EventRoomManager) (sid : ℕ) (p : EventPlayer) :
    handleTempleJoin erm sid p =
      if erm.admits p then
        { erm with
          signedUpUsers := erm.signedUpUsers ++ [⟨p.name, sid, p.nation, erm.nextJoinOrder⟩]
          nextJoinOrder := (erm.nextJoinOrder + 1) % 2 ^ 32
          templeEvent := (erm.countIn p.nation).templeEvent }
      else erm := by
  unfold handleTempleJoin EventRoomManager.admits EventRoomManager.addSignedUpUser
  cases templeJoinRefused erm.templeEvent p with
  | true => rfl
  | false =>
    cases erm.signedUpUsers.any (·.userName = p.name) with
    | true => rfl
    | false => rfl

/-- Nobody joins where no event takes sign-ups. -/
theorem active_of_admits {erm : EventRoomManager} (h : erm.admits p = true) :
    erm.templeEvent.activeEvent ≠ none := by
  intro hnone
  simp [EventRoomManager.admits, templeJoinRefused, hnone] at h

theorem new_of_admits {erm : EventRoomManager} (h : erm.admits p = true) :
    ∀ u ∈ erm.signedUpUsers, u.userName ≠ p.name := by
  simp only [EventRoomManager.admits, Bool.and_eq_true, Bool.not_eq_true', List.any_eq_false,
    decide_eq_true_eq] at h
  exact h.2

theorem join_kept (h : w.Kept) (hok : w.JoinsFit (.join sid p)) : (w.step (.join sid p)).Kept := by
  simp only [SignUpWorld.step]
  split_ifs with hon hadm
  · rw [handleTempleJoin_eq, if_pos hadm]
    obtain ⟨hmeets, horder⟩ := hok hon hadm
    have hnew := new_of_admits hadm
    have hact := active_of_admits hadm
    obtain ⟨hk, he, ha⟩ :=
      countIn_counts (u := ⟨p.name, sid, p.nation, w.erm.nextJoinOrder⟩) h (h.room hon hnew)
    obtain ⟨params, hparams⟩ := Option.ne_none_iff_exists'.mp (h.opened hact)
    exact
      { once := nodup_map_concat h.once hnew
        online := by
          intro u hu
          rcases List.mem_append.mp hu with hu | hu
          · exact h.online u hu
          · obtain rfl := List.mem_singleton.mp hu
            exact hon
        orders := nodup_map_concat h.orders fun u hu => (h.below u hu).ne
        karus := hk
        elmorad := he
        all := ha
        required := by
          intro u hu
          rcases List.mem_append.mp hu with hu | hu
          · obtain ⟨q, params', hq, hreq⟩ := h.required u hu
            exact ⟨q, params', (Function.update_of_ne (hnew u hu) ..).trans hq, hreq⟩
          · obtain rfl := List.mem_singleton.mp hu
            exact ⟨p, params, Function.update_self .., hparams, hmeets params hparams⟩
        below := by
          intro u hu
          have hnext : (w.erm.nextJoinOrder + 1) % 2 ^ 32 = w.erm.nextJoinOrder + 1 :=
            Nat.mod_eq_of_lt horder
          rcases List.mem_append.mp hu with hu | hu
          · exact ((h.below u hu).trans (Nat.lt_succ_self _)).trans_eq hnext.symm
          · obtain rfl := List.mem_singleton.mp hu
            exact (Nat.lt_succ_self _).trans_eq hnext.symm
        signing := h.signing
        inactive := fun hnone => absurd hnone hact
        opened := h.opened
        sessions := h.sessions }
  · rw [handleTempleJoin_eq, if_neg hadm]
    exact h
  · exact h

theorem openEvent_kept (h : w.Kept) (params : EventOpenParams) (now : ℕ) :
    (w.step (.openEvent params now)).Kept where
  once := List.nodup_nil
  online := fun _ hu => (List.not_mem_nil hu).elim
  orders := List.nodup_nil
  karus := rfl
  elmorad := rfl
  all := rfl
  required := fun _ hu => (List.not_mem_nil hu).elim
  below := fun _ hu => (List.not_mem_nil hu).elim
  signing := rfl
  inactive := fun _ => rfl
  opened := fun _ => Option.some_ne_none params
  sessions := h.sessions

/-- The cleanup of a logout always withdraws: without an event there is nobody to withdraw. -/
theorem SignUpWorld.Kept.cleanup_eq (h : w.Kept) :
    signUpCleanup w.erm name = withdrawSignUp w.erm name := by
  unfold signUpCleanup
  split_ifs with hopen
  · rfl
  · have hnone : w.erm.templeEvent.activeEvent = none := by
      by_contra hact
      exact hopen ⟨hact, h.signing⟩
    exact (withdrawSignUp_of_none (by rw [h.inactive hnone, List.find?_nil])).symm

theorem SignUpWorld.Kept.step (h : w.Kept) (i : SignUpStep) (hok : w.JoinsFit i) :
    (w.step i).Kept := by
  cases i with
  | openEvent params now => exact openEvent_kept h params now
  | enterGame sid name =>
    simp only [SignUpWorld.step]
    split_ifs with hfree
    · have hother : ∀ s n, w.online s = some n → s ≠ sid := by
        rintro s n hs rfl
        rw [hfree.1] at hs
        cases hs
      exact { h with
        online := fun u hu =>
          (Function.update_of_ne (hother _ _ (h.online u hu)) ..).trans (h.online u hu)
        sessions := by
          intro s n hs
          by_cases hsid : s = sid
          · exact hsid ▸ hfree.2
          · exact h.sessions s n ((Function.update_of_ne hsid ..).symm.trans hs) }
    · exact h
  | join sid p => exact join_kept h hok
  | leave sid p =>
    simp only [SignUpWorld.step]
    split_ifs with hon
    · unfold handleTempleDisband
      split_ifs
      · exact h
      · exact withdrawSignUp_kept h (fun _ _ _ hs => hs) fun _ _ hs => hs
    · exact h
  | logout sid =>
    simp only [SignUpWorld.step]
    cases hon : w.online sid with
    | none => exact h
    | some name =>
      dsimp only
      rw [h.cleanup_eq]
      refine withdrawSignUp_kept h (fun s n hn hs => ?_) fun s n hs => ?_
      · have hne : s ≠ sid := by
          rintro rfl
          exact hn (Option.some.inj (hs.symm.trans hon))
        exact (Function.update_of_ne hne ..).trans hs
      · by_cases hsid : s = sid
        · subst hsid
          simp at hs
        · exact (Function.update_of_ne hsid ..).symm.trans hs

end

/-- Nothing is open, nobody is listed and nobody is in the game yet. -/
def SignUpWorld.start : SignUpWorld := ⟨{}, fun _ => none, none, fun _ => none⟩

theorem SignUpWorld.start_kept : SignUpWorld.start.Kept where
  once := List.nodup_nil
  online := fun _ hu => (List.not_mem_nil hu).elim
  orders := List.nodup_nil
  karus := rfl
  elmorad := rfl
  all := rfl
  required := fun _ hu => (List.not_mem_nil hu).elim
  below := fun _ hu => (List.not_mem_nil hu).elim
  signing := rfl
  inactive := fun _ => rfl
  opened := fun h => absurd rfl h
  sessions := nofun

/-- Of every run whose joins fit, every state. -/
theorem signUps_intact (steps : List SignUpStep)
    (hok : Run.Along SignUpWorld.step SignUpWorld.JoinsFit SignUpWorld.start steps) :
    SignUpIntegrity (Run.run SignUpWorld.step SignUpWorld.start steps) :=
  (Run.invariant SignUpWorld.Kept (fun _ i h hi => h.step i hi) hok
    SignUpWorld.start_kept).toSignUpIntegrity

def scheduledWar : EventOpenParams where
  eventType := .borderDefenceWar
  vroomOpts := ⟨10, 30, 0, 15, 20⟩
  isAutomatic := true
  minLevel := 60
  maxLevel := 83
  reqLoyalty := 0
  reqMoney := 0

def signUpOf (level : ℤ) : EventPlayer where
  name := ['a']
  nation := 1
  zoneId := 21
  level := level
  loyalty := 0
  gold := 0

theorem signUps_intact_sixty :
    SignUpIntegrity (Run.run SignUpWorld.step SignUpWorld.start
      [.enterGame 7 ['a'], .openEvent scheduledWar 100, .join 7 (signUpOf 60), .logout 7]) := by
  refine signUps_intact _ ⟨trivial, trivial, fun _ _ => ⟨?_, by decide⟩, trivial, trivial⟩
  intro params hparams _
  obtain rfl : scheduledWar = params := Option.some.inj hparams
  exact ⟨.inr (by decide), .inr (by decide), .inl rfl, .inl rfl⟩

theorem novice_listed :
    ¬ ∀ steps, SignUpIntegrity (Run.run SignUpWorld.step SignUpWorld.start steps) := by
  intro h
  have hreq := (h [.enterGame 7 ['a'], .openEvent scheduledWar 100, .join 7 (signUpOf 1)]).required
  obtain ⟨p, params, hp, hparams, hmeets⟩ := hreq ⟨['a'], 7, 1, 1⟩ (by decide)
  obtain rfl : signUpOf 1 = p := Option.some.inj hp
  obtain rfl : scheduledWar = params := Option.some.inj hparams
  rcases (hmeets rfl).minLevel with hmin | hmin
  · exact absurd hmin (by decide)
  · exact absurd hmin (by decide)

end KoServer
