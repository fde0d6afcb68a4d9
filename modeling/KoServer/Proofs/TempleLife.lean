import KoServer.Proofs.SignUp
import KoServer.Spec.TempleTick

/-! The life of a room event. Its phase is read from the flags of the event, which only the ticks
and a manual close move on; what happens in the rooms leaves the flags alone. -/

namespace KoServer

def TempleServer.step (w : TempleServer) (i : TempleStep) : TempleServer := (w.handle i).1

def TempleServer.phase (w : TempleServer) : EventPhase := w.erm.templeEvent.currentPhase

/-- The timing that a tick reads. -/
def TempleServer.eventOpts (w : TempleServer) : Option VroomOpt :=
  (w.erm.templeEvent.activeEvent.bind TempleEventType.vroomIndex).bind w.erm.vroomOpts

structure RoomsOnly (erm erm' : EventRoomManager) : Prop where
  event : erm'.templeEvent = erm.templeEvent
  users : erm'.signedUpUsers = erm.signedUpUsers
  order : erm'.nextJoinOrder = erm.nextJoinOrder
  opts : erm'.vroomOpts = erm.vroomOpts
  types : erm'.rooms.map EventRoom.eventType = erm.rooms.map EventRoom.eventType

section

variable {erm erm' erm'' : EventRoomManager} {t : TempleEventType}

theorem RoomsOnly.refl (erm : EventRoomManager) : RoomsOnly erm erm := ⟨rfl, rfl, rfl, rfl, rfl⟩

theorem RoomsOnly.trans (h : RoomsOnly erm erm') (h' : RoomsOnly erm' erm'') :
    RoomsOnly erm erm'' :=
  ⟨h'.event.trans h.event, h'.users.trans h.users, h'.order.trans h.order, h'.opts.trans h.opts,
    h'.types.trans h.types⟩

theorem RoomsOnly.map (erm : EventRoomManager) {f : EventRoom → EventRoom}
    (hf : ∀ r, (f r).eventType = r.eventType) :
    RoomsOnly erm { erm with rooms := erm.rooms.map f } :=
  ⟨rfl, rfl, rfl, rfl, by simp [hf]⟩

theorem listRooms_eq_nil : erm.listRooms t = [] ↔ t ∉ erm.rooms.map EventRoom.eventType := by
  simp only [EventRoomManager.listRooms, List.filter_eq_nil_iff, List.mem_map, decide_eq_true_eq]
  constructor
  · rintro h ⟨r, hr, ht⟩
    exact h r hr ht
  · intro h r hr ht
    exact h ⟨r, hr, ht⟩

theorem RoomsOnly.vacant (h : RoomsOnly erm erm') (hnil : erm.listRooms t = []) :
    erm'.listRooms t = [] := by
  rw [listRooms_eq_nil] at hnil ⊢
  rwa [h.types]

theorem updateRoom_roomsOnly (erm : EventRoomManager) (t : TempleEventType) (roomId : ℕ)
    {f : EventRoom → EventRoom} (hf : ∀ r, (f r).eventType = r.eventType) :
    RoomsOnly erm (erm.updateRoom t roomId f) := by
  refine RoomsOnly.map erm fun r => ?_
  split_ifs
  · exact hf r
  · rfl

theorem updateUserRoom_roomsOnly (erm : EventRoomManager) (t : TempleEventType) (name : List Char)
    {f : EventRoom → EventRoom} (hf : ∀ r, (f r).eventType = r.eventType) :
    RoomsOnly erm (erm.updateUserRoom t name f) := by
  unfold EventRoomManager.updateUserRoom
  cases erm.findUserRoom t name with
  | none => exact RoomsOnly.refl erm
  | some found => exact updateRoom_roomsOnly erm t found.1 hf

@[simp] theorem eventType_finishWith (r : EventRoom) (winner now : ℕ) :
    (r.finishWith winner now).eventType = r.eventType := rfl

@[simp] theorem eventType_scorePoints (r : EventRoom) (points nation now : ℕ) :
    (r.scorePoints points nation now).eventType = r.eventType := by
  unfold EventRoom.scorePoints
  split_ifs
  · rfl
  all_goals
    dsimp only
    split
    · rfl
    · rfl

@[simp] theorem eventType_markLoggedOut (r : EventRoom) (name : List Char) :
    (r.markLoggedOut name).eventType = r.eventType := by
  unfold EventRoom.markLoggedOut
  dsimp only
  split_ifs
  · rfl
  · rfl

@[simp] theorem eventType_forfeit (r : EventRoom) (now : ℕ) :
    (r.forfeit now).eventType = r.eventType := by
  unfold EventRoom.forfeit
  split_ifs
  all_goals rfl

theorem bdwUserLogout_roomsOnly (erm : EventRoomManager) (name : List Char) (now zoneId : ℕ) :
    RoomsOnly erm (erm.bdwUserLogout name now zoneId) := by
  unfold EventRoomManager.bdwUserLogout
  split_ifs
  · exact updateUserRoom_roomsOnly _ _ _ fun r => by simp
  · exact RoomsOnly.refl erm

theorem decideRooms_roomsOnly (erm : EventRoomManager) (t : TempleEventType)
    {verdict : EventRoom → Option ℕ} {close : EventRoom → ℕ → EventRoom}
    (hclose : ∀ r winner, (close r winner).eventType = r.eventType) :
    RoomsOnly erm (erm.decideRooms t verdict close).1 := by
  refine RoomsOnly.map erm fun r => ?_
  split_ifs
  · cases verdict r with
    | none => rfl
    | some winner => exact hclose r winner
  · rfl

theorem determineAllWinners_roomsOnly (erm : EventRoomManager) (t : TempleEventType)
    (juraidRooms : ℕ → Option JuraidRoomState) :
    RoomsOnly erm (erm.determineAllWinners t juraidRooms).1 := by
  cases t with
  | forgottenTemple => exact RoomsOnly.refl erm
  | _ => exact decideRooms_roomsOnly _ _ fun _ _ => rfl

theorem sendWinnerScreen_roomsOnly (erm : EventRoomManager) (t : TempleEventType) (now : ℕ) :
    RoomsOnly erm (erm.sendWinnerScreen t now) := by
  refine RoomsOnly.map erm fun r => ?_
  split_ifs
  all_goals rfl

theorem templeEventRoomClose_roomsOnly (erm : EventRoomManager) (t : TempleEventType) (now : ℕ) :
    RoomsOnly erm (erm.templeEventRoomClose t now) := by
  refine RoomsOnly.map erm fun r => ?_
  split_ifs
  all_goals rfl

theorem rewardRooms_roomsOnly (t : TempleEventType) (results : List (ℕ × ℕ)) :
    ∀ erm : EventRoomManager, RoomsOnly erm (rewardRooms t erm results).1 := by
  induction results with
  | nil => exact RoomsOnly.refl
  | cons result results ih =>
    intro erm
    obtain ⟨roomId, winner⟩ := result
    unfold rewardRooms
    cases erm.getRoom t roomId with
    | none => exact ih erm
    | some r => exact (updateRoom_roomsOnly erm t roomId (f := EventRoom.markPrizes) fun _ => rfl).trans (ih _)

theorem distributeChaosFinishExp_roomsOnly (erm : EventRoomManager) (present : ℕ → Bool) :
    RoomsOnly erm (distributeChaosFinishExp erm present).1 := by
  refine RoomsOnly.map erm fun r => ?_
  unfold EventRoom.chaosFinish
  split_ifs
  all_goals rfl

theorem reward_roomsOnly (w : TempleServer) (t : TempleEventType) (results : List (ℕ × ℕ)) :
    RoomsOnly w.erm (w.reward t results).1 := by
  refine (sendWinnerScreen_roomsOnly w.erm t w.clock).trans ?_
  unfold TempleServer.reward distributeEventRewards
  split_ifs
  · exact distributeChaosFinishExp_roomsOnly _ _
  · cases localIdToEventType t.localId with
    | none => exact RoomsOnly.refl _
    | some t' => exact rewardRooms_roomsOnly t' results _
  · exact RoomsOnly.refl _

theorem closeRooms_roomsOnly (w : TempleServer) : RoomsOnly w.erm w.closeRooms.erm := by
  unfold TempleServer.closeRooms
  split
  · exact templeEventRoomClose_roomsOnly _ _ _
  · exact RoomsOnly.refl _

end

structure VroomOpt.Nonneg (opts : VroomOpt) : Prop where
  sign : 0 ≤ opts.sign
  play : 0 ≤ opts.play
  attackOpen : 0 ≤ opts.attackOpen
  attackClose : 0 ≤ opts.attackClose
  finish : 0 ≤ opts.finish

/-- The minutes add up in an `i32`, and the opening leaves room in a `u64`. -/
structure VroomOpt.Fits (opts : VroomOpt) (start : ℕ) : Prop where
  play : opts.sign + opts.play < 2 ^ 31
  attackOpen : opts.sign + opts.attackOpen < 2 ^ 31
  attackClose : opts.sign + opts.attackClose < 2 ^ 31
  opening : start < 2 ^ 63

def VroomOpt.due (opts : VroomOpt) (start : ℕ) (minutes : ℤ) : ℤ :=
  start + (opts.sign + minutes) * 60

theorem timeOf_eq {s : TempleEventState} {opts : VroomOpt} {minutes : ℤ}
    (hmin : 0 ≤ opts.sign + minutes) (hmax : opts.sign + minutes < 2 ^ 31)
    (hstart : s.startTime < 2 ^ 63) :
    (s.timeOf opts minutes : ℤ) = opts.due s.startTime minutes := by
  have hi32 : asI32 (opts.sign + minutes) = opts.sign + minutes := by
    unfold asI32
    rw [Int.bmod_eq_of_le] <;> omega
  have hu64 : asU64 (opts.sign + minutes) = (opts.sign + minutes).toNat := by
    unfold asU64
    rw [Int.emod_eq_of_lt hmin (by omega)]
  unfold TempleEventState.timeOf minuteSecs addSecs VroomOpt.due
  rw [hi32, hu64]
  omega

/-- The flags that the phase of the event `t` is read from. -/
structure TempleEventState.Flagged (t : TempleEventType) (s : TempleEventState) : Prop where
  event : s.activeEvent = some t
  reset : s.timerResetControl = false
  begun : s.timerStartControl = s.isActive
  finish : s.timerFinishControl = true → s.isActive = true

structure TempleEventState.Sound (t : TempleEventType) (start clock : ℕ) (opts : Option VroomOpt)
    (s : TempleEventState) : Prop extends s.Flagged t where
  openedAt : s.startTime = start
  join : s.allowJoin = true → s.isActive = false
  close : s.timerAttackCloseControl = true → s.timerAttackOpenControl = true
  attack : s.isAttackable = true → s.isActive = true ∧ s.timerFinishControl = false ∧
    s.timerAttackOpenControl = true ∧ s.timerAttackCloseControl = false ∧
    ∃ o, opts = some o ∧ o.due start o.attackOpen ≤ clock

section

variable {s : TempleEventState} {t : TempleEventType} {start clock : ℕ} {o : VroomOpt}
  {opts : Option VroomOpt}

theorem TempleEventState.Flagged.phase_eq (h : s.Flagged t) :
    s.currentPhase =
      if s.timerFinishControl then .rewards else if s.isActive then .active else .registration := by
  unfold TempleEventState.currentPhase
  rw [h.event, h.reset, h.begun]
  cases s.isActive
  all_goals rfl

theorem TempleEventState.Flagged.flags (h : s.Flagged t) :
    (s.currentPhase = .registration → s.isActive = false ∧ s.timerFinishControl = false) ∧
      (s.currentPhase = .active → s.isActive = true ∧ s.timerFinishControl = false) ∧
      (s.currentPhase = .rewards → s.timerFinishControl = true) := by
  rw [h.phase_eq]
  cases hf : s.timerFinishControl
  all_goals cases ha : s.isActive
  all_goals simp

theorem TempleEventState.Sound.later (h : s.Sound t start clock opts) {clock' : ℕ}
    (hle : clock ≤ clock') : s.Sound t start clock' opts :=
  { h with
    attack := fun hatt => by
      obtain ⟨h1, h2, h3, h4, o, ho, hdue⟩ := h.attack hatt
      exact ⟨h1, h2, h3, h4, o, ho, by omega⟩ }

theorem attackCloseTick_open (hatt : (s.attackCloseTick o clock).isAttackable = true) :
    s.isAttackable = true ∧ s.attackCloseTick o clock = s ∧
      (s.timerAttackCloseControl = false → clock < s.timeOf o o.attackClose) := by
  unfold TempleEventState.attackCloseTick at hatt ⊢
  split_ifs at hatt ⊢ with hclose
  -- where it closes nothing is left to show
  refine ⟨hatt, rfl, fun hnot => ?_⟩
  simpa [hnot, hatt] using hclose

theorem attackOpenTick_open (hatt : (s.attackOpenTick o clock).isAttackable = true) :
    s.isAttackable = true ∧ s.attackOpenTick o clock = s ∨
      s.timerAttackOpenControl = false ∧ s.timeOf o o.attackOpen ≤ clock ∧
        s.attackOpenTick o clock = { s with isAttackable := true, timerAttackOpenControl := true } := by
  unfold TempleEventState.attackOpenTick at hatt ⊢
  split_ifs at hatt ⊢ with hopen
  · simp only [Bool.and_eq_true, Bool.not_eq_true', decide_eq_true_eq] at hopen
    exact .inr ⟨hopen.1.1, hopen.2, rfl⟩
  · exact .inl ⟨hatt, rfl⟩

theorem attackOpenTick_close :
    (s.attackOpenTick o clock).timerAttackCloseControl = s.timerAttackCloseControl ∧
      (s.attackOpenTick o clock).startTime = s.startTime := by
  unfold TempleEventState.attackOpenTick
  split_ifs
  · exact ⟨rfl, rfl⟩
  · exact ⟨rfl, rfl⟩

/-- What the attack timers leave: where the attack is open its time has come and is not over. -/
theorem attackTick_open (h : s.Sound t start clock (some o)) (hnn : o.Nonneg) (hfit : o.Fits start)
    (hatt : ((s.attackOpenTick o clock).attackCloseTick o clock).isAttackable = true) :
    o.due start o.attackOpen ≤ clock ∧ (clock : ℤ) < o.due start o.attackClose ∧
      ((s.attackOpenTick o clock).attackCloseTick o clock).timerAttackOpenControl = true ∧
      ((s.attackOpenTick o clock).attackCloseTick o clock).timerAttackCloseControl = false := by
  have hs : s.startTime < 2 ^ 63 := h.openedAt ▸ hfit.opening
  have hopen := timeOf_eq (s := s) (by have := hnn.sign; have := hnn.attackOpen; omega)
    hfit.attackOpen hs
  have hclose := timeOf_eq (s := s) (by have := hnn.sign; have := hnn.attackClose; omega)
    hfit.attackClose hs
  rw [h.openedAt] at hopen hclose
  obtain ⟨hctl, hstart⟩ : (s.attackOpenTick o clock).timerAttackCloseControl =
      s.timerAttackCloseControl ∧ (s.attackOpenTick o clock).startTime = s.startTime :=
    attackOpenTick_close
  obtain ⟨hatt', hsame, hlt⟩ := attackCloseTick_open hatt
  have hnot : s.timerAttackCloseControl = false := by
    rcases attackOpenTick_open hatt' with ⟨hnow, -⟩ | ⟨hfresh, -, -⟩
    · exact (h.attack hnow).2.2.2.1
    · by_contra hne
      rw [h.close (by simpa using hne)] at hfresh
      cases hfresh
  have hover : (clock : ℤ) < o.due start o.attackClose := by
    have htime := hlt (hctl.trans hnot)
    simp only [TempleEventState.timeOf, hstart] at htime hclose
    omega
  rw [hsame]
  rcases attackOpenTick_open hatt' with ⟨hnow, heq⟩ | ⟨-, htime, heq⟩
  · -- open since an earlier tick
    obtain ⟨-, -, hctl, -, o', ho', hdue⟩ := h.attack hnow
    obtain rfl := Option.some.inj ho'
    rw [heq]
    exact ⟨hdue, hover, hctl, hnot⟩
  · rw [heq]
    exact ⟨by omega, hover, rfl, hnot⟩

end

structure Vacated (t : TempleEventType) (erm : EventRoomManager) : Prop where
  rooms : erm.listRooms t = []
  users : erm.signedUpUsers = []
  event : erm.templeEvent = {}
  order : erm.nextJoinOrder = 1

/-- A manual close is asked for and its wait is over. -/
def TempleServer.manualDue (w : TempleServer) (o : VroomOpt) : Bool :=
  w.erm.templeEvent.manualClose && w.erm.templeEvent.isManualExpiredAt o w.clock

/-- The flags after the attack timers. -/
def TempleServer.attacked (w : TempleServer) (o : VroomOpt) : TempleEventState :=
  (w.erm.templeEvent.attackOpenTick o w.clock).attackCloseTick o w.clock

/-- The winners of the tick that ends the play, and what it leaves before the rewards. -/
def TempleServer.played (w : TempleServer) (t : TempleEventType) (o : VroomOpt) :
    TempleServer × List (ℕ × ℕ) := (w.attackTick o).finishEvent t

/-- What a tick of the event `t` is, and what it does to the flags and the lists. -/
inductive TickEffect (t : TempleEventType) (w : TempleServer) : Prop where
  | idle (tick : w.tick = (w.closeRooms, []))
      (phase : ∀ o, t.vroomIndex.bind w.erm.vroomOpts = some o → w.phase ≠ .active)
  | started (o : VroomOpt) (opts : t.vroomIndex.bind w.erm.vroomOpts = some o)
      (tick : w.tick =
        ((({ w with erm := w.erm.transitionToActive } : TempleServer).initRooms t).closeRooms, []))
      (phase : w.phase = .registration)
      (event : w.tick.1.erm.templeEvent = w.erm.transitionToActive.templeEvent)
  | playing (o : VroomOpt) (opts : t.vroomIndex.bind w.erm.vroomOpts = some o)
      (tick : w.tick = ((w.attackTick o).closeRooms, []))
      (phase : w.phase = .active) (event : w.tick.1.erm.templeEvent = w.attacked o)
  | finished (o : VroomOpt) (opts : t.vroomIndex.bind w.erm.vroomOpts = some o)
      (tick : w.tick =
        (({ (w.played t o).1 with erm := ((w.played t o).1.reward t (w.played t o).2).1 } :
            TempleServer).closeRooms,
          ((w.played t o).1.reward t (w.played t o).2).2))
      (phase : w.phase = .active) (manual : w.manualDue o = false)
      (due : w.erm.templeEvent.isPlayExpiredAt o w.clock = true)
      (event : w.tick.1.erm.templeEvent = { w.attacked o with timerFinishControl := true })
  | closed (o : VroomOpt) (opts : t.vroomIndex.bind w.erm.vroomOpts = some o)
      (phase : w.phase = .active) (manual : w.manualDue o = true)
      (vacated : Vacated t w.tick.1.erm) (unrewarded : w.tick.2 = [])
  | reset (phase : w.phase = .rewards) (vacated : Vacated t w.tick.1.erm)
      (unrewarded : w.tick.2 = [])

section

variable {w : TempleServer} {t : TempleEventType} {start : ℕ}

theorem initRooms_event (w : TempleServer) (t : TempleEventType) :
    (w.initRooms t).erm.templeEvent = w.erm.templeEvent ∧
      (w.initRooms t).erm.vroomOpts = w.erm.vroomOpts ∧ (w.initRooms t).clock = w.clock := by
  have hnations : ∀ erm : EventRoomManager, (erm.assignNations t).templeEvent = erm.templeEvent ∧
      (erm.assignNations t).vroomOpts = erm.vroomOpts := by
    intro erm
    unfold EventRoomManager.assignNations
    split_ifs
    · exact ⟨rfl, rfl⟩
    · exact ⟨rfl, rfl⟩
  have hmixed : ∀ erm : EventRoomManager, (erm.assignMixed t).templeEvent = erm.templeEvent ∧
      (erm.assignMixed t).vroomOpts = erm.vroomOpts := by
    intro erm
    unfold EventRoomManager.assignMixed
    split_ifs
    · exact ⟨rfl, rfl⟩
    · exact ⟨rfl, rfl⟩
  cases t with
  | borderDefenceWar => exact ⟨(hnations _).1, (hnations _).2, rfl⟩
  | juraidMountain => exact ⟨(hnations _).1, (hnations _).2, rfl⟩
  | chaosDungeon => exact ⟨(hmixed _).1, (hmixed _).2, rfl⟩
  | forgottenTemple => exact ⟨rfl, rfl, rfl⟩

/-- The cleanup leaves nothing of an event that has a timing. -/
theorem cleanupEvent_vacated (ht : t.vroomIndex ≠ none) : Vacated t (w.cleanupEvent t).erm := by
  have hrooms : (w.erm.destroyRooms t).listRooms t = [] := by
    simp [EventRoomManager.destroyRooms, EventRoomManager.listRooms, List.filter_filter]
  cases t with
  | forgottenTemple => exact absurd rfl ht
  | _ => exact ⟨hrooms, rfl, rfl, rfl⟩

theorem cleanupEvent_opts : (w.cleanupEvent t).erm.vroomOpts = w.erm.vroomOpts := by
  cases t
  all_goals rfl

theorem attacked_startTime (w : TempleServer) (o : VroomOpt) :
    (w.attacked o).startTime = w.erm.templeEvent.startTime := by
  have hclose : ∀ s : TempleEventState, (s.attackCloseTick o w.clock).startTime = s.startTime := by
    intro s
    unfold TempleEventState.attackCloseTick
    split_ifs
    · rfl
    · rfl
  exact (hclose _).trans attackOpenTick_close.2

theorem closeRooms_clock (w : TempleServer) : w.closeRooms.clock = w.clock := by
  unfold TempleServer.closeRooms
  split
  · rfl
  · rfl

/-- A tick whose event tick does not end the play only closes rooms after it. -/
theorem tick_of_action {w' : TempleServer} {action : EventTickAction}
    (h : w.eventTickAt = (w', action)) (hact : ∀ results, action ≠ .transitionedToRewards results) :
    w.tick = (w'.closeRooms, []) := by
  unfold TempleServer.tick
  rw [h]
  cases action with
  | transitionedToRewards results => exact absurd rfl (hact results)
  | _ => rfl

/-- A tick that ends the play rewards the rooms and closes those whose time is over. -/
theorem tick_of_rewards {w' : TempleServer} {results : List (ℕ × ℕ)}
    (h : w.eventTickAt = (w', .transitionedToRewards results))
    (ht : w.erm.templeEvent.activeEvent = some t) :
    w.tick = (({ w' with erm := (w'.reward t results).1 } : TempleServer).closeRooms,
      (w'.reward t results).2) := by
  unfold TempleServer.tick
  rw [h, ht]

theorem tick_vacated {w' : TempleServer} {action : EventTickAction}
    (h : w.eventTickAt = (w', action)) (hact : ∀ results, action ≠ .transitionedToRewards results)
    (hvac : Vacated t w'.erm) : w.tick = (w', []) := by
  rw [tick_of_action h hact]
  simp [TempleServer.closeRooms, hvac.event, TempleEventState.currentPhase]

theorem finishEvent_event (w : TempleServer) (t : TempleEventType) :
    (w.finishEvent t).1.erm.templeEvent = { w.erm.templeEvent with timerFinishControl := true } ∧
      (w.finishEvent t).1.erm.vroomOpts = w.erm.vroomOpts := by
  have hrooms := determineAllWinners_roomsOnly w.erm t w.juraidRooms
  refine ⟨?_, hrooms.opts⟩
  rw [← hrooms.event]
  rfl

def Ticks (t : TempleEventType) (w : TempleServer) : Prop :=
  w.tick.1.clock = w.clock ∧ w.tick.1.erm.vroomOpts = w.erm.vroomOpts ∧ TickEffect t w

theorem ticks_idle (h : w.eventTickAt = (w, .none))
    (hphase : ∀ o, t.vroomIndex.bind w.erm.vroomOpts = some o → w.phase ≠ .active) :
    Ticks t w := by
  have htick := tick_of_action h (by simp)
  refine ⟨?_, ?_, .idle htick hphase⟩
  · rw [htick]
    exact closeRooms_clock w
  · rw [htick]
    exact (closeRooms_roomsOnly w).opts

section

variable {o : VroomOpt} (h : w.erm.templeEvent.Flagged t)
  (hopts : t.vroomIndex.bind w.erm.vroomOpts = some o)

include h hopts

theorem ticks_registration (hphase : w.phase = .registration) : Ticks t w := by
  have hreg : w.erm.templeEvent.currentPhase = .registration := hphase
  by_cases hsign : w.erm.templeEvent.isSignExpiredAt o w.clock = true
  · have haction : w.eventTickAt =
        (({ w with erm := w.erm.transitionToActive } : TempleServer).initRooms t,
          .transitionedToActive) := by
      simp only [TempleServer.eventTickAt, h.event, hopts, hreg, if_pos hsign]
    have htick := tick_of_action haction (by simp)
    obtain ⟨hevent, hvroom, hclock⟩ := initRooms_event { w with erm := w.erm.transitionToActive } t
    have hrooms := closeRooms_roomsOnly
      (({ w with erm := w.erm.transitionToActive } : TempleServer).initRooms t)
    refine ⟨?_, ?_, .started o hopts htick hphase ?_⟩
    · rw [htick]
      exact (closeRooms_clock _).trans hclock
    · rw [htick]
      exact hrooms.opts.trans hvroom
    · rw [htick]
      exact hrooms.event.trans hevent
  · refine ticks_idle ?_ fun _ _ => by simp [hphase]
    simp only [TempleServer.eventTickAt, h.event, hopts, hreg, if_neg hsign]

theorem ticks_rewards (hphase : w.phase = .rewards) : Ticks t w := by
  have hrew : w.erm.templeEvent.currentPhase = .rewards := hphase
  by_cases hdue : w.erm.templeEvent.isResetExpiredAt o w.clock = true
  · have haction : w.eventTickAt =
        (({ w with erm := w.erm.transitionToReset } : TempleServer).cleanupEvent t,
          .transitionedToCleanup) := by
      simp only [TempleServer.eventTickAt, h.event, hopts, hrew, if_pos hdue]
    have hindex : t.vroomIndex ≠ none := fun hnone => by simp [hnone] at hopts
    have hvac := cleanupEvent_vacated (w := { w with erm := w.erm.transitionToReset }) hindex
    have htick := tick_vacated haction (by simp) hvac
    rw [Ticks, htick]
    exact ⟨rfl, cleanupEvent_opts, .reset hphase (htick ▸ hvac) (congrArg Prod.snd htick)⟩
  · refine ticks_idle ?_ fun _ _ => by simp [hphase]
    simp only [TempleServer.eventTickAt, h.event, hopts, hrew, if_neg hdue]

theorem ticks_active (hphase : w.phase = .active) : Ticks t w := by
  have hact : w.erm.templeEvent.currentPhase = .active := hphase
  by_cases hmanual : w.manualDue o = true
  · have haction : w.eventTickAt =
        (({ (w.finishEvent t).1 with
            erm := (w.finishEvent t).1.erm.transitionToReset } : TempleServer).cleanupEvent t,
          .manualCloseCleanup) := by
      simp only [TempleServer.eventTickAt, h.event, hopts, hact]
      exact if_pos hmanual
    have hindex : t.vroomIndex ≠ none := fun hnone => by simp [hnone] at hopts
    have hvac := cleanupEvent_vacated (w := { (w.finishEvent t).1 with
      erm := (w.finishEvent t).1.erm.transitionToReset }) hindex
    have htick := tick_vacated haction (by simp) hvac
    rw [Ticks, htick]
    exact ⟨rfl, cleanupEvent_opts.trans (finishEvent_event w t).2,
      .closed o hopts hphase hmanual (htick ▸ hvac) (congrArg Prod.snd htick)⟩
  have hnot : ¬(w.erm.templeEvent.manualClose &&
      w.erm.templeEvent.isManualExpiredAt o w.clock) = true := hmanual
  have hstart : (w.attackTick o).erm.templeEvent.isPlayExpiredAt o w.clock =
      w.erm.templeEvent.isPlayExpiredAt o w.clock := by
    have hsame : (w.attackTick o).erm.templeEvent.startTime = w.erm.templeEvent.startTime :=
      attacked_startTime w o
    unfold TempleEventState.isPlayExpiredAt TempleEventState.timeOf
    rw [hsame]
  by_cases hplay : w.erm.templeEvent.isPlayExpiredAt o w.clock = true
  · have haction : w.eventTickAt =
        ((w.played t o).1, .transitionedToRewards (w.played t o).2) := by
      simp only [TempleServer.eventTickAt, h.event, hopts, hact]
      rw [if_neg hnot, if_pos (hstart.trans hplay)]
      rfl
    have htick := tick_of_rewards haction h.event
    obtain ⟨hevent, hvroom⟩ := finishEvent_event (w.attackTick o) t
    have hrooms := (reward_roomsOnly (w.played t o).1 t (w.played t o).2).trans
      (closeRooms_roomsOnly { (w.played t o).1 with
        erm := ((w.played t o).1.reward t (w.played t o).2).1 })
    refine ⟨?_, ?_, .finished o hopts htick hphase (by simpa using hmanual) hplay ?_⟩
    · rw [htick]
      exact closeRooms_clock _
    · rw [htick]
      exact hrooms.opts.trans hvroom
    · rw [htick]
      exact hrooms.event.trans hevent
  · have haction : w.eventTickAt = (w.attackTick o, .none) := by
      simp only [TempleServer.eventTickAt, h.event, hopts, hact]
      rw [if_neg hnot, if_neg (fun hpl => hplay (hstart.symm.trans hpl))]
    have htick := tick_of_action haction (by simp)
    have hrooms := closeRooms_roomsOnly (w.attackTick o)
    refine ⟨?_, ?_, .playing o hopts htick hphase ?_⟩
    · rw [htick]
      exact closeRooms_clock _
    · rw [htick]
      exact hrooms.opts
    · rw [htick]
      exact hrooms.event

end

theorem ticks (h : w.erm.templeEvent.Flagged t) : Ticks t w := by
  cases hopts : t.vroomIndex.bind w.erm.vroomOpts with
  | none =>
    refine ticks_idle ?_ fun o ho => by simp [hopts] at ho
    simp only [TempleServer.eventTickAt, h.event, hopts]
  | some o =>
    have hphase : w.phase = _ := h.phase_eq
    split_ifs at hphase
    · exact ticks_rewards h hopts hphase
    · exact ticks_active h hopts hphase
    · exact ticks_registration h hopts hphase

end

/-- Only the counters and the request to close differ. -/
def SameTimers (s s' : TempleEventState) : Prop :=
  ∃ karus elmorad all close closeTime, s' =
    { s with
      karusUserCount := karus
      elmoradUserCount := elmorad
      allUserCount := all
      manualClose := close
      manualClosedTime := closeTime }

section

variable {s s' : TempleEventState} {w : TempleServer} {t : TempleEventType} {start clock : ℕ}
  {opts : Option VroomOpt} {erm erm' : EventRoomManager}

theorem SameTimers.refl (s : TempleEventState) : SameTimers s s := ⟨_, _, _, _, _, rfl⟩

theorem SameTimers.of_eq (h : s' = s) : SameTimers s s' := h ▸ SameTimers.refl s

theorem SameTimers.trans {s'' : TempleEventState} (h : SameTimers s s') (h' : SameTimers s' s'') :
    SameTimers s s'' := by
  obtain ⟨_, _, _, _, _, rfl⟩ := h
  obtain ⟨_, _, _, _, _, rfl⟩ := h'
  exact ⟨_, _, _, _, _, rfl⟩

theorem SameTimers.sound (h : SameTimers s s') (hs : s.Sound t start clock opts) :
    s'.Sound t start clock opts := by
  obtain ⟨karus, elmorad, all, close, closeTime, rfl⟩ := h
  exact ⟨⟨hs.event, hs.reset, hs.begun, hs.finish⟩, hs.openedAt, hs.join, hs.close, hs.attack⟩

theorem SameTimers.phase_eq (h : SameTimers s s') : s'.currentPhase = s.currentPhase := by
  obtain ⟨karus, elmorad, all, close, closeTime, rfl⟩ := h
  rfl

theorem SameTimers.attackable (h : SameTimers s s') : s'.isAttackable = s.isAttackable := by
  obtain ⟨karus, elmorad, all, close, closeTime, rfl⟩ := h
  rfl

/-- A step between the ticks moves neither the flags nor a vacated event. -/
structure Unmoved (t : TempleEventType) (erm erm' : EventRoomManager) : Prop where
  flags : SameTimers erm.templeEvent erm'.templeEvent
  opts : erm'.vroomOpts = erm.vroomOpts
  vacated : Vacated t erm → Vacated t erm'

theorem RoomsOnly.unmoved (h : RoomsOnly erm erm') : Unmoved t erm erm' :=
  ⟨SameTimers.of_eq h.event, h.opts, fun hvac =>
    ⟨h.vacant hvac.rooms, h.users.trans hvac.users, h.event.trans hvac.event,
      h.order.trans hvac.order⟩⟩

theorem Unmoved.trans {erm'' : EventRoomManager} (h : Unmoved t erm erm') (h' : Unmoved t erm' erm'') :
    Unmoved t erm erm'' := by
  exact ⟨h.flags.trans h'.flags, h'.opts.trans h.opts, fun hvac => h'.vacated (h.vacated hvac)⟩

theorem join_unmoved (sid : ℕ) (p : EventPlayer) : Unmoved t erm (handleTempleJoin erm sid p) := by
  rw [handleTempleJoin_eq]
  split_ifs with hadm
  · refine ⟨⟨_, _, _, _, _, rfl⟩, rfl, fun hvac => ?_⟩
    exact absurd (by rw [hvac.event]) (active_of_admits hadm)
  · exact (RoomsOnly.refl erm).unmoved

theorem withdrawSignUp_unmoved {name : List Char} (hact : erm.templeEvent.activeEvent ≠ none) :
    Unmoved t erm (withdrawSignUp erm name) := by
  have hvac : Vacated t erm → Vacated t (withdrawSignUp erm name) := fun h =>
    absurd (by rw [h.event]) hact
  refine ⟨?_, ?_, hvac⟩
  · unfold withdrawSignUp EventRoomManager.removeSignedUpUser
    cases erm.signedUpUsers.find? (·.userName = name) with
    | none => exact SameTimers.refl _
    | some u => exact ⟨_, _, _, _, _, rfl⟩
  · unfold withdrawSignUp EventRoomManager.removeSignedUpUser
    cases erm.signedUpUsers.find? (·.userName = name) with
    | none => rfl
    | some u => rfl

theorem signUpCleanup_unmoved {name : List Char} : Unmoved t erm (signUpCleanup erm name) := by
  unfold signUpCleanup
  split_ifs with hopen
  · exact withdrawSignUp_unmoved hopen.1
  · exact (RoomsOnly.refl erm).unmoved

theorem leave_unmoved {p : EventPlayer} : Unmoved t erm (handleTempleDisband erm p) := by
  unfold handleTempleDisband
  split_ifs with hrefused
  · exact (RoomsOnly.refl erm).unmoved
  · refine withdrawSignUp_unmoved fun hnone => hrefused ?_
    simp [hnone]

theorem manualClose_unmoved {now : ℕ} : Unmoved t erm (erm.manualClose now) := by
  refine ⟨?_, rfl, fun hvac => ⟨hvac.rooms, hvac.users, ?_, hvac.order⟩⟩
  · simp only [EventRoomManager.manualClose, EventRoomManager.updateTempleEvent]
    split_ifs
    · exact SameTimers.refl _
    · exact ⟨_, _, _, _, _, rfl⟩
  · simp [EventRoomManager.manualClose, EventRoomManager.updateTempleEvent, hvac.event]

theorem score_unmoved {event : TempleEventType} {name : List Char} {b : Bool}
    {f : EventRoom → EventRoom} (hf : ∀ r, (f r).eventType = r.eventType) :
    Unmoved t erm (if b then erm.updateUserRoom event name f else erm) := by
  split_ifs
  · exact (updateUserRoom_roomsOnly erm event name hf).unmoved
  · exact (RoomsOnly.refl erm).unmoved

theorem step_unmoved (w : TempleServer) {i : TempleStep} (hi : i ≠ .tick) :
    Unmoved t w.erm (w.step i).erm ∧ w.clock ≤ (w.step i).clock := by
  cases i with
  | tick => exact absurd rfl hi
  | wait secs => exact ⟨(RoomsOnly.refl _).unmoved, Nat.le_add_right ..⟩
  | enterGame sid => exact ⟨(RoomsOnly.refl _).unmoved, le_rfl⟩
  | join sid p => exact ⟨join_unmoved sid p, le_rfl⟩
  | leave p => exact ⟨leave_unmoved, le_rfl⟩
  | logout sid name zoneId =>
    exact ⟨(bdwUserLogout_roomsOnly ..).unmoved.trans signUpCleanup_unmoved, le_rfl⟩
  | warpOut name zoneId => exact ⟨(bdwUserLogout_roomsOnly ..).unmoved, le_rfl⟩
  | playerKill name nation => exact ⟨score_unmoved fun r => by simp, le_rfl⟩
  | delivery name nation => exact ⟨score_unmoved fun r => by simp, le_rfl⟩
  | monsterKill name nation =>
    refine ⟨score_unmoved fun r => ?_, le_rfl⟩
    split_ifs
    all_goals rfl
  | mountainKill name nation =>
    refine ⟨score_unmoved fun r => ?_, le_rfl⟩
    split_ifs
    all_goals rfl
  | dungeonKill name deadName => exact ⟨score_unmoved fun r => rfl, le_rfl⟩
  | manualClose => exact ⟨manualClose_unmoved, le_rfl⟩

end

inductive PhaseStep (closing : Prop) : EventPhase → EventPhase → Prop where
  | stay (p : EventPhase) : PhaseStep closing p p
  | start : PhaseStep closing .registration .active
  | finish (kept : ¬closing) : PhaseStep closing .active .rewards
  | close (due : closing) : PhaseStep closing .active .inactive
  | reset : PhaseStep closing .rewards .inactive

def EventPhase.rank : EventPhase → ℕ
  | registration => 0
  | countdown => 1
  | active => 2
  | rewards => 3
  | cleanup => 4
  | inactive => 5

theorem PhaseStep.climbs {closing : Prop} {p q : EventPhase} (h : PhaseStep closing p q) :
    q = p ∨ p.rank < q.rank := by
  cases h with
  | stay => exact .inl rfl
  | _ => exact .inr (by decide)

/-- The step is a tick that finds a manual close due. -/
def TempleServer.Closing (w : TempleServer) (i : TempleStep) : Prop :=
  i = .tick ∧ ∃ o, w.eventOpts = some o ∧ w.manualDue o = true

structure Lives (t : TempleEventType) (start : ℕ) (opts : Option VroomOpt) (w : TempleServer)
    (i : TempleStep) : Prop where
  phase : PhaseStep (w.Closing i) w.phase (w.step i).phase
  signUp : ∀ sid p, handleTempleJoin w.erm sid p ≠ w.erm → w.phase = .registration
  attack : i = .tick → (w.step i).erm.templeEvent.isAttackable = true →
    (w.step i).phase = .active ∧ ∃ o, opts = some o ∧ o.due start o.attackOpen ≤ w.clock ∧
      (w.clock : ℤ) < o.due start o.attackClose
  vacated : (w.step i).phase = .inactive → Vacated t (w.step i).erm

/-- Where the play ends the attack is over, or has not begun; and the times can be told. -/
def TempleServer.AttackEnds (w : TempleServer) : TempleStep → Prop
  | .tick => ∀ o, w.eventOpts = some o →
      let start := w.erm.templeEvent.startTime
      o.Fits start ∧
        (w.phase = .active → w.manualDue o = false → o.due start o.play ≤ w.clock →
          o.due start o.attackClose ≤ w.clock ∨ (w.clock : ℤ) < o.due start o.attackOpen)
  | _ => True

/-- The event is as its flags say, or gone. -/
structure TempleServer.Orderly (vroomOpts : ℕ → Option VroomOpt) (t : TempleEventType)
    (start : ℕ) (w : TempleServer) : Prop where
  opts : w.erm.vroomOpts = vroomOpts
  state : Vacated t w.erm ∨
    w.erm.templeEvent.Sound t start w.clock (t.vroomIndex.bind vroomOpts)

section

variable {vroomOpts : ℕ → Option VroomOpt} {t : TempleEventType} {start : ℕ} {w : TempleServer}

theorem Vacated.phase_eq (h : Vacated t w.erm) : w.phase = .inactive := by
  unfold TempleServer.phase
  rw [h.event]
  rfl

theorem TempleServer.Orderly.vacated_of_inactive (h : w.Orderly vroomOpts t start)
    (hphase : w.phase = .inactive) : Vacated t w.erm := by
  rcases h.state with hvac | hs
  · exact hvac
  · unfold TempleServer.phase at hphase
    rw [hs.phase_eq] at hphase
    split_ifs at hphase

/-- A join that is let in finds the sign-up open. -/
theorem TempleServer.Orderly.signUp (h : w.Orderly vroomOpts t start) {sid : ℕ} {p : EventPlayer}
    (hjoin : handleTempleJoin w.erm sid p ≠ w.erm) : w.phase = .registration := by
  rw [handleTempleJoin_eq] at hjoin
  have hadm : w.erm.admits p = true := by
    by_contra hnot
    exact hjoin (if_neg hnot)
  have hact := active_of_admits hadm
  rcases h.state with hvac | hs
  · exact absurd (by rw [hvac.event]) hact
  · have hnot : w.erm.templeEvent.isActive = false := by
      by_contra hne
      simp [EventRoomManager.admits, templeJoinRefused, hne] at hadm
    have hfin : w.erm.templeEvent.timerFinishControl = false := by
      by_contra hne
      rw [hs.finish (by simpa using hne)] at hnot
      cases hnot
    unfold TempleServer.phase
    rw [hs.phase_eq, hfin, hnot]
    rfl

theorem unmoved_lives (h : w.Orderly vroomOpts t start) {i : TempleStep} (hi : i ≠ .tick) :
    (w.step i).Orderly vroomOpts t start ∧ Lives t start (t.vroomIndex.bind vroomOpts) w i := by
  obtain ⟨hunmoved, hclock⟩ := step_unmoved (t := t) w hi
  have hkept : (w.step i).Orderly vroomOpts t start :=
    ⟨hunmoved.opts.trans h.opts, h.state.imp hunmoved.vacated fun hs =>
      (hunmoved.flags.sound hs).later hclock⟩
  have hphase : (w.step i).phase = w.phase := hunmoved.flags.phase_eq
  refine ⟨hkept, ?_, fun _ _ => h.signUp, fun htick => absurd htick hi, hkept.vacated_of_inactive⟩
  rw [hphase]
  exact .stay _

theorem attacked_eq (w : TempleServer) (o : VroomOpt) :
    ∃ attackable opened closed, w.attacked o =
      { w.erm.templeEvent with
        isAttackable := attackable
        timerAttackOpenControl := opened
        timerAttackCloseControl := closed } := by
  unfold TempleServer.attacked TempleEventState.attackCloseTick TempleEventState.attackOpenTick
  split_ifs
  all_goals exact ⟨_, _, _, rfl⟩

theorem attacked_close {o : VroomOpt} {opts : Option VroomOpt}
    (hs : w.erm.templeEvent.Sound t start w.clock opts)
    (hclose : (w.attacked o).timerAttackCloseControl = true) :
    (w.attacked o).timerAttackOpenControl = true := by
  have hopen : w.erm.templeEvent.isAttackable = true →
      w.erm.templeEvent.timerAttackOpenControl = true := fun hatt => (hs.attack hatt).2.2.1
  unfold TempleServer.attacked TempleEventState.attackCloseTick TempleEventState.attackOpenTick
    at hclose ⊢
  split_ifs at hclose ⊢ with hdue hover hover
  · rfl
  · rfl
  · simp only [Bool.and_eq_true] at hover
    exact hopen hover.1.2
  · exact hs.close hclose

/-- The flags after the attack timers are those of an event in play. -/
theorem attacked_sound {o : VroomOpt} (hs : w.erm.templeEvent.Sound t start w.clock (some o))
    (hnn : o.Nonneg) (hfit : o.Fits start) (hact : w.erm.templeEvent.isActive = true)
    (hfin : w.erm.templeEvent.timerFinishControl = false) :
    (w.attacked o).Sound t start w.clock (some o) := by
  have hclose := attacked_close (o := o) hs
  have hattack : (w.attacked o).isAttackable = true → o.due start o.attackOpen ≤ w.clock ∧
      (w.clock : ℤ) < o.due start o.attackClose ∧ (w.attacked o).timerAttackOpenControl = true ∧
      (w.attacked o).timerAttackCloseControl = false := attackTick_open hs hnn hfit
  have heq := attacked_eq w o
  generalize w.attacked o = s' at *
  obtain ⟨attackable, opened, closed, rfl⟩ := heq
  exact
    { event := hs.event
      openedAt := hs.openedAt
      reset := hs.reset
      begun := hs.begun
      finish := hs.finish
      join := hs.join
      close := hclose
      attack := fun hatt => by
        obtain ⟨hdue, -, hopen, hnot⟩ := hattack hatt
        exact ⟨hact, hfin, hopen, hnot, o, rfl, hdue⟩ }

theorem eventOpts_eq {o : VroomOpt} (hs : w.erm.templeEvent.Flagged t)
    (ho : t.vroomIndex.bind w.erm.vroomOpts = some o) : w.eventOpts = some o := by
  unfold TempleServer.eventOpts
  rw [hs.event]
  exact ho

theorem timing_of {o : VroomOpt} (h : w.Orderly vroomOpts t start)
    (hnn : ∀ i o, vroomOpts i = some o → o.Nonneg) (hok : w.AttackEnds .tick)
    (hs : w.erm.templeEvent.Sound t start w.clock (t.vroomIndex.bind vroomOpts))
    (ho : t.vroomIndex.bind w.erm.vroomOpts = some o) :
    o.Nonneg ∧ o.Fits start ∧ w.erm.templeEvent.Sound t start w.clock (some o) := by
  have hfit := (hok o (eventOpts_eq hs.toFlagged ho)).1
  rw [hs.openedAt] at hfit
  rw [h.opts] at ho
  obtain ⟨index, -, hindex⟩ := Option.bind_eq_some_iff.mp ho
  exact ⟨hnn index o hindex, hfit, ho ▸ hs⟩

/-- A step that leaves nothing of the event. -/
theorem vacated_lives {i : TempleStep} (h : w.Orderly vroomOpts t start)
    (hopts : (w.step i).erm.vroomOpts = vroomOpts) (hvac : Vacated t (w.step i).erm)
    (hphase : PhaseStep (w.Closing i) w.phase .inactive) :
    (w.step i).Orderly vroomOpts t start ∧ Lives t start (t.vroomIndex.bind vroomOpts) w i := by
  refine ⟨⟨hopts, .inl hvac⟩, ?_, fun _ _ => h.signUp, fun _ hatt => ?_, fun _ => hvac⟩
  · rwa [hvac.phase_eq]
  · rw [hvac.event] at hatt
    cases hatt

theorem sound_lives {i : TempleStep} (h : w.Orderly vroomOpts t start)
    (hopts : (w.step i).erm.vroomOpts = vroomOpts)
    (hs : (w.step i).erm.templeEvent.Sound t start (w.step i).clock (t.vroomIndex.bind vroomOpts))
    (hphase : PhaseStep (w.Closing i) w.phase (w.step i).phase)
    (htime : (w.step i).erm.templeEvent.isAttackable = true → ∃ o,
      t.vroomIndex.bind vroomOpts = some o ∧ (w.clock : ℤ) < o.due start o.attackClose ∧
        (w.step i).clock = w.clock) :
    (w.step i).Orderly vroomOpts t start ∧ Lives t start (t.vroomIndex.bind vroomOpts) w i := by
  have hkept : (w.step i).Orderly vroomOpts t start := ⟨hopts, .inr hs⟩
  refine ⟨hkept, hphase, fun _ _ => h.signUp, fun _ hatt => ?_, hkept.vacated_of_inactive⟩
  obtain ⟨hact, hfin, -, -, o, ho, hdue⟩ := hs.attack hatt
  obtain ⟨o', ho', hover, hclock⟩ := htime hatt
  obtain rfl := Option.some.inj (ho.symm.trans ho')
  rw [hclock] at hdue
  refine ⟨?_, o, ho, hdue, hover⟩
  unfold TempleServer.phase
  rw [hs.phase_eq, hfin, hact]
  rfl

theorem tick_lives (h : w.Orderly vroomOpts t start) (hnn : ∀ i o, vroomOpts i = some o → o.Nonneg)
    (hok : w.AttackEnds .tick) :
    (w.step .tick).Orderly vroomOpts t start ∧
      Lives t start (t.vroomIndex.bind vroomOpts) w .tick := by
  rcases h.state with hvac | hs
  · have hstep : w.step .tick = w := by
      have htick : w.eventTickAt = (w, .none) := by
        simp only [TempleServer.eventTickAt, hvac.event]
      exact congrArg Prod.fst (tick_vacated htick (by simp) hvac)
    refine vacated_lives h (by rw [hstep, h.opts]) (by rw [hstep]; exact hvac) ?_
    rw [hvac.phase_eq]
    exact .stay _
  obtain ⟨hclock, hopts, heffect⟩ := ticks hs.toFlagged
  have hvroom : (w.step .tick).erm.vroomOpts = vroomOpts := hopts.trans h.opts
  have hclock' : (w.step .tick).clock = w.clock := hclock
  obtain ⟨hreg, hact, hrew⟩ := hs.flags
  cases heffect with
  | idle tick phase =>
    have hflags : SameTimers w.erm.templeEvent (w.step .tick).erm.templeEvent := by
      refine SameTimers.of_eq ?_
      rw [show w.step .tick = w.closeRooms from congrArg Prod.fst tick]
      exact (closeRooms_roomsOnly w).event
    refine sound_lives h hvroom (hclock'.symm ▸ hflags.sound hs) ?_ fun hatt => ?_
    · rw [show (w.step .tick).phase = w.phase from hflags.phase_eq]
      exact .stay _
    · -- the attack is open in the play alone, where a tick with a timing is not idle
      rw [hflags.attackable] at hatt
      obtain ⟨hactive, hfin, -, -, o, ho, -⟩ := hs.attack hatt
      refine absurd ?_ (phase o (h.opts.symm ▸ ho))
      unfold TempleServer.phase
      rw [hs.phase_eq, hfin, hactive]
      rfl
  | started o ho tick phase event =>
    obtain ⟨hidle, hfin⟩ := hreg phase
    have hcalm : w.erm.templeEvent.isAttackable ≠ true := fun hatt => by
      rw [(hs.attack hatt).1] at hidle
      cases hidle
    have hevent : (w.step .tick).erm.templeEvent = w.erm.transitionToActive.templeEvent := event
    have hsound : (w.step .tick).erm.templeEvent.Sound t start (w.step .tick).clock
        (t.vroomIndex.bind vroomOpts) := by
      rw [hevent]
      exact ⟨⟨hs.event, hs.reset, rfl, fun _ => rfl⟩, hs.openedAt, nofun, hs.close,
        fun hatt => absurd hatt hcalm⟩
    refine sound_lives h hvroom hsound ?_ fun hatt => ?_
    · have hactive : (w.step .tick).phase = .active := by
        unfold TempleServer.phase
        rw [hsound.phase_eq, hevent]
        simp [EventRoomManager.transitionToActive, EventRoomManager.updateTempleEvent, hfin]
      rw [phase, hactive]
      exact .start
    · rw [hevent] at hatt
      exact absurd hatt hcalm
  | playing o ho tick phase event =>
    obtain ⟨hactive, hfin⟩ := hact phase
    have ho' : t.vroomIndex.bind vroomOpts = some o := h.opts ▸ ho
    obtain ⟨hnn', hfit, hs'⟩ := timing_of h hnn hok hs ho
    have hevent : (w.step .tick).erm.templeEvent = w.attacked o := event
    refine sound_lives h hvroom ?_ ?_ fun hatt => ?_
    · rw [hevent, hclock', ho']
      exact attacked_sound hs' hnn' hfit hactive hfin
    · have hphase : (w.step .tick).phase = .active := by
        unfold TempleServer.phase
        rw [hevent, (attacked_sound hs' hnn' hfit hactive hfin).phase_eq]
        obtain ⟨attackable, opened, closed, heq⟩ := attacked_eq w o
        rw [heq, hfin, hactive]
        rfl
      rw [phase, hphase]
      exact .stay _
    · rw [hevent] at hatt
      exact ⟨o, ho', (attackTick_open hs' hnn' hfit hatt).2.1, hclock'⟩
  | finished o ho tick phase manual due event =>
    obtain ⟨hactive, hfin⟩ := hact phase
    have ho' : t.vroomIndex.bind vroomOpts = some o := h.opts ▸ ho
    obtain ⟨hnn', hfit, hs'⟩ := timing_of h hnn hok hs ho
    have hevent : (w.step .tick).erm.templeEvent =
      { w.attacked o with timerFinishControl := true } := event
    have hends := (hok o (eventOpts_eq hs.toFlagged ho)).2 phase manual
    rw [hs.openedAt] at hends
    have hplay : o.due start o.play ≤ w.clock := by
      have htime : (w.erm.templeEvent.timeOf o o.play : ℤ) =
          o.due w.erm.templeEvent.startTime o.play :=
        timeOf_eq (by have := hnn'.sign; have := hnn'.play; omega) hfit.play
          (hs.openedAt ▸ hfit.opening)
      rw [hs.openedAt] at htime
      have hle : w.erm.templeEvent.timeOf o o.play ≤ w.clock := of_decide_eq_true due
      omega
    have hover : (w.attacked o).isAttackable ≠ true := by
      intro hatt
      obtain ⟨hopen, hclose, -⟩ := attackTick_open hs' hnn' hfit hatt
      rcases hends hplay with hpast | hbefore
      · omega
      · omega
    have hsound : (w.step .tick).erm.templeEvent.Sound t start (w.step .tick).clock
        (t.vroomIndex.bind vroomOpts) := by
      have hatt := attacked_sound hs' hnn' hfit hactive hfin
      obtain ⟨attackable, opened, closed, heq⟩ := attacked_eq w o
      rw [heq] at hatt hover hevent
      rw [hevent]
      exact ⟨⟨hatt.event, hatt.reset, hatt.begun, fun _ => hactive⟩, hatt.openedAt, hatt.join,
        hatt.close, fun h' => absurd h' hover⟩
    refine sound_lives h hvroom hsound ?_ fun hatt => ?_
    · have hphase : (w.step .tick).phase = .rewards := by
        unfold TempleServer.phase
        rw [hsound.phase_eq, hevent]
        rfl
      rw [phase, hphase]
      refine .finish fun hclosing => ?_
      obtain ⟨-, o', ho'', hdue⟩ := hclosing
      rw [eventOpts_eq hs.toFlagged ho] at ho''
      obtain rfl := Option.some.inj ho''
      rw [manual] at hdue
      cases hdue
    · rw [hevent] at hatt
      exact absurd hatt hover
  | closed o ho phase manual vacated unrewarded =>
    refine vacated_lives h hvroom vacated ?_
    rw [phase]
    exact .close ⟨rfl, o, eventOpts_eq hs.toFlagged ho, manual⟩
  | reset phase vacated unrewarded =>
    refine vacated_lives h hvroom vacated ?_
    rw [phase]
    exact .reset

theorem step_lives (h : w.Orderly vroomOpts t start) (hnn : ∀ i o, vroomOpts i = some o → o.Nonneg)
    (i : TempleStep) (hok : w.AttackEnds i) :
    (w.step i).Orderly vroomOpts t start ∧ Lives t start (t.vroomIndex.bind vroomOpts) w i := by
  by_cases hi : i = .tick
  · subst hi
    exact tick_lives h hnn hok
  · exact unmoved_lives h hi

theorem opened_orderly (rewardTable present : ℕ → Bool) (params : EventOpenParams) :
    (TempleServer.opened vroomOpts rewardTable present params start).Orderly vroomOpts
      params.eventType start where
  opts := rfl
  state := .inr
    { event := rfl
      openedAt := rfl
      reset := rfl
      begun := rfl
      finish := nofun
      join := fun _ => rfl
      close := nofun
      attack := nofun }

/-- From its opening on an event goes through its phases in their order, and once through each; the
attack is open in its time alone, and nothing of the event is left behind. -/
theorem temple_lifecycle (hnn : ∀ i o, vroomOpts i = some o → o.Nonneg)
    (rewardTable present : ℕ → Bool) (params : EventOpenParams) (start : ℕ)
    (steps : List TempleStep)
    (hok : Run.Along TempleServer.step TempleServer.AttackEnds
      (TempleServer.opened vroomOpts rewardTable present params start) steps) :
    Run.Along TempleServer.step
        (Lives params.eventType start (params.eventType.vroomIndex.bind vroomOpts))
        (TempleServer.opened vroomOpts rewardTable present params start) steps ∧
      (TempleServer.opened vroomOpts rewardTable present params start).phase = .registration ∧
      ∀ p, Run.total TempleServer.step
          (fun w i => if w.phase ≠ p ∧ (w.step i).phase = p then 1 else 0)
          (TempleServer.opened vroomOpts rewardTable present params start) steps ≤
        if p = .registration then 0 else 1 := by
  have hstart : (TempleServer.opened vroomOpts rewardTable present params start).Orderly vroomOpts
      params.eventType start := opened_orderly rewardTable present params
  refine ⟨?_, rfl, fun p => ?_⟩
  · exact Run.along_of_invariant (TempleServer.Orderly vroomOpts params.eventType start)
      (fun w i h hi => step_lives h hnn i hi) hok hstart
  · refine (Run.total_enters_le (TempleServer.Orderly vroomOpts params.eventType start)
      TempleServer.phase EventPhase.rank (fun w i h hi => ?_) p hok hstart).trans ?_
    · obtain ⟨hkept, hlives⟩ := step_lives h hnn i hi
      exact ⟨hkept, hlives.phase.climbs⟩
    · change (if EventPhase.rank .registration < p.rank then 1 else 0) ≤ _
      cases p
      all_goals decide

end

/-- The timings that the tables come with. -/
def seedOpts : ℕ → Option VroomOpt
  | 0 => some ⟨10, 15, 0, 30, 20⟩
  | 1 => some ⟨10, 10, 0, 20, 20⟩
  | 2 => some ⟨10, 50, 0, 50, 20⟩
  | _ => none

theorem seedOpts_nonneg : ∀ i o, seedOpts i = some o → o.Nonneg := by
  intro i o h
  unfold seedOpts at h
  split at h
  · cases h
    exact ⟨by decide, by decide, by decide, by decide, by decide⟩
  · cases h
    exact ⟨by decide, by decide, by decide, by decide, by decide⟩
  · cases h
    exact ⟨by decide, by decide, by decide, by decide, by decide⟩
  · cases h

def openingOf (eventType : TempleEventType) (opts : VroomOpt) : EventOpenParams :=
  ⟨eventType, opts, true, 0, 0, 0, 0⟩

theorem temple_lifecycle_mountain :
    Run.total TempleServer.step
      (fun w i => if w.phase ≠ .rewards ∧ (w.step i).phase = .rewards then 1 else 0)
      (TempleServer.opened seedOpts (fun _ => true) (fun _ => true)
        (openingOf .juraidMountain ⟨10, 50, 0, 50, 20⟩) 1000)
      [.wait 600, .tick, .wait 1, .tick, .wait 3000, .tick] ≤ 1 := by
  refine (temple_lifecycle seedOpts_nonneg (fun _ => true) (fun _ => true)
    (openingOf .juraidMountain ⟨10, 50, 0, 50, 20⟩) 1000
    [.wait 600, .tick, .wait 1, .tick, .wait 3000, .tick]
    ⟨trivial, ?_, trivial, ?_, trivial, ?_, trivial⟩).2.2 .rewards
  all_goals
    intro o ho
    obtain rfl : (⟨10, 50, 0, 50, 20⟩ : VroomOpt) = o := Option.some.inj ho
    exact ⟨⟨by decide, by decide, by decide, by decide⟩, by decide +kernel⟩

/-- The war of the tables plays for a quarter of an hour and closes its attack after half an
hour. -/
theorem attack_outlives_play :
    ¬ ∀ (vroomOpts : ℕ → Option VroomOpt), (∀ i o, vroomOpts i = some o → o.Nonneg) →
      ∀ (params : EventOpenParams) (start : ℕ) (steps : List TempleStep),
        Run.Along TempleServer.step
          (Lives params.eventType start (params.eventType.vroomIndex.bind vroomOpts))
          (TempleServer.opened vroomOpts (fun _ => true) (fun _ => true) params start) steps := by
  intro h
  obtain ⟨-, -, -, -, -, hlives, -⟩ := h seedOpts seedOpts_nonneg
    (openingOf .borderDefenceWar ⟨10, 15, 0, 30, 20⟩) 1000
    [.wait 601, .tick, .wait 1, .tick, .wait 900, .tick]
  have hphase := (hlives.attack rfl (by decide +kernel)).1
  exact absurd hphase (by decide +kernel)

end KoServer
