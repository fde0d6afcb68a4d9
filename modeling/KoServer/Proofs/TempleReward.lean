import Mathlib.Data.List.Flatten
import KoServer.Proofs.TempleSeats
import KoServer.Lib.Rows

/-! The rewards of a room event. They are handed out by the tick that ends the play, to the seats
whose users are not marked as gone; whether that is everybody who should have them depends on how
the event ends. -/

namespace KoServer

section

variable {erm : EventRoomManager} {t : TempleEventType}

/-- An entry whose name nobody else has is all that is found under it. -/
theorem filter_eq_singleton {α β : Type*} [DecidableEq β] {f : α → β} {l : List α} {a : α}
    (h : (l.map f).Nodup) (ha : a ∈ l) : l.filter (fun b => f b = f a) = [a] := by
  induction l with
  | nil => cases ha
  | cons b l ih =>
    rw [List.map_cons, List.nodup_cons] at h
    rcases List.mem_cons.mp ha with rfl | hmem
    · have hnone : l.filter (fun b => f b = f a) = [] := by
        refine List.filter_eq_nil_iff.mpr fun c hc hfc => h.1 ?_
        exact List.mem_map.mpr ⟨c, hc, of_decide_eq_true hfc⟩
      rw [List.filter_cons_of_pos (by simp), hnone]
    · have hne : f b ≠ f a := fun heq => h.1 (heq ▸ List.mem_map_of_mem hmem)
      rw [List.filter_cons_of_neg (by simpa using hne), ih h.2 hmem]

theorem getRoom_map (erm : EventRoomManager) (t : TempleEventType) {g : EventRoom → EventRoom}
    (hg : ∀ r, (g r).roomId = r.roomId ∧ (g r).eventType = r.eventType) (roomId : ℕ) :
    ({ erm with rooms := erm.rooms.map g } : EventRoomManager).getRoom t roomId =
      (erm.getRoom t roomId).map g := by
  unfold EventRoomManager.getRoom EventRoomManager.listRooms
  rw [List.find?_filter, List.find?_filter, List.find?_map]
  congr 1
  refine congrArg (fun p => erm.rooms.find? p) (funext fun r => ?_)
  simp only [Function.comp, (hg r).1, (hg r).2]

theorem getRoom_updateRoom_of_ne {f : EventRoom → EventRoom} {roomId roomId' : ℕ}
    (hf : ∀ r, (f r).roomId = r.roomId ∧ (f r).eventType = r.eventType) (hne : roomId' ≠ roomId) :
    (erm.updateRoom t roomId f).getRoom t roomId' = erm.getRoom t roomId' := by
  have hmap := getRoom_map erm t
    (g := fun r => if r.eventType = t ∧ r.roomId = roomId then f r else r) (fun r => ?_) roomId'
  · refine hmap.trans ?_
    cases hfind : erm.getRoom t roomId' with
    | none => rfl
    | some r =>
      have hid : r.roomId = roomId' := by simpa using (List.find?_eq_some_iff_append.mp hfind).1
      rw [Option.map_some, if_neg fun h => hne (hid.symm.trans h.2)]
  · split_ifs
    · exact hf r
    · exact ⟨rfl, rfl⟩

theorem rewardRooms_grants (t : TempleEventType) : ∀ (results : List (ℕ × ℕ))
    (erm : EventRoomManager), (results.map Prod.fst).Nodup →
    (rewardRooms t erm results).2 = results.flatMap fun result =>
      ((erm.getRoom t result.1).map fun r => r.prizes result.2).getD [] := by
  intro results
  induction results with
  | nil => exact fun _ _ => rfl
  | cons result results ih =>
    intro erm hids
    obtain ⟨roomId, winner⟩ := result
    rw [List.map_cons, List.nodup_cons] at hids
    rw [List.flatMap_cons]
    unfold rewardRooms
    cases hroom : erm.getRoom t roomId with
    | none =>
      simp only [Option.map_none, Option.getD_none, List.nil_append]
      exact ih erm hids.2
    | some r =>
      simp only [Option.map_some, Option.getD_some]
      rw [ih _ hids.2]
      congr 1
      refine List.flatMap_congr fun result hmem => ?_
      have hne : result.1 ≠ roomId := fun heq =>
        hids.1 (List.mem_map.mpr ⟨result, hmem, heq⟩)
      rw [getRoom_updateRoom_of_ne (f := EventRoom.markPrizes) (fun _ => ⟨rfl, rfl⟩) hne]

theorem verdict_grants {erm' : EventRoomManager} {g : EventRoom → EventRoom}
    {verdict : EventRoom → Option ℕ} (h : Seated t erm.cards)
    (hrooms : erm'.rooms = erm.rooms.map g)
    (hg : ∀ r, (g r).roomId = r.roomId ∧ (g r).eventType = r.eventType ∧ (g r).users = r.users) :
    (rewardRooms t erm' ((erm.listRooms t).filterMap fun r =>
        (verdict r).map fun winner => (r.roomId, winner))).2 =
      erm.rooms.flatMap fun r => (verdict r).elim [] r.prizes := by
  obtain ⟨-, hids, -, -⟩ := h.rooms
  have hget : ∀ r ∈ erm.rooms, erm'.getRoom t r.roomId = some (g r) := by
    intro r hr
    have hmap := getRoom_map erm t (fun r => ⟨(hg r).1, (hg r).2.1⟩) r.roomId
    have hsame : erm'.getRoom t r.roomId =
        ({ erm with rooms := erm.rooms.map g } : EventRoomManager).getRoom t r.roomId := by
      unfold EventRoomManager.getRoom EventRoomManager.listRooms
      rw [hrooms]
    rw [hsame, hmap]
    unfold EventRoomManager.getRoom
    rw [listRooms_eq h, Rows.find?_of_key hids hr]
    rfl
  rw [listRooms_eq h, rewardRooms_grants]
  · have hstep : ∀ rooms : List EventRoom, (∀ r ∈ rooms, r ∈ erm.rooms) →
        ((rooms.filterMap fun r => (verdict r).map fun winner => (r.roomId, winner)).flatMap
          fun result => ((erm'.getRoom t result.1).map fun r => r.prizes result.2).getD []) =
        rooms.flatMap fun r => (verdict r).elim [] r.prizes := by
      intro rooms hmem
      induction rooms with
      | nil => rfl
      | cons r rooms ih =>
        obtain ⟨hr, hrest⟩ := List.forall_mem_cons.mp hmem
        rw [List.flatMap_cons, ← ih hrest]
        cases hv : verdict r with
        | none => simp [hv]
        | some winner =>
          have hprizes : (g r).prizes winner = r.prizes winner := by
            unfold EventRoom.prizes
            rw [(hg r).1, (hg r).2.2]
          simp [hv, hget r hr, hprizes]
    exact hstep erm.rooms fun _ hr => hr
  · refine List.Nodup.sublist ?_ hids
    induction erm.rooms with
    | nil => exact List.Sublist.slnil
    | cons r rooms ih =>
      cases hv : verdict r with
      | none => simpa [hv] using ih.cons r.roomId
      | some winner => simpa [hv] using ih.cons_cons r.roomId

theorem mem_prizes {r : EventRoom} {winner : ℕ} {g : RewardGrant} :
    g ∈ r.prizes winner ↔ ∃ u ∈ r.users, u.eligible = true ∧
      g = ⟨r.roomId, u.userName, u.sessionId, if u.nation = winner then .winner else .loser⟩ := by
  simp only [EventRoom.prizes, List.mem_map, List.mem_filter]
  constructor
  · rintro ⟨u, ⟨hu, hel⟩, rfl⟩
    exact ⟨u, hu, hel, rfl⟩
  · rintro ⟨u, hu, hel, rfl⟩
    exact ⟨u, ⟨hu, hel⟩, rfl⟩

theorem names_grants {verdict : EventRoom → Option ℕ}
    (hnames : ((erm.rooms.flatMap EventRoom.users).map EventUser.userName).Nodup) :
    ((erm.rooms.flatMap fun r => (verdict r).elim [] r.prizes).map RewardGrant.userName).Nodup := by
  refine List.Nodup.sublist ?_ hnames
  rw [List.map_flatMap, List.map_flatMap]
  refine List.Sublist.flatMap_right _ fun r _ => ?_
  cases verdict r with
  | none => exact List.nil_sublist _
  | some winner =>
    simp only [Option.elim_some, EventRoom.prizes, List.map_map]
    exact List.filter_sublist.map EventUser.userName

theorem chaosFinish_of_finished {r : EventRoom} (present : ℕ → Bool) (h : r.finished = true) :
    (r.chaosFinish present).2 = [] := by
  unfold EventRoom.chaosFinish
  rw [if_pos h]

theorem chaosFinish_of_empty {r : EventRoom} (present : ℕ → Bool) (h : r.mixedUsers = []) :
    (r.chaosFinish present).2 = [] := by
  unfold EventRoom.chaosFinish
  split_ifs
  · rfl
  · simp [h]

theorem chaos_unrewarded (present : ℕ → Bool) (now : ℕ) {erm' : EventRoomManager}
    (hrooms : erm'.rooms = erm.chaosDetermineAllWinners.1.rooms) :
    (distributeChaosFinishExp (erm'.sendWinnerScreen .chaosDungeon now) present).2 = [] := by
  refine List.flatMap_eq_nil_iff.mpr fun r hr => ?_
  obtain ⟨hr, htype⟩ := List.mem_filter.mp hr
  have htype : r.eventType = .chaosDungeon := of_decide_eq_true htype
  simp only [EventRoomManager.sendWinnerScreen, hrooms, EventRoomManager.chaosDetermineAllWinners,
    EventRoomManager.decideRooms, List.map_map, List.mem_map, Function.comp] at hr
  obtain ⟨room, -, rfl⟩ := hr
  by_cases hempty : room.mixedUsers = []
  · refine chaosFinish_of_empty present ?_
    split_ifs
    all_goals exact hempty
  · refine chaosFinish_of_finished present ?_
    split_ifs at htype ⊢
    all_goals simp_all

end

/-- An event with what the code does not keep: the seats at the beginning of the play, who of them
has logged out before the end of it, the rooms at its end, and all that was handed out. -/
structure RewardWorld where
  server : TempleServer
  assigned : List Seat
  departed : List (List Char)
  ended : Option (List EventRoom)
  granted : List RewardGrant

namespace RewardWorld

def step (w : RewardWorld) (i : TempleStep) : RewardWorld :=
  let (server, grants) := w.server.handle i
  { server := server
    assigned :=
      if w.server.phase = .registration ∧ server.phase = .active then server.erm.seats
      else w.assigned
    departed :=
      match i with
      | .logout _ name _ =>
        if w.ended.isNone ∧ name ∈ w.assigned.map Seat.userName then name :: w.departed
        else w.departed
      | _ => w.departed
    ended :=
      if w.server.phase = .active ∧ server.phase ≠ .active then some w.server.erm.rooms else w.ended
    granted := w.granted ++ grants }

def opened (server : TempleServer) : RewardWorld := ⟨server, [], [], none, []⟩

end RewardWorld

/-- The nation of the seat has strictly more points in its room, or more kills. -/
def Leads (rooms : List EventRoom) (seat : Seat) : Prop :=
  ∃ r ∈ rooms, r.roomId = seat.roomId ∧
    if seat.nation = 1 then r.elmoradScore < r.karusScore else r.karusScore < r.elmoradScore

/-- The reward that a seat should have: the winner's if its nation leads, and in the dungeon the
one of a rank that nobody else of the room has. -/
def Deserves (t : TempleEventType) (rooms : List EventRoom) (granted : List RewardGrant)
    (seat : Seat) (kind : RewardKind) : Prop :=
  match t with
  | .chaosDungeon => ∃ n, kind = .rank n ∧ ∀ g ∈ granted, g.roomId = seat.roomId →
      g.userName ≠ seat.userName → g.kind ≠ .rank n
  | _ => (kind = .winner ∨ kind = .loser) ∧ (kind = .winner ↔ Leads rooms seat)

/-- Who was seated and had not logged out at the end is rewarded once, and nobody who had. -/
structure RewardedOnce (t : TempleEventType) (w : RewardWorld) : Prop where
  before : w.ended = none → w.granted = []
  once : ∀ rooms, w.ended = some rooms → ∀ seat ∈ w.assigned, seat.userName ∉ w.departed →
    ∃ kind, w.granted.filter (·.userName = seat.userName) =
        [⟨seat.roomId, seat.userName, seat.sessionId, kind⟩] ∧
      Deserves t rooms w.granted seat kind
  gone : ∀ g ∈ w.granted, g.userName ∉ w.departed

namespace RewardWorld

variable (w : RewardWorld)

def Live (seat : Seat) : Prop := seat ∈ w.assigned ∧ seat.userName ∉ w.departed

/-- A tick that ends the play: by the close of a game master, or by its time. -/
def Ends (o : VroomOpt) : Prop :=
  w.server.phase = .active ∧ w.server.eventOpts = some o ∧
    (w.server.manualDue o = true ∨
      w.server.erm.templeEvent.isPlayExpiredAt o w.server.clock = true)

/-- Logouts of the war are from its zone, nobody leaves it otherwise, and nobody logs out of the
mountain. Unless everybody has left, the play ends by its time, is not in the dungeon and has
rewards in the tables; and in the mountain the users that are left lead nowhere. -/
def EndsWell (t : TempleEventType) : TempleStep → Prop
  | .logout _ name zoneId => t ≠ .chaosDungeon → w.server.phase = .active →
      ∀ seat, w.Live seat → seat.userName = name →
        t = .borderDefenceWar ∧ zoneId = TempleEventType.borderDefenceWar.zoneId
  | .warpOut name zoneId => t = .borderDefenceWar → w.server.phase = .active →
      zoneId = TempleEventType.borderDefenceWar.zoneId → ∀ seat, w.Live seat → seat.userName ≠ name
  | .tick => ∀ o, w.Ends o → (∀ seat, ¬w.Live seat) ∨
      w.server.manualDue o = false ∧ t ≠ .chaosDungeon ∧ w.server.rewardTable t.localId = true ∧
        (t = .juraidMountain → ∀ seat, w.Live seat → ¬Leads w.server.erm.rooms seat)
  | _ => True

end RewardWorld

inductive Course (t : TempleEventType) (w : RewardWorld) : Prop where
  | gathering (flags : w.server.erm.templeEvent.Flagged t) (phase : w.server.phase = .registration)
      (rooms : w.server.erm.rooms = [])
      (names : (w.server.erm.signedUpUsers.map SignedUpUser.userName).Nodup)
      (fresh : w.assigned = [] ∧ w.departed = [] ∧ w.ended = none ∧ w.granted = [])
  | playing (flags : w.server.erm.templeEvent.Flagged t) (phase : w.server.phase = .active)
      (seated : Seated t w.server.erm.cards) (assigned : w.assigned = w.server.erm.seats)
      (marks : t ≠ .chaosDungeon → ∀ c ∈ w.server.erm.cards, ∀ u ∈ c.users,
        (u.loggedOut = true ↔ u.userName ∈ w.departed))
      (kills : t = .juraidMountain → ∀ c ∈ w.server.erm.cards,
        w.server.juraidRooms c.roomId = some {})
      (going : w.ended = none ∧ w.granted = [])
  | finished (flags : w.server.erm.templeEvent.activeEvent = none ∨
        w.server.erm.templeEvent.Flagged t)
      (phase : w.server.phase = .rewards ∨ w.server.phase = .inactive)
      (ended : w.ended ≠ none) (rewarded : RewardedOnce t w)

section

variable {t : TempleEventType} {w : RewardWorld}

/-- The rooms themselves do not matter once they have given their prizes. -/
theorem RewardedOnce.congr {w' : RewardWorld} (h : RewardedOnce t w)
    (hassigned : w'.assigned = w.assigned) (hdeparted : w'.departed = w.departed)
    (hended : w'.ended = w.ended) (hgranted : w'.granted = w.granted) : RewardedOnce t w' where
  before := by
    rw [hended, hgranted]
    exact h.before
  once := by
    rw [hended, hgranted, hassigned, hdeparted]
    exact h.once
  gone := by
    rw [hgranted, hdeparted]
    exact h.gone

theorem Course.rewardedOnce (h : Course t w) : RewardedOnce t w := by
  cases h with
  | gathering flags phase rooms names fresh =>
    obtain ⟨hassigned, -, hended, hgranted⟩ := fresh
    refine ⟨fun _ => hgranted, fun rooms hrooms => ?_, fun g hg => ?_⟩
    · rw [hended] at hrooms
      cases hrooms
    · rw [hgranted] at hg
      cases hg
  | playing flags phase seated assigned marks kills going =>
    obtain ⟨hended, hgranted⟩ := going
    refine ⟨fun _ => hgranted, fun rooms hrooms => ?_, fun g hg => ?_⟩
    · rw [hended] at hrooms
      cases hrooms
    · rw [hgranted] at hg
      cases hg
  | finished flags phase ended rewarded => exact rewarded

end

theorem SameTimers.flagged {s s' : TempleEventState} {t : TempleEventType} (h : SameTimers s s')
    (hs : s.Flagged t) : s'.Flagged t := by
  obtain ⟨karus, elmorad, all, close, closeTime, rfl⟩ := h
  exact ⟨hs.event, hs.reset, hs.begun, hs.finish⟩

theorem SameTimers.activeEvent {s s' : TempleEventState} (h : SameTimers s s') :
    s'.activeEvent = s.activeEvent := by
  obtain ⟨karus, elmorad, all, close, closeTime, rfl⟩ := h
  rfl

theorem withdrawSignUp_lists (erm : EventRoomManager) (name : List Char) :
    (withdrawSignUp erm name).rooms = erm.rooms ∧
      (withdrawSignUp erm name).signedUpUsers.Sublist erm.signedUpUsers := by
  unfold withdrawSignUp EventRoomManager.removeSignedUpUser
  cases erm.signedUpUsers.find? (·.userName = name) with
  | none => exact ⟨rfl, List.Sublist.refl _⟩
  | some u => exact ⟨rfl, List.eraseP_sublist⟩

theorem signUpCleanup_lists (erm : EventRoomManager) (name : List Char) :
    (signUpCleanup erm name).rooms = erm.rooms ∧
      (signUpCleanup erm name).signedUpUsers.Sublist erm.signedUpUsers := by
  unfold signUpCleanup
  split_ifs
  · exact withdrawSignUp_lists erm name
  · exact ⟨rfl, List.Sublist.refl _⟩

theorem leave_lists (erm : EventRoomManager) (p : EventPlayer) :
    (handleTempleDisband erm p).rooms = erm.rooms ∧
      (handleTempleDisband erm p).signedUpUsers.Sublist erm.signedUpUsers := by
  unfold handleTempleDisband
  split_ifs
  · exact ⟨rfl, List.Sublist.refl _⟩
  · exact withdrawSignUp_lists erm p.name

def TempleServer.markedBy (w : TempleServer) : TempleStep → Option (List Char)
  | .logout _ name zoneId | .warpOut name zoneId =>
    if w.erm.isRunning .borderDefenceWar && zoneId = TempleEventType.borderDefenceWar.zoneId then
      some name
    else none
  | _ => none

section

variable {t : TempleEventType} {w : TempleServer}

theorem handle_unrewarded {i : TempleStep} (hi : i ≠ .tick) : (w.handle i).2 = [] := by
  cases i with
  | tick => exact absurd rfl hi
  | _ => rfl

theorem bdwUserLogout_cards (h : Seated t w.erm.cards)
    (hevent : w.erm.templeEvent.activeEvent = some t) (name : List Char) (zoneId : ℕ) :
    (w.erm.bdwUserLogout name w.clock zoneId).cards =
      (w.markedBy (.warpOut name zoneId)).elim w.erm.cards fun name =>
        w.erm.cards.map (RoomCard.mark name) := by
  have hmark : w.markedBy (.warpOut name zoneId) =
      if w.erm.isRunning .borderDefenceWar && zoneId = TempleEventType.borderDefenceWar.zoneId then
        some name
      else none := rfl
  rw [hmark]
  unfold EventRoomManager.bdwUserLogout
  split_ifs with hrun
  · have htype : t = .borderDefenceWar := by
      simp only [EventRoomManager.isRunning, hevent, Bool.and_eq_true, decide_eq_true_eq] at hrun
      exact Option.some.inj hrun.1.1
    subst htype
    exact markUserRoom_cards h w.clock
  · rfl

theorem score_cards {erm : EventRoomManager} {event : TempleEventType} {name : List Char} {b : Bool}
    {f : EventRoom → EventRoom} (hf : ∀ r, (f r).card = r.card) :
    (if b then erm.updateUserRoom event name f else erm).cards = erm.cards := by
  split_ifs
  · exact updateUserRoom_cards hf
  · rfl

theorem step_cards (h : Seated t w.erm.cards) (hevent : w.erm.templeEvent.activeEvent = some t)
    {i : TempleStep} (hi : i ≠ .tick) :
    (w.step i).erm.cards = (w.markedBy i).elim w.erm.cards fun name =>
      w.erm.cards.map (RoomCard.mark name) := by
  cases i with
  | tick => exact absurd rfl hi
  | wait secs => rfl
  | enterGame sid => rfl
  | join sid p =>
    change (handleTempleJoin w.erm sid p).cards = w.erm.cards
    rw [handleTempleJoin_eq]
    split_ifs
    all_goals rfl
  | leave p => exact congrArg (List.map EventRoom.card) (leave_lists w.erm p).1
  | logout sid name zoneId =>
    refine Eq.trans ?_ (bdwUserLogout_cards h hevent name zoneId)
    exact congrArg (List.map EventRoom.card) (signUpCleanup_lists _ name).1
  | warpOut name zoneId => exact bdwUserLogout_cards h hevent name zoneId
  | playerKill name nation => exact score_cards fun r => by simp
  | delivery name nation => exact score_cards fun r => by simp
  | monsterKill name nation =>
    refine score_cards fun r => ?_
    split_ifs
    all_goals rfl
  | mountainKill name nation =>
    refine score_cards fun r => ?_
    split_ifs
    all_goals rfl
  | dungeonKill name deadName => exact score_cards fun r => card_kill r name deadName
  | manualClose => rfl

theorem score_users (erm : EventRoomManager) (event : TempleEventType) (name : List Char) (b : Bool)
    (f : EventRoom → EventRoom) :
    (if b then erm.updateUserRoom event name f else erm).signedUpUsers = erm.signedUpUsers := by
  split_ifs
  · unfold EventRoomManager.updateUserRoom
    cases erm.findUserRoom event name with
    | none => rfl
    | some found => rfl
  · rfl

theorem step_names {i : TempleStep} (hi : i ≠ .tick)
    (h : (w.erm.signedUpUsers.map SignedUpUser.userName).Nodup) :
    ((w.step i).erm.signedUpUsers.map SignedUpUser.userName).Nodup := by
  have hsame : ∀ {erm : EventRoomManager}, erm.signedUpUsers = w.erm.signedUpUsers →
      (erm.signedUpUsers.map SignedUpUser.userName).Nodup := fun heq => heq ▸ h
  cases i with
  | tick => exact absurd rfl hi
  | wait secs => exact h
  | enterGame sid => exact h
  | join sid p =>
    change ((handleTempleJoin w.erm sid p).signedUpUsers.map SignedUpUser.userName).Nodup
    rw [handleTempleJoin_eq]
    split_ifs with hadm
    · exact nodup_map_concat h (new_of_admits hadm)
    · exact h
  | leave p => exact h.sublist ((leave_lists w.erm p).2.map _)
  | logout sid name zoneId =>
    have hlists := (signUpCleanup_lists (w.erm.bdwUserLogout name w.clock zoneId) name).2
    refine List.Nodup.sublist (hlists.map _) (hsame ?_)
    exact score_users _ _ _ _ _
  | warpOut name zoneId => exact hsame (score_users _ _ _ _ _)
  | playerKill name nation => exact hsame (score_users _ _ _ _ _)
  | delivery name nation => exact hsame (score_users _ _ _ _ _)
  | monsterKill name nation => exact hsame (score_users _ _ _ _ _)
  | mountainKill name nation => exact hsame (score_users _ _ _ _ _)
  | dungeonKill name deadName => exact hsame (score_users _ _ _ _ _)
  | manualClose => exact h

end

section

variable {t : TempleEventType} {cs : List RoomCard} {name : List Char}

theorem mark_fields (name : List Char) (u : EventUser) : (u.mark name).userName = u.userName ∧
    (u.mark name).sessionId = u.sessionId ∧ (u.mark name).nation = u.nation ∧
    (u.mark name).prizeGiven = u.prizeGiven ∧
    ((u.mark name).loggedOut = true ↔ u.userName = name ∨ u.loggedOut = true) := by
  unfold EventUser.mark
  split_ifs with hname
  · simp [hname]
  · simp [hname]

theorem seats_mark (cs : List RoomCard) :
    (cs.map (RoomCard.mark name)).flatMap RoomCard.seats = cs.flatMap RoomCard.seats := by
  rw [List.flatMap_map]
  refine List.flatMap_congr fun c _ => ?_
  simp only [RoomCard.mark, RoomCard.seats, List.map_map]
  refine List.map_congr_left fun u _ => ?_
  obtain ⟨hname, hsid, hnation, -, -⟩ := mark_fields name u
  simp only [Function.comp, hname, hsid, hnation]

theorem Seated.mark (h : Seated t cs) : Seated t (cs.map (RoomCard.mark name)) where
  types := by simpa [RoomCard.mark] using h.types
  ids := by
    rw [List.map_map]
    exact h.ids
  names := by
    have hsame : ((cs.map (RoomCard.mark name)).flatMap RoomCard.users).map EventUser.userName =
        (cs.flatMap RoomCard.users).map EventUser.userName := by
      rw [List.flatMap_map, List.map_flatMap, List.map_flatMap]
      refine List.flatMap_congr fun c _ => ?_
      simp only [RoomCard.mark, List.map_map]
      exact List.map_congr_left fun u _ => (mark_fields name u).1
    rw [hsame]
    exact h.names
  running := by simpa [RoomCard.mark] using h.running
  mixed := by simpa [RoomCard.mark] using h.mixed
  nations := fun ht c hc u hu => by
    obtain ⟨c₀, hc₀, rfl⟩ := List.mem_map.mp hc
    obtain ⟨v, hv, rfl⟩ := List.mem_map.mp hu
    rw [(mark_fields name v).2.2.1]
    exact h.nations ht c₀ hc₀ v hv
  unrewarded := fun c hc u hu => by
    obtain ⟨c₀, hc₀, rfl⟩ := List.mem_map.mp hc
    obtain ⟨v, hv, rfl⟩ := List.mem_map.mp hu
    rw [(mark_fields name v).2.2.2.1]
    exact h.unrewarded c₀ hc₀ v hv

end

section

variable {t : TempleEventType} {w : RewardWorld} {i : TempleStep}

theorem step_between (hi : i ≠ .tick) : (w.step i).server = w.server.step i ∧
    (w.step i).server.phase = w.server.phase ∧ (w.step i).assigned = w.assigned ∧
    (w.step i).ended = w.ended ∧ (w.step i).granted = w.granted := by
  have hphase : (w.server.step i).phase = w.server.phase :=
    (step_unmoved (t := .borderDefenceWar) w.server hi).1.flags.phase_eq
  have hgrants := handle_unrewarded (w := w.server) hi
  change _ ∧ (w.server.step i).phase = _ ∧
    (if w.server.phase = .registration ∧ (w.server.step i).phase = .active then _ else _) = _ ∧
    (if w.server.phase = .active ∧ (w.server.step i).phase ≠ .active then _ else _) = _ ∧
    w.granted ++ (w.server.handle i).2 = _
  refine ⟨rfl, hphase, if_neg fun h => ?_, if_neg fun h => ?_, ?_⟩
  · rw [hphase, h.1] at h
    exact absurd h.2 (by decide)
  · exact h.2 (hphase.trans h.1)
  · rw [hgrants, List.append_nil]

/-- After the end nobody's departure counts, and before the play nobody's. -/
theorem departed_between (h : w.ended ≠ none ∨ w.assigned = []) : (w.step i).departed = w.departed := by
  cases i with
  | logout sid name zoneId =>
    refine if_neg fun hadd => ?_
    rcases h with hended | hnobody
    · exact hended (Option.isNone_iff_eq_none.mp hadd.1)
    · rw [hnobody] at hadd
      cases hadd.2
  | _ => rfl

theorem seat_mem {erm : EventRoomManager} {c : RoomCard} {u : EventUser} (hc : c ∈ erm.cards)
    (hu : u ∈ c.users) : ⟨c.roomId, u.userName, u.sessionId, u.nation⟩ ∈ erm.seats :=
  List.mem_flatMap.mpr ⟨c, hc, List.mem_map.mpr ⟨u, hu, rfl⟩⟩

theorem marks_between (flags : w.server.erm.templeEvent.Flagged t) (phase : w.server.phase = .active)
    (seated : Seated t w.server.erm.cards) (assigned : w.assigned = w.server.erm.seats)
    (marks : ∀ c ∈ w.server.erm.cards, ∀ u ∈ c.users, (u.loggedOut = true ↔ u.userName ∈ w.departed))
    (going : w.ended = none) (ht : t ≠ .chaosDungeon) (hok : w.EndsWell t i) (hi : i ≠ .tick) :
    ∀ c ∈ (w.server.step i).erm.cards, ∀ u ∈ c.users,
      (u.loggedOut = true ↔ u.userName ∈ (w.step i).departed) := by
  have hcards := step_cards seated flags.event hi
  have hactive : w.server.erm.templeEvent.isActive = true := (flags.flags.2.1 phase).1
  have hseat : ∀ c ∈ w.server.erm.cards, ∀ u ∈ c.users, ∃ seat ∈ w.assigned,
      seat.userName = u.userName := fun c hc u hu => ⟨_, assigned ▸ seat_mem hc hu, rfl⟩
  cases i with
  | logout sid name zoneId =>
    have hdeparted : ∀ c ∈ w.server.erm.cards, ∀ u ∈ c.users,
        (u.userName ∈ (w.step (.logout sid name zoneId)).departed ↔
          u.userName = name ∨ u.userName ∈ w.departed) := by
      intro c hc u hu
      change u.userName ∈ (if _ then _ else _ : List (List Char)) ↔ _
      split_ifs with hadd
      · exact List.mem_cons
      · refine ⟨.inr, fun h => h.resolve_left fun hname => hadd ⟨by simp [going], ?_⟩⟩
        obtain ⟨seat, hseat, heq⟩ := hseat c hc u hu
        exact List.mem_map.mpr ⟨seat, hseat, heq.trans hname⟩
    by_cases hmark : w.server.markedBy (.logout sid name zoneId) = none
    · -- an unmarked logout is of nobody that is left
      rw [hmark, Option.elim_none] at hcards
      rw [hcards]
      intro c hc u hu
      rw [hdeparted c hc u hu, marks c hc u hu]
      refine ⟨.inr, fun h => h.elim (fun hname => ?_) id⟩
      by_contra hleft
      obtain ⟨seat, hseat, heq⟩ := hseat c hc u hu
      obtain ⟨rfl, hzone⟩ := hok ht phase seat ⟨hseat, heq.symm ▸ hleft⟩ (heq.trans hname)
      simp [TempleServer.markedBy, EventRoomManager.isRunning, flags.event, hactive, hzone] at hmark
    · have hsome : w.server.markedBy (.logout sid name zoneId) = some name := by
        simp only [TempleServer.markedBy] at hmark ⊢
        split_ifs at hmark ⊢ with hrun
        · rfl
        · exact absurd rfl hmark
      rw [hsome, Option.elim_some] at hcards
      rw [hcards]
      intro c hc u hu
      obtain ⟨c₀, hc₀, rfl⟩ := List.mem_map.mp hc
      obtain ⟨v, hv, rfl⟩ := List.mem_map.mp hu
      obtain ⟨hname, -, -, -, hout⟩ := mark_fields name v
      rw [hout, hname, hdeparted c₀ hc₀ v hv, marks c₀ hc₀ v hv]
  | warpOut name zoneId =>
    by_cases hmark : w.server.markedBy (.warpOut name zoneId) = none
    · rw [hmark, Option.elim_none] at hcards
      rw [hcards]
      exact marks
    · -- who leaves the zone by a warp has logged out before
      have hrun : (w.server.erm.isRunning .borderDefenceWar &&
          zoneId = TempleEventType.borderDefenceWar.zoneId) = true := by
        by_contra hrun
        exact hmark (if_neg hrun)
      have hsome : w.server.markedBy (.warpOut name zoneId) = some name := if_pos hrun
      rw [hsome, Option.elim_some] at hcards
      rw [hcards]
      simp only [EventRoomManager.isRunning, flags.event, Bool.and_eq_true, decide_eq_true_eq] at hrun
      intro c hc u hu
      obtain ⟨c₀, hc₀, rfl⟩ := List.mem_map.mp hc
      obtain ⟨v, hv, rfl⟩ := List.mem_map.mp hu
      obtain ⟨hname, -, -, -, hout⟩ := mark_fields name v
      rw [hout, hname, marks c₀ hc₀ v hv]
      refine ⟨fun h => h.elim (fun heq => ?_) id, .inr⟩
      by_contra hleft
      obtain ⟨seat, hseat, hsame⟩ := hseat c₀ hc₀ v hv
      exact hok (Option.some.inj hrun.1.1) phase hrun.2 seat ⟨hseat, hsame.symm ▸ hleft⟩
        (hsame.trans heq)
  | tick => exact absurd rfl hi
  | _ =>
    rw [hcards]
    exact marks

theorem juraidRooms_between (hi : i ≠ .tick) :
    (w.server.step i).juraidRooms = w.server.juraidRooms := by
  cases i with
  | tick => exact absurd rfl hi
  | _ => rfl

theorem seated_nil (t : TempleEventType) : Seated t [] where
  types := by simp
  ids := List.nodup_nil
  names := List.nodup_nil
  running := by simp
  mixed := by simp
  nations := by simp
  unrewarded := by simp

theorem Course.between (h : Course t w) (hok : w.EndsWell t i) (hi : i ≠ .tick) :
    Course t (w.step i) := by
  obtain ⟨hserver, hphase, hassigned, hended, hgranted⟩ := step_between (w := w) hi
  have hflags := (step_unmoved (t := t) w.server hi).1.flags
  cases h with
  | gathering flags phase rooms names fresh =>
    obtain ⟨hnobody, hnone, hgoing, hnothing⟩ := fresh
    have hcards : w.server.erm.cards = [] := by rw [EventRoomManager.cards, rooms, List.map_nil]
    have hempty : Seated t w.server.erm.cards := by
      rw [hcards]
      exact seated_nil t
    have hcards' := step_cards hempty flags.event hi
    rw [hcards] at hcards'
    refine .gathering (hserver ▸ hflags.flagged flags) (hphase.trans phase) ?_ ?_
      ⟨hassigned.trans hnobody, (departed_between (.inr hnobody)).trans hnone,
        hended.trans hgoing, hgranted.trans hnothing⟩
    · rw [hserver]
      refine List.map_eq_nil_iff.mp (hcards'.trans ?_)
      cases w.server.markedBy i
      all_goals rfl
    · rw [hserver]
      exact step_names hi names
  | playing flags phase seated assigned marks kills going =>
    have hcards := step_cards seated flags.event hi
    have hkept : Seated t (w.server.step i).erm.cards ∧
        (w.server.step i).erm.seats = w.server.erm.seats ∧
        (w.server.step i).erm.cards.map RoomCard.roomId =
          w.server.erm.cards.map RoomCard.roomId := by
      unfold EventRoomManager.seats
      rw [hcards]
      cases w.server.markedBy i with
      | none => exact ⟨seated, rfl, rfl⟩
      | some name => exact ⟨seated.mark, seats_mark _, List.map_map⟩
    obtain ⟨hseated, hseats, hids⟩ := hkept
    refine .playing (hserver ▸ hflags.flagged flags) (hphase.trans phase) (hserver ▸ hseated) ?_ ?_
      ?_ ⟨hended.trans going.1, hgranted.trans going.2⟩
    · rw [hassigned, hserver, hseats, assigned]
    · intro ht
      rw [hserver]
      exact marks_between flags phase seated assigned (marks ht) going.1 ht hok hi
    · intro ht c hc
      rw [hserver] at hc ⊢
      rw [juraidRooms_between hi]
      have hid : c.roomId ∈ w.server.erm.cards.map RoomCard.roomId :=
        hids ▸ List.mem_map_of_mem hc
      obtain ⟨c₀, hc₀, heq⟩ := List.mem_map.mp hid
      rw [← heq]
      exact kills ht c₀ hc₀
  | finished flags phase ended rewarded =>
    have hdeparted := departed_between (i := i) (.inl ended)
    refine .finished ?_ ?_ (hended.symm ▸ ended) ?_
    · rw [hserver, hflags.activeEvent]
      exact flags.imp_right hflags.flagged
    · rwa [hphase]
    · exact rewarded.congr hassigned hdeparted hended hgranted

end

end KoServer
