import KoServer.Proofs.TempleReward

/-! The ticks of an event that is followed with its rewards. One of them seats the users, one ends
the play and rewards them, and no other does either. -/

namespace KoServer

/-- What decides a room at the end: the scores in the war, in the mountain the kills that the event
task has of it. -/
def TempleServer.verdict (w : TempleServer) (t : TempleEventType) (r : EventRoom) : Option ℕ :=
  match t with
  | .borderDefenceWar =>
    if r.finished || r.state ≠ .running then none
    else some (determineWinner r.karusScore r.elmoradScore)
  | .juraidMountain =>
    (w.juraidRooms r.roomId).bind fun state =>
      if r.finished || r.state ≠ .running then none
      else some (determineWinner state.karusKills state.elmoradKills)
  | _ => none

section

variable {erm : EventRoomManager} {w : TempleServer} {t : TempleEventType} {o : VroomOpt}

theorem decided_grants (verdict : EventRoom → Option ℕ) (close : EventRoom → ℕ → EventRoom)
    (h : Seated t erm.cards)
    (hclose : ∀ r winner, (close r winner).roomId = r.roomId ∧
      (close r winner).eventType = r.eventType ∧ (close r winner).users = r.users) (now : ℕ) :
    (rewardRooms t ((erm.decideRooms t verdict close).1.transitionToFinish.sendWinnerScreen t now)
        (erm.decideRooms t verdict close).2).2 =
      erm.rooms.flatMap fun r => (verdict r).elim [] r.prizes := by
  have hdecide : ∀ r : EventRoom,
      (if r.eventType = t then (verdict r).elim r (close r) else r).roomId = r.roomId ∧
      (if r.eventType = t then (verdict r).elim r (close r) else r).eventType = r.eventType ∧
      (if r.eventType = t then (verdict r).elim r (close r) else r).users = r.users := by
    intro r
    split_ifs
    · cases verdict r with
      | none => exact ⟨rfl, rfl, rfl⟩
      | some winner => exact hclose r winner
    · exact ⟨rfl, rfl, rfl⟩
  have hscreen : ∀ r : EventRoom, ∀ winner,
      (if r.eventType = t ∧ r.finished = false then r.finishWith winner now else r).roomId =
        r.roomId ∧
      (if r.eventType = t ∧ r.finished = false then r.finishWith winner now else r).eventType =
        r.eventType ∧
      (if r.eventType = t ∧ r.finished = false then r.finishWith winner now else r).users =
        r.users := by
    intro r winner
    split_ifs
    · exact ⟨rfl, rfl, rfl⟩
    · exact ⟨rfl, rfl, rfl⟩
  refine verdict_grants h List.map_map fun r => ?_
  obtain ⟨hid, htype, husers⟩ := hdecide r
  obtain ⟨hid', htype', husers'⟩ := hscreen
    (if r.eventType = t then (verdict r).elim r (close r) else r) _
  exact ⟨hid'.trans hid, htype'.trans htype, husers'.trans husers⟩

theorem finished_grants (h : Seated t w.erm.cards) (ht : t ≠ .forgottenTemple) :
    ((w.played t o).1.reward t (w.played t o).2).2 =
      if w.rewardTable t.localId then w.erm.rooms.flatMap fun r => (w.verdict t r).elim [] r.prizes
      else [] := by
  have hcards : Seated t (w.attackTick o).erm.cards := h
  cases t with
  | forgottenTemple => exact absurd rfl ht
  | chaosDungeon =>
    have hnobody : (w.erm.rooms.flatMap fun r =>
        (w.verdict .chaosDungeon r).elim [] r.prizes) = [] := by
      simp [TempleServer.verdict]
    rw [hnobody, ite_self]
    exact chaos_unrewarded w.present w.clock
      (rfl : (w.played .chaosDungeon o).1.erm.rooms =
        (w.attackTick o).erm.chaosDetermineAllWinners.1.rooms)
  | borderDefenceWar =>
    change (if w.rewardTable _ then rewardRooms _ _ _ else _ : EventRoomManager × _).2 = _
    split_ifs
    · exact decided_grants (w.verdict .borderDefenceWar)
        (fun r winner => { r with winnerNation := winner, finishPacketSent := true }) hcards
        (fun _ _ => ⟨rfl, rfl, rfl⟩) w.clock
    · rfl
  | juraidMountain =>
    change (if w.rewardTable _ then rewardRooms _ _ _ else _ : EventRoomManager × _).2 = _
    split_ifs
    · exact decided_grants (w.verdict .juraidMountain)
        (fun r winner => { r with winnerNation := winner, finishPacketSent := true }) hcards
        (fun _ _ => ⟨rfl, rfl, rfl⟩) w.clock
    · rfl

theorem mem_seats {seat : Seat} (h : seat ∈ erm.seats) : ∃ r ∈ erm.rooms, ∃ u ∈ r.users,
    seat = ⟨r.roomId, u.userName, u.sessionId, u.nation⟩ := by
  obtain ⟨c, hc, hseat⟩ := List.mem_flatMap.mp h
  obtain ⟨r, hr, rfl⟩ := List.mem_map.mp hc
  obtain ⟨u, hu, rfl⟩ := List.mem_map.mp hseat
  obtain ⟨v, hv, rfl⟩ := mem_card_users hu
  exact ⟨r, hr, v, hv, rfl⟩

theorem badge_mem {r : EventRoom} {u : EventUser} (hr : r ∈ erm.rooms) (hu : u ∈ r.users) :
    r.card ∈ erm.cards ∧ u.badge ∈ r.card.users :=
  ⟨List.mem_map_of_mem hr, List.mem_map_of_mem hu⟩

theorem leads_iff (h : Seated t erm.cards) {r : EventRoom} {u : EventUser} (hr : r ∈ erm.rooms) :
    Leads erm.rooms ⟨r.roomId, u.userName, u.sessionId, u.nation⟩ ↔
      if u.nation = 1 then r.elmoradScore < r.karusScore else r.karusScore < r.elmoradScore := by
  constructor
  · rintro ⟨r', hr', hid, hlead⟩
    obtain rfl := List.inj_on_of_nodup_map h.rooms.2.1 hr' hr hid
    exact hlead
  · exact fun hlead => ⟨r, hr, rfl, hlead⟩

theorem winner_iff {karus elmorad nation : ℕ} (h : nation = 1 ∨ nation = 2) :
    nation = determineWinner karus elmorad ↔
      if nation = 1 then elmorad < karus else karus < elmorad := by
  unfold determineWinner
  rcases lt_trichotomy karus elmorad with hless | rfl | hmore
  · rcases h with rfl | rfl
    · simp [hless, hless.le]
    · simp [hless, hless.le]
  · rcases h with rfl | rfl
    · simp
    · simp
  · rcases h with rfl | rfl
    · simp [hmore]
    · simp [hmore, hmore.le]

end

section

variable {t : TempleEventType} {w : RewardWorld} {o : VroomOpt}

theorem seat_verdict (seated : Seated t w.server.erm.cards)
    (kills : t = .juraidMountain → ∀ c ∈ w.server.erm.cards,
      w.server.juraidRooms c.roomId = some {})
    (ht : t ≠ .chaosDungeon) (ht' : t ≠ .forgottenTemple) {r : EventRoom} {u : EventUser}
    (hr : r ∈ w.server.erm.rooms) (hu : u ∈ r.users)
    (hlead : t = .juraidMountain →
      ¬Leads w.server.erm.rooms ⟨r.roomId, u.userName, u.sessionId, u.nation⟩) :
    ∃ winner, w.server.verdict t r = some winner ∧
      (u.nation = winner ↔
        Leads w.server.erm.rooms ⟨r.roomId, u.userName, u.sessionId, u.nation⟩) := by
  obtain ⟨hcard, hbadge⟩ := badge_mem hr hu
  have hnation : u.nation = 1 ∨ u.nation = 2 := seated.nations ht _ hcard u.badge hbadge
  obtain ⟨hstate, hfinished⟩ := seated.running _ hcard (List.ne_nil_of_mem hbadge)
  have hstate : r.state = .running := hstate
  have hfinished : r.finished = false := hfinished
  cases t with
  | chaosDungeon => exact absurd rfl ht
  | forgottenTemple => exact absurd rfl ht'
  | borderDefenceWar =>
    refine ⟨determineWinner r.karusScore r.elmoradScore, ?_, ?_⟩
    · simp [TempleServer.verdict, hstate, hfinished]
    · rw [leads_iff seated hr, winner_iff hnation]
  | juraidMountain =>
    have hkills : w.server.juraidRooms r.roomId = some {} := kills rfl _ hcard
    refine ⟨0, ?_, iff_of_false ?_ (hlead rfl)⟩
    · simp [TempleServer.verdict, hstate, hfinished, hkills, determineWinner]
    · rcases hnation with hone | htwo
      · simp [hone]
      · simp [htwo]

theorem finished_rewardedOnce (seated : Seated t w.server.erm.cards)
    (assigned : w.assigned = w.server.erm.seats)
    (marks : t ≠ .chaosDungeon → ∀ c ∈ w.server.erm.cards, ∀ u ∈ c.users,
      (u.loggedOut = true ↔ u.userName ∈ w.departed))
    (kills : t = .juraidMountain → ∀ c ∈ w.server.erm.cards,
      w.server.juraidRooms c.roomId = some {})
    (ht : t ≠ .forgottenTemple) (hends : w.Ends o) (hok : w.EndsWell t .tick)
    {w' : RewardWorld} (hassigned : w'.assigned = w.assigned) (hdeparted : w'.departed = w.departed)
    (hended : w'.ended = some w.server.erm.rooms)
    (hgranted : w'.granted =
      ((w.server.played t o).1.reward t (w.server.played t o).2).2) : RewardedOnce t w' := by
  rw [finished_grants seated ht] at hgranted
  have hmarks : t ≠ .chaosDungeon → ∀ r ∈ w.server.erm.rooms, ∀ u ∈ r.users,
      (u.loggedOut = true ↔ u.userName ∈ w.departed) := fun hc r hr u hu =>
    marks hc _ (badge_mem hr hu).1 u.badge (badge_mem hr hu).2
  refine ⟨fun hnone => ?_, fun rooms hrooms seat hseat hleft => ?_, fun g hg => ?_⟩
  · rw [hended] at hnone
    cases hnone
  · obtain rfl := Option.some.inj (hended.symm.trans hrooms)
    rw [hassigned] at hseat
    rw [hdeparted] at hleft
    obtain hnobody | ⟨-, hc, htable, hlead⟩ := hok o hends
    · exact absurd ⟨hseat, hleft⟩ (hnobody seat)
    obtain ⟨r, hr, u, hu, rfl⟩ := mem_seats (assigned ▸ hseat)
    obtain ⟨winner, hverdict, hwinner⟩ :=
      seat_verdict seated kills hc ht hr hu fun hj => hlead hj _ ⟨hseat, hleft⟩
    rw [if_pos htable] at hgranted
    have helig : u.eligible = true := by
      have hprize : u.prizeGiven = false :=
        seated.unrewarded _ (badge_mem hr hu).1 u.badge (badge_mem hr hu).2
      have hout : u.loggedOut = false := by
        by_contra hout
        exact hleft ((hmarks hc r hr u hu).mp (by simpa using hout))
      simp [EventUser.eligible, hprize, hout]
    have hgrant : ⟨r.roomId, u.userName, u.sessionId,
        if u.nation = winner then .winner else .loser⟩ ∈ w'.granted := by
      rw [hgranted]
      refine List.mem_flatMap.mpr ⟨r, hr, ?_⟩
      rw [hverdict]
      exact mem_prizes.mpr ⟨u, hu, helig, rfl⟩
    have hnames : (w'.granted.map RewardGrant.userName).Nodup := by
      rw [hgranted]
      exact names_grants seated.rooms.2.2.1
    refine ⟨_, filter_eq_singleton hnames hgrant, ?_⟩
    have hkind : ((if u.nation = winner then RewardKind.winner else .loser) = .winner ∨
        (if u.nation = winner then RewardKind.winner else .loser) = .loser) ∧
        ((if u.nation = winner then RewardKind.winner else .loser) = .winner ↔
          Leads w.server.erm.rooms ⟨r.roomId, u.userName, u.sessionId, u.nation⟩) := by
      rw [← hwinner]
      split_ifs with hwon
      · simp [hwon]
      · simp [hwon]
    cases t with
    | chaosDungeon => exact absurd rfl hc
    | _ => exact hkind
  · rw [hdeparted]
    rw [hgranted] at hg
    split_ifs at hg
    · obtain ⟨r, hr, hg⟩ := List.mem_flatMap.mp hg
      cases hverdict : w.server.verdict t r with
      | none =>
        rw [hverdict] at hg
        cases hg
      | some winner =>
        rw [hverdict] at hg
        obtain ⟨u, hu, helig, rfl⟩ := mem_prizes.mp hg
        have hc : t ≠ .chaosDungeon := by
          rintro rfl
          cases hverdict
        rw [← hmarks hc r hr u hu]
        simp only [EventUser.eligible, Bool.and_eq_true, Bool.not_eq_true'] at helig
        simp [helig.2]
    · cases hg

theorem step_tick (w : RewardWorld) : (w.step .tick).server = w.server.tick.1 ∧
    (w.step .tick).departed = w.departed ∧ (w.step .tick).granted = w.granted ++ w.server.tick.2 ∧
    (w.step .tick).assigned =
      (if w.server.phase = .registration ∧ w.server.tick.1.phase = .active then
        w.server.tick.1.erm.seats else w.assigned) ∧
    (w.step .tick).ended =
      if w.server.phase = .active ∧ w.server.tick.1.phase ≠ .active then
        some w.server.erm.rooms else w.ended := ⟨rfl, rfl, rfl, rfl, rfl⟩

theorem step_still (h : w.server.tick = (w.server, [])) : w.step .tick = w := by
  obtain ⟨hserver, hdeparted, hgranted, hassigned, hended⟩ := step_tick w
  rw [h] at hserver hgranted hassigned hended
  rw [if_neg fun hboth => by
    rw [hboth.1] at hboth
    exact absurd hboth.2 (by decide)] at hassigned
  rw [if_neg fun hboth => hboth.2 hboth.1] at hended
  rw [List.append_nil] at hgranted
  generalize w.step .tick = w' at *
  obtain ⟨server, assigned, departed, ended, granted⟩ := w
  obtain ⟨server', assigned', departed', ended', granted'⟩ := w'
  simp only at hserver hdeparted hgranted hassigned hended
  rw [hserver, hdeparted, hgranted, hassigned, hended]

theorem step_over (hphase : w.server.phase = .rewards ∨ w.server.phase = .inactive)
    (h : w.server.tick.2 = []) : (w.step .tick).departed = w.departed ∧
    (w.step .tick).granted = w.granted ∧ (w.step .tick).assigned = w.assigned ∧
    (w.step .tick).ended = w.ended := by
  obtain ⟨-, hdeparted, hgranted, hassigned, hended⟩ := step_tick w
  rw [h, List.append_nil] at hgranted
  have hpast : w.server.phase ≠ .registration ∧ w.server.phase ≠ .active := by
    rcases hphase with hrew | hinact
    · simp [hrew]
    · simp [hinact]
  rw [if_neg fun hboth => hpast.1 hboth.1] at hassigned
  rw [if_neg fun hboth => hpast.2 hboth.1] at hended
  exact ⟨hdeparted, hgranted, hassigned, hended⟩

theorem closeRooms_of_ne {server : TempleServer} (h : server.phase ≠ .rewards) :
    server.closeRooms = server := by
  unfold TempleServer.closeRooms
  split
  · next hrew _ => exact absurd hrew h
  · rfl

theorem timed_of_opts (h : t.vroomIndex.bind w.server.erm.vroomOpts = some o) :
    t ≠ .forgottenTemple := by
  rintro rfl
  cases h

theorem attacked_flagged {server : TempleServer} (o : VroomOpt)
    (h : server.erm.templeEvent.Flagged t) : (server.attacked o).Flagged t ∧
      (server.attacked o).isActive = server.erm.templeEvent.isActive ∧
      (server.attacked o).timerFinishControl = server.erm.templeEvent.timerFinishControl := by
  obtain ⟨attackable, opened, closed, heq⟩ := attacked_eq server o
  rw [heq]
  exact ⟨⟨h.event, h.reset, h.begun, h.finish⟩, rfl, rfl⟩

theorem gathering_tick (flags : w.server.erm.templeEvent.Flagged t)
    (phase : w.server.phase = .registration) (rooms : w.server.erm.rooms = [])
    (names : (w.server.erm.signedUpUsers.map SignedUpUser.userName).Nodup)
    (fresh : w.assigned = [] ∧ w.departed = [] ∧ w.ended = none ∧ w.granted = []) :
    Course t (w.step .tick) := by
  obtain ⟨-, -, heffect⟩ := ticks flags
  obtain ⟨hserver, hdeparted, hgranted, hassigned, hended⟩ := step_tick w
  cases heffect with
  | idle tick _ =>
    rw [closeRooms_of_ne (by simp [phase])] at tick
    rw [step_still tick]
    exact .gathering flags phase rooms names fresh
  | started o opts tick _ event =>
    obtain ⟨-, hnone, hgoing, hnothing⟩ := fresh
    have hflags : (w.server.erm.transitionToActive.templeEvent).Flagged t :=
      ⟨flags.event, flags.reset, rfl, fun _ => rfl⟩
    have hphase : w.server.tick.1.phase = .active := by
      obtain ⟨-, hfinish⟩ := flags.flags.1 phase
      unfold TempleServer.phase
      rw [event, hflags.phase_eq]
      simp [EventRoomManager.transitionToActive, EventRoomManager.updateTempleEvent, hfinish]
    have hstarted : w.server.tick.1 =
        ({ w.server with erm := w.server.erm.transitionToActive } : TempleServer).initRooms t := by
      have hopened : (({ w.server with erm := w.server.erm.transitionToActive } :
          TempleServer).initRooms t).phase = .active := by
        rw [← hphase]
        unfold TempleServer.phase
        rw [event, (initRooms_event _ t).1]
      rw [tick, closeRooms_of_ne (by simp [hopened])]
    have hfresh : FreshSeats t w.server.tick.1.erm.cards := by
      rw [hstarted]
      exact initRooms_fresh rooms names (timed_of_opts opts)
    rw [if_pos ⟨phase, hphase⟩] at hassigned
    rw [if_neg fun hboth => hboth.2 hphase] at hended
    refine .playing (hserver ▸ event ▸ hflags) (hserver ▸ hphase) (hserver ▸ hfresh.toSeated)
      (hserver ▸ hassigned) ?_ ?_ ⟨hended.trans hgoing, ?_⟩
    · intro _ c hc u hu
      rw [hserver] at hc
      rw [hdeparted, hnone, hfresh.unmarked c hc u hu]
      simp
    · intro hjuraid c hc
      rw [hserver] at hc ⊢
      have hid := hfresh.rooms c hc
      rw [hstarted, hjuraid]
      exact if_pos hid
    · rw [hgranted, hnothing, tick]
      rfl
  | playing o opts tick active event => simp [phase] at active
  | finished o opts tick active manual due event => simp [phase] at active
  | closed o opts active manual vacated unrewarded => simp [phase] at active
  | reset rewards vacated unrewarded => simp [phase] at rewards

theorem over_tick (flags : w.server.erm.templeEvent.activeEvent = none ∨
      w.server.erm.templeEvent.Flagged t)
    (phase : w.server.phase = .rewards ∨ w.server.phase = .inactive) (ended : w.ended ≠ none)
    (rewarded : RewardedOnce t w) : Course t (w.step .tick) := by
  obtain ⟨hserver, -, -, -, -⟩ := step_tick w
  have hover : w.server.tick.2 = [] → (w.step .tick).ended ≠ none ∧
      RewardedOnce t (w.step .tick) := by
    intro hnothing
    obtain ⟨hdeparted, hgranted, hassigned, hended⟩ := step_over phase hnothing
    exact ⟨hended.symm ▸ ended, rewarded.congr hassigned hdeparted hended hgranted⟩
  have hidle : w.server.tick = (w.server.closeRooms, []) → Course t (w.step .tick) := by
    intro htick
    obtain ⟨hended, hrewarded⟩ := hover (congrArg Prod.snd htick)
    have hevent : (w.step .tick).server.erm.templeEvent = w.server.erm.templeEvent := by
      rw [hserver, htick]
      exact (closeRooms_roomsOnly w.server).event
    refine .finished (hevent.symm ▸ flags) ?_ hended hrewarded
    unfold TempleServer.phase
    rw [hevent]
    exact phase
  rcases flags with hnone | hflags
  · have hevent : w.server.eventTickAt = (w.server, .none) := by
      simp only [TempleServer.eventTickAt, hnone]
    exact hidle (tick_of_action hevent (by simp))
  obtain ⟨-, -, heffect⟩ := ticks hflags
  have hpast : w.server.phase ≠ .registration ∧ w.server.phase ≠ .active := by
    rcases phase with hrew | hinact
    · simp [hrew]
    · simp [hinact]
  cases heffect with
  | idle tick _ => exact hidle tick
  | reset _ vacated unrewarded =>
    obtain ⟨hended, hrewarded⟩ := hover unrewarded
    refine .finished (.inl ?_) (.inr ?_) hended hrewarded
    · rw [hserver, vacated.event]
    · rw [hserver]
      exact vacated.phase_eq
  | started o opts tick begins event => exact absurd begins hpast.1
  | playing o opts tick active event => exact absurd active hpast.2
  | finished o opts tick active manual due event => exact absurd active hpast.2
  | closed o opts active manual vacated unrewarded => exact absurd active hpast.2

theorem playing_tick (flags : w.server.erm.templeEvent.Flagged t) (phase : w.server.phase = .active)
    (seated : Seated t w.server.erm.cards) (assigned : w.assigned = w.server.erm.seats)
    (marks : t ≠ .chaosDungeon → ∀ c ∈ w.server.erm.cards, ∀ u ∈ c.users,
      (u.loggedOut = true ↔ u.userName ∈ w.departed))
    (kills : t = .juraidMountain → ∀ c ∈ w.server.erm.cards,
      w.server.juraidRooms c.roomId = some {})
    (going : w.ended = none ∧ w.granted = []) (hok : w.EndsWell t .tick) :
    Course t (w.step .tick) := by
  obtain ⟨-, -, heffect⟩ := ticks flags
  obtain ⟨hserver, hdeparted, hgranted, hassigned, hended⟩ := step_tick w
  obtain ⟨hactive, hfinish⟩ := flags.flags.2.1 phase
  rw [if_neg (by simp [phase])] at hassigned
  rw [going.2, List.nil_append] at hgranted
  cases heffect with
  | idle tick _ =>
    rw [closeRooms_of_ne (by simp [phase])] at tick
    rw [step_still tick]
    exact .playing flags phase seated assigned marks kills going
  | playing o opts tick _ event =>
    obtain ⟨hflags, hactive', hfinish'⟩ := attacked_flagged o flags
    have hphase : w.server.tick.1.phase = .active := by
      unfold TempleServer.phase
      rw [event, hflags.phase_eq, hactive', hfinish', hactive, hfinish]
      rfl
    have hplayed : w.server.tick.1 = w.server.attackTick o := by
      have hopen : (w.server.attackTick o).phase = .active := by
        rw [← hphase]
        unfold TempleServer.phase
        rw [event]
        rfl
      rw [tick, closeRooms_of_ne (by simp [hopen])]
    have hsame : w.server.tick.1.erm.cards = w.server.erm.cards ∧
        w.server.tick.1.juraidRooms = w.server.juraidRooms := by
      rw [hplayed]
      exact ⟨rfl, rfl⟩
    rw [if_neg fun hboth => hboth.2 hphase] at hended
    refine .playing (hserver ▸ event ▸ hflags) (hserver ▸ hphase) ?_ ?_ ?_ ?_
      ⟨hended.trans going.1, by rw [hgranted, tick]⟩
    · rw [hserver, hsame.1]
      exact seated
    · rw [hassigned, hserver, EventRoomManager.seats, hsame.1]
      exact assigned
    · rw [hserver, hsame.1, hdeparted]
      exact marks
    · rw [hserver, hsame.1, hsame.2]
      exact kills
  | finished o opts tick _ manual due event =>
    obtain ⟨hflags, hactive', -⟩ := attacked_flagged o flags
    have hflags' : ({ w.server.attacked o with timerFinishControl := true } :
        TempleEventState).Flagged t :=
      ⟨hflags.event, hflags.reset, hflags.begun, fun _ => hactive'.trans hactive⟩
    have hphase : w.server.tick.1.phase = .rewards := by
      unfold TempleServer.phase
      rw [event, hflags'.phase_eq]
      rfl
    rw [if_pos ⟨phase, by simp [hphase]⟩] at hended
    have hends : w.Ends o := ⟨phase, eventOpts_eq flags opts, .inr due⟩
    refine .finished (.inr (hserver ▸ event ▸ hflags')) (.inl (hserver ▸ hphase)) (by simp [hended]) ?_
    exact finished_rewardedOnce seated assigned marks kills (timed_of_opts opts) hends hok hassigned
      hdeparted hended (hgranted.trans (congrArg Prod.snd tick))
  | closed o opts _ manual vacated unrewarded =>
    have hphase : w.server.tick.1.phase = .inactive := vacated.phase_eq
    rw [if_pos ⟨phase, by simp [hphase]⟩] at hended
    rw [unrewarded] at hgranted
    refine .finished (.inl ?_) (.inr (hserver ▸ hphase)) (by simp [hended]) ⟨?_, ?_, ?_⟩
    · rw [hserver, vacated.event]
    · exact fun _ => hgranted
    · intro rooms _ seat hseat hleft
      rw [hassigned] at hseat
      rw [hdeparted] at hleft
      -- nobody is left where a close ends well
      rcases hok o ⟨phase, eventOpts_eq flags opts, .inl manual⟩ with hnobody | hmanual
      · exact absurd ⟨hseat, hleft⟩ (hnobody seat)
      · simp [manual] at hmanual
    · intro g hg
      rw [hgranted] at hg
      cases hg
  | started o opts tick begins event => simp [phase] at begins
  | reset rewards vacated unrewarded => simp [phase] at rewards

theorem Course.step (h : Course t w) {i : TempleStep} (hok : w.EndsWell t i) :
    Course t (w.step i) := by
  by_cases hi : i = .tick
  · subst hi
    cases h with
    | gathering flags phase rooms names fresh => exact gathering_tick flags phase rooms names fresh
    | playing flags phase seated assigned marks kills going =>
      exact playing_tick flags phase seated assigned marks kills going hok
    | finished flags phase ended rewarded => exact over_tick flags phase ended rewarded
  · exact h.between hok hi

theorem opened_course (vroomOpts : ℕ → Option VroomOpt) (rewardTable present : ℕ → Bool)
    (params : EventOpenParams) (start : ℕ) : Course params.eventType
    (RewardWorld.opened (TempleServer.opened vroomOpts rewardTable present params start)) :=
  .gathering ⟨rfl, rfl, rfl, nofun⟩ rfl rfl List.nodup_nil ⟨rfl, rfl, rfl, rfl⟩

/-- In every run whose play ends well, everybody who was seated and had not logged out at the end is
rewarded once and as his nation has played, and nobody who had. -/
theorem rewarded_once (vroomOpts : ℕ → Option VroomOpt) (rewardTable present : ℕ → Bool)
    (params : EventOpenParams) (start : ℕ) (steps : List TempleStep)
    (hok : Run.Along RewardWorld.step (fun w => w.EndsWell params.eventType)
      (RewardWorld.opened (TempleServer.opened vroomOpts rewardTable present params start)) steps) :
    RewardedOnce params.eventType (Run.run RewardWorld.step
      (RewardWorld.opened (TempleServer.opened vroomOpts rewardTable present params start)) steps) :=
  (Run.invariant (Course params.eventType) (fun _ _ h hi => h.step hi) hok
    (opened_course vroomOpts rewardTable present params start)).rewardedOnce

end

section

variable {t : TempleEventType} {w : TempleServer}

theorem step_flagged (h : w.erm.templeEvent.activeEvent = none ∨ w.erm.templeEvent.Flagged t)
    (i : TempleStep) : (w.step i).erm.templeEvent.activeEvent = none ∨
      (w.step i).erm.templeEvent.Flagged t := by
  by_cases hi : i = .tick
  · subst hi
    change w.tick.1.erm.templeEvent.activeEvent = none ∨ w.tick.1.erm.templeEvent.Flagged t
    rcases h with hnone | flags
    · have hevent : w.eventTickAt = (w, .none) := by
        simp only [TempleServer.eventTickAt, hnone]
      rw [tick_of_action hevent (by simp), (closeRooms_roomsOnly w).event]
      exact .inl hnone
    obtain ⟨-, -, heffect⟩ := ticks flags
    cases heffect with
    | idle tick _ =>
      rw [tick, (closeRooms_roomsOnly w).event]
      exact .inr flags
    | started o opts tick _ event =>
      rw [event]
      exact .inr ⟨flags.event, flags.reset, rfl, fun _ => rfl⟩
    | playing o opts tick _ event =>
      rw [event]
      exact .inr (attacked_flagged o flags).1
    | finished o opts tick phase manual due event =>
      obtain ⟨hflags, hactive, -⟩ := attacked_flagged o flags
      rw [event]
      exact .inr ⟨hflags.event, hflags.reset, hflags.begun, fun _ =>
        hactive.trans (flags.flags.2.1 phase).1⟩
    | closed o opts phase manual vacated unrewarded => exact .inl (by rw [vacated.event])
    | reset phase vacated unrewarded => exact .inl (by rw [vacated.event])
  · have hflags := (step_unmoved (t := t) w hi).1.flags
    rw [hflags.activeEvent]
    exact h.imp_right hflags.flagged

theorem chaos_grants (h : w.erm.templeEvent.activeEvent = none ∨
    w.erm.templeEvent.Flagged .chaosDungeon) (i : TempleStep) : (w.handle i).2 = [] := by
  by_cases hi : i = .tick
  · subst hi
    change w.tick.2 = []
    rcases h with hnone | flags
    · have hevent : w.eventTickAt = (w, .none) := by
        simp only [TempleServer.eventTickAt, hnone]
      rw [tick_of_action hevent (by simp)]
    obtain ⟨-, -, heffect⟩ := ticks flags
    cases heffect with
    | idle tick _ => rw [tick]
    | started o opts tick _ event => rw [tick]
    | playing o opts tick _ event => rw [tick]
    | finished o opts tick phase manual due event =>
      rw [tick]
      exact chaos_unrewarded w.present w.clock
        (rfl : (w.played .chaosDungeon o).1.erm.rooms =
          (w.attackTick o).erm.chaosDetermineAllWinners.1.rooms)
    | closed o opts phase manual vacated unrewarded => exact unrewarded
    | reset phase vacated unrewarded => exact unrewarded
  · exact handle_unrewarded hi

/-- Whatever happens, the dungeon rewards nobody. -/
theorem chaos_never_rewards (vroomOpts : ℕ → Option VroomOpt) (rewardTable present : ℕ → Bool)
    (params : EventOpenParams) (hchaos : params.eventType = .chaosDungeon) (start : ℕ)
    (steps : List TempleStep) :
    (Run.run RewardWorld.step (RewardWorld.opened
      (TempleServer.opened vroomOpts rewardTable present params start)) steps).granted = [] := by
  have hstart : (TempleServer.opened vroomOpts rewardTable present params
      start).erm.templeEvent.Flagged .chaosDungeon :=
    ⟨congrArg some hchaos, rfl, rfl, nofun⟩
  refine (Run.invariant (fun w : RewardWorld => w.granted = [] ∧
    (w.server.erm.templeEvent.activeEvent = none ∨
      w.server.erm.templeEvent.Flagged .chaosDungeon)) (fun w i h _ => ?_)
    (Run.along_true _ steps) ⟨rfl, .inr hstart⟩).1
  refine ⟨?_, step_flagged h.2 i⟩
  change w.granted ++ (w.server.handle i).2 = []
  rw [h.1, chaos_grants h.2]
  rfl

end

def onePlayer : List TempleStep := [.join 7 (signUpOf 60), .wait 601, .tick, .wait 901, .tick]

theorem rewarded_once_war :
    RewardedOnce .borderDefenceWar (Run.run RewardWorld.step
      (RewardWorld.opened (TempleServer.opened seedOpts (fun _ => true) (fun _ => true)
        (openingOf .borderDefenceWar ⟨10, 15, 0, 30, 20⟩) 1000)) onePlayer) := by
  refine rewarded_once seedOpts (fun _ => true) (fun _ => true)
    (openingOf .borderDefenceWar ⟨10, 15, 0, 30, 20⟩) 1000 onePlayer
    ⟨trivial, trivial, fun o hends => ?_, trivial, fun o hends => .inr ?_, trivial⟩
  · exact absurd hends.1 (by decide +kernel)
  · obtain rfl : (⟨10, 15, 0, 30, 20⟩ : VroomOpt) = o := Option.some.inj hends.2.1
    exact ⟨by decide +kernel, by decide, rfl, nofun⟩

def dungeonRooms : EventRoomManager :=
  (((TempleServer.opened seedOpts (fun _ => true) (fun _ => true)
    (openingOf .chaosDungeon ⟨10, 10, 0, 20, 20⟩) 1000).step
      (.join 7 (signUpOf 60))).erm.transitionToActive).createRooms .chaosDungeon DEFAULT_CHAOS_ROOMS

/-- In the dungeon he plays for nothing. -/
theorem dungeon_unrewarded :
    ¬ ∀ (vroomOpts : ℕ → Option VroomOpt) (rewardTable present : ℕ → Bool)
      (params : EventOpenParams) (start : ℕ) (steps : List TempleStep),
        RewardedOnce params.eventType (Run.run RewardWorld.step
          (RewardWorld.opened (TempleServer.opened vroomOpts rewardTable present params start))
          steps) := by
  intro h
  have honce := (h seedOpts (fun _ => true) (fun _ => true)
    (openingOf .chaosDungeon ⟨10, 10, 0, 20, 20⟩) 1000 onePlayer).once
  have hgranted := chaos_never_rewards seedOpts (fun _ => true) (fun _ => true)
    (openingOf .chaosDungeon ⟨10, 10, 0, 20, 20⟩) rfl 1000 onePlayer
  generalize hw : Run.run RewardWorld.step _ onePlayer = w at honce hgranted
  obtain ⟨rooms, hrooms⟩ : ∃ rooms, w.ended = some rooms :=
    Option.isSome_iff_exists.mp (hw ▸ by decide +kernel)
  have hleft : w.departed = [] := hw ▸ by decide +kernel
  obtain ⟨seat, hseat⟩ : ∃ seat, seat ∈ w.assigned := by
    refine List.exists_mem_of_length_pos ?_
    have hseats : w.assigned = (dungeonRooms.assignMixed .chaosDungeon).seats := hw ▸ rfl
    have hrooms : (dungeonRooms.assignMixed .chaosDungeon).rooms =
        fillMixedRooms (newRooms .chaosDungeon) [⟨['a'], 7, 1, 1⟩] := by
      have hnew : dungeonRooms.rooms = newRooms .chaosDungeon := by decide +kernel
      have hlisted : dungeonRooms.signedUpUsers = [⟨['a'], 7, 1, 1⟩] := by decide +kernel
      unfold EventRoomManager.assignMixed
      rw [if_neg (by simp [hlisted]), fillWith_rooms hnew, hlisted, List.mergeSort_singleton]
    rw [hseats, EventRoomManager.seats, EventRoomManager.cards, hrooms]
    decide
  obtain ⟨kind, hgrant, -⟩ := honce rooms hrooms seat hseat (by simp [hleft])
  simp [hgranted] at hgrant

end KoServer
