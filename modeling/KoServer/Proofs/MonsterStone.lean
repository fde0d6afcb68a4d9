import KoServer.Proofs.StoneRooms

/-! Who a stone gathers, and what runs of the Monster Stone rooms keep. The rooms stay apart as long
as an activation pulls nobody out of another room and is not left empty, and no other zone's cleanup
takes the room off a session that is listed. -/

namespace KoServer

/-- The members as `add_user` puts them into an empty list. -/
def enlisted (members : List ℕ) : List ℕ :=
  members.foldl (fun users m => if m ∈ users then users else users ++ [m]) []

theorem enlisted_spec (members : List ℕ) :
    (enlisted members).Nodup ∧ ∀ m, m ∈ enlisted members ↔ m ∈ members := by
  have hloop : ∀ (members users : List ℕ), users.Nodup →
      (members.foldl (fun users m => if m ∈ users then users else users ++ [m]) users).Nodup ∧
        ∀ m, m ∈ members.foldl (fun users m => if m ∈ users then users else users ++ [m]) users ↔
          m ∈ users ∨ m ∈ members := by
    intro members
    induction members with
    | nil => exact fun users husers => ⟨husers, by simp⟩
    | cons m members ih =>
      intro users husers
      rw [List.foldl_cons]
      split_ifs with hm
      · obtain ⟨hnodup, hmem⟩ := ih users husers
        refine ⟨hnodup, fun j => ?_⟩
        rw [hmem, List.mem_cons]
        refine or_congr_right' fun hj => (or_iff_right ?_).symm
        rintro rfl
        exact hj hm
      · obtain ⟨hnodup, hmem⟩ := ih (users ++ [m])
          (List.nodup_append.mpr ⟨husers, List.nodup_singleton m, fun a ha b hb hab =>
            hm (List.mem_singleton.mp hb ▸ hab ▸ ha)⟩)
        refine ⟨hnodup, fun j => ?_⟩
        rw [hmem, List.mem_append, List.mem_singleton, List.mem_cons, or_assoc]
  obtain ⟨hnodup, hmem⟩ := hloop members [] List.nodup_nil
  exact ⟨hnodup, fun m => (hmem m).trans (by simp)⟩

theorem foldl_addUser (i : ℕ) (members : List ℕ) (mgr : MonsterStoneManager) :
    (members.foldl (fun mgr m => mgr.addUser i m) mgr).rooms = mgr.rooms.modify i fun r =>
      { r with users :=
        members.foldl (fun users m => if m ∈ users then users else users ++ [m]) r.users } := by
  induction members generalizing mgr with
  | nil =>
    rw [List.foldl_nil]
    exact (List.modify_id i mgr.rooms).symm
  | cons m members ih =>
    rw [List.foldl_cons, ih]
    unfold MonsterStoneManager.addUser MonsterStoneManager.updateRoom
    dsimp only
    rw [List.modify_modify_eq]
    refine congrArg (fun f => mgr.rooms.modify i f) (funext fun r => ?_)
    simp only [Function.comp, List.foldl_cons]
    split_ifs
    · rfl
    · rfl

section

variable {env : StoneEnv} {w : StoneWorld} {sid : ℕ} {r : StoneRequest} {entry : StoneEntry}

theorem allocateRoom_spec (h : w.Kept) {i : ℕ} (hi : w.manager.allocateRoom = some i) :
    ∃ room, w.manager.rooms[i]? = some room ∧ room.isAvailable = true := by
  obtain ⟨room, hfind, rfl⟩ := Option.map_eq_some_iff.mp hi
  exact ⟨room, h.get_of_mem (List.mem_of_find?_eq_some hfind), List.find?_some hfind⟩

theorem universalStone_zone (level roll : ℕ) : ∀ place,
    universalStoneZoneFamily level roll = some place → isMonsterStoneZone place.1 = true := by
  have hpick : ∀ (c : Prop) [Decidable c] {a b : Option (ℕ × ℕ)},
      (∀ place, a = some place → isMonsterStoneZone place.1 = true) →
      (∀ place, b = some place → isMonsterStoneZone place.1 = true) →
      ∀ place, (if c then a else b) = some place → isMonsterStoneZone place.1 = true := by
    intro c _ a b ha hb place
    split_ifs
    · exact ha place
    · exact hb place
  unfold universalStoneZoneFamily
  dsimp only
  refine hpick _ nofun ?_
  repeat' refine hpick _ ?_ ?_
  all_goals
    intro place hplace
    obtain rfl := Option.some.inj hplace
    dsimp only
    first
    | rfl
    | split_ifs
      · rfl
      · rfl

theorem zoneFamily_stone {itemId level roll zoneId family : ℕ}
    (h : env.zoneFamily itemId level roll = some (zoneId, family)) :
    isMonsterStoneZone zoneId = true := by
  unfold StoneEnv.zoneFamily at h
  split_ifs at h
  · obtain ⟨z, hz, heq⟩ := Option.map_eq_some_iff.mp h
    obtain rfl := congrArg Prod.fst heq
    unfold itemToZone at hz
    split_ifs at hz
    all_goals
      obtain rfl := Option.some.inj hz
      rfl
  · exact universalStone_zone level roll _ h

theorem stoneEntry_spec (h : w.stoneEntry env sid r = some entry) :
    (∃ u, w.sessions sid = some u) ∧ w.manager.allocateRoom = some entry.roomId ∧
      isMonsterStoneZone entry.zoneId = true := by
  unfold StoneWorld.stoneEntry at h
  cases hu : w.sessions sid with
  | none =>
    rw [hu] at h
    cases h
  | some u =>
    rw [hu] at h
    dsimp only at h
    split_ifs at h
    cases hroom : w.manager.allocateRoom with
    | none =>
      rw [hroom] at h
      cases h
    | some i =>
      rw [hroom] at h
      dsimp only at h
      cases hzone : env.zoneFamily r.itemId u.level r.roll with
      | none =>
        rw [hzone] at h
        cases h
      | some place =>
        obtain ⟨zoneId, family⟩ := place
        rw [hzone] at h
        dsimp only at h
        split_ifs at h
        obtain ⟨inv, -, rfl⟩ := Option.map_eq_some_iff.mp h
        exact ⟨⟨u, rfl⟩, rfl, zoneFamily_stone hzone⟩

end

/-- An activation that passes its checks gathers somebody, nobody of them has a room, and the warp
of its owner does not take the new one from him again. -/
def StoneWorld.Gathers (env : StoneEnv) (w : StoneWorld) (sid : ℕ) (r : StoneRequest) : Prop :=
  ∀ entry, w.stoneEntry env sid r = some entry →
    let members := w.eligibleMembers sid r.party
    members ≠ [] ∧ (∀ m ∈ members, ∀ u, w.sessions m = some u → u.eventRoom = 0) ∧
      (sid ∈ members → r.admitted = true → ∀ u, w.sessions sid = some u → ¬u.Forgets entry.zoneId)

section

variable {env : StoneEnv} {w : StoneWorld} {sid : ℕ} {r : StoneRequest} {entry : StoneEntry}

theorem eligibleMembers_some (hsid : ∃ u, w.sessions sid = some u) {party : Option (List ℕ)} {m : ℕ}
    (hm : m ∈ w.eligibleMembers sid party) : (w.sessions m).isSome = true := by
  cases party with
  | none =>
    obtain rfl := List.mem_singleton.mp hm
    obtain ⟨u, hu⟩ := hsid
    rw [hu]
    rfl
  | some members =>
    have helig := (List.mem_filter.mp hm).2
    unfold StoneWorld.isEligible at helig
    cases hu : w.sessions m with
    | none =>
      rw [hu] at helig
      cases helig
    | some u => rfl

/-- Where the stone is taken from does not matter to who comes along. -/
theorem eligibleMembers_robbed (sid : ℕ) (inv : Inventory) (party : Option (List ℕ)) :
    (w.updateUser sid fun u => { u with inventory := inv }).eligibleMembers sid party =
      w.eligibleMembers sid party := by
  cases party with
  | none => rfl
  | some members =>
    refine List.filter_congr fun m _ => ?_
    unfold StoneWorld.isEligible StoneWorld.updateUser
    dsimp only
    by_cases hm : m = sid
    · subst hm
      rw [Function.update_self]
      cases w.sessions m with
      | none => rfl
      | some u => rfl
    · rw [Function.update_of_ne hm]

theorem warps_same {members : List ℕ} {dest : ℕ} {admitted : Bool}
    (hstone : isMonsterStoneZone dest = true)
    (hsafe : sid ∈ members → admitted = true → ∀ u, w.sessions sid = some u → ¬u.Forgets dest) :
    SameStones w (members.foldl (fun w m =>
      if m = sid then w.triggerZoneChange sid dest admitted else w.serverTeleportToZone m dest) w) := by
  refine (List.foldlRecOn (motive := fun w' => SameStones w w' ∧ (sid ∈ members → admitted = true →
    ∀ u, w'.sessions sid = some u → ¬u.Forgets dest)) members _ ⟨SameStones.refl w, hsafe⟩
    fun w' hw' m hm => ?_).1
  obtain ⟨hsame, hsafe'⟩ := hw'
  split_ifs with hself
  · subst hself
    refine ⟨hsame.trans (trigger_same (fun _ _ _ => .inl hstone) fun u hu hadm _ =>
      hsafe' hm hadm u hu), fun _ hadm u hu hforgets => ?_⟩
    unfold StoneWorld.triggerZoneChange at hu
    cases hv : w'.sessions m with
    | none =>
      rw [hv] at hu
      exact hsafe' hm hadm u hu hforgets
    | some v =>
      rw [hv] at hu
      dsimp only at hu
      split_ifs at hu
      · exact hsafe' hm hadm u hu hforgets
      all_goals
        -- who has arrived does not warp again
        unfold StoneWorld.serverTeleportToZone StoneWorld.updateUser at hu
        dsimp only at hu
        rw [Function.update_self] at hu
        obtain ⟨v', -, rfl⟩ := Option.map_eq_some_iff.mp hu
        exact hforgets.1 rfl
  · refine ⟨hsame.trans (serverTeleport_same w' m dest), fun hmem hadm u hu => ?_⟩
    refine hsafe' hmem hadm u ?_
    unfold StoneWorld.serverTeleportToZone StoneWorld.updateUser at hu
    dsimp only at hu
    rwa [Function.update_of_ne (Ne.symm hself)] at hu

theorem assigned_session {members : List ℕ} {i : ℕ} {w' : StoneWorld} {v : StoneUser}
    (hv : (members.foldl (fun w m => w.updateUser m fun u =>
      { u with eventRoom := i, monsterStoneStatus := true }) w').sessions sid = some v) :
    ∃ u, w'.sessions sid = some u ∧ v.zoneId = u.zoneId ∧ v.joinedEvent = u.joinedEvent ∧
      v.drakiRoomId = u.drakiRoomId := by
  induction members generalizing w' with
  | nil => exact ⟨v, hv, rfl, rfl, rfl⟩
  | cons m members ih =>
    obtain ⟨u, hu, hzone, hjoined, hdraki⟩ := ih hv
    unfold StoneWorld.updateUser at hu
    dsimp only at hu
    by_cases hm : sid = m
    · subst hm
      rw [Function.update_self] at hu
      obtain ⟨u', hu', rfl⟩ := Option.map_eq_some_iff.mp hu
      exact ⟨u', hu', hzone, hjoined, hdraki⟩
    · rw [Function.update_of_ne hm] at hu
      exact ⟨u, hu, hzone, hjoined, hdraki⟩

theorem enterRoom_kept (h : w.Kept) {members : List ℕ} {room : MonsterStoneRoom}
    (hroom : w.manager.rooms[entry.roomId]? = some room) (havail : room.isAvailable = true)
    (hstone : isMonsterStoneZone entry.zoneId = true) (hne : members ≠ [])
    (hsome : ∀ m ∈ members, (w.sessions m).isSome = true)
    (hfree : ∀ m ∈ members, ∀ u, w.sessions m = some u → u.eventRoom = 0)
    (hsafe : sid ∈ members → r.admitted = true →
      ∀ u, w.sessions sid = some u → ¬u.Forgets entry.zoneId) :
    (w.enterRoom sid r entry members).Kept := by
  unfold StoneWorld.enterRoom
  refine SameStones.kept (warps_same hstone fun hmem hadm v hv => ?_) ?_
  · obtain ⟨u, hu, hzone, hjoined, hdraki⟩ := assigned_session hv
    have hsafe := hsafe hmem hadm u hu
    unfold StoneUser.Forgets at hsafe ⊢
    rw [hzone, hjoined, hdraki]
    exact hsafe
  · obtain ⟨hmanager, hpass⟩ := foldl_assign (c := (entry.roomId + 1, true))
      (g := fun w m => w.updateUser m fun u =>
        { u with eventRoom := entry.roomId + 1, monsterStoneStatus := true })
      (fun w m => ⟨rfl, pass_assign w m fun _ => ⟨rfl, rfl⟩⟩) members
      { w with
        manager := members.foldl (fun mgr m => mgr.addUser entry.roomId m)
          (w.manager.activateRoom entry.roomId entry.zoneId entry.family entry.startZoneId r.now) }
    obtain ⟨hnodup, hmem⟩ := enlisted_spec members
    have hempty : room.users = [] := by
      simp only [MonsterStoneRoom.isAvailable, Bool.and_eq_true, List.isEmpty_iff] at havail
      exact havail.2
    have htaken := h.take hroom havail (f := fun room =>
        { (if room.isAvailable then
            room.activate entry.zoneId entry.family entry.startZoneId r.now else room) with
          users := members.foldl (fun users m => if m ∈ users then users else users ++ [m])
            (if room.isAvailable then
              room.activate entry.zoneId entry.family entry.startZoneId r.now else room).users })
      (l := enlisted members) (fun room => by split_ifs <;> rfl) (by rw [if_pos havail]; rfl)
      (by
        rw [if_pos havail]
        exact congrArg (fun users => members.foldl _ users) hempty)
      (fun hnil => by
        obtain ⟨m, hm⟩ := List.exists_mem_of_ne_nil _ hne
        exact List.not_mem_nil (hnil ▸ (hmem m).mpr hm))
      hnodup
      (fun m hm => by simpa [StoneWorld.pass] using hsome m ((hmem m).mp hm))
      (fun m hm => by
        rw [passRoom_eq_none]
        intro p hp
        obtain ⟨u, hu, rfl⟩ := Option.map_eq_some_iff.mp hp
        exact hfree m ((hmem m).mp hm) u hu)
    unfold StoneWorld.Kept
    rw [hmanager, hpass, foldl_addUser]
    simp only [hmem] at htaken
    unfold MonsterStoneManager.activateRoom MonsterStoneManager.updateRoom
    dsimp only
    rw [List.modify_modify_eq]
    exact htaken

theorem handleMonsterStone_kept (h : w.Kept) (hok : w.Gathers env sid r) :
    (w.handleMonsterStone env sid r).Kept := by
  unfold StoneWorld.handleMonsterStone
  cases hentry : w.stoneEntry env sid r with
  | none => exact h
  | some entry =>
    obtain ⟨⟨u, hu⟩, hroom, hstone⟩ := stoneEntry_spec hentry
    obtain ⟨room, hget, havail⟩ := allocateRoom_spec h hroom
    obtain ⟨hne, hfree, hsafe⟩ := hok entry hentry
    have hrobbed : SameStones w (w.updateUser sid fun u => { u with inventory := entry.inventory }) :=
      sameStones_updateUser fun _ _ => ⟨rfl, rfl⟩
    have hsession : ∀ m v, (w.updateUser sid fun u =>
        { u with inventory := entry.inventory }).sessions m = some v →
        ∃ u, w.sessions m = some u ∧ v.eventRoom = u.eventRoom ∧ v.zoneId = u.zoneId ∧
          v.joinedEvent = u.joinedEvent ∧ v.drakiRoomId = u.drakiRoomId := by
      intro m v hv
      unfold StoneWorld.updateUser at hv
      dsimp only at hv
      by_cases hm : m = sid
      · subst hm
        rw [Function.update_self] at hv
        obtain ⟨u, hu, rfl⟩ := Option.map_eq_some_iff.mp hv
        exact ⟨u, hu, rfl, rfl, rfl, rfl⟩
      · rw [Function.update_of_ne hm] at hv
        exact ⟨v, hv, rfl, rfl, rfl, rfl⟩
    dsimp only
    rw [eligibleMembers_robbed]
    refine enterRoom_kept (hrobbed.kept h) (by rw [hrobbed.manager]; exact hget) havail hstone hne
      (fun m hm => ?_) (fun m hm v hv => ?_) fun hmem hadm v hv => ?_
    · have hlive := eligibleMembers_some ⟨u, hu⟩ hm
      by_cases hself : m = sid
      · subst hself
        simp [StoneWorld.updateUser, hu]
      · simpa [StoneWorld.updateUser, hself] using hlive
    · obtain ⟨u', hu', hroom', -⟩ := hsession m v hv
      exact hroom'.trans (hfree m hm u' hu')
    · obtain ⟨u', hu', -, hzone, hjoined, hdraki⟩ := hsession sid v hv
      have hsafe := hsafe hmem hadm u' hu'
      unfold StoneUser.Forgets at hsafe ⊢
      rw [hzone, hjoined, hdraki]
      exact hsafe

theorem trigger_manager {dest : ℕ} {admitted : Bool} (hstone : isMonsterStoneZone dest = true) :
    (w.triggerZoneChange sid dest admitted).manager = w.manager := by
  unfold StoneWorld.triggerZoneChange
  cases w.sessions sid with
  | none => rfl
  | some u =>
    dsimp only
    split_ifs with _ hexit
    · rfl
    · simp [hstone] at hexit
    · rfl

theorem handleMonsterStone_untouched (h : w.Kept) {i : ℕ} {room : MonsterStoneRoom}
    (hget : w.manager.getRoom i = some room) (hactive : room.active = true) :
    (w.handleMonsterStone env sid r).manager.getRoom i = some room := by
  unfold StoneWorld.handleMonsterStone
  cases hentry : w.stoneEntry env sid r with
  | none => exact hget
  | some entry =>
    obtain ⟨-, hroom, hstone⟩ := stoneEntry_spec hentry
    obtain ⟨free, hfree, havail⟩ := allocateRoom_spec h hroom
    have hne : entry.roomId ≠ i := by
      rintro rfl
      obtain rfl := Option.some.inj (hget.symm.trans hfree)
      simp [MonsterStoneRoom.isAvailable, hactive] at havail
    dsimp only
    unfold StoneWorld.enterRoom
    generalize StoneWorld.eligibleMembers _ sid r.party = members
    have hassign : ∀ (l : List ℕ) (w : StoneWorld), (l.foldl (fun w m => w.updateUser m fun u =>
        { u with eventRoom := entry.roomId + 1, monsterStoneStatus := true }) w).manager =
          w.manager := fun l w =>
      List.foldlRecOn (motive := fun w' : StoneWorld => w'.manager = w.manager) l _ rfl fun _ hw _ _ => hw
    have hwarp : ∀ (l : List ℕ) (w : StoneWorld), (l.foldl (fun w m =>
        if m = sid then w.triggerZoneChange sid entry.zoneId r.admitted
        else w.serverTeleportToZone m entry.zoneId) w).manager = w.manager := by
      refine fun l w => List.foldlRecOn (motive := fun w' : StoneWorld => w'.manager = w.manager) l _ rfl
        fun w' hw m _ => ?_
      split_ifs
      · exact (trigger_manager hstone).trans hw
      · exact hw
    rw [MonsterStoneManager.getRoom, hwarp, hassign, foldl_addUser, List.getElem?_modify_ne _ _ hne]
    unfold MonsterStoneManager.activateRoom MonsterStoneManager.updateRoom
    exact (List.getElem?_modify_ne _ _ hne).trans hget

end

/-- Nobody is in two rooms, the lists and the sessions agree, and no active room is empty. -/
structure StoneIsolated (w : StoneWorld) : Prop where
  single : ∀ (sid i j : ℕ) (r r' : MonsterStoneRoom), w.manager.getRoom i = some r →
    w.manager.getRoom j = some r' → sid ∈ r.users → sid ∈ r'.users → i = j
  member : ∀ sid i, (∃ u, w.sessions sid = some u ∧ u.eventRoom = i + 1 ∧
    u.monsterStoneStatus = true) ↔
      ∃ r, w.manager.getRoom i = some r ∧ r.active = true ∧ sid ∈ r.users
  inhabited : ∀ i r, w.manager.getRoom i = some r → r.active = true → r.users ≠ []

def StoneWorld.Untouched (env : StoneEnv) (w : StoneWorld) : StoneStep → Prop
  | .activate sid r => ∀ i room, w.manager.getRoom i = some room → room.active = true →
    (w.step env (.activate sid r)).manager.getRoom i = some room
  | _ => True

/-- What a step may not do: gather somebody who has a room, or nobody; or take the room off a session
by the cleanup of another zone. -/
def StoneWorld.Isolates (env : StoneEnv) (w : StoneWorld) : StoneStep → Prop
  | .activate sid r => w.Gathers env sid r
  | .zoneChange sid dest admitted => ∀ u, w.sessions sid = some u → admitted = true →
    0 < u.eventRoom → ¬u.Forgets dest
  | _ => True

section

variable {env : StoneEnv} {w : StoneWorld}

theorem StoneWorld.Kept.isolated (h : w.Kept) : StoneIsolated w where
  single := fun sid i j r r' hr hr' hsid hsid' =>
    Option.some.inj ((h.room_of_mem hr hsid).symm.trans (h.room_of_mem hr' hsid'))
  member := fun sid i => by
    constructor
    · rintro ⟨u, hu, hroom, -⟩
      have hpass : passRoom w.pass sid = some i :=
        passRoom_eq_some.mpr ⟨(u.eventRoom, u.monsterStoneStatus), by
          rw [StoneWorld.pass, hu, Option.map_some], hroom⟩
      obtain ⟨r, hr, hmem⟩ := h.mem_of_room hpass
      exact ⟨r, hr, (h.live r (List.mem_of_getElem? hr) List.not_mem_nil).mpr
        (List.ne_nil_of_mem hmem), hmem⟩
    · rintro ⟨r, hr, -, hmem⟩
      obtain ⟨p, hp, hroom⟩ := passRoom_eq_some.mp (h.room_of_mem hr hmem)
      have hstatus := h.status sid p hp (by omega)
      obtain ⟨u, hu, rfl⟩ := Option.map_eq_some_iff.mp hp
      exact ⟨u, hu, hroom, hstatus⟩
  inhabited := fun i r hr => (h.live r (List.mem_of_getElem? hr) List.not_mem_nil).mp

theorem newRooms_kept (count : ℕ) :
    StoneKept [] ((List.range count).map fun id => { roomId := id }) fun _ => none where
  agree := by
    have hlists : roomList ((List.range count).map fun id => { roomId := id }) = fun _ => none := by
      funext i
      rw [roomList, List.getElem?_map, Option.bind_map]
      cases (List.range count)[i]? with
      | none => rfl
      | some id => rfl
    rw [hlists]
    constructor
    · simp [passRoom]
    · simp
  status := by simp
  ids := fun i r hr => by
    rw [List.getElem?_map] at hr
    obtain ⟨id, hid, rfl⟩ := Option.map_eq_some_iff.mp hr
    obtain ⟨hlt, hid⟩ := List.getElem?_eq_some_iff.mp hid
    exact hid.symm.trans (List.getElem_range hlt)
  live := fun r hr _ => by
    obtain ⟨id, -, rfl⟩ := List.mem_map.mp hr
    simp

theorem start_kept : StoneWorld.start.Kept := by
  unfold StoneWorld.Kept StoneWorld.start MonsterStoneManager.new
  generalize STONE_MAX_ROOMS = count
  exact newRooms_kept count

theorem stone_step_kept (h : w.Kept) (i : StoneStep) (hok : w.Isolates env i) :
    (w.step env i).Kept := by
  cases i with
  | enterGame sid u =>
    unfold StoneWorld.step
    dsimp only
    split_ifs with hknown
    · exact h
    · have hnew : w.sessions sid = none := by simpa using hknown
      have hroom : passRoom w.pass sid = none :=
        passRoom_eq_none.mpr fun p hp => by simp [StoneWorld.pass, hnew] at hp
      have hpass : ({ w with
          sessions := Function.update w.sessions sid
            (some { u with eventRoom := 0, monsterStoneStatus := false }) } : StoneWorld).pass =
            Function.update w.pass sid (some (0, false)) := by
        funext j
        unfold StoneWorld.pass
        by_cases hj : j = sid
        · subst hj
          simp
        · simp [hj]
      unfold StoneWorld.Kept
      rw [hpass]
      exact h.free hroom fun p hp => by rw [← Option.some.inj hp]
  | changed sid u =>
    have hsame : SameStones w (w.step env (.changed sid u)) :=
      sameStones_updateUser fun _ _ => ⟨rfl, rfl⟩
    exact hsame.kept h
  | activate sid r => exact handleMonsterStone_kept h hok
  | bossKill eventRoom now => exact bossKill_kept h eventRoom now
  | tick now => exact stoneTick_kept h now
  | zoneChange sid dest admitted => exact trigger_kept h hok
  | logout sid => exact disconnect_kept h sid
  | disconnect sid => exact disconnect_kept h sid

/-- In every run whose steps meet the condition the rooms stay apart, in every state of it. -/
theorem stone_rooms_isolated (env : StoneEnv) (steps : List StoneStep)
    (hok : Run.Along (StoneWorld.step env) (StoneWorld.Isolates env) StoneWorld.start steps) :
    StoneIsolated (Run.run (StoneWorld.step env) StoneWorld.start steps) ∧
      Run.Along (StoneWorld.step env) (StoneWorld.Untouched env) StoneWorld.start steps := by
  refine ⟨(Run.invariant StoneWorld.Kept (fun w i h hi => stone_step_kept h i hi) hok
    start_kept).isolated, ?_⟩
  refine Run.along_of_invariant StoneWorld.Kept (fun w i h hi => ⟨stone_step_kept h i hi, ?_⟩) hok
    start_kept
  cases i with
  | activate sid r => exact fun i room hget hactive => handleMonsterStone_untouched h hget hactive
  | _ => trivial

end

def stoneHolder (merchanting : Bool) : StoneUser where
  zoneId := ZONE_MORADON
  level := 60
  hp := 100
  maxHp := 100
  merchanting := merchanting
  inventory := Inventory.padded
    (List.replicate SLOT_MAX {} ++ [{ itemId := ITEM_UNIVERSAL, count := 5 }])

def universalMode : StoneEnv where
  table := fun _ => none
  monsterstoneStatus := true
  newMonsterstone := 0
  hasSpawns := fun _ _ => true

def universalStone (party : Option (List ℕ)) : StoneRequest where
  itemId := ITEM_UNIVERSAL
  party := party
  roll := 0
  admitted := true
  now := 1000

def soloRun : List StoneStep :=
  [.enterGame 1 (stoneHolder false), .enterGame 2 (stoneHolder false),
    .activate 1 (universalStone none), .tick 1001, .logout 1]

theorem stone_rooms_isolated_solo :
    StoneIsolated (Run.run (StoneWorld.step universalMode) StoneWorld.start soloRun) := by
  refine (stone_rooms_isolated universalMode soloRun
    ⟨trivial, trivial, fun entry _ => ?_, trivial, trivial, trivial⟩).1
  refine ⟨List.cons_ne_nil 1 [], fun m hm u hu => ?_, fun _ _ u hu hforgets => ?_⟩
  · obtain rfl := List.mem_singleton.mp hm
    obtain rfl : stoneHolder false = u := Option.some.inj hu
    rfl
  · obtain rfl : stoneHolder false = u := Option.some.inj hu
    rcases hforgets.2 with hzone | hzone | hzone | hzone
    · exact absurd hzone (by decide)
    · exact absurd hzone.1 (by decide)
    · exact absurd hzone.1 (by decide)
    · exact absurd hzone.1 (by decide)

/-- Three are in a party. The third keeps a shop when the first takes the second along, and takes
the second out of that room later. -/
theorem stone_pulls_member :
    ¬ ∀ (env : StoneEnv) (steps : List StoneStep),
      StoneIsolated (Run.run (StoneWorld.step env) StoneWorld.start steps) ∧
        Run.Along (StoneWorld.step env) (StoneWorld.Untouched env) StoneWorld.start steps := by
  intro h
  obtain ⟨hisolated, -⟩ := h universalMode
    [.enterGame 1 (stoneHolder false), .enterGame 2 (stoneHolder false),
      .enterGame 3 (stoneHolder true), .activate 1 (universalStone (some [1, 2, 3])),
      .changed 3 (stoneHolder false), .activate 3 (universalStone (some [2, 3]))]
  generalize hw : Run.run _ StoneWorld.start _ = w at hisolated
  have hfirst : (w.manager.getRoom 0).map (·.users) = some [1, 2] := hw ▸ by decide +kernel
  have hsecond : (w.manager.getRoom 1).map (·.users) = some [2, 3] := hw ▸ by decide +kernel
  obtain ⟨r, hr, husers⟩ := Option.map_eq_some_iff.mp hfirst
  obtain ⟨r', hr', husers'⟩ := Option.map_eq_some_iff.mp hsecond
  have hsame := hisolated.single 2 0 1 r r' hr hr' (by simp [husers]) (by simp [husers'])
  cases hsame

end KoServer
