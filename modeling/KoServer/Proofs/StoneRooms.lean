import KoServer.Lib.Grouping
import KoServer.Lib.Run
import KoServer.Spec.MonsterStone

/-! Who is in a Monster Stone room is kept twice, in the list of the room and on the session: what
the timer, the exits and the warps do to both. -/

namespace KoServer

def StoneWorld.pass (w : StoneWorld) (sid : ℕ) : Option (ℕ × Bool) :=
  (w.sessions sid).map fun u => (u.eventRoom, u.monsterStoneStatus)

def passRoom (pass : ℕ → Option (ℕ × Bool)) (sid : ℕ) : Option ℕ :=
  (pass sid).bind fun p => if p.1 = 0 then none else some (p.1 - 1)

def roomList (rooms : List MonsterStoneRoom) (i : ℕ) : Option (List ℕ) :=
  rooms[i]?.bind fun r => if r.users = [] then none else some r.users

structure StoneKept (pending : List ℕ) (rooms : List MonsterStoneRoom)
    (pass : ℕ → Option (ℕ × Bool)) : Prop where
  agree : Grouping.Agree (passRoom pass) (roomList rooms)
  status : ∀ sid p, pass sid = some p → p.1 ≠ 0 → p.2 = true
  ids : ∀ (i : ℕ) r, rooms[i]? = some r → r.roomId = i
  live : ∀ r ∈ rooms, r.roomId ∉ pending → (r.active = true ↔ r.users ≠ [])

section

variable {pending : List ℕ} {rooms : List MonsterStoneRoom} {pass : ℕ → Option (ℕ × Bool)}
  {i sid : ℕ} {r : MonsterStoneRoom}

theorem StoneKept.get_of_mem (h : StoneKept pending rooms pass) (hr : r ∈ rooms) :
    rooms[r.roomId]? = some r := by
  obtain ⟨j, hj⟩ := List.mem_iff_getElem?.mp hr
  rw [h.ids j r hj]
  exact hj

theorem passRoom_eq_none : passRoom pass sid = none ↔ ∀ p, pass sid = some p → p.1 = 0 := by
  unfold passRoom
  cases pass sid with
  | none => simp
  | some p => simp

theorem passRoom_eq_some : passRoom pass sid = some i ↔ ∃ p, pass sid = some p ∧ p.1 = i + 1 := by
  unfold passRoom
  cases pass sid with
  | none => simp
  | some p =>
    simp only [Option.bind_some, Option.some.injEq, exists_eq_left']
    split_ifs with hp
    · simp [hp]
    · rw [Option.some.injEq]
      omega

theorem StoneKept.room_of_mem (h : StoneKept pending rooms pass) (hr : rooms[i]? = some r)
    (hsid : sid ∈ r.users) : passRoom pass sid = some i := by
  refine h.agree.of_mem (l := r.users) ?_ hsid
  rw [roomList, hr, Option.bind_some, if_neg (List.ne_nil_of_mem hsid)]

theorem StoneKept.mem_of_room (h : StoneKept pending rooms pass) (hsid : passRoom pass sid = some i) :
    ∃ r, rooms[i]? = some r ∧ sid ∈ r.users := by
  obtain ⟨l, hl, hmem⟩ := (h.agree.iff sid i).mp hsid
  obtain ⟨r, hr, hl⟩ := Option.bind_eq_some_iff.mp hl
  split_ifs at hl
  exact ⟨r, hr, Option.some.inj hl ▸ hmem⟩

theorem StoneKept.weaken (h : StoneKept [] rooms pass) (pending : List ℕ) :
    StoneKept pending rooms pass :=
  { h with live := fun r hr _ => h.live r hr List.not_mem_nil }

theorem roomList_modify (f : MonsterStoneRoom → MonsterStoneRoom) (hr : rooms[i]? = some r) :
    roomList (rooms.modify i f) =
      Function.update (roomList rooms) i (if (f r).users = [] then none else some (f r).users) := by
  funext j
  by_cases hj : j = i
  · subst hj
    rw [Function.update_self, roomList, List.getElem?_modify_eq, hr]
    rfl
  · rw [Function.update_of_ne hj, roomList, List.getElem?_modify_ne _ _ (Ne.symm hj)]
    rfl

theorem mem_modify {f : MonsterStoneRoom → MonsterStoneRoom} {r' : MonsterStoneRoom}
    (hr : rooms[i]? = some r) (hr' : r' ∈ rooms.modify i f) : r' = f r ∨ r' ∈ rooms := by
  obtain ⟨j, hj⟩ := List.mem_iff_getElem?.mp hr'
  by_cases hij : i = j
  · subst hij
    rw [List.getElem?_modify_eq, hr] at hj
    exact .inl (Option.some.inj hj).symm
  · rw [List.getElem?_modify_ne _ _ hij] at hj
    exact .inr (List.mem_of_getElem? hj)

theorem ids_modify {f : MonsterStoneRoom → MonsterStoneRoom} (hf : ∀ r, (f r).roomId = r.roomId)
    (h : ∀ (i : ℕ) r, rooms[i]? = some r → r.roomId = i) (j : ℕ) (r' : MonsterStoneRoom)
    (hr' : (rooms.modify i f)[j]? = some r') : r'.roomId = j := by
  rw [List.getElem?_modify] at hr'
  obtain ⟨r, hr, rfl⟩ := Option.map_eq_some_iff.mp hr'
  split_ifs
  · rw [hf]
    exact h j r hr
  · exact h j r hr

theorem StoneKept.modify (h : StoneKept pending rooms pass)
    {f : MonsterStoneRoom → MonsterStoneRoom} (hf : ∀ r, (f r).roomId = r.roomId ∧
      (f r).active = r.active ∧ (f r).users = r.users) :
    StoneKept pending (rooms.modify i f) pass where
  agree := by
    have hlists : roomList (rooms.modify i f) = roomList rooms := by
      cases hr : rooms[i]? with
      | none => rw [List.modify_eq_self (List.getElem?_eq_none_iff.mp hr)]
      | some r =>
        rw [roomList_modify f hr, (hf r).2.2]
        refine Function.update_eq_self_iff.mpr ?_
        rw [roomList, hr, Option.bind_some]
    exact hlists ▸ h.agree
  status := h.status
  ids := ids_modify (fun r => (hf r).1) h.ids
  live := fun r' hr' hpending => by
    obtain ⟨j, hj⟩ := List.mem_iff_getElem?.mp hr'
    rw [List.getElem?_modify] at hj
    obtain ⟨r, hr, rfl⟩ := Option.map_eq_some_iff.mp hj
    split_ifs at hpending ⊢
    · obtain ⟨hid, hactive, husers⟩ := hf r
      rw [hactive, husers]
      exact h.live r (List.mem_of_getElem? hr) (hid ▸ hpending)
    · exact h.live r (List.mem_of_getElem? hr) hpending

theorem StoneKept.clear (h : StoneKept (i :: pending) rooms pass) (hr : rooms[i]? = some r) :
    StoneKept pending (rooms.modify i (·.reset))
      (fun sid => if sid ∈ r.users then (pass sid).map fun _ => (0, false) else pass sid) where
  agree := by
    rw [roomList_modify _ hr]
    change Grouping.Agree _ (Function.update (roomList rooms) i none)
    by_cases hnobody : r.users = []
    · have hsame : Function.update (roomList rooms) i none = roomList rooms := by
        refine Function.update_eq_self_iff.mpr ?_
        rw [roomList, hr, Option.bind_some, if_pos hnobody]
      rw [hsame, hnobody]
      simpa using h.agree
    · have hlist : roomList rooms i = some r.users := by
        rw [roomList, hr, Option.bind_some, if_neg hnobody]
      have hgone : passRoom (fun sid => if sid ∈ r.users then (pass sid).map fun _ => (0, false)
          else pass sid) = fun sid => if sid ∈ r.users then none else passRoom pass sid := by
        funext sid
        unfold passRoom
        dsimp only
        split_ifs with hsid
        · cases pass sid with
          | none => rfl
          | some p => rfl
        · rfl
      rw [hgone]
      exact h.agree.dissolve hlist
  status := fun sid p hp hne => by
    split_ifs at hp with hsid
    · obtain ⟨q, -, rfl⟩ := Option.map_eq_some_iff.mp hp
      exact absurd rfl hne
    · exact h.status sid p hp hne
  ids := ids_modify (fun _ => rfl) h.ids
  live := fun r' hr' hpending => by
    rcases mem_modify hr hr' with rfl | hmem
    · simp [MonsterStoneRoom.reset]
    · by_cases hid : r'.roomId = i
      · -- the room itself is in the list only as reset
        obtain ⟨j, hj⟩ := List.mem_iff_getElem?.mp hr'
        have hji : j = i :=
          (ids_modify (f := MonsterStoneRoom.reset) (fun _ => rfl) h.ids j r' hj).symm.trans hid
        rw [hji, List.getElem?_modify_eq, hr] at hj
        obtain rfl := Option.some.inj hj
        simp [MonsterStoneRoom.reset]
      · exact h.live r' hmem (by simp [hid, hpending])

theorem StoneKept.take (h : StoneKept [] rooms pass) (hr : rooms[i]? = some r)
    (havail : r.isAvailable = true) {f : MonsterStoneRoom → MonsterStoneRoom} {l : List ℕ}
    (hid : ∀ r, (f r).roomId = r.roomId) (hactive : (f r).active = true) (husers : (f r).users = l)
    (hne : l ≠ []) (hnodup : l.Nodup) (hl : ∀ sid ∈ l, (pass sid).isSome = true)
    (hfree : ∀ sid ∈ l, passRoom pass sid = none) :
    StoneKept [] (rooms.modify i f)
      (fun sid => if sid ∈ l then (pass sid).map fun _ => (i + 1, true) else pass sid) where
  agree := by
    have hempty : r.users = [] := by
      simp only [MonsterStoneRoom.isAvailable, Bool.and_eq_true, List.isEmpty_iff] at havail
      exact havail.2
    have hnone : roomList rooms i = none := by
      rw [roomList, hr, Option.bind_some, if_pos hempty]
    have hcome : passRoom (fun sid => if sid ∈ l then (pass sid).map fun _ => (i + 1, true)
        else pass sid) = fun sid => if sid ∈ l then some i else passRoom pass sid := by
      funext sid
      unfold passRoom
      dsimp only
      split_ifs with hsid
      · obtain ⟨p, hp⟩ := Option.isSome_iff_exists.mp (hl sid hsid)
        simp [hp]
      · rfl
    rw [roomList_modify f hr, husers, if_neg hne, hcome]
    exact h.agree.found hnone hnodup hfree
  status := fun sid p hp hp0 => by
    split_ifs at hp with hsid
    · obtain ⟨q, -, rfl⟩ := Option.map_eq_some_iff.mp hp
      rfl
    · exact h.status sid p hp hp0
  ids := ids_modify hid h.ids
  live := fun r' hr' _ => by
    rcases mem_modify hr hr' with rfl | hmem
    · rw [husers]
      exact iff_of_true hactive hne
    · exact h.live r' hmem List.not_mem_nil

theorem StoneKept.free (h : StoneKept pending rooms pass) (hsid : passRoom pass sid = none)
    {q : Option (ℕ × Bool)} (hq : ∀ p, q = some p → p.1 = 0) :
    StoneKept pending rooms (Function.update pass sid q) where
  agree := by
    have hsame : passRoom (Function.update pass sid q) = passRoom pass := by
      funext j
      by_cases hj : j = sid
      · subst hj
        rw [hsid, passRoom_eq_none, Function.update_self]
        exact hq
      · rw [passRoom, Function.update_of_ne hj]
        rfl
    rw [hsame]
    exact h.agree
  status := fun j p hp hne => by
    by_cases hj : j = sid
    · rw [hj, Function.update_self] at hp
      exact absurd (hq p hp) hne
    · rw [Function.update_of_ne hj] at hp
      exact h.status j p hp hne
  ids := h.ids
  live := h.live

end

/-- The rooms and what the sessions know of them are the same. -/
structure SameStones (w w' : StoneWorld) : Prop where
  manager : w'.manager = w.manager
  pass : w'.pass = w.pass

section

variable {w w' : StoneWorld} {sid : ℕ} {f : StoneUser → StoneUser} {c : ℕ × Bool}

theorem SameStones.refl (w : StoneWorld) : SameStones w w := ⟨rfl, rfl⟩

theorem SameStones.trans {w'' : StoneWorld} (h : SameStones w w') (h' : SameStones w' w'') :
    SameStones w w'' := ⟨h'.manager.trans h.manager, h'.pass.trans h.pass⟩

theorem pass_updateUser (w : StoneWorld) (sid : ℕ) (f : StoneUser → StoneUser) :
    (w.updateUser sid f).pass = Function.update w.pass sid
      ((w.sessions sid).map fun u => ((f u).eventRoom, (f u).monsterStoneStatus)) := by
  funext j
  unfold StoneWorld.pass StoneWorld.updateUser
  dsimp only
  by_cases hj : j = sid
  · subst hj
    rw [Function.update_self, Function.update_self, Option.map_map]
    rfl
  · rw [Function.update_of_ne hj, Function.update_of_ne hj]

theorem sameStones_updateUser (h : ∀ u, w.sessions sid = some u → (f u).eventRoom = u.eventRoom ∧
    (f u).monsterStoneStatus = u.monsterStoneStatus) : SameStones w (w.updateUser sid f) := by
  refine ⟨rfl, ?_⟩
  rw [pass_updateUser]
  refine Function.update_eq_self_iff.mpr ?_
  unfold StoneWorld.pass
  cases hu : w.sessions sid with
  | none => rfl
  | some u => simp [h u hu]

theorem serverTeleport_same (w : StoneWorld) (sid dest : ℕ) :
    SameStones w (w.serverTeleportToZone sid dest) :=
  sameStones_updateUser fun _ _ => ⟨rfl, rfl⟩

theorem pass_assign (w : StoneWorld) (sid : ℕ)
    (h : ∀ u, (f u).eventRoom = c.1 ∧ (f u).monsterStoneStatus = c.2) :
    (w.updateUser sid f).pass = Function.update w.pass sid ((w.pass sid).map fun _ => c) := by
  rw [pass_updateUser]
  unfold StoneWorld.pass
  rw [Option.map_map]
  congr 1
  refine congrArg (fun g => (w.sessions sid).map g) (funext fun u => ?_)
  exact Prod.ext (h u).1 (h u).2

theorem foldl_assign {g : StoneWorld → ℕ → StoneWorld} (hg : ∀ w m, (g w m).manager = w.manager ∧
    (g w m).pass = Function.update w.pass m ((w.pass m).map fun _ => c)) :
    ∀ (l : List ℕ) (w : StoneWorld), (l.foldl g w).manager = w.manager ∧
      (l.foldl g w).pass = fun i => if i ∈ l then (w.pass i).map fun _ => c else w.pass i := by
  intro l
  induction l with
  | nil => exact fun w => ⟨rfl, by simp⟩
  | cons m l ih =>
    intro w
    obtain ⟨hmanager, hpass⟩ := ih (g w m)
    obtain ⟨hmanager', hpass'⟩ := hg w m
    refine ⟨hmanager.trans hmanager', hpass.trans (funext fun j => ?_)⟩
    rw [hpass']
    by_cases hj : j = m
    · subst hj
      simp [Option.map_map, Function.comp_def]
    · simp [hj]

end

def StoneWorld.Kept (w : StoneWorld) : Prop := StoneKept [] w.manager.rooms w.pass

section

variable {w w' : StoneWorld} {sid dest : ℕ} {pending : List ℕ}

theorem SameStones.kept (h : SameStones w w') (hw : w.Kept) : w'.Kept := by
  unfold StoneWorld.Kept
  rw [h.manager, h.pass]
  exact hw

theorem clearRoom_pass (w : StoneWorld) (sid : ℕ) : (w.clearRoom sid).manager = w.manager ∧
    (w.clearRoom sid).pass = Function.update w.pass sid ((w.pass sid).map fun _ => (0, false)) :=
  ⟨rfl, pass_assign w sid fun _ => ⟨rfl, rfl⟩⟩

theorem clearRoom_kept (h : w.Kept) (hsid : passRoom w.pass sid = none) : (w.clearRoom sid).Kept := by
  unfold StoneWorld.Kept
  rw [(clearRoom_pass w sid).1, (clearRoom_pass w sid).2]
  refine h.free hsid fun p hp => ?_
  obtain ⟨q, -, rfl⟩ := Option.map_eq_some_iff.mp hp
  rfl

theorem findUserRoom_spec (h : w.Kept) : w.manager.findUserRoom sid = passRoom w.pass sid := by
  unfold MonsterStoneManager.findUserRoom
  cases hfind : w.manager.rooms.find? fun r => r.active && sid ∈ r.users with
  | none =>
    symm
    by_contra hne
    obtain ⟨i, hi⟩ := Option.ne_none_iff_exists'.mp hne
    obtain ⟨r, hr, hmem⟩ := h.mem_of_room hi
    have hactive : r.active = true :=
      (h.live r (List.mem_of_getElem? hr) List.not_mem_nil).mpr (List.ne_nil_of_mem hmem)
    simpa [hactive, hmem] using List.find?_eq_none.mp hfind r (List.mem_of_getElem? hr)
  | some r =>
    have hr := List.mem_of_find?_eq_some hfind
    have hmem : sid ∈ r.users := by
      have hfound := List.find?_some hfind
      simp only [Bool.and_eq_true, decide_eq_true_eq] at hfound
      exact hfound.2
    exact (h.room_of_mem (h.get_of_mem hr) hmem).symm

/-- Who leaves takes the whole room along. -/
theorem exitRoom_kept (h : w.Kept) (sid : ℕ) :
    (w.exitRoom sid).Kept ∧ passRoom (w.exitRoom sid).pass sid = none := by
  unfold StoneWorld.exitRoom
  rw [findUserRoom_spec h]
  cases hroom : passRoom w.pass sid with
  | none =>
    refine ⟨clearRoom_kept h hroom, ?_⟩
    rw [(clearRoom_pass w sid).2, passRoom_eq_none, Function.update_self]
    intro p hp
    obtain ⟨q, -, rfl⟩ := Option.map_eq_some_iff.mp hp
    rfl
  | some i =>
    obtain ⟨r, hr, hmem⟩ := h.mem_of_room hroom
    have husers : (w.manager.resetRoom i).2 = r.users := by
      simp [MonsterStoneManager.resetRoom, MonsterStoneManager.getRoom, hr]
    dsimp only
    rw [husers]
    obtain ⟨hmanager, hpass⟩ := foldl_assign (c := (0, false))
      (g := fun w uid =>
        if uid ≠ sid ∧ (((w.clearRoom uid).sessions uid).map fun u =>
            isMonsterStoneZone u.zoneId).getD false = true then
          (w.clearRoom uid).serverTeleportToZone uid ZONE_MORADON
        else w.clearRoom uid)
      (fun w m => by
        split_ifs
        · have hsame := serverTeleport_same (w.clearRoom m) m ZONE_MORADON
          exact ⟨hsame.manager, hsame.pass.trans (clearRoom_pass w m).2⟩
        · exact clearRoom_pass w m) r.users { w with manager := (w.manager.resetRoom i).1 }
    refine ⟨?_, ?_⟩
    · unfold StoneWorld.Kept
      rw [hmanager, hpass]
      exact (h.weaken [i]).clear hr
    · rw [hpass, passRoom_eq_none]
      intro p hp
      rw [if_pos hmem] at hp
      obtain ⟨q, -, rfl⟩ := Option.map_eq_some_iff.mp hp
      rfl

theorem expireRoom_kept {i : ℕ} (h : StoneKept (i :: pending) w.manager.rooms w.pass) :
    StoneKept pending (w.expireRoom i).manager.rooms (w.expireRoom i).pass := by
  unfold StoneWorld.expireRoom MonsterStoneManager.getRoom
  cases hr : w.manager.rooms[i]? with
  | none =>
    refine { h with live := fun r hmem hpending => h.live r hmem ?_ }
    simp only [List.mem_cons, not_or]
    refine ⟨fun hid => ?_, hpending⟩
    rw [← hid, h.get_of_mem hmem] at hr
    cases hr
  | some r =>
    obtain ⟨hmanager, hpass⟩ := foldl_assign (c := (0, false))
      (g := fun w uid => (w.clearRoom uid).serverTeleportToZone uid ZONE_MORADON)
      (fun w m => by
        have hsame := serverTeleport_same (w.clearRoom m) m ZONE_MORADON
        exact ⟨hsame.manager, hsame.pass.trans (clearRoom_pass w m).2⟩) r.users w
    have hafter := h.clear hr
    rw [← hpass] at hafter
    dsimp only
    rw [hmanager]
    exact hafter

/-- The expired rooms are not active any more, and still have their users. -/
theorem timerTick_kept (h : w.Kept) (now : ℕ) :
    StoneKept (w.manager.timerTick now).2 (w.manager.timerTick now).1.rooms w.pass := by
  have hrooms : (w.manager.timerTick now).1.rooms = w.manager.rooms.map fun r =>
      if r.expired now then { r with active := false } else r := rfl
  rw [hrooms]
  refine ⟨?_, h.status, fun j r hr => ?_, fun r hr hpending => ?_⟩
  · have hlists : roomList (w.manager.rooms.map fun r =>
        if r.expired now then { r with active := false } else r) = roomList w.manager.rooms := by
      funext j
      rw [roomList, List.getElem?_map, Option.bind_map]
      refine congrArg (fun g => w.manager.rooms[j]?.bind g) (funext fun r => ?_)
      simp only [Function.comp]
      split_ifs
      all_goals rfl
    rw [hlists]
    exact h.agree
  · rw [List.getElem?_map] at hr
    obtain ⟨r', hr', rfl⟩ := Option.map_eq_some_iff.mp hr
    split_ifs
    · exact h.ids j r' hr'
    · exact h.ids j r' hr'
  · obtain ⟨r', hr', rfl⟩ := List.mem_map.mp hr
    split_ifs at hpending ⊢ with hexpired
    · refine absurd ?_ hpending
      exact List.mem_map.mpr ⟨r', List.mem_filter.mpr ⟨hr', hexpired⟩, rfl⟩
    · exact h.live r' hr' List.not_mem_nil

theorem stoneTick_kept (h : w.Kept) (now : ℕ) : (w.stoneTick now).Kept := by
  have hloop : ∀ (expired : List ℕ) (w : StoneWorld),
      StoneKept expired w.manager.rooms w.pass →
        StoneKept [] (expired.foldl StoneWorld.expireRoom w).manager.rooms
          (expired.foldl StoneWorld.expireRoom w).pass := by
    intro expired
    induction expired with
    | nil => exact fun _ hw => hw
    | cons i expired ih => exact fun w hw => ih _ (expireRoom_kept hw)
  exact hloop _ _ (timerTick_kept h now)

theorem bossKill_kept (h : w.Kept) (eventRoom now : ℕ) :
    (w.monsterStoneBossKill eventRoom now).Kept := by
  unfold StoneWorld.monsterStoneBossKill
  split_ifs
  · refine StoneKept.modify h fun r => ?_
    split_ifs
    · exact ⟨rfl, rfl, rfl⟩
    · exact ⟨rfl, rfl, rfl⟩
  · exact h

end

/-- The cleanup of a zone other than those of the stones takes the room off the session. -/
def StoneUser.Forgets (u : StoneUser) (dest : ℕ) : Prop :=
  u.zoneId ≠ dest ∧ (u.zoneId = ZONE_DUNGEON_DEFENCE ∨
    u.zoneId = ZONE_CHAOS_DUNGEON ∧ u.joinedEvent = true ∨
    u.zoneId = ZONE_DRAKI_TOWER ∧ 0 < u.drakiRoomId ∨
    isInTempleEventZone u.zoneId = true ∧ isInTempleEventZone dest = false)

section

variable {w : StoneWorld} {u : StoneUser} {sid dest : ℕ} {admitted : Bool}

theorem forgetRoom_same (hne : u.zoneId ≠ dest) (h : u.eventRoom = 0 ∨ ¬u.Forgets dest) :
    (u.forgetRoom u.zoneId dest).eventRoom = u.eventRoom ∧
      (u.forgetRoom u.zoneId dest).monsterStoneStatus = u.monsterStoneStatus := by
  unfold StoneUser.forgetRoom
  rcases h with hzero | hnot
  · simp [hzero]
  · simp only [StoneUser.Forgets, hne, ne_eq, not_false_eq_true, true_and, not_or, not_and] at hnot
    obtain ⟨hdefence, hchaos, hdraki, htemple⟩ := hnot
    have hchaos' : (decide (u.zoneId = ZONE_CHAOS_DUNGEON) && decide (dest ≠ ZONE_CHAOS_DUNGEON) &&
        u.joinedEvent) = false := by
      by_contra hzone
      simp only [Bool.not_eq_false, Bool.and_eq_true, decide_eq_true_eq] at hzone
      exact hchaos hzone.1.1 hzone.2
    have hdraki' : (decide (u.zoneId = ZONE_DRAKI_TOWER) && decide (dest ≠ ZONE_DRAKI_TOWER) &&
        decide (0 < u.drakiRoomId)) = false := by
      by_contra hzone
      simp only [Bool.not_eq_false, Bool.and_eq_true, decide_eq_true_eq] at hzone
      exact hdraki hzone.1.1 hzone.2
    have htemple' : (isInTempleEventZone u.zoneId && !isInTempleEventZone dest) = false := by
      by_contra hzone
      simp only [Bool.not_eq_false, Bool.and_eq_true, Bool.not_eq_true'] at hzone
      exact htemple hzone.1 hzone.2
    simp only [hchaos', hdraki', htemple']
    simp [hdefence]

/-- In a zone of the stones none of those cleanups applies. -/
theorem forgetRoom_stone {zoneId : ℕ} (hzone : isMonsterStoneZone zoneId = true) (v : StoneUser) :
    v.forgetRoom zoneId dest = v := by
  simp only [isMonsterStoneZone, Bool.or_eq_true, decide_eq_true_eq] at hzone
  rcases hzone with (rfl | rfl) | rfl
  all_goals rfl

theorem trigger_same (hstay : ∀ u, w.sessions sid = some u → isMonsterStoneZone u.zoneId = true →
      isMonsterStoneZone dest = true ∨ u.eventRoom = 0)
    (hok : ∀ u, w.sessions sid = some u → admitted = true → 0 < u.eventRoom → ¬u.Forgets dest) :
    SameStones w (w.triggerZoneChange sid dest admitted) := by
  unfold StoneWorld.triggerZoneChange
  cases hu : w.sessions sid with
  | none => exact SameStones.refl w
  | some u =>
    dsimp only
    split_ifs with hrefused hexit
    · exact SameStones.refl w
    · simp only [Bool.and_eq_true, Bool.not_eq_true', decide_eq_true_eq] at hexit
      rcases hstay u hu hexit.1.1 with hstone | hzero
      · rw [hexit.1.2] at hstone
        cases hstone
      · omega
    · simp only [Bool.or_eq_true, Bool.not_eq_true', decide_eq_true_eq, not_or] at hrefused
      refine (sameStones_updateUser fun v hv => ?_).trans (serverTeleport_same _ sid dest)
      obtain rfl := Option.some.inj (hu.symm.trans hv)
      refine forgetRoom_same hrefused.2 ?_
      rcases Nat.eq_zero_or_pos u.eventRoom with hzero | hpos
      · exact .inl hzero
      · exact .inr (hok u hu (by simpa using hrefused.1) hpos)

theorem trigger_kept (h : w.Kept)
    (hok : ∀ u, w.sessions sid = some u → admitted = true → 0 < u.eventRoom → ¬u.Forgets dest) :
    (w.triggerZoneChange sid dest admitted).Kept := by
  cases hu : w.sessions sid with
  | none =>
    unfold StoneWorld.triggerZoneChange
    rw [hu]
    exact h
  | some u =>
    by_cases hexit : isMonsterStoneZone u.zoneId = true ∧ isMonsterStoneZone dest = false ∧
        0 < u.eventRoom
    · unfold StoneWorld.triggerZoneChange
      rw [hu]
      dsimp only
      split_ifs with hrefused hactive
      · exact h
      · obtain ⟨hkept, -⟩ := exitRoom_kept h sid
        refine SameStones.kept ?_ hkept
        refine (sameStones_updateUser fun v _ => ?_).trans (serverTeleport_same _ sid dest)
        rw [forgetRoom_stone hexit.1]
        exact ⟨rfl, rfl⟩
      · simp [hexit] at hactive
    · refine (trigger_same (fun v hv hstone => ?_) hok).kept h
      obtain rfl := Option.some.inj (hu.symm.trans hv)
      by_contra hnot
      simp only [not_or, Bool.not_eq_true] at hnot
      exact hexit ⟨hstone, hnot.1, Nat.pos_of_ne_zero hnot.2⟩

theorem disconnect_kept (h : w.Kept) (sid : ℕ) : (w.disconnect sid).Kept := by
  unfold StoneWorld.disconnect
  cases hu : w.sessions sid with
  | none => exact h
  | some u =>
    have hgone : ∀ w' : StoneWorld, w'.Kept → passRoom w'.pass sid = none →
        ({ w' with sessions := Function.update w'.sessions sid none } : StoneWorld).Kept := by
      intro w' hw' hroom
      have hpass : ({ w' with sessions := Function.update w'.sessions sid none } : StoneWorld).pass =
          Function.update w'.pass sid none := by
        funext j
        unfold StoneWorld.pass
        by_cases hj : j = sid
        · subst hj
          simp
        · simp [hj]
      unfold StoneWorld.Kept
      rw [hpass]
      exact hw'.free hroom nofun
    dsimp only
    split_ifs with hroom
    · obtain ⟨hkept, hnone⟩ := exitRoom_kept h sid
      exact hgone _ hkept hnone
    · refine hgone w h (passRoom_eq_none.mpr fun p hp => ?_)
      simp only [StoneWorld.pass, hu, Option.map_some, Option.some.injEq] at hp
      rw [← hp]
      omega

end

end KoServer
