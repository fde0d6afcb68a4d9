import KoServer.Proofs.TempleLife

/-! The seats of a room event. Everybody who signed up enters at most one room, and what is scored
in the rooms leaves the seats alone; a logout in the war only marks its seat. -/

namespace KoServer

def EventUser.badge (u : EventUser) : EventUser := { u with kills := 0, deaths := 0 }

/-- A room without its scores. -/
structure RoomCard where
  roomId : ℕ
  eventType : TempleEventType
  state : RoomState
  finished : Bool
  mixed : ℕ
  users : List EventUser

def EventRoom.card (r : EventRoom) : RoomCard :=
  ⟨r.roomId, r.eventType, r.state, r.finished, r.mixedUsers.length, r.users.map EventUser.badge⟩

def EventRoomManager.cards (erm : EventRoomManager) : List RoomCard := erm.rooms.map EventRoom.card

/-- Somebody's place in a room. -/
structure Seat where
  roomId : ℕ
  userName : List Char
  sessionId : ℕ
  nation : ℕ

def RoomCard.seats (c : RoomCard) : List Seat :=
  c.users.map fun u => ⟨c.roomId, u.userName, u.sessionId, u.nation⟩

def EventRoomManager.seats (erm : EventRoomManager) : List Seat := erm.cards.flatMap RoomCard.seats

/-- Nobody has two seats, and who has one may be rewarded. -/
structure Seated (t : TempleEventType) (cs : List RoomCard) : Prop where
  types : ∀ c ∈ cs, c.eventType = t
  ids : (cs.map RoomCard.roomId).Nodup
  names : ((cs.flatMap RoomCard.users).map EventUser.userName).Nodup
  running : ∀ c ∈ cs, c.users ≠ [] → c.state = .running ∧ c.finished = false
  mixed : t ≠ .chaosDungeon → ∀ c ∈ cs, c.mixed = 0
  nations : t ≠ .chaosDungeon → ∀ c ∈ cs, ∀ u ∈ c.users, u.nation = 1 ∨ u.nation = 2
  unrewarded : ∀ c ∈ cs, ∀ u ∈ c.users, u.prizeGiven = false

section

variable {r r' : EventRoom} {u : EventUser}

/-- A user with a new name is added, and nothing else. -/
theorem addUser_spec (h : r.addUser u = some r') (hnew : ∀ v ∈ r.users, v.userName ≠ u.userName) :
    r'.users.Perm (r.users ++ [u]) ∧ r'.roomId = r.roomId ∧ r'.eventType = r.eventType ∧
      r'.finished = r.finished ∧ (r.eventType ≠ .chaosDungeon → r'.mixedUsers = r.mixedUsers) ∧
      (r.eventType = .chaosDungeon →
        r'.karusUsers = r.karusUsers ∧ r'.elmoradUsers = r.elmoradUsers) := by
  simp only [EventRoom.users, List.mem_append] at hnew
  have hkarus : r.karusUsers.filter (·.userName ≠ u.userName) = r.karusUsers :=
    List.filter_eq_self.mpr fun v hv => by simpa using hnew v (.inl (.inl hv))
  have helmorad : r.elmoradUsers.filter (·.userName ≠ u.userName) = r.elmoradUsers :=
    List.filter_eq_self.mpr fun v hv => by simpa using hnew v (.inl (.inr hv))
  have hmixed : r.mixedUsers.filter (·.userName ≠ u.userName) = r.mixedUsers :=
    List.filter_eq_self.mpr fun v hv => by simpa using hnew v (.inr hv)
  unfold EventRoom.addUser at h
  dsimp only at h
  rw [hkarus, helmorad, hmixed] at h
  have hends : ∀ a b c : List EventUser, ((a ++ [u]) ++ b ++ c).Perm (a ++ b ++ c ++ [u]) ∧
      (a ++ (b ++ [u]) ++ c).Perm (a ++ b ++ c ++ [u]) := by
    intro a b c
    constructor
    · simpa using (List.perm_append_comm : ([u] ++ (b ++ c)).Perm ((b ++ c) ++ [u])).append_left a
    · simpa using ((List.perm_append_comm : ([u] ++ c).Perm (c ++ [u])).append_left b).append_left a
  split at h
  · next hchaos =>
    split_ifs at h
    cases h
    exact ⟨by simp [EventRoom.users], rfl, rfl, rfl, fun hne => absurd hchaos hne,
      fun _ => ⟨rfl, rfl⟩⟩
  · next hside =>
    split_ifs at h
    · cases h
      exact ⟨(hends _ _ _).1, rfl, rfl, rfl, fun _ => rfl, fun hchaos => absurd hchaos hside⟩
    · cases h
      exact ⟨(hends _ _ _).2, rfl, rfl, rfl, fun _ => rfl, fun hchaos => absurd hchaos hside⟩

end

/-- What filling a room from a queue does: some of the queue enter it, and nobody twice. -/
structure Fills (enter : SignedUpUser → EventUser) (queue : List SignedUpUser) (r : EventRoom)
    (queue' : List SignedUpUser) (r' : EventRoom) : Prop where
  roomId : r'.roomId = r.roomId
  eventType : r'.eventType = r.eventType
  finished : r'.finished = r.finished
  mixed : r.eventType ≠ .chaosDungeon → r'.mixedUsers = r.mixedUsers
  sides : r.eventType = .chaosDungeon →
    r'.karusUsers = r.karusUsers ∧ r'.elmoradUsers = r.elmoradUsers
  users : ∃ taken, (taken ++ queue').Sublist queue ∧ r'.users.Perm (r.users ++ taken.map enter)

section

variable {enter : SignedUpUser → EventUser} {queue queue' : List SignedUpUser} {r r' : EventRoom}
  {u : SignedUpUser}

theorem Fills.refl : Fills enter queue r queue r :=
  ⟨rfl, rfl, rfl, fun _ => rfl, fun _ => ⟨rfl, rfl⟩, [], List.Sublist.refl _, by simp⟩

theorem Fills.skip (h : Fills enter queue r queue' r') : Fills enter (u :: queue) r queue' r' := by
  obtain ⟨taken, hsub, hperm⟩ := h.users
  exact { h with users := ⟨taken, hsub.cons u, hperm⟩ }

theorem Fills.cons {r₁ : EventRoom} (hadd : r.addUser (enter u) = some r₁)
    (hnew : ∀ v ∈ r.users, v.userName ≠ (enter u).userName)
    (h : Fills enter queue r₁ queue' r') : Fills enter (u :: queue) r queue' r' := by
  obtain ⟨hperm, hid, htype, hfin, hmixed, hsides⟩ := addUser_spec hadd hnew
  obtain ⟨taken, hsub, hperm'⟩ := h.users
  refine ⟨h.roomId.trans hid, h.eventType.trans htype, h.finished.trans hfin, fun hne => ?_,
    fun hchaos => ?_, u :: taken, hsub.cons_cons u, ?_⟩
  · rw [h.mixed (htype ▸ hne), hmixed hne]
  · obtain ⟨hk, he⟩ := hsides hchaos
    obtain ⟨hk', he'⟩ := h.sides (htype.trans hchaos)
    exact ⟨hk'.trans hk, he'.trans he⟩
  · simpa using hperm'.trans (hperm.append_right _)

def NewNames (r : EventRoom) (queue : List SignedUpUser) : Prop :=
  (r.users.map EventUser.userName ++ queue.map SignedUpUser.userName).Nodup

theorem NewNames.head (h : NewNames r (u :: queue)) : ∀ v ∈ r.users, v.userName ≠ u.userName := by
  intro v hv heq
  refine (List.nodup_append.mp h).2.2 _ (List.mem_map_of_mem hv) _ ?_ heq
  exact List.mem_cons_self

theorem NewNames.tail (h : NewNames r (u :: queue)) : NewNames r queue :=
  h.sublist ((List.sublist_cons_self _ _).append_left _)

theorem NewNames.added {r₁ : EventRoom} {v : EventUser} (h : NewNames r (u :: queue))
    (hperm : r₁.users.Perm (r.users ++ [v])) (hname : v.userName = u.userName) :
    NewNames r₁ queue := by
  refine (((hperm.map EventUser.userName).append_right _).nodup_iff).mpr ?_
  simpa [NewNames, hname] using h

theorem fillSlots_fills (nation : ℕ) : ∀ (slots : ℕ) (queue : List SignedUpUser) (r : EventRoom),
    NewNames r queue → Fills (·.enter nation) queue r (fillSlots nation slots queue r).1
      (fillSlots nation slots queue r).2 := by
  intro slots
  induction slots with
  | zero => exact fun _ _ _ => Fills.refl
  | succ slots ih =>
    intro queue r hnew
    cases queue with
    | nil => exact Fills.refl
    | cons u queue =>
      unfold fillSlots
      cases hadd : r.addUser (u.enter nation) with
      | none => exact ih _ _ hnew
      | some r₁ =>
        have hperm := (addUser_spec hadd hnew.head).1
        exact Fills.cons hadd hnew.head (ih _ _ (hnew.added hperm rfl))

theorem fillMixed_fills : ∀ (slots : ℕ) (queue : List SignedUpUser) (r : EventRoom),
    NewNames r queue → Fills (fun u => u.enter u.nation) queue r (fillMixed slots queue r).1
      (fillMixed slots queue r).2 := by
  intro slots
  induction slots with
  | zero => exact fun _ _ _ => Fills.refl
  | succ slots ih =>
    intro queue r hnew
    cases queue with
    | nil => exact Fills.refl
    | cons u queue =>
      unfold fillMixed
      cases hadd : r.addUser (u.enter u.nation) with
      | none => exact (ih _ _ hnew.tail).skip
      | some r₁ =>
        have hperm := (addUser_spec hadd hnew.head).1
        exact Fills.cons hadd hnew.head (ih _ _ (hnew.added hperm rfl))

end

def EventRoom.key (r : EventRoom) : ℕ × TempleEventType × Bool := (r.roomId, r.eventType, r.finished)

/-- The rooms `rs` are the empty `rooms`, with users from the names of the pool, each once. -/
structure Entered (nations : ℕ → Prop) (pool : List (List Char)) (rooms rs : List EventRoom) :
    Prop where
  keys : rs.map EventRoom.key = rooms.map EventRoom.key
  names : List.Subperm ((rs.flatMap EventRoom.users).map EventUser.userName) pool
  running : ∀ r ∈ rs, r.users ≠ [] → r.state = .running
  mixed : ∀ r ∈ rs, r.eventType ≠ .chaosDungeon → r.mixedUsers = []
  users : ∀ r ∈ rs, ∀ u ∈ r.users, u.prizeGiven = false ∧ u.loggedOut = false ∧ nations u.nation

section

variable {nations : ℕ → Prop} {pool pool' : List (List Char)} {rooms rs : List EventRoom}
  {r r' : EventRoom}

theorem Entered.of_empty (h : ∀ r ∈ rooms, r.users = []) : Entered nations pool rooms rooms where
  keys := rfl
  names := by
    rw [List.flatMap_eq_nil_iff.mpr h]
    exact List.nil_subperm
  running := fun r hr hne => absurd (h r hr) hne
  mixed := fun r hr _ => (List.append_eq_nil_iff.mp (h r hr)).2
  users := fun r hr u hu => by
    rw [h r hr] at hu
    cases hu

theorem Entered.cons (names : List (List Char)) (hkey : r'.key = r.key) (hrun : r'.users ≠ [] → r'.state = .running)
    (hmixed : r'.eventType ≠ .chaosDungeon → r'.mixedUsers = [])
    (husers : ∀ u ∈ r'.users, u.prizeGiven = false ∧ u.loggedOut = false ∧ nations u.nation)
    (hnames : (r'.users.map EventUser.userName).Perm names)
    (hpool : List.Subperm (names ++ pool') pool) (h : Entered nations pool' rooms rs) :
    Entered nations pool (r :: rooms) (r' :: rs) where
  keys := by rw [List.map_cons, List.map_cons, hkey, h.keys]
  names := by
    rw [List.flatMap_cons, List.map_append]
    refine ((hnames.append_right _).subperm.trans ?_).trans hpool
    exact (List.subperm_append_left names).mpr h.names
  running := List.forall_mem_cons.mpr ⟨hrun, h.running⟩
  mixed := List.forall_mem_cons.mpr ⟨hmixed, h.mixed⟩
  users := List.forall_mem_cons.mpr ⟨husers, h.users⟩

theorem enter_spec (nations : ℕ → Prop) {nation : ℕ} (h : nations nation) {taken : List SignedUpUser} :
    ∀ u ∈ taken.map (·.enter nation),
      u.prizeGiven = false ∧ u.loggedOut = false ∧ nations u.nation := by
  intro u hu
  obtain ⟨v, -, rfl⟩ := List.mem_map.mp hu
  exact ⟨rfl, rfl, h⟩

theorem names_enter (nation : ℕ) (taken : List SignedUpUser) :
    (taken.map (·.enter nation)).map EventUser.userName = taken.map SignedUpUser.userName := by
  rw [List.map_map]
  rfl

theorem fillRooms_assigned : ∀ (rooms : List EventRoom) (karus elmorad : List SignedUpUser),
    (∀ r ∈ rooms, r.users = [] ∧ r.eventType ≠ .chaosDungeon) →
    ((karus ++ elmorad).map SignedUpUser.userName).Nodup →
    Entered (fun n => n = 1 ∨ n = 2) ((karus ++ elmorad).map SignedUpUser.userName) rooms
      (fillRooms rooms karus elmorad) := by
  intro rooms
  induction rooms with
  | nil => exact fun _ _ _ _ => Entered.of_empty (by simp)
  | cons r rooms ih =>
    intro karus elmorad hrooms hnames
    obtain ⟨⟨hempty, htype⟩, hrest⟩ := List.forall_mem_cons.mp hrooms
    unfold fillRooms
    split_ifs with hdone
    · exact Entered.of_empty fun r hr => (hrooms r hr).1
    · -- first the one nation, then the other
      have hnew : NewNames r karus := by
        rw [NewNames, hempty, List.map_nil, List.nil_append]
        exact hnames.sublist ((List.sublist_append_left _ _).map _)
      have hk := fillSlots_fills 1 (MAX_ROOM_USERS_PER_NATION - r.karusUsers.length) karus r hnew
      generalize fillSlots 1 (MAX_ROOM_USERS_PER_NATION - r.karusUsers.length) karus r = karus' at hk ⊢
      obtain ⟨karus', r₁⟩ := karus'
      dsimp only at hk ⊢
      obtain ⟨tk, hsubk, hpermk⟩ := hk.users
      rw [hempty, List.nil_append] at hpermk
      have hnew' : NewNames r₁ elmorad := by
        have hperm := ((hpermk.map EventUser.userName).append_right
          (elmorad.map SignedUpUser.userName)).nodup_iff
        rw [names_enter 1, ← List.map_append] at hperm
        have hsub := ((List.sublist_append_left tk karus').trans hsubk).append_right elmorad
        exact hperm.mpr (hnames.sublist (hsub.map _))
      have he := fillSlots_fills 2 (MAX_ROOM_USERS_PER_NATION - r₁.elmoradUsers.length) elmorad r₁ hnew'
      generalize fillSlots 2 (MAX_ROOM_USERS_PER_NATION - r₁.elmoradUsers.length) elmorad r₁ =
        elmorad' at he ⊢
      obtain ⟨elmorad', r₂⟩ := elmorad'
      dsimp only at he ⊢
      obtain ⟨te, hsube, hperme⟩ := he.users
      have hpool : ((tk ++ te) ++ (karus' ++ elmorad')).Perm
          ((tk ++ karus') ++ (te ++ elmorad')) := by
        simpa using ((List.perm_append_comm : (te ++ karus').Perm (karus' ++ te)).append_right
          elmorad').append_left tk
      have hsub := hsubk.append hsube
      refine Entered.cons ((tk ++ te).map SignedUpUser.userName) ?_ (fun _ => rfl)
        (fun _ => ?_) ?_ ?_ ?_ (ih karus' elmorad' hrest (hnames.sublist (List.Sublist.map _ ?_)))
      · simp only [EventRoom.key, he.roomId, he.eventType, he.finished, hk.roomId, hk.eventType,
          hk.finished]
      · rw [show r₂.mixedUsers = r.mixedUsers from
          (he.mixed (hk.eventType ▸ htype)).trans (hk.mixed htype)]
        exact (List.append_eq_nil_iff.mp hempty).2
      · intro u hu
        rcases List.mem_append.mp (hperme.mem_iff.mp hu) with hu | hu
        · exact enter_spec (fun n => n = 1 ∨ n = 2) (.inl rfl) u (hpermk.mem_iff.mp hu)
        · exact enter_spec (fun n => n = 1 ∨ n = 2) (.inr rfl) u hu
      · have hnames' := hperme.map EventUser.userName
        rw [List.map_append, names_enter 2] at hnames'
        rw [List.map_append, ← names_enter 1 tk]
        exact hnames'.trans ((hpermk.map _).append_right _)
      · rw [← List.map_append]
        exact (hpool.map _).subperm.trans (hsub.map _).subperm
      · refine List.Sublist.trans ?_ hsub
        exact (List.sublist_append_right tk karus').append (List.sublist_append_right te elmorad')

theorem fillMixedRooms_assigned : ∀ (rooms : List EventRoom) (queue : List SignedUpUser),
    (∀ r ∈ rooms, r.users = [] ∧ r.eventType = .chaosDungeon) →
    (queue.map SignedUpUser.userName).Nodup →
    Entered (fun _ => True) (queue.map SignedUpUser.userName) rooms (fillMixedRooms rooms queue) := by
  intro rooms
  induction rooms with
  | nil => exact fun _ _ _ => Entered.of_empty (by simp)
  | cons r rooms ih =>
    intro queue hrooms hnames
    obtain ⟨⟨hempty, htype⟩, hrest⟩ := List.forall_mem_cons.mp hrooms
    unfold fillMixedRooms
    have hnew : NewNames r queue := by
      rw [NewNames, hempty, List.map_nil, List.nil_append]
      exact hnames
    have hfills := fillMixed_fills (MAX_CHAOS_ROOM_USERS - r.mixedUsers.length) queue r hnew
    generalize fillMixed (MAX_CHAOS_ROOM_USERS - r.mixedUsers.length) queue r = filled at hfills ⊢
    obtain ⟨queue', r₁⟩ := filled
    dsimp only at hfills ⊢
    obtain ⟨taken, hsub, hperm⟩ := hfills.users
    rw [hempty, List.nil_append] at hperm
    obtain ⟨hkarus, helmorad⟩ := hfills.sides htype
    obtain ⟨hsides, -⟩ := List.append_eq_nil_iff.mp hempty
    obtain ⟨hk, he⟩ := List.append_eq_nil_iff.mp hsides
    -- only the mixed users are left to look at
    have hmixed : r₁.users = r₁.mixedUsers := by
      unfold EventRoom.users
      rw [hkarus, helmorad, hk, he]
      rfl
    have hentered : ∀ u ∈ r₁.users, u.prizeGiven = false ∧ u.loggedOut = false ∧ True := by
      intro u hu
      obtain ⟨v, -, rfl⟩ := List.mem_map.mp (hperm.mem_iff.mp hu)
      exact ⟨rfl, rfl, trivial⟩
    have hnames' : (r₁.users.map EventUser.userName).Perm (taken.map SignedUpUser.userName) := by
      have h := hperm.map EventUser.userName
      rw [List.map_map] at h
      exact h
    have hpool : List.Subperm (taken.map SignedUpUser.userName ++
        queue'.map SignedUpUser.userName) (queue.map SignedUpUser.userName) := by
      rw [← List.map_append]
      exact (hsub.map _).subperm
    have htail := ih queue' hrest
      (hnames.sublist (((List.sublist_append_right taken queue').trans hsub).map _))
    have hkey : r₁.key = r.key := by
      simp only [EventRoom.key, hfills.roomId, hfills.eventType, hfills.finished]
    have htype₁ : r₁.eventType = .chaosDungeon := hfills.eventType.trans htype
    split_ifs with hnone
    · exact Entered.cons _ hkey (fun hne => absurd (hmixed.trans hnone) hne)
        (fun hne => absurd htype₁ hne) hentered hnames' hpool htail
    · exact Entered.cons _ hkey (fun _ => rfl) (fun hne => absurd htype₁ hne) hentered hnames' hpool
        htail

end

def newRooms (t : TempleEventType) : List EventRoom :=
  (List.range' 1 10).map fun id => { roomId := id, eventType := t }

structure FreshSeats (t : TempleEventType) (cs : List RoomCard) : Prop extends Seated t cs where
  unmarked : ∀ c ∈ cs, ∀ u ∈ c.users, u.loggedOut = false
  rooms : ∀ c ∈ cs, 1 ≤ c.roomId ∧ c.roomId ≤ 10

theorem cards_names (rooms : List EventRoom) :
    ((rooms.map EventRoom.card).flatMap RoomCard.users).map EventUser.userName =
      (rooms.flatMap EventRoom.users).map EventUser.userName := by
  induction rooms with
  | nil => rfl
  | cons r rooms ih =>
    simp only [List.map_cons, List.flatMap_cons, List.map_append, ih]
    congr 1
    exact List.map_map

theorem mem_card_users {r : EventRoom} {u : EventUser} (hu : u ∈ r.card.users) :
    ∃ v ∈ r.users, u = v.badge := by
  obtain ⟨v, hv, rfl⟩ := List.mem_map.mp hu
  exact ⟨v, hv, rfl⟩

theorem Entered.fresh {nations : ℕ → Prop} {pool : List (List Char)} {t : TempleEventType}
    {erm : EventRoomManager} (h : Entered nations pool (newRooms t) erm.rooms)
    (hpool : pool.Nodup) (hnations : t ≠ .chaosDungeon → ∀ n, nations n → n = 1 ∨ n = 2) :
    FreshSeats t erm.cards := by
  have hkeys : erm.rooms.map EventRoom.key = (newRooms t).map EventRoom.key := h.keys
  have hkey : ∀ r ∈ erm.rooms, r.eventType = t ∧ r.finished = false ∧ 1 ≤ r.roomId ∧
      r.roomId ≤ 10 := by
    intro r hr
    have hmem : r.key ∈ (newRooms t).map EventRoom.key := hkeys ▸ List.mem_map_of_mem hr
    simp only [newRooms, List.map_map, List.mem_map, List.mem_range'_1, Function.comp,
      EventRoom.key, Prod.mk.injEq] at hmem
    obtain ⟨id, ⟨hlo, hhi⟩, hid, htype, hfin⟩ := hmem
    exact ⟨htype.symm, hfin.symm, by omega, by omega⟩
  have hcard : ∀ c ∈ erm.cards, ∃ r ∈ erm.rooms, r.card = c := fun c hc => List.mem_map.mp hc
  exact
    { types := fun c hc => by
        obtain ⟨r, hr, rfl⟩ := hcard c hc
        exact (hkey r hr).1
      ids := by
        have hids := congrArg (List.map Prod.fst) hkeys
        simp only [newRooms, List.map_map] at hids
        rw [EventRoomManager.cards, List.map_map]
        refine hids ▸ ?_
        change ((List.range' 1 10).map fun id => id).Nodup
        decide
      names := by
        rw [EventRoomManager.cards, cards_names]
        obtain ⟨l, hperm, hsub⟩ := h.names
        exact hperm.nodup_iff.mp (hpool.sublist hsub)
      running := fun c hc hne => by
        obtain ⟨r, hr, rfl⟩ := hcard c hc
        refine ⟨h.running r hr fun hnil => hne ?_, (hkey r hr).2.1⟩
        rw [EventRoom.card, hnil, List.map_nil]
      mixed := fun ht c hc => by
        obtain ⟨r, hr, rfl⟩ := hcard c hc
        rw [EventRoom.card, h.mixed r hr (fun htype => ht ((hkey r hr).1.symm.trans htype))]
        rfl
      nations := fun ht c hc u hu => by
        obtain ⟨r, hr, rfl⟩ := hcard c hc
        obtain ⟨v, hv, rfl⟩ := mem_card_users hu
        exact hnations ht _ (h.users r hr v hv).2.2
      unrewarded := fun c hc u hu => by
        obtain ⟨r, hr, rfl⟩ := hcard c hc
        obtain ⟨v, hv, rfl⟩ := mem_card_users hu
        exact (h.users r hr v hv).1
      unmarked := fun c hc u hu => by
        obtain ⟨r, hr, rfl⟩ := hcard c hc
        obtain ⟨v, hv, rfl⟩ := mem_card_users hu
        exact (h.users r hr v hv).2.1
      rooms := fun c hc => by
        obtain ⟨r, hr, rfl⟩ := hcard c hc
        exact (hkey r hr).2.2 }

theorem newRooms_type {t : TempleEventType} :
    ∀ r ∈ newRooms t, r.eventType = t ∧ r.users = [] := by
  intro r hr
  obtain ⟨id, -, rfl⟩ := List.mem_map.mp hr
  exact ⟨rfl, rfl⟩

theorem fillWith_rooms {erm : EventRoomManager} {t : TempleEventType}
    (hrooms : erm.rooms = newRooms t) (fill : List EventRoom → List EventRoom) :
    (erm.fillWith t fill).rooms = fill (newRooms t) := by
  have hlist : erm.listRooms t = newRooms t := by
    unfold EventRoomManager.listRooms
    rw [hrooms]
    exact List.filter_eq_self.mpr fun r hr => by simpa using (newRooms_type r hr).1
  have hrest : (erm.destroyRooms t).rooms = [] := by
    unfold EventRoomManager.destroyRooms
    rw [hrooms]
    exact List.filter_eq_nil_iff.mpr fun r hr => by simpa using (newRooms_type r hr).1
  have hsorted : (newRooms t).mergeSort (fun a b => a.roomId ≤ b.roomId) = newRooms t := by
    refine List.mergeSort_of_pairwise (List.pairwise_map.mpr ?_)
    exact (List.pairwise_lt_range' (s := 1) (n := 10)).imp fun hlt => by simpa using hlt.le
  unfold EventRoomManager.fillWith
  rw [hrest, hlist, hsorted]
  rfl

theorem nationQueue_perm (erm : EventRoomManager) (nation : ℕ) :
    (erm.nationQueue nation).Perm (erm.signedUpUsers.filter (·.nation = nation)) :=
  List.mergeSort_perm _ _

theorem queues_nodup {erm : EventRoomManager}
    (hnames : (erm.signedUpUsers.map SignedUpUser.userName).Nodup) :
    ((erm.nationQueue 1 ++ erm.nationQueue 2).map SignedUpUser.userName).Nodup := by
  have hside : ∀ nation, ((erm.nationQueue nation).map SignedUpUser.userName).Nodup := fun nation =>
    ((nationQueue_perm erm nation).map _).nodup_iff.mpr
      (hnames.sublist (List.filter_sublist.map _))
  have hmem : ∀ nation, ∀ u ∈ erm.nationQueue nation, u ∈ erm.signedUpUsers ∧ u.nation = nation := by
    intro nation u hu
    obtain ⟨hu, hnation⟩ := List.mem_filter.mp ((nationQueue_perm erm nation).mem_iff.mp hu)
    exact ⟨hu, of_decide_eq_true hnation⟩
  rw [List.map_append]
  refine List.nodup_append.mpr ⟨hside 1, hside 2, fun a ha b hb hab => ?_⟩
  obtain ⟨u, hu, rfl⟩ := List.mem_map.mp ha
  obtain ⟨v, hv, rfl⟩ := List.mem_map.mp hb
  obtain ⟨hu, hone⟩ := hmem 1 u hu
  obtain ⟨hv, htwo⟩ := hmem 2 v hv
  obtain rfl := List.inj_on_of_nodup_map hnames hu hv hab
  rw [hone] at htwo
  cases htwo

theorem assignNations_fresh {erm : EventRoomManager} {t : TempleEventType}
    (hrooms : erm.rooms = newRooms t)
    (hnames : (erm.signedUpUsers.map SignedUpUser.userName).Nodup) (ht : t ≠ .chaosDungeon) :
    FreshSeats t (erm.assignNations t).cards := by
  unfold EventRoomManager.assignNations
  split_ifs
  · have hempty : Entered (fun n => n = 1 ∨ n = 2) [] (newRooms t) erm.rooms := by
      rw [hrooms]
      exact Entered.of_empty fun r hr => (newRooms_type r hr).2
    exact hempty.fresh List.nodup_nil fun _ _ h => h
  · have hfill := fillWith_rooms hrooms
      fun rooms => fillRooms rooms (erm.nationQueue 1) (erm.nationQueue 2)
    have hentered := fillRooms_assigned (newRooms t) (erm.nationQueue 1) (erm.nationQueue 2)
      (fun r hr => ?_) (queues_nodup hnames)
    · rw [← hfill] at hentered
      exact hentered.fresh (queues_nodup hnames) fun _ _ h => h
    · obtain ⟨htype, hempty⟩ := newRooms_type r hr
      exact ⟨hempty, htype ▸ ht⟩

theorem assignMixed_fresh {erm : EventRoomManager}
    (hrooms : erm.rooms = newRooms .chaosDungeon)
    (hnames : (erm.signedUpUsers.map SignedUpUser.userName).Nodup) :
    FreshSeats .chaosDungeon (erm.assignMixed .chaosDungeon).cards := by
  unfold EventRoomManager.assignMixed
  split_ifs
  · have hempty : Entered (fun _ => True) [] (newRooms .chaosDungeon) erm.rooms := by
      rw [hrooms]
      exact Entered.of_empty fun r hr => (newRooms_type r hr).2
    exact hempty.fresh List.nodup_nil fun h => absurd rfl h
  · have hsorted := List.mergeSort_perm erm.signedUpUsers fun a b => a.joinOrder ≤ b.joinOrder
    have hnames' := (hsorted.map SignedUpUser.userName).nodup_iff.mpr hnames
    have hfill := fillWith_rooms hrooms fun rooms =>
      fillMixedRooms rooms (erm.signedUpUsers.mergeSort fun a b => a.joinOrder ≤ b.joinOrder)
    have hentered := fillMixedRooms_assigned (newRooms .chaosDungeon)
      (erm.signedUpUsers.mergeSort fun a b => a.joinOrder ≤ b.joinOrder) (fun r hr => ?_) hnames'
    · rw [← hfill] at hentered
      exact hentered.fresh hnames' fun h => absurd rfl h
    · obtain ⟨htype, hempty⟩ := newRooms_type r hr
      exact ⟨hempty, htype⟩

theorem initRooms_fresh {w : TempleServer} {t : TempleEventType} (hnone : w.erm.rooms = [])
    (hnames : (w.erm.signedUpUsers.map SignedUpUser.userName).Nodup)
    (ht : t ≠ .forgottenTemple) : FreshSeats t (w.initRooms t).erm.cards := by
  have hcreate : ∀ t', (w.erm.createRooms t' 10).rooms = newRooms t' := by
    intro t'
    unfold EventRoomManager.createRooms
    rw [hnone]
    rfl
  cases t with
  | borderDefenceWar => exact assignNations_fresh (hcreate _) hnames (by decide)
  | juraidMountain => exact assignNations_fresh (hcreate _) hnames (by decide)
  | chaosDungeon => exact assignMixed_fresh (hcreate _) hnames
  | forgottenTemple => exact absurd rfl ht

section

variable {erm : EventRoomManager} {t : TempleEventType} {name : List Char} {r : EventRoom}

theorem updateUserRoom_cards {f : EventRoom → EventRoom} (hf : ∀ r, (f r).card = r.card) :
    (erm.updateUserRoom t name f).cards = erm.cards := by
  unfold EventRoomManager.updateUserRoom
  cases erm.findUserRoom t name with
  | none => rfl
  | some found =>
    simp only [EventRoomManager.cards, EventRoomManager.updateRoom, List.map_map]
    refine List.map_congr_left fun r _ => ?_
    simp only [Function.comp]
    split_ifs
    · exact hf r
    · rfl

@[simp] theorem card_finishWith (r : EventRoom) (winner now : ℕ) :
    (r.finishWith winner now).card = r.card := rfl

@[simp] theorem card_scorePoints (r : EventRoom) (points nation now : ℕ) :
    (r.scorePoints points nation now).card = r.card := by
  unfold EventRoom.scorePoints
  split_ifs
  · rfl
  all_goals
    dsimp only
    split
    · rfl
    · rfl

@[simp] theorem card_forfeit (r : EventRoom) (now : ℕ) : (r.forfeit now).card = r.card := by
  unfold EventRoom.forfeit
  split_ifs
  all_goals rfl

/-- A kill in the dungeon is on a badge of nobody. -/
theorem card_kill (r : EventRoom) (killer dead : List Char) :
    ({ r with mixedUsers := r.mixedUsers.map fun u =>
        let u' := if u.userName = killer then { u with kills := u.kills + 1 } else u
        if u'.userName = dead then { u' with deaths := u'.deaths + 1 } else u' } :
      EventRoom).card = r.card := by
  simp only [EventRoom.card, EventRoom.users, List.map_append, List.length_map, List.map_map]
  congr 2
  refine List.map_congr_left fun u _ => ?_
  simp only [Function.comp]
  split_ifs
  all_goals rfl

def EventUser.mark (name : List Char) (u : EventUser) : EventUser :=
  if u.userName = name then { u with loggedOut := true } else u

def RoomCard.mark (name : List Char) (c : RoomCard) : RoomCard :=
  { c with users := c.users.map (EventUser.mark name) }

theorem mark_of_ne {u : EventUser} (h : u.userName ≠ name) : u.mark name = u := if_neg h

theorem map_mark_of_ne {users : List EventUser} (h : ∀ u ∈ users, u.userName ≠ name) :
    users.map (EventUser.mark name) = users := by
  conv_rhs => rw [← List.map_id users]
  exact List.map_congr_left fun u hu => mark_of_ne (h u hu)

theorem mark_card_of_ne (h : ∀ u ∈ r.users, u.userName ≠ name) : r.card.mark name = r.card := by
  have hsame : (r.users.map EventUser.badge).map (EventUser.mark name) =
      r.users.map EventUser.badge := by
    refine map_mark_of_ne fun u hu => ?_
    obtain ⟨v, hv, rfl⟩ := mem_card_users (r := r) hu
    exact h v hv
  unfold RoomCard.mark
  rw [show r.card.users = r.users.map EventUser.badge from rfl, hsame]
  rfl

theorem badge_mark (u : EventUser) : (u.mark name).badge = u.badge.mark name := by
  unfold EventUser.mark EventUser.badge
  split_ifs
  all_goals rfl

/-- The mark is on the one side that has the name, and nowhere else. -/
theorem card_markLoggedOut (hmixed : r.mixedUsers = [])
    (hnames : (r.users.map EventUser.userName).Nodup) :
    (r.markLoggedOut name).card = r.card.mark name := by
  have hcard : r.card.mark name = { r.card with
      users := (r.users.map (EventUser.mark name)).map EventUser.badge } := by
    unfold RoomCard.mark EventRoom.card
    dsimp only
    rw [List.map_map, List.map_map]
    congr 1
    exact List.map_congr_left fun u _ => (badge_mark u).symm
  rw [hcard]
  unfold EventRoom.users at hnames ⊢
  rw [hmixed, List.append_nil] at hnames ⊢
  rw [List.map_append] at hnames ⊢
  by_cases hany : r.karusUsers.any (·.userName = name) = true
  · have hne : ∀ u ∈ r.elmoradUsers, u.userName ≠ name := by
      intro u hu heq
      obtain ⟨v, hv, hname⟩ := List.any_eq_true.mp hany
      refine (List.nodup_append.mp hnames).2.2 _ (List.mem_map_of_mem hv) _
        (List.mem_map_of_mem hu) ?_
      rw [heq]
      exact of_decide_eq_true hname
    rw [map_mark_of_ne hne]
    unfold EventRoom.markLoggedOut
    rw [if_pos hany]
    simp [EventRoom.card, EventRoom.users, hmixed, EventUser.mark]
  · have hne : ∀ u ∈ r.karusUsers, u.userName ≠ name := by simpa using hany
    rw [map_mark_of_ne hne]
    unfold EventRoom.markLoggedOut
    rw [if_neg hany]
    simp [EventRoom.card, EventRoom.users, hmixed, EventUser.mark]

theorem same_room {rooms : List EventRoom}
    (hnames : ((rooms.flatMap EventRoom.users).map EventUser.userName).Nodup) {r r' : EventRoom}
    {u v : EventUser} (hr : r ∈ rooms) (hr' : r' ∈ rooms) (hu : u ∈ r.users) (hv : v ∈ r'.users)
    (huv : u.userName = v.userName) : r = r' := by
  induction rooms with
  | nil => cases hr
  | cons room rooms ih =>
    rw [List.flatMap_cons, List.map_append] at hnames
    obtain ⟨-, hrest, hapart⟩ := List.nodup_append.mp hnames
    have hin : ∀ {r v}, r ∈ rooms → v ∈ EventRoom.users r →
        v.userName ∈ (rooms.flatMap EventRoom.users).map EventUser.userName := fun hr hv =>
      List.mem_map_of_mem (List.mem_flatMap.mpr ⟨_, hr, hv⟩)
    rcases List.mem_cons.mp hr with rfl | hmem
    · rcases List.mem_cons.mp hr' with rfl | hmem'
      · rfl
      · exact absurd huv (hapart _ (List.mem_map_of_mem hu) _ (hin hmem' hv))
    · rcases List.mem_cons.mp hr' with rfl | hmem'
      · exact absurd huv.symm (hapart _ (List.mem_map_of_mem hv) _ (hin hmem hu))
      · exact ih hrest hmem hmem'

theorem Seated.rooms (h : Seated t erm.cards) :
    (∀ r ∈ erm.rooms, r.eventType = t) ∧ (erm.rooms.map EventRoom.roomId).Nodup ∧
      ((erm.rooms.flatMap EventRoom.users).map EventUser.userName).Nodup ∧
      (t ≠ .chaosDungeon → ∀ r ∈ erm.rooms, r.mixedUsers = []) := by
  refine ⟨fun r hr => h.types _ (List.mem_map_of_mem hr), ?_, ?_, fun ht r hr => ?_⟩
  · have hids := h.ids
    rwa [EventRoomManager.cards, List.map_map] at hids
  · have hnames := h.names
    rwa [EventRoomManager.cards, cards_names] at hnames
  · exact List.eq_nil_of_length_eq_zero (h.mixed ht _ (List.mem_map_of_mem hr))

theorem listRooms_eq (h : Seated t erm.cards) : erm.listRooms t = erm.rooms := by
  unfold EventRoomManager.listRooms
  exact List.filter_eq_self.mpr fun r hr => by simpa using h.rooms.1 r hr

theorem markUserRoom_cards (h : Seated .borderDefenceWar erm.cards) (now : ℕ) :
    (erm.updateUserRoom .borderDefenceWar name fun r => (r.markLoggedOut name).forfeit now).cards =
      erm.cards.map (RoomCard.mark name) := by
  obtain ⟨htypes, hids, hnames, hmixed⟩ := h.rooms
  unfold EventRoomManager.updateUserRoom EventRoomManager.findUserRoom
  rw [listRooms_eq h]
  cases hfind : erm.rooms.find? (·.hasUser name) with
  | none =>
    have hnone : ∀ r ∈ erm.rooms, ∀ u ∈ r.users, u.userName ≠ name := by
      simpa [EventRoom.hasUser] using hfind
    simp only [Option.map_none, EventRoomManager.cards, List.map_map]
    exact List.map_congr_left fun r hr => (mark_card_of_ne (hnone r hr)).symm
  | some r₀ =>
    have hr₀ := List.mem_of_find?_eq_some hfind
    have hhas : r₀.hasUser name = true := (List.find?_eq_some_iff_append.mp hfind).1
    obtain ⟨u₀, hu₀, hname⟩ := List.any_eq_true.mp hhas
    have hname : u₀.userName = name := of_decide_eq_true hname
    simp only [Option.map_some, EventRoomManager.cards, EventRoomManager.updateRoom, List.map_map]
    refine List.map_congr_left fun r hr => ?_
    simp only [Function.comp]
    split_ifs with hroom
    · have hsub : (r.users.map EventUser.userName).Sublist
          ((erm.rooms.flatMap EventRoom.users).map EventUser.userName) := by
        rw [List.flatMap_def]
        exact (List.sublist_flatten_of_mem (List.mem_map_of_mem hr)).map _
      rw [card_forfeit]
      exact card_markLoggedOut (hmixed (by decide) r hr) (hnames.sublist hsub)
    · refine (mark_card_of_ne fun u hu heq => hroom ⟨htypes r hr, ?_⟩).symm
      rw [same_room hnames hr hr₀ hu hu₀ (heq.trans hname.symm)]

end

end KoServer
