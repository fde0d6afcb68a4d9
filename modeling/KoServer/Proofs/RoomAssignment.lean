import KoServer.Lib.Blocks
import KoServer.Proofs.TempleSeats

/-! Assigning the signed-up users to the new rooms deals each queue out in blocks: nobody sits
twice, a room is only begun when those before it are full on that side, and who is left out found
every room full. -/

namespace KoServer

/-- The seats of a room: 0 is the side of the dungeon, where the nations are not parted. -/
def EventRoom.side (r : EventRoom) : ℕ → List EventUser
  | 0 => r.mixedUsers
  | 1 => r.karusUsers
  | 2 => r.elmoradUsers
  | _ => []

/-- The users as they sit in a room. -/
def SignedUpUser.seated (u : SignedUpUser) : EventUser := u.enter u.nation

/-- Nobody is lost: the rooms hold users of their side up to `cap`, each user once, and fill up one
after the other in the order of joining. `lane` is the side that a user belongs to. -/
structure Assignment (cap : ℕ) (lane : SignedUpUser → ℕ) (users : List SignedUpUser)
    (rooms : List EventRoom) (total : ℕ) : Prop where
  capacity : ∀ r ∈ rooms, ∀ n, (r.side n).length ≤ cap
  own : ∀ r ∈ rooms, ∀ n, ∀ v ∈ r.side n, ∃ u ∈ users, lane u = n ∧ v = u.seated
  once : ((rooms.flatMap EventRoom.users).map EventUser.userName).Nodup
  total : total = (rooms.flatMap EventRoom.users).length
  filled : ∀ r ∈ rooms, ∀ r' ∈ rooms, r.roomId < r'.roomId →
    ∀ n, r'.side n ≠ [] → (r.side n).length = cap
  ordered : ∀ r ∈ rooms, ∀ r' ∈ rooms, r.roomId < r'.roomId →
    ∀ u ∈ users, ∀ u' ∈ users, lane u = lane u' → u.seated ∈ r.side (lane u) →
      u'.seated ∈ r'.side (lane u') → u.joinOrder < u'.joinOrder
  passed : ∀ u ∈ users, ∀ u' ∈ users, lane u = lane u' → u.joinOrder < u'.joinOrder →
    (∃ r ∈ rooms, u'.seated ∈ r.side (lane u')) → ∃ r ∈ rooms, u.seated ∈ r.side (lane u)
  leftOut : ∀ u ∈ users, (∀ r ∈ rooms, u.seated ∉ r.side (lane u)) →
    ∀ r ∈ rooms, (r.side (lane u)).length = cap

namespace EventRoom

variable {r : EventRoom} {n m : ℕ} {us us' : List EventUser}

/-- The users sit down on a side. -/
def seat (r : EventRoom) (us : List EventUser) : ℕ → EventRoom
  | 0 => { r with mixedUsers := r.mixedUsers ++ us }
  | 1 => { r with karusUsers := r.karusUsers ++ us }
  | 2 => { r with elmoradUsers := r.elmoradUsers ++ us }
  | _ => r

theorem side_seat (hn : n ≤ 2) : (r.seat us n).side n = r.side n ++ us := by
  match n, hn with
  | 0, _ | 1, _ | 2, _ => rfl

theorem side_seat_ne (h : m ≠ n) : (r.seat us n).side m = r.side m := by
  rcases n with _ | _ | _ | n <;> rcases m with _ | _ | _ | m <;>
    first | rfl | exact absurd rfl h

@[simp] theorem seat_nil : r.seat [] n = r := by
  unfold seat
  split <;> simp

@[simp] theorem seat_seat : (r.seat us n).seat us' n = r.seat (us ++ us') n := by
  unfold seat
  split <;> simp

@[simp] theorem seat_roomId : (r.seat us n).roomId = r.roomId := by
  unfold seat
  split <;> rfl

@[simp] theorem seat_eventType : (r.seat us n).eventType = r.eventType := by
  unfold seat
  split <;> rfl

theorem users_eq : r.users = r.side 1 ++ r.side 2 ++ r.side 0 := rfl

theorem side_of_empty (h : r.users = []) : r.side n = [] := by
  simp only [users, List.append_eq_nil_iff] at h
  unfold side
  split
  · exact h.2
  · exact h.1.1
  · exact h.1.2
  · rfl

/-- A user with a new name sits down while there is a place. -/
theorem addUser_seat {u : EventUser} (htype : r.eventType ≠ .chaosDungeon)
    (hnation : u.nation = 1 ∨ u.nation = 2)
    (hplace : (r.side u.nation).length < MAX_ROOM_USERS_PER_NATION)
    (hnew : ∀ v ∈ r.side u.nation, v.userName ≠ u.userName) :
    r.addUser u = some (r.seat [u] u.nation) := by
  have hkeep : (r.side u.nation).filter (·.userName ≠ u.userName) = r.side u.nation :=
    List.filter_eq_self.mpr fun v hv => by simpa using hnew v hv
  unfold addUser
  dsimp only
  split
  · exact absurd ‹_› htype
  · rcases hnation with h | h
    · rw [h] at hkeep hplace ⊢
      change r.karusUsers.filter _ = r.karusUsers at hkeep
      change r.karusUsers.length < MAX_ROOM_USERS_PER_NATION at hplace
      rw [if_pos rfl, if_neg (Nat.not_le.mpr hplace), hkeep]
      rfl
    · rw [h] at hkeep hplace ⊢
      change r.elmoradUsers.filter _ = r.elmoradUsers at hkeep
      change r.elmoradUsers.length < MAX_ROOM_USERS_PER_NATION at hplace
      rw [if_neg (by decide), if_neg (Nat.not_le.mpr hplace), hkeep]
      rfl

theorem addUser_mixed {u : EventUser} (htype : r.eventType = .chaosDungeon)
    (hplace : (r.side 0).length < MAX_CHAOS_ROOM_USERS)
    (hnew : ∀ v ∈ r.side 0, v.userName ≠ u.userName) : r.addUser u = some (r.seat [u] 0) := by
  have hkeep : r.mixedUsers.filter (·.userName ≠ u.userName) = r.mixedUsers :=
    List.filter_eq_self.mpr fun v hv => by simpa using hnew v hv
  unfold addUser
  change r.mixedUsers.length < MAX_CHAOS_ROOM_USERS at hplace
  rw [htype]
  dsimp only
  rw [if_neg (Nat.not_le.mpr hplace), hkeep, ← htype]
  rfl

end EventRoom

/-- Names that nobody on the side has, each once. -/
def FreshNames (side : List EventUser) (queue : List SignedUpUser) : Prop :=
  (side.map EventUser.userName ++ queue.map SignedUpUser.userName).Nodup

section

variable {side : List EventUser} {queue : List SignedUpUser} {u : SignedUpUser}

theorem FreshNames.head (h : FreshNames side (u :: queue)) :
    ∀ v ∈ side, v.userName ≠ u.userName := by
  intro v hv heq
  exact (List.nodup_append.mp h).2.2 _ (List.mem_map_of_mem hv) _ List.mem_cons_self heq

theorem FreshNames.seated (h : FreshNames side (u :: queue)) {v : EventUser}
    (hname : v.userName = u.userName) : FreshNames (side ++ [v]) queue := by
  unfold FreshNames at h ⊢
  simpa [hname] using h

end

theorem fillSlots_seat {nation : ℕ} (hnation : nation = 1 ∨ nation = 2) (slots : ℕ) :
    ∀ (queue : List SignedUpUser) (r : EventRoom), r.eventType ≠ .chaosDungeon →
      (r.side nation).length + slots ≤ MAX_ROOM_USERS_PER_NATION →
      FreshNames (r.side nation) queue →
      fillSlots nation slots queue r =
          (queue.drop slots, r.seat ((queue.take slots).map (·.enter nation)) nation) ∧
        assignedSlots nation slots queue r = (queue.take slots).length := by
  have hside : ∀ (r : EventRoom) us, (r.seat us nation).side nation = r.side nation ++ us :=
    fun r us => EventRoom.side_seat (by omega)
  induction slots with
  | zero =>
    intro queue r _ _ _
    simp [fillSlots, assignedSlots]
  | succ slots ih =>
    intro queue r htype hroom hnew
    cases queue with
    | nil => simp [fillSlots, assignedSlots]
    | cons u queue =>
      have hadd : r.addUser (u.enter nation) = some (r.seat [u.enter nation] nation) :=
        EventRoom.addUser_seat htype hnation (by dsimp only [SignedUpUser.enter]; omega) hnew.head
      obtain ⟨hfill, hcount⟩ := ih queue (r.seat [u.enter nation] nation) (by simpa using htype)
        (by rw [hside, List.length_append, List.length_singleton]; omega)
        (by rw [hside]; exact hnew.seated rfl)
      unfold fillSlots assignedSlots
      rw [hadd]
      dsimp only
      rw [hfill, hcount]
      simp [Nat.add_comm]

theorem fillMixed_seat (slots : ℕ) :
    ∀ (queue : List SignedUpUser) (r : EventRoom), r.eventType = .chaosDungeon →
      (r.side 0).length + slots ≤ MAX_CHAOS_ROOM_USERS → FreshNames (r.side 0) queue →
      fillMixed slots queue r =
          (queue.drop slots, r.seat ((queue.take slots).map SignedUpUser.seated) 0) ∧
        assignedMixed slots queue r = (queue.take slots).length := by
  have hside : ∀ (r : EventRoom) us, (r.seat us 0).side 0 = r.side 0 ++ us :=
    fun r us => EventRoom.side_seat (by omega)
  induction slots with
  | zero =>
    intro queue r _ _ _
    simp [fillMixed, assignedMixed]
  | succ slots ih =>
    intro queue r htype hroom hnew
    cases queue with
    | nil => simp [fillMixed, assignedMixed]
    | cons u queue =>
      have hadd : r.addUser u.seated = some (r.seat [u.seated] 0) :=
        EventRoom.addUser_mixed htype (by omega) hnew.head
      obtain ⟨hfill, hcount⟩ := ih queue (r.seat [u.seated] 0) (by simpa using htype)
        (by rw [hside, List.length_append, List.length_singleton]; omega)
        (by rw [hside]; exact hnew.seated rfl)
      have hadd' : r.addUser (u.enter u.nation) = some (r.seat [u.seated] 0) := hadd
      simp only [fillMixed, assignedMixed, hadd']
      rw [hfill, hcount]
      simp [Nat.add_comm]

structure Dealt (cap : ℕ) (q : ℕ → List SignedUpUser) (rooms rs : List EventRoom) (total : ℕ) :
    Prop where
  ids : rs.map EventRoom.roomId = rooms.map EventRoom.roomId
  types : rs.map EventRoom.eventType = rooms.map EventRoom.eventType
  sides : ∀ n, rs.map (·.side n) =
    (blocks cap rooms.length (q n)).map (·.map SignedUpUser.seated)
  total : total = (rs.flatMap EventRoom.users).length

section

variable {cap total : ℕ} {q : ℕ → List SignedUpUser} {r r' : EventRoom} {rooms rs : List EventRoom}

theorem Dealt.nil : Dealt cap q [] [] 0 :=
  ⟨rfl, rfl, fun _ => rfl, rfl⟩

theorem Dealt.cons (hid : r'.roomId = r.roomId) (htype : r'.eventType = r.eventType)
    (hside : ∀ n, r'.side n = ((q n).take cap).map SignedUpUser.seated)
    (h : Dealt cap (fun n => (q n).drop cap) rooms rs total) :
    Dealt cap q (r :: rooms) (r' :: rs) (r'.users.length + total) where
  ids := by rw [List.map_cons, List.map_cons, hid, h.ids]
  types := by rw [List.map_cons, List.map_cons, htype, h.types]
  sides := fun n => by
    rw [List.map_cons, hside, h.sides n]
    rfl
  total := by rw [List.flatMap_cons, List.length_append, h.total]

theorem Dealt.rest (hempty : ∀ r ∈ rooms, r.users = []) (hq : ∀ n, q n = []) :
    Dealt cap q rooms rooms 0 := by
  induction rooms generalizing q with
  | nil => exact Dealt.nil
  | cons r rooms ih =>
    obtain ⟨hr, hempty⟩ := List.forall_mem_cons.mp hempty
    have htail : Dealt cap (fun n => (q n).drop cap) rooms rooms 0 :=
      ih hempty fun n => by rw [hq n, List.drop_nil]
    have hside : ∀ n, r.side n = ((q n).take cap).map SignedUpUser.seated := fun n => by
      rw [hq n, List.take_nil, List.map_nil, EventRoom.side_of_empty hr]
    have hcons := Dealt.cons rfl rfl hside htail
    rwa [hr] at hcons

end

structure Queues (q : ℕ → List SignedUpUser) : Prop where
  nation : ∀ n, ∀ u ∈ q n, u.nation = n
  sides : ∀ n, n ≠ 1 → n ≠ 2 → q n = []
  names : ∀ n, ((q n).map SignedUpUser.userName).Nodup

theorem Queues.drop {q : ℕ → List SignedUpUser} (h : Queues q) (k : ℕ) :
    Queues fun n => (q n).drop k where
  nation := fun n u hu => h.nation n u (List.mem_of_mem_drop hu)
  sides := fun n h1 h2 => by rw [h.sides n h1 h2, List.drop_nil]
  names := fun n => (h.names n).sublist ((List.drop_sublist _ _).map _)

theorem freshNames_nil {queue : List SignedUpUser}
    (h : (queue.map SignedUpUser.userName).Nodup) : FreshNames [] queue := h

theorem seated_of_nation {n : ℕ} {queue : List SignedUpUser} (h : ∀ u ∈ queue, u.nation = n) :
    queue.map (·.enter n) = queue.map SignedUpUser.seated :=
  List.map_congr_left fun u hu => by rw [SignedUpUser.seated, h u hu]

theorem side_of_two {r : EventRoom} (hr : r.users = []) (karus elmorad : List EventUser) (n : ℕ) :
    ((r.seat karus 1).seat elmorad 2).side n =
      if n = 1 then karus else if n = 2 then elmorad else [] := by
  split_ifs with h1 h2
  · rw [h1, EventRoom.side_seat_ne (by decide), EventRoom.side_seat (by decide),
      EventRoom.side_of_empty hr, List.nil_append]
  · rw [h2, EventRoom.side_seat (by decide), EventRoom.side_seat_ne (by decide),
      EventRoom.side_of_empty hr, List.nil_append]
  · rw [EventRoom.side_seat_ne h2, EventRoom.side_seat_ne h1, EventRoom.side_of_empty hr]

theorem fillRooms_dealt (rooms : List EventRoom) : ∀ q : ℕ → List SignedUpUser, Queues q →
    (∀ r ∈ rooms, r.users = [] ∧ r.eventType ≠ .chaosDungeon) →
    Dealt MAX_ROOM_USERS_PER_NATION q rooms (fillRooms rooms (q 1) (q 2))
      (assignedRooms rooms (q 1) (q 2)) := by
  induction rooms with
  | nil => exact fun _ _ _ => Dealt.nil
  | cons r rooms ih =>
    intro q hq hrooms
    obtain ⟨⟨hr, htype⟩, hrest⟩ := List.forall_mem_cons.mp hrooms
    unfold fillRooms assignedRooms
    by_cases hdone : q 1 = [] ∧ q 2 = []
    · rw [if_pos hdone, if_pos hdone]
      refine Dealt.rest (fun r hr => (hrooms r hr).1) fun n => ?_
      by_cases h1 : n = 1
      · rw [h1, hdone.1]
      by_cases h2 : n = 2
      · rw [h2, hdone.2]
      exact hq.sides n h1 h2
    · rw [if_neg hdone, if_neg hdone]
      let cap := MAX_ROOM_USERS_PER_NATION
      let karus := ((q 1).take cap).map (·.enter 1)
      let elmorad := ((q 2).take cap).map (·.enter 2)
      have hkarus : r.side 1 = [] := EventRoom.side_of_empty hr
      have helmorad : (r.seat karus 1).side 2 = [] := by
        rw [EventRoom.side_seat_ne (by decide), EventRoom.side_of_empty hr]
      obtain ⟨hfill₁, hcount₁⟩ := fillSlots_seat (.inl rfl) cap (q 1) r htype
        (by rw [hkarus]; rfl) (by rw [hkarus]; exact freshNames_nil (hq.names 1))
      obtain ⟨hfill₂, hcount₂⟩ := fillSlots_seat (.inr rfl) cap (q 2) (r.seat karus 1)
        (by simpa using htype) (by rw [helmorad]; rfl)
        (by rw [helmorad]; exact freshNames_nil (hq.names 2))
      change r.karusUsers = [] at hkarus
      change (r.seat karus 1).elmoradUsers = [] at helmorad
      dsimp only
      rw [hkarus, List.length_nil, Nat.sub_zero, hfill₁, hcount₁]
      dsimp only
      rw [helmorad, List.length_nil, Nat.sub_zero, hfill₂, hcount₂]
      dsimp only
      have htail := ih (fun n => (q n).drop cap) (hq.drop cap) hrest
      have hcons : Dealt cap q (r :: _)
          ({ (r.seat karus 1).seat elmorad 2 with state := .running } :: _) _ :=
        htail.cons (by simp) (by simp) fun n => by
          change ((r.seat karus 1).seat elmorad 2).side n = _
          rw [side_of_two hr]
          split_ifs with h1 h2
          · rw [h1]
            exact seated_of_nation fun u hu => hq.nation 1 u (List.mem_of_mem_take hu)
          · rw [h2]
            exact seated_of_nation fun u hu => hq.nation 2 u (List.mem_of_mem_take hu)
          · rw [hq.sides n h1 h2, List.take_nil, List.map_nil]
      have hlength : ((r.seat karus 1).seat elmorad 2).users.length =
          ((q 1).take cap).length + ((q 2).take cap).length := by
        rw [EventRoom.users_eq, side_of_two hr, side_of_two hr, side_of_two hr]
        simp [karus, elmorad]
      have hcount : { (r.seat karus 1).seat elmorad 2 with state := .running }.users.length =
          ((q 1).take cap).length + ((q 2).take cap).length := hlength
      rwa [hcount] at hcons

theorem fillMixedRooms_dealt (rooms : List EventRoom) : ∀ q : ℕ → List SignedUpUser,
    (∀ n, n ≠ 0 → q n = []) → ((q 0).map SignedUpUser.userName).Nodup →
    (∀ r ∈ rooms, r.users = [] ∧ r.eventType = .chaosDungeon) →
    Dealt MAX_CHAOS_ROOM_USERS q rooms (fillMixedRooms rooms (q 0))
      (assignedMixedRooms rooms (q 0)) := by
  induction rooms with
  | nil => exact fun _ _ _ _ => Dealt.nil
  | cons r rooms ih =>
    intro q hq hnames hrooms
    obtain ⟨⟨hr, htype⟩, hrest⟩ := List.forall_mem_cons.mp hrooms
    let cap := MAX_CHAOS_ROOM_USERS
    let users := ((q 0).take cap).map SignedUpUser.seated
    have hmixed : r.side 0 = [] := EventRoom.side_of_empty hr
    obtain ⟨hfill, hcount⟩ := fillMixed_seat cap (q 0) r htype (by rw [hmixed]; rfl)
      (by rw [hmixed]; exact freshNames_nil hnames)
    have hother : ∀ n, n ≠ 0 → (r.seat users 0).side n = [] := fun n hn => by
      rw [EventRoom.side_seat_ne hn, EventRoom.side_of_empty hr]
    have hown : (r.seat users 0).side 0 = users := by
      rw [EventRoom.side_seat (by decide), hmixed, List.nil_append]
    change r.mixedUsers = [] at hmixed
    unfold fillMixedRooms assignedMixedRooms
    dsimp only
    rw [hmixed, List.length_nil, Nat.sub_zero, hfill, hcount]
    dsimp only
    have htail := ih (fun n => (q n).drop cap) (fun n hn => by rw [hq n hn, List.drop_nil])
      (hnames.sublist ((List.drop_sublist _ _).map _)) hrest
    have hlength : (r.seat users 0).users.length = ((q 0).take cap).length := by
      rw [EventRoom.users_eq, hother 1 (by decide), hother 2 (by decide), hown]
      simp [users]
    have hside : ∀ n, (r.seat users 0).side n = ((q n).take cap).map SignedUpUser.seated := by
      intro n
      by_cases hn : n = 0
      · rw [hn, hown]
      · rw [hother n hn, hq n hn, List.take_nil, List.map_nil]
    rw [← hlength]
    split_ifs
    · exact htail.cons (by simp) (by simp) hside
    · exact htail.cons (by simp) (by simp) (fun n => hside n)

/-- The queues in which the users stand, by the side. -/
structure Lines (lane : SignedUpUser → ℕ) (users : List SignedUpUser)
    (q : ℕ → List SignedUpUser) : Prop where
  mem : ∀ n u, u ∈ q n ↔ u ∈ users ∧ lane u = n
  sorted : ∀ n, (q n).Pairwise fun u u' => u.joinOrder < u'.joinOrder

section

variable {cap total : ℕ} {lane : SignedUpUser → ℕ} {users : List SignedUpUser}
  {q : ℕ → List SignedUpUser} {rooms rs : List EventRoom}

theorem Dealt.block (h : Dealt cap q rooms rs total) {r : EventRoom} (hr : r ∈ rs) (n : ℕ) :
    ∃ b ∈ blocks cap rooms.length (q n), r.side n = b.map SignedUpUser.seated := by
  have hmem : r.side n ∈ rs.map (·.side n) := List.mem_map_of_mem hr
  rw [h.sides n] at hmem
  obtain ⟨b, hb, heq⟩ := List.mem_map.mp hmem
  exact ⟨b, hb, heq.symm⟩

theorem Dealt.room (h : Dealt cap q rooms rs total) (n : ℕ) {b : List SignedUpUser}
    (hb : b ∈ blocks cap rooms.length (q n)) :
    ∃ r ∈ rs, r.side n = b.map SignedUpUser.seated := by
  have hmem : b.map SignedUpUser.seated ∈ rs.map (·.side n) := by
    rw [h.sides n]
    exact List.mem_map_of_mem hb
  exact List.mem_map.mp hmem

theorem Dealt.pairwise (h : Dealt cap q rooms rs total) (n : ℕ)
    {R : List EventUser → List EventUser → Prop}
    (hblocks : (blocks cap rooms.length (q n)).Pairwise fun b b' =>
      R (b.map SignedUpUser.seated) (b'.map SignedUpUser.seated)) :
    rs.Pairwise fun r r' => R (r.side n) (r'.side n) := by
  have hsides : (rs.map (·.side n)).Pairwise R := by
    rw [h.sides n]
    exact List.pairwise_map.mpr hblocks
  exact List.pairwise_map.mp hsides

theorem mem_of_mem_block {b : List SignedUpUser} {n k : ℕ} {u : SignedUpUser}
    (hb : b ∈ blocks cap k (q n)) (hu : u ∈ b) : u ∈ q n := by
  have hmem := List.mem_flatten_of_mem hb hu
  rw [Blocks.flatten] at hmem
  exact List.mem_of_mem_take hmem

theorem seated_mem (hnames : (users.map SignedUpUser.userName).Nodup) {b : List SignedUpUser}
    (hb : ∀ u ∈ b, u ∈ users) {u : SignedUpUser} (hu : u ∈ users) :
    u.seated ∈ b.map SignedUpUser.seated ↔ u ∈ b := by
  constructor
  · intro hmem
    obtain ⟨w, hw, heq⟩ := List.mem_map.mp hmem
    have hname : w.userName = u.userName := congrArg EventUser.userName heq
    rwa [List.inj_on_of_nodup_map hnames (hb w hw) hu hname] at hw
  · exact fun hu => List.mem_map_of_mem hu

theorem Lines.block_users (hlines : Lines lane users q) {b : List SignedUpUser} {n k : ℕ}
    (hb : b ∈ blocks cap k (q n)) : ∀ u ∈ b, u ∈ users :=
  fun u hu => ((hlines.mem n u).mp (mem_of_mem_block hb hu)).1

theorem Dealt.seated_iff (h : Dealt cap q rooms rs total) (hlines : Lines lane users q)
    (hnames : (users.map SignedUpUser.userName).Nodup) {u : SignedUpUser} (hu : u ∈ users) :
    (∃ r ∈ rs, u.seated ∈ r.side (lane u)) ↔
      u ∈ (blocks cap rooms.length (q (lane u))).flatten := by
  constructor
  · rintro ⟨r, hr, hmem⟩
    obtain ⟨b, hb, hside⟩ := h.block hr (lane u)
    rw [hside, seated_mem hnames (hlines.block_users hb) hu] at hmem
    exact List.mem_flatten_of_mem hb hmem
  · intro hmem
    obtain ⟨b, hb, hub⟩ := List.mem_flatten.mp hmem
    obtain ⟨r, hr, hside⟩ := h.room (lane u) hb
    exact ⟨r, hr, hside ▸ List.mem_map_of_mem hub⟩

theorem Dealt.users_perm (h : Dealt cap q rooms rs total) :
    (rs.flatMap EventRoom.users).Perm
      (((q 1).take (cap * rooms.length) ++ (q 2).take (cap * rooms.length) ++
        (q 0).take (cap * rooms.length)).map SignedUpUser.seated) := by
  have hside : ∀ n, rs.flatMap (·.side n) =
      ((q n).take (cap * rooms.length)).map SignedUpUser.seated := fun n => by
    rw [List.flatMap_def, h.sides n, ← List.map_flatten, Blocks.flatten]
  rw [List.map_append, List.map_append, ← hside, ← hside, ← hside]
  refine List.Perm.symm ?_
  refine ((List.flatMap_append_perm rs (·.side 1) (·.side 2)).append_right _).trans ?_
  exact List.flatMap_append_perm rs _ _

theorem Lines.names (hlines : Lines lane users q)
    (hnames : (users.map SignedUpUser.userName).Nodup) :
    ((q 1 ++ q 2 ++ q 0).map SignedUpUser.userName).Nodup := by
  have hnodup : ∀ n, (q n).Nodup := fun n =>
    (hlines.sorted n).imp fun {u v} hlt heq => by
      subst heq
      exact Nat.lt_irrefl _ hlt
  have happart : ∀ n m, n ≠ m → List.Disjoint (q n) (q m) := fun n m hne u hn hm =>
    hne (((hlines.mem n u).mp hn).2.symm.trans ((hlines.mem m u).mp hm).2)
  have hall : (q 1 ++ q 2 ++ q 0).Nodup := by
    refine List.Nodup.append ((hnodup 1).append (hnodup 2) (happart 1 2 (by decide))) (hnodup 0) ?_
    exact List.disjoint_append_left.mpr ⟨happart 1 0 (by decide), happart 2 0 (by decide)⟩
  refine hall.map_on fun u hu v hv heq => ?_
  have hmem : ∀ u ∈ q 1 ++ q 2 ++ q 0, u ∈ users := by
    intro u hu
    simp only [List.mem_append, hlines.mem] at hu
    rcases hu with (⟨hu, -⟩ | ⟨hu, -⟩) | ⟨hu, -⟩ <;> exact hu
  exact List.inj_on_of_nodup_map hnames (hmem u hu) (hmem v hv) heq

/-- Rooms in the order of their numbers into which sorted queues are dealt out lose nobody. -/
theorem Dealt.assignment (h : Dealt cap q rooms rs total) (hlines : Lines lane users q)
    (hids : rs.Pairwise fun r r' => r.roomId < r'.roomId)
    (hnames : (users.map SignedUpUser.userName).Nodup) : Assignment cap lane users rs total where
  capacity := fun r hr n => by
    obtain ⟨b, hb, hside⟩ := h.block hr n
    rw [hside, List.length_map]
    exact Blocks.length_le b hb
  own := fun r hr n v hv => by
    obtain ⟨b, hb, hside⟩ := h.block hr n
    rw [hside] at hv
    obtain ⟨u, hu, rfl⟩ := List.mem_map.mp hv
    obtain ⟨hu, hlane⟩ := (hlines.mem n u).mp (mem_of_mem_block hb hu)
    exact ⟨u, hu, hlane, rfl⟩
  once := by
    refine (h.users_perm.map EventUser.userName).nodup_iff.mpr ?_
    rw [List.map_map]
    refine (hlines.names hnames).sublist (List.Sublist.map _ ?_)
    exact ((List.take_sublist _ _).append (List.take_sublist _ _)).append (List.take_sublist _ _)
  total := h.total
  filled := fun r hr r' hr' hlt n => by
    have hfull := h.pairwise n (R := fun s s' => s' ≠ [] → s.length = cap)
      (Blocks.pairwise_full.imp fun hb hne => by
        rw [List.length_map]
        exact hb fun hnil => hne (by rw [hnil, List.map_nil]))
    exact hids.of_lt hfull r hr r' hr' hlt
  ordered := fun r hr r' hr' hlt u hu u' hu' hlane hseat hseat' => by
    have hlt' := h.pairwise (lane u)
      (R := fun s s' => u.seated ∈ s → u'.seated ∈ s' → u.joinOrder < u'.joinOrder)
      ((Blocks.pairwise_of_pairwise (hlines.sorted (lane u))).imp_of_mem
        fun hb hb' hR hmem hmem' => by
          rw [seated_mem hnames (hlines.block_users hb) hu] at hmem
          rw [seated_mem hnames (hlines.block_users hb') hu'] at hmem'
          exact hR u hmem u' hmem')
    exact hids.of_lt hlt' r hr r' hr' hlt hseat (hlane ▸ hseat')
  passed := fun u hu u' hu' hlane hlt hseated => by
    rw [h.seated_iff hlines hnames hu'] at hseated
    rw [h.seated_iff hlines hnames hu]
    rw [← hlane] at hseated
    exact Blocks.mem_of_before (hlines.sorted _) ((hlines.mem _ u).mpr ⟨hu, rfl⟩)
      (Nat.not_lt.mpr hlt.le) hseated
  leftOut := fun u hu hleft r hr => by
    obtain ⟨b, hb, hside⟩ := h.block hr (lane u)
    rw [hside, List.length_map]
    refine Blocks.full_of_left ((hlines.mem _ u).mpr ⟨hu, rfl⟩) (fun b' hb' hub => ?_) b hb
    obtain ⟨r', hr', hside'⟩ := h.room (lane u) hb'
    exact hleft r' hr' (hside' ▸ List.mem_map_of_mem hub)

end

/-- The rooms of the event that are there already are such as `init_rooms` makes. -/
def EventRoomManager.Numbered (erm : EventRoomManager) (t : TempleEventType) (maxRooms : ℕ) :
    Prop :=
  ∀ r ∈ erm.listRooms t, 1 ≤ r.roomId ∧ r.roomId ≤ min maxRooms MAX_TEMPLE_EVENT_ROOM

/-- The rooms that `init_rooms` makes. -/
def madeRooms (t : TempleEventType) (maxRooms : ℕ) : List EventRoom :=
  (List.range' 1 (min maxRooms MAX_TEMPLE_EVENT_ROOM)).map fun id => { roomId := id, eventType := t }

section

variable {erm : EventRoomManager} {t : TempleEventType} {maxRooms : ℕ}

theorem mem_madeRooms {r : EventRoom} (hr : r ∈ madeRooms t maxRooms) :
    r.users = [] ∧ r.eventType = t ∧ 1 ≤ r.roomId ∧
      r.roomId ≤ min maxRooms MAX_TEMPLE_EVENT_ROOM := by
  obtain ⟨id, hid, rfl⟩ := List.mem_map.mp hr
  rw [List.mem_range'_1] at hid
  exact ⟨rfl, rfl, hid.1, by dsimp only; omega⟩

theorem madeRooms_ids :
    (madeRooms t maxRooms).map EventRoom.roomId =
      List.range' 1 (min maxRooms MAX_TEMPLE_EVENT_ROOM) := by
  simp [madeRooms, Function.comp_def]

theorem listRooms_createRooms (h : erm.Numbered t maxRooms) :
    (erm.createRooms t maxRooms).listRooms t = madeRooms t maxRooms := by
  unfold EventRoomManager.createRooms EventRoomManager.listRooms
  dsimp only
  rw [List.filter_append, List.filter_filter]
  have hold : erm.rooms.filter (fun r => decide (r.eventType = t) &&
      decide ¬(r.eventType = t ∧ 1 ≤ r.roomId ∧ r.roomId ≤ min maxRooms MAX_TEMPLE_EVENT_ROOM)) =
      [] := by
    refine List.filter_eq_nil_iff.mpr fun r hr hboth => ?_
    simp only [Bool.and_eq_true, decide_eq_true_eq] at hboth
    exact hboth.2 ⟨hboth.1, h r (List.mem_filter.mpr ⟨hr, decide_eq_true hboth.1⟩)⟩
  rw [hold, List.nil_append]
  refine List.filter_eq_self.mpr fun r hr => ?_
  exact decide_eq_true (mem_madeRooms hr).2.1

/-- A manager keeps to its numbers: its rooms are made, destroyed and changed under them. -/
theorem numbered_kept (h : erm.Numbered t maxRooms) :
    (erm.createRooms t maxRooms).Numbered t maxRooms ∧
      (erm.destroyRooms t).Numbered t maxRooms ∧
      ∀ id f, (∀ r, (f r).roomId = r.roomId ∧ (f r).eventType = r.eventType) →
        (erm.updateRoom t id f).Numbered t maxRooms := by
  refine ⟨fun r hr => ?_, fun r hr => ?_, fun id f hf r hr => ?_⟩
  · rw [listRooms_createRooms h] at hr
    exact (mem_madeRooms hr).2.2
  · obtain ⟨hr, htype⟩ := List.mem_filter.mp hr
    exact absurd (of_decide_eq_true htype) (of_decide_eq_true (List.mem_filter.mp hr).2)
  · obtain ⟨hr, htype⟩ := List.mem_filter.mp hr
    obtain ⟨r₀, hr₀, rfl⟩ := List.mem_map.mp hr
    have hsame : ∀ r₁ : EventRoom, (if r₁.eventType = t ∧ r₁.roomId = id then f r₁ else r₁).roomId =
        r₁.roomId ∧ (if r₁.eventType = t ∧ r₁.roomId = id then f r₁ else r₁).eventType =
        r₁.eventType := fun r₁ => by
      split_ifs
      · exact hf r₁
      · exact ⟨rfl, rfl⟩
    rw [(hsame r₀).2] at htype
    rw [(hsame r₀).1]
    exact h r₀ (List.mem_filter.mpr ⟨hr₀, htype⟩)

theorem sortedRooms_createRooms (h : erm.Numbered t maxRooms) :
    (erm.createRooms t maxRooms).sortedRooms t = madeRooms t maxRooms := by
  unfold EventRoomManager.sortedRooms
  rw [listRooms_createRooms h]
  refine List.mergeSort_of_pairwise (List.pairwise_map.mpr ?_)
  exact (List.pairwise_lt_range' (s := 1)).imp fun hlt => by simpa using hlt.le

theorem listRooms_fillWith (h : erm.Numbered t maxRooms) {fill : List EventRoom → List EventRoom}
    {cap total : ℕ} {q : ℕ → List SignedUpUser}
    (hdealt : Dealt cap q (madeRooms t maxRooms) (fill (madeRooms t maxRooms)) total) :
    ((erm.createRooms t maxRooms).fillWith t fill).listRooms t =
      fill (madeRooms t maxRooms) := by
  have hsorted := sortedRooms_createRooms h
  unfold EventRoomManager.sortedRooms at hsorted
  unfold EventRoomManager.fillWith
  rw [hsorted]
  unfold EventRoomManager.listRooms
  dsimp only
  have hrest : ((erm.createRooms t maxRooms).destroyRooms t).rooms.filter (·.eventType = t) = [] := by
    refine List.filter_eq_nil_iff.mpr fun r hr htype => ?_
    have hne := (List.mem_filter.mp hr).2
    exact of_decide_eq_true hne (of_decide_eq_true htype)
  rw [List.filter_append, hrest, List.nil_append]
  refine List.filter_eq_self.mpr fun r hr => ?_
  have hmem : r.eventType ∈ (fill (madeRooms t maxRooms)).map EventRoom.eventType :=
    List.mem_map_of_mem hr
  rw [hdealt.types] at hmem
  obtain ⟨r₀, hr₀, heq⟩ := List.mem_map.mp hmem
  exact decide_eq_true (heq.symm.trans (mem_madeRooms hr₀).2.1)

theorem Dealt.made {cap total : ℕ} {q : ℕ → List SignedUpUser} {rs : List EventRoom}
    (h : Dealt cap q (madeRooms t maxRooms) rs total) :
    rs.map EventRoom.roomId = List.range' 1 (min maxRooms MAX_TEMPLE_EVENT_ROOM) ∧
      rs.Pairwise fun r r' => r.roomId < r'.roomId := by
  have hids := h.ids.trans madeRooms_ids
  refine ⟨hids, List.pairwise_map.mp ?_⟩
  rw [hids]
  exact List.pairwise_lt_range'

end

section

variable {users : List SignedUpUser}

theorem sorted_by_order (horders : (users.map SignedUpUser.joinOrder).Nodup) :
    (users.mergeSort fun a b => a.joinOrder ≤ b.joinOrder).Pairwise
      fun u u' => u.joinOrder < u'.joinOrder := by
  have hle : (users.mergeSort fun a b => a.joinOrder ≤ b.joinOrder).Pairwise
      fun u u' => decide (u.joinOrder ≤ u'.joinOrder) = true :=
    List.pairwise_mergeSort (fun a b c hab hbc => by simp only [decide_eq_true_eq] at *; omega)
      (fun a b => by simp only [Bool.or_eq_true, decide_eq_true_eq]; omega) users
  have hne : (users.mergeSort fun a b => a.joinOrder ≤ b.joinOrder).Pairwise
      fun u u' => u.joinOrder ≠ u'.joinOrder :=
    List.pairwise_map.mp (((List.mergeSort_perm users _).map _).nodup_iff.mpr horders)
  refine (hle.and hne).imp fun h => ?_
  have hle := of_decide_eq_true h.1
  omega

theorem names_of_perm {queue : List SignedUpUser} (hperm : queue.Perm users)
    (hnames : (users.map SignedUpUser.userName).Nodup) :
    (queue.map SignedUpUser.userName).Nodup :=
  (hperm.map _).nodup_iff.mpr hnames

variable {erm : EventRoomManager}

/-- The queues of the war and of the mountain. -/
def nationLines (erm : EventRoomManager) (n : ℕ) : List SignedUpUser :=
  if n = 1 ∨ n = 2 then erm.nationQueue n else []

theorem nationLines_queues (hnames : (erm.signedUpUsers.map SignedUpUser.userName).Nodup) :
    Queues (nationLines erm) where
  nation := fun n u hu => by
    unfold nationLines at hu
    split_ifs at hu
    · have hmem := (nationQueue_perm erm n).mem_iff.mp hu
      exact of_decide_eq_true (List.mem_filter.mp hmem).2
    · exact absurd hu List.not_mem_nil
  sides := fun n h1 h2 => if_neg (by omega)
  names := fun n => by
    unfold nationLines
    split_ifs
    · exact names_of_perm (nationQueue_perm erm n) (hnames.sublist (List.filter_sublist.map _))
    · exact List.nodup_nil

theorem nationLines_lines (horders : (erm.signedUpUsers.map SignedUpUser.joinOrder).Nodup)
    (hnations : ∀ u ∈ erm.signedUpUsers, u.nation = 1 ∨ u.nation = 2) :
    Lines SignedUpUser.nation erm.signedUpUsers (nationLines erm) where
  mem := fun n u => by
    unfold nationLines
    split_ifs with hn
    · rw [(nationQueue_perm erm n).mem_iff, List.mem_filter, decide_eq_true_eq]
    · simp only [List.not_mem_nil, false_iff]
      rintro ⟨hu, rfl⟩
      exact hn (hnations u hu)
  sorted := fun n => by
    unfold nationLines
    split_ifs
    · exact sorted_by_order (horders.sublist (List.filter_sublist.map _))
    · exact List.Pairwise.nil

/-- The one queue of the dungeon. -/
def mixedLine (erm : EventRoomManager) (n : ℕ) : List SignedUpUser :=
  if n = 0 then erm.signedUpUsers.mergeSort fun a b => a.joinOrder ≤ b.joinOrder else []

theorem mixedLine_lines (horders : (erm.signedUpUsers.map SignedUpUser.joinOrder).Nodup) :
    Lines (fun _ => 0) erm.signedUpUsers (mixedLine erm) where
  mem := fun n u => by
    unfold mixedLine
    split_ifs with hn
    · rw [(List.mergeSort_perm _ _).mem_iff]
      exact ⟨fun hu => ⟨hu, hn.symm⟩, fun hu => hu.1⟩
    · simp only [List.not_mem_nil, false_iff]
      exact fun hu => hn hu.2.symm
  sorted := fun n => by
    unfold mixedLine
    split_ifs
    · exact sorted_by_order horders
    · exact List.Pairwise.nil

end

section

variable {erm : EventRoomManager} {t : TempleEventType} {maxRooms : ℕ}

theorem assignNations_dealt (hmade : erm.Numbered t maxRooms) (ht : t ≠ .chaosDungeon)
    (hnames : (erm.signedUpUsers.map SignedUpUser.userName).Nodup) :
    Dealt MAX_ROOM_USERS_PER_NATION (nationLines erm) (madeRooms t maxRooms)
      (((erm.createRooms t maxRooms).assignNations t).listRooms t)
      ((erm.createRooms t maxRooms).assignNationsTotal t) := by
  unfold EventRoomManager.assignNations EventRoomManager.assignNationsTotal
  by_cases hnone : (erm.createRooms t maxRooms).signedUpUsers = []
  · rw [if_pos hnone, if_pos hnone, listRooms_createRooms hmade]
    refine Dealt.rest (fun r hr => (mem_madeRooms hr).1) fun n => ?_
    have hempty : erm.nationQueue n = [] := by
      unfold EventRoomManager.nationQueue
      rw [show erm.signedUpUsers = [] from hnone]
      simp
    unfold nationLines
    rw [hempty, ite_self]
  · rw [if_neg hnone, if_neg hnone, sortedRooms_createRooms hmade]
    have hdealt := fillRooms_dealt (madeRooms t maxRooms) (nationLines erm)
      (nationLines_queues hnames)
      fun r hr => ⟨(mem_madeRooms hr).1, fun h => ht ((mem_madeRooms hr).2.1.symm.trans h)⟩
    rw [listRooms_fillWith hmade hdealt]
    exact hdealt

theorem assignMixed_dealt (hmade : erm.Numbered .chaosDungeon maxRooms)
    (hnames : (erm.signedUpUsers.map SignedUpUser.userName).Nodup) :
    Dealt MAX_CHAOS_ROOM_USERS (mixedLine erm) (madeRooms .chaosDungeon maxRooms)
      (((erm.createRooms .chaosDungeon maxRooms).assignMixed .chaosDungeon).listRooms .chaosDungeon)
      ((erm.createRooms .chaosDungeon maxRooms).assignMixedTotal .chaosDungeon) := by
  unfold EventRoomManager.assignMixed EventRoomManager.assignMixedTotal
  by_cases hnone : (erm.createRooms .chaosDungeon maxRooms).signedUpUsers = []
  · rw [if_pos hnone, if_pos hnone, listRooms_createRooms hmade]
    refine Dealt.rest (fun r hr => (mem_madeRooms hr).1) fun n => ?_
    unfold mixedLine
    rw [show erm.signedUpUsers = [] from hnone]
    simp
  · rw [if_neg hnone, if_neg hnone, sortedRooms_createRooms hmade]
    have hdealt := fillMixedRooms_dealt (madeRooms .chaosDungeon maxRooms) (mixedLine erm)
      (fun n hn => if_neg hn) (names_of_perm (List.mergeSort_perm _ _) hnames)
      fun r hr => ⟨(mem_madeRooms hr).1, (mem_madeRooms hr).2.1⟩
    rw [listRooms_fillWith hmade hdealt]
    exact hdealt

end

/-- Right after `init_rooms` the rooms are numbered from 1, and the assignment loses nobody: by the
nations in the war and on the mountain, all together in the dungeon. -/
theorem room_assignment_loses_nobody (erm : EventRoomManager) (t : TempleEventType) (maxRooms : ℕ)
    (hmade : erm.Numbered t maxRooms)
    (hnames : (erm.signedUpUsers.map SignedUpUser.userName).Nodup)
    (horders : (erm.signedUpUsers.map SignedUpUser.joinOrder).Nodup)
    (hnations : ∀ u ∈ erm.signedUpUsers, u.nation = 1 ∨ u.nation = 2) :
    let made := erm.createRooms t maxRooms
    ((made.listRooms t).map EventRoom.roomId = List.range' 1 (min maxRooms MAX_TEMPLE_EVENT_ROOM)) ∧
      (t ≠ .chaosDungeon →
        ((made.assignNations t).listRooms t).map EventRoom.roomId =
            (made.listRooms t).map EventRoom.roomId ∧
          Assignment MAX_ROOM_USERS_PER_NATION SignedUpUser.nation erm.signedUpUsers
            ((made.assignNations t).listRooms t) (made.assignNationsTotal t)) ∧
      (t = .chaosDungeon →
        ((made.assignMixed t).listRooms t).map EventRoom.roomId =
            (made.listRooms t).map EventRoom.roomId ∧
          Assignment MAX_CHAOS_ROOM_USERS (fun _ => 0) erm.signedUpUsers
            ((made.assignMixed t).listRooms t) (made.assignMixedTotal t)) := by
  intro made
  have hids : (made.listRooms t).map EventRoom.roomId =
      List.range' 1 (min maxRooms MAX_TEMPLE_EVENT_ROOM) := by
    rw [listRooms_createRooms hmade, madeRooms_ids]
  refine ⟨hids, fun ht => ?_, fun ht => ?_⟩
  · have hdealt := assignNations_dealt hmade ht hnames
    obtain ⟨hnumbers, hrise⟩ := hdealt.made
    exact ⟨hnumbers.trans hids.symm,
      hdealt.assignment (nationLines_lines horders hnations) hrise hnames⟩
  · subst ht
    have hdealt := assignMixed_dealt hmade hnames
    obtain ⟨hnumbers, hrise⟩ := hdealt.made
    exact ⟨hnumbers.trans hids.symm, hdealt.assignment (mixedLine_lines horders) hrise hnames⟩

/-- Two of one nation and one of the other before a single room. -/
def threeSignedUp : EventRoomManager where
  signedUpUsers :=
    [{ userName := ['a'], sessionId := 1, nation := 1, joinOrder := 2 },
      { userName := ['b'], sessionId := 2, nation := 2, joinOrder := 1 },
      { userName := ['c'], sessionId := 3, nation := 1, joinOrder := 3 }]

theorem threeSignedUp_all_in :
    (threeSignedUp.createRooms .juraidMountain 1).assignNationsTotal .juraidMountain =
      ((((threeSignedUp.createRooms .juraidMountain 1).assignNations .juraidMountain).listRooms
        .juraidMountain).flatMap EventRoom.users).length :=
  ((room_assignment_loses_nobody threeSignedUp .juraidMountain 1 (by simp [EventRoomManager.Numbered,
    EventRoomManager.listRooms, threeSignedUp]) (by decide) (by decide) (by decide)).2.1 (by decide)).2.total

end KoServer
