import KoServer.Spec.ChatRoom

/-! A chat room counts its members as long as no member id comes round while a member still holds
it. The counter of the ids has 16 bits, so it can only come round after 65536 joins. -/

namespace KoServer

namespace ChatRoom

def Counted (room : ChatRoom) : Prop :=
  room.currentUsers = room.members.entries.length ∧ room.currentUsers ≤ room.maxUsers

/-- The room holds the new member and each that it held before. -/
def Gained (room : ChatRoom) (name : List Char) (after : ChatRoom) : Prop :=
  (room.memberId, name) ∈ after.members.entries ∧
    (∀ m ∈ room.members.entries, m ∈ after.members.entries) ∧
    after.members.entries.length = room.members.entries.length + 1

end ChatRoom

namespace RoomStep

/-- The step leaves the count right, and a join that is accepted only adds its member. -/
def Kept (room : ChatRoom) (step : RoomStep) : Prop :=
  (step.apply room).Counted ∧
    ∀ name, step = .addUser name → (room.addUser name).1 = true → room.Gained name (step.apply room)

/-- No member holds the id that a join gives out. -/
def IdFree (room : ChatRoom) (step : RoomStep) : Prop :=
  ∀ name, step = .addUser name → room.currentUsers < room.maxUsers →
    ∀ m ∈ room.members.entries, m.1 ≠ room.memberId

end RoomStep

section

variable {room : ChatRoom} {name : List Char}

open ChatRoom RoomStep

theorem addUser_accepts : (room.addUser name).1 = true ↔ room.currentUsers < room.maxUsers := by
  unfold ChatRoom.addUser
  split
  case isTrue hfull => simpa using hfull
  case isFalse hroom => simpa using hroom

theorem addUser_accepted (h : room.currentUsers < room.maxUsers) :
    (room.addUser name).2 =
      { room with
        nextMemberId := room.memberId
        members := room.members.insert (room.memberId, name)
        currentUsers := room.currentUsers + 1 } := by
  unfold ChatRoom.addUser
  rw [if_neg (Nat.not_le.mpr h)]

theorem addUser_refused (h : ¬ room.currentUsers < room.maxUsers) :
    (room.addUser name).2 = room := by
  unfold ChatRoom.addUser
  rw [if_pos (Nat.not_lt.mp h)]

theorem gained_of_free (h : room.currentUsers < room.maxUsers)
    (hfree : ∀ m ∈ room.members.entries, m.1 ≠ room.memberId) :
    room.Gained name (room.addUser name).2 := by
  rw [addUser_accepted h]
  refine ⟨?_, ?_, ?_⟩
  · exact KeyedList.mem_insert.mpr (Or.inl rfl)
  · intro m hm
    exact KeyedList.mem_insert.mpr (Or.inr ⟨hm, hfree m hm⟩)
  · exact KeyedList.length_insert_of_free hfree

theorem free_of_gained (h : room.currentUsers < room.maxUsers)
    (hgained : room.Gained name (room.addUser name).2) :
    ∀ m ∈ room.members.entries, m.1 ≠ room.memberId := by
  intro m hm htaken
  obtain ⟨-, -, hlength⟩ := hgained
  rw [addUser_accepted h] at hlength
  have hsame : (room.members.insert (room.memberId, name)).entries.length =
      room.members.entries.length := KeyedList.length_insert_of_taken hm htaken
  exact absurd (hsame.symm.trans hlength) (Nat.ne_of_lt (Nat.lt_succ_self _))

theorem erased_counted {m : ℕ × List Char} (h : room.Counted) (hm : m ∈ room.members.entries) :
    Counted
      { room with members := room.members.erase m.1, currentUsers := room.currentUsers - 1 } := by
  obtain ⟨hcount, hmax⟩ := h
  have hlength := KeyedList.length_erase hm
  constructor
  · show room.currentUsers - 1 = (room.members.erase m.1).entries.length
    omega
  · show room.currentUsers - 1 ≤ room.maxUsers
    omega

theorem keyOf_mem {shuffle : Shuffle (ℕ × List Char)} {k : ℕ}
    (h : room.keyOf shuffle name = some k) : ∃ m ∈ room.members.entries, m.1 = k := by
  obtain ⟨m, hfind, rfl⟩ := Option.map_eq_some_iff.mp h
  exact ⟨m, (shuffle.mem_order).mp (List.mem_of_find?_eq_some hfind), rfl⟩

theorem removeUser_counted (shuffle : Shuffle (ℕ × List Char)) (h : room.Counted) :
    (room.removeUser shuffle name).2.Counted := by
  unfold ChatRoom.removeUser
  cases hkey : room.keyOf shuffle name with
  | none => exact h
  | some k =>
    obtain ⟨m, hm, rfl⟩ := keyOf_mem hkey
    exact erased_counted h hm

theorem removeUserById_counted {memberId : ℕ} (h : room.Counted) :
    (room.removeUserById memberId).2.Counted := by
  unfold ChatRoom.removeUserById
  split
  case isTrue hhas =>
    obtain ⟨m, hm, rfl⟩ := KeyedList.has_iff.mp hhas
    exact erased_counted h hm
  case isFalse => exact h

theorem addUser_counted (h : room.Counted)
    (hgained : (room.addUser name).1 = true → room.Gained name (room.addUser name).2) :
    (room.addUser name).2.Counted := by
  by_cases hroom : room.currentUsers < room.maxUsers
  · obtain ⟨-, -, hlength⟩ := hgained (addUser_accepts.mpr hroom)
    obtain ⟨hcount, -⟩ := h
    constructor
    · rw [hlength, addUser_accepted hroom, hcount]
    · rw [addUser_accepted hroom]
      exact hroom
  · rw [addUser_refused hroom]
    exact h

theorem kept_iff (step : RoomStep) (h : room.Counted) : step.Kept room ↔ step.IdFree room := by
  constructor
  · intro hkept name hstep hroom
    obtain ⟨-, hgained⟩ := hkept
    subst hstep
    exact free_of_gained hroom (hgained name rfl (addUser_accepts.mpr hroom))
  · intro hfree
    have hgained : ∀ name, step = .addUser name → (room.addUser name).1 = true →
        room.Gained name (step.apply room) := by
      intro name hstep haccept
      subst hstep
      have hroom := addUser_accepts.mp haccept
      exact gained_of_free hroom (hfree name rfl hroom)
    refine ⟨?_, hgained⟩
    cases step with
    | addUser name => exact addUser_counted h (hgained name rfl)
    | removeUser shuffle name => exact removeUser_counted shuffle h
    | removeUserById memberId => exact removeUserById_counted h
    | setAdministrator name => exact h

theorem createChatRoom_counted (name administrator password : List Char) (nation maxUsers : ℕ) :
    (createChatRoom name administrator password nation maxUsers).Counted := by
  apply addUser_counted
  · exact ⟨rfl, Nat.zero_le _⟩
  · intro haccept
    apply gained_of_free (addUser_accepts.mp haccept)
    intro m hm
    cases hm

/-- The room counts its members and every join adds one exactly in the runs that give out no id which
a member holds. -/
theorem chat_room_kept_iff (name administrator password : List Char) (nation maxUsers : ℕ)
    (steps : List RoomStep) :
    (createChatRoom name administrator password nation maxUsers).Counted ∧
        Run.Along apply RoomStep.Kept (createChatRoom name administrator password nation maxUsers) steps ↔
      Run.Along apply IdFree (createChatRoom name administrator password nation maxUsers) steps := by
  have hcreated := createChatRoom_counted name administrator password nation maxUsers
  refine (and_iff_right hcreated).trans ?_
  exact Run.along_congr Counted (fun _ _ _ hkept => hkept.1) (fun _ step h => kept_iff step h) hcreated

/-- A request to join is a join of the room just where it is answered with 0. -/
theorem chatroomJoin_step (isCurrent : Bool) (password : List Char) (playerNation : ℕ) :
    (chatroomJoin room isCurrent name password playerNation).2 =
      if (chatroomJoin room isCurrent name password playerNation).1 = 0 then
        RoomStep.apply room (.addUser name)
      else room := by
  unfold chatroomJoin
  split
  · rfl
  split
  · rfl
  split
  · rfl
  split
  · rfl
  case isFalse.isFalse.isFalse.isFalse hfull _ =>
    have haccept := (@addUser_accepts room name).mpr (Nat.not_le.mp hfull)
    show _ = if _ then (room.addUser name).2 else room
    generalize room.addUser name = answer at haccept
    obtain ⟨ok, after⟩ := answer
    cases haccept
    rfl

theorem chatroomLeave_counted {shuffle : Shuffle (ℕ × List Char)} {after : ChatRoom}
    (h : room.Counted) (hleave : chatroomLeave room shuffle name = some after) :
    after.Counted := by
  unfold chatroomLeave at hleave
  split at hleave
  · cases hleave
  · cases hleave
    exact removeUser_counted shuffle h

namespace RoomStep

def isJoin : RoomStep → Bool
  | .addUser _ => true
  | _ => false

end RoomStep

/-- The counter has not come round: no member holds an id above it. -/
def ChatRoom.Behind (room : ChatRoom) : Prop := ∀ m ∈ room.members.entries, m.1 ≤ room.nextMemberId

theorem memberId_succ (h : room.nextMemberId + 1 < 2 ^ 16) :
    room.memberId = room.nextMemberId + 1 := Nat.mod_eq_of_lt h

theorem addUser_behind (h : room.Behind) (hnext : room.nextMemberId + 1 < 2 ^ 16) :
    (room.addUser name).2.Behind ∧ (room.addUser name).2.nextMemberId ≤ room.nextMemberId + 1 := by
  by_cases hroom : room.currentUsers < room.maxUsers
  · rw [addUser_accepted hroom, memberId_succ hnext]
    refine ⟨?_, Nat.le_refl _⟩
    intro m hm
    rcases KeyedList.mem_insert.mp hm with rfl | ⟨hm, -⟩
    · exact Nat.le_refl _
    · exact Nat.le_succ_of_le (h m hm)
  · rw [addUser_refused hroom]
    exact ⟨h, Nat.le_succ _⟩

theorem erase_behind {k users : ℕ} (h : room.Behind) :
    Behind { room with members := room.members.erase k, currentUsers := users } := by
  intro m hm
  exact h m (KeyedList.mem_erase.mp hm).1

theorem other_behind {step : RoomStep} (h : room.Behind) (hstep : step.isJoin = false) :
    (step.apply room).Behind ∧ (step.apply room).nextMemberId = room.nextMemberId := by
  cases step with
  | addUser name => cases hstep
  | removeUser shuffle name =>
    show (room.removeUser shuffle name).2.Behind ∧ (room.removeUser shuffle name).2.nextMemberId = _
    unfold ChatRoom.removeUser
    split
    · exact ⟨erase_behind h, rfl⟩
    · exact ⟨h, rfl⟩
  | removeUserById memberId =>
    show (room.removeUserById memberId).2.Behind ∧ (room.removeUserById memberId).2.nextMemberId = _
    unfold ChatRoom.removeUserById
    split
    · exact ⟨erase_behind h, rfl⟩
    · exact ⟨h, rfl⟩
  | setAdministrator name => exact ⟨h, rfl⟩

theorem few_joins_free {steps : List RoomStep} (h : room.Behind)
    (hfew : room.nextMemberId + steps.countP isJoin < 2 ^ 16) :
    Run.Along apply IdFree room steps := by
  induction steps generalizing room with
  | nil => trivial
  | cons step steps ih =>
    cases hjoin : step.isJoin with
    | true =>
      rw [List.countP_cons_of_pos hjoin] at hfew
      have hnext : room.nextMemberId + 1 < 2 ^ 16 := by omega
      cases step with
      | addUser name =>
        obtain ⟨hbehind, hle⟩ := @addUser_behind room name h hnext
        refine ⟨?_, ih hbehind ?_⟩
        · intro _ _ _ m hm
          rw [memberId_succ hnext]
          exact Nat.ne_of_lt (Nat.lt_succ_of_le (h m hm))
        · show (room.addUser name).2.nextMemberId + _ < _
          omega
      | removeUser | removeUserById | setAdministrator => cases hjoin
    | false =>
      rw [List.countP_cons_of_neg (by simp [hjoin])] at hfew
      obtain ⟨hbehind, hnext⟩ := other_behind h hjoin
      refine ⟨?_, ih hbehind (hnext ▸ hfew)⟩
      rintro name rfl
      cases hjoin

theorem createChatRoom_behind (name administrator password : List Char) (nation maxUsers : ℕ) :
    (createChatRoom name administrator password nation maxUsers).Behind ∧
      (createChatRoom name administrator password nation maxUsers).nextMemberId ≤ 1 := by
  refine addUser_behind ?_ (by simp)
  intro m hm
  cases hm

/-- A room that is joined less than 65535 times after its creator counts its members. -/
theorem few_joins_kept (name administrator password : List Char) (nation maxUsers : ℕ)
    {steps : List RoomStep} (hfew : steps.countP isJoin < 65535) :
    Run.Along apply RoomStep.Kept (createChatRoom name administrator password nation maxUsers) steps := by
  obtain ⟨hbehind, hnext⟩ := createChatRoom_behind name administrator password nation maxUsers
  have hfree := few_joins_free hbehind (by omega : _ + steps.countP isJoin < 2 ^ 16)
  have hcreated := createChatRoom_counted name administrator password nation maxUsers
  exact (Run.along_congr Counted (fun _ _ _ hkept => hkept.1) (fun _ step h => kept_iff step h)
    hcreated).mpr hfree

def guest : List Char := "Guest".toList

def lobby : ChatRoom := createChatRoom "Lobby".toList "Admin".toList [] 1 2

/-- A guest comes and goes. -/
def visits (n : ℕ) : List RoomStep :=
  (List.replicate n [RoomStep.addUser guest, RoomStep.removeUser .id guest]).flatten

/-- The administrator is alone in the lobby, whose counter stands at `next`. -/
structure Alone (next : ℕ) (room : ChatRoom) : Prop where
  room_for_two : room.maxUsers = 2
  one_user : room.currentUsers = 1
  only_admin : room.members.entries = [(1, "Admin".toList)]
  counter : room.nextMemberId = next

theorem lobby_alone : Alone 1 lobby := ⟨rfl, rfl, rfl, rfl⟩

theorem alone_joined {next : ℕ} (h : Alone next room) (hid : room.memberId ≠ 1) :
    (room.addUser guest).2.members.entries =
      [(room.memberId, guest), (1, "Admin".toList)] := by
  have hroom : room.currentUsers < room.maxUsers := by
    rw [h.one_user, h.room_for_two]
    decide
  rw [addUser_accepted hroom]
  simp [KeyedList.insert, KeyedList.erase, KeyedList.filter, h.only_admin, Ne.symm hid]

theorem visit_alone {next : ℕ} (h : Alone next room) (hid : room.memberId ≠ 1) :
    Alone room.memberId (Run.run apply room (visits 1)) := by
  have hroom : room.currentUsers < room.maxUsers := by
    rw [h.one_user, h.room_for_two]
    decide
  have hentries := alone_joined h hid
  show Alone _ ((room.addUser guest).2.removeUser .id guest).2
  generalize hafter : (room.addUser guest).2 = after at hentries ⊢
  rw [addUser_accepted hroom] at hafter
  have hkey : after.keyOf .id guest = some room.memberId := by
    unfold ChatRoom.keyOf
    rw [hentries]
    rfl
  have hgone : (after.members.erase room.memberId).entries = [(1, "Admin".toList)] := by
    simp [KeyedList.erase, KeyedList.filter, hentries, Ne.symm hid]
  unfold ChatRoom.removeUser
  rw [hkey]
  subst hafter
  exact ⟨h.room_for_two, h.one_user, hgone, rfl⟩

theorem visits_alone {n : ℕ} (hn : n < 2 ^ 16) :
    Alone ((n + 1) % 2 ^ 16) (Run.run apply lobby (visits n)) := by
  induction n with
  | zero => exact lobby_alone
  | succ n ih =>
    have halone := ih (Nat.lt_of_succ_lt hn)
    have hid : ChatRoom.memberId (Run.run apply lobby (visits n)) = (n + 2) % 2 ^ 16 := by
      unfold ChatRoom.memberId
      rw [halone.counter, Nat.mod_add_mod]
    have hvisits : visits (n + 1) = visits n ++ visits 1 := by
      unfold visits
      rw [List.replicate_succ', List.flatten_append, List.replicate_one]
    rw [hvisits, Run.run_append, ← hid]
    apply visit_alone halone
    omega

theorem admin_replaced {n : ℕ} (hn : n < 2 ^ 16) (hround : (n + 1) % 2 ^ 16 = 0) :
    ¬ Run.Along apply RoomStep.Kept lobby (visits n ++ [.addUser guest]) := by
  intro hkept
  obtain ⟨-, ⟨-, hgained⟩, -⟩ := Run.along_append.mp hkept
  have halone := visits_alone hn
  rw [hround] at halone
  generalize Run.run apply lobby (visits n) = room at halone hgained
  have hroom : room.currentUsers < room.maxUsers := by
    rw [halone.one_user, halone.room_for_two]
    decide
  have hfree := free_of_gained hroom (hgained guest rfl (addUser_accepts.mpr hroom))
  refine hfree (1, "Admin".toList) ?_ ?_
  · rw [halone.only_admin]
    exact List.mem_singleton.mpr rfl
  · unfold ChatRoom.memberId
    rw [halone.counter]
    rfl

/-- Once a guest has come and gone 65535 times, the next join takes the id of the administrator. -/
theorem guest_replaces_admin :
    ¬ ∀ (name administrator password : List Char) (nation maxUsers : ℕ) (steps : List RoomStep),
      Run.Along apply RoomStep.Kept (createChatRoom name administrator password nation maxUsers) steps := by
  intro hall
  have hkept : ∀ steps, Run.Along apply RoomStep.Kept lobby steps := hall _ _ _ _ _
  exact admin_replaced (by decide : 65535 < 2 ^ 16) rfl (hkept _)

end

end KoServer
