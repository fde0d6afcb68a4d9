import KoServer.Lib.KeyedList
import KoServer.Lib.Run
import KoServer.Spec.Letter

/-! Chat rooms: `ChatRoom` of `world/types.rs` and `create_chat_room` of `world/social.rs`. The
members are a hash map, so a search by name meets them in an order of its own. -/

namespace KoServer

structure ChatRoom where
  name : List Char
  administrator : List Char
  password : List Char
  nation : ℕ
  maxUsers : ℕ
  currentUsers : ℕ
  /-- Member ids with the names of the characters. -/
  members : @KeyedList ℕ (ℕ × List Char) Prod.fst
  nextMemberId : ℕ

namespace ChatRoom

def hasPassword (room : ChatRoom) : Bool := room.password ≠ []

def isAdministrator (room : ChatRoom) (name : List Char) : ℕ :=
  if eqIgnoreAsciiCase room.administrator name then 2 else 1

/-- The id that the next member gets. The counter has 16 bits. -/
def memberId (room : ChatRoom) : ℕ := (room.nextMemberId + 1) % 2 ^ 16

def addUser (room : ChatRoom) (name : List Char) : Bool × ChatRoom :=
  if room.maxUsers ≤ room.currentUsers then (false, room)
  else
    (true,
      { room with
        nextMemberId := room.memberId
        members := room.members.insert (room.memberId, name)
        currentUsers := room.currentUsers + 1 })

def removeUserById (room : ChatRoom) (memberId : ℕ) : Bool × ChatRoom :=
  if room.members.has memberId then
    (true,
      { room with
        members := room.members.erase memberId
        currentUsers := room.currentUsers - 1 })
  else (false, room)

def keyOf (room : ChatRoom) (shuffle : Shuffle (ℕ × List Char)) (name : List Char) : Option ℕ :=
  ((shuffle.order room.members.entries).find? fun m => eqIgnoreAsciiCase m.2 name).map Prod.fst

def removeUser (room : ChatRoom) (shuffle : Shuffle (ℕ × List Char)) (name : List Char) :
    Bool × ChatRoom :=
  match room.keyOf shuffle name with
  | some k =>
    (true,
      { room with
        members := room.members.erase k
        currentUsers := room.currentUsers - 1 })
  | none => (false, room)

end ChatRoom

/-- The room that `create_chat_room` enters, with its creator in it. -/
def createChatRoom (name administrator password : List Char) (nation maxUsers : ℕ) : ChatRoom :=
  (ChatRoom.addUser ⟨name, administrator, password, nation, maxUsers, 0, KeyedList.empty, 0⟩
    administrator).2

def chatroomJoin (room : ChatRoom) (isCurrent : Bool) (playerName password : List Char)
    (playerNation : ℕ) : ℕ × ChatRoom :=
  if isCurrent then (1, room)
  else if room.nation ≠ playerNation then (5, room)
  else if room.maxUsers ≤ room.currentUsers then (2, room)
  else if room.hasPassword && !eqIgnoreAsciiCase room.password password then (4, room)
  else
    match room.addUser playerName with
    | (true, room) => (0, room)
    | (false, room) => (2, room)

def chatroomLeave (room : ChatRoom) (shuffle : Shuffle (ℕ × List Char)) (playerName : List Char) :
    Option ChatRoom :=
  if room.isAdministrator playerName = 2 then none else some (room.removeUser shuffle playerName).2

/-- What happens to a room. The administrator is a field that anyone may set. -/
inductive RoomStep
  | addUser (name : List Char)
  | removeUser (shuffle : Shuffle (ℕ × List Char)) (name : List Char)
  | removeUserById (memberId : ℕ)
  | setAdministrator (name : List Char)

def RoomStep.apply (room : ChatRoom) : RoomStep → ChatRoom
  | .addUser name => (room.addUser name).2
  | .removeUser shuffle name => (room.removeUser shuffle name).2
  | .removeUserById memberId => (room.removeUserById memberId).2
  | .setAdministrator name => { room with administrator := name }

end KoServer
