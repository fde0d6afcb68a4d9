import Mathlib.Logic.Function.Basic
import KoServer.Spec.BagItems
import KoServer.Spec.Merchant

/-! Joining the lottery: `handle_join` of `handler/lottery.rs`, taken apart at its locks. A session
takes its next request when the last one is done. -/

namespace KoServer

structure LotteryEnv where
  getItem : ItemTable
  toUppercase : List Char → List Char

structure LotteryUserInfo where
  name : List Char
  ticketCount : ℕ
deriving DecidableEq

structure LotteryProcess where
  lotteryStart : Bool
  /-- Item and count; an item or a count of 0 asks for nothing. -/
  reqItems : List (ℕ × ℕ)
  userLimit : ℕ
  userJoinCounter : ℕ
  participants : List LotteryUserInfo
deriving DecidableEq

structure LotteryPlayer where
  name : List Char
  inventory : Inventory
  gold : ℕ
deriving DecidableEq

inductive JoinReply
  | fail (msg : String)
  | success (ticketCount : ℕ)
deriving DecidableEq

/-- What a request does next; the required items are those it has read. -/
inductive JoinStage
  | snapshot
  | checkExist (reqItems left : List (ℕ × ℕ))
  | goldLose (reqItems : List (ℕ × ℕ))
  | robItem (left : List (ℕ × ℕ))
  | register
  | done (reply : JoinReply)
deriving DecidableEq

def JoinStage.isDone : JoinStage → Bool
  | .done _ => true
  | _ => false

structure JoinRequest where
  charName : List Char
  stage : JoinStage
deriving DecidableEq

structure LotteryWorld where
  process : LotteryProcess
  /-- The characters in game. -/
  players : ℕ → Option LotteryPlayer
  requests : ℕ → Option JoinRequest

/-- `entry(name).or_insert_with(..)` and one ticket more. -/
def addTicket (name : List Char) : List LotteryUserInfo → List LotteryUserInfo
  | [] => [⟨name, 1⟩]
  | u :: us =>
    if u.name = name then { u with ticketCount := u.ticketCount + 1 } :: us
    else u :: addTicket name us

def ticketCountOf (name : List Char) (participants : List LotteryUserInfo) : ℕ :=
  ((participants.find? fun u => u.name = name).map LotteryUserInfo.ticketCount).getD 0

def LotteryProcess.register (p : LotteryProcess) (charName : List Char) : LotteryProcess :=
  { p with
    participants := addTicket charName p.participants
    userJoinCounter := p.userJoinCounter + 1 }

/-- Entries that `check_exist_item` and `rob_item` are not asked for. -/
def skipsItem (req : ℕ × ℕ) : Bool := req.1 = 0 || req.2 = 0 || req.1 = ITEM_GOLD

/-- `(*item_count).min(u16::MAX as u32) as u16`. -/
def reqCount (req : ℕ × ℕ) : ℕ := min req.2 65535

def totalGoldCost (reqItems : List (ℕ × ℕ)) : ℕ :=
  reqItems.foldl
    (fun total req => if req.1 = ITEM_GOLD ∧ 0 < req.2 then saturatingAdd32 total req.2 else total) 0

namespace LotteryWorld

variable (env : LotteryEnv) (s : LotteryWorld)

def idle (sid : ℕ) : Bool := (s.requests sid).all fun r => r.stage.isDone

def setStage (sid : ℕ) (r : JoinRequest) (stage : JoinStage) : LotteryWorld :=
  { s with requests := Function.update s.requests sid (some { r with stage := stage }) }

def setPlayer (sid : ℕ) (p : LotteryPlayer) : LotteryWorld :=
  { s with players := Function.update s.players sid (some p) }

def handleJoin (sid : ℕ) : LotteryWorld :=
  match s.players sid with
  | none => s
  | some charInfo =>
    s.setStage sid ⟨env.toUppercase charInfo.name, .snapshot⟩ <|
      if !s.process.lotteryStart then .done (.fail "The Lottery Event has not started.")
      else if s.process.userLimit ≤ s.process.userJoinCounter then
        .done (.fail "Limit is insufficient.")
      else .snapshot

/-- What follows, one lock at a time. -/
def joinPart (sid : ℕ) (r : JoinRequest) (p : LotteryPlayer) : LotteryWorld :=
  match r.stage with
  | .snapshot => s.setStage sid r (.checkExist s.process.reqItems s.process.reqItems)
  | .checkExist reqItems [] => s.setStage sid r (.goldLose reqItems)
  | .checkExist reqItems (req :: left) =>
    s.setStage sid r <|
      if skipsItem req || checkExistItemCount p.inventory req.1 (reqCount req) then
        .checkExist reqItems left
      else .done (.fail "No items")
  | .goldLose reqItems =>
    if 0 < totalGoldCost reqItems then
      match goldLose p.gold (totalGoldCost reqItems) with
      | none =>
        s.setStage sid r
          (.done (.fail "You don't have enough money for the lottery event."))
      | some gold => (s.setPlayer sid { p with gold := gold }).setStage sid r (.robItem reqItems)
    else s.setStage sid r (.robItem reqItems)
  | .robItem [] => s.setStage sid r .register
  | .robItem (req :: left) =>
    if skipsItem req then s.setStage sid r (.robItem left)
    else
      -- a refusal is logged and skipped
      let inventory := (robItem env.getItem p.inventory req.1 (reqCount req)).getD p.inventory
      (s.setPlayer sid { p with inventory := inventory }).setStage sid r (.robItem left)
  | .register =>
    if s.process.userLimit ≤ s.process.userJoinCounter then
      s.setStage sid r (.done (.fail "Limit is insufficient."))
    else
      let process := s.process.register r.charName
      { s with process := process }.setStage sid r
        (.done (.success (ticketCountOf r.charName process.participants)))
  | .done _ => s

/-- The next part of a session's request, or the first of its next one. -/
def join (sid : ℕ) : LotteryWorld :=
  if s.idle sid then s.handleJoin env sid
  else
    match s.requests sid, s.players sid with
    | some r, some p => s.joinPart env sid r p
    | _, _ => s

end LotteryWorld

end KoServer
