import KoServer.Spec.Knights
import KoServer.Spec.Level

/-! Requests that spend gold, taken apart at their queries: `handle_create` of `handler/knights.rs`
and `handle_all_point_change` of `handler/class_change.rs`. Between two parts other sessions may
credit gold to the character. -/

namespace KoServer

/-- The fields of `CharacterInfo` that the requests read and write. -/
structure Spender extends Progress where
  name : List Char
  nation : ℕ
  knightsId : ℕ
  fame : ℕ
  pendingKnightsInvite : ℕ

def Spender.clansman (c : Spender) : Clansman :=
  ⟨c.name, c.nation, c.level, c.gold, c.knightsId, c.fame, c.pendingKnightsInvite⟩

structure CreateQueries where
  /-- Whether the name is taken; `none` is an error. -/
  findByName : Option Bool
  nextClanId : Option ℕ
  createKnights : Bool

/-- The query that a request waits for, with the character as it was in the beginning. -/
inductive Stage
  | start
  | findByName (ch : Spender)
  | nextClanId (ch : Spender)
  | createKnights (ch : Spender) (nextId : ℕ)
  | updateUserKnights (ch : Spender) (nextId : ℕ)
  | done (succeeded : Bool)

namespace Spender

variable (c : Spender)

/-- One part of a clan creation. An error of `update_user_knights` changes nothing. -/
def handleCreate (env : KnightsEnv) (clanName : List Char) (queries : CreateQueries) :
    Stage → Stage × Spender
  | .start =>
    if env.isPlayerDead then (.done false, c)
    else if env.isTrading then (.done false, c)
    else if clanName = [] ∨ MAX_ID_SIZE < (asBytes clanName).length then (.done false, c)
    else if 0 < c.knightsId then (.done false, c)
    else if c.level < CLAN_LEVEL_REQUIREMENT then (.done false, c)
    else if c.gold < CLAN_COIN_REQUIREMENT then (.done false, c)
    else if ¬ env.clanUpdates then (.done false, c)
    else (.findByName c, c)
  | .findByName ch =>
    if queries.findByName = some false then (.nextClanId ch, c) else (.done false, c)
  | .nextClanId ch =>
    match queries.nextClanId with
    | some nextId => (.createKnights ch nextId, c)
    | none => (.done false, c)
  | .createKnights ch nextId =>
    if queries.createKnights then (.updateUserKnights ch nextId, c) else (.done false, c)
  | .updateUserKnights ch nextId =>
    (.done true,
      { c with gold := ch.gold - CLAN_COIN_REQUIREMENT, knightsId := nextId, fame := CHIEF })
  | .done succeeded => (.done succeeded, c)

def handleAllPointChange (t : LevelTables) (env : ResetEnv) : Stage → Stage × Spender
  | .start =>
    let refused := env.hasEquipment || !env.free && decide (c.gold < resetCost t env c.level)
    (.done (!refused), { c with toProgress := c.toProgress.handleAllPointChange t env })
  | stage => (stage, c)

/-- `gold_gain`. -/
def goldGain (amount : ℕ) : Spender := { c with gold := KoServer.goldGain c.gold amount }

end Spender

inductive GoldRequest
  | create (env : KnightsEnv) (clanName : List Char) (queries : CreateQueries)
  | allPointChange (env : ResetEnv)

namespace GoldRequest

variable (t : LevelTables)

def part (c : Spender) (stage : Stage) : GoldRequest → Stage × Spender
  | create env clanName queries => c.handleCreate env clanName queries stage
  | allPointChange env => c.handleAllPointChange t env stage

def price (level : ℕ) : GoldRequest → ℕ
  | create _ _ _ => CLAN_COIN_REQUIREMENT
  | allPointChange env => resetCost t env level

end GoldRequest

structure Spending where
  stage : Stage
  ch : Spender

inductive SpendingStep
  | credit (amount : ℕ)
  | part

def Spending.step (t : LevelTables) (request : GoldRequest) (s : Spending) : SpendingStep → Spending
  | .credit amount => { s with ch := s.ch.goldGain amount }
  | .part =>
    let (stage, ch) := request.part t s.ch s.stage
    ⟨stage, ch⟩

end KoServer
