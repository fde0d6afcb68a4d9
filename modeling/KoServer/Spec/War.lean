import KoServer.Lib.Run
import Mathlib.Algebra.Order.Ring.Int

/-! The nation war: its clock, its results and the banishing after it (`systems/war.rs`,
`world/tables.rs`, `handler/monument.rs`). -/

namespace KoServer.War

def ZONE_BATTLE_BASE : ℕ := 60
def ZONE_BATTLE : ℕ := 61
def ZONE_BATTLE2 : ℕ := 62
def ZONE_BATTLE3 : ℕ := 63
def ZONE_BATTLE4 : ℕ := 64
def ZONE_BATTLE5 : ℕ := 65
def ZONE_BATTLE6 : ℕ := 66
def ZONE_ARDREAM_TYPE : ℕ := 72
def DECLARE_BATTLE_ZONE_STATUS : ℕ := 0x11

/-- The values of `battle_open`. -/
inductive BattleOpen
  | noBattle
  | nationBattle
  | snowBattle
  | siegeBattle
  deriving DecidableEq, Repr

/-- Nations are 1, Karus, and 2, El Morad; 0 is none. -/
structure BattleState where
  battleOpen : BattleOpen := .noBattle
  battleZone : ℕ := 0
  battleZoneType : ℕ := 0
  victory : ℕ := 0
  resultDelayVictory : ℕ := 0
  battleTime : ℤ := 0
  battleRemainingTime : ℤ := 0
  battleTimeDelay : ℤ := 0
  nereidsRemainingTime : ℤ := 0
  karusDead : ℕ := 0
  elmoradDead : ℕ := 0
  killedKarusNpc : ℕ := 0
  killedElmoradNpc : ℕ := 0
  karusMonuments : ℕ := 0
  elmoradMonuments : ℕ := 0
  karusMonumentPoint : ℕ := 0
  elmoradMonumentPoint : ℕ := 0
  karusFlag : ℕ := 0
  elmoradFlag : ℕ := 0
  karusOpenFlag : Bool := false
  elmoradOpenFlag : Bool := false
  banishFlag : Bool := false
  banishDelay : ℤ := 0
  resultDelay : Bool := false
  battleResultDelay : ℤ := 0
  commanderSelected : Bool := false
  nereidsMonumentArray : List ℕ := List.replicate 7 0
  deriving DecidableEq, Repr

/-- Unsigned counters stop at their type's last value. -/
def saturating (last n : ℕ) : ℕ := min n last

inductive BattleWinnerType
  | npc
  | kill
  | monument
  deriving DecidableEq

inductive WarTickAction
  | none
  | broadcastStatus (subType : ℕ)
  | broadcastUnderAttack
  | halfTimeResult (winnerNation : ℕ)
  | timeExpired
  | announceBanish
  | executeBanish
  | resultDelayFired (winnerNation : ℕ)
  | nereidsQuarterCheck (winnerNation : ℕ)
  | selectCommanders
  deriving DecidableEq, Repr

/-- The actions that `war_tick_world` carries out on the state. -/
def WarTickAction.settles : WarTickAction → Bool
  | .halfTimeResult _ | .timeExpired | .resultDelayFired _ | .nereidsQuarterCheck _ => true
  | _ => false

def winnerTypeForZone (battleZoneId : ℕ) : Option BattleWinnerType :=
  if battleZoneId = ZONE_BATTLE ∨ battleZoneId = ZONE_BATTLE2 ∨ battleZoneId = ZONE_BATTLE3 then
    some .npc
  else if battleZoneId = ZONE_BATTLE4 then some .monument
  else if battleZoneId = ZONE_BATTLE6 then some .kill
  else none

namespace BattleState

variable (s : BattleState)

def isWarOpen : Bool := s.battleOpen ≠ .noBattle

def battleZoneId : ℕ := ZONE_BATTLE_BASE + s.battleZone

/-- A reset leaves the length of a war and the winner of a delayed result. -/
def resetBattleZone : BattleState :=
  { battleTime := s.battleTime, resultDelayVictory := s.resultDelayVictory }

/-- `battle_zone_open` for a nation battle or a snow battle. -/
def battleZoneOpen (kind : BattleOpen) (zone : ℕ) : BattleState × Bool :=
  if s.isWarOpen then (s, false)
  else
    let zoneId := zone + ZONE_BATTLE_BASE
    ({ s.resetBattleZone with
        battleOpen := kind
        battleZone := zone
        battleRemainingTime := s.battleTime
        nereidsRemainingTime :=
          if zoneId = ZONE_BATTLE4 ∨ zoneId = ZONE_BATTLE5 then s.battleTime else 0 }, true)

def battleZoneClose : BattleState × BattleOpen :=
  match s.battleOpen with
  | .noBattle => (s, .noBattle)
  | .siegeBattle => (s, .siegeBattle)
  | prev => ({ s.resetBattleZone with banishFlag := true }, prev)

/-- The comparison of deaths alone: the side with fewer wins. -/
def fewerDead (tied : ℕ) : ℕ :=
  if s.karusDead > s.elmoradDead then 2
  else if s.elmoradDead > s.karusDead then 1
  else tied

def moreNpcs (tied : ℕ) : ℕ :=
  if s.killedKarusNpc > s.killedElmoradNpc then 1
  else if s.killedElmoradNpc > s.killedKarusNpc then 2
  else tied

/-- `battle_winner_result`. A tie of guards leads to the deaths in the first three zones and a tie of
deaths to the guards in the last three, so no tie leads round. -/
def battleWinnerResult (winnerType : BattleWinnerType) : ℕ :=
  let z := s.battleZoneId
  let kill :=
    s.fewerDead
      (if z = ZONE_BATTLE4 ∨ z = ZONE_BATTLE5 ∨ z = ZONE_BATTLE6 then s.moreNpcs 0 else 0)
  match winnerType with
  | .npc =>
    s.moreNpcs
      (if z = ZONE_BATTLE ∨ z = ZONE_BATTLE2 ∨ z = ZONE_BATTLE3 then s.fewerDead 0 else 0)
  | .monument =>
    if s.karusMonumentPoint > s.elmoradMonumentPoint then 1
    else if s.elmoradMonumentPoint > s.karusMonumentPoint then 2
    else kill
  | .kill => kill

def battleZoneResult (nation : ℕ) : BattleState :=
  if s.battleZoneType ≠ ZONE_ARDREAM_TYPE then
    { s with
      victory := nation
      karusOpenFlag := nation = 2
      elmoradOpenFlag := nation = 1
      banishFlag := true
      banishDelay := 0 }
  else { s with victory := nation }

def banAnnounceThreshold : ℤ :=
  if s.battleTime > 0 then max (s.battleTime.tdiv 360) 1 else 10

def banExecuteThreshold : ℤ :=
  if s.battleTime > 0 then max (s.battleTime.tdiv 120) 2 else 30

/-- The banishing, which goes on when the war is over; its thresholds are cut to sixteen bits. -/
def banishTick : BattleState × Option WarTickAction :=
  if s.banishFlag then
    let delay := min (s.banishDelay + 1) 32767
    if delay = s.banAnnounceThreshold.bmod (2 ^ 16) then
      ({ s with banishDelay := delay }, some .announceBanish)
    else if delay ≥ s.banExecuteThreshold.bmod (2 ^ 16) then
      ({ s with banishFlag := false, banishDelay := 0 }, some .executeBanish)
    else ({ s with banishDelay := delay }, none)
  else (s, none)

def elapsed : ℤ := s.battleTime - s.battleRemainingTime

def clockTick : BattleState :=
  { s with
    battleRemainingTime := max (s.battleRemainingTime - 1) (-2 ^ 31)
    nereidsRemainingTime :=
      if s.nereidsRemainingTime > 0 ∧ s.battleZoneId = ZONE_BATTLE4 then
        s.nereidsRemainingTime - 1
      else s.nereidsRemainingTime }

def resultDelayTick : BattleState × Option WarTickAction :=
  if s.resultDelay then
    let waited := s.battleResultDelay + 1
    let threshold :=
      if s.battleTime > 0 then s.battleTime.tdiv (max (s.battleTime.tdiv 10) 1) else 10
    if waited ≥ threshold then
      ({ s with battleResultDelay := waited, resultDelay := false },
        some (.resultDelayFired s.resultDelayVictory))
    else ({ s with battleResultDelay := waited }, none)
  else (s, none)

def noticeTick (interval : ℤ) (notice : WarTickAction) : BattleState × WarTickAction :=
  if s.battleTimeDelay + 1 ≥ interval then ({ s with battleTimeDelay := 0 }, notice)
  else ({ s with battleTimeDelay := s.battleTimeDelay + 1 }, .none)

def quarterWinner : Option ℕ :=
  if s.elapsed = s.battleTime.tdiv 4 ∧ s.battleZoneId = ZONE_BATTLE4 then
    if s.karusMonuments ≥ 7 ∧ s.elmoradMonuments = 0 then some 1
    else if s.karusMonuments = 0 ∧ s.elmoradMonuments ≥ 7 then some 2
    else none
  else none

def halfTimeWinner : Option ℕ :=
  if s.elapsed = s.battleTime.tdiv 2 then
    (winnerTypeForZone s.battleZoneId).map s.battleWinnerResult
  else none

def undecidedTick : BattleState × WarTickAction :=
  if s.commanderSelected = false ∧ s.elapsed ≥ max (s.battleTime.tdiv 24) 1 then
    ({ s with commanderSelected := true }, .selectCommanders)
  else
    match s.quarterWinner with
    | some winner => (s, .nereidsQuarterCheck winner)
    | none =>
      match s.halfTimeWinner with
      | some winner => (s, .halfTimeResult winner)
      | none =>
        s.noticeTick
          (if s.battleZoneId = ZONE_BATTLE4 then max (s.battleTime.tdiv 48) 1
            else max (s.battleTime.tdiv 24) 1)
          (.broadcastStatus DECLARE_BATTLE_ZONE_STATUS)

def battleTick : BattleState × WarTickAction :=
  match s.resultDelayTick with
  | (s, some action) => (s, action)
  | (s, none) =>
    if s.battleRemainingTime ≤ 0 then (s, .timeExpired)
    else if s.victory = 0 then s.undecidedTick
    else s.noticeTick (max (s.battleTime.tdiv 24) 1) .broadcastUnderAttack

def warTick : BattleState × WarTickAction :=
  match s.banishTick with
  | (s, some action) => (s, action)
  | (s, none) => if s.battleOpen = .nationBattle then s.clockTick.battleTick else (s, .none)

/-- What `war_tick_world` does to the state for the action of a tick. -/
def settle (action : WarTickAction) : BattleState :=
  match action with
  | .halfTimeResult winner =>
    if winner = 0 then s.battleZoneClose.1 else s.battleZoneResult winner
  | .timeExpired => s.battleZoneClose.1
  | .resultDelayFired winner => s.battleZoneResult winner
  | .nereidsQuarterCheck winner => s.battleZoneResult winner
  | _ => s

def incrementWarDeath (nation : ℕ) : BattleState :=
  if nation = 1 then { s with karusDead := saturating 32767 (s.karusDead + 1) }
  else if nation = 2 then { s with elmoradDead := saturating 32767 (s.elmoradDead + 1) }
  else s

def incrementWarNpcKill (npcNation : ℕ) : BattleState :=
  if npcNation = 1 then { s with killedKarusNpc := saturating 255 (s.killedKarusNpc + 1) }
  else if npcNation = 2 then { s with killedElmoradNpc := saturating 255 (s.killedElmoradNpc + 1) }
  else s

/-- The flag alone: what a fourth one brings is a result of its own. -/
def incrementWarFlag (nation : ℕ) : BattleState :=
  if nation = 1 then { s with karusFlag := saturating 255 (s.karusFlag + 1) }
  else if nation = 2 then { s with elmoradFlag := saturating 255 (s.elmoradFlag + 1) }
  else s

/-- `(trap_number as usize).saturating_sub(1)` of a sixteen-bit number. -/
def monumentIndex (trapNumber : ℤ) : ℕ := (trapNumber % 2 ^ 64).toNat - 1

/-- The points of a captured monument: two, and ten more for all seven. -/
def monumentPoints (monuments points : ℕ) : ℕ :=
  let points := saturating 65535 (points + 2)
  if monuments ≥ 7 then saturating 65535 (points + 10) else points

/-- `battle_monument_process` in its own zone. -/
def battleMonumentProcess (killerNation : ℕ) (trapNumber : ℤ) : BattleState :=
  if s.battleOpen ≠ .nationBattle then s
  else
    let array := s.nereidsMonumentArray.set (monumentIndex trapNumber) killerNation
    if killerNation = 1 then
      let monuments := saturating 255 (s.karusMonuments + 1)
      { s with
        karusMonumentPoint := monumentPoints monuments s.karusMonumentPoint
        karusMonuments := monuments
        elmoradMonuments := s.elmoradMonuments - 1
        nereidsMonumentArray := array }
    else
      let monuments := saturating 255 (s.elmoradMonuments + 1)
      { s with
        elmoradMonumentPoint := monumentPoints monuments s.elmoradMonumentPoint
        elmoradMonuments := monuments
        karusMonuments := s.karusMonuments - 1
        nereidsMonumentArray := array }

end BattleState

/-- The state behind its lock, and the action of the last tick that the war task still has to
carry out. Other tasks may take the lock in between. -/
structure Server where
  battle : BattleState := {}
  due : WarTickAction := .none
  deriving DecidableEq, Repr

/-- What happens under the lock, one at a time. `result` is `+warresult` as well as a fourth flag:
both take the lock again after they have looked at the state. -/
inductive WarEvent
  | tick
  | settle
  | openZone (zone : ℕ)
  | openSnow
  | close
  | result (winner : ℕ)
  | death (nation : ℕ)
  | npcKill (npcNation : ℕ)
  | flag (nation : ℕ)
  | monument (killerNation : ℕ) (trapNumber : ℤ)
  | siegeOpen
  | siegeClose
  deriving DecidableEq, Repr

namespace Server

/-- `battle_time` is the configured length of a war: no code of the server sets it. -/
def fresh (battleTime : ℤ) : Server := { battle := { battleTime := battleTime } }

def on (w : Server) (f : BattleState → BattleState) : Server := { w with battle := f w.battle }

def step (w : Server) : WarEvent → Server
  | .tick =>
    -- the task's next tick comes after it has carried out the last one's action
    if w.due = .none then { battle := w.battle.warTick.1, due := w.battle.warTick.2 } else w
  | .settle => { battle := w.battle.settle w.due, due := .none }
  | .openZone zone => w.on fun s => (s.battleZoneOpen .nationBattle zone).1
  | .openSnow => w.on fun s => (s.battleZoneOpen .snowBattle 0).1
  | .close => w.on fun s => s.battleZoneClose.1
  | .result winner =>
    if winner = 1 ∨ winner = 2 then w.on fun s => s.battleZoneResult winner else w
  | .death nation => w.on fun s => s.incrementWarDeath nation
  | .npcKill npcNation => w.on fun s => s.incrementWarNpcKill npcNation
  | .flag nation => w.on fun s => s.incrementWarFlag nation
  | .monument killerNation trapNumber =>
    w.on fun s => s.battleMonumentProcess killerNation trapNumber
  | .siegeOpen => w.on fun s => { s with battleOpen := .siegeBattle }
  | .siegeClose => w.on fun s => { s with battleOpen := .noBattle }

def action (w : Server) (e : WarEvent) : Option WarTickAction :=
  if e = .tick ∧ w.due = .none then some w.battle.warTick.2 else none

def run (w : Server) (events : List WarEvent) : Server := Run.run step w events

end Server

end KoServer.War
