import Mathlib.Logic.Function.Basic
import KoServer.Spec.Merchant
import KoServer.Spec.NpcTrade

/-! Experience, levels and points of a character, from `handler/level.rs`, `handler/stats.rs`,
`handler/class_change.rs` and `handler/exp_seal.rs`. The release profile has no overflow checks;
how the `u8` and `u16` counters are added up is a parameter, so that a sum that wraps can be told
from one that does not. -/

namespace KoServer

def MAX_LEVEL : ℕ := 83
def MAX_BONUS_PERCENT : ℕ := 10000
def MAX_SEALED_EXP : ℕ := 1000000000
def STAT_MAX : ℕ := 255
def SKILLPT_CAT1 : ℕ := 5
def SKILLPT_MASTER : ℕ := 8

structure Widths where
  u8 : ℕ → ℕ
  u16 : ℕ → ℕ

def Widths.machine : Widths := ⟨(· % 2 ^ 8), (· % 2 ^ 16)⟩

/-- Counters that never wrap. -/
def Widths.unbounded : Widths := ⟨id, id⟩

/-- The fields of `CharacterInfo` that experience and points are in. -/
structure Progress where
  classId : ℕ
  level : ℕ
  exp : ℕ
  maxExp : ℤ
  expSealStatus : Bool
  sealedExp : ℕ
  gold : ℕ
  str : ℕ
  sta : ℕ
  dex : ℕ
  intel : ℕ
  cha : ℕ
  freePoints : ℕ
  /-- Free points at 0, the categories at 5 to 8. -/
  skillPoints : Fin 10 → ℕ

instance instNeZeroSkills : NeZero 10 := ⟨by decide⟩

structure LevelTables where
  /-- `get_exp_by_level` with rebirth level 0, an `i64`. -/
  getExpByLevel : ℕ → ℤ
  /-- `get_reset_money`, which is computed in floating point. -/
  getResetMoney : ℕ → ℤ

def expectedStatTotal (level : ℕ) : ℕ :=
  300 + (level - 1) * 3 + if 60 < level then 2 * (level - 60) else 0

def expectedSkillTotal (level : ℕ) : ℕ := if 10 ≤ level then (level - 9) * 2 else 0

namespace Progress

variable (w : Widths) (t : LevelTables) (ch : Progress)

def getStatTotal : ℕ := ch.str + ch.sta + ch.dex + ch.intel + ch.cha

def getTotalSkillPoints : ℕ :=
  ch.skillPoints 5 + ch.skillPoints 6 + ch.skillPoints 7 + ch.skillPoints 8

def setSkill (i : Fin 10) (v : ℕ) : Progress :=
  { ch with skillPoints := Function.update ch.skillPoints i v }

def levelJump (level : ℕ) : Progress :=
  let statTotalExpected := expectedStatTotal level
  let skillTotalExpected := expectedSkillTotal level
  let ch :=
    if ch.getStatTotal < statTotalExpected then
      { ch with freePoints := w.u16 (ch.freePoints + (statTotalExpected - ch.getStatTotal)) }
    else ch
  let ch :=
    if ch.getTotalSkillPoints < skillTotalExpected then
      ch.setSkill 0 (w.u8 (ch.skillPoints 0 + w.u8 (skillTotalExpected - ch.getTotalSkillPoints)))
    else ch
  { ch with level := level, maxExp := t.getExpByLevel level }

/-- The stat points of a level, where a recount says that they are missing. -/
def grantStats (level : ℕ) : Progress :=
  let levelsAfter60 := if 60 < level then level - 60 else 0
  let statPts := if levelsAfter60 = 0 then 3 else 5
  let expectedTotal := 297 + 3 * level + 2 * levelsAfter60
  if w.u16 (ch.freePoints + ch.getStatTotal) < expectedTotal then
    { ch with freePoints := w.u16 (ch.freePoints + statPts) }
  else ch

/-- The skill points of a level, where a recount of the spent ones says that they are missing. -/
def grantSkills (level : ℕ) : Progress :=
  let skillPts := if 10 ≤ level then 2 else 0
  if 10 ≤ level ∧ ch.getTotalSkillPoints < 2 * (level - 9) then
    ch.setSkill 0 (w.u8 (ch.skillPoints 0 + skillPts))
  else ch

def levelUp (level : ℕ) : Progress :=
  { (ch.grantStats w level).grantSkills w level with maxExp := t.getExpByLevel level }

def levelChange (level : ℕ) (isLevelUp : Bool) : Progress :=
  if level < 1 ∨ MAX_LEVEL < level then ch
  else if isLevelUp then
    if min (ch.level + 1) (2 ^ 8 - 1) < level then ch.levelJump w t level
    else ch.levelUp w t level
  else { ch with maxExp := t.getExpByLevel level }

end Progress

/-- `apply_exp_bonuses`: each bonus is a percentage of the base. -/
def applyExpBonuses (percents : List ℕ) (baseExp : ℕ) : ℤ :=
  let finalExp := percents.foldl
    (fun final percent => (final + baseExp * percent % 2 ^ 64 / 100) % 2 ^ 64) baseExp
  let cap := baseExp * MAX_BONUS_PERCENT % 2 ^ 64
  asI64 (if cap < finalExp then cap else finalExp)

/-- A call of `exp_change_inner`, with the zone and the bonuses it finds. -/
structure ExpCall where
  /-- An `i64`. -/
  iExp : ℤ
  isBonusReward : Bool
  isWarZone : Bool
  bonusPercents : List ℕ

def ExpCall.withBonuses (call : ExpCall) : ℤ :=
  if 0 < call.iExp ∧ ¬ call.isBonusReward then
    applyExpBonuses call.bonusPercents call.iExp.toNat
  else call.iExp

/-- `on_death_lost_exp_calc` without a premium: the division of an `i64`. -/
def onDeathLostExpCalc (maxExp : ℤ) : ℤ := maxExp.tdiv 20

namespace Progress

variable (w : Widths) (t : LevelTables)

/-- The level below, with its whole experience. -/
def dropLevel (ch : Progress) : Progress :=
  let newLevel := ch.level - 1
  { ch with exp := asU64 (t.getExpByLevel newLevel), level := newLevel }.levelChange w t newLevel false

/-- The level above, with the experience that is left over. -/
def gainLevel (ch : Progress) (remainder : ℤ) : Progress :=
  let newLevel := ch.level + 1
  { ch with exp := remainder.toNat, level := newLevel }.levelChange w t newLevel true

/-- What is left to take once the level is dropped. -/
def dropDiff (ch : Progress) : ℤ :=
  asI64 (ch.exp + onDeathLostExpCalc (t.getExpByLevel (ch.level - 1)))

theorem level_dropLevel (ch : Progress) : (ch.dropLevel w t).level = ch.level - 1 := by
  simp only [dropLevel, levelChange, Bool.false_eq_true, if_false]
  split_ifs <;> rfl

theorem expSealStatus_dropLevel (ch : Progress) :
    (ch.dropLevel w t).expSealStatus = ch.expSealStatus := by
  simp only [dropLevel, levelChange, Bool.false_eq_true, if_false]
  split_ifs <;> rfl

/-- `exp_change_inner`. A seal that is full is taken off, and the call made once more. -/
def expChangeInner (ch : Progress) (call : ExpCall) : Progress :=
  if call.iExp < 0 ∧ (ch.level < 6 ∨ call.isWarZone) then ch
  else if 2 ^ 63 ≤ ch.exp then ch
  else
    let iExp := call.withBonuses
    if _ : ch.expSealStatus ∧ 0 < call.withBonuses then
      if MAX_SEALED_EXP ≤ ch.sealedExp then
        expChangeInner { ch with expSealStatus := false }
          { call with iExp := iExp, isBonusReward := false }
      else
        { ch with
          sealedExp := min (min (ch.sealedExp + asU32 iExp) (2 ^ 32 - 1)) MAX_SEALED_EXP }
    else
      let newExp := asI64 (ch.exp + iExp)
      if newExp < 0 then
        if _ : ch.level - 1 < 1 then { ch with exp := 0 }
        else if 0 < ch.dropDiff t then
          expChangeInner (ch.dropLevel w t)
            { call with iExp := -ch.dropDiff t, isBonusReward := false }
        else ch.dropLevel w t
      else if 0 < ch.maxExp ∧ ch.maxExp ≤ newExp then
        if ch.level < MAX_LEVEL then ch.gainLevel w t (newExp - ch.maxExp)
        else { ch with exp := asU64 ch.maxExp }
      else { ch with exp := newExp.toNat }
termination_by (ch.level, ch.expSealStatus.toNat)
decreasing_by
  · rw [(‹_ ∧ _› : ch.expSealStatus = true ∧ _).1]
    exact Prod.Lex.right _ (by decide)
  · rw [level_dropLevel, expSealStatus_dropLevel]
    exact Prod.Lex.left _ _ (by omega)

variable (ch : Progress)

def getStatByType (statType : ℕ) : ℕ :=
  match statType with
  | 1 => ch.str
  | 2 => ch.sta
  | 3 => ch.dex
  | 4 => ch.intel
  | 5 => ch.cha
  | _ => 0

def setStatByType (statType value : ℕ) : Progress :=
  match statType with
  | 1 => { ch with str := value }
  | 2 => { ch with sta := value }
  | 3 => { ch with dex := value }
  | 4 => { ch with intel := value }
  | 5 => { ch with cha := value }
  | _ => ch

def handlePointChange (isPlayerDead : Bool) (statType : ℕ) : Progress :=
  if isPlayerDead then ch
  else if ¬ (1 ≤ statType ∧ statType ≤ 5) then ch
  else if ch.freePoints < 1 then ch
  else if ch.getStatByType statType = STAT_MAX then ch
  else
    { ch.setStatByType statType (w.u8 (ch.getStatByType statType + 1)) with
      freePoints := ch.freePoints - 1 }

/-- The refusals of `handle_skillpt_change`; the master category has its own. -/
def skillptRefused (skillType : ℕ) : Bool :=
  !(SKILLPT_CAT1 ≤ skillType && skillType ≤ SKILLPT_MASTER) ||
  ch.skillPoints 0 < 1 ||
  ch.level < ch.skillPoints (Fin.ofNat 10 skillType) + 1 ||
  ch.classId % 100 ≤ 4 ||
  skillType = SKILLPT_MASTER &&
    (ch.classId % 100 ∉ [6, 8, 10, 12, 15] ||
      83 - 60 ≤ ch.skillPoints (Fin.ofNat 10 skillType) ||
      ch.level - 60 ≤ ch.skillPoints (Fin.ofNat 10 skillType))

def handleSkillptChange (isPlayerDead : Bool) (skillType : ℕ) : Progress :=
  if isPlayerDead then ch
  else if ch.skillptRefused skillType then ch
  else
    (ch.setSkill 0 (ch.skillPoints 0 - 1)).setSkill (Fin.ofNat 10 skillType)
      (min (ch.skillPoints (Fin.ofNat 10 skillType) + 1) (2 ^ 8 - 1))

end Progress

structure ResetEnv where
  /-- Something is worn in a slot below `SLOT_MAX`. -/
  hasEquipment : Bool
  free : Bool
  isDiscountActive : Bool

/-- The price of a reset, an `i32` with half of it off. -/
def resetCost (t : LevelTables) (env : ResetEnv) (level : ℕ) : ℕ :=
  let moneyRequired := t.getResetMoney level
  let effectiveMoney :=
    if !env.free && env.isDiscountActive then moneyRequired.tdiv 2 else moneyRequired
  if env.free then 0 else effectiveMoney.toNat

/-- `get_base_stats_for_class`, by the class type. -/
def getBaseStatsForClass (classId : ℕ) : ℕ × ℕ × ℕ × ℕ × ℕ :=
  let classType := classId % 100
  if classType ∈ [1, 5, 6] ∨ 13 ≤ classType ∧ classType ≤ 15 then (65, 65, 60, 50, 50)
  else if classType ∈ [2, 7, 8] then (60, 60, 70, 50, 50)
  else (50, 60, 60, 70, 50)

namespace Progress

variable (t : LevelTables) (ch : Progress)

def handleAllPointChange (env : ResetEnv) : Progress :=
  let cost := resetCost t env ch.level
  if env.hasEquipment then ch
  else if !env.free && ch.gold < cost then ch
  else
    let (baseStr, baseSta, baseDex, baseInt, baseCha) := getBaseStatsForClass ch.classId
    { ch with
      str := baseStr
      sta := baseSta
      dex := baseDex
      intel := baseInt
      cha := baseCha
      freePoints := 10 + (ch.level - 1) * 3 + if 60 < ch.level then 2 * (ch.level - 60) else 0
      gold := ch.gold - cost }

def handleAllSkillPointChange (env : ResetEnv) : Progress :=
  let cost := resetCost t env ch.level
  let totalAllocated := ch.skillPoints 1 + ch.skillPoints 2 + ch.skillPoints 3 + ch.skillPoints 4 +
    ch.getTotalSkillPoints
  if ch.level < 10 then ch
  else if totalAllocated = 0 then ch
  else if !env.free && ch.gold < cost then ch
  else
    { ch with
      skillPoints := fun i =>
        if i = 0 then min ((ch.level - 9) * 2) (2 ^ 8 - 1)
        else if i = 9 then ch.skillPoints 9
        else 0
      gold := ch.gold - cost }

end Progress

inductive ProgressStep
  | expChange (call : ExpCall)
  | pointChange (isPlayerDead : Bool) (statType : ℕ)
  | skillptChange (isPlayerDead : Bool) (skillType : ℕ)
  | allPointChange (env : ResetEnv)
  | allSkillPointChange (env : ResetEnv)

def Progress.step (w : Widths) (t : LevelTables) (ch : Progress) : ProgressStep → Progress
  | .expChange call => ch.expChangeInner w t call
  | .pointChange isPlayerDead statType => ch.handlePointChange w isPlayerDead statType
  | .skillptChange isPlayerDead skillType => ch.handleSkillptChange isPlayerDead skillType
  | .allPointChange env => ch.handleAllPointChange t env
  | .allSkillPointChange env => ch.handleAllSkillPointChange t env

end KoServer
