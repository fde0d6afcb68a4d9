import KoServer.Lib.KeyedList
import KoServer.Lib.Run

/-! Buffs and debuffs of type-4 skills: how a cast reaches a session, what it writes into the fields
of the session, and what the tick of each second takes back when a buff has run out. -/

namespace KoServer

def BUFF_TYPE_SIZE : ℤ := 3
def BUFF_TYPE_SPEED : ℤ := 6
def BUFF_TYPE_EXPERIENCE : ℤ := 11
def BUFF_TYPE_WEIGHT : ℤ := 12
def BUFF_TYPE_WEAPON_DAMAGE : ℤ := 13
def BUFF_TYPE_LOYALTY : ℤ := 15
def BUFF_TYPE_NOAH_BONUS : ℤ := 16
def BUFF_TYPE_PREMIUM_MERCHANT : ℤ := 17
def BUFF_TYPE_ATTACK_SPEED_ARMOR : ℤ := 18
def BUFF_TYPE_DISABLE_TARGETING : ℤ := 20
def BUFF_TYPE_BLIND : ℤ := 21
def BUFF_TYPE_FREEZE : ℤ := 22
def BUFF_TYPE_INSTANT_MAGIC : ℤ := 23
def BUFF_TYPE_DECREASE_RESIST : ℤ := 24
def BUFF_TYPE_MAGE_ARMOR : ℤ := 25
def BUFF_TYPE_PROHIBIT_INVIS : ℤ := 26
def BUFF_TYPE_RESIS_AND_MAGIC_DMG : ℤ := 27
def BUFF_TYPE_BLOCK_CURSE : ℤ := 29
def BUFF_TYPE_BLOCK_CURSE_REFLECT : ℤ := 30
def BUFF_TYPE_MANA_ABSORB : ℤ := 31
def BUFF_TYPE_IGNORE_WEAPON : ℤ := 32
def BUFF_TYPE_VARIOUS_EFFECTS : ℤ := 33
def BUFF_TYPE_SPEED2 : ℤ := 40
def BUFF_TYPE_LOYALTY_AMOUNT : ℤ := 42
def BUFF_TYPE_MIRROR_DAMAGE_PARTY : ℤ := 44
def BUFF_TYPE_DAGGER_BOW_DEFENSE : ℤ := 45
def BUFF_TYPE_STUN : ℤ := 47
def BUFF_TYPE_DEVIL_TRANSFORM : ℤ := 49
def BUFF_TYPE_JACKPOT : ℤ := 77
def BUFF_TYPE_INVISIBILITY : ℤ := 100
def BUFF_TYPE_NO_RECALL : ℤ := 150
def BUFF_TYPE_SILENCE_TARGET : ℤ := 152
def BUFF_TYPE_NO_POTIONS : ℤ := 153
def BUFF_TYPE_KAUL_TRANSFORMATION : ℤ := 154
def BUFF_TYPE_UNDEAD : ℤ := 155
def BUFF_TYPE_UNSIGHT : ℤ := 156
def BUFF_TYPE_BLOCK_PHYSICAL_DAMAGE : ℤ := 157
def BUFF_TYPE_BLOCK_MAGICAL_DAMAGE : ℤ := 158
def BUFF_TYPE_NP_DROP_NOAH : ℤ := 169

def ABNORMAL_NORMAL : ℕ := 1
def ABNORMAL_GIANT : ℕ := 2
def ABNORMAL_DWARF : ℕ := 3
def ABNORMAL_GIANT_TARGET : ℕ := 6

def MORAL_SELF : ℤ := 1
def MORAL_FRIEND_WITHME : ℤ := 2
def MORAL_FRIEND_EXCEPTME : ℤ := 3
def MORAL_PARTY : ℤ := 4
def MORAL_PARTY_ALL : ℤ := 6
def MORAL_ENEMY : ℤ := 7
def MORAL_AREA_ENEMY : ℤ := 10
def MORAL_AREA_FRIEND : ℤ := 11
def MORAL_AREA_ALL : ℤ := 12
def MORAL_SELF_AREA : ℤ := 13

structure MagicRow where
  moral : Option ℤ
  skill : Option ℤ := none

structure MagicType4Row where
  buffType : Option ℤ
  duration : Option ℤ
  ac : Option ℤ := none
  attack : Option ℤ := none
  expPct : Option ℤ := none
  specialAmount : Option ℤ := none
  fireR : Option ℤ := none
  coldR : Option ℤ := none
  lightningR : Option ℤ := none
  magicR : Option ℤ := none
  diseaseR : Option ℤ := none
  poisonR : Option ℤ := none

structure MagicTables where
  magic : ℕ → Option MagicRow
  magicType4 : ℕ → Option MagicType4Row

/-- A buff that is active. Times are in milliseconds. -/
structure ActiveBuff where
  skillId : ℕ
  buffType : ℤ
  casterSid : UInt16
  startTime : ℕ
  durationSecs : ℕ
  ac : ℤ := 0
  weaponDamage : ℤ := 0
  acSour : ℤ := 0
  isBuff : Bool

/-- A duration of zero lasts until it is cancelled. -/
def ActiveBuff.isExpired (b : ActiveBuff) (now : ℕ) : Bool :=
  b.durationSecs ≠ 0 && b.durationSecs ≤ (now - b.startTime) / 1000

def createActiveBuff (skillId : ℕ) (caster : UInt16) (row : MagicType4Row) (now : ℕ)
    (isBuff : Bool) : ActiveBuff where
  skillId := skillId
  buffType := row.buffType.getD 0
  casterSid := caster
  startTime := now
  durationSecs := (row.duration.getD 0).toNat
  ac := row.ac.getD 0
  isBuff := isBuff

/-- The fields that buffs write, with the values of a new session. -/
structure SessionEffects where
  reflectArmorType : UInt8 := 0
  mirrorDamage : Bool := false
  mirrorDamageType : Bool := false
  mirrorAmount : UInt8 := 0
  daggerRAmount : UInt8 := 100
  bowRAmount : UInt8 := 100
  invisibilityType : ℕ := 0
  canUseSkills : Bool := true
  canUsePotions : Bool := true
  isKaul : Bool := false
  isUndead : Bool := false
  oldAbnormalType : ℕ := ABNORMAL_NORMAL
  isBlinded : Bool := false
  blockPhysical : Bool := false
  blockMagic : Bool := false
  isDevil : Bool := false
  sizeEffect : ℕ := 0
  canTeleport : Bool := true
  canStealth : Bool := true
  blockCurses : Bool := false
  reflectCurses : Bool := false
  instantCast : Bool := false
  dropScrollAmount : Int16 := 0
  weaponsDisabled : Bool := false
  manaAbsorb : UInt8 := 0
  absorbCount : UInt8 := 0
  magicDamageReduction : UInt8 := 100
  pctFireR : UInt8 := 100
  pctColdR : UInt8 := 100
  pctLightningR : UInt8 := 100
  pctMagicR : UInt8 := 100
  pctDiseaseR : UInt8 := 100
  pctPoisonR : UInt8 := 100
  expGainBuff11 : UInt16 := 0
  expGainBuff33 : UInt16 := 0
  skillNpBonus33 : UInt8 := 0
  skillNpBonus42 : UInt8 := 0
  jackpotType : UInt8 := 0
  npGainAmount : UInt8 := 100
  noahGainAmount : UInt8 := 100
  isPremiumMerchant : Bool := false
  weightBuffAmount : UInt8 := 100

/-- The buffs of a session, what they wrote, the scrolls kept across logouts with the time they end,
and the states that end with the tick as well. -/
structure BuffSession where
  buffs : KeyedList ActiveBuff.buffType
  effects : SessionEffects
  savedMagic : List (ℕ × ℕ)
  transformationType : ℕ
  transformSkillId : ℕ
  transformationStartTime : ℕ
  transformationDuration : ℕ
  blinkExpiryTime : ℕ
  stealthEndTime : ℕ

def saturatingAddU16 (a b : UInt16) : UInt16 :=
  if a.toNat + b.toNat < 2 ^ 16 then a + b else 65535

def saturatingSubU8 (a b : UInt8) : UInt8 := if b ≤ a then a - b else 0

/-- `clamp(low, high) as u8`. -/
def clampU8 (low high x : ℤ) : UInt8 := UInt8.ofInt (max low (min high x))

namespace SessionEffects

/-- What `apply_type4_stats` writes into the fields, field by field: each buff type has its own.
`roll` is its throw of 0 to 300. -/
def applyType4Stats (e : SessionEffects) (row : MagicType4Row) (sSkill : ℤ) (skillId : ℕ)
    (transformSkillId : ℕ) (roll : ℤ) : SessionEffects :=
  let bt := row.buffType.getD 0
  let special := row.specialAmount.getD 0
  let expPct := row.expPct.getD 0
  let defence := saturatingSubU8 100 (UInt8.ofInt (min special 100))
  let resist (old : UInt8) (r : Option ℤ) : UInt8 :=
    if bt = BUFF_TYPE_DECREASE_RESIST then saturatingSubU8 100 (clampU8 0 100 (r.getD 0)) else old
  let expGain := UInt16.ofInt (expPct - 100)
  let sizeEffect :=
    if skillId = 490034 then ABNORMAL_GIANT
    else if skillId = 490401 then ABNORMAL_GIANT_TARGET
    else if skillId = 490035 ∨ skillId = 490100 then ABNORMAL_DWARF
    else if skillId = 491415 then 9
    else 0
  let jackpot : UInt8 :=
    if skillId = 501570 then 1 else if skillId = 501571 then 2
    else if skillId = 501572 then 3 else 0
  { e with
    reflectArmorType :=
      if bt = BUFF_TYPE_MAGE_ARMOR then UInt8.ofInt (sSkill.tmod 100) else e.reflectArmorType
    mirrorDamage := if bt = BUFF_TYPE_MIRROR_DAMAGE_PARTY then true else e.mirrorDamage
    mirrorDamageType :=
      if bt = BUFF_TYPE_MIRROR_DAMAGE_PARTY then skillId = 492028 else e.mirrorDamageType
    mirrorAmount :=
      if bt = BUFF_TYPE_MIRROR_DAMAGE_PARTY then UInt8.ofInt (min special 100) else e.mirrorAmount
    daggerRAmount := if bt = BUFF_TYPE_DAGGER_BOW_DEFENSE then defence else e.daggerRAmount
    bowRAmount := if bt = BUFF_TYPE_DAGGER_BOW_DEFENSE then defence else e.bowRAmount
    canUseSkills :=
      if bt = BUFF_TYPE_SILENCE_TARGET ∨ bt = BUFF_TYPE_KAUL_TRANSFORMATION then false
      else e.canUseSkills
    canUsePotions := if bt = BUFF_TYPE_NO_POTIONS then false else e.canUsePotions
    isKaul := if bt = BUFF_TYPE_KAUL_TRANSFORMATION then true else e.isKaul
    oldAbnormalType :=
      if bt = BUFF_TYPE_KAUL_TRANSFORMATION then
        if transformSkillId ≠ 0 then transformSkillId else ABNORMAL_NORMAL
      else e.oldAbnormalType
    isUndead := if bt = BUFF_TYPE_UNDEAD then true else e.isUndead
    blockMagic :=
      if bt = BUFF_TYPE_FREEZE ∨ bt = BUFF_TYPE_BLOCK_MAGICAL_DAMAGE then true else e.blockMagic
    isBlinded :=
      if bt = BUFF_TYPE_UNSIGHT ∨ bt = BUFF_TYPE_BLIND ∨ bt = BUFF_TYPE_DISABLE_TARGETING then true
      else e.isBlinded
    blockPhysical := if bt = BUFF_TYPE_BLOCK_PHYSICAL_DAMAGE then true else e.blockPhysical
    isDevil := if bt = BUFF_TYPE_DEVIL_TRANSFORM then true else e.isDevil
    canTeleport := if bt = BUFF_TYPE_NO_RECALL then false else e.canTeleport
    canStealth := if bt = BUFF_TYPE_PROHIBIT_INVIS then false else e.canStealth
    magicDamageReduction :=
      if bt = BUFF_TYPE_RESIS_AND_MAGIC_DMG then clampU8 0 100 expPct else e.magicDamageReduction
    blockCurses := if bt = BUFF_TYPE_BLOCK_CURSE then true else e.blockCurses
    reflectCurses := if bt = BUFF_TYPE_BLOCK_CURSE_REFLECT then true else e.reflectCurses
    instantCast := if bt = BUFF_TYPE_INSTANT_MAGIC then true else e.instantCast
    dropScrollAmount :=
      if bt = BUFF_TYPE_NP_DROP_NOAH ∧ 0 < Int16.ofInt special then
        e.dropScrollAmount + Int16.ofInt special
      else e.dropScrollAmount
    jackpotType := if bt = BUFF_TYPE_JACKPOT ∧ 0 < jackpot then jackpot else e.jackpotType
    weightBuffAmount :=
      if bt = BUFF_TYPE_WEIGHT then clampU8 0 255 expPct else e.weightBuffAmount
    npGainAmount := if bt = BUFF_TYPE_LOYALTY then clampU8 0 255 expPct else e.npGainAmount
    noahGainAmount := if bt = BUFF_TYPE_NOAH_BONUS then clampU8 0 255 expPct else e.noahGainAmount
    isPremiumMerchant := if bt = BUFF_TYPE_PREMIUM_MERCHANT then true else e.isPremiumMerchant
    manaAbsorb :=
      if bt = BUFF_TYPE_MANA_ABSORB then e.manaAbsorb + UInt8.ofInt (max expPct 0)
      else e.manaAbsorb
    absorbCount := if bt = BUFF_TYPE_MANA_ABSORB then 4 else e.absorbCount
    weaponsDisabled := if bt = BUFF_TYPE_IGNORE_WEAPON then roll < 110 else e.weaponsDisabled
    pctFireR := resist e.pctFireR row.fireR
    pctColdR := resist e.pctColdR row.coldR
    pctLightningR := resist e.pctLightningR row.lightningR
    pctMagicR := resist e.pctMagicR row.magicR
    pctDiseaseR := resist e.pctDiseaseR row.diseaseR
    pctPoisonR := resist e.pctPoisonR row.poisonR
    expGainBuff11 :=
      if bt = BUFF_TYPE_EXPERIENCE ∧ 100 < expPct then saturatingAddU16 e.expGainBuff11 expGain
      else e.expGainBuff11
    expGainBuff33 :=
      if bt = BUFF_TYPE_VARIOUS_EFFECTS ∧ 100 < expPct then
        saturatingAddU16 e.expGainBuff33 expGain
      else e.expGainBuff33
    skillNpBonus33 :=
      if bt = BUFF_TYPE_VARIOUS_EFFECTS ∧ 0 < special then UInt8.ofInt special
      else e.skillNpBonus33
    skillNpBonus42 :=
      if bt = BUFF_TYPE_LOYALTY_AMOUNT ∧ 0 < special then UInt8.ofInt special
      else e.skillNpBonus42
    sizeEffect := if bt = BUFF_TYPE_SIZE ∧ 0 < sizeEffect then sizeEffect else e.sizeEffect }

/-- What `buff_type_cleanup` resets, field by field. -/
def buffTypeCleanup (e : SessionEffects) (bt : ℤ) : SessionEffects :=
  let resist (old : UInt8) : UInt8 := if bt = BUFF_TYPE_DECREASE_RESIST then 100 else old
  { e with
    canUseSkills :=
      if bt = BUFF_TYPE_FREEZE ∨ bt = BUFF_TYPE_SILENCE_TARGET ∨
        bt = BUFF_TYPE_KAUL_TRANSFORMATION then true else e.canUseSkills
    blockMagic :=
      if bt = BUFF_TYPE_FREEZE ∨ bt = BUFF_TYPE_BLOCK_MAGICAL_DAMAGE then false else e.blockMagic
    invisibilityType := if bt = BUFF_TYPE_FREEZE then 0 else e.invisibilityType
    sizeEffect := if bt = BUFF_TYPE_SIZE then 0 else e.sizeEffect
    reflectArmorType := if bt = BUFF_TYPE_MAGE_ARMOR then 0 else e.reflectArmorType
    mirrorDamage := if bt = BUFF_TYPE_MIRROR_DAMAGE_PARTY then false else e.mirrorDamage
    mirrorDamageType := if bt = BUFF_TYPE_MIRROR_DAMAGE_PARTY then false else e.mirrorDamageType
    mirrorAmount := if bt = BUFF_TYPE_MIRROR_DAMAGE_PARTY then 0 else e.mirrorAmount
    daggerRAmount := if bt = BUFF_TYPE_DAGGER_BOW_DEFENSE then 100 else e.daggerRAmount
    bowRAmount := if bt = BUFF_TYPE_DAGGER_BOW_DEFENSE then 100 else e.bowRAmount
    canUsePotions := if bt = BUFF_TYPE_NO_POTIONS then true else e.canUsePotions
    isKaul := if bt = BUFF_TYPE_KAUL_TRANSFORMATION then false else e.isKaul
    isUndead := if bt = BUFF_TYPE_UNDEAD then false else e.isUndead
    isBlinded :=
      if bt = BUFF_TYPE_DISABLE_TARGETING ∨ bt = BUFF_TYPE_BLIND ∨ bt = BUFF_TYPE_UNSIGHT then false
      else e.isBlinded
    blockPhysical := if bt = BUFF_TYPE_BLOCK_PHYSICAL_DAMAGE then false else e.blockPhysical
    isDevil := if bt = BUFF_TYPE_DEVIL_TRANSFORM then false else e.isDevil
    canTeleport := if bt = BUFF_TYPE_NO_RECALL then true else e.canTeleport
    canStealth := if bt = BUFF_TYPE_PROHIBIT_INVIS then true else e.canStealth
    magicDamageReduction :=
      if bt = BUFF_TYPE_RESIS_AND_MAGIC_DMG then 100 else e.magicDamageReduction
    blockCurses := if bt = BUFF_TYPE_BLOCK_CURSE then false else e.blockCurses
    reflectCurses := if bt = BUFF_TYPE_BLOCK_CURSE_REFLECT then false else e.reflectCurses
    instantCast := if bt = BUFF_TYPE_INSTANT_MAGIC then false else e.instantCast
    dropScrollAmount := if bt = BUFF_TYPE_NP_DROP_NOAH then 0 else e.dropScrollAmount
    manaAbsorb := if bt = BUFF_TYPE_MANA_ABSORB then 0 else e.manaAbsorb
    absorbCount := if bt = BUFF_TYPE_MANA_ABSORB then 0 else e.absorbCount
    weaponsDisabled := if bt = BUFF_TYPE_IGNORE_WEAPON then false else e.weaponsDisabled
    pctFireR := resist e.pctFireR
    pctColdR := resist e.pctColdR
    pctLightningR := resist e.pctLightningR
    pctMagicR := resist e.pctMagicR
    pctDiseaseR := resist e.pctDiseaseR
    pctPoisonR := resist e.pctPoisonR
    expGainBuff11 := if bt = BUFF_TYPE_EXPERIENCE then 0 else e.expGainBuff11
    expGainBuff33 := if bt = BUFF_TYPE_VARIOUS_EFFECTS then 0 else e.expGainBuff33
    skillNpBonus33 := if bt = BUFF_TYPE_VARIOUS_EFFECTS then 0 else e.skillNpBonus33
    skillNpBonus42 := if bt = BUFF_TYPE_LOYALTY_AMOUNT then 0 else e.skillNpBonus42
    weightBuffAmount := if bt = BUFF_TYPE_WEIGHT then 100 else e.weightBuffAmount
    npGainAmount := if bt = BUFF_TYPE_LOYALTY then 100 else e.npGainAmount
    noahGainAmount := if bt = BUFF_TYPE_NOAH_BONUS then 100 else e.noahGainAmount
    isPremiumMerchant := if bt = BUFF_TYPE_PREMIUM_MERCHANT then false else e.isPremiumMerchant
    jackpotType := if bt = BUFF_TYPE_JACKPOT then 0 else e.jackpotType }

end SessionEffects

/-- What `apply_type4_stats` writes into the buff it stands for. -/
def ActiveBuff.applyType4Stats (row : MagicType4Row) (skillId : ℕ) (b : ActiveBuff) : ActiveBuff :=
  let bt := row.buffType.getD 0
  if bt = BUFF_TYPE_KAUL_TRANSFORMATION ∧ b.buffType = bt then { b with ac := b.ac + 500 }
  else if bt = BUFF_TYPE_WEAPON_DAMAGE ∧ b.buffType = bt ∧ b.skillId = skillId then
    { b with weaponDamage := row.attack.getD 0 }
  else if bt = BUFF_TYPE_ATTACK_SPEED_ARMOR ∧ row.ac.getD 0 < 0 ∧ b.buffType = bt ∧
      b.skillId = skillId then
    { b with acSour := -row.ac.getD 0, ac := 0 }
  else b

theorem ActiveBuff.buffType_applyType4Stats (row : MagicType4Row) (skillId : ℕ) (b : ActiveBuff) :
    (b.applyType4Stats row skillId).buffType = b.buffType := by
  unfold ActiveBuff.applyType4Stats
  dsimp only
  split_ifs
  all_goals rfl

/-- How a cast reaches the session: by itself, as a friend or a party member, as an enemy, because
a target reflects what the session cast, and as the centre or within the area of one. The flags are
what the checks of life, range, hostility and position let through, and the throw against the
resistance. -/
inductive CastReach
  | self
  | friend (mayHelp : Bool)
  | party
  | enemy (mayHit resisted : Bool)
  | reflected
  | selfArea
  | area (mayHit resisted otherNation : Bool)

structure Type4Cast where
  skillId : ℕ
  caster : UInt16
  reach : CastReach
  now : ℕ
  nowUnix : ℕ
  nowMs : ℕ
  roll : ℤ

def isRushSkill (skillId : ℕ) : Bool :=
  skillId = 114509 || skillId = 115509 || skillId = 214509 || skillId = 215509

def bypassesResistance (skillId : ℕ) : Bool :=
  isRushSkill skillId || skillId = 492027 || skillId = 190773 || skillId = 290773 ||
    skillId = 190673 || skillId = 290673

def debuffResisted (skillId : ℕ) (bt : ℤ) (resisted : Bool) : Bool :=
  (bt = BUFF_TYPE_SPEED || bt = BUFF_TYPE_SPEED2 || bt = BUFF_TYPE_STUN) &&
    !bypassesResistance skillId && resisted

def SAVED_MAGIC_MIN_SKILL_ID : ℕ := 500000
def MAX_SAVED_MAGIC : ℕ := 10

namespace BuffSession

variable (t : MagicTables) (h : BuffSession)

def isPlayerBlinking (nowUnix : ℕ) : Bool := 0 < h.blinkExpiryTime && nowUnix < h.blinkExpiryTime

def isTransformed : Bool := h.transformationType ≠ 0

def applyBuff (b : ActiveBuff) : BuffSession := { h with buffs := h.buffs.insert b }

def removeBuff (bt : ℤ) : BuffSession := { h with buffs := h.buffs.erase bt }

def applyType4Stats (row : MagicType4Row) (sSkill : ℤ) (skillId : ℕ) (roll : ℤ) : BuffSession :=
  { h with
    buffs := h.buffs.adjust (ActiveBuff.applyType4Stats row skillId)
      (ActiveBuff.buffType_applyType4Stats row skillId)
    effects := h.effects.applyType4Stats row sSkill skillId h.transformSkillId roll }

def insertSavedMagic (skillId duration nowMs : ℕ) : BuffSession :=
  if skillId ≤ SAVED_MAGIC_MIN_SKILL_ID then h
  else if h.savedMagic.any (·.1 = skillId) then h
  else if MAX_SAVED_MAGIC ≤ h.savedMagic.length then h
  else { h with savedMagic := (skillId, nowMs + duration * 1000) :: h.savedMagic }

def removeSavedMagic (skillId : ℕ) : BuffSession :=
  { h with savedMagic := h.savedMagic.filter (·.1 ≠ skillId) }

def removeStealth : BuffSession :=
  if h.effects.invisibilityType = 0 then h
  else
    { h.removeBuff BUFF_TYPE_INVISIBILITY with effects := { h.effects with invisibilityType := 0 } }

/-- The duplicates that `grant_type4_buff_to_target` refuses. -/
def refuses (bt : ℤ) : Bool :=
  (bt = BUFF_TYPE_SPEED && h.buffs.has BUFF_TYPE_SPEED2) ||
    (bt = BUFF_TYPE_SPEED2 && h.buffs.has BUFF_TYPE_SPEED) || (0 < bt && h.buffs.has bt)

/-- The checks of the branch of `execute_type4` that the skill's moral chooses. -/
def reached (c : Type4Cast) (moral bt : ℤ) : Bool :=
  match c.reach with
  | .self => moral = MORAL_SELF
  | .friend mayHelp =>
    (moral = MORAL_FRIEND_WITHME || moral = MORAL_FRIEND_EXCEPTME || moral = MORAL_PARTY ||
      moral = MORAL_PARTY_ALL) && mayHelp && !h.refuses bt
  | .party => moral = MORAL_PARTY_ALL && !h.refuses bt
  | .enemy mayHit resisted =>
    moral = MORAL_ENEMY && !h.isPlayerBlinking c.nowUnix && mayHit && !h.effects.reflectCurses &&
      !h.effects.blockCurses && !debuffResisted c.skillId bt resisted
  | .reflected =>
    (moral = MORAL_ENEMY || moral = MORAL_AREA_ENEMY) &&
      !(h.effects.blockCurses || h.effects.reflectCurses)
  | .selfArea => moral = MORAL_SELF_AREA
  | .area mayHit resisted _ =>
    (moral = MORAL_AREA_ENEMY || moral = MORAL_AREA_FRIEND || moral = MORAL_AREA_ALL ||
      moral = MORAL_SELF_AREA) && !h.isPlayerBlinking c.nowUnix && mayHit &&
      (moral ≠ MORAL_AREA_ENEMY || (!h.effects.reflectCurses && !h.effects.blockCurses &&
        !debuffResisted c.skillId bt resisted))

/-- A hit within an area ends the stealth of another nation's player. -/
def exposed (c : Type4Cast) : BuffSession :=
  match c.reach with
  | .area _ _ true => h.removeStealth
  | _ => h

/-- The buff, what it writes, and the scroll that is kept. -/
def receive (c : Type4Cast) (row : MagicType4Row) (moral sSkill : ℤ) : BuffSession :=
  let isBuff : Bool := match c.reach with
    | .reflected => false
    | _ => moral < MORAL_ENEMY
  let h' := ((h.exposed c).applyBuff (createActiveBuff c.skillId c.caster row c.now isBuff)
    ).applyType4Stats row sSkill c.skillId c.roll
  match c.reach with
  | .enemy _ _ => h'
  | .reflected => h'
  | _ => h'.insertSavedMagic c.skillId ((row.duration.getD 0).toNat % 2 ^ 16) c.nowMs

/-- `execute_type4`, as far as it concerns the session. -/
def executeType4 (c : Type4Cast) : BuffSession :=
  match t.magicType4 c.skillId, t.magic c.skillId with
  | some row, some skill =>
    if h.reached c (skill.moral.getD 0) (row.buffType.getD 0) then
      h.receive c row (skill.moral.getD 0) (skill.skill.getD 0)
    else h
  | _, _ => h

def isLockableScroll (bt : ℤ) : Bool :=
  bt = 1 || bt = 2 || bt = 4 || bt = 6 || bt = 7 || bt = 48 || bt = 171

end BuffSession

/-- The session of a tick, the times it reads, and the orders in which it visits the maps. -/
structure BuffTick where
  sid : UInt16
  now : ℕ
  nowUnix : ℕ
  nowMs : ℕ
  order : Shuffle ActiveBuff
  savedOrder : Shuffle (ℕ × ℕ)
  roll : ℤ

namespace BuffSession

variable (t : MagicTables) (k : BuffTick) (h : BuffSession)

/-- The scrolls with time left, in whole seconds. -/
def getSavedMagicForRecast : List (ℕ × ℕ) :=
  (k.savedOrder.order h.savedMagic).filterMap fun entry =>
    if entry.1 = 0 ∨ entry.2 ≤ k.nowMs then none
    else
      let remaining := min ((entry.2 - k.nowMs) / 1000) 65535
      if 0 < remaining then some (entry.1, remaining) else none

def recastOne (bt : ℤ) (entry : ℕ × ℕ) : BuffSession :=
  match t.magicType4 entry.1 with
  | none => h
  | some row =>
    if row.buffType.getD 0 ≠ bt then h else
      let buff := { createActiveBuff entry.1 k.sid row k.now true with durationSecs := entry.2 }
      (h.applyBuff buff).applyType4Stats row
        (((t.magic entry.1).bind MagicRow.skill).getD 0) entry.1 k.roll

def recastLockableScrolls (bt : ℤ) : BuffSession :=
  let h' := h.removeBuff bt
  if h'.isTransformed then h' else
    (h'.getSavedMagicForRecast k).foldl (fun h entry => h.recastOne t k bt entry) h'

def expireBuff (b : ActiveBuff) : BuffSession :=
  let h' := h.removeSavedMagic b.skillId
  let h'' := { h' with effects := h'.effects.buffTypeCleanup b.buffType }
  if !b.isBuff && isLockableScroll b.buffType then h''.recastLockableScrolls t k b.buffType
  else h''

def blinkExpired : Bool := 0 < h.blinkExpiryTime && h.blinkExpiryTime ≤ k.nowUnix

def transformationExpired : Bool :=
  h.transformationType ≠ 0 && 0 < h.transformationDuration &&
    h.transformationDuration ≤ k.nowMs - h.transformationStartTime

/-- Transformed, no longer blinking, and still barred from skills. -/
def postBlinkSkillEnable : Bool :=
  !h.isPlayerBlinking k.nowUnix && h.isTransformed && !h.effects.canUseSkills

def stealthExpired : Bool :=
  h.effects.invisibilityType ≠ 0 && 0 < h.stealthEndTime && h.stealthEndTime ≤ k.nowUnix

def clearTransformation : BuffSession :=
  { h.removeSavedMagic h.transformSkillId with
    transformationType := 0, transformSkillId := 0
    transformationStartTime := 0, transformationDuration := 0 }

def enableSkills : BuffSession := { h with effects := { h.effects with canUseSkills := true } }

/-- `process_buff_tick` for one session: everything is collected first. -/
def processBuffTick : BuffSession :=
  let expired := k.order.order (h.buffs.entries.filter (·.isExpired k.now))
  let h₁ := { h with buffs := h.buffs.filter (!·.isExpired k.now) }
  let h₂ := expired.foldl (fun h b => h.expireBuff t k b) h₁
  let h₃ := if h.transformationExpired k then h₂.clearTransformation else h₂
  let h₄ := if h.blinkExpired k then { h₃.enableSkills with blinkExpiryTime := 0 } else h₃
  let h₅ := if h.postBlinkSkillEnable k then h₄.enableSkills else h₄
  if h.stealthExpired k then { h₅ with stealthEndTime := 0 }.removeStealth else h₅

end BuffSession

inductive BuffEvent
  | cast (c : Type4Cast)
  | tick (k : BuffTick)

namespace BuffSession

def step (t : MagicTables) (h : BuffSession) : BuffEvent → BuffSession
  | .cast c => h.executeType4 t c
  | .tick k => h.processBuffTick t k

end BuffSession

end KoServer
