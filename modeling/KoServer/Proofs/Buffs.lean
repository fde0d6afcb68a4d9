import KoServer.Spec.Buffs

/-! Buffs and the fields they write: which flags and amounts a cast and a tick leave as the active
buffs have them, and in which states. -/

namespace KoServer

namespace BuffSession

def activeSkill (h : BuffSession) (s : ℤ) : Option ℕ := (h.buffs.find s).map ActiveBuff.skillId

def Active (h : BuffSession) (s : ℤ) : Prop := h.activeSkill s ≠ none

/-- What the active buff of a type grants, or what holds without one. -/
def granted {α : Type} (t : MagicTables) (h : BuffSession) (s : ℤ) (grant : MagicType4Row → α)
    (default : α) : α :=
  ((h.activeSkill s).bind t.magicType4).elim default grant

def Expires (h : BuffSession) (k : BuffTick) (s : ℤ) : Prop :=
  ∃ b, h.buffs.find s = some b ∧ b.isExpired k.now = true

/-- Active, and still so after the tick. -/
def Stays (h : BuffSession) (k : BuffTick) (s : ℤ) : Prop :=
  ∃ b, h.buffs.find s = some b ∧ b.isExpired k.now = false

end BuffSession

namespace MagicType4Row

def expGain (row : MagicType4Row) : UInt16 :=
  if 100 < row.expPct.getD 0 then UInt16.ofInt (row.expPct.getD 0 - 100) else 0

def dropScroll (row : MagicType4Row) : Int16 :=
  if 0 < Int16.ofInt (row.specialAmount.getD 0) then Int16.ofInt (row.specialAmount.getD 0) else 0

def manaAbsorb (row : MagicType4Row) : UInt8 := UInt8.ofInt (max (row.expPct.getD 0) 0)

def reduction (row : MagicType4Row) : UInt8 := clampU8 0 100 (row.expPct.getD 0)

def percent (row : MagicType4Row) : UInt8 := clampU8 0 255 (row.expPct.getD 0)

end MagicType4Row

namespace BuffSession

open MagicType4Row

/-- The fields are what the active buffs make of them. -/
structure EffectsMatch (t : MagicTables) (h : BuffSession) : Prop where
  blockMagic : h.effects.blockMagic = true ↔
    h.Active BUFF_TYPE_FREEZE ∨ h.Active BUFF_TYPE_BLOCK_MAGICAL_DAMAGE
  isBlinded : h.effects.isBlinded = true ↔
    h.Active BUFF_TYPE_BLIND ∨ h.Active BUFF_TYPE_UNSIGHT ∨ h.Active BUFF_TYPE_DISABLE_TARGETING
  canUseSkills : h.effects.canUseSkills = false ↔
    h.Active BUFF_TYPE_SILENCE_TARGET ∨ h.Active BUFF_TYPE_KAUL_TRANSFORMATION
  blockPhysical : h.effects.blockPhysical = true ↔ h.Active BUFF_TYPE_BLOCK_PHYSICAL_DAMAGE
  blockCurses : h.effects.blockCurses = true ↔ h.Active BUFF_TYPE_BLOCK_CURSE
  reflectCurses : h.effects.reflectCurses = true ↔ h.Active BUFF_TYPE_BLOCK_CURSE_REFLECT
  expGainBuff11 : h.effects.expGainBuff11 = h.granted t BUFF_TYPE_EXPERIENCE expGain 0
  expGainBuff33 : h.effects.expGainBuff33 = h.granted t BUFF_TYPE_VARIOUS_EFFECTS expGain 0
  dropScrollAmount : h.effects.dropScrollAmount = h.granted t BUFF_TYPE_NP_DROP_NOAH dropScroll 0
  manaAbsorb : h.effects.manaAbsorb =
    h.granted t BUFF_TYPE_MANA_ABSORB MagicType4Row.manaAbsorb 0
  magicDamageReduction : h.effects.magicDamageReduction =
    h.granted t BUFF_TYPE_RESIS_AND_MAGIC_DMG reduction 100
  weightBuffAmount : h.effects.weightBuffAmount = h.granted t BUFF_TYPE_WEIGHT percent 100
  npGainAmount : h.effects.npGainAmount = h.granted t BUFF_TYPE_LOYALTY percent 100
  noahGainAmount : h.effects.noahGainAmount = h.granted t BUFF_TYPE_NOAH_BONUS percent 100

/-- No buffs, and the fields that buffs write as in a new session, whatever its stealth. -/
structure Fresh (h : BuffSession) : Prop where
  buffs : h.buffs.entries = []
  effects : h.effects = { invisibilityType := h.effects.invisibilityType }

/-- The buff takes the place of none of its type that grants something the code would add to. -/
structure AddsToNothing (t : MagicTables) (h : BuffSession) (row : MagicType4Row) : Prop where
  experience : row.buffType.getD 0 = BUFF_TYPE_EXPERIENCE →
    h.granted t BUFF_TYPE_EXPERIENCE expGain 0 = 0 ∨ row.expGain = 65535
  various : row.buffType.getD 0 = BUFF_TYPE_VARIOUS_EFFECTS →
    h.granted t BUFF_TYPE_VARIOUS_EFFECTS expGain 0 = 0 ∨ row.expGain = 65535
  drop : row.buffType.getD 0 = BUFF_TYPE_NP_DROP_NOAH →
    h.granted t BUFF_TYPE_NP_DROP_NOAH dropScroll 0 = 0
  mana : row.buffType.getD 0 = BUFF_TYPE_MANA_ABSORB →
    h.granted t BUFF_TYPE_MANA_ABSORB MagicType4Row.manaAbsorb 0 = 0

/-- Nothing resets a field while another buff that writes it stays. -/
structure EndsApart (h : BuffSession) (k : BuffTick) : Prop where
  magic : ∀ s ∈ [BUFF_TYPE_FREEZE, BUFF_TYPE_BLOCK_MAGICAL_DAMAGE],
    ∀ s' ∈ [BUFF_TYPE_FREEZE, BUFF_TYPE_BLOCK_MAGICAL_DAMAGE], h.Expires k s → ¬ h.Stays k s'
  sight : ∀ s ∈ [BUFF_TYPE_DISABLE_TARGETING, BUFF_TYPE_BLIND, BUFF_TYPE_UNSIGHT],
    ∀ s' ∈ [BUFF_TYPE_DISABLE_TARGETING, BUFF_TYPE_BLIND, BUFF_TYPE_UNSIGHT],
      h.Expires k s → ¬ h.Stays k s'
  skills : (∃ s ∈ [BUFF_TYPE_FREEZE, BUFF_TYPE_SILENCE_TARGET, BUFF_TYPE_KAUL_TRANSFORMATION],
      h.Expires k s) ∨ h.blinkExpired k ∨ (h.isTransformed ∧ ¬ h.isPlayerBlinking k.nowUnix) →
    ∀ s ∈ [BUFF_TYPE_SILENCE_TARGET, BUFF_TYPE_KAUL_TRANSFORMATION], ¬ h.Stays k s

def Condition (t : MagicTables) (h : BuffSession) : BuffEvent → Prop
  | .cast c => ∀ row skill, t.magicType4 c.skillId = some row → t.magic c.skillId = some skill →
      h.reached c (skill.moral.getD 0) (row.buffType.getD 0) = true → h.AddsToNothing t row
  | .tick k => h.EndsApart k

end BuffSession

/-- A field that says whether one of some types is active: what a cast and the end of a buff do to
it. `skills` marks the one that ticks lower for other reasons too. -/
structure EffectFlag where
  raised : SessionEffects → Bool
  setters : List ℤ
  clearers : List ℤ
  skills : Bool
  apply_eq : ∀ e row sSkill skillId transform roll,
    raised (SessionEffects.applyType4Stats e row sSkill skillId transform roll) =
      (raised e || setters.contains (row.buffType.getD 0))
  cleanup_eq : ∀ e s, raised (SessionEffects.buffTypeCleanup e s) =
    (raised e && !clearers.contains s)
  stealth_eq : ∀ e : SessionEffects, raised { e with invisibilityType := 0 } = raised e
  enable_eq : ∀ e : SessionEffects, raised { e with canUseSkills := true } =
    (raised e && !skills)
  covers : ∀ s ∈ setters, s ∈ clearers
  apart : ∀ s ∈ setters, BuffSession.isLockableScroll s = false ∧ s ≠ BUFF_TYPE_INVISIBILITY

/-- A field with an amount that the one active buff of a type grants. -/
structure EffectAmount (α : Type) where
  amount : SessionEffects → α
  buffType : ℤ
  grant : MagicType4Row → α
  default : α
  add : α → MagicType4Row → α
  apply_eq : ∀ e row sSkill skillId transform roll,
    amount (SessionEffects.applyType4Stats e row sSkill skillId transform roll) =
      if row.buffType.getD 0 = buffType then add (amount e) row else amount e
  cleanup_eq : ∀ e s, amount (SessionEffects.buffTypeCleanup e s) =
    if s = buffType then default else amount e
  stealth_eq : ∀ e : SessionEffects, amount { e with invisibilityType := 0 } = amount e
  enable_eq : ∀ e : SessionEffects, amount { e with canUseSkills := true } = amount e
  apart : BuffSession.isLockableScroll buffType = false ∧ buffType ≠ BUFF_TYPE_INVISIBILITY

theorem ite_true_or (p : Prop) [Decidable p] (b : Bool) :
    (if p then true else b) = (b || decide p) := by
  by_cases hp : p <;> simp [hp]

theorem ite_false_and (p : Prop) [Decidable p] (b : Bool) :
    (if p then false else b) = (b && !decide p) := by
  by_cases hp : p <;> simp [hp]

def magicFlag : EffectFlag where
  raised := SessionEffects.blockMagic
  setters := [BUFF_TYPE_FREEZE, BUFF_TYPE_BLOCK_MAGICAL_DAMAGE]
  clearers := [BUFF_TYPE_FREEZE, BUFF_TYPE_BLOCK_MAGICAL_DAMAGE]
  skills := false
  apply_eq _ _ _ _ _ _ := (ite_true_or _ _).trans (by simp)
  cleanup_eq _ _ := (ite_false_and _ _).trans (by simp)
  stealth_eq _ := rfl
  enable_eq _ := (Bool.and_true _).symm
  covers _ h := h
  apart := by decide

def sightFlag : EffectFlag where
  raised := SessionEffects.isBlinded
  setters := [BUFF_TYPE_UNSIGHT, BUFF_TYPE_BLIND, BUFF_TYPE_DISABLE_TARGETING]
  clearers := [BUFF_TYPE_DISABLE_TARGETING, BUFF_TYPE_BLIND, BUFF_TYPE_UNSIGHT]
  skills := false
  apply_eq _ _ _ _ _ _ := (ite_true_or _ _).trans (by simp)
  cleanup_eq _ _ := (ite_false_and _ _).trans (by simp)
  stealth_eq _ := rfl
  enable_eq _ := (Bool.and_true _).symm
  covers := by decide
  apart := by decide

def skillsFlag : EffectFlag where
  raised e := !e.canUseSkills
  setters := [BUFF_TYPE_SILENCE_TARGET, BUFF_TYPE_KAUL_TRANSFORMATION]
  clearers := [BUFF_TYPE_FREEZE, BUFF_TYPE_SILENCE_TARGET, BUFF_TYPE_KAUL_TRANSFORMATION]
  skills := true
  apply_eq e _ _ _ _ _ := (congrArg not (ite_false_and _ e.canUseSkills)).trans (by simp)
  cleanup_eq e _ := (congrArg not (ite_true_or _ e.canUseSkills)).trans (by simp)
  stealth_eq _ := rfl
  enable_eq e := (Bool.and_false _).symm
  covers := by decide
  apart := by decide

def physicalFlag : EffectFlag where
  raised := SessionEffects.blockPhysical
  setters := [BUFF_TYPE_BLOCK_PHYSICAL_DAMAGE]
  clearers := [BUFF_TYPE_BLOCK_PHYSICAL_DAMAGE]
  skills := false
  apply_eq _ _ _ _ _ _ := (ite_true_or _ _).trans (by simp)
  cleanup_eq _ _ := (ite_false_and _ _).trans (by simp)
  stealth_eq _ := rfl
  enable_eq _ := (Bool.and_true _).symm
  covers _ h := h
  apart := by decide

def cursesFlag : EffectFlag where
  raised := SessionEffects.blockCurses
  setters := [BUFF_TYPE_BLOCK_CURSE]
  clearers := [BUFF_TYPE_BLOCK_CURSE]
  skills := false
  apply_eq _ _ _ _ _ _ := (ite_true_or _ _).trans (by simp)
  cleanup_eq _ _ := (ite_false_and _ _).trans (by simp)
  stealth_eq _ := rfl
  enable_eq _ := (Bool.and_true _).symm
  covers _ h := h
  apart := by decide

def reflectFlag : EffectFlag where
  raised := SessionEffects.reflectCurses
  setters := [BUFF_TYPE_BLOCK_CURSE_REFLECT]
  clearers := [BUFF_TYPE_BLOCK_CURSE_REFLECT]
  skills := false
  apply_eq _ _ _ _ _ _ := (ite_true_or _ _).trans (by simp)
  cleanup_eq _ _ := (ite_false_and _ _).trans (by simp)
  stealth_eq _ := rfl
  enable_eq _ := (Bool.and_true _).symm
  covers _ h := h
  apart := by decide

/-- A gain of experience on top of what is there. -/
def addExp (v : UInt16) (row : MagicType4Row) : UInt16 :=
  if 100 < row.expPct.getD 0 then
    saturatingAddU16 v (UInt16.ofInt (row.expPct.getD 0 - 100)) else v

def addDrop (v : Int16) (row : MagicType4Row) : Int16 :=
  if 0 < Int16.ofInt (row.specialAmount.getD 0) then
    v + Int16.ofInt (row.specialAmount.getD 0) else v

def experienceAmount : EffectAmount UInt16 where
  amount := SessionEffects.expGainBuff11
  buffType := BUFF_TYPE_EXPERIENCE
  grant := MagicType4Row.expGain
  default := 0
  add := addExp
  apply_eq _ _ _ _ _ _ := ite_and ..
  cleanup_eq _ _ := rfl
  stealth_eq _ := rfl
  enable_eq _ := rfl
  apart := by decide

def variousAmount : EffectAmount UInt16 where
  amount := SessionEffects.expGainBuff33
  buffType := BUFF_TYPE_VARIOUS_EFFECTS
  grant := MagicType4Row.expGain
  default := 0
  add := addExp
  apply_eq _ _ _ _ _ _ := ite_and ..
  cleanup_eq _ _ := rfl
  stealth_eq _ := rfl
  enable_eq _ := rfl
  apart := by decide

def dropAmount : EffectAmount Int16 where
  amount := SessionEffects.dropScrollAmount
  buffType := BUFF_TYPE_NP_DROP_NOAH
  grant := MagicType4Row.dropScroll
  default := 0
  add := addDrop
  apply_eq _ _ _ _ _ _ := ite_and ..
  cleanup_eq _ _ := rfl
  stealth_eq _ := rfl
  enable_eq _ := rfl
  apart := by decide

def manaAmount : EffectAmount UInt8 where
  amount := SessionEffects.manaAbsorb
  buffType := BUFF_TYPE_MANA_ABSORB
  grant := MagicType4Row.manaAbsorb
  default := 0
  add v row := v + row.manaAbsorb
  apply_eq _ _ _ _ _ _ := rfl
  cleanup_eq _ _ := rfl
  stealth_eq _ := rfl
  enable_eq _ := rfl
  apart := by decide

def reductionAmount : EffectAmount UInt8 where
  amount := SessionEffects.magicDamageReduction
  buffType := BUFF_TYPE_RESIS_AND_MAGIC_DMG
  grant := MagicType4Row.reduction
  default := 100
  add _ := MagicType4Row.reduction
  apply_eq _ _ _ _ _ _ := rfl
  cleanup_eq _ _ := rfl
  stealth_eq _ := rfl
  enable_eq _ := rfl
  apart := by decide

def weightAmount : EffectAmount UInt8 where
  amount := SessionEffects.weightBuffAmount
  buffType := BUFF_TYPE_WEIGHT
  grant := MagicType4Row.percent
  default := 100
  add _ := MagicType4Row.percent
  apply_eq _ _ _ _ _ _ := rfl
  cleanup_eq _ _ := rfl
  stealth_eq _ := rfl
  enable_eq _ := rfl
  apart := by decide

def loyaltyAmount : EffectAmount UInt8 where
  amount := SessionEffects.npGainAmount
  buffType := BUFF_TYPE_LOYALTY
  grant := MagicType4Row.percent
  default := 100
  add _ := MagicType4Row.percent
  apply_eq _ _ _ _ _ _ := rfl
  cleanup_eq _ _ := rfl
  stealth_eq _ := rfl
  enable_eq _ := rfl
  apart := by decide

def noahAmount : EffectAmount UInt8 where
  amount := SessionEffects.noahGainAmount
  buffType := BUFF_TYPE_NOAH_BONUS
  grant := MagicType4Row.percent
  default := 100
  add _ := MagicType4Row.percent
  apply_eq _ _ _ _ _ _ := rfl
  cleanup_eq _ _ := rfl
  stealth_eq _ := rfl
  enable_eq _ := rfl
  apart := by decide

namespace BuffSession

variable {t : MagicTables} {h : BuffSession} {k : BuffTick} {c : Type4Cast} {s : ℤ}

/-- A type that no scroll is recast on and no stealth is kept under. -/
def Apart (s : ℤ) : Prop := isLockableScroll s = false ∧ s ≠ BUFF_TYPE_INVISIBILITY

theorem active_iff : h.Active s ↔ ∃ b, h.buffs.find s = some b := by
  unfold Active activeSkill
  rw [ne_eq, Option.map_eq_none_iff, ← ne_eq, Option.ne_none_iff_exists']

theorem skillId_applyType4Stats (row : MagicType4Row) (skillId : ℕ) (b : ActiveBuff) :
    (b.applyType4Stats row skillId).skillId = b.skillId := by
  unfold ActiveBuff.applyType4Stats
  dsimp only
  split_ifs
  all_goals rfl

theorem activeSkill_applyType4Stats (row : MagicType4Row) (sSkill : ℤ) (skillId : ℕ) (roll : ℤ) :
    (h.applyType4Stats row sSkill skillId roll).activeSkill s = h.activeSkill s := by
  have hskill : ActiveBuff.skillId ∘ ActiveBuff.applyType4Stats row skillId = ActiveBuff.skillId :=
    funext (skillId_applyType4Stats row skillId)
  unfold activeSkill applyType4Stats
  rw [KeyedList.find_adjust, Option.map_map, hskill]

theorem activeSkill_applyBuff (b : ActiveBuff) :
    (h.applyBuff b).activeSkill s = if s = b.buffType then some b.skillId else h.activeSkill s := by
  unfold activeSkill applyBuff
  by_cases hs : s = b.buffType
  · rw [if_pos hs, hs, KeyedList.find_insert_self]
    rfl
  · rw [if_neg hs, KeyedList.find_insert_of_ne (Ne.symm hs)]

theorem activeSkill_insertSavedMagic (skillId duration nowMs : ℕ) :
    (h.insertSavedMagic skillId duration nowMs).activeSkill s = h.activeSkill s := by
  unfold insertSavedMagic
  split_ifs
  all_goals rfl

theorem effects_insertSavedMagic (skillId duration nowMs : ℕ) :
    (h.insertSavedMagic skillId duration nowMs).effects = h.effects := by
  unfold insertSavedMagic
  split_ifs
  all_goals rfl

theorem activeSkill_removeStealth (hs : Apart s) :
    h.removeStealth.activeSkill s = h.activeSkill s := by
  unfold removeStealth
  split_ifs
  · rfl
  · unfold activeSkill removeBuff
    rw [KeyedList.find_erase_of_ne hs.2]

theorem activeSkill_exposed (hs : Apart s) : (h.exposed c).activeSkill s = h.activeSkill s := by
  unfold exposed
  split
  · exact activeSkill_removeStealth hs
  · rfl

theorem activeSkill_receive (hs : Apart s) (row : MagicType4Row) (moral sSkill : ℤ) :
    (h.receive c row moral sSkill).activeSkill s =
      if s = row.buffType.getD 0 then some c.skillId else h.activeSkill s := by
  have hcast : ∀ isBuff, (((h.exposed c).applyBuff
      (createActiveBuff c.skillId c.caster row c.now isBuff)).applyType4Stats row sSkill c.skillId
        c.roll).activeSkill s =
      if s = row.buffType.getD 0 then some c.skillId else h.activeSkill s := by
    intro isBuff
    rw [activeSkill_applyType4Stats, activeSkill_applyBuff, activeSkill_exposed hs]
    rfl
  unfold receive
  cases c.reach <;> first | exact hcast _ | exact (activeSkill_insertSavedMagic _ _ _).trans (hcast _)

theorem effects_receive (row : MagicType4Row) (moral sSkill : ℤ) :
    (h.receive c row moral sSkill).effects = (h.exposed c).effects.applyType4Stats row sSkill
      c.skillId (h.exposed c).transformSkillId c.roll := by
  unfold receive
  cases c.reach <;> first | rfl | exact effects_insertSavedMagic _ _ _

/-- A cast reaches the session, or nothing changes. -/
theorem executeType4_cases (t : MagicTables) (h : BuffSession) (c : Type4Cast) :
    (∃ row skill, t.magicType4 c.skillId = some row ∧ t.magic c.skillId = some skill ∧
      h.reached c (skill.moral.getD 0) (row.buffType.getD 0) = true ∧
      h.executeType4 t c = h.receive c row (skill.moral.getD 0) (skill.skill.getD 0)) ∨
    h.executeType4 t c = h ∧ ∀ row skill, t.magicType4 c.skillId = some row →
      t.magic c.skillId = some skill →
        ¬ h.reached c (skill.moral.getD 0) (row.buffType.getD 0) = true := by
  unfold executeType4
  cases hrow : t.magicType4 c.skillId with
  | none => exact Or.inr ⟨rfl, fun _ _ hr => by cases hr⟩
  | some row =>
    cases hskill : t.magic c.skillId with
    | none => exact Or.inr ⟨rfl, fun _ _ _ hs => by cases hs⟩
    | some skill =>
      dsimp only
      by_cases hreach : h.reached c (skill.moral.getD 0) (row.buffType.getD 0) = true
      · rw [if_pos hreach]
        exact Or.inl ⟨row, skill, rfl, rfl, hreach, rfl⟩
      · rw [if_neg hreach]
        refine Or.inr ⟨rfl, fun row' skill' hr hs => ?_⟩
        obtain rfl := Option.some.inj hr
        obtain rfl := Option.some.inj hs
        exact hreach

end BuffSession

namespace EffectFlag

variable (f : EffectFlag) {t : MagicTables} {h : BuffSession} {k : BuffTick} {c : Type4Cast}

def Holds (h : BuffSession) : Prop := f.raised h.effects = true ↔ ∃ s ∈ f.setters, h.Active s

theorem raised_removeStealth (h : BuffSession) :
    f.raised h.removeStealth.effects = f.raised h.effects := by
  unfold BuffSession.removeStealth
  split_ifs
  · rfl
  · exact f.stealth_eq h.effects

theorem raised_exposed : f.raised (h.exposed c).effects = f.raised h.effects := by
  unfold BuffSession.exposed
  split
  · exact f.raised_removeStealth h
  · rfl

theorem Holds.receive {f : EffectFlag} (hf : f.Holds h) (row : MagicType4Row) (moral sSkill : ℤ) :
    f.Holds (h.receive c row moral sSkill) := by
  have hbefore : f.raised h.effects = true ↔ ∃ s ∈ f.setters, h.Active s := hf
  unfold Holds
  rw [BuffSession.effects_receive, f.apply_eq, f.raised_exposed, Bool.or_eq_true, hbefore,
    List.contains_iff_mem]
  constructor
  · rintro (⟨s, hs, hactive⟩ | hmem)
    · refine ⟨s, hs, ?_⟩
      unfold BuffSession.Active
      rw [BuffSession.activeSkill_receive (f.apart s hs)]
      split_ifs
      · exact Option.some_ne_none _
      · exact hactive
    · refine ⟨_, hmem, ?_⟩
      unfold BuffSession.Active
      rw [BuffSession.activeSkill_receive (f.apart _ hmem), if_pos rfl]
      exact Option.some_ne_none _
  · rintro ⟨s, hs, hactive⟩
    unfold BuffSession.Active at hactive
    rw [BuffSession.activeSkill_receive (f.apart s hs)] at hactive
    by_cases hbt : s = row.buffType.getD 0
    · exact Or.inr (hbt ▸ hs)
    · rw [if_neg hbt] at hactive
      exact Or.inl ⟨s, hs, hactive⟩

end EffectFlag

namespace EffectAmount

variable {α : Type} (a : EffectAmount α) {t : MagicTables} {h : BuffSession} {k : BuffTick}
  {c : Type4Cast}

def Holds (t : MagicTables) (h : BuffSession) : Prop :=
  a.amount h.effects = h.granted t a.buffType a.grant a.default

theorem amount_removeStealth (h : BuffSession) :
    a.amount h.removeStealth.effects = a.amount h.effects := by
  unfold BuffSession.removeStealth
  split_ifs
  · rfl
  · exact a.stealth_eq h.effects

theorem amount_exposed : a.amount (h.exposed c).effects = a.amount h.effects := by
  unfold BuffSession.exposed
  split
  · exact a.amount_removeStealth h
  · rfl

/-- A cast keeps the law if what it adds to the amount it finds comes to what it grants. -/
theorem Holds.receive_iff {a : EffectAmount α} (ha : a.Holds t h) {row : MagicType4Row}
    (hrow : t.magicType4 c.skillId = some row) (moral sSkill : ℤ) :
    a.Holds t (h.receive c row moral sSkill) ↔ (row.buffType.getD 0 = a.buffType →
      a.add (h.granted t a.buffType a.grant a.default) row = a.grant row) := by
  unfold Holds BuffSession.granted
  rw [BuffSession.effects_receive, a.apply_eq, a.amount_exposed,
    BuffSession.activeSkill_receive a.apart]
  by_cases hbt : row.buffType.getD 0 = a.buffType
  · rw [if_pos hbt, if_pos hbt.symm, ha, Option.bind_some, hrow]
    exact ⟨fun h _ => h, fun h => h hbt⟩
  · rw [if_neg hbt, if_neg (Ne.symm hbt)]
    exact ⟨fun _ h => absurd h hbt, fun _ => ha⟩

end EffectAmount

namespace BuffSession

variable {t : MagicTables} {h : BuffSession} {k : BuffTick} {s bt : ℤ}

theorem ne_of_apart (hs : Apart s) (hbt : isLockableScroll bt = true) : s ≠ bt := by
  rintro rfl
  rw [hs.1] at hbt
  cases hbt

theorem activeSkill_recastOne (hs : Apart s) (hbt : isLockableScroll bt = true) (entry : ℕ × ℕ) :
    (h.recastOne t k bt entry).activeSkill s = h.activeSkill s := by
  unfold recastOne
  cases t.magicType4 entry.1 with
  | none => rfl
  | some row =>
    dsimp only
    by_cases hrow : row.buffType.getD 0 = bt
    · rw [if_neg (not_not_intro hrow), activeSkill_applyType4Stats, activeSkill_applyBuff]
      have hne : s ≠ row.buffType.getD 0 := by
        rw [hrow]
        exact ne_of_apart hs hbt
      exact if_neg hne
    · rw [if_pos hrow]

theorem activeSkill_recast (hs : Apart s) (hbt : isLockableScroll bt = true)
    (entries : List (ℕ × ℕ)) (h : BuffSession) :
    (entries.foldl (fun h entry => h.recastOne t k bt entry) h).activeSkill s =
      h.activeSkill s := by
  induction entries generalizing h with
  | nil => rfl
  | cons entry entries ih => rw [List.foldl_cons, ih, activeSkill_recastOne hs hbt]

theorem activeSkill_recastLockableScrolls (hs : Apart s) (hbt : isLockableScroll bt = true) :
    (h.recastLockableScrolls t k bt).activeSkill s = h.activeSkill s := by
  have hremove : (h.removeBuff bt).activeSkill s = h.activeSkill s := by
    unfold activeSkill removeBuff
    rw [KeyedList.find_erase_of_ne (ne_of_apart hs hbt)]
  unfold recastLockableScrolls
  dsimp only
  split_ifs
  · exact hremove
  · rw [activeSkill_recast hs hbt, hremove]

theorem activeSkill_expireBuff (hs : Apart s) (b : ActiveBuff) :
    (h.expireBuff t k b).activeSkill s = h.activeSkill s := by
  unfold expireBuff
  dsimp only
  split_ifs with hlock
  · rw [Bool.and_eq_true] at hlock
    exact activeSkill_recastLockableScrolls hs hlock.2
  · rfl

theorem activeSkill_expireBuffs (hs : Apart s) (expired : List ActiveBuff) (h : BuffSession) :
    (expired.foldl (fun h b => h.expireBuff t k b) h).activeSkill s = h.activeSkill s := by
  induction expired generalizing h with
  | nil => rfl
  | cons b expired ih => rw [List.foldl_cons, ih, activeSkill_expireBuff hs]

/-- The states that end with the tick as well change no buff but stealth. -/
theorem activeSkill_processBuffTick (hs : Apart s) :
    (h.processBuffTick t k).activeSkill s =
      ((h.buffs.find s).filter (!·.isExpired k.now)).map ActiveBuff.skillId := by
  unfold processBuffTick
  dsimp only
  set h₁ : BuffSession := { h with buffs := h.buffs.filter (!·.isExpired k.now) } with hh₁
  set h₂ := (k.order.order (h.buffs.entries.filter (·.isExpired k.now))).foldl
    (fun h b => h.expireBuff t k b) h₁ with hh₂
  have hleft : h₂.activeSkill s =
      ((h.buffs.find s).filter (!·.isExpired k.now)).map ActiveBuff.skillId := by
    rw [hh₂, activeSkill_expireBuffs hs]
    unfold activeSkill
    rw [hh₁, KeyedList.find_filter]
  have hclear : (if h.transformationExpired k then h₂.clearTransformation else h₂).activeSkill s =
      h₂.activeSkill s := by
    split_ifs
    all_goals rfl
  rw [← hleft, ← hclear]
  split_ifs
  all_goals first | rfl | exact activeSkill_removeStealth hs

theorem active_processBuffTick (hs : Apart s) :
    (h.processBuffTick t k).Active s ↔ h.Stays k s := by
  unfold Active Stays
  rw [activeSkill_processBuffTick hs, ne_eq, Option.map_eq_none_iff, ← ne_eq,
    Option.ne_none_iff_exists']
  simp only [Option.filter_eq_some_iff, Bool.not_eq_true']

theorem expires_or_stays (hactive : h.Active s) (hstays : ¬ h.Stays k s) : h.Expires k s := by
  obtain ⟨b, hb⟩ := active_iff.mp hactive
  refine ⟨b, hb, ?_⟩
  by_contra hnot
  exact hstays ⟨b, hb, eq_false_of_ne_true hnot⟩

theorem Stays.active (hstays : h.Stays k s) : h.Active s := by
  obtain ⟨b, hb, -⟩ := hstays
  exact active_iff.mpr ⟨b, hb⟩

theorem Stays.not_expires (hstays : h.Stays k s) : ¬ h.Expires k s := by
  rintro ⟨b, hb, hexpired⟩
  obtain ⟨b', hb', hkept⟩ := hstays
  obtain rfl := Option.some.inj (hb.symm.trans hb')
  rw [hexpired] at hkept
  cases hkept

/-- What has run out, whatever the order it is visited in. -/
theorem any_expired_iff (p : ℤ → Bool) :
    (k.order.order (h.buffs.entries.filter (·.isExpired k.now))).any (fun b => p b.buffType) =
      true ↔ ∃ s, p s = true ∧ h.Expires k s := by
  rw [List.any_eq_true]
  constructor
  · rintro ⟨b, hb, hp⟩
    rw [Shuffle.mem_order, List.mem_filter] at hb
    exact ⟨b.buffType, hp, b, KeyedList.find_eq_some.mpr ⟨hb.1, rfl⟩, hb.2⟩
  · rintro ⟨s, hp, b, hb, hexpired⟩
    obtain ⟨hmem, rfl⟩ := KeyedList.find_eq_some.mp hb
    exact ⟨b, (Shuffle.mem_order _).mpr (List.mem_filter.mpr ⟨hmem, hexpired⟩), hp⟩

end BuffSession

namespace EffectFlag

variable (f : EffectFlag) {t : MagicTables} {h : BuffSession} {k : BuffTick} {bt : ℤ}

theorem raised_recastOne (hbt : BuffSession.isLockableScroll bt = true) (entry : ℕ × ℕ) :
    f.raised (h.recastOne t k bt entry).effects = f.raised h.effects := by
  unfold BuffSession.recastOne
  cases t.magicType4 entry.1 with
  | none => rfl
  | some row =>
    dsimp only
    by_cases hrow : row.buffType.getD 0 = bt
    · have hnot : f.setters.contains (row.buffType.getD 0) = false := by
        rw [hrow, ← Bool.not_eq_true, List.contains_iff_mem]
        intro hmem
        rw [(f.apart bt hmem).1] at hbt
        cases hbt
      rw [if_neg (not_not_intro hrow)]
      refine (f.apply_eq _ _ _ _ _ _).trans ?_
      rw [hnot, Bool.or_false]
      rfl
    · rw [if_pos hrow]

theorem raised_recastLockableScrolls (hbt : BuffSession.isLockableScroll bt = true) :
    f.raised (h.recastLockableScrolls t k bt).effects = f.raised h.effects := by
  have hrecast : ∀ (entries : List (ℕ × ℕ)) (h : BuffSession),
      f.raised (entries.foldl (fun h entry => h.recastOne t k bt entry) h).effects =
        f.raised h.effects := by
    intro entries
    induction entries with
    | nil => exact fun _ => rfl
    | cons entry entries ih =>
      intro h
      rw [List.foldl_cons, ih, f.raised_recastOne hbt]
  unfold BuffSession.recastLockableScrolls
  dsimp only
  split_ifs
  · rfl
  · exact hrecast _ _

theorem raised_expireBuff (h : BuffSession) (b : ActiveBuff) :
    f.raised (h.expireBuff t k b).effects =
      (f.raised h.effects && !f.clearers.contains b.buffType) := by
  unfold BuffSession.expireBuff
  dsimp only
  split_ifs with hlock
  · rw [Bool.and_eq_true] at hlock
    rw [f.raised_recastLockableScrolls hlock.2]
    exact f.cleanup_eq _ _
  · exact f.cleanup_eq _ _

def lowered (h : BuffSession) (k : BuffTick) : Bool :=
  (k.order.order (h.buffs.entries.filter (·.isExpired k.now))).any
    (fun b => f.clearers.contains b.buffType) ||
  (f.skills && (h.blinkExpired k || h.postBlinkSkillEnable k))

theorem raised_processBuffTick :
    f.raised (h.processBuffTick t k).effects = (f.raised h.effects && !f.lowered h k) := by
  unfold BuffSession.processBuffTick lowered
  dsimp only
  set h₁ : BuffSession := { h with buffs := h.buffs.filter (!·.isExpired k.now) } with hh₁
  set expired := k.order.order (h.buffs.entries.filter (·.isExpired k.now)) with hexpired
  set h₂ := expired.foldl (fun h b => h.expireBuff t k b) h₁ with hh₂
  have hcleared : f.raised h₂.effects =
      (f.raised h.effects && !expired.any fun b => f.clearers.contains b.buffType) :=
    KeyedList.foldl_lowered (fun h : BuffSession => f.raised h.effects) _ _
      (f.raised_expireBuff) expired h₁
  set h₃ := if h.transformationExpired k then h₂.clearTransformation else h₂ with hh₃
  have hkept : h₃.effects = h₂.effects := by
    rw [hh₃]
    split_ifs
    all_goals rfl
  set h₄ := if h.blinkExpired k then { h₃.enableSkills with blinkExpiryTime := 0 } else h₃ with hh₄
  have hblink : f.raised h₄.effects = (f.raised h₃.effects && !(f.skills && h.blinkExpired k)) := by
    rw [hh₄]
    cases h.blinkExpired k
    · simp
    · rw [Bool.and_true]
      exact f.enable_eq h₃.effects
  set h₅ := if h.postBlinkSkillEnable k then h₄.enableSkills else h₄ with hh₅
  have hpost : f.raised h₅.effects =
      (f.raised h₄.effects && !(f.skills && h.postBlinkSkillEnable k)) := by
    rw [hh₅]
    cases h.postBlinkSkillEnable k
    · simp
    · rw [Bool.and_true]
      exact f.enable_eq h₄.effects
  have hstealth : f.raised (if h.stealthExpired k then
      ({ h₅ with stealthEndTime := 0 } : BuffSession).removeStealth else h₅).effects =
      f.raised h₅.effects := by
    split_ifs
    · exact f.raised_removeStealth _
    · rfl
  rw [hstealth, hpost, hblink, hkept, hcleared]
  cases f.skills <;> simp [Bool.and_assoc, Bool.not_or]

/-- A tick keeps the law unless it lowers the flag while one of its types stays. -/
theorem Holds.tick_iff {f : EffectFlag} (hf : f.Holds h) :
    f.Holds (h.processBuffTick t k) ↔
      ¬ (f.lowered h k = true ∧ ∃ s ∈ f.setters, h.Stays k s) := by
  have hafter : (∃ s ∈ f.setters, (h.processBuffTick t k).Active s) ↔
      ∃ s ∈ f.setters, h.Stays k s := by
    refine exists_congr fun s => and_congr_right fun hs => ?_
    exact BuffSession.active_processBuffTick (f.apart s hs)
  unfold Holds
  rw [f.raised_processBuffTick, hafter]
  refine KeyedList.flag_lowered hf ?_ ?_
  · rintro ⟨s, hs, hstays⟩
    exact ⟨s, hs, hstays.active⟩
  · rintro ⟨s, hs, hactive⟩ hnone
    have hexpires : h.Expires k s :=
      BuffSession.expires_or_stays hactive fun hstays => hnone ⟨s, hs, hstays⟩
    refine Bool.or_eq_true_iff.mpr (Or.inl ?_)
    rw [BuffSession.any_expired_iff]
    exact ⟨s, by simpa using f.covers s hs, hexpires⟩

end EffectFlag

namespace EffectAmount

variable {α : Type} (a : EffectAmount α) {t : MagicTables} {h : BuffSession} {k : BuffTick} {bt : ℤ}

theorem amount_recastOne (hbt : BuffSession.isLockableScroll bt = true) (entry : ℕ × ℕ) :
    a.amount (h.recastOne t k bt entry).effects = a.amount h.effects := by
  unfold BuffSession.recastOne
  cases t.magicType4 entry.1 with
  | none => rfl
  | some row =>
    dsimp only
    by_cases hrow : row.buffType.getD 0 = bt
    · have hne : row.buffType.getD 0 ≠ a.buffType := by
        rw [hrow]
        exact (BuffSession.ne_of_apart a.apart hbt).symm
      rw [if_neg (not_not_intro hrow)]
      refine (a.apply_eq _ _ _ _ _ _).trans ?_
      rw [if_neg hne]
      rfl
    · rw [if_pos hrow]

theorem amount_recastLockableScrolls (hbt : BuffSession.isLockableScroll bt = true) :
    a.amount (h.recastLockableScrolls t k bt).effects = a.amount h.effects := by
  have hrecast : ∀ (entries : List (ℕ × ℕ)) (h : BuffSession),
      a.amount (entries.foldl (fun h entry => h.recastOne t k bt entry) h).effects =
        a.amount h.effects := by
    intro entries
    induction entries with
    | nil => exact fun _ => rfl
    | cons entry entries ih =>
      intro h
      rw [List.foldl_cons, ih, a.amount_recastOne hbt]
  unfold BuffSession.recastLockableScrolls
  dsimp only
  split_ifs
  · rfl
  · exact hrecast _ _

theorem amount_expireBuff (h : BuffSession) (b : ActiveBuff) :
    a.amount (h.expireBuff t k b).effects =
      if decide (b.buffType = a.buffType) then a.default else a.amount h.effects := by
  unfold BuffSession.expireBuff
  dsimp only
  simp only [decide_eq_true_eq]
  split_ifs with hlock
  · rw [Bool.and_eq_true] at hlock
    rw [a.amount_recastLockableScrolls hlock.2]
    exact (a.cleanup_eq _ _).trans (if_pos ‹_›)
  · rw [Bool.and_eq_true] at hlock
    rw [a.amount_recastLockableScrolls hlock.2]
    exact (a.cleanup_eq _ _).trans (if_neg ‹_›)
  · exact (a.cleanup_eq _ _).trans (if_pos ‹_›)
  · exact (a.cleanup_eq _ _).trans (if_neg ‹_›)

theorem amount_processBuffTick :
    a.amount (h.processBuffTick t k).effects =
      if (k.order.order (h.buffs.entries.filter (·.isExpired k.now))).any
        (fun b => decide (b.buffType = a.buffType)) then a.default else a.amount h.effects := by
  unfold BuffSession.processBuffTick
  dsimp only
  set h₁ : BuffSession := { h with buffs := h.buffs.filter (!·.isExpired k.now) } with hh₁
  set expired := k.order.order (h.buffs.entries.filter (·.isExpired k.now)) with hexpired
  set h₂ := expired.foldl (fun h b => h.expireBuff t k b) h₁ with hh₂
  have hreset : a.amount h₂.effects =
      if expired.any (fun b => decide (b.buffType = a.buffType)) then a.default
      else a.amount h.effects :=
    KeyedList.foldl_reset (fun h : BuffSession => a.amount h.effects) _ _ a.default
      a.amount_expireBuff expired h₁
  rw [← hreset]
  have hclear : a.amount (if h.transformationExpired k then h₂.clearTransformation
      else h₂).effects = a.amount h₂.effects := by
    split_ifs
    all_goals rfl
  set h₃ := if h.transformationExpired k then h₂.clearTransformation else h₂ with hh₃
  rw [← hclear]
  have henable : ∀ h' : BuffSession, a.amount h'.enableSkills.effects = a.amount h'.effects :=
    fun h' => a.enable_eq h'.effects
  have hblink : a.amount (if h.blinkExpired k then { h₃.enableSkills with blinkExpiryTime := 0 }
      else h₃).effects = a.amount h₃.effects := by
    split_ifs
    · exact henable h₃
    · rfl
  rw [← hblink]
  set h₄ := if h.blinkExpired k then { h₃.enableSkills with blinkExpiryTime := 0 } else h₃
  have hpost : a.amount (if h.postBlinkSkillEnable k then h₄.enableSkills else h₄).effects =
      a.amount h₄.effects := by
    split_ifs
    · exact henable h₄
    · rfl
  rw [← hpost]
  split_ifs
  all_goals first | rfl | exact a.amount_removeStealth _

theorem Holds.tick {a : EffectAmount α} (ha : a.Holds t h) : a.Holds t (h.processBuffTick t k) := by
  have hbefore : a.amount h.effects = h.granted t a.buffType a.grant a.default := ha
  have hany := BuffSession.any_expired_iff (h := h) (k := k) fun s => decide (s = a.buffType)
  simp only [decide_eq_true_eq, exists_eq_left] at hany
  unfold Holds BuffSession.granted
  rw [a.amount_processBuffTick, BuffSession.activeSkill_processBuffTick a.apart]
  by_cases hexpires : h.Expires k a.buffType
  · rw [if_pos (hany.mpr hexpires)]
    obtain ⟨b, hb, hexpired⟩ := hexpires
    simp [hb, Option.filter, hexpired]
  · rw [if_neg (fun h' => hexpires (hany.mp h')), hbefore]
    unfold BuffSession.granted BuffSession.activeSkill
    cases hb : h.buffs.find a.buffType with
    | none => rfl
    | some b =>
      have hkept : b.isExpired k.now = false :=
        eq_false_of_ne_true fun hexpired => hexpires ⟨b, hb, hexpired⟩
      simp [Option.filter, hkept]

end EffectAmount

theorem EffectFlag.lowered_iff {f : EffectFlag} (hf : f.skills = false) {h : BuffSession}
    {k : BuffTick} : f.lowered h k = true ↔ ∃ s ∈ f.clearers, h.Expires k s := by
  unfold EffectFlag.lowered
  rw [hf, Bool.false_and, Bool.or_false, BuffSession.any_expired_iff]
  simp only [List.contains_iff_mem]

/-- A flag with one type is lowered only when that has run out. -/
theorem EffectFlag.Holds.tick_single {f : EffectFlag} {s : ℤ} {t : MagicTables} {h : BuffSession}
    {k : BuffTick} (hf : f.Holds h) (hskills : f.skills = false) (hset : f.setters = [s])
    (hclear : f.clearers = [s]) : f.Holds (h.processBuffTick t k) := by
  rw [hf.tick_iff, EffectFlag.lowered_iff hskills, hset, hclear]
  simp only [List.mem_singleton, exists_eq_left, not_and]
  intro hexpires hstays
  exact hstays.not_expires hexpires

theorem addExp_iff (v : UInt16) (row : MagicType4Row) :
    addExp v row = row.expGain ↔ v = 0 ∨ row.expGain = 65535 := by
  have hsat : ∀ g : UInt16, saturatingAddU16 v g = g ↔ v = 0 ∨ g = 65535 := by
    intro g
    unfold saturatingAddU16
    split_ifs with hfits
    · constructor
      · intro hsum
        exact Or.inl (by simpa using hsum)
      · rintro (rfl | rfl)
        · exact UInt16.zero_add g
        · have hv : v = 0 := by
            rw [← UInt16.toNat_inj]
            have hg : (65535 : UInt16).toNat = 65535 := rfl
            have hz : (0 : UInt16).toNat = 0 := rfl
            omega
          rw [hv, UInt16.zero_add]
    · constructor
      · intro hg
        exact Or.inr hg.symm
      · rintro (rfl | rfl)
        · refine absurd ?_ hfits
          have hg := g.toNat_lt
          have hz : (0 : UInt16).toNat = 0 := rfl
          omega
        · rfl
  unfold addExp MagicType4Row.expGain
  split_ifs
  · exact hsat _
  · have hnever : ¬ (0 : UInt16) = 65535 := by decide
    simp [hnever]

theorem addDrop_iff (v : Int16) (row : MagicType4Row) : addDrop v row = row.dropScroll ↔ v = 0 := by
  unfold addDrop MagicType4Row.dropScroll
  split_ifs
  · simp
  · exact Iff.rfl

namespace BuffSession

variable {t : MagicTables} {h : BuffSession} {k : BuffTick} {c : Type4Cast}

def flags : List EffectFlag :=
  [magicFlag, sightFlag, skillsFlag, physicalFlag, cursesFlag, reflectFlag]

/-- The law of each field. -/
structure Laws (t : MagicTables) (h : BuffSession) : Prop where
  flags : ∀ f ∈ flags, f.Holds h
  experience : experienceAmount.Holds t h
  various : variousAmount.Holds t h
  drop : dropAmount.Holds t h
  mana : manaAmount.Holds t h
  reduction : reductionAmount.Holds t h
  weight : weightAmount.Holds t h
  loyalty : loyaltyAmount.Holds t h
  noah : noahAmount.Holds t h

theorem flags_iff (p : EffectFlag → Prop) : (∀ f ∈ flags, p f) ↔
    p magicFlag ∧ p sightFlag ∧ p skillsFlag ∧ p physicalFlag ∧ p cursesFlag ∧ p reflectFlag := by
  simp [flags]

theorem effectsMatch_iff : h.EffectsMatch t ↔ h.Laws t := by
  have hsight : (∃ s ∈ sightFlag.setters, h.Active s) ↔ h.Active BUFF_TYPE_BLIND ∨
      h.Active BUFF_TYPE_UNSIGHT ∨ h.Active BUFF_TYPE_DISABLE_TARGETING := by
    simp [sightFlag]
    tauto
  have hflags : (∀ f ∈ flags, f.Holds h) ↔
      (h.effects.blockMagic = true ↔
        h.Active BUFF_TYPE_FREEZE ∨ h.Active BUFF_TYPE_BLOCK_MAGICAL_DAMAGE) ∧
      (h.effects.isBlinded = true ↔ h.Active BUFF_TYPE_BLIND ∨ h.Active BUFF_TYPE_UNSIGHT ∨
        h.Active BUFF_TYPE_DISABLE_TARGETING) ∧
      (h.effects.canUseSkills = false ↔
        h.Active BUFF_TYPE_SILENCE_TARGET ∨ h.Active BUFF_TYPE_KAUL_TRANSFORMATION) ∧
      (h.effects.blockPhysical = true ↔ h.Active BUFF_TYPE_BLOCK_PHYSICAL_DAMAGE) ∧
      (h.effects.blockCurses = true ↔ h.Active BUFF_TYPE_BLOCK_CURSE) ∧
      (h.effects.reflectCurses = true ↔ h.Active BUFF_TYPE_BLOCK_CURSE_REFLECT) := by
    rw [flags_iff]
    unfold EffectFlag.Holds
    rw [hsight]
    simp [magicFlag, sightFlag, skillsFlag, physicalFlag, cursesFlag, reflectFlag]
  constructor
  · intro hm
    exact ⟨hflags.mpr ⟨hm.blockMagic, hm.isBlinded, hm.canUseSkills, hm.blockPhysical,
      hm.blockCurses, hm.reflectCurses⟩, hm.expGainBuff11, hm.expGainBuff33, hm.dropScrollAmount,
      hm.manaAbsorb, hm.magicDamageReduction, hm.weightBuffAmount, hm.npGainAmount,
      hm.noahGainAmount⟩
  · intro hl
    obtain ⟨h₁, h₂, h₃, h₄, h₅, h₆⟩ := hflags.mp hl.flags
    exact ⟨h₁, h₂, h₃, h₄, h₅, h₆, hl.experience, hl.various, hl.drop, hl.mana, hl.reduction,
      hl.weight, hl.loyalty, hl.noah⟩

theorem Fresh.effectsMatch (hfresh : h.Fresh) : h.EffectsMatch t := by
  have hnone : ∀ s, h.activeSkill s = none := by
    intro s
    have hfind : h.buffs.find s = none := by
      rw [KeyedList.find_eq_none, hfresh.buffs]
      exact fun _ hb => absurd hb List.not_mem_nil
    rw [activeSkill, hfind, Option.map_none]
  have hinactive : ∀ s, ¬ h.Active s := fun s hs => hs (hnone s)
  constructor
  all_goals
    rw [hfresh.effects]
    simp [hinactive, granted, hnone]

/-- A cast keeps the match just where it adds to nothing. -/
theorem Laws.cast_iff (hl : h.Laws t) : (h.executeType4 t c).Laws t ↔ h.Condition t (.cast c) := by
  rcases executeType4_cases t h c with ⟨row, skill, hrow, hskill, hreach, heq⟩ | ⟨heq, hnot⟩
  · rw [heq]
    have hcondition : h.Condition t (.cast c) ↔ h.AddsToNothing t row := by
      constructor
      · intro hc
        exact hc row skill hrow hskill hreach
      · intro hadds row' skill' hrow' _ _
        obtain rfl := Option.some.inj (hrow.symm.trans hrow')
        exact hadds
    rw [hcondition]
    have hflags : ∀ f ∈ BuffSession.flags,
        f.Holds (h.receive c row (skill.moral.getD 0) (skill.skill.getD 0)) :=
      fun f hf => (hl.flags f hf).receive _ _ _
    have hexp := hl.experience.receive_iff hrow (skill.moral.getD 0) (skill.skill.getD 0)
    have hvarious := hl.various.receive_iff hrow (skill.moral.getD 0) (skill.skill.getD 0)
    have hdrop := hl.drop.receive_iff hrow (skill.moral.getD 0) (skill.skill.getD 0)
    have hmana := hl.mana.receive_iff hrow (skill.moral.getD 0) (skill.skill.getD 0)
    have hadd : ∀ v : UInt8, v + row.manaAbsorb = row.manaAbsorb ↔ v = 0 := by
      intro v
      simp
    constructor
    · intro hl'
      exact ⟨fun hbt => (addExp_iff _ _).mp (hexp.mp hl'.experience hbt),
        fun hbt => (addExp_iff _ _).mp (hvarious.mp hl'.various hbt),
        fun hbt => (addDrop_iff _ _).mp (hdrop.mp hl'.drop hbt),
        fun hbt => (hadd _).mp (hmana.mp hl'.mana hbt)⟩
    · intro hadds
      exact
        { flags := hflags
          experience := hexp.mpr fun hbt => (addExp_iff _ _).mpr (hadds.experience hbt)
          various := hvarious.mpr fun hbt => (addExp_iff _ _).mpr (hadds.various hbt)
          drop := hdrop.mpr fun hbt => (addDrop_iff _ _).mpr (hadds.drop hbt)
          mana := hmana.mpr fun hbt => (hadd _).mpr (hadds.mana hbt)
          reduction := (hl.reduction.receive_iff hrow _ _).mpr fun _ => rfl
          weight := (hl.weight.receive_iff hrow _ _).mpr fun _ => rfl
          loyalty := (hl.loyalty.receive_iff hrow _ _).mpr fun _ => rfl
          noah := (hl.noah.receive_iff hrow _ _).mpr fun _ => rfl }
  · rw [heq]
    constructor
    · intro _ row skill hrow hskill hreach
      exact absurd hreach (hnot row skill hrow hskill)
    · intro _
      exact hl

/-- Under the law of the flag, the tick enables skills for a transformed player who is barred from
them. -/
theorem skills_lowered_iff (hl : skillsFlag.Holds h)
    (hstays : ∃ s ∈ skillsFlag.setters, h.Stays k s) : skillsFlag.lowered h k = true ↔
      (∃ s ∈ skillsFlag.clearers, h.Expires k s) ∨ h.blinkExpired k = true ∨
        h.isTransformed = true ∧ ¬ h.isPlayerBlinking k.nowUnix = true := by
  have hbarred : h.effects.canUseSkills = false := by
    obtain ⟨s, hs, hstays⟩ := hstays
    have hraised := hl.mpr ⟨s, hs, hstays.active⟩
    simpa [skillsFlag] using hraised
  have hskills : skillsFlag.skills = true := rfl
  unfold EffectFlag.lowered postBlinkSkillEnable
  rw [hskills, hbarred, Bool.or_eq_true, any_expired_iff]
  simp only [List.contains_iff_mem, Bool.true_and, Bool.or_eq_true, Bool.and_eq_true,
    Bool.not_eq_true', Bool.not_false, and_true, Bool.not_eq_true]
  rw [and_comm (a := h.isPlayerBlinking k.nowUnix = false)]

/-- A tick keeps the match just where nothing resets what another buff still holds. -/
theorem Laws.tick_iff (hl : h.Laws t) : (h.processBuffTick t k).Laws t ↔ h.EndsApart k := by
  obtain ⟨hmagic, hsight, hskills, hphysical, hcurses, hreflect⟩ := (flags_iff _).mp hl.flags
  have hmagicTick : magicFlag.Holds (h.processBuffTick t k) ↔
      ∀ s ∈ magicFlag.clearers, ∀ s' ∈ magicFlag.setters, h.Expires k s → ¬ h.Stays k s' := by
    rw [hmagic.tick_iff, EffectFlag.lowered_iff rfl]
    push Not
    exact ⟨fun hn s hs s' hs' he => hn ⟨s, hs, he⟩ s' hs',
      fun hn ⟨s, hs, he⟩ s' hs' => hn s hs s' hs' he⟩
  have hsightTick : sightFlag.Holds (h.processBuffTick t k) ↔
      ∀ s ∈ sightFlag.clearers, ∀ s' ∈ sightFlag.setters, h.Expires k s → ¬ h.Stays k s' := by
    rw [hsight.tick_iff, EffectFlag.lowered_iff rfl]
    push Not
    exact ⟨fun hn s hs s' hs' he => hn ⟨s, hs, he⟩ s' hs',
      fun hn ⟨s, hs, he⟩ s' hs' => hn s hs s' hs' he⟩
  have hskillsTick : skillsFlag.Holds (h.processBuffTick t k) ↔
      ((∃ s ∈ skillsFlag.clearers, h.Expires k s) ∨ h.blinkExpired k = true ∨
        h.isTransformed = true ∧ ¬ h.isPlayerBlinking k.nowUnix = true →
          ∀ s ∈ skillsFlag.setters, ¬ h.Stays k s) := by
    rw [hskills.tick_iff]
    constructor
    · intro hn hlowers s hs hstays
      exact hn ⟨(skills_lowered_iff hskills ⟨s, hs, hstays⟩).mpr hlowers, s, hs, hstays⟩
    · rintro hn ⟨hlowered, s, hs, hstays⟩
      exact hn ((skills_lowered_iff hskills ⟨s, hs, hstays⟩).mp hlowered) s hs hstays
  constructor
  · intro hl'
    obtain ⟨hmagic', hsight', hskills', -⟩ := (flags_iff _).mp hl'.flags
    refine ⟨hmagicTick.mp hmagic', fun s hs s' hs' => hsightTick.mp hsight' s hs s' ?_,
      hskillsTick.mp hskills'⟩
    revert hs'
    simp only [sightFlag, List.mem_cons, List.not_mem_nil, or_false]
    tauto
  · intro happart
    have hsight' : sightFlag.Holds (h.processBuffTick t k) := by
      refine hsightTick.mpr fun s hs s' hs' => happart.sight s hs s' ?_
      revert hs'
      simp only [sightFlag, List.mem_cons, List.not_mem_nil, or_false]
      tauto
    exact
      { flags := (flags_iff _).mpr ⟨hmagicTick.mpr happart.magic, hsight',
          hskillsTick.mpr happart.skills, hphysical.tick_single rfl rfl rfl,
          hcurses.tick_single rfl rfl rfl, hreflect.tick_single rfl rfl rfl⟩
        experience := hl.experience.tick
        various := hl.various.tick
        drop := hl.drop.tick
        mana := hl.mana.tick
        reduction := hl.reduction.tick
        weight := hl.weight.tick
        loyalty := hl.loyalty.tick
        noah := hl.noah.tick }

theorem effectsMatch_step_iff (hm : h.EffectsMatch t) (e : BuffEvent) :
    (h.step t e).EffectsMatch t ↔ h.Condition t e := by
  rw [effectsMatch_iff] at hm ⊢
  cases e with
  | cast c => exact hm.cast_iff
  | tick k => exact hm.tick_iff

/-- From a session without buffs, the fields match the active buffs after every cast and every tick
of a run if and only if every step meets the condition. -/
theorem effects_match_iff (t : MagicTables) (h : BuffSession) (events : List BuffEvent)
    (hfresh : h.Fresh) :
    Run.Along (step t) (fun h e => (h.step t e).EffectsMatch t) h events ↔
      Run.Along (step t) (Condition t) h events :=
  Run.along_congr (EffectsMatch t) (fun _ _ _ hgood => hgood)
    (fun _ e hm => effectsMatch_step_iff hm e) hfresh.effectsMatch

/-- A session at rest, and a scroll of experience that one casts on oneself. -/
def restedSession : BuffSession where
  buffs := KeyedList.empty
  effects := {}
  savedMagic := []
  transformationType := 0
  transformSkillId := 0
  transformationStartTime := 0
  transformationDuration := 0
  blinkExpiryTime := 0
  stealthEndTime := 0

def expScroll : MagicType4Row where
  buffType := some BUFF_TYPE_EXPERIENCE
  duration := some 60
  expPct := some 150

def scrollTables : MagicTables where
  magic id := if id = 500100 then some { moral := some MORAL_SELF } else none
  magicType4 id := if id = 500100 then some expScroll else none

def castScroll (now : ℕ) : BuffEvent :=
  .cast { skillId := 500100, caster := 1, reach := .self, now := now, nowUnix := now / 1000
          nowMs := now, roll := 0 }

def tickAt (now : ℕ) : BuffEvent :=
  .tick { sid := 1, now := now, nowUnix := now / 1000, nowMs := now, order := Shuffle.id
          savedOrder := Shuffle.id, roll := 0 }

theorem restedSession_fresh : restedSession.Fresh := ⟨rfl, rfl⟩

/-- The scroll is read once and runs out. -/
theorem scroll_once_matches :
    Run.Along (step scrollTables) (fun h e => (h.step scrollTables e).EffectsMatch scrollTables)
      restedSession [castScroll 0, tickAt 60000] := by
  refine (effects_match_iff _ _ _ restedSession_fresh).mpr ⟨?_, ?_, trivial⟩
  · intro row skill hrow _ _
    obtain rfl : expScroll = row := Option.some.inj hrow
    refine ⟨fun _ => Or.inl (by decide +kernel), fun h => absurd h (by decide),
      fun h => absurd h (by decide), fun h => absurd h (by decide)⟩
  · have hnone : ∀ s ∈ [BUFF_TYPE_FREEZE, BUFF_TYPE_BLOCK_MAGICAL_DAMAGE,
        BUFF_TYPE_DISABLE_TARGETING, BUFF_TYPE_BLIND, BUFF_TYPE_UNSIGHT, BUFF_TYPE_SILENCE_TARGET,
        BUFF_TYPE_KAUL_TRANSFORMATION],
        ((restedSession.step scrollTables (castScroll 0)).buffs.find s).isSome = false := by
      decide +kernel
    refine ⟨fun _ _ s hs _ hstays => ?_, fun _ _ s hs _ hstays => ?_, fun _ s hs hstays => ?_⟩
    all_goals
      obtain ⟨b, hb, -⟩ := hstays
      have hsome := hnone s (by simp at hs ⊢; tauto)
      rw [hb] at hsome
      cases hsome

/-- The scroll is read twice, and its bonus counts twice. -/
theorem scroll_twice_adds_up :
    restedSession.Fresh ∧
      ¬ Run.Along (step scrollTables)
        (fun h e => (h.step scrollTables e).EffectsMatch scrollTables) restedSession
        [castScroll 0, castScroll 1000] := by
  refine ⟨restedSession_fresh, ?_⟩
  rintro ⟨-, hmatch, -⟩
  have hbonus := hmatch.expGainBuff11
  revert hbonus
  decide +kernel

end BuffSession

end KoServer
