import Mathlib.Tactic.IntervalCases
import KoServer.Proofs.Level

/-! The points of a character against its level. Stat points are granted by a recount of free
and spent points; the recount of skill points leaves the free ones out. -/

namespace KoServer

/-- A character with the highest level it has reached. -/
structure Climb where
  ch : Progress
  highest : ℕ

namespace Climb

def start (ch : Progress) : Climb := ⟨ch, ch.level⟩

def step (w : Widths) (t : LevelTables) (c : Climb) (s : ProgressStep) : Climb :=
  let ch := c.ch.step w t s
  ⟨ch, max c.highest ch.level⟩

theorem step_eq {w : Widths} {t : LevelTables} {c : Climb} {s : ProgressStep} {ch : Progress}
    (h : c.ch.step w t s = ch) : c.step w t s = ⟨ch, max c.highest ch.level⟩ := by
  unfold step
  rw [h]

end Climb

namespace Progress

def allStats (ch : Progress) : ℕ := ch.freePoints + ch.getStatTotal

def allSkills (ch : Progress) : ℕ := ch.skillPoints 0 + ch.getTotalSkillPoints

end Progress

/-- After the step no more points are there than the highest level has, and no counter of the
step wrapped. -/
structure WithinBudget (t : LevelTables) (c : Climb) (s : ProgressStep) : Prop where
  stats : (c.step .machine t s).ch.allStats ≤ expectedStatTotal (c.step .machine t s).highest
  skills : (c.step .machine t s).ch.allSkills ≤ expectedSkillTotal (c.step .machine t s).highest
  noWrap : c.ch.step .machine t s = c.ch.step .unbounded t s

/-- The experience of the call takes the character one level up. -/
def LevelsUp (ch : Progress) (call : ExpCall) : Prop :=
  ch.exp < 2 ^ 63 ∧ ch.level < MAX_LEVEL ∧ 0 < ch.maxExp ∧
    ∃ x, arrives ch call = some x ∧ ch.maxExp ≤ asI64 (ch.exp + x)

/-- No level is gained with its skill points there but not all of them spent. -/
def NotRegranted (c : Climb) : ProgressStep → Prop
  | .expChange call => LevelsUp c.ch call →
    c.ch.getTotalSkillPoints < expectedSkillTotal (c.ch.level + 1) →
      c.ch.allSkills < expectedSkillTotal (c.ch.level + 1)
  | _ => True

variable {w : Widths} {t : LevelTables} {ch : Progress} {call : ExpCall}

theorem expectedStatTotal_eq {level : ℕ} (h : 1 ≤ level) :
    expectedStatTotal level = 297 + 3 * level + 2 * if 60 < level then level - 60 else 0 := by
  unfold expectedStatTotal
  split_ifs <;> omega

theorem expectedStatTotal_succ {level : ℕ} (h : 1 ≤ level) :
    expectedStatTotal (level + 1) =
      expectedStatTotal level + if (if 60 < level + 1 then level + 1 - 60 else 0) = 0 then 3 else 5 := by
  unfold expectedStatTotal
  split_ifs <;> omega

theorem expectedStatTotal_mono {level level' : ℕ} (h : level ≤ level') :
    expectedStatTotal level ≤ expectedStatTotal level' := by
  unfold expectedStatTotal
  split_ifs <;> omega

theorem expectedSkillTotal_mono {level level' : ℕ} (h : level ≤ level') :
    expectedSkillTotal level ≤ expectedSkillTotal level' := by
  unfold expectedSkillTotal
  split_ifs <;> omega

/-- Everything but level and experience is as it was, and the level not higher. -/
structure PointsKept (ch ch' : Progress) : Prop where
  level_pos : 1 ≤ ch'.level
  level_le : ch'.level ≤ ch.level
  classId : ch'.classId = ch.classId
  str : ch'.str = ch.str
  sta : ch'.sta = ch.sta
  dex : ch'.dex = ch.dex
  intel : ch'.intel = ch.intel
  cha : ch'.cha = ch.cha
  freePoints : ch'.freePoints = ch.freePoints
  skillPoints : ch'.skillPoints = ch.skillPoints

theorem PointsKept.refl (h : 1 ≤ ch.level) : PointsKept ch ch :=
  ⟨h, le_rfl, rfl, rfl, rfl, rfl, rfl, rfl, rfl, rfl⟩

theorem PointsKept.trans {ch' ch'' : Progress} (h : PointsKept ch ch') (h' : PointsKept ch' ch'') :
    PointsKept ch ch'' :=
  ⟨h'.level_pos, h'.level_le.trans h.level_le, h'.classId.trans h.classId, h'.str.trans h.str,
    h'.sta.trans h.sta, h'.dex.trans h.dex, h'.intel.trans h.intel, h'.cha.trans h.cha,
    h'.freePoints.trans h.freePoints, h'.skillPoints.trans h.skillPoints⟩

theorem pointsKept_dropLevel (hlevel : 1 < ch.level) (hle : ch.level ≤ MAX_LEVEL) :
    PointsKept ch (ch.dropLevel w t) := by
  rw [dropLevel_eq hlevel hle]
  refine ⟨?_, ?_, rfl, rfl, rfl, rfl, rfl, rfl, rfl, rfl⟩
  · dsimp only
    omega
  · exact Nat.sub_le _ _

theorem asU64_le {n : ℤ} (h : 0 < n) : (asU64 n : ℤ) ≤ n := by
  unfold asU64
  omega

/-- A level that was just dropped gains none back: whatever the counters, the same loss. -/
theorem loss_keeps_points {d : ℤ} (hd : 0 < d) (hd' : d < 2 ^ 63) (hpos : 1 ≤ ch.level)
    (hle : ch.level ≤ MAX_LEVEL) (hmax : ch.maxExp = t.getExpByLevel ch.level)
    (hexp : ch.exp = asU64 (t.getExpByLevel ch.level)) (hcall : call.iExp = -d) :
    ∃ ch', PointsKept ch ch' ∧ ∀ w, ch.expChangeInner w t call = ch' := by
  induction hlevel : ch.level generalizing ch call d with
  | zero => omega
  | succ below ih =>
    by_cases hblocked : call.iExp < 0 ∧ (ch.level < 6 ∨ call.isWarZone)
    · refine ⟨ch, .refl hpos, fun w => ?_⟩
      rw [Progress.expChangeInner, if_pos hblocked]
    by_cases hbig : 2 ^ 63 ≤ ch.exp
    · refine ⟨ch, .refl hpos, fun w => ?_⟩
      rw [Progress.expChangeInner, if_neg hblocked, if_pos hbig]
    have hhigh : 6 ≤ ch.level := by
      rw [not_and, not_or, not_lt] at hblocked
      exact (hblocked (by omega)).1
    have hamount : call.withBonuses = -d := by rw [withBonuses_of_neg (by omega), hcall]
    have hland : ∀ w, ch.expChangeInner w t call = ch.land w t call (-d) := by
      intro w
      rw [expChangeInner_unsealed (Nat.lt_of_not_le hbig) hblocked fun hs => by
        rw [hamount] at hs
        omega, hamount]
    have hnew : asI64 (ch.exp + -d) = ch.exp - d :=
      asI64_of_range (by omega) (by omega)
    by_cases hneg : (ch.exp : ℤ) - d < 0
    · have hdrop : ∀ w, ch.dropLevel w t = ch.dropLevel .machine t := fun w => by
        rw [dropLevel_eq (by omega) hle, dropLevel_eq (by omega) hle]
      have hkept : PointsKept ch (ch.dropLevel .machine t) := pointsKept_dropLevel (by omega) hle
      by_cases hmore : 0 < ch.dropDiff t
      · obtain ⟨ch', hkept', hsame⟩ := @ih (ch.dropLevel .machine t)
          { call with iExp := -ch.dropDiff t, isBonusReward := false } _ hmore
          (asI64_range _).2 hkept.level_pos (by rw [Progress.level_dropLevel]; omega)
          (by rw [dropLevel_eq (by omega) hle]) (by rw [dropLevel_eq (by omega) hle]) rfl
          (by rw [Progress.level_dropLevel]; omega)
        refine ⟨ch', hkept.trans hkept', fun w => ?_⟩
        rw [hland]
        simp only [Progress.land, hnew]
        rw [if_pos hneg, if_neg (by omega), if_pos hmore, hdrop, hsame]
      · refine ⟨_, hkept, fun w => ?_⟩
        rw [hland]
        simp only [Progress.land, hnew]
        rw [if_pos hneg, if_neg (by omega), if_neg hmore, hdrop]
    · refine ⟨{ ch with exp := (ch.exp - d : ℤ).toNat },
        ⟨hpos, le_rfl, rfl, rfl, rfl, rfl, rfl, rfl, rfl, rfl⟩, fun w => ?_⟩
      have hless : ¬ (0 < ch.maxExp ∧ ch.maxExp ≤ (ch.exp : ℤ) - d) := by
        rintro ⟨hT, hfull⟩
        have hle := asU64_le (hmax ▸ hT)
        rw [← hexp, ← hmax] at hle
        omega
      rw [hland]
      simp only [Progress.land, hnew]
      rw [if_neg hneg, if_neg hless]

/-- A call keeps the points, or it takes the character one level up. -/
theorem expChange_cases (hpos : 1 ≤ ch.level) (hle : ch.level ≤ MAX_LEVEL) :
    (∃ ch', PointsKept ch ch' ∧ ∀ w, ch.expChangeInner w t call = ch') ∨
    LevelsUp ch call ∧ ∃ sealStatus remainder, ∀ w, ch.expChangeInner w t call =
      ({ ch with expSealStatus := sealStatus } : Progress).gainLevel w t remainder := by
  by_cases hbig : 2 ^ 63 ≤ ch.exp
  · refine Or.inl ⟨ch, .refl hpos, fun w => ?_⟩
    rw [Progress.expChangeInner, if_pos hbig, ite_self]
  have hexp := Nat.lt_of_not_le hbig
  rcases @expChangeInner_cases ch call hexp with
    ⟨-, sealedExp, hsame⟩ | ⟨sealStatus, call', x, hx, -, hland⟩
  · exact Or.inl ⟨{ ch with sealedExp := sealedExp },
      ⟨hpos, le_rfl, rfl, rfl, rfl, rfl, rfl, rfl, rfl, rfl⟩, fun w => hsame w t⟩
  by_cases hneg : asI64 (ch.exp + x) < 0
  · left
    by_cases hfirst : ch.level - 1 < 1
    · refine ⟨{ ch with exp := 0, expSealStatus := sealStatus },
        ⟨hpos, le_rfl, rfl, rfl, rfl, rfl, rfl, rfl, rfl, rfl⟩, fun w => ?_⟩
      rw [hland]
      unfold Progress.land
      dsimp only
      rw [if_pos hneg, if_pos hfirst]
    let ch₀ : Progress := { ch with expSealStatus := sealStatus }
    have hstart : PointsKept ch ch₀ := ⟨hpos, le_rfl, rfl, rfl, rfl, rfl, rfl, rfl, rfl, rfl⟩
    have hlevel : 1 < ch₀.level := by
      change 1 < ch.level
      omega
    have hdrop : ∀ w, ch₀.dropLevel w t = ch₀.dropLevel .machine t := fun w => by
      rw [dropLevel_eq hlevel hle, dropLevel_eq hlevel hle]
    have hkept : PointsKept ch₀ (ch₀.dropLevel .machine t) := pointsKept_dropLevel hlevel hle
    by_cases hmore : 0 < ch₀.dropDiff t
    · obtain ⟨ch', hkept', hsame⟩ := @loss_keeps_points t (ch₀.dropLevel .machine t)
        { call' with iExp := -ch₀.dropDiff t, isBonusReward := false } _ hmore
        (asI64_range _).2 hkept.level_pos (hkept.level_le.trans hle)
        (by rw [dropLevel_eq hlevel hle]) (by rw [dropLevel_eq hlevel hle]) rfl
      refine ⟨ch', hstart.trans (hkept.trans hkept'), fun w => ?_⟩
      rw [hland]
      unfold Progress.land
      dsimp only
      rw [if_pos hneg, if_neg hfirst, if_pos hmore, hdrop, hsame]
    · refine ⟨_, hstart.trans hkept, fun w => ?_⟩
      rw [hland]
      unfold Progress.land
      dsimp only
      rw [if_pos hneg, if_neg hfirst, if_neg hmore, hdrop]
  by_cases hfull : 0 < ch.maxExp ∧ ch.maxExp ≤ asI64 (ch.exp + x)
  · by_cases hlast : ch.level < MAX_LEVEL
    · refine Or.inr ⟨⟨hexp, hlast, hfull.1, x, hx, hfull.2⟩, sealStatus,
        asI64 (ch.exp + x) - ch.maxExp, fun w => ?_⟩
      rw [hland]
      unfold Progress.land
      dsimp only
      rw [if_neg hneg, if_pos hfull, if_pos hlast]
    · refine Or.inl ⟨{ ch with exp := asU64 ch.maxExp, expSealStatus := sealStatus },
        ⟨hpos, le_rfl, rfl, rfl, rfl, rfl, rfl, rfl, rfl, rfl⟩, fun w => ?_⟩
      rw [hland]
      unfold Progress.land
      dsimp only
      rw [if_neg hneg, if_pos hfull, if_neg hlast]
  · refine Or.inl ⟨{ ch with exp := (asI64 (ch.exp + x)).toNat, expSealStatus := sealStatus },
      ⟨hpos, le_rfl, rfl, rfl, rfl, rfl, rfl, rfl, rfl, rfl⟩, fun w => ?_⟩
    rw [hland]
    unfold Progress.land
    dsimp only
    rw [if_neg hneg, if_neg hfull]

section

variable {level : ℕ}

theorem grantStats_noWrap (hstats : ch.allStats + 5 < 2 ^ 16) :
    ch.grantStats .machine level = ch.grantStats .unbounded level := by
  unfold Progress.allStats at hstats
  have hpts : (if (if 60 < level then level - 60 else 0) = 0 then 3 else 5) ≤ 5 := by
    split_ifs <;> omega
  unfold Progress.grantStats Widths.machine Widths.unbounded
  dsimp only [id]
  simp only [Nat.mod_eq_of_lt (show ch.freePoints + ch.getStatTotal < 2 ^ 16 by omega),
    Nat.mod_eq_of_lt (show ch.freePoints + (if (if 60 < level then level - 60 else 0) = 0 then 3 else 5) <
      2 ^ 16 by omega)]

theorem grantSkills_noWrap (hskills : ch.allSkills + 2 < 2 ^ 8) :
    ch.grantSkills .machine level = ch.grantSkills .unbounded level := by
  unfold Progress.allSkills at hskills
  have hpts : (if 10 ≤ level then 2 else 0) ≤ 2 := by split_ifs <;> omega
  unfold Progress.grantSkills Widths.machine Widths.unbounded
  dsimp only [id]
  rw [Nat.mod_eq_of_lt (show ch.skillPoints 0 + (if 10 ≤ level then 2 else 0) < 2 ^ 8 by omega)]

theorem allStats_grantStats (level : ℕ) :
    (ch.grantStats .unbounded level).allStats = ch.allStats +
      if ch.allStats < 297 + 3 * level + 2 * (if 60 < level then level - 60 else 0) then
        if (if 60 < level then level - 60 else 0) = 0 then 3 else 5
      else 0 := by
  unfold Progress.grantStats Widths.unbounded Progress.allStats
  dsimp only [id]
  by_cases hmissing : ch.freePoints + ch.getStatTotal <
      297 + 3 * level + 2 * (if 60 < level then level - 60 else 0)
  · rw [if_pos hmissing, if_pos hmissing]
    exact Nat.add_right_comm _ _ _
  · rw [if_neg hmissing, if_neg hmissing, Nat.add_zero]

theorem skillPoints_grantStats (w : Widths) (level : ℕ) :
    (ch.grantStats w level).skillPoints = ch.skillPoints := by
  unfold Progress.grantStats
  dsimp only
  split_ifs <;> rfl

theorem allStats_grantSkills (w : Widths) (level : ℕ) :
    (ch.grantSkills w level).allStats = ch.allStats := by
  unfold Progress.grantSkills
  dsimp only
  split_ifs <;> rfl

theorem allSkills_grantSkills (level : ℕ) :
    (ch.grantSkills .unbounded level).allSkills = ch.allSkills +
      if 10 ≤ level ∧ ch.getTotalSkillPoints < 2 * (level - 9) then 2 else 0 := by
  unfold Progress.grantSkills Widths.unbounded Progress.allSkills
  dsimp only [id]
  by_cases hmissing : 10 ≤ level ∧ ch.getTotalSkillPoints < 2 * (level - 9)
  · rw [if_pos hmissing, if_pos hmissing, if_pos hmissing.1]
    exact Nat.add_right_comm _ _ _
  · rw [if_neg hmissing, if_neg hmissing, Nat.add_zero]

theorem levelUp_noWrap (hstats : ch.allStats + 5 < 2 ^ 16) (hskills : ch.allSkills + 2 < 2 ^ 8) :
    ch.levelUp .machine t level = ch.levelUp .unbounded t level := by
  have hsame : (ch.grantStats .unbounded level).allSkills = ch.allSkills := by
    unfold Progress.allSkills Progress.getTotalSkillPoints
    rw [skillPoints_grantStats]
  unfold Progress.levelUp
  rw [grantStats_noWrap hstats, grantSkills_noWrap (by rw [hsame]; exact hskills)]

theorem allStats_levelUp (level : ℕ) :
    (ch.levelUp .unbounded t level).allStats = ch.allStats +
      if ch.allStats < 297 + 3 * level + 2 * (if 60 < level then level - 60 else 0) then
        if (if 60 < level then level - 60 else 0) = 0 then 3 else 5
      else 0 :=
  (allStats_grantSkills .unbounded level).trans (allStats_grantStats level)

theorem allSkills_levelUp (level : ℕ) :
    (ch.levelUp .unbounded t level).allSkills = ch.allSkills +
      if 10 ≤ level ∧ ch.getTotalSkillPoints < 2 * (level - 9) then 2 else 0 := by
  have hskills := @allSkills_grantSkills (ch.grantStats .unbounded level) level
  unfold Progress.allSkills Progress.getTotalSkillPoints at hskills ⊢
  rw [skillPoints_grantStats] at hskills
  exact hskills

/-- The stats themselves are not granted anything. -/
theorem getStatByType_levelUp (w : Widths) (level i : ℕ) :
    (ch.levelUp w t level).getStatByType i = ch.getStatByType i := by
  unfold Progress.levelUp Progress.grantSkills Progress.grantStats Progress.setSkill
  dsimp only
  split_ifs <;> rfl

theorem gainLevel_eq (hlast : ch.level < MAX_LEVEL) (w : Widths) (remainder : ℤ) :
    ch.gainLevel w t remainder =
      ({ ch with exp := remainder.toNat, level := ch.level + 1 } : Progress).levelUp w t
        (ch.level + 1) := by
  unfold Progress.gainLevel
  exact levelChange_up (ch.level + 1) rfl (Nat.succ_pos _) hlast

theorem gainLevel_noWrap (hlast : ch.level < MAX_LEVEL) (hstats : ch.allStats + 5 < 2 ^ 16)
    (hskills : ch.allSkills + 2 < 2 ^ 8) (remainder : ℤ) :
    ch.gainLevel .machine t remainder = ch.gainLevel .unbounded t remainder := by
  rw [gainLevel_eq hlast, gainLevel_eq hlast]
  exact levelUp_noWrap hstats hskills

end

/-- The points are those of some level between the current and the highest. -/
structure Budget (c : Climb) : Prop where
  level_pos : 1 ≤ c.ch.level
  level_le : c.ch.level ≤ c.highest
  highest_le : c.highest ≤ MAX_LEVEL
  stats : ∃ m, c.ch.level ≤ m ∧ m ≤ c.highest ∧ c.ch.allStats = expectedStatTotal m
  skills : ∃ m, c.ch.level ≤ m ∧ m ≤ c.highest ∧ c.ch.allSkills = expectedSkillTotal m
  bytes : ∀ i, c.ch.getStatByType i < 2 ^ 8

section

variable {c : Climb}

theorem Budget.le (h : Budget c) : c.ch.allStats ≤ expectedStatTotal c.highest ∧
    c.ch.allSkills ≤ expectedSkillTotal c.highest := by
  obtain ⟨m, -, hm, hstats⟩ := h.stats
  obtain ⟨m', -, hm', hskills⟩ := h.skills
  rw [hstats, hskills]
  exact ⟨expectedStatTotal_mono hm, expectedSkillTotal_mono hm'⟩

theorem Budget.small (h : Budget c) : c.ch.allStats + 5 < 2 ^ 16 ∧ c.ch.allSkills + 2 < 2 ^ 8 := by
  obtain ⟨hstats, hskills⟩ := h.le
  have hstats' := expectedStatTotal_mono h.highest_le
  have hskills' := expectedSkillTotal_mono h.highest_le
  have htop : expectedStatTotal MAX_LEVEL = 592 ∧ expectedSkillTotal MAX_LEVEL = 148 := by decide
  omega

theorem Budget.kept {ch' : Progress} (h : Budget c) (hk : PointsKept c.ch ch') :
    Budget ⟨ch', max c.highest ch'.level⟩ := by
  have hmax : max c.highest ch'.level = c.highest := max_eq_left (hk.level_le.trans h.level_le)
  have hstats : ch'.allStats = c.ch.allStats := by
    unfold Progress.allStats Progress.getStatTotal
    rw [hk.freePoints, hk.str, hk.sta, hk.dex, hk.intel, hk.cha]
  have hskills : ch'.allSkills = c.ch.allSkills := by
    unfold Progress.allSkills Progress.getTotalSkillPoints
    rw [hk.skillPoints]
  obtain ⟨m, hm, hm', hs⟩ := h.stats
  obtain ⟨m', hm₁, hm₂, hs'⟩ := h.skills
  rw [hmax]
  refine ⟨hk.level_pos, hk.level_le.trans h.level_le, h.highest_le,
    ⟨m, hk.level_le.trans hm, hm', hstats.trans hs⟩,
    ⟨m', hk.level_le.trans hm₁, hm₂, hskills.trans hs'⟩, fun i => ?_⟩
  have hbyte := h.bytes i
  unfold Progress.getStatByType at hbyte ⊢
  rwa [hk.str, hk.sta, hk.dex, hk.intel, hk.cha]

/-- A level gained without a second grant of its points. -/
theorem Budget.gained {sealStatus : Bool} {remainder : ℤ} (h : Budget c)
    (hlast : c.ch.level < MAX_LEVEL)
    (hnew : c.ch.getTotalSkillPoints < expectedSkillTotal (c.ch.level + 1) →
      c.ch.allSkills < expectedSkillTotal (c.ch.level + 1)) :
    let ch' := ({ c.ch with expSealStatus := sealStatus } : Progress).gainLevel .unbounded t remainder
    Budget ⟨ch', max c.highest ch'.level⟩ := by
  intro ch'
  let ch₀ : Progress := { c.ch with expSealStatus := sealStatus }
  let ch₁ : Progress := { ch₀ with exp := remainder.toNat, level := c.ch.level + 1 }
  have heq : ch' = ch₁.levelUp .unbounded t (c.ch.level + 1) :=
    @gainLevel_eq t ch₀ hlast .unbounded remainder
  have hlevel : ch'.level = c.ch.level + 1 := by
    rw [heq]
    exact (levelUp_same .unbounded t ch₁ _).1
  have hpos := h.level_pos
  have hle := h.level_le
  have htop := h.highest_le
  rw [hlevel]
  refine ⟨?_, ?_, ?_, ?_, ?_, ?_⟩
  · dsimp only
    omega
  · exact hlevel.trans_le (le_max_right _ _)
  · exact max_le htop hlast
  · obtain ⟨m, hm, hm', hstats⟩ := h.stats
    have hall : ch'.allStats = _ := heq ▸ @allStats_levelUp t ch₁ (c.ch.level + 1)
    have hsame : ch₁.allStats = expectedStatTotal m := hstats
    rw [hall, hsame, ← expectedStatTotal_eq (Nat.succ_pos _)]
    by_cases hmissing : m = c.ch.level
    · refine ⟨c.ch.level + 1, hlevel.le, le_max_right _ _, ?_⟩
      rw [hmissing, expectedStatTotal_succ hpos, if_pos]
      split_ifs <;> omega
    · refine ⟨m, hlevel.trans_le (by omega), hm'.trans (le_max_left _ _), ?_⟩
      rw [if_neg (Nat.not_lt.mpr (expectedStatTotal_mono (by omega))), Nat.add_zero]
  · obtain ⟨m, hm, hm', hskills⟩ := h.skills
    have hall : ch'.allSkills = _ := heq ▸ @allSkills_levelUp t ch₁ (c.ch.level + 1)
    have hsame : ch₁.allSkills = expectedSkillTotal m := hskills
    have hspent : expectedSkillTotal m = c.ch.skillPoints 0 + c.ch.getTotalSkillPoints := hskills.symm
    have hfree : ch₁.getTotalSkillPoints = c.ch.getTotalSkillPoints := rfl
    rw [hall, hsame, hfree]
    unfold expectedSkillTotal Progress.allSkills at *
    by_cases hmissing : m = c.ch.level
    · refine ⟨c.ch.level + 1, hlevel.le, le_max_right _ _, ?_⟩
      split_ifs at * <;> omega
    · refine ⟨m, hlevel.trans_le (by omega), hm'.trans (le_max_left _ _), ?_⟩
      split_ifs at * <;> omega
  · intro i
    rw [heq, getStatByType_levelUp]
    exact h.bytes i

/-- Points that moved, or were set to those of the level. -/
theorem Budget.moved {ch' : Progress} (h : Budget c) (hlevel : ch'.level = c.ch.level)
    (hstats : ch'.allStats = c.ch.allStats ∨ ch'.allStats = expectedStatTotal c.ch.level)
    (hskills : ch'.allSkills = c.ch.allSkills ∨ ch'.allSkills = expectedSkillTotal c.ch.level)
    (hbytes : ∀ i, ch'.getStatByType i < 2 ^ 8) : Budget ⟨ch', max c.highest ch'.level⟩ := by
  have hmax : max c.highest ch'.level = c.highest := max_eq_left (hlevel.trans_le h.level_le)
  rw [hmax]
  refine ⟨h.level_pos.trans_eq hlevel.symm, hlevel.trans_le h.level_le, h.highest_le, ?_, ?_, hbytes⟩
  · dsimp only
    rw [hlevel]
    rcases hstats with hsame | hreset
    · rw [hsame]
      exact h.stats
    · exact ⟨c.ch.level, le_rfl, h.level_le, hreset⟩
  · dsimp only
    rw [hlevel]
    rcases hskills with hsame | hreset
    · rw [hsame]
      exact h.skills
    · exact ⟨c.ch.level, le_rfl, h.level_le, hreset⟩

end

theorem getStatByType_setStatByType {statType : ℕ} (htype : 1 ≤ statType ∧ statType ≤ 5) (v i : ℕ) :
    (ch.setStatByType statType v).getStatByType i =
      if i = statType then v else ch.getStatByType i := by
  obtain ⟨hlow, hhigh⟩ := htype
  by_cases hi : 1 ≤ i ∧ i ≤ 5
  · obtain ⟨hi, hi'⟩ := hi
    interval_cases statType <;> interval_cases i <;> rfl
  · rw [if_neg (by omega)]
    have hnone : ∀ ch : Progress, ch.getStatByType i = 0 := by
      intro ch
      unfold Progress.getStatByType
      split <;> first | rfl | omega
    rw [hnone, hnone]

theorem getStatTotal_setStatByType {statType : ℕ} (htype : 1 ≤ statType ∧ statType ≤ 5) (v : ℕ) :
    (ch.setStatByType statType v).getStatTotal + ch.getStatByType statType = ch.getStatTotal + v := by
  have hsum : ∀ ch : Progress, ch.getStatTotal = ch.getStatByType 1 + ch.getStatByType 2 +
      ch.getStatByType 3 + ch.getStatByType 4 + ch.getStatByType 5 := fun _ => rfl
  rw [hsum, hsum]
  simp only [getStatByType_setStatByType htype]
  obtain ⟨hlow, hhigh⟩ := htype
  interval_cases statType <;> simp <;> omega

theorem setStatByType_same (statType v : ℕ) :
    (ch.setStatByType statType v).level = ch.level ∧
      (ch.setStatByType statType v).skillPoints = ch.skillPoints := by
  unfold Progress.setStatByType
  split <;> exact ⟨rfl, rfl⟩

theorem allSkills_spend {skillType : ℕ} (htype : 5 ≤ skillType ∧ skillType ≤ 8)
    (hfree : 1 ≤ ch.skillPoints 0) :
    ((ch.setSkill 0 (ch.skillPoints 0 - 1)).setSkill (Fin.ofNat 10 skillType)
      (ch.skillPoints (Fin.ofNat 10 skillType) + 1)).allSkills = ch.allSkills := by
  obtain ⟨hlow, hhigh⟩ := htype
  unfold Progress.allSkills Progress.getTotalSkillPoints Progress.setSkill
  simp only [Function.update_apply]
  interval_cases skillType <;> simp <;> omega

theorem getBaseStatsForClass_range {classId str sta dex intel cha : ℕ}
    (h : getBaseStatsForClass classId = (str, sta, dex, intel, cha)) :
    str + sta + dex + intel + cha = 290 ∧
      str ≤ 70 ∧ sta ≤ 70 ∧ dex ≤ 70 ∧ intel ≤ 70 ∧ cha ≤ 70 := by
  unfold getBaseStatsForClass at h
  dsimp only at h
  split_ifs at h <;> cases h <;> decide

section

variable {c : Climb} (h : Budget c)
include h

theorem Budget.pointChange (isPlayerDead : Bool) (statType : ℕ) :
    let ch' := c.ch.handlePointChange .machine isPlayerDead statType
    Budget ⟨ch', max c.highest ch'.level⟩ ∧
      ch' = c.ch.handlePointChange .unbounded isPlayerDead statType := by
  unfold Progress.handlePointChange
  dsimp only
  have hsame : Budget ⟨c.ch, max c.highest c.ch.level⟩ :=
    h.moved rfl (Or.inl rfl) (Or.inl rfl) h.bytes
  by_cases hdead : isPlayerDead
  · rw [if_pos hdead, if_pos hdead]
    exact ⟨hsame, rfl⟩
  rw [if_neg hdead, if_neg hdead]
  by_cases htype : 1 ≤ statType ∧ statType ≤ 5
  swap
  · rw [if_pos htype, if_pos htype]
    exact ⟨hsame, rfl⟩
  rw [if_neg (not_not.mpr htype), if_neg (not_not.mpr htype)]
  by_cases hfree : c.ch.freePoints < 1
  · rw [if_pos hfree, if_pos hfree]
    exact ⟨hsame, rfl⟩
  rw [if_neg hfree, if_neg hfree]
  by_cases hmax : c.ch.getStatByType statType = STAT_MAX
  · rw [if_pos hmax, if_pos hmax]
    exact ⟨hsame, rfl⟩
  rw [if_neg hmax, if_neg hmax]
  have hbyte : c.ch.getStatByType statType + 1 < 2 ^ 8 := by
    have := h.bytes statType
    unfold STAT_MAX at hmax
    omega
  have hu8 : Widths.machine.u8 (c.ch.getStatByType statType + 1) = c.ch.getStatByType statType + 1 :=
    Nat.mod_eq_of_lt hbyte
  rw [hu8]
  refine ⟨?_, rfl⟩
  set v := c.ch.getStatByType statType + 1 with hv
  obtain ⟨hlevel, hskills⟩ := @setStatByType_same c.ch statType v
  refine h.moved hlevel (Or.inl ?_) (Or.inl ?_) fun i => ?_
  · have htotal := @getStatTotal_setStatByType c.ch statType htype v
    change c.ch.freePoints - 1 + (c.ch.setStatByType statType v).getStatTotal =
      c.ch.freePoints + c.ch.getStatTotal
    omega
  · unfold Progress.allSkills Progress.getTotalSkillPoints
    rw [hskills]
  · change (c.ch.setStatByType statType v).getStatByType i < 2 ^ 8
    rw [getStatByType_setStatByType htype]
    split_ifs
    · exact hbyte
    · exact h.bytes i

theorem Budget.skillptChange (isPlayerDead : Bool) (skillType : ℕ) :
    let ch' := c.ch.handleSkillptChange isPlayerDead skillType
    Budget ⟨ch', max c.highest ch'.level⟩ := by
  unfold Progress.handleSkillptChange
  dsimp only
  have hsame : Budget ⟨c.ch, max c.highest c.ch.level⟩ :=
    h.moved rfl (Or.inl rfl) (Or.inl rfl) h.bytes
  by_cases hdead : isPlayerDead
  · rwa [if_pos hdead]
  rw [if_neg hdead]
  by_cases hrefused : c.ch.skillptRefused skillType
  · rwa [if_pos hrefused]
  rw [if_neg hrefused]
  have hallowed : (5 ≤ skillType ∧ skillType ≤ 8) ∧ 1 ≤ c.ch.skillPoints 0 ∧
      c.ch.skillPoints (Fin.ofNat 10 skillType) + 1 ≤ c.ch.level := by
    unfold Progress.skillptRefused at hrefused
    simp only [Bool.or_eq_true, Bool.not_eq_true', decide_eq_true_eq, Bool.not_eq_false,
      Bool.and_eq_true, not_or, not_lt, SKILLPT_CAT1, SKILLPT_MASTER] at hrefused
    obtain ⟨⟨⟨⟨htype, hfree⟩, hlevel⟩, -⟩, -⟩ := hrefused
    exact ⟨⟨of_decide_eq_true htype.1, of_decide_eq_true htype.2⟩, hfree, hlevel⟩
  obtain ⟨htype, hfree, hlevel⟩ := hallowed
  have hle := h.level_le
  have htop := h.highest_le
  rw [min_eq_left (by unfold MAX_LEVEL at htop; omega)]
  exact h.moved rfl (Or.inl rfl) (Or.inl (allSkills_spend htype hfree)) h.bytes

theorem Budget.allPointChange (env : ResetEnv) :
    let ch' := c.ch.handleAllPointChange t env
    Budget ⟨ch', max c.highest ch'.level⟩ := by
  unfold Progress.handleAllPointChange
  dsimp only
  have hsame : Budget ⟨c.ch, max c.highest c.ch.level⟩ :=
    h.moved rfl (Or.inl rfl) (Or.inl rfl) h.bytes
  by_cases hworn : env.hasEquipment
  · rwa [if_pos hworn]
  rw [if_neg hworn]
  by_cases hpoor : !env.free && c.ch.gold < resetCost t env c.ch.level
  · rwa [if_pos hpoor]
  rw [if_neg hpoor]
  rcases hbase : getBaseStatsForClass c.ch.classId with ⟨baseStr, baseSta, baseDex, baseInt, baseCha⟩
  obtain ⟨htotal, hstr, hsta, hdex, hintel, hcha⟩ := getBaseStatsForClass_range hbase
  have hpos := h.level_pos
  refine h.moved rfl (Or.inr ?_) (Or.inl rfl) fun i => ?_
  · unfold Progress.allStats Progress.getStatTotal expectedStatTotal
    dsimp only
    omega
  · unfold Progress.getStatByType
    dsimp only
    split <;> omega

theorem Budget.allSkillPointChange (env : ResetEnv) :
    let ch' := c.ch.handleAllSkillPointChange t env
    Budget ⟨ch', max c.highest ch'.level⟩ := by
  unfold Progress.handleAllSkillPointChange
  dsimp only
  have hsame : Budget ⟨c.ch, max c.highest c.ch.level⟩ :=
    h.moved rfl (Or.inl rfl) (Or.inl rfl) h.bytes
  by_cases hlow : c.ch.level < 10
  · rwa [if_pos hlow]
  rw [if_neg hlow]
  split_ifs
  · exact hsame
  · exact hsame
  refine h.moved rfl (Or.inl rfl) (Or.inr ?_) h.bytes
  have hle := h.level_le
  have htop := h.highest_le
  unfold MAX_LEVEL at htop
  unfold Progress.allSkills Progress.getTotalSkillPoints expectedSkillTotal
  rw [if_pos (not_lt.mp hlow)]
  change min ((c.ch.level - 9) * 2) (2 ^ 8 - 1) + (0 + 0 + 0 + 0) = (c.ch.level - 9) * 2
  omega

end

theorem Budget.step {c : Climb} (h : Budget c) {s : ProgressStep} (hnew : NotRegranted c s) :
    Budget (c.step .machine t s) ∧ WithinBudget t c s := by
  have hbudget : Budget (c.step .machine t s) ∧ c.ch.step .machine t s = c.ch.step .unbounded t s := by
    cases s with
    | expChange call =>
      rcases @expChange_cases t c.ch call h.level_pos (h.level_le.trans h.highest_le) with
        ⟨ch', hkept, hsame⟩ | ⟨hup, sealStatus, remainder, hsame⟩
      · have hstep : ∀ w, c.ch.step w t (.expChange call) = ch' := hsame
        rw [Climb.step_eq (hstep .machine), hstep, hstep]
        exact ⟨h.kept hkept, rfl⟩
      · have hlast := hup.2.1
        obtain ⟨hstats, hskills⟩ := h.small
        have hstep : ∀ w, c.ch.step w t (.expChange call) =
            ({ c.ch with expSealStatus := sealStatus } : Progress).gainLevel w t remainder := hsame
        have hwidth := @gainLevel_noWrap t { c.ch with expSealStatus := sealStatus } hlast hstats
          hskills remainder
        rw [Climb.step_eq (hstep .machine), hstep, hstep, hwidth]
        exact ⟨h.gained hlast (hnew hup), rfl⟩
    | pointChange isPlayerDead statType => exact h.pointChange isPlayerDead statType
    | skillptChange isPlayerDead skillType => exact ⟨h.skillptChange isPlayerDead skillType, rfl⟩
    | allPointChange env => exact ⟨h.allPointChange env, rfl⟩
    | allSkillPointChange env => exact ⟨h.allSkillPointChange env, rfl⟩
  exact ⟨hbudget.1, hbudget.1.le.1, hbudget.1.le.2, hbudget.2⟩

/-- What a character starts with: the points of its level, and stats that are bytes. -/
structure PointsOfLevel (ch : Progress) : Prop where
  level_pos : 1 ≤ ch.level
  level_le : ch.level ≤ MAX_LEVEL
  stats : ch.allStats = expectedStatTotal ch.level
  skills : ch.allSkills = expectedSkillTotal ch.level
  bytes : ∀ i, ch.getStatByType i < 2 ^ 8

/-- As long as the skill points of no level are granted a second time, the points stay those of
the highest level. -/
theorem withinBudget_run (hstart : PointsOfLevel ch) {steps : List ProgressStep}
    (hok : Run.Along (Climb.step .machine t) NotRegranted (.start ch) steps) :
    Run.Along (Climb.step .machine t) (WithinBudget t) (.start ch) steps := by
  refine Run.along_of_invariant Budget (fun c s h hnew => h.step hnew) hok ?_
  exact ⟨hstart.level_pos, le_rfl, hstart.level_le, ⟨_, le_rfl, le_rfl, hstart.stats⟩,
    ⟨_, le_rfl, le_rfl, hstart.skills⟩, hstart.bytes⟩

theorem pointsOfLevel_tenth : PointsOfLevel tenth := by
  refine ⟨by decide, by decide, by decide, by decide, fun i => ?_⟩
  unfold Progress.getStatByType
  split <;> decide

/-- One skill point and one stat point are spent. -/
theorem withinBudget_tenth :
    Run.Along (Climb.step .machine evenTable) (WithinBudget evenTable) (.start tenth)
      [.skillptChange false 5, .pointChange false 1] :=
  withinBudget_run pointsOfLevel_tenth ⟨trivial, trivial, trivial⟩

/-- The tenth level lost, with its two skill points in hand. -/
def ninth : Progress := { tenth with level := 9, exp := 95 }

theorem lost_tenth (w : Widths) : tenth.expChangeInner w evenTable (gain (-10)) = ninth := by
  rw [expChangeInner_unsealed (by decide) (by decide) (by decide)]
  unfold Progress.land
  dsimp only
  rw [if_pos (by decide), if_neg (by decide), if_pos (by decide), dropLevel_eq (by decide) (by decide),
    expChangeInner_unsealed (by decide) (by decide) (by decide)]
  unfold Progress.land
  dsimp only
  rw [if_neg (by decide), if_neg (by decide)]
  rfl

theorem regained_tenth (w : Widths) :
    ninth.expChangeInner w evenTable (gain 5) = ninth.gainLevel w evenTable 0 := by
  rw [expChangeInner_unsealed (by decide) (by decide) (by decide)]
  unfold Progress.land
  dsimp only
  rw [if_neg (by decide), if_pos (by decide), if_pos (by decide)]
  rfl

/-- At level 10 again there are four skill points for two. -/
theorem not_withinBudget_ninth :
    ¬ Run.Along (Climb.step .machine evenTable) (WithinBudget evenTable) (.start tenth)
      [.expChange (gain (-10)), .expChange (gain 5)] := by
  have hlost : (Climb.start tenth).step .machine evenTable (.expChange (gain (-10))) = ⟨ninth, 10⟩ :=
    Climb.step_eq (lost_tenth .machine)
  have hregained : Climb.step .machine evenTable ⟨ninth, 10⟩ (.expChange (gain 5)) =
      ⟨ninth.gainLevel .machine evenTable 0, 10⟩ :=
    Climb.step_eq (regained_tenth .machine)
  rintro ⟨-, h, -⟩
  have hskills := h.skills
  rw [hlost, hregained] at hskills
  exact absurd hskills (by decide)

end KoServer
