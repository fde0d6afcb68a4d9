import KoServer.Lib.Run
import KoServer.Spec.Level

/-! When a character's experience stays below that of its level. A gain is carried into one
level; a loss drops levels one by one, each with a loss of its own, and is not taken any more
below level 6. -/

namespace KoServer

theorem asI64_of_range {n : ℤ} (h : -2 ^ 63 ≤ n) (h' : n < 2 ^ 63) : asI64 n = n := by
  apply Int.bmod_eq_of_le <;> norm_num <;> omega

theorem asI64_range (n : ℤ) : -2 ^ 63 ≤ asI64 n ∧ asI64 n < 2 ^ 63 := by
  have hlow := Int.le_bmod (x := n) (m := 2 ^ 64) (by norm_num)
  have hhigh := Int.bmod_lt (x := n) (m := 2 ^ 64) (by norm_num)
  unfold asI64
  norm_num at hlow hhigh ⊢
  omega

theorem asU64_of_range {n : ℤ} (h : 0 ≤ n) (h' : n < 2 ^ 63) : asU64 n = n.toNat := by
  unfold asU64
  omega

namespace Progress

variable (w : Widths) (t : LevelTables)

/-- What a call does with the experience that comes through its checks. -/
def land (ch : Progress) (call : ExpCall) (iExp : ℤ) : Progress :=
  let newExp := asI64 (ch.exp + iExp)
  if newExp < 0 then
    if ch.level - 1 < 1 then { ch with exp := 0 }
    else if 0 < ch.dropDiff t then
      expChangeInner w t (ch.dropLevel w t)
        { call with iExp := -ch.dropDiff t, isBonusReward := false }
    else ch.dropLevel w t
  else if 0 < ch.maxExp ∧ ch.maxExp ≤ newExp then
    if ch.level < MAX_LEVEL then ch.gainLevel w t (newExp - ch.maxExp)
    else { ch with exp := asU64 ch.maxExp }
  else { ch with exp := newExp.toNat }

end Progress

variable {w : Widths} {t : LevelTables} {ch : Progress} {call : ExpCall}

def arrives (ch : Progress) (call : ExpCall) : Option ℤ :=
  if call.iExp < 0 ∧ (ch.level < 6 ∨ call.isWarZone) then none
  else if ch.expSealStatus ∧ 0 < call.withBonuses then
    if MAX_SEALED_EXP ≤ ch.sealedExp then
      some (applyExpBonuses call.bonusPercents call.withBonuses.toNat)
    else none
  else some call.withBonuses

theorem expChangeInner_unsealed (hexp : ch.exp < 2 ^ 63)
    (hopen : ¬ (call.iExp < 0 ∧ (ch.level < 6 ∨ call.isWarZone)))
    (hseal : ¬ (ch.expSealStatus ∧ 0 < call.withBonuses)) :
    ch.expChangeInner w t call = ch.land w t call call.withBonuses := by
  rw [Progress.expChangeInner, if_neg hopen, if_neg (Nat.not_le.mpr hexp)]
  dsimp only
  rw [dif_neg hseal]
  rfl

theorem withBonuses_of_neg (h : call.iExp < 0) : call.withBonuses = call.iExp :=
  if_neg fun hpos => absurd hpos.1 (by omega)

theorem withBonuses_again (h : 0 < call.withBonuses) :
    ({ call with iExp := call.withBonuses, isBonusReward := false } : ExpCall).withBonuses =
      applyExpBonuses call.bonusPercents call.withBonuses.toNat :=
  if_pos ⟨h, Bool.false_ne_true⟩

/-- A call comes to nothing but sealed experience, or its experience arrives. -/
theorem expChangeInner_cases (hexp : ch.exp < 2 ^ 63) :
    (arrives ch call = none ∧ ∃ sealedExp, ∀ w t,
      ch.expChangeInner w t call = { ch with sealedExp := sealedExp }) ∨
    ∃ sealStatus call' x, arrives ch call = some x ∧ call'.isWarZone = call.isWarZone ∧ ∀ w t,
      ch.expChangeInner w t call =
        ({ ch with expSealStatus := sealStatus } : Progress).land w t call' x := by
  by_cases hblocked : call.iExp < 0 ∧ (ch.level < 6 ∨ call.isWarZone)
  · refine Or.inl ⟨if_pos hblocked, ch.sealedExp, fun w t => ?_⟩
    rw [Progress.expChangeInner, if_pos hblocked]
  by_cases hseal : ch.expSealStatus ∧ 0 < call.withBonuses
  · by_cases hfull : MAX_SEALED_EXP ≤ ch.sealedExp
    · right
      have hpos : ¬ call.withBonuses < 0 := by omega
      refine ⟨false, { call with iExp := call.withBonuses, isBonusReward := false },
        applyExpBonuses call.bonusPercents call.withBonuses.toNat, ?_, rfl, fun w t => ?_⟩
      · rw [arrives, if_neg hblocked, if_pos hseal, if_pos hfull]
      · rw [Progress.expChangeInner, if_neg hblocked, if_neg (Nat.not_le.mpr hexp)]
        dsimp only
        rw [dif_pos hseal, if_pos hfull, ← withBonuses_again hseal.2]
        exact expChangeInner_unsealed hexp (fun h => hpos h.1) fun h => by simp at h
    · left
      refine ⟨by rw [arrives, if_neg hblocked, if_pos hseal, if_neg hfull],
        min (min (ch.sealedExp + asU32 call.withBonuses) (2 ^ 32 - 1)) MAX_SEALED_EXP,
        fun w t => ?_⟩
      rw [Progress.expChangeInner, if_neg hblocked, if_neg (Nat.not_le.mpr hexp)]
      dsimp only
      rw [dif_pos hseal, if_neg hfull]
  · right
    refine ⟨ch.expSealStatus, call, call.withBonuses, ?_, rfl,
      fun w t => expChangeInner_unsealed hexp hblocked hseal⟩
    rw [arrives, if_neg hblocked, if_neg hseal]

def PositiveTable (t : LevelTables) : Prop :=
  ∀ level, 1 ≤ level → level ≤ MAX_LEVEL →
    0 < t.getExpByLevel level ∧ t.getExpByLevel level < 2 ^ 63

structure Normalised (t : LevelTables) (ch : Progress) : Prop where
  level_pos : 1 ≤ ch.level
  level_le : ch.level ≤ MAX_LEVEL
  maxExp_eq : ch.maxExp = t.getExpByLevel ch.level
  exp_lt : ch.level = MAX_LEVEL ∨ (ch.exp : ℤ) < ch.maxExp

/-- What level `level` loses when the one above it was lost from its full experience. -/
def lossBelow (t : LevelTables) (level : ℕ) : ℤ :=
  asI64 (t.getExpByLevel (level + 1) + onDeathLostExpCalc (t.getExpByLevel level))

/-- A loss of `d` from the full experience of `level` is paid by that level or by one below it,
above level 5, and none in between loses a sum that has wrapped. -/
def Settles (t : LevelTables) (level : ℕ) (d : ℤ) : Prop :=
  ∃ j, 6 ≤ j ∧ j ≤ level ∧ (if j = level then d else lossBelow t j) ≤ t.getExpByLevel j ∧
    ∀ i, j ≤ i → i < level → 0 < lossBelow t i

/-- What has to hold of a call: a gain does not fill the next level too, unless that is the last
one, and a loss of levels settles outside a war zone. -/
def Settled (t : LevelTables) (ch : Progress) (call : ExpCall) : Prop :=
  ∀ x, arrives ch call = some x →
    let newExp := asI64 (ch.exp + x)
    (newExp < 0 → ch.level ≤ 1 ∨
      0 < ch.dropDiff t ∧ ¬ call.isWarZone ∧ Settles t (ch.level - 1) (ch.dropDiff t)) ∧
    (t.getExpByLevel ch.level ≤ newExp → ch.level + 1 < MAX_LEVEL →
      newExp - t.getExpByLevel ch.level < t.getExpByLevel (ch.level + 1))

theorem settles_iff {level : ℕ} {d : ℤ} (hlevel : 6 ≤ level) :
    Settles t level d ↔ d ≤ t.getExpByLevel level ∨
      0 < lossBelow t (level - 1) ∧ Settles t (level - 1) (lossBelow t (level - 1)) := by
  constructor
  · rintro ⟨j, hj, hle, hpaid, hbetween⟩
    rcases hle.eq_or_lt with rfl | hlt
    · rw [if_pos rfl] at hpaid
      exact Or.inl hpaid
    · refine Or.inr ⟨hbetween _ (by omega) (by omega), j, hj, by omega, ?_, ?_⟩
      · rw [if_neg hlt.ne] at hpaid
        split_ifs with heq
        · rwa [← heq]
        · exact hpaid
      · exact fun i hi hi' => hbetween i hi (by omega)
  · rintro (hpaid | ⟨hpos, j, hj, hle, hpaid, hbetween⟩)
    · exact ⟨level, hlevel, le_rfl, by rwa [if_pos rfl], fun i hi hi' => by omega⟩
    · refine ⟨j, hj, by omega, ?_, fun i hi hi' => ?_⟩
      · rw [if_neg (by omega)]
        split_ifs at hpaid with heq
        · rw [heq] at hpaid ⊢
          exact hpaid
        · exact hpaid
      · rcases Nat.lt_or_ge i (level - 1) with hlt | hge
        · exact hbetween i hi hlt
        · obtain rfl : i = level - 1 := by omega
          exact hpos

theorem not_settles {level : ℕ} {d : ℤ} (hlevel : level < 6) : ¬ Settles t level d := by
  rintro ⟨j, hj, hle, -⟩
  omega

/-- A level of points leaves everything else alone. -/
theorem levelUp_same (w : Widths) (t : LevelTables) (ch : Progress) (level : ℕ) :
    (ch.levelUp w t level).level = ch.level ∧ (ch.levelUp w t level).exp = ch.exp ∧
      (ch.levelUp w t level).maxExp = t.getExpByLevel level := by
  unfold Progress.levelUp Progress.grantSkills Progress.grantStats Progress.setSkill
  dsimp only
  split_ifs <;> exact ⟨rfl, rfl, rfl⟩

theorem levelChange_up (level : ℕ) (h : ch.level = level) (hpos : 1 ≤ level)
    (hle : level ≤ MAX_LEVEL) : ch.levelChange w t level true = ch.levelUp w t level := by
  have hrange : ¬ (level < 1 ∨ MAX_LEVEL < level) := by omega
  have hsingle : ¬ min (ch.level + 1) (2 ^ 8 - 1) < level := by
    unfold MAX_LEVEL at hle
    omega
  rw [Progress.levelChange, if_neg hrange, if_pos rfl, if_neg hsingle]

theorem gainLevel_same (hlevel : ch.level < MAX_LEVEL) (remainder : ℤ) :
    (ch.gainLevel w t remainder).level = ch.level + 1 ∧
      (ch.gainLevel w t remainder).exp = remainder.toNat ∧
      (ch.gainLevel w t remainder).maxExp = t.getExpByLevel (ch.level + 1) := by
  unfold Progress.gainLevel
  dsimp only
  rw [levelChange_up (ch.level + 1) rfl (Nat.succ_pos _) hlevel]
  exact levelUp_same w t _ _

structure Dropped (t : LevelTables) (ch : Progress) : Prop where
  level_pos : 1 ≤ ch.level
  level_lt : ch.level < MAX_LEVEL
  maxExp_eq : ch.maxExp = t.getExpByLevel ch.level
  exp_eq : (ch.exp : ℤ) = t.getExpByLevel ch.level

theorem dropLevel_eq (hlevel : 1 < ch.level) (hle : ch.level ≤ MAX_LEVEL) :
    ch.dropLevel w t =
      { ch with
        exp := asU64 (t.getExpByLevel (ch.level - 1))
        level := ch.level - 1
        maxExp := t.getExpByLevel (ch.level - 1) } := by
  have hrange : ¬ (ch.level - 1 < 1 ∨ MAX_LEVEL < ch.level - 1) := by omega
  simp only [Progress.dropLevel, Progress.levelChange, if_neg hrange, Bool.false_eq_true, if_false]

theorem dropped_dropLevel (ht : PositiveTable t) (hlevel : 1 < ch.level)
    (hle : ch.level ≤ MAX_LEVEL) : Dropped t (ch.dropLevel w t) := by
  obtain ⟨hpos, hlt⟩ := ht (ch.level - 1) (by omega) (by omega)
  rw [dropLevel_eq hlevel hle]
  refine ⟨?_, ?_, rfl, ?_⟩
  · dsimp only
    omega
  · dsimp only
    omega
  · dsimp only
    rw [asU64_of_range hpos.le hlt]
    omega

theorem Dropped.not_normalised (h : Dropped t ch) : ¬ Normalised t ch := by
  intro hn
  have hlt := hn.exp_lt
  have := h.level_lt
  rw [hn.maxExp_eq, h.exp_eq] at hlt
  omega

theorem dropDiff_of_exp (h : (ch.exp : ℤ) = t.getExpByLevel ch.level) (hlevel : 1 ≤ ch.level) :
    ch.dropDiff t = lossBelow t (ch.level - 1) := by
  unfold Progress.dropDiff lossBelow
  rw [h, Nat.sub_add_cancel hlevel]

/-- The loss goes down the levels until one of them can pay for it. -/
theorem normalised_loss_iff (ht : PositiveTable t) {d : ℤ} (hd : 0 < d) (hd' : d < 2 ^ 63)
    (h : Dropped t ch) (hcall : call.iExp = -d) :
    Normalised t (ch.expChangeInner w t call) ↔
      ¬ call.isWarZone ∧ Settles t ch.level d := by
  induction hlevel : ch.level generalizing ch call d with
  | zero =>
    have := h.level_pos
    omega
  | succ below ih =>
    obtain ⟨hT, hT'⟩ := ht ch.level h.level_pos h.level_lt.le
    have hexp : ch.exp < 2 ^ 63 := by
      have := h.exp_eq
      omega
    by_cases hblocked : call.iExp < 0 ∧ (ch.level < 6 ∨ call.isWarZone)
    · rw [Progress.expChangeInner, if_pos hblocked]
      refine iff_of_false h.not_normalised ?_
      rintro ⟨hpeace, hsettles⟩
      rcases hblocked.2 with hlow | hwar
      · exact not_settles (by omega) hsettles
      · exact hpeace hwar
    obtain ⟨hhigh, hpeace⟩ : 6 ≤ ch.level ∧ ¬ call.isWarZone := by
      rw [not_and, not_or, not_lt] at hblocked
      exact hblocked (by omega)
    have hamount : call.withBonuses = -d := by rw [withBonuses_of_neg (by omega), hcall]
    rw [expChangeInner_unsealed hexp hblocked fun hs => by rw [hamount] at hs; omega, hamount]
    have hnew : asI64 (ch.exp + -d) = t.getExpByLevel ch.level - d := by
      rw [h.exp_eq, ← Int.sub_eq_add_neg]
      exact asI64_of_range (by omega) (by omega)
    unfold Progress.land
    simp only [hnew]
    rw [← hlevel, settles_iff hhigh, and_iff_right hpeace]
    by_cases hneg : t.getExpByLevel ch.level - d < 0
    · rw [if_pos hneg, if_neg (by omega), dropDiff_of_exp h.exp_eq h.level_pos]
      have hdropped : Dropped t (ch.dropLevel w t) := dropped_dropLevel ht (by omega) h.level_lt.le
      by_cases hpos : 0 < lossBelow t (ch.level - 1)
      · have hbelow : (ch.dropLevel w t).level = below := by
          rw [Progress.level_dropLevel]
          omega
        rw [if_pos hpos]
        rw [ih hpos (asI64_range _).2 hdropped rfl hbelow, and_iff_right hpeace,
          or_iff_right (by omega), and_iff_right hpos]
        rw [show ch.level - 1 = below by omega]
      · rw [if_neg hpos]
        exact iff_of_false hdropped.not_normalised fun hor =>
          hor.elim (fun hpaid => by omega) fun hpaid => hpos hpaid.1
    · rw [if_neg hneg, h.maxExp_eq, if_neg (by omega)]
      refine iff_of_true ⟨h.level_pos, h.level_lt.le, rfl, Or.inr ?_⟩ (Or.inl (by omega))
      dsimp only
      omega

theorem normalised_land_iff (ht : PositiveTable t) (hn : Normalised t ch) (x : ℤ) : Normalised t (ch.land w t call x) ↔
      (asI64 (ch.exp + x) < 0 → ch.level ≤ 1 ∨ 0 < ch.dropDiff t ∧ ¬ call.isWarZone ∧
        Settles t (ch.level - 1) (ch.dropDiff t)) ∧
      (t.getExpByLevel ch.level ≤ asI64 (ch.exp + x) → ch.level + 1 < MAX_LEVEL →
        asI64 (ch.exp + x) - t.getExpByLevel ch.level < t.getExpByLevel (ch.level + 1)) := by
  obtain ⟨hT, hT'⟩ := ht ch.level hn.level_pos hn.level_le
  have hle := hn.level_le
  unfold Progress.land
  dsimp only
  by_cases hneg : asI64 (ch.exp + x) < 0
  · rw [if_pos hneg, and_iff_left fun hfull => by omega]
    simp only [hneg, true_implies]
    by_cases hfirst : ch.level - 1 < 1
    · rw [if_pos hfirst]
      refine iff_of_true ⟨hn.level_pos, hn.level_le, hn.maxExp_eq, Or.inr ?_⟩ (Or.inl (by omega))
      rw [hn.maxExp_eq]
      exact hT
    · rw [if_neg hfirst, or_iff_right (by omega)]
      have hdropped : Dropped t (ch.dropLevel w t) := dropped_dropLevel ht (by omega) hn.level_le
      by_cases hpos : 0 < ch.dropDiff t
      · rw [if_pos hpos, and_iff_right hpos,
          normalised_loss_iff ht hpos (asI64_range _).2 hdropped rfl, Progress.level_dropLevel]
      · rw [if_neg hpos]
        exact iff_of_false hdropped.not_normalised fun h => hpos h.1
  · rw [if_neg hneg]
    simp only [hneg, false_implies, true_and]
    by_cases hfull : t.getExpByLevel ch.level ≤ asI64 (ch.exp + x)
    · rw [if_pos (by rw [hn.maxExp_eq]; exact ⟨hT, hfull⟩)]
      by_cases hlast : ch.level < MAX_LEVEL
      · rw [if_pos hlast]
        obtain ⟨hlevel', hexp', hmax'⟩ := gainLevel_same (w := w) (t := t) hlast
          (asI64 (ch.exp + x) - ch.maxExp)
        constructor
        · intro h _ hnext
          have hlt := h.exp_lt
          rw [hlevel', hexp', hmax', hn.maxExp_eq] at hlt
          omega
        · intro h
          refine ⟨by omega, by omega, by rw [hmax', hlevel'], ?_⟩
          rw [hlevel', hexp', hmax', hn.maxExp_eq]
          by_cases hnext : ch.level + 1 < MAX_LEVEL
          · have := h hfull hnext
            omega
          · left
            omega
      · rw [if_neg hlast]
        refine iff_of_true ⟨hn.level_pos, hn.level_le, hn.maxExp_eq, Or.inl ?_⟩ fun _ hnext => by omega
        exact le_antisymm hn.level_le (not_lt.mp hlast)
    · rw [if_neg fun h => hfull (hn.maxExp_eq ▸ h.2)]
      refine iff_of_true ⟨hn.level_pos, hn.level_le, hn.maxExp_eq, Or.inr ?_⟩ fun h => absurd h hfull
      dsimp only
      rw [hn.maxExp_eq]
      omega

theorem exp_expChangeInner_lt (ht : PositiveTable t) (hexp : ch.exp < 2 ^ 63)
    (hlevel : ch.level ≤ MAX_LEVEL) (hmax : ch.maxExp < 2 ^ 63) :
    (ch.expChangeInner w t call).exp < 2 ^ 63 := by
  fun_induction Progress.expChangeInner w t ch call with
  | case1 => exact hexp
  | case2 => exact hexp
  | case3 _ _ _ _ _ _ _ ih => exact ih hexp hlevel hmax
  | case4 => exact hexp
  | case5 => exact Nat.two_pow_pos 63
  | case6 ch call _ _ _ _ _ _ hfirst _ ih =>
    have hdropped : Dropped t (ch.dropLevel w t) := dropped_dropLevel ht (by omega) hlevel
    obtain ⟨-, hlt⟩ := ht _ hdropped.level_pos hdropped.level_lt.le
    have := hdropped.exp_eq
    exact ih (by omega) hdropped.level_lt.le (by rw [hdropped.maxExp_eq]; exact hlt)
  | case7 ch call _ _ _ _ _ _ hfirst _ =>
    have hdropped : Dropped t (ch.dropLevel w t) := dropped_dropLevel ht (by omega) hlevel
    obtain ⟨-, hlt⟩ := ht _ hdropped.level_pos hdropped.level_lt.le
    have := hdropped.exp_eq
    omega
  | case8 ch call _ _ iExp _ newExp hnew hfull hlast =>
    have hlt : newExp < 2 ^ 63 := (asI64_range _).2
    rw [(gainLevel_same hlast (newExp - ch.maxExp)).2.1]
    omega
  | case9 ch call _ _ _ _ newExp hnew hfull hlast =>
    dsimp only
    rw [asU64_of_range hfull.1.le hmax]
    omega
  | case10 ch call _ _ iExp _ newExp hnew hfull =>
    have hlt : newExp < 2 ^ 63 := (asI64_range _).2
    dsimp only
    omega

theorem normalised_expChangeInner_iff (ht : PositiveTable t) (hn : Normalised t ch)
    (hexp : ch.exp < 2 ^ 63) : Normalised t (ch.expChangeInner w t call) ↔ Settled t ch call := by
  unfold Settled
  rcases @expChangeInner_cases ch call hexp with
    ⟨hnone, sealedExp, hsame⟩ | ⟨sealStatus, call', x, hx, hwar, hland⟩
  · rw [hsame]
    refine iff_of_true ⟨hn.level_pos, hn.level_le, hn.maxExp_eq, hn.exp_lt⟩ fun x hx => ?_
    rw [hnone] at hx
    cases hx
  · have hn' : Normalised t { ch with expSealStatus := sealStatus } :=
      ⟨hn.level_pos, hn.level_le, hn.maxExp_eq, hn.exp_lt⟩
    rw [hland, normalised_land_iff ht hn' x, hwar, hx]
    simp only [Option.some.injEq, forall_eq']
    rfl

/-- After every call of a run the experience is below that of the level, unless it is the last
one, just where every call settles. -/
theorem normalised_run_iff (ht : PositiveTable t) (hn : Normalised t ch)
    (hlast : ch.level = MAX_LEVEL → (ch.exp : ℤ) ≤ ch.maxExp) (calls : List ExpCall) :
    Run.Along (Progress.expChangeInner .machine t)
        (fun ch call => Normalised t (ch.expChangeInner .machine t call)) ch calls ↔
      Run.Along (Progress.expChangeInner .machine t) (Settled t) ch calls := by
  have hexp : ch.exp < 2 ^ 63 := by
    obtain ⟨-, hT⟩ := ht ch.level hn.level_pos hn.level_le
    have hmax := hn.maxExp_eq
    rcases hn.exp_lt with hlevel | hlt
    · have := hlast hlevel
      omega
    · omega
  refine Run.along_congr (fun ch => Normalised t ch ∧ ch.exp < 2 ^ 63) ?_ ?_ ⟨hn, hexp⟩
  · rintro ch call ⟨hn, hexp⟩ hnext
    refine ⟨hnext, exp_expChangeInner_lt ht hexp hn.level_le ?_⟩
    rw [hn.maxExp_eq]
    exact (ht ch.level hn.level_pos hn.level_le).2
  · rintro ch call ⟨hn, hexp⟩
    exact normalised_expChangeInner_iff ht hn hexp

def evenTable : LevelTables := ⟨fun _ => 100, fun _ => 0⟩

theorem positive_evenTable : PositiveTable evenTable := fun _ _ _ =>
  ⟨(by decide : (0 : ℤ) < 100), (by decide : (100 : ℤ) < 2 ^ 63)⟩

/-- A character of level 10 without experience. -/
def tenth : Progress where
  classId := 101
  level := 10
  exp := 0
  maxExp := 100
  expSealStatus := false
  sealedExp := 0
  gold := 0
  str := 65
  sta := 65
  dex := 60
  intel := 50
  cha := 50
  freePoints := 37
  skillPoints := fun i => if i = 0 then 2 else 0

theorem normalised_tenth : Normalised evenTable tenth :=
  ⟨by decide, by decide, rfl, Or.inr (by decide)⟩

def gain (iExp : ℤ) : ExpCall := ⟨iExp, true, false, []⟩

theorem tenth_run_iff :
    Run.Along (Progress.expChangeInner .machine evenTable)
        (fun ch call => Normalised evenTable (ch.expChangeInner .machine evenTable call)) tenth
        [gain 60, gain 60] ↔
      Run.Along (Progress.expChangeInner .machine evenTable) (Settled evenTable) tenth
        [gain 60, gain 60] :=
  normalised_run_iff positive_evenTable normalised_tenth (fun h => absurd h (by decide)) _

/-- At level 11 the rest of 250 is above the 100 of that level. -/
theorem not_normalised_gain :
    ¬ Run.Along (Progress.expChangeInner .machine evenTable)
      (fun ch call => Normalised evenTable (ch.expChangeInner .machine evenTable call)) tenth
      [gain 250] := by
  rintro ⟨hn, -⟩
  have hsettled := (normalised_expChangeInner_iff positive_evenTable normalised_tenth (by decide)).mp
    hn 250 (by decide)
  exact absurd (hsettled.2 (by decide) (by decide)) (by decide)

end KoServer
