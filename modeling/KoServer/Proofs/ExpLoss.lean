import KoServer.Proofs.Level
import Mathlib.Algebra.BigOperators.Intervals

/-! What a loss of experience costs, over the levels that it drops. -/

namespace KoServer

variable {w : Widths} {t : LevelTables} {ch : Progress} {call : ExpCall}

/-- The experience of all the levels below, and what there is of the current one. -/
def cumulativeExp (t : LevelTables) (ch : Progress) : ℤ :=
  (∑ level ∈ Finset.Ico 1 ch.level, t.getExpByLevel level) + ch.exp

/-- What a loss of `d` takes from the full experience of a level and from the levels below it. A
level that cannot pay loses all it has, and the one below it pays a loss of its own. -/
def levelLoss (t : LevelTables) : ℕ → ℤ → ℤ
  | 0, _ => 0
  | level + 1, d =>
    if level + 1 < 6 ∨ d ≤ 0 then 0
    else if d ≤ t.getExpByLevel (level + 1) then d
    else t.getExpByLevel (level + 1) + levelLoss t level (lossBelow t level)

/-- What a loss of `x` costs: as much, if the level can pay it. -/
def expLoss (t : LevelTables) (ch : Progress) (x : ℤ) : ℤ :=
  if x ≤ ch.exp then x else ch.exp + levelLoss t (ch.level - 1) (ch.dropDiff t)

theorem levelLoss_nonpos {level : ℕ} {d : ℤ} (hd : d ≤ 0) : levelLoss t level d = 0 := by
  cases level with
  | zero => rfl
  | succ level => exact if_pos (.inr hd)

theorem cumulativeExp_dropLevel (ht : PositiveTable t) (hlevel : 1 < ch.level)
    (hle : ch.level ≤ MAX_LEVEL) :
    cumulativeExp t (ch.dropLevel w t) = cumulativeExp t ch - ch.exp := by
  have hdropped := (dropped_dropLevel (w := w) ht hlevel hle).exp_eq
  obtain ⟨below, hbelow⟩ := Nat.exists_eq_add_of_le' hlevel
  unfold cumulativeExp
  rw [hdropped, Progress.level_dropLevel, hbelow]
  have hsum := Finset.sum_Ico_succ_top (Nat.le_add_left 1 below) t.getExpByLevel
  have hpred : below + 1 + 1 - 1 = below + 1 := rfl
  rw [hpred, hsum]
  omega

theorem cumulativeExp_dropped (ht : PositiveTable t) {d : ℤ} (hd : 0 < d) (hd' : d < 2 ^ 63)
    (h : Dropped t ch) (hcall : call.iExp = -d) (hpeace : ¬call.isWarZone) :
    cumulativeExp t (ch.expChangeInner w t call) =
      cumulativeExp t ch - levelLoss t ch.level d := by
  induction hlevel : ch.level generalizing ch call d with
  | zero =>
    have hpos := h.level_pos
    omega
  | succ below ih =>
    obtain ⟨hT, hT'⟩ := ht ch.level h.level_pos h.level_lt.le
    have hexp : ch.exp < 2 ^ 63 := by
      have hfull := h.exp_eq
      omega
    unfold levelLoss
    by_cases hblocked : call.iExp < 0 ∧ (ch.level < 6 ∨ call.isWarZone)
    · have hlow := hblocked.2.resolve_right hpeace
      rw [Progress.expChangeInner, if_pos hblocked, if_pos (.inl (by omega)), sub_zero]
    have hhigh : ¬(below + 1 < 6 ∨ d ≤ 0) := by
      rw [not_and, not_or] at hblocked
      obtain ⟨hhigh, -⟩ := hblocked (by omega)
      omega
    have hamount : call.withBonuses = -d := by rw [withBonuses_of_neg (by omega), hcall]
    rw [expChangeInner_unsealed hexp hblocked fun hs => by rw [hamount] at hs; omega, hamount]
    have hnew : asI64 (ch.exp + -d) = t.getExpByLevel ch.level - d := by
      rw [h.exp_eq, ← Int.sub_eq_add_neg]
      exact asI64_of_range (by omega) (by omega)
    unfold Progress.land
    simp only [hnew]
    rw [if_neg hhigh]
    by_cases hneg : t.getExpByLevel ch.level - d < 0
    · have hpred : ch.level - 1 = below := by omega
      have hunpaid : ¬d ≤ t.getExpByLevel (below + 1) := by
        rw [← hlevel]
        omega
      rw [if_pos hneg, if_neg (by omega), dropDiff_of_exp h.exp_eq h.level_pos, hpred,
        if_neg hunpaid]
      have hdropped : Dropped t (ch.dropLevel w t) := dropped_dropLevel ht (by omega) h.level_lt.le
      have htaken := cumulativeExp_dropLevel (w := w) ht (by omega) h.level_lt.le
      have hfull := h.exp_eq
      have hbelow : (ch.dropLevel w t).level = below := by
        rw [Progress.level_dropLevel, hpred]
      by_cases hpos : 0 < lossBelow t below
      · have hrest : cumulativeExp t ((ch.dropLevel w t).expChangeInner w t
            { call with iExp := -lossBelow t below, isBonusReward := false }) =
            cumulativeExp t (ch.dropLevel w t) - levelLoss t below (lossBelow t below) :=
          ih hpos (asI64_range _).2 hdropped rfl hpeace hbelow
        rw [if_pos hpos, hrest, htaken, hfull, hlevel]
        omega
      · rw [if_neg hpos, levelLoss_nonpos (not_lt.mp hpos), htaken, hfull, hlevel]
        omega
    · rw [if_neg hneg, h.maxExp_eq, if_neg (by omega), if_pos (by rw [← hlevel]; omega)]
      have hfull := h.exp_eq
      unfold cumulativeExp
      dsimp only
      omega

theorem cumulativeExp_loss (ht : PositiveTable t) (hn : Normalised t ch)
    (hexp : (ch.exp : ℤ) < ch.maxExp) (hlevel : 6 ≤ ch.level) (hloss : call.iExp < 0)
    (hrange : -2 ^ 63 ≤ call.iExp) (hpeace : ¬call.isWarZone) :
    cumulativeExp t (ch.expChangeInner w t call) =
      cumulativeExp t ch - expLoss t ch (-call.iExp) := by
  obtain ⟨-, hT⟩ := ht ch.level hn.level_pos hn.level_le
  have hmax := hn.maxExp_eq
  have hblocked : ¬(call.iExp < 0 ∧ (ch.level < 6 ∨ call.isWarZone)) := by
    rintro ⟨-, hlow | hwar⟩
    · omega
    · exact hpeace hwar
  have hamount := withBonuses_of_neg hloss
  rw [expChangeInner_unsealed (by omega) hblocked fun hs => by rw [hamount] at hs; omega, hamount]
  have hnew : asI64 (ch.exp + call.iExp) = ch.exp + call.iExp :=
    asI64_of_range (by omega) (by omega)
  unfold Progress.land expLoss
  simp only [hnew]
  by_cases hpaid : -call.iExp ≤ ch.exp
  · rw [if_neg (by omega), if_neg (by omega), if_pos hpaid]
    unfold cumulativeExp
    dsimp only
    omega
  · have hdropped : Dropped t (ch.dropLevel w t) := dropped_dropLevel ht (by omega) hn.level_le
    have htaken := cumulativeExp_dropLevel (w := w) ht (by omega) hn.level_le
    rw [if_pos (by omega), if_neg (by omega), if_neg hpaid]
    by_cases hpos : 0 < ch.dropDiff t
    · have hrest : cumulativeExp t ((ch.dropLevel w t).expChangeInner w t
          { call with iExp := -ch.dropDiff t, isBonusReward := false }) =
          cumulativeExp t (ch.dropLevel w t) -
            levelLoss t (ch.dropLevel w t).level (ch.dropDiff t) :=
        cumulativeExp_dropped ht hpos (asI64_range _).2 hdropped rfl hpeace
      rw [if_pos hpos, hrest, htaken, Progress.level_dropLevel]
      omega
    · rw [if_neg hpos, levelLoss_nonpos (not_lt.mp hpos), htaken]
      omega

/-- A loss costs what it says where the level can pay it. Else the level is dropped, and the levels
below have losses of their own. -/
theorem exp_loss_cost (w : Widths) (t : LevelTables) (ch : Progress) (call : ExpCall)
    (ht : PositiveTable t) (hlevel : 6 ≤ ch.level) (hle : ch.level ≤ MAX_LEVEL)
    (hmax : ch.maxExp = t.getExpByLevel ch.level) (hexp : (ch.exp : ℤ) < ch.maxExp)
    (hloss : call.iExp < 0) (hrange : -2 ^ 63 ≤ call.iExp) (hpeace : ¬call.isWarZone) :
    cumulativeExp t (ch.expChangeInner w t call) =
      cumulativeExp t ch - expLoss t ch (-call.iExp) := by
  have hn : Normalised t ch := ⟨by omega, hle, hmax, .inr hexp⟩
  exact cumulativeExp_loss ht hn hexp hlevel hloss hrange hpeace

theorem tenth_loss_cost :
    cumulativeExp evenTable (tenth.expChangeInner .machine evenTable (gain (-1))) =
      cumulativeExp evenTable tenth - 5 :=
  exp_loss_cost .machine evenTable tenth (gain (-1)) positive_evenTable (by decide) (by decide) rfl
    (by decide) (by decide) (by decide) (by decide)

/-- A loss of 1 takes a twentieth of the level below. -/
theorem tenth_loss_exceeds : ¬∀ (w : Widths) (t : LevelTables) (ch : Progress) (call : ExpCall),
    PositiveTable t → (∀ a b, a ≤ b → t.getExpByLevel a ≤ t.getExpByLevel b) → 6 ≤ ch.level →
    ch.level ≤ MAX_LEVEL → ch.maxExp = t.getExpByLevel ch.level → (ch.exp : ℤ) < ch.maxExp →
    call.iExp < 0 → -2 ^ 63 ≤ call.iExp → ¬call.isWarZone →
    cumulativeExp t ch - -call.iExp ≤ cumulativeExp t (ch.expChangeInner w t call) := by
  intro h
  have hle := h .machine evenTable tenth (gain (-1)) positive_evenTable (fun _ _ _ => le_refl 100)
    (by decide) (by decide) rfl (by decide) (by decide) (by decide) (by decide)
  rw [cumulativeExp_loss positive_evenTable normalised_tenth (by decide) (by decide) (by decide)
    (by decide) (by decide)] at hle
  exact absurd hle (by decide)

end KoServer
