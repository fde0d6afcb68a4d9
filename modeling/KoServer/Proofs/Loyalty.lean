import KoServer.Spec.Loyalty
import Mathlib.Algebra.Order.Group.Int
import Mathlib.Algebra.Order.Group.Abs

/-! A change of loyalty lands where it should as long as no penalty reaches an accredited clan, the
clan takes no more than the character has, and the fund has room for it. -/

namespace KoServer

open LoyaltyWorld

theorem addBonus_range {change bonus : ℤ} (h : InI32 change) : InI32 (addBonus change bonus) := by
  unfold addBonus
  split
  · exact asI32_range _
  · exact h

section

variable {w : LoyaltyWorld} {u : LoyaltyUser} {sid : SessionId} {req : LoyaltyRequest}

theorem killChange_range (amount : ℤ) : InI32 (killChange w u amount) := by
  unfold killChange
  repeat apply addBonus_range
  split
  all_goals exact asI32_range _

theorem adjustedChange_range {amount : ℤ} (h : |amount| ≤ 100000) (isKillReward : Bool) :
    InI32 (adjustedChange w u amount isKillReward) := by
  unfold adjustedChange
  obtain ⟨hlow, hhigh⟩ := abs_le.mp h
  split
  · exact killChange_range amount
  · constructor
    all_goals omega

/-- A gain stays between the loyalty and the change unless the cast makes a negative change large. -/
theorem gained_iff {loyalty : ℕ} {change : ℤ} (hmax : loyalty ≤ LOYALTY_MAX) (h : InI32 change) :
    loyalty ≤ addCapped loyalty (asU32 change) ∧
        (addCapped loyalty (asU32 change) : ℤ) ≤ loyalty + max 0 change ↔
      0 ≤ change ∨ loyalty = LOYALTY_MAX := by
  obtain ⟨hlow, hhigh⟩ := h
  unfold LOYALTY_MAX at hmax
  unfold addCapped saturatingAdd32 LOYALTY_MAX asU32
  omega

theorem calculateClanDonation_le (members : ℕ) : calculateClanDonation members ≤ 10 := by
  unfold calculateClanDonation
  split
  all_goals omega

theorem calculateClanDonation_pos {members : ℕ} (h : 0 < members) :
    0 < calculateClanDonation members := by
  unfold calculateClanDonation
  rw [if_neg (Nat.ne_of_gt h)]
  omega

/-- The fund gets what the character gives just where both have the share to give and to take, or
fall short of it by the same. -/
theorem shared_iff {loyalty change fund share : ℕ} (hshare : share ≤ 10) (hfund : fund < 2 ^ 32) :
    saturatingAdd32 fund share + (addCapped loyalty change - share) =
        fund + addCapped loyalty change ↔
      min share (loyalty + change) = min share (2 ^ 32 - 1 - fund) := by
  unfold addCapped saturatingAdd32 LOYALTY_MAX
  omega

theorem percentOf_bounds {percent change : ℤ} (hpercent : 0 ≤ percent) (hchange : 0 ≤ change)
    (hfits : percent * change < 2 ^ 31) :
    0 ≤ percentOf percent change ∧ percentOf percent change * 100 ≤ percent * change := by
  have hprod : 0 ≤ percent * change := Int.mul_nonneg hpercent hchange
  have hexact : asI32 (percent * change) = percent * change :=
    asI32_of_range ⟨by omega, hfits⟩
  unfold percentOf
  rw [hexact, Int.tdiv_eq_ediv_of_nonneg hprod]
  omega

/-- A percentage of at most 355 leaves a change that fits. -/
theorem percentOf_small {percent change bound : ℤ} (hpercent : 0 ≤ percent ∧ percent ≤ 355)
    (hchange : 0 ≤ change ∧ change ≤ bound) (hbound : 355 * bound < 2 ^ 31) :
    0 ≤ percentOf percent change ∧ percentOf percent change * 100 ≤ 355 * bound := by
  have hle : percent * change ≤ 355 * bound :=
    Int.mul_le_mul hpercent.2 hchange.2 hchange.1 (by decide)
  obtain ⟨hpos, hsmall⟩ := percentOf_bounds hpercent.1 hchange.1 (Int.lt_of_le_of_lt hle hbound)
  exact ⟨hpos, Int.le_trans hsmall hle⟩

theorem addBonus_bounds {change bonus bound most : ℤ} (hchange : 0 ≤ change ∧ change ≤ bound)
    (hbonus : bonus ≤ most) (hmost : 0 ≤ most) (hfits : bound + most < 2 ^ 31) :
    0 ≤ addBonus change bonus ∧ addBonus change bonus ≤ bound + most := by
  unfold addBonus
  split
  case isTrue hpos =>
    rw [asI32_of_range ⟨by omega, by omega⟩]
    constructor
    all_goals omega
  case isFalse =>
    constructor
    all_goals omega

/-- Bonuses as the tables of the game have them: far below the range of an `i32`. -/
structure Modest (w : LoyaltyWorld) (u : LoyaltyUser) : Prop where
  item : u.itemNpBonus ≤ 255
  skill : u.skillNpBonus33 + u.skillNpBonus42 ≤ 510
  flash : u.flashWarBonus ≤ 255
  premium : w.premiumLoyalty u.premiumInUse ≤ 100000000
  clanPremium : w.premiumLoyalty u.clanPremiumInUse ≤ 100000000
  online : w.onlineNpCount u ≤ 65535
  perk : w.perkBonus u ≤ 1073676289

theorem flameChange_bounds {change : ℤ} (h : 0 ≤ change ∧ change ≤ 1260250) :
    0 ≤ flameChange w u change ∧ flameChange w u change ≤ 4473888 := by
  unfold flameChange
  split
  case h_1 dropRate _ =>
    have hrate := dropRate.toNat_lt
    split
    · have hsmall := @percentOf_small (100 + dropRate.toNat) change 1260250 (by omega) h (by decide)
      omega
    · omega
  case h_2 => omega

theorem wrapped_bounds {change bonus bound : ℤ} (hchange : 0 ≤ change) (hbonus : 0 ≤ bonus)
    (hbound : change + bonus ≤ bound) (hfits : bound < 2 ^ 31) :
    0 ≤ asI32 (change + bonus) ∧ asI32 (change + bonus) ≤ bound := by
  rw [asI32_of_range ⟨by omega, by omega⟩]
  exact ⟨Int.add_nonneg hchange hbonus, hbound⟩

theorem percentages_bounds {amount : ℤ} (hamount : 0 ≤ amount ∧ amount ≤ 100000) :
    0 ≤ flameChange w u
        (percentOf (100 + w.npEventAmount.toNat) (percentOf u.npGainAmount.toNat amount)) ∧
      flameChange w u
        (percentOf (100 + w.npEventAmount.toNat) (percentOf u.npGainAmount.toNat amount)) ≤
        4473888 := by
  have hgain := u.npGainAmount.toNat_lt
  have hevent := w.npEventAmount.toNat_lt
  have hfirst := @percentOf_small u.npGainAmount.toNat amount 100000 (by omega) hamount (by decide)
  have hsecond := @percentOf_small (100 + w.npEventAmount.toNat) _ 355000 (by omega)
    ⟨hfirst.1, by omega⟩ (by decide)
  exact flameChange_bounds ⟨hsecond.1, by omega⟩

/-- With modest bonuses no reward of a kill comes out negative. -/
theorem killChange_nonneg {amount : ℤ} (h : Modest w u) (hamount : 0 ≤ amount ∧ amount ≤ 100000) :
    0 ≤ killChange w u amount := by
  have hpercent := @percentages_bounds w u amount hamount
  unfold killChange
  dsimp only
  generalize flameChange w u _ = change at hpercent ⊢
  have hitem := h.item
  have hskill := h.skill
  have hitems := @wrapped_bounds change
    (u.itemNpBonus + (u.skillNpBonus33 + u.skillNpBonus42)) 4480000 hpercent.1 (by omega) (by omega)
    (by decide)
  generalize asI32 (change + _) = items at hitems ⊢
  have hmonument : 0 ≤ (if w.ownsMonument u then asI32 (items + PVP_MONUMENT_NP_BONUS) else items) ∧
      (if w.ownsMonument u then asI32 (items + PVP_MONUMENT_NP_BONUS) else items) ≤ 4490000 := by
    unfold PVP_MONUMENT_NP_BONUS
    split
    · exact wrapped_bounds hitems.1 (by decide) (by omega) (by decide)
    · omega
  generalize (if w.ownsMonument u then asI32 (items + PVP_MONUMENT_NP_BONUS) else items) = monument
    at hmonument ⊢
  have hwar : (u.flashWarBonus : ℤ) ≤ 255 := by exact_mod_cast h.flash
  have hflash := addBonus_bounds hmonument hwar (by omega) (by omega)
  have hpremium := addBonus_bounds hflash h.premium (by omega) (by omega)
  have hclan := addBonus_bounds hpremium h.clanPremium (by omega) (by omega)
  have honline := addBonus_bounds hclan h.online (by omega) (by omega)
  exact (addBonus_bounds honline h.perk (by omega) (by omega)).1

namespace LoyaltyWorld

def loyaltyOf (w : LoyaltyWorld) (sid : SessionId) : ℕ := ((w.user sid).map (·.loyalty)).getD 0

def monthlyOf (w : LoyaltyWorld) (sid : SessionId) : ℕ :=
  ((w.user sid).map (·.loyaltyMonthly)).getD 0

def fundOf (w : LoyaltyWorld) (kid : ℕ) : ℕ := ((w.knights kid).map (·.clanPointFund)).getD 0

end LoyaltyWorld

@[simp] theorem modifyUser_user (f : LoyaltyUser → LoyaltyUser) :
    (w.modifyUser sid f).user sid = (w.user sid).map f := Function.update_self ..

@[simp] theorem modifyUser_knights (f : LoyaltyUser → LoyaltyUser) :
    (w.modifyUser sid f).knights = w.knights := rfl

/-- The world after a change: the loyalty of the character, its monthly loyalty and its clan. -/
structure LoyaltyLanded (w : LoyaltyWorld) (sid : SessionId) (u : LoyaltyUser) (loyalty : ℕ)
    (after : LoyaltyWorld) : Prop where
  landed : ∃ u', after.user sid = some u' ∧ u'.loyalty = loyalty ∧ u'.knightsId = u.knightsId ∧
    (u.loyaltyMonthly ≤ LOYALTY_MAX → u'.loyaltyMonthly ≤ LOYALTY_MAX)
  knights : after.knights = w.knights

theorem landed_of_loyalty {after : LoyaltyWorld} {u' : LoyaltyUser} {loyalty : ℕ}
    (hu : after.user sid = some u') (hsame : u'.knightsId = u.knightsId)
    (hmonthly : u'.loyaltyMonthly = u.loyaltyMonthly) (hknights : after.knights = w.knights) :
    LoyaltyLanded w sid u loyalty (after.updateLoyalty sid loyalty) := by
  refine ⟨⟨{ u' with loyalty := loyalty }, ?_, rfl, hsame, ?_⟩, hknights⟩
  · unfold updateLoyalty
    rw [modifyUser_user, hu]
    rfl
  · intro hmax
    exact hmonthly ▸ hmax

theorem LoyaltyLanded.monthly {after : LoyaltyWorld} {loyalty monthly : ℕ}
    (h : LoyaltyLanded w sid u loyalty after)
    (hmonthly : u.loyaltyMonthly ≤ LOYALTY_MAX → monthly ≤ LOYALTY_MAX) :
    LoyaltyLanded w sid u loyalty (after.updateLoyaltyMonthly sid monthly) := by
  obtain ⟨⟨u', hu, hloyalty, hsame, -⟩, hknights⟩ := h
  refine ⟨⟨{ u' with loyaltyMonthly := monthly }, ?_, hloyalty, hsame, hmonthly⟩, hknights⟩
  unfold updateLoyaltyMonthly
  rw [modifyUser_user, hu]
  rfl

theorem lose_landed (hu : w.user sid = some u) :
    LoyaltyLanded w sid u (u.loyalty - asU32 (-req.amount)) (w.lose sid u req) := by
  have hlanded := @landed_of_loyalty w u sid w u (u.loyalty - asU32 (-req.amount)) hu rfl rfl rfl
  unfold lose
  split
  · apply hlanded.monthly
    intro hmax
    omega
  · exact hlanded

theorem pkZoneIncrementDaily_landed {after : LoyaltyWorld} {loyalty : ℕ} (nation amount : ℕ)
    (h : LoyaltyLanded w sid u loyalty after) :
    LoyaltyLanded w sid u loyalty (after.pkZoneIncrementDaily sid nation amount) := by
  unfold pkZoneIncrementDaily
  split
  · exact h
  · exact ⟨h.landed, h.knights⟩

theorem addPremiumBonus_user (hu : w.user sid = some u) (sum : ℤ) :
    ∃ u', (w.addPremiumBonus sid sum).user sid = some u' ∧ u'.knightsId = u.knightsId ∧
      u'.loyaltyMonthly = u.loyaltyMonthly ∧ (w.addPremiumBonus sid sum).knights = w.knights := by
  unfold addPremiumBonus
  split
  · rw [modifyUser_user, hu]
    exact ⟨_, rfl, rfl, rfl, rfl⟩
  · exact ⟨u, hu, rfl, rfl, rfl⟩

theorem gain_landed (hu : w.user sid = some u) :
    LoyaltyLanded w sid u
      (addCapped u.loyalty (asU32 (adjustedChange w u req.amount req.isKillReward)))
      (w.gain sid u req) := by
  obtain ⟨u', hu', hsame, hmonthly, hknights⟩ :=
    addPremiumBonus_user hu (premiumBonusSum w u req.isKillReward)
  have hlanded : LoyaltyLanded w sid u
      (addCapped u.loyalty (asU32 (adjustedChange w u req.amount req.isKillReward))) _ :=
    landed_of_loyalty hu' hsame hmonthly hknights
  have hdaily := pkZoneIncrementDaily_landed u.nation
    (asU32 (adjustedChange w u req.amount req.isKillReward)) hlanded
  have hcapped : ∀ amount, u.loyaltyMonthly ≤ LOYALTY_MAX →
      addCapped u.loyaltyMonthly amount ≤ LOYALTY_MAX := fun amount _ => Nat.min_le_right _ _
  unfold LoyaltyWorld.gain
  dsimp only
  split
  · split
    · exact hdaily.monthly (hcapped _)
    · exact hlanded.monthly (hcapped _)
  · split
    · exact hdaily
    · exact hlanded

/-- The loyalty that a change leads to before the clan takes its share. -/
def landing (w : LoyaltyWorld) (u : LoyaltyUser) (req : LoyaltyRequest) : ℕ :=
  if req.amount < 0 then u.loyalty - asU32 (-req.amount)
  else addCapped u.loyalty (asU32 (adjustedChange w u req.amount req.isKillReward))

theorem changed_landed (hu : w.user sid = some u) :
    LoyaltyLanded w sid u (landing w u req) (w.changed sid u req) := by
  unfold changed landing
  split
  · exact lose_landed hu
  · exact gain_landed hu

theorem LoyaltyLanded.loyalty {after : LoyaltyWorld} {loyalty : ℕ} (h : LoyaltyLanded w sid u loyalty after) :
    after.loyaltyOf sid = loyalty := by
  obtain ⟨u', hu, hloyalty, -, -⟩ := h.landed
  unfold loyaltyOf
  rw [hu]
  exact hloyalty

/-- Without a sharing clan nothing more happens. -/
theorem donate_none {after : LoyaltyWorld} {loyalty : ℕ} {isBonusReward : Bool}
    (h : LoyaltyLanded w sid u loyalty after) (hclan : w.sharingClan u isBonusReward = none) :
    after.donate sid isBonusReward = (after, 0) := by
  obtain ⟨u', hu, -, hsame, -⟩ := h.landed
  have hnone : after.sharingClan u' isBonusReward = none := by
    unfold sharingClan at hclan ⊢
    rw [hsame, h.knights]
    exact hclan
  unfold donate
  rw [hu]
  dsimp only
  rw [hnone]

/-- A sharing clan takes its donation from the loyalty and puts it into its fund. -/
theorem donate_some {after : LoyaltyWorld} {loyalty : ℕ} {isBonusReward : Bool}
    {clan : LoyaltyClan} (h : LoyaltyLanded w sid u loyalty after)
    (hclan : w.sharingClan u isBonusReward = some clan) :
    ∃ final, after.donate sid isBonusReward = (final, calculateClanDonation clan.members) ∧
      LoyaltyLanded final sid u (loyalty - calculateClanDonation clan.members) final ∧
      final.fundOf u.knightsId =
        saturatingAdd32 clan.clanPointFund (calculateClanDonation clan.members) := by
  obtain ⟨u', hu, hloyalty, hsame, hmonthly⟩ := h.landed
  have hsome : after.sharingClan u' isBonusReward = some clan := by
    unfold sharingClan at hclan ⊢
    rw [hsame, h.knights]
    exact hclan
  have hknights : after.knights u.knightsId = some clan := by
    unfold sharingClan at hclan
    split at hclan
    · cases hclan
    split at hclan
    · rw [h.knights]
      exact (Option.filter_eq_some_iff.mp hclan).1
    · cases hclan
  unfold donate
  rw [hu]
  dsimp only
  rw [hsome]
  refine ⟨_, rfl, ⟨⟨{ u' with loyalty := u'.loyalty - calculateClanDonation clan.members }, ?_, ?_,
    hsame, hmonthly⟩, rfl⟩, ?_⟩
  · show (after.updateLoyalty sid _).user sid = _
    unfold updateLoyalty
    rw [modifyUser_user, hu]
    rfl
  · rw [hloyalty]
  · unfold fundOf
    dsimp only
    rw [hsame, Function.update_self, updateLoyalty, modifyUser_knights, hknights]
    rfl

theorem sharingClan_knights {isBonusReward : Bool} {clan : LoyaltyClan}
    (h : w.sharingClan u isBonusReward = some clan) :
    w.knights u.knightsId = some clan ∧ 0 < clan.members := by
  unfold sharingClan at h
  split at h
  · cases h
  split at h
  · obtain ⟨hclan, hshares⟩ := Option.filter_eq_some_iff.mp h
    simp only [Bool.and_eq_true, decide_eq_true_eq] at hshares
    exact ⟨hclan, hshares.1.2⟩
  · cases h

/-- The loyalty stays in range, a penalty takes what it says and no more, a reward stays within its
change, and what the clan takes reaches its fund. -/
structure LoyaltySound (w : LoyaltyWorld) (sid : SessionId) (u : LoyaltyUser) (req : LoyaltyRequest) :
    Prop where
  loyalty_le : (w.sendLoyaltyChange sid req).1.loyaltyOf sid ≤ LOYALTY_MAX
  monthly_le : (w.sendLoyaltyChange sid req).1.monthlyOf sid ≤ LOYALTY_MAX
  penalty : req.amount < 0 →
    (w.sendLoyaltyChange sid req).1.loyaltyOf sid =
        u.loyalty - min u.loyalty (-req.amount).toNat ∧
      (w.sendLoyaltyChange sid req).1.knights = w.knights ∧
      (w.sendLoyaltyChange sid req).2.map LoyaltyAnswer.clanLoyaltyAmount = some 0
  reward : 0 ≤ req.amount →
    u.loyalty ≤ (w.changed sid u req).loyaltyOf sid ∧
      ((w.changed sid u req).loyaltyOf sid : ℤ) ≤
        u.loyalty + max 0 (adjustedChange w u req.amount req.isKillReward)
  share : ∀ clan, w.sharingClan u req.isBonusReward = some clan →
    (w.sendLoyaltyChange sid req).1.fundOf u.knightsId +
        (w.sendLoyaltyChange sid req).1.loyaltyOf sid =
      clan.clanPointFund + (w.changed sid u req).loyaltyOf sid

/-- A change that goes as it should. -/
structure LoyaltyFair (w : LoyaltyWorld) (u : LoyaltyUser) (req : LoyaltyRequest) : Prop where
  change : 0 ≤ req.amount →
    0 ≤ adjustedChange w u req.amount req.isKillReward ∨ u.loyalty = LOYALTY_MAX
  share : ∀ clan, w.sharingClan u req.isBonusReward = some clan →
    0 ≤ req.amount ∧
      min (calculateClanDonation clan.members)
          (u.loyalty + asU32 (adjustedChange w u req.amount req.isKillReward)) =
        min (calculateClanDonation clan.members) (2 ^ 32 - 1 - clan.clanPointFund)

theorem LoyaltyLanded.monthly_le {after : LoyaltyWorld} {loyalty : ℕ} (h : LoyaltyLanded w sid u loyalty after)
    (hmax : u.loyaltyMonthly ≤ LOYALTY_MAX) : after.monthlyOf sid ≤ LOYALTY_MAX := by
  obtain ⟨u', hu, -, -, hmonthly⟩ := h.landed
  unfold monthlyOf
  rw [hu]
  exact hmonthly hmax

theorem landing_le (hmax : u.loyalty ≤ LOYALTY_MAX) : landing w u req ≤ LOYALTY_MAX := by
  unfold landing
  split
  · exact Nat.le_trans (Nat.sub_le _ _) hmax
  · exact Nat.min_le_right _ _

theorem landing_penalty (hneg : req.amount < 0) (hamount : |req.amount| ≤ 100000) :
    landing w u req = u.loyalty - min u.loyalty (-req.amount).toNat := by
  obtain ⟨hlow, -⟩ := abs_le.mp hamount
  unfold landing asU32
  rw [if_pos hneg]
  omega

theorem landing_reward (hpos : 0 ≤ req.amount) :
    landing w u req =
      addCapped u.loyalty (asU32 (adjustedChange w u req.amount req.isKillReward)) :=
  if_neg (Int.not_lt.mpr hpos)

theorem reward_iff (hpos : 0 ≤ req.amount) (hmax : u.loyalty ≤ LOYALTY_MAX)
    (hamount : |req.amount| ≤ 100000) :
    u.loyalty ≤ landing w u req ∧
        (landing w u req : ℤ) ≤ u.loyalty + max 0 (adjustedChange w u req.amount req.isKillReward) ↔
      0 ≤ adjustedChange w u req.amount req.isKillReward ∨ u.loyalty = LOYALTY_MAX := by
  rw [landing_reward hpos]
  exact gained_iff hmax (adjustedChange_range hamount _)

theorem sendLoyaltyChange_eq {final base : LoyaltyWorld} {loyalty amount : ℕ}
    (hu : w.user sid = some u)
    (hdonate : (w.changed sid u req).donate sid req.isBonusReward = (final, amount))
    (hfinal : LoyaltyLanded base sid u loyalty final) :
    ∃ answer, w.sendLoyaltyChange sid req = (final, some answer) ∧
      answer.clanLoyaltyAmount = amount := by
  obtain ⟨u', hu', -⟩ := hfinal.landed
  unfold sendLoyaltyChange
  rw [hu]
  dsimp only
  rw [hdonate]
  dsimp only
  rw [hu']
  exact ⟨_, rfl, rfl⟩

/-- Without a sharing clan only the change itself can go wrong. -/
theorem sound_without_share (hu : w.user sid = some u) (hmax : u.loyalty ≤ LOYALTY_MAX)
    (hmonthly : u.loyaltyMonthly ≤ LOYALTY_MAX) (hamount : |req.amount| ≤ 100000)
    (hclan : w.sharingClan u req.isBonusReward = none) :
    LoyaltySound w sid u req ↔ LoyaltyFair w u req := by
  have hlanded := @changed_landed w u sid req hu
  obtain ⟨answer, hsend, hanswer⟩ := sendLoyaltyChange_eq hu (donate_none hlanded hclan) hlanded
  constructor
  · intro hsound
    refine ⟨fun hpos => ?_, fun clan h => ?_⟩
    · have hreward := hsound.reward hpos
      rw [hlanded.loyalty] at hreward
      exact (reward_iff hpos hmax hamount).mp hreward
    · rw [hclan] at h
      cases h
  · intro hfair
    refine ⟨?_, ?_, fun hneg => ⟨?_, ?_, ?_⟩, fun hpos => ?_, fun clan h => ?_⟩
    · rw [hsend, hlanded.loyalty]
      exact landing_le hmax
    · rw [hsend]
      exact hlanded.monthly_le hmonthly
    · rw [hsend, hlanded.loyalty]
      exact landing_penalty hneg hamount
    · rw [hsend]
      exact hlanded.knights
    · rw [hsend, Option.map_some, hanswer]
    · rw [hlanded.loyalty]
      exact (reward_iff hpos hmax hamount).mpr (hfair.change hpos)
    · rw [hclan] at h
      cases h

theorem sound_with_share (hu : w.user sid = some u) (hmax : u.loyalty ≤ LOYALTY_MAX)
    (hmonthly : u.loyaltyMonthly ≤ LOYALTY_MAX) (hamount : |req.amount| ≤ 100000)
    {clan : LoyaltyClan} (hclan : w.sharingClan u req.isBonusReward = some clan) :
    LoyaltySound w sid u req ↔ LoyaltyFair w u req := by
  have hlanded := @changed_landed w u sid req hu
  obtain ⟨final, hdonate, hfinal, hfund⟩ := donate_some hlanded hclan
  obtain ⟨answer, hsend, hanswer⟩ := sendLoyaltyChange_eq hu hdonate hfinal
  obtain ⟨-, hmembers⟩ := sharingClan_knights hclan
  have hpays := calculateClanDonation_pos hmembers
  have hshare : 0 ≤ req.amount →
      (final.fundOf u.knightsId + final.loyaltyOf sid =
          clan.clanPointFund + (w.changed sid u req).loyaltyOf sid ↔
        min (calculateClanDonation clan.members)
            (u.loyalty + asU32 (adjustedChange w u req.amount req.isKillReward)) =
          min (calculateClanDonation clan.members) (2 ^ 32 - 1 - clan.clanPointFund)) := by
    intro hpos
    rw [hfund, hfinal.loyalty, hlanded.loyalty, landing_reward hpos]
    exact shared_iff (calculateClanDonation_le _) clan.fund_lt
  constructor
  · intro hsound
    have hpos : 0 ≤ req.amount := by
      by_contra hneg
      have hnone := (hsound.penalty (Int.not_le.mp hneg)).2.2
      rw [hsend, Option.map_some, hanswer, Option.some.injEq] at hnone
      omega
    refine ⟨fun _ => ?_, fun clan' h => ⟨hpos, ?_⟩⟩
    · have hreward := hsound.reward hpos
      rw [hlanded.loyalty] at hreward
      exact (reward_iff hpos hmax hamount).mp hreward
    · have htaken := hsound.share clan' h
      rw [hsend] at htaken
      cases hclan.symm.trans h
      exact (hshare hpos).mp htaken
  · intro hfair
    obtain ⟨hpos, hequal⟩ := hfair.share clan hclan
    refine ⟨?_, ?_, fun hneg => ?_, fun _ => ?_, fun clan' h => ?_⟩
    · rw [hsend, hfinal.loyalty]
      exact Nat.le_trans (Nat.sub_le _ _) (landing_le hmax)
    · rw [hsend]
      exact hfinal.monthly_le hmonthly
    · exact absurd hneg (Int.not_lt.mpr hpos)
    · rw [hlanded.loyalty]
      exact (reward_iff hpos hmax hamount).mpr (hfair.change hpos)
    · rw [hsend]
      cases hclan.symm.trans h
      exact (hshare hpos).mpr hequal

/-- A change of loyalty goes as it should just where the adjusted change is not negative below the
cap, no penalty meets a sharing clan, and its share is given and taken in full or short by the same.
-/
theorem loyalty_change_iff (hu : w.user sid = some u) (hmax : u.loyalty ≤ LOYALTY_MAX)
    (hmonthly : u.loyaltyMonthly ≤ LOYALTY_MAX) (hamount : |req.amount| ≤ 100000) :
    LoyaltySound w sid u req ↔ LoyaltyFair w u req := by
  cases hclan : w.sharingClan u req.isBonusReward with
  | none => exact sound_without_share hu hmax hmonthly hamount hclan
  | some clan => exact sound_with_share hu hmax hmonthly hamount hclan

def veteran : LoyaltyUser where
  loyalty := 1000
  loyaltyMonthly := 200
  nation := 1
  knightsId := 7
  zoneId := ZONE_RONARK_LAND
  npGainAmount := 100
  flameLevel := 0
  itemNpBonus := 0
  skillNpBonus33 := 0
  skillNpBonus42 := 0
  flashWarBonus := 0
  premiumInUse := 0
  clanPremiumInUse := 0
  perkLevel := 0
  pkLoyaltyPremiumBonus := 0

def accredited : LoyaltyClan := ⟨3, 0, 5, 0, 40, by decide⟩

def frontier : LoyaltyWorld where
  user := fun sid => if sid = 1 then some veteran else none
  knights := fun kid => if kid = 7 then some accredited else none
  npEventAmount := 0
  burningFeatures := fun _ => 0
  pvpMonumentNation := fun _ => 0
  bonusLoyalty := fun _ => none
  perkCount := none
  loyaltyDaily := fun _ _ => none

/-- A reward of a kill goes to the veteran and one point of it to the fund. -/
theorem frontier_reward : LoyaltySound frontier 1 veteran ⟨64, true, false, true⟩ := by
  apply (loyalty_change_iff rfl (by decide) (by decide) (by decide)).mpr
  refine ⟨fun _ => Or.inl (by decide), fun clan h => ?_⟩
  cases h
  decide

/-- The victim of a kill pays 50 points and one more to its clan. -/
theorem frontier_penalty : ¬ LoyaltySound frontier 1 veteran ⟨-50, true, false, true⟩ := by
  intro hsound
  have hpenalty := (hsound.penalty (by decide)).1
  revert hpenalty
  decide

end

end KoServer
