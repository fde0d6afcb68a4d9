import KoServer.Spec.Knights
import KoServer.Spec.Merchant
import KoServer.Spec.NpcTrade
import KoServer.Spec.Party
import KoServer.Spec.Warehouse

/-! Changes of a character's loyalty: `send_loyalty_change` of `systems/loyalty.rs`. The changes are
an `i32`, and the cast to `u32` wraps. -/

namespace KoServer

def LOYALTY_MAX : ℕ := 2100000000
def PVP_MONUMENT_NP_BONUS : ℤ := 5
def CLAN_TYPE_ACCREDITED5 : ℕ := 3
def ZONE_BIFROST : ℕ := 31
def ZONE_BATTLE : ℕ := 61
def ZONE_BATTLE6 : ℕ := 66
def ZONE_KROWAZ_DOMINION : ℕ := 75

structure LoyaltyUser where
  loyalty : ℕ
  loyaltyMonthly : ℕ
  nation : ℕ
  knightsId : ℕ
  zoneId : ℕ
  npGainAmount : UInt8
  flameLevel : ℕ
  itemNpBonus : ℕ
  skillNpBonus33 : ℕ
  skillNpBonus42 : ℕ
  flashWarBonus : ℕ
  premiumInUse : ℕ
  clanPremiumInUse : ℕ
  /-- `perk_levels[3]` -/
  perkLevel : ℤ
  pkLoyaltyPremiumBonus : ℕ

structure LoyaltyClan where
  flag : ℕ
  clanPointMethod : ℕ
  members : ℕ
  onlineNpCount : ℕ
  clanPointFund : ℕ
  fund_lt : clanPointFund < 2 ^ 32

structure LoyaltyWorld where
  user : SessionId → Option LoyaltyUser
  knights : ℕ → Option LoyaltyClan
  npEventAmount : UInt8
  /-- The drop rates of the three burning features, from flame level 1 on. -/
  burningFeatures : ℕ → UInt8
  pvpMonumentNation : ℕ → ℕ
  /-- `bonus_loyalty` of the premium types. -/
  bonusLoyalty : ℕ → Option ℤ
  /-- `perk_count` of the definition of perk 3. -/
  perkCount : Option ℤ
  /-- `loyalty_daily` in the rankings of the nations. -/
  loyaltyDaily : ℕ → SessionId → Option ℕ

structure LoyaltyRequest where
  amount : ℤ
  isKillReward : Bool
  isBonusReward : Bool
  hasMonthlyLoyalty : Bool

/-- `WIZ_LOYALTY_CHANGE` -/
structure LoyaltyAnswer where
  loyalty : ℕ
  loyaltyMonthly : ℕ
  clanDonations : ℕ
  clanLoyaltyAmount : ℕ

def isWarZone (zoneId : ℕ) : Bool := ZONE_BATTLE ≤ zoneId && zoneId ≤ ZONE_BATTLE6

/-- The zones of `is_pk_zone` in `loyalty.rs`, more than the warehouse knows. -/
def isLoyaltyPkZone (zoneId : ℕ) : Bool :=
  zoneId = ZONE_RONARK_LAND || zoneId = ZONE_ARDREAM || zoneId = ZONE_RONARK_LAND_BASE ||
    zoneId = ZONE_KROWAZ_DOMINION || isWarZone zoneId

def skipMonthlyZone (zoneId : ℕ) : Bool := zoneId = ZONE_ARDREAM || zoneId = ZONE_RONARK_LAND_BASE

def addCapped (current amount : ℕ) : ℕ := min (saturatingAdd32 current amount) LOYALTY_MAX

def calculateClanDonation (members : ℕ) : ℕ :=
  if members = 0 then 0 else min ((members - 1) / 5 + 1) 10

namespace LoyaltyWorld

def modifyUser (w : LoyaltyWorld) (sid : SessionId) (f : LoyaltyUser → LoyaltyUser) : LoyaltyWorld :=
  { w with user := Function.update w.user sid ((w.user sid).map f) }

def updateLoyalty (w : LoyaltyWorld) (sid : SessionId) (loyalty : ℕ) : LoyaltyWorld :=
  w.modifyUser sid fun u => { u with loyalty := loyalty }

def updateLoyaltyMonthly (w : LoyaltyWorld) (sid : SessionId) (monthly : ℕ) : LoyaltyWorld :=
  w.modifyUser sid fun u => { u with loyaltyMonthly := monthly }

def getBurningFeature (w : LoyaltyWorld) (flameLevel : ℕ) : Option UInt8 :=
  if flameLevel = 0 ∨ 3 < flameLevel then none else some (w.burningFeatures (flameLevel - 1))

def premiumLoyalty (w : LoyaltyWorld) (premiumType : ℕ) : ℤ :=
  if premiumType = 0 then 0 else (w.bonusLoyalty premiumType).getD 0

/-- `compute_perk_bonus` for perk 3 -/
def perkBonus (w : LoyaltyWorld) (u : LoyaltyUser) : ℤ :=
  if u.perkLevel ≤ 0 then 0
  else
    match w.perkCount with
    | some count => if count ≤ 0 then 0 else asI32 (count * u.perkLevel)
    | none => 0

def onlineNpCount (w : LoyaltyWorld) (u : LoyaltyUser) : ℤ :=
  if 0 < u.knightsId then ((w.knights u.knightsId).map fun c => (c.onlineNpCount : ℤ)).getD 0 else 0

def ownsMonument (w : LoyaltyWorld) (u : LoyaltyUser) : Bool :=
  let monumentNation := w.pvpMonumentNation u.zoneId
  monumentNation ≠ 0 && monumentNation = u.nation && isLoyaltyPkZone u.zoneId

end LoyaltyWorld

/-- A percentage of an `i32`, which rounds toward zero. -/
def percentOf (percent change : ℤ) : ℤ := Int.tdiv (asI32 (percent * change)) 100

/-- A bonus counts only where it is positive. -/
def addBonus (change bonus : ℤ) : ℤ := if 0 < bonus then asI32 (change + bonus) else change

/-- The flat bonuses of a kill that the rankings and the monthly loyalty see too. -/
structure KillBonuses where
  flashWar : ℤ := 0
  premium : ℤ := 0
  clanPremium : ℤ := 0

def killBonuses (w : LoyaltyWorld) (u : LoyaltyUser) (isKillReward : Bool) : KillBonuses :=
  if isKillReward then
    ⟨u.flashWarBonus, w.premiumLoyalty u.premiumInUse, w.premiumLoyalty u.clanPremiumInUse⟩
  else {}

def flameChange (w : LoyaltyWorld) (u : LoyaltyUser) (change : ℤ) : ℤ :=
  match w.getBurningFeature u.flameLevel with
  | some dropRate => if 0 < dropRate then percentOf (100 + dropRate.toNat) change else change
  | none => change

def killChange (w : LoyaltyWorld) (u : LoyaltyUser) (amount : ℤ) : ℤ :=
  let bonuses := killBonuses w u true
  let change := percentOf u.npGainAmount.toNat amount
  let change := percentOf (100 + w.npEventAmount.toNat) change
  let change := flameChange w u change
  let change := asI32 (change + (u.itemNpBonus + (u.skillNpBonus33 + u.skillNpBonus42)))
  let change := if w.ownsMonument u then asI32 (change + PVP_MONUMENT_NP_BONUS) else change
  let change := addBonus change bonuses.flashWar
  let change := addBonus change bonuses.premium
  let change := addBonus change bonuses.clanPremium
  let change := addBonus change (w.onlineNpCount u)
  addBonus change (w.perkBonus u)

def adjustedChange (w : LoyaltyWorld) (u : LoyaltyUser) (amount : ℤ) (isKillReward : Bool) : ℤ :=
  if isKillReward then killChange w u amount else amount

def premiumBonusSum (w : LoyaltyWorld) (u : LoyaltyUser) (isKillReward : Bool) : ℤ :=
  if isKillReward then
    let bonuses := killBonuses w u true
    addBonus (addBonus (addBonus (addBonus 0 bonuses.flashWar) bonuses.premium) bonuses.clanPremium)
      (w.onlineNpCount u)
  else 0

/-- The monthly loyalty of a reward has its own deduction, and the bonuses on top of it. -/
def monthlyChange (w : LoyaltyWorld) (u : LoyaltyUser) (amount : ℤ) (isKillReward : Bool) : ℤ :=
  let bonuses := killBonuses w u isKillReward
  let change := percentOf u.npGainAmount.toNat amount
  let change := if 40 < change then change - 20 else if 20 ≤ change then change - 10 else change
  let change := addBonus change bonuses.flashWar
  let change := addBonus change bonuses.premium
  let change := addBonus change bonuses.clanPremium
  addBonus change (w.onlineNpCount u)

namespace LoyaltyWorld

def addPremiumBonus (w : LoyaltyWorld) (sid : SessionId) (sum : ℤ) : LoyaltyWorld :=
  if 0 < sum then
    w.modifyUser sid fun u =>
      { u with
        pkLoyaltyPremiumBonus := saturatingAdd16 u.pkLoyaltyPremiumBonus (asU16 (asU32 sum)) }
  else w

def pkZoneIncrementDaily (w : LoyaltyWorld) (sid : SessionId) (nation amount : ℕ) : LoyaltyWorld :=
  if ¬(1 ≤ nation ∧ nation ≤ 2) ∨ amount = 0 then w
  else
    { w with
      loyaltyDaily := Function.update w.loyaltyDaily (nation - 1)
        (Function.update (w.loyaltyDaily (nation - 1)) sid
          ((w.loyaltyDaily (nation - 1) sid).map fun daily =>
            min (saturatingAdd32 daily amount) 2100000000)) }

def lose (w : LoyaltyWorld) (sid : SessionId) (u : LoyaltyUser) (req : LoyaltyRequest) :
    LoyaltyWorld :=
  let loss := asU32 (-req.amount)
  let w := w.updateLoyalty sid (u.loyalty - loss)
  if req.isKillReward && !skipMonthlyZone u.zoneId && req.hasMonthlyLoyalty then
    w.updateLoyaltyMonthly sid (u.loyaltyMonthly - loss)
  else w

def countsDaily (u : LoyaltyUser) (isBonusReward : Bool) : Bool :=
  (isLoyaltyPkZone u.zoneId || isWarZone u.zoneId) && !isBonusReward ||
    u.zoneId = ZONE_BORDER_DEFENSE_WAR || u.zoneId = ZONE_BIFROST

def gain (w : LoyaltyWorld) (sid : SessionId) (u : LoyaltyUser) (req : LoyaltyRequest) :
    LoyaltyWorld :=
  let change := adjustedChange w u req.amount req.isKillReward
  let monthly := monthlyChange w u req.amount req.isKillReward
  let w := w.addPremiumBonus sid (premiumBonusSum w u req.isKillReward)
  let w := w.updateLoyalty sid (addCapped u.loyalty (asU32 change))
  let daily := countsDaily u req.isBonusReward
  let addMonthly := req.hasMonthlyLoyalty && !(daily && skipMonthlyZone u.zoneId)
  let w := if daily then w.pkZoneIncrementDaily sid u.nation (asU32 change) else w
  if addMonthly && !req.isBonusReward then
    w.updateLoyaltyMonthly sid (addCapped u.loyaltyMonthly (asU32 (max monthly 0)))
  else w

/-- The world before the clan takes its share. -/
def changed (w : LoyaltyWorld) (sid : SessionId) (u : LoyaltyUser) (req : LoyaltyRequest) :
    LoyaltyWorld :=
  if req.amount < 0 then w.lose sid u req else w.gain sid u req

/-- The accredited clan that takes a share. -/
def sharingClan (w : LoyaltyWorld) (u : LoyaltyUser) (isBonusReward : Bool) : Option LoyaltyClan :=
  if isBonusReward then none
  else if 0 < u.knightsId ∧ u.knightsId ≠ 15100 ∧ u.knightsId ≠ 1 then
    (w.knights u.knightsId).filter fun clan =>
      CLAN_TYPE_ACCREDITED5 ≤ clan.flag && clan.clanPointMethod = 0 && 0 < clan.members &&
        clan.members ≤ MAX_CLAN_USERS
  else none

end LoyaltyWorld

theorem saturatingAdd32_lt (a b : ℕ) : saturatingAdd32 a b < 2 ^ 32 := by
  unfold saturatingAdd32
  omega

def LoyaltyClan.fund (clan : LoyaltyClan) (amount : ℕ) : LoyaltyClan :=
  { clan with
    clanPointFund := saturatingAdd32 clan.clanPointFund amount
    fund_lt := saturatingAdd32_lt clan.clanPointFund amount }

namespace LoyaltyWorld

def donate (w : LoyaltyWorld) (sid : SessionId) (isBonusReward : Bool) : LoyaltyWorld × ℕ :=
  match w.user sid with
  | none => (w, 0)
  | some u =>
    match w.sharingClan u isBonusReward with
    | none => (w, 0)
    | some clan =>
      let amount := calculateClanDonation clan.members
      let w := w.updateLoyalty sid (u.loyalty - amount)
      ({ w with
          knights := Function.update w.knights u.knightsId
            ((w.knights u.knightsId).map fun c => c.fund amount) },
        amount)

def sendLoyaltyChange (w : LoyaltyWorld) (sid : SessionId) (req : LoyaltyRequest) :
    LoyaltyWorld × Option LoyaltyAnswer :=
  match w.user sid with
  | none => (w, none)
  | some u =>
    let (w, clanLoyaltyAmount) := (w.changed sid u req).donate sid req.isBonusReward
    (w, (w.user sid).map fun u => ⟨u.loyalty, u.loyaltyMonthly, 0, clanLoyaltyAmount⟩)

end LoyaltyWorld

end KoServer
