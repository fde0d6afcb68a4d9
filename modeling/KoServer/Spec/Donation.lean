import KoServer.Spec.Merchant
import KoServer.Spec.Warehouse

/-! Donations of national points to a clan, from `handle_donate_np` of `handler/knights.rs`. The
character and the clan are read at once; what is written then comes from what was read. A session
takes its next request when the last one is done. -/

namespace KoServer

def MIN_NP_TO_DONATE : ℕ := 1000

structure Donor where
  knightsId : ℕ
  loyalty : ℕ
deriving DecidableEq

structure PointFund where
  flag : ℕ
  clanPointFund : ℕ
deriving DecidableEq

/-- A donation that has passed the checks, with the character and the clan as it has read them. -/
structure Donation where
  sid : ℕ
  amount : ℕ
  ch : Donor
  clan : PointFund
deriving DecidableEq

structure DonationWorld where
  donors : ℕ → Option Donor
  knights : ℕ → Option PointFund
  inFlight : List Donation

inductive DonationStep
  | read (isPlayerDead : Bool) (sid amount : ℕ)
  | write (sid : ℕ)

namespace DonationWorld

variable (s : DonationWorld)

def handleDonateNp (isPlayerDead : Bool) (sid amount : ℕ) : Option Donation :=
  if isPlayerDead then none
  else
    match s.donors sid with
    | none => none
    | some ch =>
      if ch.knightsId = 0 ∨ amount = 0 then none
      else if ch.loyalty < amount ∨ ch.loyalty - amount < MIN_NP_TO_DONATE then none
      else
        match s.knights ch.knightsId with
        | none => none
        | some clan => if clan.flag < 3 then none else some ⟨sid, amount, ch, clan⟩

def donateNp (d : Donation) : DonationWorld :=
  let newLoyalty := d.ch.loyalty - d.amount
  let newFund := min (saturatingAdd32 d.clan.clanPointFund d.amount) I32_MAX
  { donors := Function.update s.donors d.sid
      ((s.donors d.sid).map fun c => { c with loyalty := newLoyalty })
    knights := Function.update s.knights d.ch.knightsId
      ((s.knights d.ch.knightsId).map fun k => { k with clanPointFund := newFund })
    inFlight := s.inFlight.erase d }

def accepted : DonationStep → Option Donation
  | .read isPlayerDead sid amount =>
    if sid ∈ s.inFlight.map Donation.sid then none else s.handleDonateNp isPlayerDead sid amount
  | .write _ => none

def written : DonationStep → Option Donation
  | .read _ _ _ => none
  | .write sid => s.inFlight.find? fun d => d.sid = sid

def donation (step : DonationStep) : DonationWorld :=
  match s.accepted step, s.written step with
  | some d, _ => { s with inFlight := d :: s.inFlight }
  | none, some d => s.donateNp d
  | none, none => s

end DonationWorld

end KoServer
