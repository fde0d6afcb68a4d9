import KoServer.Lib.Run
import KoServer.Lib.Tally
import KoServer.Spec.Donation

/-! Donations to a clan, read and written in any order. Loyalty always falls by what is accepted.
The fund grows by it just where every donation is written on the fund that it has read, and below
the cap. -/

namespace KoServer

namespace DonationWorld

def fundOf (s : DonationWorld) (clanId : ℕ) : ℕ := (s.knights clanId).elim 0 PointFund.clanPointFund

def loyaltyOf (s : DonationWorld) (sid : ℕ) : ℕ := (s.donors sid).elim 0 Donor.loyalty

end DonationWorld

def Donation.toClan (clanId : ℕ) (d : Donation) : ℕ := if d.ch.knightsId = clanId then d.amount else 0

def Donation.ofSession (sid : ℕ) (d : Donation) : ℕ := if d.sid = sid then d.amount else 0

/-- The amounts accepted in a run, those that count for `w`. -/
def acceptedSum (w : Donation → ℕ) (s : DonationWorld) (steps : List DonationStep) : ℕ :=
  Run.total DonationWorld.donation (fun s step => (s.accepted step).elim 0 w) s steps

/-- The fund of the clan has grown by what was accepted for it, and the loyalty of each session's
character has fallen by what was accepted from it. -/
structure AddsUp (clanId : ℕ) (s t : DonationWorld) (steps : List DonationStep) : Prop where
  fund : t.fundOf clanId = s.fundOf clanId + acceptedSum (Donation.toClan clanId) s steps
  loyalty : ∀ sid, t.loyaltyOf sid + acceptedSum (Donation.ofSession sid) s steps = s.loyaltyOf sid

def WritesOnRead (clanId : ℕ) (s : DonationWorld) (step : DonationStep) : Prop :=
  ∀ d ∈ s.written step, d.ch.knightsId = clanId →
    s.fundOf clanId = d.clan.clanPointFund ∧ d.clan.clanPointFund + d.amount ≤ I32_MAX

instance (clanId : ℕ) (s : DonationWorld) (step : DonationStep) :
    Decidable (WritesOnRead clanId s step) := by
  unfold WritesOnRead
  infer_instance

/-- What the requests in flight have read: the characters as they still are. -/
structure InOrder (s : DonationWorld) : Prop where
  sids : (s.inFlight.map Donation.sid).Nodup
  donors : ∀ d ∈ s.inFlight, s.donors d.sid = some d.ch
  knights : ∀ d ∈ s.inFlight, s.knights d.ch.knightsId ≠ none
  amounts : ∀ d ∈ s.inFlight, 0 < d.amount ∧ d.amount ≤ d.ch.loyalty

variable {s : DonationWorld} {step : DonationStep} {d d' : Donation} {clanId sid amount : ℕ}
  {isPlayerDead : Bool}

theorem handleDonateNp_eq_some (h : s.handleDonateNp isPlayerDead sid amount = some d) :
    d.sid = sid ∧ s.donors d.sid = some d.ch ∧ s.knights d.ch.knightsId = some d.clan ∧
      0 < d.amount ∧ d.amount ≤ d.ch.loyalty := by
  unfold DonationWorld.handleDonateNp at h
  split_ifs at h with hdead
  cases hch : s.donors sid with
  | none => simp only [hch] at h; cases h
  | some ch =>
    simp only [hch] at h
    split_ifs at h with hzero hloyalty
    cases hclan : s.knights ch.knightsId with
    | none => simp only [hclan] at h; cases h
    | some clan =>
      simp only [hclan] at h
      split_ifs at h with hflag
      obtain rfl := Option.some.inj h
      exact ⟨rfl, hch, hclan, Nat.pos_of_ne_zero (not_or.mp hzero).2,
        Nat.le_of_not_lt (not_or.mp hloyalty).1⟩

theorem donation_cases (s : DonationWorld) (step : DonationStep) :
    (∃ d, s.accepted step = some d ∧ s.written step = none ∧
      s.donation step = { s with inFlight := d :: s.inFlight } ∧
      d.sid ∉ s.inFlight.map Donation.sid ∧ s.donors d.sid = some d.ch ∧
      s.knights d.ch.knightsId = some d.clan ∧ 0 < d.amount ∧ d.amount ≤ d.ch.loyalty) ∨
    (∃ d ∈ s.inFlight, s.accepted step = none ∧ s.written step = some d ∧
      s.donation step = s.donateNp d) ∨
    (s.accepted step = none ∧ s.written step = none ∧ s.donation step = s) := by
  unfold DonationWorld.donation
  cases haccepted : s.accepted step with
  | some d =>
    cases step with
    | write sid => cases haccepted
    | read isPlayerDead sid amount =>
      unfold DonationWorld.accepted at haccepted
      dsimp only at haccepted
      split_ifs at haccepted with hbusy
      obtain ⟨rfl, hrest⟩ := handleDonateNp_eq_some haccepted
      exact Or.inl ⟨d, rfl, rfl, rfl, hbusy, hrest⟩
  | none =>
    cases hwritten : s.written step with
    | none => exact Or.inr (Or.inr ⟨rfl, rfl, rfl⟩)
    | some d =>
      refine Or.inr (Or.inl ⟨d, ?_, rfl, rfl, rfl⟩)
      cases step with
      | read isPlayerDead sid amount => cases hwritten
      | write sid => exact List.mem_of_find?_eq_some hwritten

theorem InOrder.sid_ne (h : InOrder s) (hd : d ∈ s.inFlight) (hd' : d' ∈ s.inFlight.erase d) :
    d'.sid ≠ d.sid := by
  have hperm : (s.inFlight.map Donation.sid).Perm (d.sid :: (s.inFlight.erase d).map Donation.sid) :=
    (List.perm_cons_erase hd).map Donation.sid
  obtain ⟨hnew, -⟩ := List.nodup_cons.mp (hperm.nodup_iff.mp h.sids)
  exact fun heq => hnew (heq ▸ List.mem_map_of_mem hd')

theorem knights_donateNp_ne_none (h : s.knights clanId ≠ none) :
    (s.donateNp d).knights clanId ≠ none := by
  unfold DonationWorld.donateNp
  dsimp only
  by_cases hclan : clanId = d.ch.knightsId
  · subst hclan
    rw [Function.update_self]
    exact fun hnone => h (Option.map_eq_none_iff.mp hnone)
  · rwa [Function.update_of_ne hclan]

theorem InOrder.donation (h : InOrder s) (step : DonationStep) : InOrder (s.donation step) := by
  obtain ⟨d, -, -, heq, hsid, hch, hclan, hamount⟩ | ⟨d, hd, -, -, heq⟩ | ⟨-, -, heq⟩ :=
    donation_cases s step
  · rw [heq]
    refine ⟨List.nodup_cons.mpr ⟨hsid, h.sids⟩, ?_, ?_, ?_⟩
    · exact List.forall_mem_cons.mpr ⟨hch, h.donors⟩
    · exact List.forall_mem_cons.mpr ⟨hclan ▸ Option.some_ne_none _, h.knights⟩
    · exact List.forall_mem_cons.mpr ⟨hamount, h.amounts⟩
  · rw [heq]
    refine ⟨h.sids.sublist (List.erase_sublist.map _), fun d' hd' => ?_, fun d' hd' => ?_,
      fun d' hd' => h.amounts d' (List.mem_of_mem_erase hd')⟩
    · have hother := h.sid_ne hd hd'
      change Function.update s.donors d.sid _ d'.sid = some d'.ch
      rw [Function.update_of_ne hother]
      exact h.donors d' (List.mem_of_mem_erase hd')
    · exact knights_donateNp_ne_none (h.knights d' (List.mem_of_mem_erase hd'))
  · rwa [heq]

/-- The amounts in flight are those accepted and not yet written. -/
theorem inFlight_balance (w : Donation → ℕ) (s : DonationWorld) (step : DonationStep) :
    Tally.total w (s.donation step).inFlight + (s.written step).elim 0 w =
      Tally.total w s.inFlight + (s.accepted step).elim 0 w := by
  obtain ⟨d, haccepted, hwritten, heq, -⟩ | ⟨d, hd, haccepted, hwritten, heq⟩ |
      ⟨haccepted, hwritten, heq⟩ := donation_cases s step
  · rw [haccepted, hwritten, heq]
    exact Nat.add_comm (w d) _
  · have herase := Tally.total_perm w (List.perm_cons_erase hd)
    rw [Tally.total_cons] at herase
    rw [haccepted, hwritten, heq, herase]
    exact Nat.add_comm _ (w d)
  · rw [haccepted, hwritten, heq]

theorem acceptedSum_eq_written (w : Donation → ℕ) (h : InOrder s) {steps : List DonationStep}
    (hs : s.inFlight = []) (hend : (Run.run DonationWorld.donation s steps).inFlight = []) :
    acceptedSum w s steps =
      Run.total DonationWorld.donation (fun s step => (s.written step).elim 0 w) s steps := by
  have hbalance := Run.balance InOrder (fun s => Tally.total w s.inFlight) _ _
    (fun s step h => ⟨h.donation step, inFlight_balance w s step⟩) steps h
  rw [hs, hend, Tally.total_nil, Nat.zero_add, Nat.zero_add] at hbalance
  exact hbalance.symm

theorem loyaltyOf_donation (h : InOrder s) (sid : ℕ) (step : DonationStep) :
    (s.donation step).loyaltyOf sid + (s.written step).elim 0 (Donation.ofSession sid) =
      s.loyaltyOf sid := by
  obtain ⟨d, -, hwritten, heq, -⟩ | ⟨d, hd, -, hwritten, heq⟩ | ⟨-, hwritten, heq⟩ :=
    donation_cases s step
  · rw [hwritten, heq]
    rfl
  · rw [hwritten, heq]
    unfold DonationWorld.loyaltyOf DonationWorld.donateNp
    rw [Option.elim_some]
    unfold Donation.ofSession
    dsimp only
    by_cases hsid : d.sid = sid
    · subst hsid
      have hamount := (h.amounts d hd).2
      rw [if_pos rfl, Function.update_self, h.donors d hd, Option.map_some, Option.elim_some,
        Option.elim_some]
      dsimp only
      omega
    · rw [if_neg hsid, Function.update_of_ne (Ne.symm hsid), Nat.add_zero]
  · rw [hwritten, heq]
    rfl

theorem fundOf_donateNp (h : s.knights d.ch.knightsId ≠ none) :
    (s.donateNp d).fundOf clanId =
      if d.ch.knightsId = clanId then min (d.clan.clanPointFund + d.amount) I32_MAX
      else s.fundOf clanId := by
  unfold DonationWorld.fundOf DonationWorld.donateNp
  dsimp only
  split_ifs with hclan
  · subst hclan
    obtain ⟨k, hk⟩ := Option.ne_none_iff_exists'.mp h
    rw [Function.update_self, hk, Option.map_some, Option.elim_some]
    unfold saturatingAdd32 I32_MAX
    dsimp only
    omega
  · rw [Function.update_of_ne (Ne.symm hclan)]

/-- The fund is at most what it should be, `b`, and so is what the requests in flight have read; a
request that has read `b` itself has read the fund as it is. -/
structure Behind (clanId : ℕ) (s : DonationWorld) (b : ℕ) : Prop where
  inOrder : InOrder s
  fund : s.fundOf clanId ≤ b
  read : ∀ d ∈ s.inFlight, d.ch.knightsId = clanId → d.clan.clanPointFund ≤ b ∧
    (d.clan.clanPointFund = b → s.fundOf clanId = b)

theorem Behind.donation {b : ℕ} (h : Behind clanId s b) (step : DonationStep) :
    Behind clanId (s.donation step) (b + (s.written step).elim 0 (Donation.toClan clanId)) := by
  refine ⟨h.inOrder.donation step, ?_, ?_⟩
  all_goals
    obtain ⟨d, -, hwritten, heq, -, -, hclan, -⟩ | ⟨d, hd, -, hwritten, heq⟩ | ⟨-, hwritten, heq⟩ :=
      donation_cases s step
  · rw [hwritten, heq]
    exact h.fund
  · rw [hwritten, heq, Option.elim_some, fundOf_donateNp (h.inOrder.knights d hd)]
    have hfund := h.fund
    unfold Donation.toClan
    split_ifs with hclan
    · have hread := (h.read d hd hclan).1
      omega
    · exact hfund
  · rw [hwritten, heq]
    exact h.fund
  · rw [hwritten, heq, Option.elim_none, Nat.add_zero]
    refine List.forall_mem_cons.mpr ⟨?_, h.read⟩
    rintro rfl
    have hfund : s.fundOf d.ch.knightsId = d.clan.clanPointFund := by
      unfold DonationWorld.fundOf
      rw [hclan]
      rfl
    exact ⟨hfund ▸ h.fund, fun hb => hfund.trans hb⟩
  · rw [hwritten, heq, Option.elim_some, fundOf_donateNp (h.inOrder.knights d hd)]
    intro d' hd' hclan'
    obtain ⟨hle, hcurrent⟩ := h.read d' (List.mem_of_mem_erase hd') hclan'
    have hamount := (h.inOrder.amounts d hd).1
    unfold Donation.toClan
    -- a write of an amount outdates what the others have read
    split_ifs with hclan
    · exact ⟨by omega, fun hb => by omega⟩
    · exact ⟨hle, hcurrent⟩
  · rw [hwritten, heq]
    exact h.read

theorem shows_donation {b : ℕ} (h : Behind clanId s b) (step : DonationStep) :
    (s.donation step).fundOf clanId = b + (s.written step).elim 0 (Donation.toClan clanId) ↔
      s.fundOf clanId = b ∧ WritesOnRead clanId s step := by
  unfold WritesOnRead
  obtain ⟨d, -, hwritten, heq, -⟩ | ⟨d, hd, -, hwritten, heq⟩ | ⟨-, hwritten, heq⟩ :=
    donation_cases s step
  · rw [hwritten, heq]
    exact (and_iff_left fun d hd => by cases hd).symm
  · rw [hwritten, heq, Option.elim_some, fundOf_donateNp (h.inOrder.knights d hd)]
    simp only [Option.mem_def, Option.some.injEq, forall_eq']
    unfold Donation.toClan
    split_ifs with hclan
    · obtain ⟨hle, hcurrent⟩ := h.read d hd hclan
      have hfund := h.fund
      simp only [hclan, forall_const]
      omega
    · simp only [hclan, false_imp_iff, and_true, Nat.add_zero]
  · rw [hwritten, heq]
    exact (and_iff_left fun d hd => by cases hd).symm

/-- Once all requests have finished, they add up for a clan just where each donation to it is
written on the fund that it has read, and below the cap. -/
theorem addsUp_iff {s : DonationWorld} {steps : List DonationStep} (hs : s.inFlight = [])
    (hend : (Run.run DonationWorld.donation s steps).inFlight = []) (clanId : ℕ) :
    AddsUp clanId s (Run.run DonationWorld.donation s steps) steps ↔
      Run.Along DonationWorld.donation (WritesOnRead clanId) s steps := by
  have hinOrder : InOrder s := by
    refine ⟨?_, ?_, ?_, ?_⟩ <;> rw [hs]
    · exact List.nodup_nil
    all_goals exact List.forall_mem_nil _
  have hbehind : Behind clanId s (s.fundOf clanId) :=
    ⟨hinOrder, le_rfl, by rw [hs]; exact List.forall_mem_nil _⟩
  have hfund := Run.shows_iff DonationWorld.donation (Behind clanId) (fun s b => s.fundOf clanId = b)
    (fun _ => True) (WritesOnRead clanId) (fun _ _ step h _ => h.donation step)
    (fun _ _ step h => shows_donation h step) (fun step (_ : step ∈ steps) => trivial) hbehind
  rw [← acceptedSum_eq_written _ hinOrder hs hend, and_iff_right rfl] at hfund
  refine ⟨fun h => hfund.mp h.fund, fun h => ⟨hfund.mpr h, fun sid => ?_⟩⟩
  rw [acceptedSum_eq_written _ hinOrder hs hend]
  have hloyalty := Run.balance InOrder (fun s => s.loyaltyOf sid) (fun _ _ => 0) _
    (fun s step h => ⟨h.donation step, loyaltyOf_donation h sid step⟩) steps hinOrder
  rwa [Run.total_zero, Nat.add_zero] at hloyalty

/-- Two members of the clan 1, in the sessions 1 and 2. -/
def almsgivers : DonationWorld where
  donors := fun sid => if sid = 1 ∨ sid = 2 then some ⟨1, 3000⟩ else none
  knights := fun id => if id = 1 then some ⟨3, 100⟩ else none
  inFlight := []

/-- One donation after the other. -/
theorem addsUp_almsgivers :
    AddsUp 1 almsgivers (Run.run DonationWorld.donation almsgivers
      [.read false 1 500, .write 1, .read false 2 700, .write 2])
      [.read false 1 500, .write 1, .read false 2 700, .write 2] :=
  (addsUp_iff rfl (by decide +kernel) 1).mpr (by decide +kernel)

/-- Both read the fund at 100, and the second write leaves 800 of 1300. -/
theorem not_addsUp_almsgivers :
    let steps : List DonationStep := [.read false 1 500, .read false 2 700, .write 1, .write 2]
    (Run.run DonationWorld.donation almsgivers steps).inFlight = [] ∧
      ¬ AddsUp 1 almsgivers (Run.run DonationWorld.donation almsgivers steps) steps :=
  ⟨by decide +kernel, fun h => absurd h.fund (by decide +kernel)⟩

end KoServer
