import KoServer.Lib.Run
import KoServer.Lib.Tally
import KoServer.Proofs.GoldCap

/-! The funds of the kings over a run. A purchase adds its shares to what is there; a king's request
stores what it makes of an earlier reading, and what came in between is lost. -/

namespace KoServer

namespace RoyalTask

def spentFrom (nation : ℕ) (t : RoyalTask) : ℕ :=
  if t.nation = nation ∧ t.request ≠ .collectTax then t.amount else 0

def collectedFrom (nation : ℕ) (t : RoyalTask) : ℕ :=
  if t.nation = nation ∧ t.request = .collectTax then t.amount else 0

/-- What it gives to the character of a session. -/
def givenTo (p : ℕ) (t : RoyalTask) : ℕ := if t.payee = some p then t.amount else 0

/-- Given already, and not yet taken from the funds. -/
def outstanding (p : ℕ) (t : RoyalTask) : ℕ := if t.paid then t.givenTo p else 0

end RoyalTask

namespace RoyalWorld

variable (s : RoyalWorld)

def written : RoyalStep → Option RoyalTask
  | .write sid => s.taskAt sid (!unpaid ·)
  | _ => none

def paid : RoyalStep → Option RoyalTask
  | .pay sid => s.taskAt sid unpaid
  | _ => none

def deposited (share : ℕ → ℕ) (nation : ℕ) : RoyalStep → ℕ
  | .purchase n totalKingTax =>
    if n = nation ∧ (s.kingSystems nation).isSome then share totalKingTax else 0
  | _ => 0

def writtenSum (w : RoyalTask → ℕ) (steps : List RoyalStep) : ℕ :=
  Run.total royal (fun s step => (s.written step).elim 0 w) s steps

def depositedSum (share : ℕ → ℕ) (nation : ℕ) (steps : List RoyalStep) : ℕ :=
  Run.total royal (fun s step => s.deposited share nation step) s steps

/-- The treasury and the tax of the nation have changed by what was paid in and what was spent or
collected, and the character's gold by what was taken from any funds for it. -/
structure Balances (nation p : ℕ) (t : RoyalWorld) (steps : List RoyalStep) : Prop where
  treasury : t.treasuryOf nation + s.writtenSum (RoyalTask.spentFrom nation) steps =
    s.treasuryOf nation + s.depositedSum treasuryShare nation steps
  tax : t.taxOf nation + s.writtenSum (RoyalTask.collectedFrom nation) steps =
    s.taxOf nation + s.depositedSum territoryShare nation steps
  gold : t.goldOf p = s.goldOf p + s.writtenSum (RoyalTask.givenTo p) steps +
    Tally.total (RoyalTask.outstanding p) t.inFlight

/-- The funds stand as the task has read them. -/
def Stands (t : RoyalTask) : Prop :=
  if t.request = .collectTax then s.taxOf t.nation = t.snapshot
  else s.treasuryOf t.nation = t.snapshot

instance (t : RoyalTask) : Decidable (s.Stands t) := by
  unfold Stands
  infer_instance

/-- Gold goes to a character in game and stays within its width, a write is made on what was read,
and shares stay below the cap. -/
def KeepsAccounts : RoyalStep → Prop
  | .request _ _ _ => True
  | .pay sid => ∀ t ∈ s.taskAt sid unpaid, ∀ p ∈ t.payee,
      (s.citizens p).isSome ∧ s.goldOf p + t.amount < 2 ^ 32
  | .write sid => ∀ t ∈ s.taskAt sid (!unpaid ·), s.Stands t
  | .purchase nation totalKingTax =>
    totalKingTax ≠ 0 → (s.kingSystems nation).isSome →
      s.treasuryOf nation + treasuryShare totalKingTax ≤ COIN_MAX ∧
        s.taxOf nation + territoryShare totalKingTax ≤ COIN_MAX

instance (step : RoyalStep) : Decidable (s.KeepsAccounts step) := by
  unfold KeepsAccounts
  split <;> infer_instance

/-- The tasks in flight have the funds that they name. -/
structure InOrder : Prop where
  king : ∀ t ∈ s.inFlight, s.kingSystems t.nation ≠ none
  covered : ∀ t ∈ s.inFlight, t.amount ≤ t.snapshot

variable {s} {sid p nation : ℕ} {now : EventClock} {data : List UInt8} {t : RoyalTask}

theorem amount_le_of_accept (h : s.accept sid now data = some t) :
    t.amount ≤ t.snapshot ∧ t.paid = false := by
  refine ⟨?_, (accept_spec h).notPaid⟩
  unfold accept at h
  split at h
  case h_2 => cases h
  split_ifs at h
  obtain ⟨ks, hks, h⟩ := Option.bind_eq_some_iff.mp h
  unfold checkFunds at h
  split at h
  · split_ifs at h
    obtain rfl := Option.some.inj h
    exact le_rfl
  · split_ifs at h with hpoor
    obtain ⟨target, -, rfl⟩ := Option.map_eq_some_iff.mp h
    exact not_lt.mp hpoor
  all_goals
    dsimp only at h
    split_ifs at h with hpoor
    obtain rfl := Option.some.inj h
    exact not_lt.mp hpoor

theorem taskAt_spec {part : RoyalTask → Bool} (h : s.taskAt sid part = some t) :
    t ∈ s.inFlight ∧ part t = true := by
  have hpart := List.find?_some h
  exact ⟨List.mem_of_find?_eq_some h, (Bool.and_eq_true _ _ ▸ hpart : _ ∧ _).2⟩

/-- The world with gold given for a task, and with its record written. -/
def afterPay (s : RoyalWorld) (t : RoyalTask) : RoyalWorld :=
  { s.giveGold (t.payee.getD 0) t.amount with
    inFlight := { t with paid := true } :: s.inFlight.erase t }

def afterWrite (s : RoyalWorld) (t : RoyalTask) : RoyalWorld :=
  { s.updateKingSystem t.nation (·.write t) with inFlight := s.inFlight.erase t }

inductive Effect (s : RoyalWorld) (step : RoyalStep) : RoyalWorld → Prop
  | nothing (hpaid : s.paid step = none) (hwritten : s.written step = none)
      (hdeposited : ∀ share n, share 0 = 0 → s.deposited share n step = 0) : Effect s step s
  | accepted (t : RoyalTask) (sid : ℕ) (h : s.Accepted sid t) (hamount : t.amount ≤ t.snapshot)
      (hpaid : s.paid step = none) (hwritten : s.written step = none)
      (hdeposited : ∀ share n, s.deposited share n step = 0) :
      Effect s step { s with inFlight := t :: s.inFlight }
  | pays (t : RoyalTask) (p : ℕ) (ht : t ∈ s.inFlight) (hpayee : t.payee = some p)
      (hunpaid : t.paid = false) (hpaid : s.paid step = some t) (hwritten : s.written step = none)
      (hdeposited : ∀ share n, s.deposited share n step = 0)
      (hfits : s.KeepsAccounts step → (s.citizens p).isSome ∧ s.goldOf p + t.amount < 2 ^ 32) :
      Effect s step (s.afterPay t)
  | writes (t : RoyalTask) (ht : t ∈ s.inFlight) (hdue : ∀ p, t.payee = some p → t.paid = true)
      (hpaid : s.paid step = none) (hwritten : s.written step = some t)
      (hdeposited : ∀ share n, s.deposited share n step = 0)
      (hstands : s.KeepsAccounts step → s.Stands t) : Effect s step (s.afterWrite t)
  | deposits (nation tax : ℕ) (hstep : step = .purchase nation tax) (htax : tax ≠ 0) :
      Effect s step (s.updateKingSystem nation (·.deposit tax))

theorem royal_effect (s : RoyalWorld) (step : RoyalStep) : Effect s step (s.royal step) := by
  cases step with
  | request sid now data =>
    unfold royal
    dsimp only
    split_ifs
    · exact .nothing rfl rfl fun _ _ _ => rfl
    · split
      · exact .nothing rfl rfl fun _ _ _ => rfl
      next t haccept =>
      exact .accepted t sid (accept_spec haccept) (amount_le_of_accept haccept).1 rfl rfl
        fun _ _ => rfl
  | pay sid =>
    unfold royal
    dsimp only
    split
    · next hnone => exact .nothing hnone rfl fun _ _ _ => rfl
    next t htask =>
    obtain ⟨ht, hunpaid⟩ := taskAt_spec htask
    unfold unpaid at hunpaid
    rw [Bool.and_eq_true, Bool.not_eq_true'] at hunpaid
    obtain ⟨p, hp⟩ := Option.isSome_iff_exists.mp hunpaid.1
    exact .pays t p ht hp hunpaid.2 htask rfl (fun _ _ => rfl) fun h => h t htask p hp
  | write sid =>
    unfold royal
    dsimp only
    split
    · next hnone => exact .nothing rfl hnone fun _ _ _ => rfl
    next t htask =>
    obtain ⟨ht, hdue⟩ := taskAt_spec htask
    refine .writes t ht (fun p hp => ?_) rfl htask (fun _ _ => rfl) fun h => h t htask
    unfold unpaid at hdue
    rw [hp] at hdue
    simpa using hdue
  | purchase nation tax =>
    unfold royal
    dsimp only
    split_ifs with htax
    · refine .nothing rfl rfl fun share n hshare => ?_
      unfold deposited
      dsimp only
      rw [htax, hshare, ite_self]
    · exact .deposits nation tax rfl htax

theorem kingSystems_update_ne_none {n : ℕ} (f : KingSystem → KingSystem)
    (h : s.kingSystems n ≠ none) : (s.updateKingSystem nation f).kingSystems n ≠ none := by
  unfold updateKingSystem
  dsimp only
  rcases eq_or_ne n nation with rfl | hne
  · rw [Function.update_self]
    exact fun hnone => h (Option.map_eq_none_iff.mp hnone)
  · rwa [Function.update_of_ne hne]

theorem InOrder.royal (h : s.InOrder) (step : RoyalStep) : (s.royal step).InOrder := by
  have hrest : ∀ t u, u ∈ s.inFlight.erase t → u ∈ s.inFlight := fun t u => List.mem_of_mem_erase
  have heffect := royal_effect s step
  generalize s.royal step = s' at heffect ⊢
  cases heffect with
  | nothing => exact h
  | accepted t sid haccepted hamount =>
    exact ⟨List.forall_mem_cons.mpr ⟨haccepted.king, h.king⟩,
      List.forall_mem_cons.mpr ⟨hamount, h.covered⟩⟩
  | pays t p ht =>
    exact ⟨List.forall_mem_cons.mpr ⟨h.king t ht, fun u hu => h.king u (hrest t u hu)⟩,
      List.forall_mem_cons.mpr ⟨h.covered t ht, fun u hu => h.covered u (hrest t u hu)⟩⟩
  | writes t ht =>
    exact ⟨fun u hu => kingSystems_update_ne_none _ (h.king u (hrest t u hu)),
      fun u hu => h.covered u (hrest t u hu)⟩
  | deposits nation tax =>
    exact ⟨fun u hu => kingSystems_update_ne_none _ (h.king u hu), h.covered⟩

theorem fund_updateKingSystem (fund : KingSystem → ℕ) (f : KingSystem → KingSystem) (n : ℕ) :
    ((s.updateKingSystem nation f).kingSystems n).elim 0 fund =
      if n = nation then (s.kingSystems n).elim 0 fun ks => fund (f ks)
      else (s.kingSystems n).elim 0 fund := by
  unfold updateKingSystem
  dsimp only
  split_ifs with hn
  · rw [hn, Function.update_self, Option.elim_map]
    rfl
  · rw [Function.update_of_ne hn]

theorem treasury_write (ks : KingSystem) (t : RoyalTask) :
    (ks.write t).nationalTreasury =
      if t.request = .collectTax then ks.nationalTreasury else t.snapshot - t.amount := by
  unfold KingSystem.write
  cases t.request <;> rfl

theorem tax_write (ks : KingSystem) (t : RoyalTask) :
    (ks.write t).territoryTax = if t.request = .collectTax then 0 else ks.territoryTax := by
  unfold KingSystem.write
  cases t.request <;> rfl

theorem amount_collectTax (h : t.request = .collectTax) : t.amount = t.snapshot := by
  unfold RoyalTask.amount
  rw [h]

/-- A fund below the cap takes a share in full. -/
theorem capped_share {fund share : ℕ} (h : fund + share ≤ COIN_MAX) :
    min (saturatingAdd32 fund share) COIN_MAX = fund + share := by
  have hcoin : COIN_MAX = 2100000000 := rfl
  unfold saturatingAdd32
  omega

/-- A fund changes by a write, which takes what is spent where the fund stands as it was read, and by
a share that it has room for. -/
theorem fund_royal {fund : KingSystem → ℕ} {spent : RoyalTask → ℕ} {share : ℕ → ℕ} {n : ℕ}
    (h : s.InOrder) {step : RoyalStep} (hkeeps : s.KeepsAccounts step) (hshare : share 0 = 0)
    (hother : ∀ t : RoyalTask, t.nation ≠ n → spent t = 0)
    (hwrite : ∀ t ∈ s.inFlight, s.Stands t → t.nation = n → ∀ ks, s.kingSystems n = some ks →
      fund (ks.write t) + spent t = fund ks)
    (hdeposit : ∀ tax ks, tax ≠ 0 → s.KeepsAccounts (.purchase n tax) → s.kingSystems n = some ks →
      fund (ks.deposit tax) = fund ks + share tax) :
    ((s.royal step).kingSystems n).elim 0 fund + (s.written step).elim 0 spent =
      (s.kingSystems n).elim 0 fund + s.deposited share n step := by
  have heffect := royal_effect s step
  generalize s.royal step = s' at heffect ⊢
  cases heffect with
  | nothing _ hwritten hdeposited => rw [hwritten, hdeposited _ _ hshare]; rfl
  | accepted _ _ _ _ _ hwritten hdeposited => rw [hwritten, hdeposited]; rfl
  | pays _ _ _ _ _ _ hwritten hdeposited => rw [hwritten, hdeposited]; rfl
  | writes t ht _ _ hwritten hdeposited hstands =>
    obtain ⟨ks, hks⟩ := Option.ne_none_iff_exists'.mp (h.king t ht)
    rw [hwritten, hdeposited, Option.elim_some]
    unfold afterWrite
    dsimp only
    rw [fund_updateKingSystem]
    by_cases hn : n = t.nation
    · rw [if_pos hn]
      rw [← hn] at hks
      rw [hks]
      exact hwrite t ht (hstands hkeeps) hn.symm ks hks
    · rw [if_neg hn, hother t (Ne.symm hn)]
  | deposits nation tax hstep htax =>
    rw [hstep] at hkeeps ⊢
    unfold deposited written
    dsimp only
    rw [fund_updateKingSystem, Option.elim_none]
    by_cases hn : n = nation
    · subst hn
      rw [if_pos rfl]
      cases hks : s.kingSystems n with
      | none => simp
      | some ks =>
        rw [if_pos ⟨rfl, rfl⟩]
        exact hdeposit tax ks htax hkeeps hks
    · rw [if_neg hn, if_neg fun heq => hn heq.1.symm]

theorem treasury_royal (h : s.InOrder) {step : RoyalStep} (hkeeps : s.KeepsAccounts step)
    (n : ℕ) :
    (s.royal step).treasuryOf n + ((s.written step).elim 0 (RoyalTask.spentFrom n)) =
      s.treasuryOf n + s.deposited treasuryShare n step := by
  refine fund_royal h hkeeps rfl (fun t hn => if_neg fun heq => hn heq.1) ?_ ?_
  · intro t ht hstands hn ks hks
    have hcovered := h.covered t ht
    unfold Stands treasuryOf at hstands
    unfold RoyalTask.spentFrom
    simp only [treasury_write, hn, hks, Option.elim_some, true_and, ne_eq, ite_not] at hstands ⊢
    split_ifs at hstands ⊢
    · rfl
    · omega
  · intro tax ks htax hroom hks
    have hcap := (hroom htax (hks ▸ rfl)).1
    unfold treasuryOf at hcap
    rw [hks] at hcap
    exact capped_share hcap

theorem tax_royal (h : s.InOrder) {step : RoyalStep} (hkeeps : s.KeepsAccounts step) (n : ℕ) :
    (s.royal step).taxOf n + ((s.written step).elim 0 (RoyalTask.collectedFrom n)) =
      s.taxOf n + s.deposited territoryShare n step := by
  refine fund_royal h hkeeps rfl (fun t hn => if_neg fun heq => hn heq.1) ?_ ?_
  · intro t _ hstands hn ks hks
    unfold Stands taxOf at hstands
    unfold RoyalTask.collectedFrom
    simp only [tax_write, hn, hks, Option.elim_some, true_and] at hstands ⊢
    split_ifs at hstands ⊢ with hcollect
    · rw [amount_collectTax hcollect]
      omega
    · rfl
  · intro tax ks htax hroom hks
    have hcap := (hroom htax (hks ▸ rfl)).2
    unfold taxOf at hcap
    rw [hks] at hcap
    exact capped_share hcap

theorem gold_royal {step : RoyalStep} (hkeeps : s.KeepsAccounts step) (p : ℕ) :
    (s.royal step).goldOf p = s.goldOf p + (s.paid step).elim 0 (RoyalTask.givenTo p) := by
  have heffect := royal_effect s step
  generalize s.royal step = s' at heffect ⊢
  cases heffect with
  | nothing hpaid => rw [hpaid]; rfl
  | accepted _ _ _ _ hpaid => rw [hpaid]; rfl
  | pays t q ht hpayee _ hpaid _ _ hfits =>
    obtain ⟨hgame, hroom⟩ := hfits hkeeps
    rw [hpaid, Option.elim_some]
    unfold RoyalTask.givenTo
    change (s.giveGold (t.payee.getD 0) t.amount).goldOf p = _
    rw [hpayee, Option.getD_some, goldOf_giveGold t.amount p (Option.isSome_iff_ne_none.mp hgame)]
    by_cases hp : p = q
    · subst hp
      rw [if_pos rfl, if_pos rfl]
      unfold saturatingAdd32
      omega
    · rw [if_neg hp, if_neg fun heq => hp (Option.some.inj heq).symm, Nat.add_zero]
  | writes _ _ _ hpaid => rw [hpaid]; rfl
  | deposits _ _ hstep =>
    rw [hstep]
    rfl

/-- Gold is outstanding between the gift and the write. -/
theorem outstanding_royal (s : RoyalWorld) (step : RoyalStep) (p : ℕ) :
    Tally.total (RoyalTask.outstanding p) (s.royal step).inFlight +
        (s.written step).elim 0 (RoyalTask.givenTo p) =
      Tally.total (RoyalTask.outstanding p) s.inFlight +
        (s.paid step).elim 0 (RoyalTask.givenTo p) := by
  have herase : ∀ t ∈ s.inFlight, Tally.total (RoyalTask.outstanding p) s.inFlight =
      RoyalTask.outstanding p t + Tally.total (RoyalTask.outstanding p) (s.inFlight.erase t) :=
    fun t ht => by rw [Tally.total_perm _ (List.perm_cons_erase ht), Tally.total_cons]
  have heffect := royal_effect s step
  generalize s.royal step = s' at heffect ⊢
  cases heffect with
  | nothing hpaid hwritten => rw [hpaid, hwritten]
  | accepted t sid haccepted _ hpaid hwritten =>
    rw [hpaid, hwritten, Tally.total_cons]
    unfold RoyalTask.outstanding
    rw [haccepted.notPaid, if_neg Bool.false_ne_true, Nat.zero_add]
  | pays t q ht _ hunpaid hpaid hwritten =>
    rw [hpaid, hwritten, herase t ht]
    unfold afterPay
    rw [Tally.total_cons]
    unfold RoyalTask.outstanding
    rw [hunpaid, if_neg Bool.false_ne_true, if_pos rfl, Option.elim_none, Option.elim_some]
    change RoyalTask.givenTo p t + _ + 0 = _
    omega
  | writes t ht hdue hpaid hwritten =>
    rw [hpaid, hwritten, herase t ht, Option.elim_some, Option.elim_none]
    change Tally.total _ (s.inFlight.erase t) + _ = _
    have hgiven : RoyalTask.outstanding p t = RoyalTask.givenTo p t := by
      unfold RoyalTask.outstanding RoyalTask.givenTo
      by_cases hp : t.payee = some p
      · rw [if_pos (hdue p hp)]
      · rw [if_neg hp, ite_self]
    rw [hgiven]
    omega
  | deposits _ _ hstep =>
    rw [hstep]
    rfl

end RoyalWorld

/-- As long as every write is made on what was read, shares stay below the cap and gold within its
width, the funds of every nation and the gold of every character balance. -/
theorem treasury_balances {s : RoyalWorld} (hs : s.inFlight = []) {steps : List RoyalStep}
    (h : Run.Along RoyalWorld.royal RoyalWorld.KeepsAccounts s steps) (nation p : ℕ) :
    s.Balances nation p (Run.run RoyalWorld.royal s steps) steps := by
  have horder : s.InOrder := by
    constructor <;> rw [hs] <;> exact List.forall_mem_nil _
  refine ⟨?_, ?_, ?_⟩
  · exact Run.balance_along RoyalWorld.InOrder (·.treasuryOf nation) _ _
      (fun s step hs hk => ⟨hs.royal step, RoyalWorld.treasury_royal hs hk nation⟩) h horder
  · exact Run.balance_along RoyalWorld.InOrder (·.taxOf nation) _ _
      (fun s step hs hk => ⟨hs.royal step, RoyalWorld.tax_royal hs hk nation⟩) h horder
  · have hgold := Run.balance_along RoyalWorld.InOrder (·.goldOf p)
      (fun s step => (s.paid step).elim 0 (RoyalTask.givenTo p)) (fun _ _ => 0)
      (fun s step hs hk => ⟨hs.royal step, RoyalWorld.gold_royal hk p⟩) h horder
    have hdue := Run.balance RoyalWorld.InOrder
      (fun s => Tally.total (RoyalTask.outstanding p) s.inFlight) _ _
      (fun s step hs => ⟨hs.royal step, RoyalWorld.outstanding_royal s step p⟩) steps horder
    rw [Run.total_zero] at hgold
    rw [hs, Tally.total_nil] at hdue
    unfold RoyalWorld.writtenSum
    omega

/-- The king spends on an event, and collects the tax after a purchase. -/
def fairReign : List RoyalStep :=
  [.request 1 ⟨1, 12, 0⟩ [4, 1, 1], .write 1, .purchase 1 1000,
    .request 1 ⟨1, 12, 5⟩ [3, 2], .pay 1, .write 1]

theorem treasury_balances_fairReign :
    (palace 500).Balances 1 1 (Run.run RoyalWorld.royal (palace 500) fairReign) fairReign :=
  treasury_balances rfl (by decide +kernel) 1 1

/-- A purchase comes between the reading of the treasury and the write of the event. -/
def hastyReign : List RoyalStep :=
  [.request 1 ⟨1, 12, 0⟩ [4, 1, 1], .purchase 1 1000, .write 1]

/-- Its share of 800 is lost. -/
theorem share_overwritten : (palace 500).inFlight = [] ∧
    (Run.run RoyalWorld.royal (palace 500) hastyReign).inFlight = [] ∧
    ¬ (palace 500).Balances 1 1 (Run.run RoyalWorld.royal (palace 500) hastyReign) hastyReign :=
  ⟨rfl, by decide +kernel, fun h => absurd h.treasury (by decide +kernel)⟩

end KoServer
