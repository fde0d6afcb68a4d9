import KoServer.Lib.Run
import KoServer.Spec.GoldSpend

/-! Gold that comes in while a request spends gold. A stat reset loses none of it below the cap; a
clan creation writes over what came in after it had read the character. -/

namespace KoServer

def Stage.succeeded : Stage → Bool
  | .done succeeded => succeeded
  | _ => false

/-- The character that a waiting request has read. -/
def Stage.snapshot : Stage → Option Spender
  | .findByName ch | .nextClanId ch | .createKnights ch _ | .updateUserKnights ch _ => some ch
  | .start | .done _ => none

def SpendingStep.amount : SpendingStep → ℕ
  | .credit amount => amount
  | .part => 0

def Spending.paid (t : LevelTables) (request : GoldRequest) (level : ℕ) (s : Spending) : ℕ :=
  if s.stage.succeeded then request.price t level else 0

/-- The gold in the end is the gold in the beginning and all credits, less the price of the request
if it succeeded. -/
def GoldAddsUp (t : LevelTables) (request : GoldRequest) (c : Spender) (steps : List SpendingStep) :
    Prop :=
  let s := Run.run (Spending.step t request) ⟨.start, c⟩ steps
  s.ch.gold + s.paid t request c.level = c.gold + (steps.map SpendingStep.amount).sum

/-- A credit stays below the cap, and a creation writes on the gold that it has read. -/
def KeepsGold (s : Spending) : SpendingStep → Prop
  | .credit amount => s.ch.gold + amount ≤ COIN_MAX
  | .part =>
    match s.stage with
    | .updateUserKnights ch _ => s.ch.gold = ch.gold
    | _ => True

instance (s : Spending) (step : SpendingStep) : Decidable (KeepsGold s step) := by
  unfold KeepsGold
  split
  · infer_instance
  · split <;> infer_instance

variable {t : LevelTables} {request : GoldRequest} {s : Spending} {level b : ℕ}

inductive Part (t : LevelTables) (request : GoldRequest) (s s' : Spending) : Prop
  | waits (hch : s'.ch = s.ch) (hsucceeded : s'.stage.succeeded = s.stage.succeeded)
    (hsnapshot : ∀ ch, s'.stage.snapshot = some ch → s.stage.snapshot = some ch ∨
      ch = s.ch ∧ CLAN_COIN_REQUIREMENT ≤ ch.gold)
    (hkeeps : KeepsGold s .part)
  | creates (ch : Spender) (nextId : ℕ) (hstage : s.stage = .updateUserKnights ch nextId)
    (hdone : s'.stage = .done true) (hprice : ∀ level, request.price t level = CLAN_COIN_REQUIREMENT)
    (hgold : s'.ch.gold = ch.gold - CLAN_COIN_REQUIREMENT) (hlevel : s'.ch.level = s.ch.level)
  | resets (hstage : s.stage = .start) (hdone : s'.stage = .done true)
    (hprice : request.price t s.ch.level ≤ s.ch.gold)
    (hgold : s'.ch.gold = s.ch.gold - request.price t s.ch.level) (hlevel : s'.ch.level = s.ch.level)

theorem Part.refused {s' : Spending} (hch : s'.ch = s.ch)
    (hdone : s'.stage = .done s.stage.succeeded) (hkeeps : KeepsGold s .part) :
    Part t request s s' := by
  refine .waits hch ?_ ?_ hkeeps <;> rw [hdone]
  · rfl
  · exact fun ch hch => by cases hch

theorem step_write (env : KnightsEnv) (clanName : List Char) (queries : CreateQueries)
    (c ch : Spender) (nextId : ℕ) :
    Spending.step t (.create env clanName queries) ⟨.updateUserKnights ch nextId, c⟩ .part =
      ⟨.done true,
        { c with gold := ch.gold - CLAN_COIN_REQUIREMENT, knightsId := nextId, fame := CHIEF }⟩ :=
  rfl

theorem part_create (env : KnightsEnv) (clanName : List Char) (queries : CreateQueries)
    (s : Spending) : Part t (.create env clanName queries) s
      (s.step t (.create env clanName queries) .part) := by
  obtain ⟨stage, c⟩ := s
  cases stage with
  | updateUserKnights ch nextId =>
    -- a variable for the new gold, or the kernel counts down from the price
    obtain ⟨gold, hgold⟩ : ∃ gold, gold = ch.gold - CLAN_COIN_REQUIREMENT := ⟨_, rfl⟩
    rw [step_write, ← hgold]
    exact .creates ch nextId rfl rfl (fun _ => rfl) hgold rfl
  | done succeeded => exact .refused rfl rfl trivial
  | start =>
    unfold Spending.step GoldRequest.part Spender.handleCreate
    dsimp only
    split_ifs with _ _ _ _ _ hgold
    any_goals exact .refused rfl rfl trivial
    refine .waits rfl rfl (fun ch hch => Or.inr ?_) trivial
    obtain rfl := Option.some.inj hch
    exact ⟨rfl, Nat.le_of_not_lt hgold⟩
  | findByName ch =>
    unfold Spending.step GoldRequest.part Spender.handleCreate
    dsimp only
    split_ifs
    · exact .waits rfl rfl (fun ch hch => Or.inl hch) trivial
    · exact .refused rfl rfl trivial
  | nextClanId ch =>
    unfold Spending.step GoldRequest.part Spender.handleCreate
    dsimp only
    cases queries.nextClanId with
    | some nextId => exact .waits rfl rfl (fun ch hch => Or.inl hch) trivial
    | none => exact .refused rfl rfl trivial
  | createKnights ch nextId =>
    unfold Spending.step GoldRequest.part Spender.handleCreate
    dsimp only
    split_ifs
    · exact .waits rfl rfl (fun ch hch => Or.inl hch) trivial
    · exact .refused rfl rfl trivial

theorem part_allPointChange (env : ResetEnv) (hs : s.stage.snapshot = none) :
    Part t (.allPointChange env) s (s.step t (.allPointChange env) .part) := by
  unfold Spending.step GoldRequest.part
  dsimp only
  obtain ⟨stage, c⟩ := s
  cases stage with
  | start =>
    unfold Spender.handleAllPointChange Progress.handleAllPointChange
    dsimp only
    by_cases hequipment : env.hasEquipment
    · rw [if_pos hequipment, hequipment]
      exact .refused rfl rfl trivial
    by_cases hpoor : !env.free && decide (c.gold < resetCost t env c.level)
    · rw [if_neg hequipment, if_pos hpoor, hpoor, Bool.or_true]
      exact .refused rfl rfl trivial
    rw [if_neg hequipment, if_neg hpoor, Bool.eq_false_of_not_eq_true hequipment,
      Bool.eq_false_of_not_eq_true hpoor]
    refine .resets rfl rfl ?_ rfl rfl
    change resetCost t env c.level ≤ c.gold
    by_cases hfree : env.free
    · unfold resetCost
      dsimp only
      rw [if_pos hfree]
      exact Nat.zero_le _
    · simpa [hfree] using hpoor
  | done succeeded => exact .refused rfl rfl trivial
  | _ => cases hs

/-- A stat reset never waits. -/
theorem snapshot_reset (env : ResetEnv) (hs : s.stage.snapshot = none) :
    (s.step t (.allPointChange env) .part).stage.snapshot = none := by
  obtain ⟨stage, c⟩ := s
  cases stage with
  | start => rfl
  | done succeeded => rfl
  | _ => cases hs

/-- The character shows at most `b`, and so does what a waiting creation has read. -/
structure Booked (t : LevelTables) (request : GoldRequest) (level : ℕ) (s : Spending) (b : ℕ) :
    Prop where
  sameLevel : s.ch.level = level
  gold : s.ch.gold + s.paid t request level ≤ b
  snapshot : ∀ ch, s.stage.snapshot = some ch → CLAN_COIN_REQUIREMENT ≤ ch.gold ∧ ch.gold ≤ b
  reset : ∀ env, request = .allPointChange env → s.stage.snapshot = none

/-- If the creation has read all of `b`, nothing has come in since. -/
def UpToDate (s : Spending) (b : ℕ) : Prop :=
  ∀ ch, s.stage.snapshot = some ch → ch.gold = b → s.ch.gold = b

def Shows (t : LevelTables) (request : GoldRequest) (level : ℕ) (s : Spending) (b : ℕ) : Prop :=
  s.ch.gold + s.paid t request level = b

theorem paid_of_done (hdone : s.stage = .done true) :
    s.paid t request level = request.price t level := by
  unfold Spending.paid
  rw [hdone]
  rfl

theorem paid_of_start (hstart : s.stage = .start) : s.paid t request level = 0 := by
  unfold Spending.paid
  rw [hstart]
  rfl

theorem paid_of_snapshot {ch : Spender} (hch : s.stage.snapshot = some ch) :
    s.paid t request level = 0 := by
  unfold Spending.paid
  obtain ⟨stage, c⟩ := s
  cases stage with
  | start => cases hch
  | done => cases hch
  | _ => rfl

theorem Booked.part (h : Booked t request level s b) : Part t request s (s.step t request .part) := by
  cases request with
  | create env clanName queries => exact part_create env clanName queries s
  | allPointChange env => exact part_allPointChange env (h.reset env rfl)

theorem goldGain_le (gold amount : ℕ) : goldGain gold amount ≤ gold + amount := by
  unfold goldGain
  split_ifs <;> omega

theorem Booked.step (h : Booked t request level s b) (step : SpendingStep) :
    Booked t request level (s.step t request step) (b + step.amount) := by
  cases step with
  | credit amount =>
    refine ⟨h.sameLevel, ?_, fun ch hch => ?_, h.reset⟩
    · have hgain := goldGain_le s.ch.gold amount
      have hgold := h.gold
      change goldGain s.ch.gold amount + s.paid t request level ≤ b + amount
      omega
    · obtain ⟨hprice, hle⟩ := h.snapshot ch hch
      exact ⟨hprice, hle.trans (Nat.le_add_right b amount)⟩
  | part =>
    change Booked t request level _ b
    have hgold := h.gold
    cases h.part with
    | waits hch hsucceeded hsnapshot =>
      refine ⟨hch ▸ h.sameLevel, ?_, fun ch hnew => ?_, ?_⟩
      · unfold Spending.paid at hgold ⊢
        rwa [hch, hsucceeded]
      · rcases hsnapshot ch hnew with hold | ⟨rfl, hprice⟩
        · exact h.snapshot ch hold
        · exact ⟨hprice, (Nat.le_add_right _ _).trans hgold⟩
      · rintro env rfl
        exact snapshot_reset env (h.reset env rfl)
    | creates ch nextId hstage hdone hprice hgold' hlevel =>
      obtain ⟨hle, hread⟩ := h.snapshot ch (by rw [hstage]; rfl)
      refine ⟨hlevel.trans h.sameLevel, ?_, ?_, ?_⟩
      · rw [paid_of_done hdone, hgold', hprice, Nat.sub_add_cancel hle]
        exact hread
      · rw [hdone]
        exact fun ch hch => by cases hch
      · rw [hdone]
        exact fun _ _ => rfl
    | resets hstage hdone hprice hgold' hlevel =>
      refine ⟨hlevel.trans h.sameLevel, ?_, ?_, ?_⟩
      · rw [paid_of_done hdone, hgold', ← h.sameLevel, Nat.sub_add_cancel hprice]
        exact (Nat.le_add_right _ _).trans hgold
      · rw [hdone]
        exact fun ch hch => by cases hch
      · rw [hdone]
        exact fun _ _ => rfl

theorem shows_credit (h : Booked t request level s b) (amount : ℕ) :
    Shows t request level (s.step t request (.credit amount)) (b + amount) ↔
      Shows t request level s b ∧ KeepsGold s (.credit amount) := by
  have hgold := h.gold
  unfold Shows KeepsGold
  change goldGain s.ch.gold amount + s.paid t request level = b + amount ↔ _
  unfold goldGain
  dsimp only
  split_ifs <;> omega

/-- A part shows the sum where it did before and is written on what was read. -/
theorem Booked.shows (h : Booked t request level s b) (hshows : Shows t request level s b)
    (hkeeps : KeepsGold s .part) : Shows t request level (s.step t request .part) b := by
  unfold Shows at hshows ⊢
  cases h.part with
  | waits hch hsucceeded =>
    unfold Spending.paid at hshows ⊢
    rwa [hch, hsucceeded]
  | creates ch nextId hstage hdone hprice hgold =>
    have hsnapshot : s.stage.snapshot = some ch := by rw [hstage]; rfl
    unfold KeepsGold at hkeeps
    rw [hstage] at hkeeps
    rw [paid_of_snapshot hsnapshot, Nat.add_zero] at hshows
    rw [paid_of_done hdone, hgold, hprice, Nat.sub_add_cancel (h.snapshot ch hsnapshot).1, ← hshows]
    exact hkeeps.symm
  | resets hstage hdone hprice hgold =>
    rw [paid_of_start hstage, Nat.add_zero] at hshows
    rw [paid_of_done hdone, hgold, ← h.sameLevel, Nat.sub_add_cancel hprice]
    exact hshows

theorem Booked.shows_iff (h : Booked t request level s b) (hcurrent : UpToDate s b) :
    Shows t request level (s.step t request .part) b ↔
      Shows t request level s b ∧ KeepsGold s .part := by
  refine ⟨fun hshows => ?_, fun hs => h.shows hs.1 hs.2⟩
  unfold Shows at hshows ⊢
  cases h.part with
  | waits hch hsucceeded _ hkeeps =>
    refine ⟨?_, hkeeps⟩
    unfold Spending.paid at hshows ⊢
    rwa [hch, hsucceeded] at hshows
  | creates ch nextId hstage hdone hprice hgold =>
    have hsnapshot : s.stage.snapshot = some ch := by rw [hstage]; rfl
    rw [paid_of_done hdone, hgold, hprice, Nat.sub_add_cancel (h.snapshot ch hsnapshot).1] at hshows
    have hall := hcurrent ch hsnapshot hshows
    refine ⟨by rw [paid_of_snapshot hsnapshot]; exact hall, ?_⟩
    unfold KeepsGold
    rw [hstage]
    exact hall.trans hshows.symm
  | resets hstage hdone hprice hgold =>
    rw [paid_of_done hdone, hgold, ← h.sameLevel, Nat.sub_add_cancel hprice] at hshows
    refine ⟨by rw [paid_of_start hstage]; exact hshows, ?_⟩
    unfold KeepsGold
    rw [hstage]
    trivial

theorem UpToDate.step (h : Booked t request level s b) (hcurrent : UpToDate s b)
    {step : SpendingStep} (hstep : step ≠ .credit 0) :
    UpToDate (s.step t request step) (b + step.amount) := by
  cases step with
  | credit amount =>
    intro ch hch hread
    have hle := (h.snapshot ch hch).2
    have hpos : amount ≠ 0 := fun hzero => hstep (congrArg SpendingStep.credit hzero)
    change ch.gold = b + amount at hread
    omega
  | part =>
    intro ch hnew hread
    change ch.gold = b at hread
    change (s.step t request .part).ch.gold = b
    cases h.part with
    | waits hch _ hsnapshot _ =>
      rw [hch]
      rcases hsnapshot ch hnew with hold | ⟨rfl, -⟩
      · exact hcurrent ch hold hread
      · exact hread
    | creates _ _ _ hdone => rw [hdone] at hnew; cases hnew
    | resets _ hdone => rw [hdone] at hnew; cases hnew

theorem booked_start (t : LevelTables) (request : GoldRequest) (c : Spender) :
    Booked t request c.level ⟨.start, c⟩ c.gold := by
  refine ⟨rfl, le_rfl, fun ch hch => ?_, fun _ _ => rfl⟩
  cases hch

/-- No gold is lost where credits stay below the cap and a creation writes on the gold that it has
read; and where each credit is of some gold, only there. -/
theorem goldAddsUp_iff (t : LevelTables) (request : GoldRequest) (c : Spender)
    (steps : List SpendingStep) :
    (Run.Along (Spending.step t request) KeepsGold ⟨.start, c⟩ steps → GoldAddsUp t request c steps) ∧
    ((∀ step ∈ steps, step ≠ .credit 0) →
      (GoldAddsUp t request c steps ↔
        Run.Along (Spending.step t request) KeepsGold ⟨.start, c⟩ steps)) := by
  have hstart := booked_start t request c
  unfold GoldAddsUp
  dsimp only
  rw [← Run.total_steps (Spending.step t request) SpendingStep.amount ⟨.start, c⟩ steps]
  refine ⟨fun hkeeps => ?_, fun hsteps => ?_⟩
  · refine Run.shows_of_along (Booked t request c.level) (Shows t request c.level)
      (fun s b step h hshows hgood => ⟨h.step step, ?_⟩) hstart rfl hkeeps
    cases step with
    | credit amount => exact (shows_credit h amount).mpr ⟨hshows, hgood⟩
    | part => exact h.shows hshows hgood
  · have hiff := Run.shows_iff (Spending.step t request)
      (fun s b => Booked t request c.level s b ∧ UpToDate s b) (Shows t request c.level)
      (fun step => step ≠ .credit 0) KeepsGold
      (fun s b step h hstep => ⟨h.1.step step, h.2.step h.1 hstep⟩)
      (fun s b step h => by
        cases step with
        | credit amount => exact shows_credit h.1 amount
        | part => exact h.1.shows_iff h.2) hsteps ⟨hstart, fun ch hch => by cases hch⟩
    exact hiff.trans (and_iff_right rfl)

def founder : Spender where
  classId := 101
  level := 30
  exp := 0
  maxExp := 0
  expSealStatus := false
  sealedExp := 0
  gold := 600000
  str := 0
  sta := 0
  dex := 0
  intel := 0
  cha := 0
  freePoints := 0
  skillPoints := fun _ => 0
  name := ['A', 'n', 'n']
  nation := 1
  knightsId := 0
  fame := 0
  pendingKnightsInvite := 0

def noTables : LevelTables := ⟨fun _ => 0, fun _ => 0⟩

def clanFounding : GoldRequest :=
  .create ⟨false, false, true, false, false⟩ ['L'] ⟨some false, some 1, true⟩

/-- Credits before and after the creation. -/
theorem goldAddsUp_clanFounding :
    GoldAddsUp noTables clanFounding founder
      [.credit 1000, .part, .part, .part, .part, .part, .credit 2000] :=
  (goldAddsUp_iff noTables clanFounding founder _).1 (by decide +kernel)

/-- A credit of 1000 while the clan is being created is lost. -/
theorem not_goldAddsUp_clanFounding :
    ¬ GoldAddsUp noTables clanFounding founder
      [.part, .part, .credit 1000, .part, .part, .part] := by
  unfold GoldAddsUp
  decide +kernel

def ClanWorld.createQueries (s : ClanWorld) (clanName : List Char) (nation : ℕ) : CreateQueries where
  findByName := some (clanName ∈ s.rows.map KnightsRow.idName)
  nextClanId := some (s.nextClanId nation)
  createKnights := s.nextClanId nation ∉ s.rows.map KnightsRow.idNum

section Creation

variable {env : KnightsEnv} {clanName : List Char} {queries : CreateQueries} {c : Spender}

def CreateRefused (env : KnightsEnv) (clanName : List Char) (c : Spender) : Prop :=
  env.isTrading ∨ (clanName = [] ∨ MAX_ID_SIZE < (asBytes clanName).length) ∨ 0 < c.knightsId ∨
    c.level < CLAN_LEVEL_REQUIREMENT ∨ c.gold < CLAN_COIN_REQUIREMENT ∨ ¬ env.clanUpdates

instance : Decidable (CreateRefused env clanName c) := by
  unfold CreateRefused
  infer_instance

theorem handleCreate_start (halive : env.isPlayerDead = false) :
    c.handleCreate env clanName queries .start =
      if CreateRefused env clanName c then (.done false, c) else (.findByName c, c) := by
  unfold Spender.handleCreate
  dsimp only
  rw [halive, if_neg Bool.false_ne_true]
  by_cases hrefused : CreateRefused env clanName c
  · rw [if_pos hrefused]
    rcases hrefused with h | h | h | h | h | h <;> rw [if_pos h] <;> simp only [ite_self]
  · rw [if_neg hrefused]
    unfold CreateRefused at hrefused
    push Not at hrefused
    obtain ⟨htrading, hname, hclan, hlevel, hgold, hupdates⟩ := hrefused
    rw [if_neg htrading, if_neg (not_or.mpr ⟨hname.1, hname.2.not_gt⟩), if_neg hclan.not_gt,
      if_neg hlevel.not_gt, if_neg hgold.not_gt, if_neg (not_not.mpr hupdates)]

theorem step_start (halive : env.isPlayerDead = false) :
    Spending.step t (.create env clanName queries) ⟨.start, c⟩ .part =
      ⟨if CreateRefused env clanName c then .done false else .findByName c, c⟩ := by
  unfold Spending.step GoldRequest.part
  dsimp only
  rw [handleCreate_start halive]
  split_ifs <;> rfl

theorem step_findByName (ch : Spender) :
    Spending.step t (.create env clanName queries) ⟨.findByName ch, c⟩ .part =
      ⟨if queries.findByName = some false then .nextClanId ch else .done false, c⟩ := by
  unfold Spending.step GoldRequest.part Spender.handleCreate
  dsimp only
  split_ifs <;> rfl

theorem step_createKnights (ch : Spender) (nextId : ℕ) :
    Spending.step t (.create env clanName queries) ⟨.createKnights ch nextId, c⟩ .part =
      ⟨if queries.createKnights then .updateUserKnights ch nextId else .done false, c⟩ := by
  unfold Spending.step GoldRequest.part Spender.handleCreate
  dsimp only
  split_ifs <;> rfl

theorem run_done (n : ℕ) :
    Run.run (Spending.step t (.create env clanName queries)) ⟨.done false, c⟩
      (List.replicate n .part) = ⟨.done false, c⟩ := by
  induction n with
  | zero => rfl
  | succ n ih =>
    rw [List.replicate_succ, Run.run_cons]
    exact ih

/-- Its parts in a row do to the character what the creation of a clan does. -/
theorem handleCreate_parts (t : LevelTables) {s : ClanWorld} {sid : ℕ}
    (hc : s.sessions sid = some c.clansman) (halive : env.isPlayerDead = false) :
    (s.handleCreate env sid clanName).sessions sid =
      some (Run.run (Spending.step t (.create env clanName (s.createQueries clanName c.nation)))
        ⟨.start, c⟩ (List.replicate 5 .part)).ch.clansman := by
  rw [List.replicate_succ, Run.run_cons, step_start halive]
  unfold ClanWorld.handleCreate
  rw [hc]
  dsimp only [Spender.clansman]
  by_cases hrefused : CreateRefused env clanName c
  · rw [if_pos hrefused, run_done]
    rcases hrefused with h | h | h | h | h | h <;> rw [if_pos h] <;> simp only [ite_self] <;> exact hc
  rw [if_neg hrefused]
  unfold CreateRefused at hrefused
  push Not at hrefused
  obtain ⟨htrading, hname, hclan, hlevel, hgold, hupdates⟩ := hrefused
  rw [if_neg htrading, if_neg (not_or.mpr ⟨hname.1, hname.2.not_gt⟩), if_neg hclan.not_gt,
    if_neg hlevel.not_gt, if_neg hgold.not_gt, if_neg (not_not.mpr hupdates),
    List.replicate_succ, Run.run_cons, step_findByName]
  unfold ClanWorld.createQueries
  simp only [Option.some.injEq, decide_eq_false_iff_not]
  by_cases htaken : clanName ∈ s.rows.map KnightsRow.idName
  · rw [if_pos htaken, if_neg (not_not.mpr htaken), run_done]
    exact hc
  rw [if_neg htaken, if_pos htaken, List.replicate_succ, Run.run_cons]
  change _ = some (Run.run (Spending.step t _) ⟨.createKnights c (s.nextClanId c.nation), c⟩
    (List.replicate 2 .part)).ch.clansman
  rw [List.replicate_succ, Run.run_cons, step_createKnights]
  simp only [decide_eq_true_eq]
  by_cases hid : s.nextClanId c.nation ∈ s.rows.map KnightsRow.idNum
  · rw [if_pos hid, if_neg (not_not.mpr hid)]
    exact hc
  rw [if_neg hid, if_pos hid, List.replicate_succ, Run.run_cons, step_write]
  change Function.update s.sessions sid ((s.sessions sid).map _) sid = _
  rw [Function.update_self, hc]
  rfl

end Creation

end KoServer
