import KoServer.Lib.Run
import KoServer.Proofs.BagItems
import KoServer.Spec.Lottery

/-! Joins of the lottery, their parts in any order. There are always as many tickets as joins, and
never more than the limit. A request that ends has one ticket and has paid for it in full, or has
neither, where one slot pays for each item and the limit is not reached after the payment. -/

namespace KoServer

def goldPrice (reqItems : List (ℕ × ℕ)) : ℕ :=
  Tally.total (fun req => if req.1 = ITEM_GOLD then req.2 else 0) reqItems

def requiredUnits (id : ℕ) (reqItems : List (ℕ × ℕ)) : ℕ :=
  Tally.total (fun req => if id = req.1 ∧ id ≠ ITEM_GOLD then req.2 else 0) reqItems

structure PaidFor (reqItems : List (ℕ × ℕ)) (p p' : LotteryPlayer) : Prop where
  gold : p'.gold + goldPrice reqItems = p.gold
  items : ∀ id ≠ 0, Tally.total (stack id) p'.inventory + requiredUnits id reqItems =
    Tally.total (stack id) p.inventory

def LotteryProcess.tickets (process : LotteryProcess) : ℕ :=
  Tally.total LotteryUserInfo.ticketCount process.participants

structure TicketsCounted (process : LotteryProcess) : Prop where
  counted : process.tickets = process.userJoinCounter
  limited : process.userJoinCounter ≤ process.userLimit

/-- With each session goes its character as it was when its request began. -/
structure JoinWatch where
  world : LotteryWorld
  before : ℕ → Option LotteryPlayer

namespace JoinWatch

def start (s : LotteryWorld) : JoinWatch := ⟨s, fun _ => none⟩

def step (env : LotteryEnv) (w : JoinWatch) (sid : ℕ) : JoinWatch where
  world := w.world.join env sid
  before :=
    if w.world.idle sid then Function.update w.before sid (w.world.players sid) else w.before

end JoinWatch

/-- A request that goes on adds no ticket. One that ends has added one and taken exactly what it
costs, or has added none and taken nothing. -/
structure JoinSettled (env : LotteryEnv) (w : JoinWatch) (sid : ℕ) : Prop where
  underWay : (w.step env sid).world.idle sid = false →
    (w.step env sid).world.process.tickets = w.world.process.tickets
  ended : (w.step env sid).world.idle sid = true → ∀ p, (w.step env sid).before sid = some p →
    ∃ p', (w.step env sid).world.players sid = some p' ∧
      ((w.step env sid).world.process.tickets = w.world.process.tickets + 1 ∧
          PaidFor w.world.process.reqItems p p' ∨
        (w.step env sid).world.process.tickets = w.world.process.tickets ∧ p' = p)

def CostsNothing (reqItems : List (ℕ × ℕ)) : Prop := ∀ req ∈ reqItems, req.1 = 0 ∨ req.2 = 0

/-- The price is a `u32`, one slot pays for an item that is taken, and the limit is not reached
when there was something to pay. -/
def JoinStage.CanSettle (env : LotteryEnv) (process : LotteryProcess) (p : LotteryPlayer) :
    JoinStage → Prop
  | .goldLose reqItems => goldPrice reqItems < 2 ^ 32 ∨ p.gold < 2 ^ 32 - 1
  | .robItem (req :: _) =>
    skipsItem req = true ∨ req.2 < 2 ^ 16 ∧ OneSlotPays env.getItem p.inventory req.1 req.2
  | .register => process.userJoinCounter < process.userLimit ∨ CostsNothing process.reqItems
  | .snapshot | .checkExist _ _ | .robItem [] | .done _ => True

def CanSettle (env : LotteryEnv) (w : JoinWatch) (sid : ℕ) : Prop :=
  ∀ r ∈ w.world.requests sid, ∀ p ∈ w.world.players sid, r.stage.CanSettle env w.world.process p

instance (reqItems : List (ℕ × ℕ)) : Decidable (CostsNothing reqItems) := by
  unfold CostsNothing
  infer_instance

instance (env : LotteryEnv) (process : LotteryProcess) (p : LotteryPlayer) :
    (stage : JoinStage) → Decidable (stage.CanSettle env process p)
  | .goldLose _ => inferInstanceAs (Decidable (_ ∨ _))
  | .robItem (_ :: _) => inferInstanceAs (Decidable (_ ∨ _))
  | .register => inferInstanceAs (Decidable (_ ∨ _))
  | .snapshot | .checkExist _ _ | .robItem [] | .done _ => .isTrue trivial

instance (env : LotteryEnv) (w : JoinWatch) (sid : ℕ) : Decidable (CanSettle env w sid) := by
  unfold CanSettle
  infer_instance

variable {env : LotteryEnv} {w : JoinWatch} {s : LotteryWorld} {sid : ℕ} {r : JoinRequest}
  {p p' : LotteryPlayer} {reqItems paid left : List (ℕ × ℕ)} {req : ℕ × ℕ} {stage : JoinStage}

theorem total_addTicket (name : List Char) (participants : List LotteryUserInfo) :
    Tally.total LotteryUserInfo.ticketCount (addTicket name participants) =
      Tally.total LotteryUserInfo.ticketCount participants + 1 := by
  induction participants with
  | nil => rfl
  | cons u us ih =>
    unfold addTicket
    split_ifs
    · rw [Tally.total_cons, Tally.total_cons]
      dsimp only
      omega
    · rw [Tally.total_cons, Tally.total_cons, ih]
      omega

theorem tickets_register (process : LotteryProcess) (name : List Char) :
    (process.register name).tickets = process.tickets + 1 := total_addTicket name _

theorem totalGoldCost_eq (reqItems : List (ℕ × ℕ)) :
    totalGoldCost reqItems = min (goldPrice reqItems) (2 ^ 32 - 1) := by
  have hfold : ∀ total < 2 ^ 32, reqItems.foldl
      (fun total req => if req.1 = ITEM_GOLD ∧ 0 < req.2 then saturatingAdd32 total req.2
        else total) total = min (total + goldPrice reqItems) (2 ^ 32 - 1) := by
    unfold goldPrice
    induction reqItems with
    | nil =>
      intro total htotal
      rw [List.foldl_nil, Tally.total_nil]
      omega
    | cons req left ih =>
      intro total htotal
      rw [List.foldl_cons, Tally.total_cons]
      unfold saturatingAdd32 at ih ⊢
      rw [ih _ (by split_ifs <;> omega)]
      split_ifs <;> omega
  have h := hfold 0 (by decide)
  rwa [Nat.zero_add] at h

theorem goldPrice_free (h : CostsNothing reqItems) : goldPrice reqItems = 0 := by
  unfold goldPrice
  induction reqItems with
  | nil => rfl
  | cons req left ih =>
    obtain ⟨hreq, hleft⟩ := List.forall_mem_cons.mp h
    rw [Tally.total_cons, ih hleft]
    split_ifs with hgold
    · exact hreq.elim (fun h0 => absurd (hgold.symm.trans h0) (by decide)) id
    · rfl

theorem requiredUnits_append (id : ℕ) (req : ℕ × ℕ) :
    requiredUnits id (paid ++ [req]) =
      requiredUnits id paid + if id = req.1 ∧ id ≠ ITEM_GOLD then req.2 else 0 := by
  unfold requiredUnits
  rw [Tally.total_append, Tally.total_cons, Tally.total_nil, Nat.add_zero]

theorem requiredUnits_skip {id : ℕ} (hid : id ≠ 0) (h : skipsItem req = true) :
    requiredUnits id (paid ++ [req]) = requiredUnits id paid := by
  rw [requiredUnits_append]
  simp only [skipsItem, Bool.or_eq_true, decide_eq_true_eq] at h
  split_ifs with hsame
  · obtain ⟨rfl, hgold⟩ := hsame
    rcases h with (h | h) | h
    · exact absurd h hid
    · rw [h, Nat.add_zero]
    · exact absurd h hgold
  · rfl

/-- The price has been taken, and the units of the entries that were passed. -/
structure Charged (reqItems paid : List (ℕ × ℕ)) (p p' : LotteryPlayer) : Prop where
  gold : p'.gold + goldPrice reqItems = p.gold
  items : ∀ id ≠ 0, Tally.total (stack id) p'.inventory + requiredUnits id paid =
    Tally.total (stack id) p.inventory
  free : CostsNothing reqItems → p' = p

theorem Charged.price (h : goldLose p.gold (goldPrice reqItems) = some p'.gold)
    (hinv : p'.inventory = p.inventory) (hname : p'.name = p.name) :
    Charged reqItems [] p p' := by
  unfold goldLose at h
  split_ifs at h with hle
  have hgold : p.gold - goldPrice reqItems = p'.gold := Option.some.inj h
  refine ⟨by omega, fun id _ => by rw [hinv]; rfl, fun hfree => ?_⟩
  rw [goldPrice_free hfree, Nat.sub_zero] at hgold
  cases p
  cases p'
  congr
  exact hgold.symm

theorem Charged.skip (h : Charged reqItems paid p p') (hskip : skipsItem req = true) :
    Charged reqItems (paid ++ [req]) p p' :=
  ⟨h.gold, fun id hid => by rw [requiredUnits_skip hid hskip]; exact h.items id hid, h.free⟩

theorem Charged.robItem (h : Charged reqItems paid p p') (hreq : req ∈ reqItems)
    (hskip : skipsItem req = false) (hcount : req.2 < 2 ^ 16)
    (hpays : OneSlotPays env.getItem p'.inventory req.1 req.2) :
    Charged reqItems (paid ++ [req]) p { p' with
      inventory :=
        (robItem env.getItem p'.inventory req.1 (reqCount req)).getD p'.inventory } := by
  simp only [skipsItem, Bool.or_eq_false_iff, decide_eq_false_iff_not] at hskip
  obtain ⟨⟨hzero, hn⟩, hgold⟩ := hskip
  obtain ⟨inv', hrob, htaken⟩ := robItem_pays hn hpays
  have hreqCount : reqCount req = req.2 := by unfold reqCount; omega
  rw [hreqCount, hrob, Option.getD_some]
  refine ⟨h.gold, fun id hid => ?_, fun hfree => ?_⟩
  · have hitems := h.items id hid
    have hid' := htaken id hid
    rw [requiredUnits_append]
    dsimp only
    by_cases hsame : id = req.1
    · rw [if_pos hsame] at hid'
      rw [if_pos ⟨hsame, hsame ▸ hgold⟩]
      omega
    · rw [if_neg hsame] at hid'
      rw [if_neg fun h => hsame h.1]
      omega
  · exact ((hfree req hreq).elim hzero hn).elim

def OnTheWay (w : JoinWatch) (sid : ℕ) : Prop :=
  ∀ r, w.world.requests sid = some r →
    match r.stage with
    | .snapshot => w.before sid = w.world.players sid
    | .checkExist reqItems _ | .goldLose reqItems =>
      reqItems = w.world.process.reqItems ∧ w.before sid = w.world.players sid
    | .robItem left =>
      ∃ paid p p', w.world.process.reqItems = paid ++ left ∧ w.before sid = some p ∧
        w.world.players sid = some p' ∧ Charged w.world.process.reqItems paid p p'
    | .register =>
      ∃ p p', w.before sid = some p ∧ w.world.players sid = some p' ∧
        Charged w.world.process.reqItems w.world.process.reqItems p p'
    | .done _ => True

theorem requests_setStage (s : LotteryWorld) (sid : ℕ) (r : JoinRequest) (stage : JoinStage) :
    (s.setStage sid r stage).requests sid = some { r with stage := stage } := Function.update_self ..

theorem idle_setStage (s : LotteryWorld) (sid : ℕ) (r : JoinRequest) (stage : JoinStage) :
    (s.setStage sid r stage).idle sid = stage.isDone := by
  unfold LotteryWorld.idle
  rw [requests_setStage]
  rfl

theorem idle_eq_false (hr : s.requests sid = some r) (hstage : r.stage.isDone = false) :
    s.idle sid = false := by
  unfold LotteryWorld.idle
  rw [hr]
  exact hstage

theorem join_part (hr : s.requests sid = some r) (hp : s.players sid = some p)
    (hstage : r.stage.isDone = false) : s.join env sid = s.joinPart env sid r p := by
  unfold LotteryWorld.join
  rw [idle_eq_false hr hstage, hr, hp]
  rfl

theorem before_part (hr : w.world.requests sid = some r) (hstage : r.stage.isDone = false) :
    (w.step env sid).before = w.before := if_neg (by simp [idle_eq_false hr hstage])

/-- A part after which the request is not done: it has added no ticket. -/
theorem goesOn {s' : LotteryWorld} (hs' : (w.step env sid).world = s'.setStage sid r stage)
    (hprocess : s'.process = w.world.process) (hstage : stage.isDone = false) :
    JoinSettled env w sid := by
  have hidle : (w.step env sid).world.idle sid = false := by rw [hs', idle_setStage, hstage]
  refine ⟨fun _ => ?_, fun hend => absurd (hidle.symm.trans hend) (by decide)⟩
  rw [hs']
  exact congrArg LotteryProcess.tickets hprocess

/-- A request that ends early has taken nothing. -/
theorem endsEarly {reply : JoinReply} (hs' : (w.step env sid).world = w.world.setStage sid r (.done reply))
    (hbefore : (w.step env sid).before sid = w.world.players sid) : JoinSettled env w sid := by
  refine ⟨fun _ => by rw [hs']; rfl, fun _ p hp => ⟨p, ?_, Or.inr ⟨by rw [hs']; rfl, rfl⟩⟩⟩
  rw [hs']
  exact hbefore.symm.trans hp

theorem onTheWay_done {s' : LotteryWorld} {reply : JoinReply}
    (hs' : (w.step env sid).world = s'.setStage sid r (.done reply)) :
    OnTheWay (w.step env sid) sid := by
  intro r' hr'
  rw [hs', requests_setStage] at hr'
  obtain rfl := Option.some.inj hr'
  trivial

theorem step_begin (hidle : w.world.idle sid = true) :
    OnTheWay (w.step env sid) sid ∧ JoinSettled env w sid := by
  have hbefore : (w.step env sid).before sid = w.world.players sid := by
    unfold JoinWatch.step
    dsimp only
    rw [if_pos hidle, Function.update_self]
  have hworld : (w.step env sid).world = w.world.handleJoin env sid := if_pos hidle
  unfold LotteryWorld.handleJoin at hworld
  cases hp : w.world.players sid with
  | none =>
    rw [hp] at hworld hbefore
    dsimp only at hworld
    refine ⟨fun r hr => ?_, fun _ => by rw [hworld], fun _ p hp' => ?_⟩
    · rw [hworld] at hr
      unfold LotteryWorld.idle at hidle
      rw [hr, Option.all_some] at hidle
      cases hstage : r.stage <;> rw [hstage] at hidle <;> trivial
    · rw [hbefore] at hp'
      cases hp'
  | some ch =>
    rw [hp] at hworld
    dsimp only at hworld
    split_ifs at hworld
    · exact ⟨onTheWay_done hworld, endsEarly hworld hbefore⟩
    · exact ⟨onTheWay_done hworld, endsEarly hworld hbefore⟩
    · refine ⟨fun r hr => ?_, goesOn hworld rfl rfl⟩
      rw [hworld, requests_setStage] at hr
      obtain rfl := Option.some.inj hr
      rw [hworld]
      exact hbefore

theorem step_part (h : OnTheWay w sid) (hsettle : CanSettle env w sid)
    (hr : w.world.requests sid = some r) (hp : w.world.players sid = some p)
    (hdone : r.stage.isDone = false) : OnTheWay (w.step env sid) sid ∧ JoinSettled env w sid := by
  have hbefore : (w.step env sid).before sid = w.before sid := by rw [before_part hr hdone]
  have hworld : (w.step env sid).world = w.world.joinPart env sid r p := join_part hr hp hdone
  have hway := h r hr
  have hsettle : r.stage.CanSettle env w.world.process p := hsettle r hr p hp
  unfold LotteryWorld.joinPart at hworld
  have hgoes : ∀ {s' : LotteryWorld} {stage : JoinStage},
      (w.step env sid).world = s'.setStage sid r stage → ∀ r',
      (w.step env sid).world.requests sid = some r' → r' = { r with stage := stage } := by
    intro s' stage hs' r' hr'
    rw [hs', requests_setStage] at hr'
    exact (Option.some.inj hr').symm
  cases hstage : r.stage with
  | snapshot =>
    rw [hstage] at hworld hway
    dsimp only at hworld hway
    refine ⟨fun r' hr' => ?_, goesOn hworld rfl rfl⟩
    rw [hgoes hworld r' hr', hworld]
    exact ⟨rfl, hbefore.trans hway⟩
  | checkExist reqItems left =>
    rw [hstage] at hworld hway
    dsimp only at hway
    obtain ⟨hitems, hsame⟩ := hway
    cases left with
    | nil =>
      dsimp only at hworld
      refine ⟨fun r' hr' => ?_, goesOn hworld rfl rfl⟩
      rw [hgoes hworld r' hr', hworld]
      exact ⟨hitems, hbefore.trans hsame⟩
    | cons req left =>
      dsimp only at hworld
      split_ifs at hworld
      · refine ⟨fun r' hr' => ?_, goesOn hworld rfl rfl⟩
        rw [hgoes hworld r' hr', hworld]
        exact ⟨hitems, hbefore.trans hsame⟩
      · exact ⟨onTheWay_done hworld, endsEarly hworld (hbefore.trans hsame)⟩
  | goldLose reqItems =>
    rw [hstage] at hworld hway hsettle
    dsimp only at hworld hway
    unfold JoinStage.CanSettle at hsettle
    obtain ⟨rfl, hsame⟩ := hway
    have hcost := totalGoldCost_eq w.world.process.reqItems
    have hstart := (hbefore.trans hsame).trans hp
    split_ifs at hworld with hzero
    · cases hlose : goldLose p.gold (totalGoldCost w.world.process.reqItems) with
      | none =>
        rw [hlose] at hworld
        exact ⟨onTheWay_done hworld, endsEarly hworld (hbefore.trans hsame)⟩
      | some gold =>
        rw [hlose] at hworld
        dsimp only at hworld
        -- a price past the `u32` is more than the character has
        have hexact : totalGoldCost w.world.process.reqItems = goldPrice w.world.process.reqItems := by
          unfold goldLose at hlose
          split_ifs at hlose with hle
          omega
        refine ⟨fun r' hr' => ?_, goesOn hworld rfl rfl⟩
        rw [hgoes hworld r' hr', hworld]
        exact ⟨[], p, { p with gold := gold }, rfl, hstart, Function.update_self ..,
          .price (hexact ▸ hlose) rfl rfl⟩
    · refine ⟨fun r' hr' => ?_, goesOn hworld rfl rfl⟩
      rw [hgoes hworld r' hr', hworld]
      have hfree : goldPrice w.world.process.reqItems = 0 := by omega
      have hlose : goldLose p.gold (goldPrice w.world.process.reqItems) = some p.gold := by
        rw [hfree]
        exact if_pos (Nat.zero_le _)
      exact ⟨[], p, p, rfl, hstart, hp, .price hlose rfl rfl⟩
  | robItem left =>
    rw [hstage] at hworld hway hsettle
    dsimp only at hway
    obtain ⟨paid, p₀, p', hitems, hstart, hp', hcharged⟩ := hway
    obtain rfl := Option.some.inj (hp.symm.trans hp')
    cases left with
    | nil =>
      dsimp only at hworld
      rw [List.append_nil] at hitems
      refine ⟨fun r' hr' => ?_, goesOn hworld rfl rfl⟩
      rw [hgoes hworld r' hr', hworld]
      exact ⟨p₀, p, hbefore.trans hstart, hp, by rwa [← hitems] at hcharged⟩
    | cons req left =>
      dsimp only at hworld
      unfold JoinStage.CanSettle at hsettle
      have hitems' : w.world.process.reqItems = (paid ++ [req]) ++ left := by
        rw [hitems, List.append_assoc, List.singleton_append]
      split_ifs at hworld with hskip
      · refine ⟨fun r' hr' => ?_, goesOn hworld rfl rfl⟩
        rw [hgoes hworld r' hr', hworld]
        exact ⟨_, p₀, p, hitems', hbefore.trans hstart, hp, hcharged.skip hskip⟩
      · obtain ⟨hcount, hpays⟩ := hsettle.resolve_left hskip
        refine ⟨fun r' hr' => ?_, goesOn hworld rfl rfl⟩
        rw [hgoes hworld r' hr', hworld]
        refine ⟨_, p₀, _, hitems', hbefore.trans hstart, Function.update_self .., ?_⟩
        exact hcharged.robItem (by simp [hitems]) (by simpa using hskip) hcount hpays
  | register =>
    rw [hstage] at hworld hway hsettle
    dsimp only at hworld hway
    unfold JoinStage.CanSettle at hsettle
    obtain ⟨p₀, p', hstart, hp', hcharged⟩ := hway
    split_ifs at hworld with hfull
    · have hfree := hcharged.free (hsettle.resolve_left (Nat.not_lt.mpr hfull))
      refine ⟨onTheWay_done hworld, endsEarly hworld ?_⟩
      rw [hbefore, hstart, hp', hfree]
    · refine ⟨onTheWay_done hworld, fun hidle => ?_, fun _ q hq => ?_⟩
      · rw [hworld, idle_setStage] at hidle
        cases hidle
      · rw [hbefore, hstart] at hq
        obtain rfl := Option.some.inj hq
        rw [hworld]
        exact ⟨p', hp', Or.inl ⟨tickets_register .., hcharged.gold, hcharged.items⟩⟩
  | done reply =>
    rw [hstage] at hdone
    cases hdone

theorem step_self (h : OnTheWay w sid) (hsettle : CanSettle env w sid) :
    OnTheWay (w.step env sid) sid ∧ JoinSettled env w sid := by
  cases hidle : w.world.idle sid with
  | true => exact step_begin hidle
  | false =>
    cases hr : w.world.requests sid with
    | none =>
      unfold LotteryWorld.idle at hidle
      rw [hr] at hidle
      cases hidle
    | some r =>
      have hdone : r.stage.isDone = false := by
        unfold LotteryWorld.idle at hidle
        rwa [hr] at hidle
      cases hp : w.world.players sid with
      | some p => exact step_part h hsettle hr hp hdone
      | none =>
        have hworld : (w.step env sid).world = w.world := by
          change w.world.join env sid = w.world
          unfold LotteryWorld.join
          rw [hidle, hr, hp]
          rfl
        have hbefore : (w.step env sid).before = w.before := before_part hr hdone
        refine ⟨?_, fun _ => by rw [hworld], fun hend => ?_⟩
        · unfold OnTheWay
          rw [hworld, hbefore]
          exact h
        · rw [hworld, hidle] at hend
          cases hend

/-- What a part leaves alone. -/
structure Apart (s s' : LotteryWorld) (sid : ℕ) : Prop where
  requests : ∀ i, i ≠ sid → s'.requests i = s.requests i
  players : ∀ i, i ≠ sid → s'.players i = s.players i
  process : s'.process = s.process ∨ s.process.userJoinCounter < s.process.userLimit ∧
    ∃ name, s'.process = s.process.register name

theorem Apart.setStage {s s' : LotteryWorld} (h : Apart s s' sid) :
    Apart s (s'.setStage sid r stage) sid :=
  ⟨fun i hi => (Function.update_of_ne hi ..).trans (h.requests i hi), h.players, h.process⟩

theorem Apart.refl (s : LotteryWorld) : Apart s s sid :=
  ⟨fun _ _ => rfl, fun _ _ => rfl, Or.inl rfl⟩

theorem apart_setPlayer (s : LotteryWorld) (p : LotteryPlayer) : Apart s (s.setPlayer sid p) sid :=
  ⟨fun _ _ => rfl, fun _ hi => Function.update_of_ne hi .., Or.inl rfl⟩

theorem apart_join (env : LotteryEnv) (s : LotteryWorld) (sid : ℕ) :
    Apart s (s.join env sid) sid := by
  have hself : Apart s s sid := Apart.refl s
  unfold LotteryWorld.join
  split
  · unfold LotteryWorld.handleJoin
    split
    · exact hself
    · exact hself.setStage
  split
  · rename_i r p _ _
    unfold LotteryWorld.joinPart
    split
    · exact hself.setStage
    · exact hself.setStage
    · exact hself.setStage
    · split
      · split
        · exact hself.setStage
        · exact (apart_setPlayer s _).setStage
      · exact hself.setStage
    · exact hself.setStage
    · split
      · exact hself.setStage
      · exact (apart_setPlayer s _).setStage
    · split
      next => exact hself.setStage
      next hfree =>
        exact Apart.setStage ⟨fun _ _ => rfl, fun _ _ => rfl,
          Or.inr ⟨Nat.lt_of_not_le hfree, r.charName, rfl⟩⟩
    · exact hself
  · exact hself

theorem reqItems_join (env : LotteryEnv) (s : LotteryWorld) (sid : ℕ) :
    (s.join env sid).process.reqItems = s.process.reqItems := by
  obtain h | ⟨-, name, h⟩ := (apart_join env s sid).process <;> rw [h]
  rfl

theorem onTheWay_other {i : ℕ} (h : OnTheWay w i) (hi : i ≠ sid) :
    OnTheWay (w.step env sid) i := by
  have hapart := apart_join env w.world sid
  have hbefore : (w.step env sid).before i = w.before i := by
    unfold JoinWatch.step
    dsimp only
    split
    · exact Function.update_of_ne hi ..
    · rfl
  unfold OnTheWay
  rw [hbefore, show (w.step env sid).world = w.world.join env sid from rfl, hapart.requests i hi,
    hapart.players i hi, reqItems_join]
  exact h

theorem ticketsCounted_join (h : TicketsCounted s.process) (env : LotteryEnv) (sid : ℕ) :
    TicketsCounted (s.join env sid).process := by
  obtain heq | ⟨hlimit, name, heq⟩ := (apart_join env s sid).process <;> rw [heq]
  · exact h
  · exact ⟨(tickets_register ..).trans (congrArg (· + 1) h.counted), hlimit⟩

/-- No request is under way. -/
structure LotteryWorld.Opened (s : LotteryWorld) : Prop where
  idle : ∀ sid, s.idle sid = true
  counted : TicketsCounted s.process

theorem onTheWay_of_idle (h : w.world.idle sid = true) : OnTheWay w sid := by
  intro r hr
  unfold LotteryWorld.idle at h
  rw [hr, Option.all_some] at h
  cases hstage : r.stage <;> rw [hstage] at h <;> trivial

/-- In every order of their parts the requests make as many tickets as joins, within the limit; and
each is settled where the price is a `u32`, one slot pays for each item and the limit is not reached
after a payment. -/
theorem lotteryExact_run {s : LotteryWorld} (hs : s.Opened) (env : LotteryEnv) (steps : List ℕ) :
    TicketsCounted (Run.run (JoinWatch.step env) (.start s) steps).world.process ∧
      (Run.Along (JoinWatch.step env) (CanSettle env) (.start s) steps →
        Run.Along (JoinWatch.step env) (JoinSettled env) (.start s) steps) := by
  refine ⟨?_, fun hsettle => ?_⟩
  · exact Run.invariant (fun w : JoinWatch => TicketsCounted w.world.process)
      (fun w sid hw _ => ticketsCounted_join hw env sid) (Run.along_true _ _) hs.counted
  · refine Run.along_of_invariant (fun w => ∀ i, OnTheWay w i) (fun w sid hw hsid => ?_) hsettle
      fun i => onTheWay_of_idle (hs.idle i)
    obtain ⟨hway, hsettled⟩ := step_self (hw sid) hsid
    refine ⟨fun i => ?_, hsettled⟩
    by_cases hi : i = sid
    · rwa [hi]
    · exact onTheWay_other (hw i) hi

def potionLottery : LotteryEnv where
  getItem := fun id => if id = 389010000 then some { countable := some 1 } else none
  toUppercase := id

/-- A ticket is 5 potions and 100 gold; the character of session 1 has `bag`. -/
def ticketSale (bag : List UserItemSlot) : LotteryWorld where
  process := ⟨true, [(389010000, 5), (ITEM_GOLD, 100)], 10, 0, []⟩
  players := fun sid =>
    if sid = 1 then some ⟨['A'], Inventory.padded (List.replicate SLOT_MAX {} ++ bag), 300⟩ else none
  requests := fun _ => none

/-- A stack of 8. -/
theorem lotteryExact_ticketSale :
    let w := Run.run (JoinWatch.step potionLottery)
      (.start (ticketSale [{ itemId := 389010000, count := 8 }])) (List.replicate 10 1)
    TicketsCounted w.world.process ∧
      Run.Along (JoinWatch.step potionLottery) (JoinSettled potionLottery)
        (.start (ticketSale [{ itemId := 389010000, count := 8 }])) (List.replicate 10 1) := by
  have h := lotteryExact_run (s := ticketSale [{ itemId := 389010000, count := 8 }])
    ⟨fun _ => rfl, rfl, Nat.zero_le _⟩ potionLottery (List.replicate 10 1)
  exact ⟨h.1, h.2 (by decide +kernel)⟩

/-- Stacks of 3 and 2: the ticket is had for the gold alone. -/
theorem not_lotteryExact_ticketSale :
    (ticketSale [{ itemId := 389010000, count := 3 },
        { itemId := 389010000, count := 2 }]).Opened ∧
      ¬ Run.Along (JoinWatch.step potionLottery) (JoinSettled potionLottery)
        (.start (ticketSale [{ itemId := 389010000, count := 3 },
          { itemId := 389010000, count := 2 }])) (List.replicate 9 1 ++ [1]) := by
  refine ⟨⟨fun _ => rfl, rfl, Nat.zero_le _⟩, fun h => ?_⟩
  obtain ⟨-, hlast, -⟩ := Run.along_append.mp h
  obtain ⟨p', hp', hpaid⟩ := hlast.ended (by decide +kernel) _ rfl
  rcases hpaid with ⟨-, hpaid⟩ | ⟨htickets, -⟩
  · have hpotions := hpaid.items 389010000 (by decide)
    obtain rfl := Option.some.inj hp'
    exact absurd hpotions (by decide +kernel)
  · exact absurd htickets (by decide +kernel)

end KoServer
