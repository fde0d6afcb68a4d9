import KoServer.Proofs.TradeStates
import KoServer.Spec.TradeSteps

/-! The trade's execution against the partner's cancel. Undisturbed, the steps of a handler do
what the handler does at once; in between each other they move the same offers when both have
read the same list. -/

namespace KoServer

open Interleave Ledger TradeProg

section Solo

variable {table : ItemTable} {env : TradeEnv} {w : World} {sid p : SessionId}

@[simp] theorem solo_read {α : Type} (f : World → α) (next : α → TradeProg) :
    (read f next).solo w = (next (f w)).solo w := rfl

@[simp] theorem solo_write (act : World → World) (next : TradeProg) :
    (write act next).solo w = next.solo (act w) := rfl

@[simp] theorem solo_checkUser (owner : SessionId) (next : Option SessionId → TradeProg) :
    (checkUser owner next).solo w = (next (w.exchangeUser owner)).solo w := rfl

@[simp] theorem solo_takeItems (purpose : Purpose) (owner : SessionId)
    (next : List ExchangeItem → TradeProg) :
    (takeItems purpose owner next).solo w = (next (w.exchangeItems owner)).solo w := rfl

@[simp] theorem solo_moveItem (purpose : Purpose) (owner : SessionId) (index : ℕ)
    (act : World → World) (next : TradeProg) :
    (moveItem purpose owner index act next).solo w = next.solo (act w) := rfl

theorem modify_id (f : Session → Session) (h : ∀ s, f s = s) : w.modify sid f = w := by
  funext s
  unfold World.modify
  split_ifs
  · have hf : f = id := funext h
    rw [hf, Option.map_id_fun, id]
  · rfl

/-- Offer by offer is the whole list at once. -/
theorem modify_foldl (f : Session → ExchangeItem → Session) (ex : ExchangeItem)
    (items : List ExchangeItem) : (w.modify sid (f · ex)).modify sid (items.foldl f ·) =
      w.modify sid ((ex :: items).foldl f ·) := modify_twice

theorem solo_giveBackSteps (next : TradeProg) (index : ℕ) (items : List ExchangeItem) :
    (giveBackSteps sid next index items).solo w =
      next.solo (w.modify sid (items.foldl Session.giveItemBack ·)) := by
  induction items generalizing w index with
  | nil => exact congrArg next.solo (modify_id _ fun _ => rfl).symm
  | cons ex items ih =>
    unfold giveBackSteps
    rw [solo_moveItem, ih, modify_foldl]

theorem solo_giveItemsBackSteps (next : TradeProg) :
    (giveItemsBackSteps sid next).solo w = next.solo (w.giveItemsBack sid) := by
  unfold giveItemsBackSteps
  rw [solo_takeItems, solo_giveBackSteps]
  congr 1
  unfold World.giveItemsBack World.exchangeItems World.session
  funext s
  unfold World.modify
  split_ifs with hs
  · subst hs
    cases w s <;> rfl
  · rfl

theorem solo_cancelSteps : (cancelSteps sid).solo w = exchangeCancel w sid := by
  unfold cancelSteps exchangeCancel
  rw [solo_read]
  split_ifs
  · rfl
  · rw [solo_read, solo_giveItemsBackSteps, solo_write]
    dsimp only
    cases w.exchangeUser sid with
    | none => rfl
    | some pid =>
      dsimp only
      rw [solo_read]
      split_ifs
      · rw [solo_giveItemsBackSteps, solo_write, Prog.solo_done]
      · rfl

theorem solo_checkItemsSteps (next : Bool → TradeProg) (items : List ExchangeItem) :
    (checkItemsSteps table sid next items).solo w =
      (next (items.all fun ex =>
        if ex.itemId = ITEM_GOLD then (w.session sid).gold + ex.count ≤ COIN_MAX
        else (table ex.itemId).isSome)).solo w := by
  induction items with
  | nil => rfl
  | cons ex items ih =>
    unfold checkItemsSteps
    rw [List.all_cons]
    by_cases hgold : ex.itemId = ITEM_GOLD
    · simp only [hgold, if_true, solo_read]
      split_ifs with hfits
      · rw [ih]
        simp [hfits]
      · simp [hfits]
    · simp only [hgold, if_false]
      split_ifs with hknown
      · rw [ih, hknown, Bool.true_and]
      · rw [Bool.not_eq_true] at hknown
        rw [hknown, Bool.false_and]

theorem solo_checkExchangeSteps (next : Bool → TradeProg) :
    (checkExchangeSteps table env sid next).solo w =
      (next (checkExchange table env w sid)).solo w := by
  unfold checkExchangeSteps checkExchange
  rw [solo_read]
  cases huser : w.exchangeUser sid with
  | none => rfl
  | some partner =>
    have htrading : w.isTrading sid = true := by rw [World.isTrading, huser]; rfl
    dsimp only
    split_ifs with hdead
    · simp [hdead]
    · rw [solo_read, htrading]
      simp only [Bool.not_true, Bool.false_eq_true, if_false, solo_read, solo_checkItemsSteps]
      simp [hdead]

theorem solo_placeableSteps_cons (next : Bool → TradeProg) (ex : ExchangeItem)
    (items : List ExchangeItem) :
    (placeableSteps table sid p next (ex :: items)).solo w =
      if ex.itemId = ITEM_GOLD ∨ placeable table w sid p ex = true then
        (placeableSteps table sid p next items).solo w
      else (next false).solo w := by
  rw [placeableSteps]
  by_cases hgold : ex.itemId = ITEM_GOLD
  · rw [if_pos hgold, if_pos (Or.inl hgold)]
  rw [if_neg hgold]
  simp only [hgold, false_or]
  unfold placeable
  cases table ex.itemId with
  | none => simp
  | some itemDef =>
    dsimp only
    rw [solo_read]
    cases findSlotForItem table (w.session sid).inventory ex.itemId (asU16 ex.count) with
    | none => simp
    | some dstSlot =>
      dsimp only
      by_cases hslot : SLOT_MAX + HAVE_MAX ≤ dstSlot
      · rw [if_pos hslot]
        simp [not_lt.mpr hslot]
      · rw [if_neg hslot, solo_read]
        cases (w.session p).inventory[ex.srcPos]? with
        | none => simp
        | some src =>
          dsimp only
          by_cases hsrc : src.itemId = ex.itemId
          · rw [if_neg (not_not.mpr hsrc), solo_read]
            simp only [hsrc, not_le.mp hslot, decide_true, Bool.true_and]
            split_ifs <;> simp_all
            tauto
          · rw [if_pos hsrc]
            simp [hsrc]

theorem solo_placeableSteps (next : Bool → TradeProg) (items : List ExchangeItem) :
    (placeableSteps table sid p next items).solo w =
      (next (items.all fun ex => ex.itemId = ITEM_GOLD || placeable table w sid p ex)).solo w := by
  induction items with
  | nil => rfl
  | cons ex items ih =>
    rw [solo_placeableSteps_cons, List.all_cons, ih]
    split_ifs with hex
    · have hone : (decide (ex.itemId = ITEM_GOLD) || placeable table w sid p ex) = true := by
        simpa using hex
      rw [hone, Bool.true_and]
    · have hone : (decide (ex.itemId = ITEM_GOLD) || placeable table w sid p ex) = false := by
        simpa using hex
      rw [hone, Bool.false_and]

theorem solo_checkExecuteSteps (next : Bool → TradeProg) :
    (checkExecuteSteps table env sid next).solo w =
      (next (checkExecuteExchange table env w sid)).solo w := by
  unfold checkExecuteSteps checkExecuteExchange
  rw [solo_read]
  by_cases hstate : w.tradeState sid = .deciding
  · rw [if_neg (not_not.mpr hstate), solo_read]
    cases huser : w.exchangeUser sid with
    | none =>
      have htrading : w.isTrading sid = false := by rw [World.isTrading, huser]; rfl
      simp [htrading]
    | some partner =>
      have htrading : w.isTrading sid = true := by rw [World.isTrading, huser]; rfl
      rw [htrading]
      cases hoccupied : env.occupied sid with
      | true => simp
      | false =>
        simp only [Bool.not_true, Bool.or_self, Bool.false_eq_true, if_false, solo_read, solo_checkUser, huser]
        split_ifs with hbroken
        · have hfalse : (decide (w.exchangeUser partner = some sid) && env.sameZone partner sid &&
              !env.occupied partner && !env.foreign sid partner) = false := by
            rw [Bool.eq_false_iff]
            intro hall
            simp only [Bool.and_eq_true, Bool.not_eq_true', decide_eq_true_eq] at hall
            simp [hall] at hbroken
          simp [hstate, hfalse]
        · rw [solo_read, solo_placeableSteps]
          simp_all
  · rw [if_pos hstate]
    simp [hstate]

theorem modify_congr {f g : Session → Session} (h : ∀ s, w sid = some s → f s = g s) :
    w.modify sid f = w.modify sid g := by
  funext s
  unfold World.modify
  split_ifs with hs
  · subst hs
    cases hw : w s with
    | none => rfl
    | some s' => exact congrArg some (h s' hw)
  · rfl

theorem solo_deliverSteps (next : TradeProg) (index : ℕ) (items : List ExchangeItem) :
    (deliverSteps table sid p next index items).solo w =
      next.solo (w.modify sid (items.foldl (Session.receiveItem table) ·)) := by
  induction items generalizing w index with
  | nil => exact congrArg next.solo (modify_id _ fun _ => rfl).symm
  | cons ex items ih =>
    unfold deliverSteps
    rw [← modify_foldl]
    by_cases hgold : ex.itemId = ITEM_GOLD
    · have hone : w.modify sid (Session.goldGain · ex.count) =
          w.modify sid (Session.receiveItem table · ex) :=
        modify_congr fun h _ => (if_pos hgold).symm
      rw [if_pos hgold, solo_moveItem, ih, hone]
    · rw [if_neg hgold, solo_read]
      cases hfound : findSlotForItem table (w.session sid).inventory ex.itemId (asU16 ex.count) with
      | none =>
        have hone : w.modify sid (Session.receiveItem table · ex) = w :=
          calc w.modify sid (Session.receiveItem table · ex)
            _ = w.modify sid fun h => h := modify_congr fun h hh => by
              rw [session_eq hh] at hfound
              simp only [Session.receiveItem, if_neg hgold, hfound]
            _ = w := modify_id _ fun _ => rfl
        rw [ih, hone]
      | some slot =>
        have hone : w.modify sid (Session.receiveItem table · ex) =
            w.modify sid fun h => { h with inventory := placeItem table h.inventory slot ex } :=
          modify_congr fun h hh => by
            rw [session_eq hh] at hfound
            simp only [Session.receiveItem, if_neg hgold, hfound]
        rw [solo_moveItem, ih, hone]

theorem solo_clearSteps (next : TradeProg) (items : List ExchangeItem) :
    (clearSteps sid next items).solo w =
      next.solo (w.modify sid (items.foldl Session.clearSource ·)) := by
  induction items generalizing w with
  | nil => exact congrArg next.solo (modify_id _ fun _ => rfl).symm
  | cons ex items ih =>
    unfold clearSteps
    rw [← modify_foldl]
    split_ifs with hgold
    · have hsame : w.modify sid (Session.clearSource · ex) = w :=
        modify_id _ fun h => if_pos hgold
      rw [ih, hsame]
    · rw [solo_write, ih]

theorem solo_failSteps : (failSteps sid p).solo w =
    (((w.giveItemsBack sid).giveItemsBack p).resetTrade sid).resetTrade p := by
  unfold failSteps
  rw [solo_giveItemsBackSteps, solo_giveItemsBackSteps, solo_write, solo_write, Prog.solo_done]

theorem solo_executeSteps :
    (executeSteps table sid p).solo w = executeExchange table w sid p := by
  unfold executeSteps executeExchange
  rw [solo_takeItems, solo_takeItems, solo_deliverSteps, solo_deliverSteps, solo_clearSteps,
    solo_clearSteps, solo_write, solo_write, Prog.solo_done]

theorem solo_decideChecks : (decideChecks table env sid p).solo w =
    if checkExchange table env w sid && checkExchange table env w p &&
        checkExecuteExchange table env w sid && checkExecuteExchange table env w p then
      executeExchange table w sid p
    else (((w.giveItemsBack sid).giveItemsBack p).resetTrade sid).resetTrade p := by
  unfold decideChecks
  rw [solo_checkExchangeSteps]
  cases checkExchange table env w sid with
  | false => exact solo_failSteps
  | true =>
    rw [if_neg (by decide), solo_checkExchangeSteps]
    cases checkExchange table env w p with
    | false => exact solo_failSteps
    | true =>
      rw [if_neg (by decide), solo_checkExecuteSteps]
      cases checkExecuteExchange table env w sid with
      | false => exact solo_failSteps
      | true =>
        rw [if_neg (by decide), solo_checkExecuteSteps]
        cases checkExecuteExchange table env w p with
        | false => exact solo_failSteps
        | true => exact solo_executeSteps

theorem solo_decideSteps : (decideSteps table env sid).solo w = exchangeDecide table env w sid := by
  unfold decideSteps exchangeDecide decideVerdict
  rw [solo_read]
  split_ifs with hstate
  · rfl
  · rw [solo_read]
    cases w.exchangeUser sid with
    | none => rfl
    | some partner =>
      dsimp only
      rw [solo_read]
      split_ifs with hbroken hidle hwait
      · rfl
      · rw [solo_read, if_pos hidle]
        rfl
      · rw [solo_read, if_neg hidle, if_pos hwait]
        rfl
      all_goals
        rw [solo_read, if_neg hidle, if_neg hwait, solo_write, solo_decideChecks]
        simp_all

end Solo

inductive TradeHandler where
  | decide
  | cancel
  deriving DecidableEq

/-- `exchange_decide` of one player beside `exchange_cancel` of another. -/
def decideBesideCancel (table : ItemTable) (env : TradeEnv) (decider canceller : SessionId)
    (w : World) : System TradeHandler World TradeLabel :=
  System.start (fun
    | .decide => decideSteps table env decider
    | .cancel => cancelSteps canceller) w

/-- The decide asks for the canceller's partner, and there is one. -/
def GoesAhead (canceller : SessionId) : TradeHandler × TradeLabel → Prop
  | (.decide, .check owner (some _)) => owner = canceller
  | _ => False

/-- The cancel reads the list of a player whose trade is not over. -/
def CallsOff : TradeHandler × TradeLabel → Prop
  | (.cancel, .take .giveBack _ state) => state ≠ .none
  | _ => False

instance (canceller : SessionId) (e : TradeHandler × TradeLabel) :
    Decidable (GoesAhead canceller e) := by
  unfold GoesAhead
  split <;> infer_instance

instance (e : TradeHandler × TradeLabel) : Decidable (CallsOff e) := by
  unfold CallsOff
  split <;> infer_instance

theorem not_callsOff_of_goesAhead (canceller : SessionId) :
    ∀ e, GoesAhead canceller e → ¬ CallsOff e
  | (.decide, .check _ (some _)), _ => id

def TradeLabel.moves : TradeLabel → Option Purpose
  | .move purpose _ _ => some purpose
  | _ => none

def TradeHandler.rule (canceller : SessionId) :
    TradeHandler → List TradeLabel → TradeLabel → Prop
  | .decide, past, .move .deliver _ _ =>
    (∀ l ∈ past, l.moves ≠ some .giveBack) ∧ ∃ l ∈ past, GoesAhead canceller (.decide, l)
  | .decide, past, .move .giveBack _ _ => ∀ l ∈ past, l.moves ≠ some .deliver
  | .cancel, _, .move .deliver _ _ => False
  | .cancel, past, .move .giveBack _ _ => ∃ l ∈ past, CallsOff (.cancel, l)
  | _, _, _ => True

structure TradingWith (decider canceller : SessionId) (w : World) : Prop where
  offers : ∀ s, w.tradeState s = .none → w.exchangeItems s = []
  partner : ∀ p, w.exchangeUser decider = some p → p = canceller

/-- A kind of past, whatever is done short of moving offers. -/
structure Steady (rule : List TradeLabel → TradeLabel → Prop) (P : List TradeLabel → Prop) :
    Prop where
  allowed : ∀ past l, l.moves = none → rule past l
  kept : ∀ past l, l.moves = none → P past → P (l :: past)

section Rules

variable {table : ItemTable} {env : TradeEnv} {decider canceller sid p owner : SessionId} {w : World}
  {rule : List TradeLabel → TradeLabel → Prop} {P : List TradeLabel → Prop} {purpose : Purpose}
  {l : TradeLabel}

theorem session_modify (w : World) (sid s : SessionId) (f : Session → Session) :
    (w.modify sid f).session s = w.session s ∨ (w.modify sid f).session s = f (w.session s) := by
  rcases eq_or_ne s sid with rfl | hne
  · cases hh : w s with
    | none =>
      left
      simp [World.session, World.modify, hh]
    | some h =>
      right
      rw [session_eq (modify_self hh), session_eq hh]
  · left
    rw [World.session, modify_other hne, World.session]

theorem TradingWith.modify (hw : TradingWith decider canceller w) {f : Session → Session}
    (hoffers : ∀ h, (f h).tradeState = .none →
      (f h).exchangeItems = [] ∨ h.tradeState = .none ∧ (f h).exchangeItems = h.exchangeItems)
    (hpartner : ∀ h, (f h).exchangeUser = none ∨ (f h).exchangeUser = h.exchangeUser) :
    TradingWith decider canceller (w.modify sid f) := by
  refine ⟨fun s hnone => ?_, fun q hq => ?_⟩
  · unfold World.tradeState at hnone
    unfold World.exchangeItems
    rcases session_modify w sid s f with hsame | hchanged
    · rw [hsame] at hnone ⊢
      exact hw.offers s hnone
    · rw [hchanged] at hnone ⊢
      rcases hoffers _ hnone with hempty | ⟨hnone', hkept⟩
      · exact hempty
      · exact hkept.trans (hw.offers s hnone')
  · unfold World.exchangeUser at hq
    rcases session_modify w sid decider f with hsame | hchanged
    · rw [hsame] at hq
      exact hw.partner q hq
    · rw [hchanged] at hq
      rcases hpartner (w.session decider) with hnone | hkept
      · exact absurd (hq.symm.trans hnone) (Option.some_ne_none q)
      · exact hw.partner q (hkept.symm.trans hq)

theorem TradingWith.resetTrade (hw : TradingWith decider canceller w) :
    TradingWith decider canceller (w.resetTrade sid) :=
  hw.modify (fun _ _ => .inl rfl) fun _ => .inl rfl

/-- What touches the bag and the gold only. -/
theorem TradingWith.holdings (hw : TradingWith decider canceller w) {f : Session → Session}
    (hstate : ∀ h, (f h).tradeState = h.tradeState) (hitems : ∀ h, (f h).exchangeItems = h.exchangeItems)
    (huser : ∀ h, (f h).exchangeUser = h.exchangeUser) : TradingWith decider canceller (w.modify sid f) :=
  hw.modify (fun h hnone => .inr ⟨(hstate h).symm.trans hnone, hitems h⟩) fun h => .inr (huser h)

theorem Steady.and_done (hs : Steady rule P) (D : TradeLabel → Prop) :
    Steady rule fun past => P past ∧ ∃ l ∈ past, D l where
  allowed := hs.allowed
  kept past l' hl' h := by
    obtain ⟨hpast, l, hl, hd⟩ := h
    exact ⟨hs.kept past l' hl' hpast, l, List.mem_cons_of_mem _ hl, hd⟩

theorem from_read {α : Type} {f : World → α} {next : α → TradeProg} (hs : Steady rule P)
    (h : ∀ w, TradingWith decider canceller w →
      (next (f w)).ObeysFrom (TradingWith decider canceller) rule P) :
    (read f next).ObeysFrom (TradingWith decider canceller) rule P :=
  fun past hpast w hw =>
    ⟨hw, hs.allowed past .other rfl, h w hw _ (hs.kept past .other rfl hpast)⟩

theorem from_write {act : World → World} {next : TradeProg} (hs : Steady rule P)
    (hact : ∀ w, TradingWith decider canceller w → TradingWith decider canceller (act w))
    (h : next.ObeysFrom (TradingWith decider canceller) rule P) :
    (write act next).ObeysFrom (TradingWith decider canceller) rule P :=
  fun past hpast w hw =>
    ⟨hact w hw, hs.allowed past .other rfl, h _ (hs.kept past .other rfl hpast)⟩

theorem from_checkUser {next : Option SessionId → TradeProg} (hs : Steady rule P)
    (h : ∀ user, (next user).ObeysFrom (TradingWith decider canceller) rule
      fun past => P past ∧ .check owner user ∈ past) :
    (checkUser owner next).ObeysFrom (TradingWith decider canceller) rule P :=
  fun past hpast _ hw => ⟨hw, hs.allowed past _ rfl,
    h _ _ ⟨hs.kept past _ rfl hpast, List.mem_cons_self⟩⟩

theorem from_takeItems {next : List ExchangeItem → TradeProg} (hs : Steady rule P)
    (h : ∀ w, TradingWith decider canceller w →
      (next (w.exchangeItems owner)).ObeysFrom (TradingWith decider canceller) rule
        fun past => P past ∧ .take purpose owner (w.tradeState owner) ∈ past) :
    (takeItems purpose owner next).ObeysFrom (TradingWith decider canceller) rule P :=
  fun past hpast w hw => ⟨hw, hs.allowed past _ rfl,
    h w hw _ ⟨hs.kept past _ rfl hpast, List.mem_cons_self⟩⟩

theorem from_moveItem {index : ℕ} {act : World → World} {next : TradeProg}
    (hact : ∀ w, TradingWith decider canceller w → TradingWith decider canceller (act w))
    (hmove : ∀ past, P past → rule past (.move purpose owner index) ∧
      P (.move purpose owner index :: past))
    (h : next.ObeysFrom (TradingWith decider canceller) rule P) :
    (moveItem purpose owner index act next).ObeysFrom (TradingWith decider canceller) rule P :=
  fun past hpast w hw => ⟨hact w hw, (hmove past hpast).1, h _ (hmove past hpast).2⟩

theorem tradingWith_giveItemBack (hw : TradingWith decider canceller w) (ex : ExchangeItem) :
    TradingWith decider canceller (w.modify sid (Session.giveItemBack · ex)) := by
  apply hw.holdings <;> intro h <;> unfold Session.giveItemBack <;> split_ifs <;> rfl

theorem from_giveBackSteps {next : TradeProg} {items : List ExchangeItem} {index : ℕ}
    (hmove : ∀ past index, P past → rule past (.move .giveBack sid index) ∧
      P (.move .giveBack sid index :: past))
    (h : next.ObeysFrom (TradingWith decider canceller) rule P) :
    (giveBackSteps sid next index items).ObeysFrom (TradingWith decider canceller) rule P := by
  induction items generalizing index with
  | nil => exact h
  | cons ex items ih =>
    unfold giveBackSteps
    exact from_moveItem (fun w hw => tradingWith_giveItemBack hw ex) (fun past => hmove past index) ih

theorem from_giveItemsBackSteps {next : TradeProg} (hs : Steady rule P)
    (hmove : ∀ past index, P past → rule past (.move .giveBack sid index) ∧
      P (.move .giveBack sid index :: past))
    (h : next.ObeysFrom (TradingWith decider canceller) rule P) :
    (giveItemsBackSteps sid next).ObeysFrom (TradingWith decider canceller) rule P := by
  apply from_takeItems hs
  intro _ _
  exact (from_giveBackSteps hmove h).mono fun past hpast => hpast.1

theorem steady_cancel : Steady (TradeHandler.cancel.rule canceller) fun _ => True := by
  refine ⟨fun past l hl => ?_, fun _ _ _ _ => trivial⟩
  cases l with
  | move purpose owner index => cases hl
  | _ => trivial

/-- Offers are there only while the trade is not over, so that whoever finds them calls it off. -/
theorem from_refund {next : TradeProg}
    (h : next.ObeysFrom (TradingWith decider canceller) (TradeHandler.cancel.rule canceller)
      fun _ => True) :
    (giveItemsBackSteps sid next).ObeysFrom (TradingWith decider canceller)
      (TradeHandler.cancel.rule canceller) fun _ => True := by
  apply from_takeItems steady_cancel
  intro w hw
  rcases eq_or_ne (w.exchangeItems sid) [] with hempty | hoffers
  · rw [hempty]
    exact h.mono fun _ _ => trivial
  · have hopen : w.tradeState sid ≠ .none := fun hnone => hoffers (hw.offers sid hnone)
    have hrest : (giveBackSteps sid next 0 (w.exchangeItems sid)).ObeysFrom
        (TradingWith decider canceller) (TradeHandler.cancel.rule canceller)
        fun past => ∃ l ∈ past, CallsOff (.cancel, l) := by
      apply from_giveBackSteps
      · rintro past index ⟨l, hl, hoff⟩
        exact ⟨⟨l, hl, hoff⟩, l, List.mem_cons_of_mem _ hl, hoff⟩
      · exact h.mono fun _ _ => trivial
    exact hrest.mono fun past hpast => ⟨_, hpast.2, hopen⟩

theorem from_cancelSteps : (cancelSteps sid).ObeysFrom (TradingWith decider canceller)
    (TradeHandler.cancel.rule canceller) fun _ => True := by
  have hreset : ∀ {s : SessionId} {next : TradeProg},
      next.ObeysFrom (TradingWith decider canceller) (TradeHandler.cancel.rule canceller)
        (fun _ => True) →
      (write (·.resetTrade s) next).ObeysFrom (TradingWith decider canceller)
        (TradeHandler.cancel.rule canceller) fun _ => True :=
    fun h => from_write steady_cancel (fun _ hw => hw.resetTrade) h
  apply from_read steady_cancel
  intro w _
  split_ifs
  · exact Prog.obeysFrom_done
  apply from_read steady_cancel
  intro w _
  apply from_refund
  apply hreset
  cases w.exchangeUser sid with
  | none => exact Prog.obeysFrom_done
  | some pid =>
    apply from_read steady_cancel
    intro w _
    split_ifs
    · exact from_refund (hreset Prog.obeysFrom_done)
    · exact Prog.obeysFrom_done

theorem from_checkItemsSteps {next : Bool → TradeProg} {items : List ExchangeItem}
    (hs : Steady rule P)
    (h : ∀ ok, (next ok).ObeysFrom (TradingWith decider canceller) rule P) :
    (checkItemsSteps table sid next items).ObeysFrom (TradingWith decider canceller) rule P := by
  induction items with
  | nil => exact h true
  | cons ex items ih =>
    unfold checkItemsSteps
    split_ifs
    · apply from_read hs
      intro w _
      split_ifs
      · exact ih
      · exact h false
    · exact ih
    · exact h false

theorem from_checkExchangeSteps {next : Bool → TradeProg} (hs : Steady rule P)
    (h : ∀ ok, (next ok).ObeysFrom (TradingWith decider canceller) rule P) :
    (checkExchangeSteps table env sid next).ObeysFrom (TradingWith decider canceller) rule P := by
  apply from_read hs
  intro w _
  cases w.exchangeUser sid with
  | none => exact h false
  | some partner =>
    dsimp only
    split_ifs
    · exact h false
    apply from_read hs
    intro w _
    split_ifs
    · exact h false
    apply from_read hs
    intro w _
    apply from_read hs
    intro w _
    exact from_checkItemsSteps hs fun ok => h _

theorem from_placeableSteps {next : Bool → TradeProg} {items : List ExchangeItem}
    (hs : Steady rule P)
    (h : ∀ ok, (next ok).ObeysFrom (TradingWith decider canceller) rule P) :
    (placeableSteps table sid p next items).ObeysFrom (TradingWith decider canceller) rule P := by
  induction items with
  | nil => exact h true
  | cons ex items ih =>
    unfold placeableSteps
    split_ifs
    · exact ih
    cases table ex.itemId with
    | none => exact h false
    | some itemDef =>
      apply from_read hs
      intro w _
      cases findSlotForItem table (w.session sid).inventory ex.itemId (asU16 ex.count) with
      | none => exact h false
      | some dstSlot =>
        dsimp only
        split_ifs
        · exact h false
        apply from_read hs
        intro w _
        cases (w.session p).inventory[ex.srcPos]? with
        | none => exact h false
        | some src =>
          dsimp only
          split_ifs
          · exact h false
          apply from_read hs
          intro w _
          split_ifs
          · exact h false
          · exact h false
          · exact ih

/-- The check passes only where it has found a partner. -/
theorem from_checkExecuteSteps {next : Bool → TradeProg} (hs : Steady rule P)
    (hfail : (next false).ObeysFrom (TradingWith decider canceller) rule P)
    (hpass : (next true).ObeysFrom (TradingWith decider canceller) rule
      fun past => P past ∧ ∃ l ∈ past, GoesAhead sid (.decide, l)) :
    (checkExecuteSteps table env sid next).ObeysFrom (TradingWith decider canceller) rule P := by
  apply from_read hs
  intro w _
  split_ifs
  · exact hfail
  apply from_read hs
  intro w _
  split_ifs
  · exact hfail
  apply from_checkUser hs
  intro user
  cases user with
  | none => exact hfail.mono fun _ h => h.1
  | some partner =>
    have hs' := hs.and_done fun l => GoesAhead sid (.decide, l)
    have hfail' := hfail.mono
      fun past (h : P past ∧ ∃ l ∈ past, GoesAhead sid (.decide, l)) => h.1
    refine Prog.ObeysFrom.mono (P := fun past => P past ∧ ∃ l ∈ past, GoesAhead sid (.decide, l)) ?_
      fun past h => ⟨h.1, _, h.2, rfl⟩
    apply from_read hs'
    intro w _
    split_ifs
    · exact hfail'
    apply from_read hs'
    intro w _
    refine from_placeableSteps hs' fun ok => ?_
    cases ok with
    | false => exact hfail'
    | true => exact hpass

/-- Nothing was moved for this purpose. -/
def Without (purpose : Purpose) (past : List TradeLabel) : Prop :=
  ∀ l ∈ past, l.moves ≠ some purpose

theorem Without.cons {past : List TradeLabel} (h : Without purpose past)
    (hl : l.moves ≠ some purpose) : Without purpose (l :: past) := by
  rintro l' (_ | ⟨_, hl'⟩)
  · exact hl
  · exact h l' hl'

theorem steady_decide (canceller : SessionId) (purpose : Purpose) :
    Steady (TradeHandler.decide.rule canceller) (Without purpose) := by
  refine ⟨fun past l hl => ?_, fun past l hl h => h.cons ?_⟩
  · cases l with
    | move purpose owner index => cases hl
    | _ => trivial
  · rw [hl]
    exact (Option.some_ne_none _).symm

theorem steady_undecided : Steady (TradeHandler.decide.rule canceller)
    fun past => Without .deliver past ∧ Without .giveBack past where
  allowed := (steady_decide canceller .deliver).allowed
  kept past l hl h := ⟨(steady_decide canceller .deliver).kept past l hl h.1,
    (steady_decide canceller .giveBack).kept past l hl h.2⟩

theorem from_failSteps : (failSteps sid p).ObeysFrom (TradingWith decider canceller)
    (TradeHandler.decide.rule canceller) (Without .deliver) := by
  have hmove : ∀ s past index, Without .deliver past →
      TradeHandler.decide.rule canceller past (.move .giveBack s index) ∧
        Without .deliver (.move .giveBack s index :: past) :=
    fun s past index h => ⟨h, h.cons (by simp [TradeLabel.moves])⟩
  have hs := steady_decide canceller .deliver
  apply from_giveItemsBackSteps hs (hmove sid)
  apply from_giveItemsBackSteps hs (hmove p)
  apply from_write hs fun _ hw => hw.resetTrade
  exact from_write hs (fun _ hw => hw.resetTrade) Prog.obeysFrom_done

theorem from_deliverSteps {next : TradeProg} {items : List ExchangeItem} {index : ℕ}
    (h : next.ObeysFrom (TradingWith decider canceller) (TradeHandler.decide.rule canceller)
      fun past => Without .giveBack past ∧ ∃ l ∈ past, GoesAhead canceller (.decide, l)) :
    (deliverSteps table sid owner next index items).ObeysFrom (TradingWith decider canceller)
      (TradeHandler.decide.rule canceller)
      fun past => Without .giveBack past ∧ ∃ l ∈ past, GoesAhead canceller (.decide, l) := by
  have hmove : ∀ index past,
      (Without .giveBack past ∧ ∃ l ∈ past, GoesAhead canceller (.decide, l)) →
      TradeHandler.decide.rule canceller past (.move .deliver owner index) ∧
        Without .giveBack (.move .deliver owner index :: past) ∧
          ∃ l ∈ TradeLabel.move .deliver owner index :: past, GoesAhead canceller (.decide, l) := by
    rintro index past ⟨hwithout, l, hl, hahead⟩
    exact ⟨⟨hwithout, l, hl, hahead⟩, hwithout.cons (by simp [TradeLabel.moves]), l,
      List.mem_cons_of_mem _ hl, hahead⟩
  induction items generalizing index with
  | nil => exact h
  | cons ex items ih =>
    unfold deliverSteps
    split_ifs
    · exact from_moveItem (fun w hw => hw.holdings (fun _ => rfl) (fun _ => rfl) fun _ => rfl)
        (hmove index) ih
    apply from_read ((steady_decide canceller .giveBack).and_done _)
    intro w _
    cases findSlotForItem table (w.session sid).inventory ex.itemId (asU16 ex.count) with
    | none => exact ih
    | some slot =>
      exact from_moveItem (fun w hw => hw.holdings (fun _ => rfl) (fun _ => rfl) fun _ => rfl)
        (hmove index) ih

theorem from_clearSteps {next : TradeProg} {items : List ExchangeItem} (hs : Steady rule P)
    (h : next.ObeysFrom (TradingWith decider canceller) rule P) :
    (clearSteps sid next items).ObeysFrom (TradingWith decider canceller) rule P := by
  induction items with
  | nil => exact h
  | cons ex items ih =>
    unfold clearSteps
    split_ifs
    · exact ih
    · refine from_write hs (fun w hw => ?_) ih
      apply hw.holdings <;> intro h <;> unfold Session.clearSource <;> split_ifs <;> rfl

theorem from_executeSteps : (executeSteps table sid p).ObeysFrom (TradingWith decider canceller)
    (TradeHandler.decide.rule canceller)
    fun past => Without .giveBack past ∧ ∃ l ∈ past, GoesAhead canceller (.decide, l) := by
  have hs := (steady_decide canceller .giveBack).and_done fun l => GoesAhead canceller (.decide, l)
  apply from_takeItems hs
  intro w _
  refine Prog.ObeysFrom.mono ?_ fun past h => h.1
  apply from_takeItems hs
  intro w' _
  refine Prog.ObeysFrom.mono ?_ fun past h => h.1
  apply from_deliverSteps
  apply from_deliverSteps
  apply from_clearSteps hs
  apply from_clearSteps hs
  apply from_write hs fun _ hw => hw.resetTrade
  exact from_write hs (fun _ hw => hw.resetTrade) Prog.obeysFrom_done

theorem from_decideChecks : (decideChecks table env sid canceller).ObeysFrom
    (TradingWith decider canceller) (TradeHandler.decide.rule canceller)
    fun past => Without .deliver past ∧ Without .giveBack past := by
  have hfail : (failSteps sid canceller).ObeysFrom (TradingWith decider canceller)
      (TradeHandler.decide.rule canceller)
      fun past => Without .deliver past ∧ Without .giveBack past :=
    from_failSteps.mono fun past h => h.1
  apply from_checkExchangeSteps steady_undecided
  intro ok
  split_ifs
  · exact hfail
  apply from_checkExchangeSteps steady_undecided
  intro ok
  split_ifs
  · exact hfail
  apply from_checkExecuteSteps steady_undecided
  · exact hfail
  refine Prog.ObeysFrom.mono ?_ fun past h => h.1
  rw [Bool.not_true, if_neg Bool.false_ne_true]
  apply from_checkExecuteSteps steady_undecided
  · exact hfail
  · exact from_executeSteps.mono fun past h => ⟨h.1.2, h.2⟩

theorem from_decideSteps : (decideSteps table env decider).ObeysFrom (TradingWith decider canceller)
    (TradeHandler.decide.rule canceller)
    fun past => Without .deliver past ∧ Without .giveBack past := by
  have hdeciding : ∀ w, TradingWith decider canceller w →
      TradingWith decider canceller (w.modify decider (Session.setTradeState .deciding)) :=
    fun w hw => hw.modify (fun h hnone => by cases hnone) fun h => .inr rfl
  apply from_read steady_undecided
  intro w _
  split_ifs
  · exact Prog.obeysFrom_done
  apply from_read steady_undecided
  intro w hw
  cases huser : w.exchangeUser decider with
  | none => exact Prog.obeysFrom_done
  | some partner =>
    obtain rfl := hw.partner partner huser
    apply from_read steady_undecided
    intro w _
    split_ifs
    · exact Prog.obeysFrom_done
    apply from_read steady_undecided
    intro w _
    split_ifs
    · exact Prog.obeysFrom_done
    · exact from_write steady_undecided hdeciding Prog.obeysFrom_done
    · exact from_write steady_undecided hdeciding from_decideChecks

theorem both_moved {s : System TradeHandler World TradeLabel} {owner' : SessionId} {index index' : ℕ}
    (hs : s.Lawful (TradingWith decider canceller) (TradeHandler.rule canceller))
    (hdeliver : .move .deliver owner index ∈ s.labels)
    (hback : .move .giveBack owner' index' ∈ s.labels) :
    (∃ e ∈ s.trace, GoesAhead canceller e) ∧ ∃ e ∈ s.trace, CallsOff e := by
  obtain ⟨⟨t, _⟩, ht, rfl⟩ := List.mem_map.mp hdeliver
  obtain ⟨⟨t', _⟩, ht', hlabel⟩ := List.mem_map.mp hback
  obtain rfl : _ = TradeLabel.move .giveBack owner' index' := hlabel
  rw [← System.mem_own] at ht ht'
  cases t with
  | cancel =>
    obtain ⟨_, _, -, hnever⟩ := (hs.ruled .cancel).of_mem ht
    exact absurd hnever id
  | decide =>
    obtain ⟨later, past, hown, -, l, hl, hahead⟩ := (hs.ruled .decide).of_mem ht
    refine ⟨⟨_, System.mem_own.mp (by rw [hown]; simp [hl]), hahead⟩, ?_⟩
    cases t' with
    | cancel =>
      obtain ⟨later, past, hown, l, hl, hoff⟩ := (hs.ruled .cancel).of_mem ht'
      exact ⟨_, System.mem_own.mp (by rw [hown]; simp [hl]), hoff⟩
    | decide =>
      -- a decide that has begun to deliver does not fail any more
      refine absurd ht' ((hs.ruled .decide).not_both (by simp) (fun past hmem hr => ?_)
        (fun past hmem hr => ?_) ht)
      · exact hr.1 _ hmem rfl
      · exact hr _ hmem rfl

theorem tradingWith_run {start : World} {deal : List TradeStep} (hstart : Idle start)
    (hpartner : (Run.run (tradeStep table) start deal).exchangeUser decider = some canceller) :
    TradingWith decider canceller (Run.run (tradeStep table) start deal) := by
  have hsymm : TradeSymmetry (Run.run (tradeStep table) start deal) := (inStep_run hstart).symmetry
  refine ⟨fun s hnone => hsymm.offers s ?_, fun p hp => ?_⟩
  · rw [hnone]
    rfl
  · exact Option.some.inj (hp.symm.trans hpartner)

end Rules

/-- Two partners as any messages have left them; one decides and the other cancels. In every order
of the steps in which the decide has not found the canceller's partner, last before it executes,
when the canceller calls the trade off, nor finds him when that was done, no offer is both
delivered and given back, be it an item or gold. -/
theorem not_delivered_and_given_back {table : ItemTable} {env : TradeEnv} {start : World}
    {deal : List TradeStep} {decider canceller : SessionId} {schedule : List TradeHandler}
    (hstart : Idle start)
    (hpartner : (Run.run (tradeStep table) start deal).exchangeUser decider = some canceller)
    (hyields : Run.Along System.step (System.Yields (GoesAhead canceller) CallsOff)
      (decideBesideCancel table env decider canceller (Run.run (tradeStep table) start deal))
      schedule)
    (owner : SessionId) (index : ℕ) :
    ¬ (.move .deliver owner index ∈ (Run.run System.step (decideBesideCancel table env decider
          canceller (Run.run (tradeStep table) start deal)) schedule).labels ∧
        .move .giveBack owner index ∈ (Run.run System.step (decideBesideCancel table env decider
          canceller (Run.run (tradeStep table) start deal)) schedule).labels) := by
  have hwith : TradingWith decider canceller (Run.run (tradeStep table) start deal) :=
    tradingWith_run hstart hpartner
  have hlawful : System.Lawful (TradingWith decider canceller) (TradeHandler.rule canceller)
      (Run.run System.step (decideBesideCancel table env decider canceller
        (Run.run (tradeStep table) start deal)) schedule) := by
    refine System.lawful_run hwith ?_ schedule
    rintro (_ | _)
    · exact from_decideSteps [] ⟨fun _ h => (by cases h), fun _ h => (by cases h)⟩
    · exact from_cancelSteps [] trivial
  rintro ⟨hdeliver, hback⟩
  obtain ⟨⟨e, he, hahead⟩, f, hf, hoff⟩ := both_moved hlawful hdeliver hback
  exact System.apart (not_callsOff_of_goesAhead canceller) hyields he hahead hf hoff

/-- The two players of the trade runs, both with an offer in: twenty potions of the first for
the 300 gold of the second, who has decided. -/
def bothOffered : World := Run.run (tradeStep tradeTable) twoPlayers
  [⟨quietEnv, 1, .req 2⟩, ⟨quietEnv, 2, .agree 1⟩, ⟨quietEnv, 1, .add ⟨1, 389010000, 20⟩⟩,
    ⟨quietEnv, 2, .add ⟨255, ITEM_GOLD, 300⟩⟩, ⟨quietEnv, 2, .decide⟩]

/-- The first decides, and `cancelAt` steps later the second cancels. -/
def decideThenCancel (cancelAt : ℕ) : List TradeHandler :=
  List.replicate cancelAt .decide ++ List.replicate 10 .cancel ++
    List.replicate (35 - cancelAt) .decide

/-- The cancel comes when the trade is through. -/
theorem not_delivered_and_given_back_late :
    ¬ (.move .deliver 2 0 ∈ (Run.run System.step
          (decideBesideCancel tradeTable quietEnv 1 2 bothOffered) (decideThenCancel 35)).labels ∧
        .move .giveBack 2 0 ∈ (Run.run System.step
          (decideBesideCancel tradeTable quietEnv 1 2 bothOffered) (decideThenCancel 35)).labels) :=
  not_delivered_and_given_back fresh_twoPlayers.idle (by decide +kernel) (by decide +kernel) 2 0

/-- The cancel comes when both lists have been read to be delivered. -/
def raced : System TradeHandler World TradeLabel :=
  Run.run System.step (decideBesideCancel tradeTable quietEnv 1 2 bothOffered) (decideThenCancel 29)

/-- The potions and the gold are delivered and given back; both players end up with them. -/
theorem delivered_and_given_back :
    (bothOffered.exchangeItems 1 ≠ [] ∧ bothOffered.exchangeItems 2 ≠ []) ∧
    ¬ (∀ owner index, ¬ (.move .deliver owner index ∈ raced.labels ∧
        .move .giveBack owner index ∈ raced.labels)) ∧
    worth (Session.held tradeTable 389010000) {1, 2} raced.state =
      worth (Session.held tradeTable 389010000) {1, 2} bothOffered + 20 ∧
    worth Session.coins {1, 2} raced.state = worth Session.coins {1, 2} bothOffered + 300 := by
  have hgold : .move .deliver 2 0 ∈ raced.labels ∧ .move .giveBack 2 0 ∈ raced.labels := by
    decide +kernel
  exact ⟨by decide +kernel, fun h => h 2 0 hgold, by decide +kernel, by decide +kernel⟩

end KoServer
