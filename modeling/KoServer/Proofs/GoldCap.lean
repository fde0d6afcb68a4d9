import KoServer.Proofs.BuyingMerchant
import KoServer.Proofs.ItemGet
import KoServer.Proofs.NpcTrade
import KoServer.Proofs.TradeCancel
import KoServer.Proofs.TradeStates
import KoServer.Spec.King

/-! What raises a character's gold. The shared gain stops at the cap; the tax and the prize of a king
go past it, and a merchant who buys and a bundle that is divided lose what the cap cuts off. -/

namespace KoServer

/-- Gold that is credited to a character, and what its payer gives up. -/
structure Payment where
  before : ℕ
  credit : ℕ
  after : ℕ
  deducted : ℕ
deriving DecidableEq

/-- The cap holds, and where it bites only what arrives is deducted. -/
structure Payment.Sound (p : Payment) : Prop where
  capped : p.after ≤ COIN_MAX
  keptBack : COIN_MAX < p.before + p.credit → p.before + p.deducted ≤ p.after

instance (p : Payment) : Decidable p.Sound :=
  decidable_of_iff (p.after ≤ COIN_MAX ∧
    (COIN_MAX < p.before + p.credit → p.before + p.deducted ≤ p.after))
    ⟨fun h => ⟨h.1, h.2⟩, fun h => ⟨h.1, h.2⟩⟩

theorem goldGain_of_le {gold amount : ℕ} (h : gold + amount ≤ COIN_MAX) :
    goldGain gold amount = gold + amount := if_neg (not_lt.mpr h)

theorem goldGain_of_lt {gold amount : ℕ} (h : COIN_MAX < gold + amount) :
    goldGain gold amount = COIN_MAX := if_pos h

/-- A gain by `gold_gain` keeps the cap; it may cut what the payer has paid. -/
theorem sound_goldGain_iff {gold credit deducted : ℕ} :
    Payment.Sound ⟨gold, credit, goldGain gold credit, deducted⟩ ↔
      gold + min credit deducted ≤ COIN_MAX := by
  rcases Nat.lt_or_ge COIN_MAX (gold + credit) with hover | hfits
  · rw [goldGain_of_lt hover]
    refine ⟨fun hsound => ?_, fun hle => ⟨le_rfl, fun _ => ?_⟩⟩
    · have := hsound.keptBack hover
      dsimp only at this
      omega
    · dsimp only
      omega
  · rw [goldGain_of_le hfits]
    refine ⟨fun _ => by omega, fun _ => ⟨hfits, fun hover => ?_⟩⟩
    exact absurd hfits (not_le.mpr hover)

/-- Payment in full, below the cap. -/
theorem sound_of_fits {gold credit after deducted : ℕ} (h : gold + credit ≤ COIN_MAX)
    (hafter : after = gold + credit) : Payment.Sound ⟨gold, credit, after, deducted⟩ :=
  ⟨hafter.trans_le h, fun hover => absurd h (not_le.mpr hover)⟩

/-- A saturating sum keeps the cap only where the amount fits. -/
theorem sound_saturating_iff {gold credit deducted : ℕ} :
    Payment.Sound ⟨gold, credit, saturatingAdd32 gold credit, deducted⟩ ↔
      gold + credit ≤ COIN_MAX := by
  have hcoin : COIN_MAX = 2100000000 := rfl
  refine ⟨fun hsound => ?_, fun hfits => sound_of_fits hfits ?_⟩
  · have hle := hsound.capped
    unfold saturatingAdd32 at hle
    dsimp only at hle
    omega
  · unfold saturatingAdd32
    omega

def OneGold (items : List ExchangeItem) : Prop := items.countP (·.itemId = ITEM_GOLD) ≤ 1

def GoldListed (w : World) : Prop := ∀ s h, w s = some h → OneGold h.exchangeItems

section Offers

variable {table : ItemTable} {env : TradeEnv} {w : World} {sid : SessionId}

theorem oneGold_nil : OneGold [] := Nat.zero_le 1

theorem GoldListed.modify {f : Session → Session} (hw : GoldListed w)
    (hf : ∀ h, OneGold h.exchangeItems → OneGold (f h).exchangeItems) :
    GoldListed (w.modify sid f) := by
  intro s h hs
  unfold World.modify at hs
  split_ifs at hs
  · obtain ⟨g, hg, rfl⟩ := Option.map_eq_some_iff.mp hs
    exact hf g (hw s g hg)
  · exact hw s h hs

theorem GoldListed.reset (hw : GoldListed w) (sid : SessionId) : GoldListed (w.resetTrade sid) :=
  hw.modify fun _ _ => oneGold_nil

/-- What is done with the offers of a list leaves one's own list alone. -/
theorem foldl_exchangeItems {g : Session → ExchangeItem → Session}
    (hg : ∀ h ex, (g h ex).exchangeItems = h.exchangeItems) (items : List ExchangeItem)
    (h : Session) : (items.foldl g h).exchangeItems = h.exchangeItems := by
  induction items generalizing h with
  | nil => rfl
  | cons ex items ih => rw [List.foldl_cons, ih, hg]

theorem GoldListed.foldl (hw : GoldListed w) (sid : SessionId)
    {g : Session → ExchangeItem → Session}
    (hg : ∀ h ex, (g h ex).exchangeItems = h.exchangeItems) (items : List ExchangeItem) :
    GoldListed (w.modify sid (items.foldl g ·)) :=
  hw.modify fun h hone => by rwa [foldl_exchangeItems hg items h]

theorem giveItemBack_exchangeItems (h : Session) (ex : ExchangeItem) :
    (h.giveItemBack ex).exchangeItems = h.exchangeItems := by
  unfold Session.giveItemBack
  split_ifs <;> rfl

theorem receiveItem_exchangeItems (table : ItemTable) (h : Session) (ex : ExchangeItem) :
    (h.receiveItem table ex).exchangeItems = h.exchangeItems := by
  unfold Session.receiveItem
  split_ifs
  · rfl
  · split <;> rfl

theorem clearSource_exchangeItems (h : Session) (ex : ExchangeItem) :
    (h.clearSource ex).exchangeItems = h.exchangeItems := by
  unfold Session.clearSource
  split_ifs <;> rfl

theorem GoldListed.giveItemsBack (hw : GoldListed w) (sid : SessionId) :
    GoldListed (w.giveItemsBack sid) :=
  hw.modify fun h hone => by
    unfold Session.giveItemsBack
    rwa [foldl_exchangeItems giveItemBack_exchangeItems]

theorem goldListed_cancel (hw : GoldListed w) (sid : SessionId) :
    GoldListed (exchangeCancel w sid) := by
  unfold exchangeCancel
  split_ifs
  · exact hw
  · have hmine : GoldListed ((w.giveItemsBack sid).resetTrade sid) := (hw.giveItemsBack sid).reset sid
    dsimp only
    split
    · exact hmine
    · split_ifs
      · exact (hmine.giveItemsBack _).reset _
      · exact hmine

theorem goldListed_req (hw : GoldListed w) (sid target : SessionId) :
    GoldListed (exchangeReq env w sid target) := by
  unfold exchangeReq
  split_ifs
  · exact goldListed_cancel hw sid
  · exact hw
  · unfold World.initTradeRequest
    have hmine : GoldListed (w.modify sid fun h =>
        { h with exchangeUser := some target, tradeState := .sender, isRequestSender := true }) :=
      hw.modify fun _ hone => hone
    exact hmine.modify fun _ hone => hone

theorem goldListed_agree (hw : GoldListed w) (sid : SessionId) (accepted : ℕ) :
    GoldListed (exchangeAgree env w sid accepted) := by
  unfold exchangeAgree World.tradeDecline World.tradeAgree
  split
  · exact hw
  · dsimp only
    split_ifs
    · exact hw
    · exact (hw.reset _).reset _
    · exact (hw.reset _).reset _
    · have hmine : GoldListed (w.modify sid (Session.setTradeState .trading)) :=
        hw.modify fun _ hone => hone
      exact hmine.modify fun _ hone => hone

theorem oneGold_offerGold (count : ℕ) {h : Session} (hone : OneGold h.exchangeItems) :
    OneGold (h.offerGold count).exchangeItems := by
  unfold Session.offerGold OneGold
  split
  · next items hupdate =>
    change items.countP _ ≤ 1
    rw [countP_gold_of_keys (update_keys hupdate)]
    exact hone
  · next hupdate =>
    change (h.exchangeItems ++ [_]).countP _ ≤ 1
    rw [List.countP_append, List.countP_eq_zero.mpr fun e he => by simpa using update_none hupdate e he]
    simp

theorem oneGold_offerItem {req : ExchangeAdd} (hgold : req.itemId ≠ ITEM_GOLD) {h : Session}
    (hone : OneGold h.exchangeItems) : OneGold (h.offerItem table req).exchangeItems := by
  unfold OneGold
  rcases exchangeItems_offerItem table h req with ⟨items, -, hupdate, heq⟩ | ⟨-, heq⟩
  · rw [heq, countP_gold_of_keys (update_keys hupdate)]
    exact hone
  · rw [heq, List.countP_append, List.countP_singleton, if_neg (by simpa using hgold)]
    exact hone

theorem goldListed_add (hw : GoldListed w) (sid : SessionId) (req : ExchangeAdd) :
    GoldListed (exchangeAdd table env w sid req) := by
  unfold exchangeAdd
  cases hv : addVerdict table env w sid req with
  | refused => exact hw
  | cancel => exact goldListed_cancel hw sid
  | gold => exact hw.modify fun _ hone => oneGold_offerGold req.count hone
  | item => exact hw.modify fun _ hone => oneGold_offerItem (addVerdict_item hv).not_gold hone

theorem goldListed_decide (hw : GoldListed w) (sid : SessionId) :
    GoldListed (exchangeDecide table env w sid) := by
  have hwait : GoldListed (w.modify sid (Session.setTradeState .deciding)) :=
    hw.modify fun _ hone => hone
  unfold exchangeDecide
  split
  · exact hw
  split
  · exact hw
  next p _ =>
  dsimp only
  cases decideVerdict table env w sid p with
  | ignored => exact hw
  | wait => exact hwait
  | fail => exact (((hwait.giveItemsBack sid).giveItemsBack p).reset sid).reset p
  | execute =>
    unfold executeExchange
    refine GoldListed.reset (GoldListed.reset (GoldListed.foldl (GoldListed.foldl ?_ p
      clearSource_exchangeItems _) sid clearSource_exchangeItems _) sid) p
    exact (hwait.foldl sid (receiveItem_exchangeItems table) _).foldl p
      (receiveItem_exchangeItems table) _

theorem goldListed_tradeStep (hw : GoldListed w) (s : TradeStep) :
    GoldListed (tradeStep table w s) := by
  obtain ⟨env, sid, msg⟩ := s
  unfold tradeStep handleExchange
  split_ifs
  · exact hw
  cases msg with
  | req target => exact goldListed_req hw sid target
  | agree accepted => exact goldListed_agree hw sid accepted
  | add req => exact goldListed_add hw sid req
  | decide => exact goldListed_decide hw sid
  | cancel => exact goldListed_cancel hw sid

end Offers

def TradeReached (table : ItemTable) (w : World) : Prop :=
  ∃ w₀ steps, Idle w₀ ∧ w = Run.run (tradeStep table) w₀ steps

theorem inStep_of_reached {table : ItemTable} {w : World} (h : TradeReached table w) :
    InStep w ∧ GoldListed w := by
  obtain ⟨w₀, steps, hidle, rfl⟩ := h
  refine Run.invariant (fun w => InStep w ∧ GoldListed w) (fun w s hw _ =>
    ⟨inStep_tradeStep hw.1 s, goldListed_tradeStep hw.2 s⟩) (Run.along_true w₀ steps)
    ⟨inStep_of_idle hidle, fun s h hs => ?_⟩
  rw [(hidle s h hs).2.2]
  exact oneGold_nil

namespace RoyalWorld

def goldOf (s : RoyalWorld) (sid : ℕ) : ℕ := (s.citizens sid).elim 0 Citizen.gold

def treasuryOf (s : RoyalWorld) (nation : ℕ) : ℕ :=
  (s.kingSystems nation).elim 0 fun ks => ks.nationalTreasury

def taxOf (s : RoyalWorld) (nation : ℕ) : ℕ :=
  (s.kingSystems nation).elim 0 fun ks => ks.territoryTax

variable {s : RoyalWorld} {sid p : ℕ} {now : EventClock} {data : List UInt8} {t : RoyalTask}

/-- What the checks establish. -/
structure Accepted (s : RoyalWorld) (sid : ℕ) (t : RoyalTask) : Prop where
  sid_eq : t.sid = sid
  notPaid : t.paid = false
  king : s.kingSystems t.nation ≠ none

theorem accept_spec (h : s.accept sid now data = some t) : s.Accepted sid t := by
  unfold accept at h
  split at h
  case h_2 => cases h
  next c request hc hrequest =>
  split_ifs at h
  obtain ⟨ks, hks, h⟩ := Option.bind_eq_some_iff.mp h
  have hking : s.kingSystems c.nation ≠ none := by
    rw [hks]
    exact Option.some_ne_none ks
  unfold checkFunds at h
  split at h
  · split_ifs at h
    obtain rfl := Option.some.inj h
    exact ⟨rfl, rfl, hking⟩
  · split_ifs at h
    obtain ⟨target, -, rfl⟩ := Option.map_eq_some_iff.mp h
    exact ⟨rfl, rfl, hking⟩
  all_goals
    dsimp only at h
    split_ifs at h
    obtain rfl := Option.some.inj h
    exact ⟨rfl, rfl, hking⟩

theorem goldOf_giveGold (amount sid' : ℕ) (h : s.citizens sid ≠ none) :
    (s.giveGold sid amount).goldOf sid' =
      if sid' = sid then saturatingAdd32 (s.goldOf sid) amount else s.goldOf sid' := by
  unfold goldOf giveGold
  dsimp only
  split_ifs with hsid
  · obtain ⟨c, hc⟩ := Option.ne_none_iff_exists'.mp h
    rw [hsid, Function.update_self, hc]
    rfl
  · rw [Function.update_of_ne hsid]

/-- A request that pays gold to a character in game, by itself. -/
theorem goldOf_handleKing (hidle : s.inFlight = []) (h : s.accept sid now data = some t)
    (hp : t.payee = some p) (hpayee : s.citizens p ≠ none) :
    (s.handleKing sid now data).goldOf p = saturatingAdd32 (s.goldOf p) t.amount := by
  obtain ⟨hsid, hpaid, -⟩ := accept_spec h
  have hrequest : s.royal (.request sid now data) = { s with inFlight := [t] } := by
    unfold royal
    dsimp only
    rw [hidle, h]
    rfl
  have hpay : ({ s with inFlight := [t] } : RoyalWorld).royal (.pay sid) =
      { s.giveGold p t.amount with inFlight := [{ t with paid := true }] } := by
    have hfind : ({ s with inFlight := [t] } : RoyalWorld).taskAt sid unpaid = some t := by
      unfold taskAt unpaid
      dsimp only
      rw [List.find?_cons_of_pos]
      rw [hsid, hp, hpaid, decide_eq_true rfl]
      rfl
    unfold royal
    dsimp only
    rw [hfind]
    dsimp only
    rw [hp, List.erase_cons_head]
    rfl
  unfold handleKing
  rw [hrequest, hpay]
  have hwrite : ∀ u : RoyalWorld, (u.royal (.write sid)).goldOf p = u.goldOf p := by
    intro u
    unfold royal
    dsimp only
    split <;> rfl
  rw [hwrite]
  exact (goldOf_giveGold t.amount p hpayee).trans (if_pos rfl)

end RoyalWorld

/-- An operation that credits gold, in the state it is taken in. -/
inductive GoldOperation (Pos : Type)
  | gain (gold amount : ℕ)
  | npcSale (ctx : SellContext) (s : Seller) (reader : PacketReader)
  | tradeDelivery (table : ItemTable) (env : TradeEnv) (w : World) (reached : TradeReached table w)
      (sid : SessionId)
  | shopSale (ctx : BuyContext) (m : Market) (req : BuyRequest)
  | wantedSale (ctx : BuyingContext) (m : BuyingMarket) (req : BuyingRequest)
  | royal (s : RoyalWorld) (idle : s.inFlight = []) (sid : ℕ) (now : EventClock) (data : List UInt8)
  | groundGold (table : ItemTable) (s : LootWorld Pos) (req : LootRequest Pos)

section Payments

variable {Pos : Type} [Inhabited Pos]

def soldTotal (ctx : SellContext) (s : Seller) (reader : PacketReader) : ℕ :=
  match handleSellRequest ctx s reader with
  | .error _ => 0
  | .ok (_, total) => total

def deliveryTo (w w' : World) (sid partner : SessionId) : Payment :=
  let offered := Tally.total offeredGold (w.exchangeItems partner)
  ⟨(w.session sid).gold, offered, (w'.session sid).gold, offered⟩

def deliveries (table : ItemTable) (env : TradeEnv) (w : World) (sid : SessionId) : List Payment :=
  match w.exchangeUser sid with
  | none => []
  | some partner =>
    let w' := exchangeDecide table env w sid
    if w.tradeState sid = .trading ∧ decideVerdict table env w sid partner = .execute then
      [deliveryTo w w' sid partner, deliveryTo w w' partner sid]
    else []

/-- A price in Knight Cash is no gold. -/
def shopPayment (ctx : BuyContext) (m : Market) (req : BuyRequest) : Payment :=
  let (sold, m') := merchantItemBuy ctx m req
  let price := if sold ∧ (m.listing req.itemSlot).isKc = false then purchasePrice m req else 0
  ⟨m.seller.gold, price, m'.seller.gold, m.buyer.gold - m'.buyer.gold⟩

def wantedPrice (m : BuyingMarket) (req : BuyingRequest) : ℕ :=
  saturatingMul32 (m.wanted req.merchantListSlot).price req.stackSize

def wantedPayment (ctx : BuyingContext) (m : BuyingMarket) (req : BuyingRequest) : Payment :=
  let (sold, m') := buyingMerchantBuy ctx m req
  let price :=
    if sold ∧ (m.wanted req.merchantListSlot).isKc = false then wantedPrice m req else 0
  ⟨m.seller.gold, price, m'.seller.gold, m.merchant.gold - m'.merchant.gold⟩

/-- The treasury and the territory tax pay, to a character in game. -/
def royalPayments (s : RoyalWorld) (sid : ℕ) (now : EventClock) (data : List UInt8) :
    List Payment :=
  match s.accept sid now data with
  | none => []
  | some t =>
    let s' := s.handleKing sid now data
    (t.payee.filter fun p => (s.citizens p).isSome).toList.map fun p =>
      ⟨s.goldOf p, t.amount, s'.goldOf p,
        (s.treasuryOf t.nation + s.taxOf t.nation) -
          (s'.treasuryOf t.nation + s'.taxOf t.nation)⟩

/-- The gold in the slot that is asked for. -/
def groundCount (s : LootWorld Pos) (req : LootRequest Pos) : ℕ :=
  if h : req.slotId < NPC_HAVE_ITEM_LIST then
    (s.bundles req.bundleId).elim 0 fun b => (b.items ⟨req.slotId, h⟩).count
  else 0

def sharers (s : LootWorld Pos) (req : LootRequest Pos) : List ℕ :=
  match (req.env.partyId req.sid).bind req.env.party, s.bundles req.bundleId with
  | some members, some b => s.eligible req.env members b.position
  | _, _ => []

/-- A share of the gold, raised by the member's bonuses. -/
def shareOf (s t : LootWorld Pos) (req : LootRequest Pos) (share sid : ℕ) : Payment :=
  ⟨s.goldOf sid, lootGold (req.env.bonus sid) share, t.goldOf sid, share⟩

/-- The bundle pays. -/
def groundPayments (table : ItemTable) (s : LootWorld Pos) (req : LootRequest Pos) :
    List Payment :=
  let (answer, t) := s.handle table req
  match answer with
  | .solo none _ count _ => [shareOf s t req count req.sid]
  | .itemGivenAway =>
    (sharers s req).map (shareOf s t req (groundCount s req / (sharers s req).length))
  | _ => []

/-- One payment for each character that is credited. An NPC gives up no gold. -/
def GoldOperation.payments : GoldOperation Pos → List Payment
  | .gain gold amount => [⟨gold, amount, goldGain gold amount, 0⟩]
  | .npcSale ctx s reader => [⟨s.gold, soldTotal ctx s reader, (sellStep ctx s reader).gold, 0⟩]
  | .tradeDelivery table env w _ sid => deliveries table env w sid
  | .shopSale ctx m req => [shopPayment ctx m req]
  | .wantedSale ctx m req => [wantedPayment ctx m req]
  | .royal s _ sid now data => royalPayments s sid now data
  | .groundGold table s req => groundPayments table s req

/-- Each share of ground gold fits, without the part that bonuses add. -/
def SharesFit (s : LootWorld Pos) (req : LootRequest Pos) : Prop :=
  ∀ b slotId members, s.Admits req b slotId → (b.items slotId).itemId = ITEM_GOLD →
    (req.env.partyId req.sid).bind req.env.party = some members →
    let eligible := s.eligible req.env members b.position
    let share := (b.items slotId).count / eligible.length
    ∀ sid ∈ eligible, s.goldOf sid + min (lootGold (req.env.bonus sid) share) share ≤ COIN_MAX

/-- Where nothing checks the room for the gold, there is room: for the price at a shop that buys, for
the tax or the prize of a king, for the shares of a party. -/
def GoldOperation.Fits : GoldOperation Pos → Prop
  | .wantedSale ctx m req => SaleAllowed ctx m req → (m.wanted req.merchantListSlot).isKc = false →
      m.seller.gold + wantedPrice m req ≤ COIN_MAX
  | .royal s _ sid now data => ∀ t p, s.accept sid now data = some t → t.payee = some p →
      (s.citizens p).isSome → s.goldOf p + t.amount ≤ COIN_MAX
  | .groundGold _ s req => SharesFit s req
  | _ => True

theorem gold_of_sale {ctx : SellContext} {s s' : Seller} {reader : PacketReader} {total : ℕ}
    (h : handleSellRequest ctx s reader = .ok (s', total)) : s'.gold = goldGain s.gold total := by
  unfold handleSellRequest handleSell at h
  dsimp only at h
  split_ifs at h
  split at h
  · cases h
  · obtain ⟨rfl, rfl⟩ := Prod.mk.inj (Except.ok.inj h)
    rfl

theorem sound_npcSale (ctx : SellContext) (s : Seller) (reader : PacketReader)
    (h : s.gold ≤ COIN_MAX) :
    Payment.Sound ⟨s.gold, soldTotal ctx s reader, (sellStep ctx s reader).gold, 0⟩ := by
  have hafter : (sellStep ctx s reader).gold = goldGain s.gold (soldTotal ctx s reader) := by
    unfold sellStep soldTotal
    cases hsale : handleSellRequest ctx s reader with
    | error _ => exact (goldGain_of_le (show s.gold + 0 ≤ COIN_MAX from h)).symm
    | ok result => exact gold_of_sale hsale
  rw [hafter, sound_goldGain_iff, Nat.min_zero]
  exact h

theorem gold_receiveItems (table : ItemTable) {h : Session} {items : List ExchangeItem}
    (hfits : h.gold + Tally.total offeredGold items ≤ COIN_MAX) :
    (items.foldl (Session.receiveItem table) h).gold =
      h.gold + Tally.total offeredGold items := by
  induction items generalizing h with
  | nil => rfl
  | cons ex items ih =>
    rw [Tally.total_cons] at hfits ⊢
    have hfirst : (h.receiveItem table ex).gold = h.gold + offeredGold ex := by
      unfold Session.receiveItem
      by_cases hgold : ex.itemId = ITEM_GOLD
      · rw [if_pos hgold, offeredGold_gold hgold]
        rw [offeredGold_gold hgold] at hfits
        exact goldGain_of_le (by omega)
      · rw [if_neg hgold, offeredGold_item hgold]
        split <;> rfl
    rw [List.foldl_cons, ih (by omega), hfirst]
    omega

theorem gold_clearSources (items : List ExchangeItem) (h : Session) :
    (items.foldl Session.clearSource h).gold = h.gold := by
  induction items generalizing h with
  | nil => rfl
  | cons ex items ih =>
    rw [List.foldl_cons, ih]
    unfold Session.clearSource
    split_ifs <;> rfl

/-- The check of the receiving side covers all the gold that is offered. -/
theorem gold_fits_of_check {table : ItemTable} {env : TradeEnv} {w : World} {sid p : SessionId}
    {h k : Session} (hh : w sid = some h) (hk : w p = some k) (huser : h.exchangeUser = some p)
    (hcap : h.gold ≤ COIN_MAX) (hone : OneGold k.exchangeItems) (hcheck : checkExchange table env w sid = true) :
    h.gold + Tally.total offeredGold k.exchangeItems ≤ COIN_MAX := by
  unfold checkExchange at hcheck
  simp only [World.exchangeUser, World.exchangeItems, session_eq hh, huser, session_eq hk,
    Bool.and_eq_true, List.all_eq_true] at hcheck
  obtain ⟨⟨⟨-, hitems⟩, -⟩, -⟩ := hcheck
  refine (goldFits_of_each hone fun ex hex hgold => ?_).le hcap
  have hfits := hitems ex hex
  rw [if_pos hgold] at hfits
  exact of_decide_eq_true hfits

theorem sound_deliveries {table : ItemTable} {env : TradeEnv} {w : World}
    (hreached : TradeReached table w) (sid : SessionId)
    (hcap : ∀ p ∈ deliveries table env w sid, p.before ≤ COIN_MAX) :
    ∀ p ∈ deliveries table env w sid, p.Sound := by
  obtain ⟨hstep, hlisted⟩ := inStep_of_reached hreached
  unfold deliveries at hcap ⊢
  split
  · simp
  next p hp =>
  rw [hp] at hcap
  dsimp only at hcap ⊢
  split_ifs at hcap ⊢ with hexecute
  swap
  · simp
  obtain ⟨hstate, hverdict⟩ := hexecute
  obtain ⟨hcap, hcap'⟩ := List.forall_mem_cons.mp hcap
  replace hcap' := List.forall_mem_singleton.mp hcap'
  cases hh : w sid with
  | none =>
    rw [World.exchangeUser, World.session, hh] at hp
    cases hp
  | some h =>
  have huser := hp
  rw [World.exchangeUser, session_eq hh] at huser
  obtain ⟨hsp, k, hk, hback, -⟩ := hstep.paired.partner_spec hh huser
  have hh' : w.modify sid (Session.setTradeState .deciding) sid =
    some (Session.setTradeState .deciding h) := modify_self hh
  have hk' : w.modify sid (Session.setTradeState .deciding) p = some k := by
    rw [modify_other hsp.symm, hk]
  obtain ⟨hcheck, hcheck', -, -⟩ := decideVerdict_execute hverdict
  unfold deliveryTo at hcap hcap'
  rw [session_eq hh] at hcap
  rw [session_eq hk] at hcap'
  have hfits : (Session.setTradeState .deciding h).gold + Tally.total offeredGold k.exchangeItems ≤
      COIN_MAX := gold_fits_of_check hh' hk' huser hcap (hlisted p k hk) hcheck
  have hfits' : k.gold + Tally.total offeredGold (Session.setTradeState .deciding h).exchangeItems ≤
      COIN_MAX := gold_fits_of_check hk' hh' hback hcap' (hlisted sid h hh) hcheck'
  have hdecide : exchangeDecide table env w sid =
      executeExchange table (w.modify sid (Session.setTradeState .deciding)) sid p := by
    unfold exchangeDecide
    rw [if_neg (not_not.mpr hstate), hp]
    dsimp only
    rw [hverdict]
  rw [hdecide, executeExchange_eq hsp hh' hk']
  unfold deliveryTo World.exchangeItems
  rw [session_eq hh, session_eq hk, session_eq (Ledger.rewrite_left hsp),
    session_eq Ledger.rewrite_right]
  refine List.forall_mem_cons.mpr ⟨sound_of_fits hfits ?_, List.forall_mem_singleton.mpr
    (sound_of_fits hfits' ?_)⟩
  · exact (gold_clearSources _ _).trans (gold_receiveItems table hfits)
  · exact (gold_clearSources _ _).trans (gold_receiveItems table hfits')

theorem sound_shopPayment (ctx : BuyContext) (m : Market) (req : BuyRequest)
    (h : m.seller.gold ≤ COIN_MAX) : (shopPayment ctx m req).Sound := by
  unfold shopPayment
  rcases merchantItemBuy_spec ctx m req with hrefused | ⟨m', hsold, haccepted⟩
  · rw [hrefused]
    exact sound_of_fits (by simpa using h) (by simp)
  · have hseller := haccepted.sellerGold
    rw [hsold]
    dsimp only
    cases hkc : (m.listing req.itemSlot).isKc with
    | true =>
      rw [hkc, if_pos rfl] at hseller
      exact sound_of_fits (by simpa using h) (by simpa using hseller)
    | false =>
      rw [hkc, if_neg Bool.false_ne_true] at hseller
      rw [if_pos ⟨rfl, rfl⟩, hseller]
      have hpayable : Payable ctx m req :=
        (merchantItemBuy_succeeds_iff.mp (congrArg Prod.fst hsold)).payable
      unfold Payable at hpayable
      rw [hkc, if_neg Bool.false_ne_true] at hpayable
      exact sound_of_fits hpayable.2.2 rfl

theorem sound_wantedPayment_iff (ctx : BuyingContext) (m : BuyingMarket) (req : BuyingRequest)
    (h : m.seller.gold ≤ COIN_MAX) : (wantedPayment ctx m req).Sound ↔
      (SaleAllowed ctx m req → (m.wanted req.merchantListSlot).isKc = false →
        m.seller.gold + wantedPrice m req ≤ COIN_MAX) := by
  unfold wantedPayment
  rcases buyingMerchantBuy_spec ctx m req with ⟨hrefused, hnot⟩ | ⟨m', dest, hsale, hallowed, hsold⟩
  · rw [hrefused]
    refine ⟨fun _ hallowed => absurd hallowed hnot, fun _ => ?_⟩
    exact sound_of_fits (by simpa using h) (by simp)
  · have hmerchant := hsold.merchantGold
    have hseller := hsold.sellerGold
    rw [hsale]
    dsimp only
    cases hkc : (m.wanted req.merchantListSlot).isKc with
    | true =>
      rw [hkc, if_pos rfl] at hseller
      refine ⟨fun _ _ hfalse => (by cases hfalse), fun _ => ?_⟩
      exact sound_of_fits (by simpa using h) (by simpa using hseller)
    | false =>
      have hprice : min (salePrice m req) (2 ^ 32 - 1) = wantedPrice m req := rfl
      rw [hkc, if_neg Bool.false_ne_true, hprice] at hmerchant hseller
      have hpays : m.merchant.gold - m'.merchant.gold = wantedPrice m req := by omega
      rw [if_pos ⟨rfl, rfl⟩, hseller, hpays, sound_goldGain_iff, Nat.min_self]
      exact ⟨fun hfits _ _ => hfits, fun hfits => hfits hallowed rfl⟩

theorem sound_royal_iff (s : RoyalWorld) (hidle : s.inFlight = []) (sid : ℕ) (now : EventClock)
    (data : List UInt8) : (∀ p ∈ royalPayments s sid now data, p.Sound) ↔
      ∀ t p, s.accept sid now data = some t → t.payee = some p → (s.citizens p).isSome →
        s.goldOf p + t.amount ≤ COIN_MAX := by
  unfold royalPayments
  cases haccept : s.accept sid now data with
  | none => simp
  | some t =>
    dsimp only
    simp only [List.forall_mem_map, Option.mem_toList, Option.filter_eq_some_iff]
    have hafter : ∀ p, t.payee = some p → (s.citizens p).isSome →
        ∀ deducted, Payment.Sound ⟨s.goldOf p, t.amount, (s.handleKing sid now data).goldOf p,
          deducted⟩ ↔ s.goldOf p + t.amount ≤ COIN_MAX := by
      intro p hpayee hgame deducted
      rw [RoyalWorld.goldOf_handleKing hidle haccept hpayee (Option.isSome_iff_ne_none.mp hgame),
        sound_saturating_iff]
    constructor
    · rintro hsound u p hu hpayee hgame
      obtain rfl := Option.some.inj hu
      exact (hafter p hpayee hgame _).mp (hsound p ⟨hpayee, hgame⟩)
    · rintro hfits p ⟨hpayee, hgame⟩
      exact (hafter p hpayee hgame _).mpr (hfits t p rfl hpayee hgame)

variable {table : ItemTable} {s : LootWorld Pos} {req : LootRequest Pos} {b : GroundBundle Pos}
  {slotId : Fin NPC_HAVE_ITEM_LIST}

/-- A request that gets as far as the stack takes it. -/
theorem handle_of_admits (table : ItemTable) (h : s.Admits req b slotId) :
    s.handle table req =
      if (b.items slotId).itemId = ITEM_GOLD then
        (s.taken req.bundleId b slotId).pickGold req.env req.sid req.bundleId slotId b.position
          (b.items slotId).count
      else (s.taken req.bundleId b slotId).pickItem table req.env req.sid req.bundleId slotId
        (b.items slotId).itemId (b.items slotId).count := by
  obtain ⟨hgame, hidle, hslot, hb, hloot, hstack, pos, hpos, hfar⟩ := h
  have hnone : ¬ (s.pickers req.sid).isNone := fun hnone =>
    hgame (Option.isNone_iff_eq_none.mp hnone)
  have hlt : req.slotId < NPC_HAVE_ITEM_LIST := hslot ▸ slotId.isLt
  obtain rfl : slotId = ⟨req.slotId, hlt⟩ := Fin.ext hslot
  have htake : ¬ ((b.items ⟨req.slotId, hlt⟩).itemId = 0 ∨ (b.items ⟨req.slotId, hlt⟩).count = 0) := by
    unfold LootItem.isEmpty at hstack
    simpa using hstack
  unfold LootWorld.handle LootWorld.tryTakeBundleItem
  dsimp only
  rw [if_neg hnone, hidle, if_neg Bool.false_ne_true, dif_pos hlt, hb]
  dsimp only
  rw [hloot, Bool.not_true, if_neg Bool.false_ne_true, if_neg htake, hpos]
  dsimp only
  rw [hfar, if_neg Bool.false_ne_true, if_neg htake]
  dsimp only
  rw [if_neg (not_not.mpr rfl)]
  rfl

omit [Inhabited Pos] in
theorem mem_eligible_pickers {env : LootEnv Pos} {members : List ℕ} {position : Pos} {sid : ℕ}
    (h : sid ∈ s.eligible env members position) : s.pickers sid ≠ none := by
  unfold LootWorld.eligible at h
  have hmem := (List.mem_filter.mp h).2
  simp only [Bool.and_eq_true] at hmem
  exact Option.isSome_iff_ne_none.mp hmem.1.1

/-- The shares of a party, where there is somebody to get them. -/
theorem payments_of_party {members : List ℕ} (hadmits : s.Admits req b slotId)
    (hgold : (b.items slotId).itemId = ITEM_GOLD)
    (hparty : (req.env.partyId req.sid).bind req.env.party = some members) :
    groundPayments table s req = (s.eligible req.env members b.position).map fun sid =>
      let share := (b.items slotId).count / (s.eligible req.env members b.position).length
      let credit := lootGold (req.env.bonus sid) share
      ⟨s.goldOf sid, credit, goldGain (s.goldOf sid) credit, share⟩ := by
  have hsharers : sharers s req = s.eligible req.env members b.position := by
    unfold sharers
    rw [hparty, hadmits.bundle]
  have hcount : groundCount s req = (b.items slotId).count := by
    have hlt : req.slotId < NPC_HAVE_ITEM_LIST := hadmits.slot ▸ slotId.isLt
    obtain rfl : slotId = ⟨req.slotId, hlt⟩ := Fin.ext hadmits.slot
    unfold groundCount
    rw [dif_pos hlt, hadmits.bundle]
    rfl
  unfold groundPayments
  rw [handle_of_admits table hadmits, if_pos hgold]
  unfold LootWorld.pickGold
  rw [hparty, hcount, hsharers]
  have htaken : s.eligible req.env members b.position =
    (s.taken req.bundleId b slotId).eligible req.env members b.position := rfl
  rw [htaken]
  dsimp only
  split_ifs with hnobody
  · rw [hnobody]
    rfl
  · refine List.map_congr_left fun sid hsid => ?_
    obtain ⟨p, -, hp⟩ := Option.bind_eq_some_iff.mp hparty
    have hnodup : ((s.taken req.bundleId b slotId).eligible req.env members b.position).Nodup :=
      (req.env.party_nodup p members hp).filter _
    have hgained := goldOf_foldl hnodup (fun m hm => mem_eligible_pickers hm)
      (fun m => lootGold (req.env.bonus m) ((b.items slotId).count /
        ((s.taken req.bundleId b slotId).eligible req.env members b.position).length)) sid
    unfold shareOf
    exact congrArg (fun after => Payment.mk _ _ after _) (hgained.trans (if_pos hsid))

/-- What a picker without a party gets has been checked. -/
theorem sound_solo (hadmits : s.Admits req b slotId)
    (hgold : (b.items slotId).itemId = ITEM_GOLD)
    (hparty : (req.env.partyId req.sid).bind req.env.party = none) :
    ∀ p ∈ groundPayments table s req, p.Sound := by
  unfold groundPayments
  rw [handle_of_admits table hadmits, if_pos hgold]
  unfold LootWorld.pickGold
  rw [hparty]
  dsimp only
  split_ifs with hfull
  · simp
  · refine List.forall_mem_singleton.mpr ?_
    have hgained := goldOf_goldGain (lootGold (req.env.bonus req.sid) (b.items slotId).count) req.sid
      (show (s.taken req.bundleId b slotId).pickers req.sid ≠ none from hadmits.inGame)
    unfold shareOf
    rw [hgained, if_pos rfl]
    have hroom : s.goldOf req.sid + (b.items slotId).count ≤ COIN_MAX := Nat.le_of_not_lt hfull
    refine sound_goldGain_iff.mpr ?_
    omega

theorem groundPayments_eq_nil {r : LootResult} {t : LootWorld Pos}
    (h : s.handle table req = (r, t)) (hr : r.delivers = false) :
    groundPayments table s req = [] := by
  unfold groundPayments
  rw [h]
  cases r with
  | solo _ _ _ _ => cases hr
  | itemGivenAway => cases hr
  | _ => rfl

theorem sound_ground_iff (table : ItemTable) (s : LootWorld Pos) (req : LootRequest Pos) :
    (∀ p ∈ groundPayments table s req, p.Sound) ↔ SharesFit s req := by
  by_cases hreaches : ∃ b slotId, s.Admits req b slotId ∧ (b.items slotId).itemId = ITEM_GOLD
  · obtain ⟨b, slotId, hadmits, hgold⟩ := hreaches
    cases hparty : (req.env.partyId req.sid).bind req.env.party with
    | none =>
      refine ⟨fun _ _ _ members _ _ hsome => ?_, fun _ => sound_solo hadmits hgold hparty⟩
      exact absurd (hparty.symm.trans hsome) (Option.some_ne_none members).symm
    | some members =>
      rw [payments_of_party hadmits hgold hparty, List.forall_mem_map]
      simp only [sound_goldGain_iff]
      refine ⟨fun hfits b' slotId' members' hadmits' _ hsame => ?_, fun hfits =>
        hfits b slotId members hadmits hgold hparty⟩
      obtain rfl : b = b' := Option.some.inj (hadmits.bundle.symm.trans hadmits'.bundle)
      obtain rfl : slotId = slotId' := Fin.ext (hadmits.slot.trans hadmits'.slot.symm)
      obtain rfl : members = members' := Option.some.inj (hparty.symm.trans hsame)
      exact hfits
  · refine ⟨fun _ b slotId _ hadmits hgold => absurd ⟨b, slotId, hadmits, hgold⟩ hreaches,
      fun _ => ?_⟩
    rcases handle_cases table s req with ⟨r, hr, hdelivers⟩ | ⟨b, slotId, hadmits, heq⟩
    · rw [groundPayments_eq_nil hr hdelivers]
      simp
    · rw [if_neg fun hgold => hreaches ⟨b, slotId, hadmits, hgold⟩] at heq
      obtain ⟨r, -, hdelivers, hitem⟩ | ⟨picker, dstPos, slot, gold, -, -, -, -, hitem⟩ :=
        pickItem_cases table req.env (s.taken req.bundleId b slotId) req.sid req.bundleId slotId
          (b.items slotId).itemId (b.items slotId).count
      · rw [groundPayments_eq_nil (heq.trans hitem) hdelivers]
        simp
      · unfold groundPayments
        rw [heq, hitem]
        simp

end Payments

/-- Gold stays below the cap, and what the cap cuts off is not deducted from the payer, just where
there is room for what nothing checks. -/
theorem gold_capped_iff {Pos : Type} [Inhabited Pos] (op : GoldOperation Pos)
    (h : ∀ p ∈ op.payments, p.before ≤ COIN_MAX) : (∀ p ∈ op.payments, p.Sound) ↔ op.Fits := by
  cases op with
  | gain gold amount =>
    have hgold : gold ≤ COIN_MAX := h _ List.mem_cons_self
    refine ⟨fun _ => trivial, fun _ => List.forall_mem_singleton.mpr ?_⟩
    rw [sound_goldGain_iff, Nat.min_zero]
    exact hgold
  | npcSale ctx s reader =>
    exact ⟨fun _ => trivial, fun _ => List.forall_mem_singleton.mpr
      (sound_npcSale ctx s reader (h _ List.mem_cons_self))⟩
  | tradeDelivery table env w reached sid =>
    exact ⟨fun _ => trivial, fun _ => sound_deliveries reached sid h⟩
  | shopSale ctx m req =>
    exact ⟨fun _ => trivial, fun _ => List.forall_mem_singleton.mpr
      (sound_shopPayment ctx m req (h _ List.mem_cons_self))⟩
  | wantedSale ctx m req =>
    exact List.forall_mem_singleton.trans
      (sound_wantedPayment_iff ctx m req (h _ List.mem_cons_self))
  | royal s idle sid now data => exact sound_royal_iff s idle sid now data
  | groundGold table s req => exact sound_ground_iff table s req

/-! A king who collects a tax of 1000, and a citizen whose name the others know. -/

def palace (gold : ℕ) : RoyalWorld where
  kingSystems := fun nation =>
    if nation = 1 then
      some
        { territoryTariff := 10, nationalTreasury := 90000000, territoryTax := 1000
          kingName := "King".toList, noahEvent := none, expEvent := none }
    else none
  citizens := fun sid =>
    if sid = 1 then some ⟨"King".toList, 1, gold⟩
    else if sid = 2 then some ⟨"Winner".toList, 1, 700⟩
    else none
  findSessionByName := fun name => if name = "Winner".toList then some 2 else none
  inFlight := []

def collection (gold : ℕ) : GoldOperation ℕ :=
  .royal (palace gold) rfl 1 ⟨1, 12, 0⟩ [3, 2]

theorem gold_capped_iff_collection : (∀ p ∈ (collection 500).payments, p.before ≤ COIN_MAX) ∧
    ∀ p ∈ (collection 500).payments, p.Sound := by
  have hcap : ∀ p ∈ (collection 500).payments, p.before ≤ COIN_MAX := by decide +kernel
  refine ⟨hcap, (gold_capped_iff (collection 500) hcap).mpr fun t p haccept hpayee _ => ?_⟩
  have htask : (palace 500).accept 1 ⟨1, 12, 0⟩ [3, 2] =
      some ⟨1, 1, .collectTax, ⟨1, 12, 0⟩, 1000, some 1, false⟩ := by decide +kernel
  obtain rfl := Option.some.inj (htask.symm.trans haccept)
  obtain rfl := Option.some.inj hpayee
  decide +kernel

/-- A king who has the cap already gets the tax on top of it. -/
theorem tax_above_cap : ¬ ∀ op : GoldOperation ℕ,
    (∀ p ∈ op.payments, p.before ≤ COIN_MAX) → ∀ p ∈ op.payments, p.Sound := by
  intro h
  have hsound := h (collection COIN_MAX) (by decide +kernel)
  revert hsound
  decide +kernel

end KoServer
