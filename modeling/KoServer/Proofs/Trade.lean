import KoServer.Lib.Pairing
import KoServer.Lib.Run
import KoServer.Proofs.TradeSession

/-! What all players hold together while they trade. A handler rewrites one player and the
partner, so every step is a move between two accounts. -/

namespace KoServer

open Ledger

def TradeState.isOpen : TradeState → Bool
  | .trading => true
  | .deciding => true
  | _ => false

/-- A session by itself: offers only in an open trade, a partner only in a trade. -/
structure Fit (table : ItemTable) (h : Session) : Prop where
  sound : Sound table h
  early : h.tradeState.isOpen = false → h.exchangeItems = []
  idle : h.exchangeUser = none ↔ h.tradeState = .none

/-- Two sessions are each other's partner at the same stage, or neither has one. -/
def Linked (a b : SessionId) (h k : Session) : Prop :=
  h.exchangeUser = none ∧ k.exchangeUser = none ∨
    h.exchangeUser = some b ∧ k.exchangeUser = some a ∧
      k.tradeState.isOpen = h.tradeState.isOpen

structure Coherent (table : ItemTable) (w : World) : Prop where
  fit : ∀ s h, w s = some h → Fit table h
  paired : ∀ s h p, w s = some h → h.exchangeUser = some p →
    s ≠ p ∧ ∃ k, w p = some k ∧ Linked s p h k

/-- The moves of a trade: two linked sessions are rewritten, and what they hold together
stays. -/
inductive Moves (table : ItemTable) : World → World → Prop where
  | stay {w : World} : Moves table w w
  | trans {w w' w'' : World} (h : Moves table w w') (h' : Moves table w' w'') : Moves table w w''
  | pair {w : World} {a b : SessionId} {h k h' k' : Session} (hab : a ≠ b) (hh : w a = some h)
      (hk : w b = some k) (hlinked : Linked a b h k) (hfit : Fit table h') (hfit' : Fit table k')
      (hlinked' : Linked a b h' k')
      (hheld : ∀ id, id ≠ 0 → h'.held table id + k'.held table id = h.held table id + k.held table id)
      (hcoins : h'.coins + k'.coins = h.coins + k.coins) :
      Moves table w (rewrite w a b h' k')

section Coherence

variable {table : ItemTable} {w w' : World} {a b : SessionId} {h k h' k' : Session}

theorem coherent_rewrite (hc : Coherent table w) (hab : a ≠ b) (hh : w a = some h)
    (hk : w b = some k) (hlinked : Linked a b h k) (hfit : Fit table h') (hfit' : Fit table k')
    (hlinked' : Linked a b h' k') : Coherent table (rewrite w a b h' k') := by
  refine ⟨fun s g hs => ?_, ?_⟩
  · rcases eq_or_ne s b with rfl | hsb
    · obtain rfl := Option.some.inj (rewrite_right.symm.trans hs)
      exact hfit'
    rcases eq_or_ne s a with rfl | hsa
    · obtain rfl := Option.some.inj ((rewrite_left hsb).symm.trans hs)
      exact hfit
    · exact hc.fit s g (by rwa [rewrite_other hsa hsb] at hs)
  · have hpaired : Pairing.Paired Session.exchangeUser
      (fun h k => k.tradeState.isOpen = h.tradeState.isOpen) w := hc.paired
    exact hpaired.rewrite (fun _ _ => Eq.symm) hab hh hk hlinked hlinked'

theorem coherent_of_moves (hm : Moves table w w') (hc : Coherent table w) : Coherent table w' := by
  induction hm with
  | stay => exact hc
  | trans _ _ ih ih' => exact ih' (ih hc)
  | pair hab hh hk hlinked hfit hfit' hlinked' _ _ =>
    exact coherent_rewrite hc hab hh hk hlinked hfit hfit' hlinked'

theorem partner_spec (hc : Coherent table w) {p : SessionId} (hh : w a = some h)
    (huser : h.exchangeUser = some p) : a ≠ p ∧ ∃ k, w p = some k ∧ Linked a p h k ∧
      k.exchangeUser = some a ∧ k.tradeState.isOpen = h.tradeState.isOpen := by
  have hpaired : Pairing.Paired Session.exchangeUser
    (fun h k => k.tradeState.isOpen = h.tradeState.isOpen) w := hc.paired
  obtain ⟨hap, k, hk, hback, hopen⟩ := hpaired.partner_spec hh huser
  exact ⟨hap, k, hk, Or.inr ⟨huser, hback, hopen⟩, hback, hopen⟩

theorem worth_of_moves {S : Finset SessionId} (hm : Moves table w w')
    (hS : ∀ s, s ∉ S → w s = none) :
    (∀ s, s ∉ S → w' s = none) ∧
      (∀ id, id ≠ 0 → worth (Session.held table id) S w' = worth (Session.held table id) S w) ∧
      worth Session.coins S w' = worth Session.coins S w := by
  induction hm with
  | stay => exact ⟨hS, fun _ _ => rfl, rfl⟩
  | trans _ _ ih ih' =>
    obtain ⟨hS', hheld, hcoins⟩ := ih hS
    obtain ⟨hS'', hheld', hcoins'⟩ := ih' hS'
    exact ⟨hS'', fun id hid => (hheld' id hid).trans (hheld id hid), hcoins'.trans hcoins⟩
  | @pair v _ _ _ _ _ _ hab hh hk _ _ _ _ hheld hcoins =>
    have hmem : ∀ {s g}, v s = some g → s ∈ S := by
      intro s g hs
      by_contra hout
      rw [hS s hout] at hs
      cases hs
    have ha := hmem hh
    have hb := hmem hk
    refine ⟨fun s hs => ?_, fun id hid => ?_, ?_⟩
    · rw [rewrite_other (by rintro rfl; exact hs ha) (by rintro rfl; exact hs hb)]
      exact hS s hs
    · exact worth_rewrite hab ha hb hh hk (hheld id hid)
    · exact worth_rewrite hab ha hb hh hk hcoins

end Coherence

section Access

variable {w : World} {a b : SessionId} {h k h' : Session} {f g : Session → Session}

theorem session_eq (hh : w a = some h) : w.session a = h := by
  rw [World.session, hh, Option.getD_some]

theorem modify_eq (hh : w a = some h) : w.modify a f = Function.update w a (some (f h)) := by
  funext s
  unfold World.modify
  split_ifs with hs
  · rw [hs, hh, Function.update_self]
    rfl
  · rw [Function.update_of_ne hs]

theorem modify_self (hh : w a = some h) : w.modify a f a = some (f h) := by
  rw [modify_eq hh, Function.update_self]

theorem modify_other (hab : b ≠ a) : w.modify a f b = w b := if_neg hab

/-- Two writes, to two sessions. -/
theorem modify_modify (hab : a ≠ b) (hh : w a = some h) (hk : w b = some k) :
    (w.modify a f).modify b g = rewrite w a b (f h) (g k) := by
  have hk' : w.modify a f b = some k := by rw [modify_other hab.symm, hk]
  rw [modify_eq hk', modify_eq hh]
  rfl

theorem modify_pair (hab : a ≠ b) (hh : w a = some h) (hk : w b = some k) :
    w.modify a f = rewrite w a b (f h) k := by
  rw [modify_eq hh, rewrite, eq_comm, Function.update_eq_self_iff, Function.update_of_ne hab.symm, hk]

theorem modify_twice : (w.modify a f).modify a g = w.modify a (g ∘ f) := by
  funext s
  unfold World.modify
  split_ifs with hs
  · rw [Option.map_map]
  · rfl

end Access

section Settling

variable {table : ItemTable} {w : World} {sid p : SessionId} {h k : Session}

/-- Every slot has room for what comes back to it, and so has the purse. -/
structure Session.Room (h : Session) : Prop where
  slots : ∀ i,
    (h.inventory.slot i).count + Tally.total (offeredFrom i) h.exchangeItems ≤ ITEMCOUNT_MAX
  gold : GoldFits h.gold h.exchangeItems

def Session.settle (h : Session) : Session := h.giveItemsBack.resetTrade

theorem returnable_of_sound (hs : Sound table h) (hroom : h.Room) :
    Returnable table h h.exchangeItems :=
  ⟨hs.tidy, hs.home, hs.compatible, hroom.slots, hroom.gold⟩

theorem fit_reset {g : Session} (htidy : Tidy g.inventory) (hgold : g.gold < 2 ^ 32) :
    Fit table g.resetTrade :=
  ⟨sound_of_no_offers htidy hgold rfl, fun _ => rfl, by constructor <;> intro <;> rfl⟩

theorem fit_settle (hs : Sound table h) (hroom : h.Room) : Fit table h.settle := by
  obtain ⟨htidy, -, hgold⟩ := foldl_giveItemBack (returnable_of_sound hs hroom)
  exact fit_reset htidy (hgold.trans_lt hs.coins)

theorem held_reset {g : Session} {id : ℕ} :
    g.resetTrade.held table id = units table id g.inventory := rfl

theorem coins_reset {g : Session} : g.resetTrade.coins = g.gold := rfl

theorem held_settle (hs : Sound table h) (hroom : h.Room) :
    (∀ id, id ≠ 0 → h.settle.held table id = h.held table id) ∧ h.settle.coins = h.coins := by
  obtain ⟨-, hunits, hgold⟩ := foldl_giveItemBack (returnable_of_sound hs hroom)
  exact ⟨hunits, hgold⟩

theorem linked_reset {a b : SessionId} {h k : Session} : Linked a b h.resetTrade k.resetTrade :=
  Or.inl ⟨rfl, rfl⟩

/-- The player and the partner can be given back their offers. -/
def CanReturn (w : World) (sid : SessionId) : Prop :=
  (w.session sid).Room ∧ ∀ p, w.exchangeUser sid = some p → (w.session p).Room

theorem moves_settle (hc : Coherent table w) (hsp : sid ≠ p) (hh : w sid = some h)
    (hk : w p = some k) (hlinked : Linked sid p h k) (hroom : h.Room) (hroom' : k.Room) :
    Moves table w (rewrite w sid p h.settle k.settle) := by
  have hs := (hc.fit sid h hh).sound
  have hs' := (hc.fit p k hk).sound
  obtain ⟨hheld, hcoins⟩ := held_settle hs hroom
  obtain ⟨hheld', hcoins'⟩ := held_settle hs' hroom'
  apply Moves.pair hsp hh hk hlinked (fit_settle hs hroom) (fit_settle hs' hroom') linked_reset
  · intro id hid
    rw [hheld id hid, hheld' id hid]
  · rw [hcoins, hcoins']

theorem exchangeCancel_eq (hsp : sid ≠ p) (hh : w sid = some h) (hk : w p = some k)
    (hstate : h.tradeState ≠ .none) (hstate' : k.tradeState ≠ .none)
    (huser : h.exchangeUser = some p) :
    exchangeCancel w sid = rewrite w sid p h.settle k.settle := by
  have htwo : ∀ (v : World) (s : SessionId),
      (v.giveItemsBack s).resetTrade s = v.modify s Session.settle := fun v s => modify_twice
  have hp : w.modify sid Session.settle p = some k := by rw [modify_other hsp.symm, hk]
  unfold exchangeCancel
  simp only [World.tradeState, World.exchangeUser, session_eq hh, htwo]
  rw [if_neg hstate, huser]
  dsimp only
  rw [session_eq hp, if_pos hstate', modify_modify hsp hh hk]

theorem moves_cancel (hc : Coherent table w) (hh : w sid = some h)
    (hfair : w.tradeState sid ≠ .none → CanReturn w sid) :
    Moves table w (exchangeCancel w sid) := by
  rw [World.tradeState, session_eq hh] at hfair
  by_cases hstate : h.tradeState = .none
  · have hsame : exchangeCancel w sid = w := by
      unfold exchangeCancel
      rw [World.tradeState, session_eq hh, if_pos hstate]
    rw [hsame]
    exact Moves.stay
  · obtain ⟨hroom, hroom'⟩ := hfair hstate
    obtain ⟨p, huser⟩ := Option.ne_none_iff_exists'.mp fun hnone =>
      hstate ((hc.fit sid h hh).idle.mp hnone)
    obtain ⟨hsp, k, hk, hlinked, hback, -⟩ := partner_spec hc hh huser
    have hstate' : k.tradeState ≠ .none := fun hnone => by
      rw [(hc.fit p k hk).idle.mpr hnone] at hback
      cases hback
    rw [session_eq hh] at hroom
    have hroomk := hroom' p (by rw [World.exchangeUser, session_eq hh, huser])
    rw [session_eq hk] at hroomk
    rw [exchangeCancel_eq hsp hh hk hstate hstate' huser]
    exact moves_settle hc hsp hh hk hlinked hroom hroomk

end Settling

section Requests

variable {table : ItemTable} {env : TradeEnv} {w : World} {sid p target : SessionId} {h k : Session}

theorem isTrading_eq (hh : w sid = some h) : w.isTrading sid = h.exchangeUser.isSome := by
  rw [World.isTrading, World.exchangeUser, session_eq hh]

theorem Fit.no_offers (hf : Fit table h) (hnone : h.exchangeUser = none) : h.exchangeItems = [] := by
  apply hf.early
  rw [hf.idle.mp hnone]
  rfl

/-- A session that has offered nothing may change its part in the trade. -/
theorem fit_no_offers {g : Session} (hf : Fit table h) (hno : h.exchangeItems = [])
    (hinv : g.inventory = h.inventory) (hgold : g.gold = h.gold)
    (hitems : g.exchangeItems = h.exchangeItems)
    (hidle : g.exchangeUser = none ↔ g.tradeState = .none) : Fit table g := by
  refine ⟨sound_of_no_offers ?_ ?_ (hitems.trans hno), fun _ => hitems.trans hno, hidle⟩
  · rw [hinv]
    exact hf.sound.tidy
  · rw [hgold]
    exact hf.sound.gold_lt

theorem moves_req (hc : Coherent table w) (hh : w sid = some h)
    (hfair : w.isTrading sid = true → CanReturn w sid) :
    Moves table w (exchangeReq env w sid target) := by
  unfold exchangeReq
  split_ifs with htrading hrefused
  · exact moves_cancel hc hh fun _ => hfair htrading
  · exact Moves.stay
  · simp only [Bool.or_eq_true, not_or, Option.isNone_iff_eq_none, Bool.not_eq_true] at hrefused
    obtain ⟨hpresent, hreq⟩ := hrefused
    obtain ⟨k, hk⟩ := Option.ne_none_iff_exists'.mp hpresent
    simp only [reqRefused, Bool.or_eq_false_iff, decide_eq_false_iff_not] at hreq
    have hst : sid ≠ target := fun heq => hreq.1.1.1.1.1.1.1.1.1.1 heq.symm
    have hbusy := hreq.1.1.1.2
    rw [isTrading_eq hh, Bool.not_eq_true, Option.isSome_eq_false_iff,
      Option.isNone_iff_eq_none] at htrading
    rw [isTrading_eq hk, Option.isSome_eq_false_iff, Option.isNone_iff_eq_none] at hbusy
    have hfit := hc.fit sid h hh
    have hfit' := hc.fit target k hk
    unfold World.initTradeRequest
    rw [modify_modify hst hh hk]
    apply Moves.pair hst hh hk (Or.inl ⟨htrading, hbusy⟩)
    · exact fit_no_offers hfit (hfit.no_offers htrading) rfl rfl rfl (by simp)
    · exact fit_no_offers hfit' (hfit'.no_offers hbusy) rfl rfl rfl (by simp)
    · exact Or.inr ⟨rfl, rfl, rfl⟩
    · intro id _
      rfl
    · rfl

/-- Two sessions without offers are reset. -/
theorem moves_reset (hc : Coherent table w) (hsp : sid ≠ p) (hh : w sid = some h)
    (hk : w p = some k) (hlinked : Linked sid p h k) (hno : h.exchangeItems = [])
    (hno' : k.exchangeItems = []) : Moves table w ((w.resetTrade sid).resetTrade p) := by
  have heq : (w.resetTrade sid).resetTrade p = rewrite w sid p h.resetTrade k.resetTrade :=
    modify_modify hsp hh hk
  rw [heq]
  have hs := (hc.fit sid h hh).sound
  have hs' := (hc.fit p k hk).sound
  apply Moves.pair hsp hh hk hlinked (fit_reset hs.tidy hs.gold_lt) (fit_reset hs'.tidy hs'.gold_lt)
    linked_reset
  · intro id _
    rw [held_reset, held_reset]
    simp only [Session.held, hno, hno', Tally.total_nil, Nat.add_zero]
  · rw [coins_reset, coins_reset]
    simp only [Session.coins, hno, hno', Tally.total_nil, Nat.add_zero]

theorem moves_agree (hc : Coherent table w) (hh : w sid = some h) (accepted : ℕ) :
    Moves table w (exchangeAgree env w sid accepted) := by
  unfold exchangeAgree
  rw [World.exchangeUser, session_eq hh]
  split
  · exact Moves.stay
  next p huser =>
  obtain ⟨hsp, k, hk, hlinked, hback, hopen⟩ := partner_spec hc hh huser
  rw [World.tradeState, session_eq hh]
  split
  · exact Moves.stay
  next hstate =>
  rw [not_not] at hstate
  have hfit := hc.fit sid h hh
  have hfit' := hc.fit p k hk
  have hclosed : h.tradeState.isOpen = false := by rw [hstate]; rfl
  have hno := hfit.early hclosed
  have hno' := hfit'.early (hopen.trans hclosed)
  have hreset := moves_reset hc hsp hh hk hlinked hno hno'
  split_ifs
  · exact hreset
  · unfold World.tradeDecline
    rw [World.exchangeUser, session_eq hh, huser]
    exact hreset
  · unfold World.tradeAgree
    rw [World.exchangeUser, session_eq hh, huser]
    dsimp only
    rw [modify_modify hsp hh hk]
    apply Moves.pair hsp hh hk hlinked
    · exact fit_no_offers hfit hno rfl rfl rfl (by simp [Session.setTradeState, huser])
    · exact fit_no_offers hfit' hno' rfl rfl rfl (by simp [Session.setTradeState, hback])
    · exact Or.inr ⟨huser, hback, rfl⟩
    · intro id _
      rfl
    · rfl

end Requests

section Adding

variable {table : ItemTable} {env : TradeEnv} {w : World} {sid p : SessionId} {h k : Session}
  {req : ExchangeAdd}

/-- A verdict that is not the guard's own gets past the guard. -/
theorem past_guard {α : Type*} {c : Prop} [Decidable c] {r x v : α}
    (hv : (if c then r else x) = v) (hne : r ≠ v) : ¬ c ∧ x = v := by
  by_cases hc : c
  · rw [if_pos hc] at hv
    exact absurd hv hne
  · rw [if_neg hc] at hv
    exact ⟨hc, hv⟩

/-- The checks on the partner come first, whatever is offered. -/
theorem addVerdict_trading {v : AddVerdict} (hv : addVerdict table env w sid req = v)
    (hne : v ≠ .refused) : w.tradeState sid = .trading := by
  unfold addVerdict at hv
  obtain ⟨-, hv⟩ := past_guard hv hne.symm
  split at hv
  · exact absurd hv.symm hne
  · obtain ⟨hstate, -⟩ := past_guard hv hne.symm
    exact not_not.mp hstate

theorem addVerdict_offer {v : AddVerdict} (hv : addVerdict table env w sid req = v)
    (hne : v ≠ .refused) (hne' : v ≠ .cancel) :
    req.itemId ≠ 0 ∧ ¬ (req.itemId ≠ ITEM_GOLD ∧ itemRefused table req = true) ∧
      (if req.itemId = ITEM_GOLD then
        if (w.session sid).gold < req.count then AddVerdict.refused else .gold
      else if slotRefused (w.session sid).inventory req then .refused
      else .item) = v := by
  unfold addVerdict at hv
  obtain ⟨-, hv⟩ := past_guard hv hne.symm
  split at hv
  · exact absurd hv.symm hne
  · obtain ⟨-, hv⟩ := past_guard hv hne.symm
    obtain ⟨-, hv⟩ := past_guard hv hne'.symm
    obtain ⟨-, hv⟩ := past_guard hv hne.symm
    obtain ⟨hzero, hv⟩ := past_guard hv hne.symm
    obtain ⟨-, hv⟩ := past_guard hv hne.symm
    obtain ⟨hitem, hv⟩ := past_guard hv hne.symm
    obtain ⟨-, hv⟩ := past_guard hv hne.symm
    exact ⟨(not_or.mp hzero).2, hitem, hv⟩

theorem addVerdict_gold (hv : addVerdict table env w sid req = .gold) :
    req.count ≤ (w.session sid).gold := by
  obtain ⟨-, -, hv⟩ := addVerdict_offer hv (by decide) (by decide)
  by_cases hgold : req.itemId = ITEM_GOLD
  · rw [if_pos hgold] at hv
    exact not_lt.mp (past_guard hv (by decide)).1
  · rw [if_neg hgold] at hv
    cases (past_guard hv (by decide)).2

theorem addVerdict_gold_id (hv : addVerdict table env w sid req = .gold) :
    req.itemId = ITEM_GOLD := by
  obtain ⟨-, -, hv⟩ := addVerdict_offer hv (by decide) (by decide)
  by_contra hgold
  rw [if_neg hgold] at hv
  cases (past_guard hv (by decide)).2

theorem not_slotRefused {inv : Inventory} (h : slotRefused inv req = false) :
    SLOT_MAX + req.pos < inv.length ∧ (inv.slot (SLOT_MAX + req.pos)).itemId = req.itemId ∧
      asU16 req.count ≤ (inv.slot (SLOT_MAX + req.pos)).count := by
  unfold slotRefused at h
  split at h
  · cases h
  · next slot hslot =>
    have hread : inv.slot (SLOT_MAX + req.pos) = slot := Inventory.slot_of_getElem? hslot
    simp only [Bool.or_eq_false_iff, decide_eq_false_iff_not, not_not, not_lt] at h
    rw [hread]
    exact ⟨(List.getElem?_eq_some_iff.mp hslot).1, h.1.1.1.1.1.1.1, h.1.1.1.1.1.1.2⟩

theorem addVerdict_item (hv : addVerdict table env w sid req = .item) :
    Offerable (w.session sid) req := by
  obtain ⟨hid, hitem, hv⟩ := addVerdict_offer hv (by decide) (by decide)
  by_cases hgold : req.itemId = ITEM_GOLD
  · rw [if_pos hgold] at hv
    cases (past_guard hv (by decide)).2
  · rw [if_neg hgold] at hv
    obtain ⟨hslot, -⟩ := past_guard hv (by decide)
    obtain ⟨hrange, hsame, henough⟩ := not_slotRefused (Bool.eq_false_iff.mpr hslot)
    have hnot : ¬ itemRefused table req = true := fun href => hitem ⟨hgold, href⟩
    simp only [itemRefused, Bool.or_eq_true, not_or, decide_eq_true_eq, not_le] at hnot
    exact ⟨hnot.1.1.1, hid, hgold, hrange, hsame, henough⟩

theorem addVerdict_item_count (hv : addVerdict table env w sid req = .item) :
    ((w.session sid).inventory.slot (SLOT_MAX + req.pos)).count ≠ 0 := by
  obtain ⟨-, -, hv⟩ := addVerdict_offer hv (by decide) (by decide)
  by_cases hgold : req.itemId = ITEM_GOLD
  · rw [if_pos hgold] at hv
    cases (past_guard hv (by decide)).2
  · rw [if_neg hgold] at hv
    have hslot := (past_guard hv (by decide)).1
    unfold slotRefused at hslot
    split at hslot
    · exact absurd rfl hslot
    · next slot hget =>
      rw [Inventory.slot_of_getElem? hget]
      intro hzero
      simp [hzero] at hslot

theorem addVerdict_count {v : AddVerdict} (hv : addVerdict table env w sid req = v)
    (hne : v ≠ .refused) (hne' : v ≠ .cancel) : 0 < req.count := by
  unfold addVerdict at hv
  obtain ⟨-, hv⟩ := past_guard hv hne.symm
  split at hv
  · exact absurd hv.symm hne
  · obtain ⟨-, hv⟩ := past_guard hv hne.symm
    obtain ⟨-, hv⟩ := past_guard hv hne'.symm
    obtain ⟨-, hv⟩ := past_guard hv hne.symm
    obtain ⟨hzero, -⟩ := past_guard hv hne.symm
    exact Nat.pos_of_ne_zero (not_or.mp hzero).1

theorem addVerdict_known (hv : addVerdict table env w sid req = .item) :
    (table req.itemId).isSome := by
  have hgold := (addVerdict_item hv).not_gold
  obtain ⟨-, hitem, -⟩ := addVerdict_offer hv (by decide) (by decide)
  by_contra hunknown
  rw [Bool.not_eq_true, Option.isSome_eq_false_iff, Option.isNone_iff_eq_none] at hunknown
  exact hitem ⟨hgold, by simp [itemRefused, hunknown]⟩

theorem ne_none_of_isOpen {state : TradeState} (hopen : state.isOpen = true) : state ≠ .none := by
  rintro rfl
  cases hopen

/-- In an open trade a player may change what is in the slots and on the list. -/
theorem moves_open (hc : Coherent table w) (hh : w sid = some h) (hopen : h.tradeState.isOpen = true)
    {f : Session → Session} (huser : (f h).exchangeUser = h.exchangeUser)
    (hopen' : (f h).tradeState.isOpen = true) (hsound : Sound table (f h))
    (hheld : ∀ id, id ≠ 0 → (f h).held table id = h.held table id)
    (hcoins : (f h).coins = h.coins) : Moves table w (w.modify sid f) := by
  have hfit := hc.fit sid h hh
  obtain ⟨p, hp⟩ := Option.ne_none_iff_exists'.mp fun hnone =>
    ne_none_of_isOpen hopen (hfit.idle.mp hnone)
  obtain ⟨hsp, k, hk, hlinked, hback, hsame⟩ := partner_spec hc hh hp
  rw [modify_pair hsp hh hk]
  apply Moves.pair hsp hh hk hlinked
  · refine ⟨hsound, fun hclosed => ?_, ?_⟩
    · rw [hopen'] at hclosed
      cases hclosed
    · rw [huser, hp]
      exact ⟨fun hnone => absurd hnone (Option.some_ne_none p),
        fun hnone => absurd hnone (ne_none_of_isOpen hopen')⟩
  · exact hc.fit p k hk
  · exact Or.inr ⟨huser.trans hp, hback, by rw [hsame, hopen, hopen']⟩
  · intro id hid
    rw [hheld id hid]
  · rw [hcoins]

theorem offerGold_part (count : ℕ) (h : Session) :
    (h.offerGold count).exchangeUser = h.exchangeUser ∧
      (h.offerGold count).tradeState = h.tradeState := by
  unfold Session.offerGold
  split <;> exact ⟨rfl, rfl⟩

theorem offerItem_part (table : ItemTable) (req : ExchangeAdd) (h : Session) :
    (h.offerItem table req).exchangeUser = h.exchangeUser ∧
      (h.offerItem table req).tradeState = h.tradeState := by
  unfold Session.offerItem
  dsimp only
  split <;> exact ⟨rfl, rfl⟩

theorem moves_add (hc : Coherent table w) (hh : w sid = some h)
    (hreturn : addVerdict table env w sid req = .cancel → CanReturn w sid)
    (hfair : addVerdict table env w sid req = .item → FairOffer table (w.session sid) req) :
    Moves table w (exchangeAdd table env w sid req) := by
  unfold exchangeAdd
  cases hv : addVerdict table env w sid req with
  | refused => exact Moves.stay
  | cancel => exact moves_cancel hc hh fun _ => hreturn hv
  | gold =>
    have hstate := addVerdict_trading hv (by decide)
    have hcount := addVerdict_gold hv
    rw [World.tradeState, session_eq hh] at hstate
    rw [session_eq hh] at hcount
    obtain ⟨huser, hstate'⟩ := offerGold_part req.count h
    obtain ⟨hsound, hcoins, hheld⟩ := sound_offerGold (hc.fit sid h hh).sound hcount
    have hopen : h.tradeState.isOpen = true := by rw [hstate]; rfl
    exact moves_open hc hh hopen huser (hstate' ▸ hopen) hsound (fun id _ => hheld id) hcoins
  | item =>
    have hstate := addVerdict_trading hv (by decide)
    have hoffer := addVerdict_item hv
    have hfull := hfair hv
    rw [World.tradeState, session_eq hh] at hstate
    rw [session_eq hh] at hoffer hfull
    obtain ⟨huser, hstate'⟩ := offerItem_part table req h
    obtain ⟨hsound, hcoins, hheld⟩ := sound_offerItem (hc.fit sid h hh).sound hoffer hfull
    have hopen : h.tradeState.isOpen = true := by rw [hstate]; rfl
    exact moves_open hc hh hopen huser (hstate' ▸ hopen) hsound hheld hcoins

end Adding

section Deciding

variable {table : ItemTable} {env : TradeEnv} {w : World} {sid p : SessionId} {h k : Session}

/-- No offer is larger than a stack. -/
def Session.Small (h : Session) : Prop :=
  ∀ ex ∈ h.exchangeItems, ex.itemId ≠ ITEM_GOLD → ex.count ≤ ITEMCOUNT_MAX

/-- The one entry of gold was checked against the cap. -/
theorem goldFits_of_each {items : List ExchangeItem} {gold : ℕ}
    (hone : items.countP (·.itemId = ITEM_GOLD) ≤ 1)
    (hall : ∀ ex ∈ items, ex.itemId = ITEM_GOLD → gold + ex.count ≤ COIN_MAX) :
    GoldFits gold items := by
  induction items with
  | nil => exact .inl (List.forall_mem_nil _)
  | cons ex items ih =>
    obtain ⟨hfirst, hrest⟩ := List.forall_mem_cons.mp hall
    rw [List.countP_cons] at hone
    by_cases hex : ex.itemId = ITEM_GOLD
    · rw [if_pos (by simpa using hex)] at hone
      have hnone : ∀ e ∈ items, e.itemId ≠ ITEM_GOLD := by
        have hzero : items.countP (·.itemId = ITEM_GOLD) = 0 := by omega
        simpa [List.countP_eq_zero] using hzero
      refine .inr ?_
      rw [Tally.total_cons, offeredGold_gold hex, total_offeredGold_none hnone]
      exact hfirst hex
    · rw [if_neg (by simpa using hex)] at hone
      exact (ih hone hrest).cons_item hex

/-- An item that is placed still lies in its old slot. -/
theorem placeable_spec {ex : ExchangeItem} (hk : w p = some k)
    (hplace : placeable table w sid p ex = true) :
    (table ex.itemId).isSome ∧ (k.inventory.slot ex.srcPos).itemId = ex.itemId := by
  unfold placeable at hplace
  split at hplace
  · cases hplace
  next itemDef hdef =>
  split at hplace
  · cases hplace
  next dstSlot hfind =>
  rw [session_eq hk] at hplace
  simp only [Bool.and_eq_true] at hplace
  obtain ⟨⟨⟨-, hsrc⟩, -⟩, -⟩ := hplace
  split at hsrc
  · cases hsrc
  next src hslot =>
  have hread : k.inventory.slot ex.srcPos = src := Inventory.slot_of_getElem? hslot
  rw [hdef, hread]
  exact ⟨rfl, of_decide_eq_true hsrc⟩

/-- What the two checks of the receiving side establish. -/
theorem receivable_of_checks (hh : w sid = some h) (hk : w p = some k)
    (huser : h.exchangeUser = some p) (htidy : Tidy h.inventory) (hs : Sound table k)
    (hsmall : k.Small) (hcheck : checkExchange table env w sid = true)
    (hexecute : checkExecuteExchange table env w sid = true) :
    Receivable table h k.exchangeItems ∧
      ∀ ex ∈ k.exchangeItems, ex.itemId ≠ ITEM_GOLD →
        (k.inventory.slot ex.srcPos).itemId = ex.itemId ∧ Deliverable table ex := by
  unfold checkExchange at hcheck
  unfold checkExecuteExchange at hexecute
  simp only [World.exchangeUser, World.exchangeItems, session_eq hh, huser, session_eq hk,
    Bool.and_eq_true, List.all_eq_true, decide_eq_true_eq] at hcheck hexecute
  obtain ⟨⟨⟨-, hitems⟩, hfree⟩, -⟩ := hcheck
  obtain ⟨-, -, hplaces⟩ := hexecute
  have hdeliver : ∀ ex ∈ k.exchangeItems, ex.itemId ≠ ITEM_GOLD →
      (k.inventory.slot ex.srcPos).itemId = ex.itemId ∧ Deliverable table ex := by
    intro ex hex hgold
    have hplace := hplaces ex hex
    rw [Bool.or_eq_true, decide_eq_true_eq] at hplace
    obtain ⟨hknown, hsrc⟩ := placeable_spec hk (hplace.resolve_left hgold)
    have hhome := hs.home ex hex hgold
    have hstack := stackable_of_home hhome rfl (by rw [hsrc]; exact hhome.itemId_ne)
    exact ⟨hsrc, hknown, hsrc ▸ hstack.2, hhome.itemId_ne, hsmall ex hex hgold⟩
  refine ⟨⟨htidy, fun ex hex hgold => (hdeliver ex hex hgold).2, ?_, ?_⟩, hdeliver⟩
  · rw [List.countP_eq_length_filter]
    exact hfree
  · refine goldFits_of_each hs.oneGold fun ex hex hgold => ?_
    have hfits := hitems ex hex
    rw [if_pos hgold] at hfits
    exact of_decide_eq_true hfits

theorem received_side {items : List ExchangeItem} (hr : Receivable table h items)
    (hlt : h.gold < 2 ^ 32)
    (hown : ∀ ex ∈ h.exchangeItems, ex.itemId ≠ ITEM_GOLD →
      (h.inventory.slot ex.srcPos).itemId = ex.itemId ∧ Deliverable table ex) :
    Fit table (h.exchangeItems.foldl Session.clearSource
        (items.foldl (Session.receiveItem table) h)).resetTrade ∧
      (∀ id, id ≠ 0 → (h.exchangeItems.foldl Session.clearSource
          (items.foldl (Session.receiveItem table) h)).resetTrade.held table id =
        units table id h.inventory + Tally.total (offeredUnits table id) items) ∧
      (h.exchangeItems.foldl Session.clearSource
          (items.foldl (Session.receiveItem table) h)).resetTrade.coins =
        h.gold + Tally.total offeredGold items := by
  obtain ⟨htidy, -, hunits, hgold, hkeeps⟩ := foldl_receiveItem hr
  have hclear : ∀ ex ∈ h.exchangeItems, ex.itemId ≠ ITEM_GOLD →
      Clearable table (items.foldl (Session.receiveItem table) h).inventory ex.srcPos := by
    intro ex hex hne
    obtain ⟨hsrc, hd⟩ := hown ex hex hne
    right
    rw [hkeeps ex.srcPos (by rw [hsrc]; exact hd.itemId_ne), hsrc]
    exact hd.stackable
  obtain ⟨htidy', hunits', hgold'⟩ := foldl_clearSource htidy hclear
  refine ⟨fit_reset htidy' ?_, fun id hid => ?_, ?_⟩
  · rw [hgold', hgold]
    exact hr.gold.lt hlt
  · rw [held_reset, hunits' id hid, hunits id hid]
  · rw [coins_reset, hgold', hgold]

theorem executeExchange_eq (hsp : sid ≠ p) (hh : w sid = some h) (hk : w p = some k) :
    executeExchange table w sid p = rewrite w sid p
      (h.exchangeItems.foldl Session.clearSource
        (k.exchangeItems.foldl (Session.receiveItem table) h)).resetTrade
      (k.exchangeItems.foldl Session.clearSource
        (h.exchangeItems.foldl (Session.receiveItem table) k)).resetTrade := by
  unfold executeExchange World.resetTrade World.exchangeItems
  rw [session_eq hh, session_eq hk]
  dsimp only
  rw [modify_modify hsp hh hk, modify_modify hsp.symm rewrite_right (rewrite_left hsp),
    rewrite_comm hsp, rewrite_rewrite hsp, modify_modify hsp (rewrite_left hsp) rewrite_right,
    rewrite_rewrite hsp]

/-- The exchange itself, with the sides as the checks found them. -/
theorem moves_execute (hc : Coherent table w) (hsp : sid ≠ p) (hh : w sid = some h)
    (hk : w p = some k) (huser : h.exchangeUser = some p) (hback : k.exchangeUser = some sid)
    (hlinked : Linked sid p h k) (hsmall : h.Small) (hsmall' : k.Small)
    (hcheck : checkExchange table env w sid = true) (hcheck' : checkExchange table env w p = true)
    (hexecute : checkExecuteExchange table env w sid = true)
    (hexecute' : checkExecuteExchange table env w p = true) :
    Moves table w (executeExchange table w sid p) := by
  have hs := (hc.fit sid h hh).sound
  have hs' := (hc.fit p k hk).sound
  obtain ⟨hr, hown'⟩ := receivable_of_checks hh hk huser hs.tidy hs' hsmall' hcheck hexecute
  obtain ⟨hr', hown⟩ := receivable_of_checks hk hh hback hs'.tidy hs hsmall hcheck' hexecute'
  obtain ⟨hfit, hheld, hcoins⟩ := received_side hr hs.gold_lt hown
  obtain ⟨hfit', hheld', hcoins'⟩ := received_side hr' hs'.gold_lt hown'
  rw [executeExchange_eq hsp hh hk]
  apply Moves.pair hsp hh hk hlinked hfit hfit' linked_reset
  · intro id hid
    rw [hheld id hid, hheld' id hid]
    unfold Session.held
    omega
  · rw [hcoins, hcoins']
    unfold Session.coins
    omega

theorem decideVerdict_execute (hv : decideVerdict table env w sid p = .execute) :
    checkExchange table env (w.modify sid (Session.setTradeState .deciding)) sid = true ∧
      checkExchange table env (w.modify sid (Session.setTradeState .deciding)) p = true ∧
      checkExecuteExchange table env (w.modify sid (Session.setTradeState .deciding)) sid = true ∧
      checkExecuteExchange table env (w.modify sid (Session.setTradeState .deciding)) p = true := by
  unfold decideVerdict at hv
  obtain ⟨-, hv⟩ := past_guard hv (by decide)
  obtain ⟨-, hv⟩ := past_guard hv (by decide)
  obtain ⟨-, hv⟩ := past_guard hv (by decide)
  dsimp only at hv
  split_ifs at hv with hchecks
  simp only [Bool.and_eq_true] at hchecks
  exact ⟨hchecks.1.1.1, hchecks.1.1.2, hchecks.1.2, hchecks.2⟩

theorem failExchange_eq (hsp : sid ≠ p) (hh : w sid = some h) (hk : w p = some k) :
    (((w.giveItemsBack sid).giveItemsBack p).resetTrade sid).resetTrade p =
      rewrite w sid p h.settle k.settle := by
  unfold World.giveItemsBack World.resetTrade
  rw [modify_modify hsp hh hk, modify_modify hsp (rewrite_left hsp) rewrite_right,
    rewrite_rewrite hsp]
  rfl

theorem moves_decide (hc : Coherent table w) (hh : w sid = some h)
    (hreturn : ∀ p, w.tradeState sid = .trading → w.exchangeUser sid = some p →
      decideVerdict table env w sid p = .fail → CanReturn w sid)
    (hsmall : ∀ p, w.tradeState sid = .trading → w.exchangeUser sid = some p →
      decideVerdict table env w sid p = .execute →
        (w.session sid).Small ∧ (w.session p).Small) :
    Moves table w (exchangeDecide table env w sid) := by
  unfold exchangeDecide
  split
  · exact Moves.stay
  next hstate =>
  rw [not_not] at hstate
  split
  · exact Moves.stay
  next p hp =>
  have hreturn' := hreturn p hstate hp
  have hsmall' := hsmall p hstate hp
  rw [World.tradeState, session_eq hh] at hstate
  have huser : h.exchangeUser = some p := by rw [← hp, World.exchangeUser, session_eq hh]
  obtain ⟨hsp, k, hk, hlinked, hback, hopen'⟩ := partner_spec hc hh huser
  have hopen : h.tradeState.isOpen = true := by rw [hstate]; rfl
  have hs := (hc.fit sid h hh).sound
  have hwait : Moves table w (w.modify sid (Session.setTradeState .deciding)) :=
    moves_open hc hh hopen rfl rfl ⟨hs.tidy, hs.home, hs.compatible, hs.oneGold, hs.coins, hs.stock⟩
      (fun _ _ => rfl) rfl
  have hc' := coherent_of_moves hwait hc
  have hh' : w.modify sid (Session.setTradeState .deciding) sid =
    some (Session.setTradeState .deciding h) := modify_self hh
  have hk' : w.modify sid (Session.setTradeState .deciding) p = some k := by
    rw [modify_other hsp.symm, hk]
  have hlinked' : Linked sid p (Session.setTradeState .deciding h) k :=
    Or.inr ⟨huser, hback, by rw [hopen', hopen]; rfl⟩
  dsimp only
  cases hv : decideVerdict table env w sid p with
  | ignored => exact Moves.stay
  | wait => exact hwait
  | fail =>
    obtain ⟨hroom, hroom'⟩ := hreturn' hv
    have hroomk := hroom' p hp
    rw [session_eq hh] at hroom
    rw [session_eq hk] at hroomk
    have hsettle := moves_settle hc' hsp hh' hk' hlinked' ⟨hroom.slots, hroom.gold⟩ hroomk
    dsimp only
    rw [failExchange_eq hsp hh' hk']
    exact hwait.trans hsettle
  | execute =>
    obtain ⟨hcheck, hcheck', hexecute, hexecute'⟩ := decideVerdict_execute hv
    obtain ⟨hmine, htheirs⟩ := hsmall' hv
    rw [session_eq hh] at hmine
    rw [session_eq hk] at htheirs
    exact hwait.trans (moves_execute hc' hsp hh' hk' huser hback hlinked' hmine htheirs hcheck
      hcheck' hexecute hexecute')

end Deciding

section Runs

/-- A message of a player, in surroundings that may change from step to step. -/
structure TradeStep where
  env : TradeEnv
  sid : SessionId
  msg : TradeMsg

variable (table : ItemTable)

def tradeStep (w : World) (s : TradeStep) : World := handleExchange table s.env w s.sid s.msg

/-- A handler that gives offers back finds room for them, an offer that is taken records what it
takes, and an exchange that is executed has no offer larger than a stack. -/
def FairMsg (env : TradeEnv) (w : World) (sid : SessionId) : TradeMsg → Prop
  | .req _ => w.isTrading sid = true → CanReturn w sid
  | .agree _ => True
  | .add req =>
    (addVerdict table env w sid req = .cancel → CanReturn w sid) ∧
      (addVerdict table env w sid req = .item → FairOffer table (w.session sid) req)
  | .decide => ∀ p, w.tradeState sid = .trading → w.exchangeUser sid = some p →
    (decideVerdict table env w sid p = .fail → CanReturn w sid) ∧
      (decideVerdict table env w sid p = .execute → (w.session sid).Small ∧ (w.session p).Small)
  | .cancel => w.tradeState sid ≠ .none → CanReturn w sid

def FairTrade (w : World) (s : TradeStep) : Prop :=
  (w s.sid).isSome = true → s.env.busy s.sid = false → FairMsg table s.env w s.sid s.msg

variable {table}

theorem moves_tradeStep {w : World} {s : TradeStep} (hc : Coherent table w)
    (hfair : FairTrade table w s) : Moves table w (tradeStep table w s) := by
  obtain ⟨env, sid, msg⟩ := s
  unfold tradeStep handleExchange
  split
  · exact Moves.stay
  next hgate =>
  simp only [Bool.or_eq_true, not_or, Bool.not_eq_true, Option.isNone_eq_false_iff] at hgate
  obtain ⟨hpresent, hbusy⟩ := hgate
  obtain ⟨h, hh⟩ := Option.isSome_iff_exists.mp hpresent
  have hmsg := hfair hpresent hbusy
  cases msg with
  | req target => exact moves_req hc hh hmsg
  | agree accepted => exact moves_agree hc hh accepted
  | add req => exact moves_add hc hh hmsg.1 hmsg.2
  | decide =>
    exact moves_decide hc hh (fun p hstate hp => (hmsg p hstate hp).1)
      fun p hstate hp => (hmsg p hstate hp).2
  | cancel => exact moves_cancel hc hh hmsg

/-- A world before any trade: slots within their bounds, gold within its width, and nothing under
way. -/
structure Fresh (w : World) : Prop where
  tidy : ∀ s h, w s = some h → ∀ slot ∈ h.inventory, TidySlot slot
  gold : ∀ s h, w s = some h → h.gold < 2 ^ 32
  idle : ∀ s h, w s = some h →
    h.tradeState = .none ∧ h.exchangeUser = none ∧ h.exchangeItems = []

theorem coherent_of_fresh {w : World} (hw : Fresh w) : Coherent table w := by
  refine ⟨fun s h hs => ?_, fun s h p hs hp => ?_⟩
  · obtain ⟨hstate, huser, hno⟩ := hw.idle s h hs
    have htidy : Tidy h.inventory := Inventory.forall_slot (hw.tidy s h hs) tidySlot_default
    exact ⟨sound_of_no_offers htidy (hw.gold s h hs) hno, fun _ => hno, by rw [hstate, huser]; simp⟩
  · rw [(hw.idle s h hs).2.1] at hp
    cases hp

end Runs

/-- Over every run of fair steps from a fresh world, the players of the world keep all units of
every item and all gold, held and offered. -/
theorem trade_conserves {table : ItemTable} {w : World} {players : Finset SessionId}
    (hplayers : ∀ s, s ∉ players → w s = none) (hw : Fresh w) {steps : List TradeStep}
    (hfair : Run.Along (tradeStep table) (FairTrade table) w steps) :
    (∀ id, id ≠ 0 → worth (Session.held table id) players (Run.run (tradeStep table) w steps) =
      worth (Session.held table id) players w) ∧
    worth Session.coins players (Run.run (tradeStep table) w steps) =
      worth Session.coins players w := by
  let I : World → Prop := fun v => Coherent table v ∧ ∀ s, s ∉ players → v s = none
  have hstart : I w := ⟨coherent_of_fresh hw, hplayers⟩
  have hkeep : ∀ v s, I v → FairTrade table v s → Moves table v (tradeStep table v s) :=
    fun v s hv hs => moves_tradeStep hv.1 hs
  refine ⟨fun id hid => ?_, ?_⟩
  · refine Run.conserved I (worth (Session.held table id) players) (fun v s hv hs => ?_) hfair hstart
    have hm := hkeep v s hv hs
    obtain ⟨hS, hheld, -⟩ := worth_of_moves hm hv.2
    exact ⟨⟨coherent_of_moves hm hv.1, hS⟩, hheld id hid⟩
  · refine Run.conserved I (worth Session.coins players) (fun v s hv hs => ?_) hfair hstart
    have hm := hkeep v s hv hs
    obtain ⟨hS, -, hcoins⟩ := worth_of_moves hm hv.2
    exact ⟨⟨coherent_of_moves hm hv.1, hS⟩, hcoins⟩

/-! Two players in one place; the first has a sword and a stack of potions in the bag, the
second some gold. -/

def quietEnv : TradeEnv where
  isPlayerDead := fun _ => false
  isMerchanting := fun _ => false
  isMining := fun _ => false
  isFishing := fun _ => false
  isSellingMerchantPreparing := fun _ => false
  isBuyingMerchantPreparing := fun _ => false
  genieActive := fun _ => false
  authority := fun _ => 1
  name := fun s => if s = 1 then "first" else "second"
  sameAccount := fun _ _ => false
  nation := fun _ => 1
  level := fun _ => 60
  zoneId := fun _ => 21
  canTradeOtherNation := fun _ => false
  tradeLevel := 1
  itemWeight := fun _ => 0
  maxWeight := fun _ => 1000

def tradeTable : ItemTable := fun id =>
  if id = 120010000 then some {} else if id = 389010000 then some { countable := some 1 } else none

def twoPlayers : World := fun s =>
  if s = 1 then
    some
      { inventory := Inventory.padded (List.replicate SLOT_MAX {} ++
          [{ itemId := 120010000, count := 1 }, { itemId := 389010000, count := 50 }])
        gold := 700 }
  else if s = 2 then
    some { inventory := List.replicate INVENTORY_TOTAL {}, gold := 300 }
  else none

/-- The trade window is opened, `offers` go in, and both decide. -/
def swap (offers : List ExchangeAdd) : List TradeStep :=
  [⟨quietEnv, 1, .req 2⟩, ⟨quietEnv, 2, .agree 1⟩] ++
    offers.map (fun req => ⟨quietEnv, 1, .add req⟩) ++
    [⟨quietEnv, 1, .decide⟩, ⟨quietEnv, 2, .decide⟩]

theorem fresh_twoPlayers : Fresh twoPlayers := by
  refine ⟨fun s h hs => ?_, fun s h hs => ?_, fun s h hs => ?_⟩
  · unfold twoPlayers at hs
    split_ifs at hs
    · obtain rfl := Option.some.inj hs
      intro slot hslot
      simp only [Inventory.padded, List.mem_append, List.mem_replicate, List.mem_cons,
        List.not_mem_nil, or_false] at hslot
      rcases hslot with (⟨-, rfl⟩ | rfl | rfl) | ⟨-, rfl⟩ <;> exact ⟨by decide, by decide⟩
    · obtain rfl := Option.some.inj hs
      intro slot hslot
      obtain rfl := List.eq_of_mem_replicate hslot
      exact tidySlot_default
  · unfold twoPlayers at hs
    split_ifs at hs <;> obtain rfl := Option.some.inj hs <;> decide
  · unfold twoPlayers at hs
    split_ifs at hs <;> obtain rfl := Option.some.inj hs <;> exact ⟨rfl, rfl, rfl⟩

/-- Twenty potions and some gold change hands. -/
theorem trade_conserves_potions :
    worth Session.coins {1, 2} (Run.run (tradeStep tradeTable) twoPlayers
      (swap [⟨1, 389010000, 20⟩, ⟨255, ITEM_GOLD, 500⟩])) = 1000 := by
  have h := (@trade_conserves tradeTable twoPlayers {1, 2} ?_ fresh_twoPlayers
    (swap [⟨1, 389010000, 20⟩, ⟨255, ITEM_GOLD, 500⟩]) ?_).2
  · exact h.trans (by decide +kernel)
  · intro s hs
    simp only [Finset.mem_insert, Finset.mem_singleton, not_or] at hs
    simp [twoPlayers, hs]
  · refine ⟨fun _ _ h => absurd h (by decide), fun _ _ => trivial,
      fun _ _ => ⟨fun h => absurd h (by decide +kernel), fun _ => ⟨by decide, fun h => ?_⟩⟩,
      fun _ _ => ⟨fun h => absurd h (by decide +kernel), fun h => absurd h (by decide +kernel)⟩,
      fun _ _ p _ hp => ?_, fun _ _ p _ hp => ?_, trivial⟩
    · exact absurd h (by decide)
    · obtain rfl : 2 = p := Option.some.inj hp
      exact ⟨fun h => absurd h (by decide +kernel), fun h => absurd h (by decide +kernel)⟩
    · obtain rfl : 1 = p := Option.some.inj hp
      refine ⟨fun h => absurd h (by decide +kernel), fun _ => ⟨?_, ?_⟩⟩
      · unfold Session.Small
        decide +kernel
      · unfold Session.Small
        decide +kernel

/-- The count 65536 takes nothing from the slot, and the sword is delivered: both have it. -/
theorem sword_doubled : Fresh twoPlayers ∧
    ¬ worth (Session.held tradeTable 120010000) {1, 2}
        (Run.run (tradeStep tradeTable) twoPlayers (swap [⟨0, 120010000, 65536⟩])) =
      worth (Session.held tradeTable 120010000) {1, 2} twoPlayers :=
  ⟨fresh_twoPlayers, by decide +kernel⟩

end KoServer
