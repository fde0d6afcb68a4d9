import KoServer.Proofs.Trade

/-! The stages of a trade. Whatever the players send, two partners name each other and stand at
stages that go together, and offers are listed only while the trade is open. -/

namespace KoServer

open Ledger

def TradeState.Matches (s t : TradeState) : Prop :=
  s = .sender ∧ t = .target ∨ s = .target ∧ t = .sender ∨ s.isOpen = true ∧ t.isOpen = true

theorem TradeState.Matches.symm {s t : TradeState} (h : s.Matches t) : t.Matches s := by
  rcases h with ⟨hs, ht⟩ | ⟨hs, ht⟩ | ⟨hs, ht⟩
  · exact .inr (.inl ⟨ht, hs⟩)
  · exact .inl ⟨ht, hs⟩
  · exact .inr (.inr ⟨ht, hs⟩)

/-- A partner exactly while a trade is under way, and offers in an open one. -/
structure Session.Staged (h : Session) : Prop where
  idle : h.exchangeUser = none ↔ h.tradeState = .none
  early : h.tradeState.isOpen = false → h.exchangeItems = []

abbrev PairedUp : World → Prop :=
  Pairing.Paired Session.exchangeUser fun h k => h.tradeState.Matches k.tradeState

/-- `a` and `b` are partners, or both have none. -/
abbrev PairOf : SessionId → SessionId → Session → Session → Prop :=
  Pairing.Linked Session.exchangeUser fun h k => h.tradeState.Matches k.tradeState

structure InStep (w : World) : Prop where
  staged : ∀ s h, w s = some h → h.Staged
  paired : PairedUp w

section

variable {table : ItemTable} {env : TradeEnv} {w : World} {a b sid target : SessionId}
  {h k h' k' : Session}

theorem InStep.rewrite (hw : InStep w) (hab : a ≠ b) (hh : w a = some h) (hk : w b = some k)
    (hl : PairOf a b h k) (hs : h'.Staged) (hs' : k'.Staged) (hl' : PairOf a b h' k') :
    InStep (rewrite w a b h' k') := by
  refine ⟨fun s g hg => ?_, hw.paired.rewrite (fun _ _ => TradeState.Matches.symm) hab hh hk hl hl'⟩
  rcases eq_or_ne s b with rfl | hsb
  · obtain rfl := Option.some.inj (rewrite_right.symm.trans hg)
    exact hs'
  rcases eq_or_ne s a with rfl | hsa
  · obtain rfl := Option.some.inj ((rewrite_left hsb).symm.trans hg)
    exact hs
  · exact hw.staged s g (by rwa [rewrite_other hsa hsb] at hg)

theorem staged_reset (h : Session) : h.resetTrade.Staged :=
  ⟨by constructor <;> intro <;> rfl, fun _ => rfl⟩

/-- Both sides reset, whatever was done to them before. -/
theorem InStep.reset (hw : InStep w) (hab : a ≠ b) (hh : w a = some h) (hk : w b = some k)
    (hl : PairOf a b h k) : InStep (Ledger.rewrite w a b h'.resetTrade k'.resetTrade) :=
  hw.rewrite hab hh hk hl (staged_reset h') (staged_reset k') (.inl ⟨rfl, rfl⟩)

theorem Session.Staged.no_offers (hs : h.Staged) (hnone : h.exchangeUser = none) :
    h.exchangeItems = [] := by
  apply hs.early
  rw [hs.idle.mp hnone]
  rfl

/-- A trade under way has a partner, for whom it is under way too. -/
theorem InStep.partner (hw : InStep w) (hh : w sid = some h) (hstate : h.tradeState ≠ .none) :
    ∃ p, h.exchangeUser = some p ∧ sid ≠ p ∧ ∃ k, w p = some k ∧ k.exchangeUser = some sid ∧
      h.tradeState.Matches k.tradeState ∧ k.tradeState ≠ .none := by
  obtain ⟨p, huser⟩ := Option.ne_none_iff_exists'.mp fun hnone =>
    hstate ((hw.staged sid h hh).idle.mp hnone)
  obtain ⟨hsp, k, hk, hback, hmatch⟩ := hw.paired.partner_spec hh huser
  refine ⟨p, huser, hsp, k, hk, hback, hmatch, fun hnone => ?_⟩
  rw [(hw.staged p k hk).idle.mpr hnone] at hback
  cases hback

theorem inStep_cancel (hw : InStep w) (hh : w sid = some h) : InStep (exchangeCancel w sid) := by
  by_cases hstate : h.tradeState = .none
  · have hsame : exchangeCancel w sid = w := by
      unfold exchangeCancel
      rw [World.tradeState, session_eq hh, if_pos hstate]
    rw [hsame]
    exact hw
  · obtain ⟨p, huser, hsp, k, hk, hback, hmatch, hstate'⟩ := hw.partner hh hstate
    rw [exchangeCancel_eq hsp hh hk hstate hstate' huser]
    exact hw.reset hsp hh hk (.inr ⟨huser, hback, hmatch⟩)

theorem inStep_req (hw : InStep w) (hh : w sid = some h) :
    InStep (exchangeReq env w sid target) := by
  unfold exchangeReq
  split_ifs with htrading hrefused
  · exact inStep_cancel hw hh
  · exact hw
  · simp only [Bool.or_eq_true, not_or, Option.isNone_iff_eq_none, Bool.not_eq_true] at hrefused
    obtain ⟨hpresent, hreq⟩ := hrefused
    obtain ⟨k, hk⟩ := Option.ne_none_iff_exists'.mp hpresent
    simp only [reqRefused, Bool.or_eq_false_iff, decide_eq_false_iff_not] at hreq
    have hst : sid ≠ target := fun heq => hreq.1.1.1.1.1.1.1.1.1.1 heq.symm
    have hbusy := hreq.1.1.1.2
    rw [isTrading_eq hh, Bool.not_eq_true, Option.isSome_eq_false_iff,
      Option.isNone_iff_eq_none] at htrading
    rw [isTrading_eq hk, Option.isSome_eq_false_iff, Option.isNone_iff_eq_none] at hbusy
    have hno := (hw.staged sid h hh).no_offers htrading
    have hno' := (hw.staged target k hk).no_offers hbusy
    unfold World.initTradeRequest
    rw [modify_modify hst hh hk]
    refine hw.rewrite hst hh hk (.inl ⟨htrading, hbusy⟩) ?_ ?_ (.inr ⟨rfl, rfl, .inl ⟨rfl, rfl⟩⟩)
    · exact ⟨by simp, fun _ => hno⟩
    · exact ⟨by simp, fun _ => hno'⟩

theorem inStep_agree (hw : InStep w) (hh : w sid = some h) (accepted : ℕ) :
    InStep (exchangeAgree env w sid accepted) := by
  unfold exchangeAgree
  rw [World.exchangeUser, session_eq hh]
  split
  · exact hw
  next p huser =>
  obtain ⟨hsp, k, hk, hback, hmatch⟩ := hw.paired.partner_spec hh huser
  have hl : PairOf sid p h k := .inr ⟨huser, hback, hmatch⟩
  have hreset : InStep ((w.resetTrade sid).resetTrade p) := by
    unfold World.resetTrade
    rw [modify_modify hsp hh hk]
    exact hw.reset hsp hh hk hl
  split_ifs
  · exact hw
  · exact hreset
  · unfold World.tradeDecline
    rw [World.exchangeUser, session_eq hh, huser]
    exact hreset
  · unfold World.tradeAgree
    rw [World.exchangeUser, session_eq hh, huser]
    dsimp only
    rw [modify_modify hsp hh hk]
    refine hw.rewrite hsp hh hk hl ?_ ?_ (.inr ⟨huser, hback, .inr (.inr ⟨rfl, rfl⟩)⟩)
    · exact ⟨by simp [Session.setTradeState, huser], fun hclosed => by cases hclosed⟩
    · exact ⟨by simp [Session.setTradeState, hback], fun hclosed => by cases hclosed⟩

/-- In an open trade a player changes the offers, or decides. -/
theorem inStep_open (hw : InStep w) (hh : w sid = some h) (hopen : h.tradeState.isOpen = true)
    {f : Session → Session} (huser : (f h).exchangeUser = h.exchangeUser)
    (hopen' : (f h).tradeState.isOpen = true) : InStep (w.modify sid f) := by
  obtain ⟨p, hp, hsp, k, hk, hback, hmatch, -⟩ := hw.partner hh (ne_none_of_isOpen hopen)
  have hopenk : k.tradeState.isOpen = true := by
    rcases hmatch with ⟨hs, -⟩ | ⟨hs, -⟩ | ⟨-, ht⟩
    · rw [hs] at hopen
      cases hopen
    · rw [hs] at hopen
      cases hopen
    · exact ht
  rw [modify_pair hsp hh hk]
  refine hw.rewrite hsp hh hk (.inr ⟨hp, hback, hmatch⟩) ⟨?_, fun hclosed => ?_⟩
    (hw.staged p k hk) (.inr ⟨huser.trans hp, hback, .inr (.inr ⟨hopen', hopenk⟩)⟩)
  · rw [huser, hp]
    exact ⟨fun hnone => absurd hnone (Option.some_ne_none p),
      fun hnone => absurd hnone (ne_none_of_isOpen hopen')⟩
  · rw [hopen'] at hclosed
    cases hclosed

theorem inStep_add (hw : InStep w) (hh : w sid = some h) (req : ExchangeAdd) :
    InStep (exchangeAdd table env w sid req) := by
  have hopen : ∀ v, addVerdict table env w sid req = v → v ≠ .refused →
      h.tradeState.isOpen = true := by
    intro v hv hne
    have hstate := addVerdict_trading hv hne
    rw [World.tradeState, session_eq hh] at hstate
    rw [hstate]
    rfl
  unfold exchangeAdd
  cases hv : addVerdict table env w sid req with
  | refused => exact hw
  | cancel => exact inStep_cancel hw hh
  | gold =>
    obtain ⟨huser, hstate⟩ := offerGold_part req.count h
    exact inStep_open hw hh (hopen _ hv (by decide)) huser (hstate ▸ hopen _ hv (by decide))
  | item =>
    obtain ⟨huser, hstate⟩ := offerItem_part table req h
    exact inStep_open hw hh (hopen _ hv (by decide)) huser (hstate ▸ hopen _ hv (by decide))

theorem inStep_decide (hw : InStep w) (hh : w sid = some h) :
    InStep (exchangeDecide table env w sid) := by
  unfold exchangeDecide
  split
  · exact hw
  next hstate =>
  rw [not_not, World.tradeState, session_eq hh] at hstate
  split
  · exact hw
  next p hp =>
  rw [World.exchangeUser, session_eq hh] at hp
  obtain ⟨hsp, k, hk, hback, hmatch⟩ := hw.paired.partner_spec hh hp
  have hopen : h.tradeState.isOpen = true := by rw [hstate]; rfl
  have hopenk : k.tradeState.isOpen = true := by
    rw [hstate] at hmatch
    rcases hmatch with ⟨hs, -⟩ | ⟨hs, -⟩ | ⟨-, ht⟩
    · cases hs
    · cases hs
    · exact ht
  have hwait : InStep (w.modify sid (Session.setTradeState .deciding)) :=
    inStep_open hw hh hopen rfl rfl
  have hh' : w.modify sid (Session.setTradeState .deciding) sid =
    some (Session.setTradeState .deciding h) := modify_self hh
  have hk' : w.modify sid (Session.setTradeState .deciding) p = some k := by
    rw [modify_other hsp.symm, hk]
  have hl : PairOf sid p (Session.setTradeState .deciding h) k :=
    .inr ⟨hp, hback, .inr (.inr ⟨rfl, hopenk⟩)⟩
  dsimp only
  cases decideVerdict table env w sid p with
  | ignored => exact hw
  | wait => exact hwait
  | fail =>
    dsimp only
    rw [failExchange_eq hsp hh' hk']
    exact hwait.reset hsp hh' hk' hl
  | execute =>
    dsimp only
    rw [executeExchange_eq hsp hh' hk']
    exact hwait.reset hsp hh' hk' hl

end

theorem inStep_tradeStep {table : ItemTable} {w : World} (hw : InStep w) (s : TradeStep) :
    InStep (tradeStep table w s) := by
  obtain ⟨env, sid, msg⟩ := s
  unfold tradeStep handleExchange
  split
  · exact hw
  next hgate =>
  simp only [Bool.or_eq_true, not_or, Bool.not_eq_true, Option.isNone_eq_false_iff] at hgate
  obtain ⟨h, hh⟩ := Option.isSome_iff_exists.mp hgate.1
  cases msg with
  | req target => exact inStep_req hw hh
  | agree accepted => exact inStep_agree hw hh accepted
  | add req => exact inStep_add hw hh req
  | decide => exact inStep_decide hw hh
  | cancel => exact inStep_cancel hw hh

/-- Nobody trades. -/
def Idle (w : World) : Prop :=
  ∀ s h, w s = some h → h.tradeState = .none ∧ h.exchangeUser = none ∧ h.exchangeItems = []

theorem inStep_of_idle {w : World} (hw : Idle w) : InStep w := by
  refine ⟨fun s h hs => ?_, fun s h p hs hp => ?_⟩
  · obtain ⟨hstate, huser, hno⟩ := hw s h hs
    exact ⟨by rw [hstate, huser]; simp, fun _ => hno⟩
  · rw [(hw s h hs).2.1] at hp
    cases hp

theorem inStep_run {table : ItemTable} {w : World} {steps : List TradeStep} (hw : Idle w) :
    InStep (Run.run (tradeStep table) w steps) :=
  Run.invariant InStep (fun _ s hw _ => inStep_tradeStep hw s) (Run.along_true w steps)
    (inStep_of_idle hw)

/-- What the world says of any two sessions, in game or not. -/
structure TradeSymmetry (w : World) : Prop where
  partners : ∀ a b, w.exchangeUser a = some b ↔ w.exchangeUser b = some a
  idle : ∀ a, w.tradeState a = .none ↔ w.exchangeUser a = none
  stages : ∀ a b, w.exchangeUser a = some b → (w.tradeState a).Matches (w.tradeState b)
  offers : ∀ a, (w.tradeState a).isOpen = false → w.exchangeItems a = []

theorem InStep.symmetry {w : World} (hw : InStep w) : TradeSymmetry w := by
  have hpartner : ∀ a b, w.exchangeUser a = some b →
      w.exchangeUser b = some a ∧ (w.tradeState a).Matches (w.tradeState b) := by
    intro a b hab
    rcases ha : w a with _ | h
    · rw [World.exchangeUser, World.session, ha] at hab
      cases hab
    · rw [World.exchangeUser, session_eq ha] at hab
      obtain ⟨-, k, hk, hback, hmatch⟩ := hw.paired.partner_spec ha hab
      rw [World.exchangeUser, World.tradeState, World.tradeState, session_eq ha, session_eq hk]
      exact ⟨hback, hmatch⟩
  refine ⟨fun a b => ⟨fun hab => (hpartner a b hab).1, fun hba => (hpartner b a hba).1⟩,
    fun a => ?_, fun a b hab => (hpartner a b hab).2, fun a hclosed => ?_⟩
  · rcases ha : w a with _ | h
    · rw [World.tradeState, World.exchangeUser, World.session, ha]
      exact ⟨fun _ => rfl, fun _ => rfl⟩
    · rw [World.tradeState, World.exchangeUser, session_eq ha]
      exact (hw.staged a h ha).idle.symm
  · rcases ha : w a with _ | h
    · rw [World.exchangeItems, World.session, ha]
      rfl
    · rw [World.tradeState, session_eq ha] at hclosed
      rw [World.exchangeItems, session_eq ha]
      exact (hw.staged a h ha).early hclosed

/-- From any world where nobody trades, whatever the players send. -/
theorem trade_symmetric {table : ItemTable} {w : World} (hw : Idle w) (steps : List TradeStep) :
    TradeSymmetry (Run.run (tradeStep table) w steps) := (inStep_run hw).symmetry

theorem trade_symmetric_potions : TradeSymmetry (Run.run (tradeStep tradeTable) twoPlayers
    ((swap [⟨1, 389010000, 20⟩]).take 4)) :=
  trade_symmetric fresh_twoPlayers.idle _

end KoServer
