import KoServer.Proofs.TradeStates

/-! Cancelling a trade. An offer goes back to the slot its entry names, so everything returns to
its place as long as no entry stands for offers from two slots. -/

namespace KoServer

/-- The units that an entry puts into slot `i`. -/
def backTo (i : ℕ) (ex : ExchangeItem) : ℕ :=
  if ex.itemId ≠ ITEM_GOLD ∧ ex.srcPos = i then asU16 ex.count else 0

/-- A slot that `d` units make into what it was: it still has the item, or was emptied. -/
structure SlotDue (s₀ s : UserItemSlot) (d : ℕ) : Prop where
  count : s.count + d = s₀.count
  kept : s.itemId = s₀.itemId ∧ s.durability = s₀.durability ∧ s.serialNum = s₀.serialNum ∨
    s.itemId = 0 ∧ s.count = 0 ∧ 0 < d

structure OfferOf (inv₀ : Inventory) (ex : ExchangeItem) : Prop where
  inRange : ex.srcPos < inv₀.length
  itemId_ne : ex.itemId ≠ 0
  itemId_eq : (inv₀.slot ex.srcPos).itemId = ex.itemId
  durability_eq : (inv₀.slot ex.srcPos).durability = ex.durability
  serialNum_eq : (inv₀.slot ex.srcPos).serialNum = ex.serialNum
  count_le : (inv₀.slot ex.srcPos).count ≤ ITEMCOUNT_MAX

structure Due (h₀ h : Session) (items : List ExchangeItem) : Prop where
  gold : h.gold + Tally.total offeredGold items = h₀.gold
  room : GoldFits h.gold items
  length : h.inventory.length = h₀.inventory.length
  offers : ∀ ex ∈ items, ex.itemId ≠ ITEM_GOLD → OfferOf h₀.inventory ex
  slots : ∀ i, SlotDue (h₀.inventory.slot i) (h.inventory.slot i) (Tally.total (backTo i) items)

section

variable {table : ItemTable} {h₀ h : Session} {items items' : List ExchangeItem} {ex : ExchangeItem}
  {inv inv₀ : Inventory} {i : ℕ} {s s₀ : UserItemSlot} {d itemId count : ℕ} {req : ExchangeAdd}

theorem backTo_gold (hgold : ex.itemId = ITEM_GOLD) : backTo i ex = 0 := if_neg fun h => h.1 hgold

theorem backTo_self (hgold : ex.itemId ≠ ITEM_GOLD) : backTo ex.srcPos ex = asU16 ex.count :=
  if_pos ⟨hgold, rfl⟩

theorem backTo_ne (hi : ex.srcPos ≠ i) : backTo i ex = 0 := if_neg fun h => hi h.2

theorem due_nil (hno : items = []) : Due h h items := by
  subst hno
  refine ⟨rfl, .inl (List.forall_mem_nil _), rfl, ?_, fun i => ⟨rfl, .inl ⟨rfl, rfl, rfl⟩⟩⟩
  intro ex hex
  cases hex

theorem slotDue_returnItem (ho : OfferOf inv₀ ex) (hlen : inv.length = inv₀.length)
    (hs : SlotDue (inv₀.slot ex.srcPos) (inv.slot ex.srcPos) (asU16 ex.count + d)) :
    ∃ s, returnItem inv ex = inv.set ex.srcPos s ∧ SlotDue (inv₀.slot ex.srcPos) s d := by
  obtain ⟨hrange, hid, hitem, hdur, hserial, hle⟩ := ho
  obtain ⟨hcount, hkept⟩ := hs
  have hmax : ITEMCOUNT_MAX = 9999 := rfl
  unfold returnItem
  rw [if_neg (by omega)]
  dsimp only
  rcases hkept with ⟨hsame, hsdur, hsserial⟩ | ⟨hempty, hzero, -⟩
  · rw [if_pos (hsame.trans hitem)]
    refine ⟨_, rfl, ?_, .inl ⟨hsame, hsdur, hsserial⟩⟩
    dsimp only
    omega
  · rw [if_neg (by rw [hempty]; exact hid.symm), if_pos hempty]
    refine ⟨_, rfl, ?_, .inl ⟨hitem.symm, hdur.symm, hserial.symm⟩⟩
    dsimp only
    omega

theorem Due.giveItemBack (hd : Due h₀ h (ex :: items)) : Due h₀ (h.giveItemBack ex) items := by
  obtain ⟨hgold, hroom, hlen, hoffers, hslots⟩ := hd
  have hrest : ∀ e ∈ items, e.itemId ≠ ITEM_GOLD → OfferOf h₀.inventory e :=
    fun e he => hoffers e (List.mem_cons_of_mem ex he)
  simp only [Tally.total_cons] at hgold hslots
  unfold Session.giveItemBack
  split_ifs with hcoins
  · obtain ⟨hgain, hroom'⟩ := goldGain_fits hroom hcoins
    refine ⟨?_, hroom', hlen, hrest, fun i => ?_⟩
    · change goldGain h.gold ex.count + _ = _
      rw [hgain]
      omega
    · have hslot := hslots i
      rwa [backTo_gold hcoins, Nat.zero_add] at hslot
  · rw [offeredGold_item hcoins, Nat.zero_add] at hgold
    have ho := hoffers ex List.mem_cons_self hcoins
    have hsrc := hslots ex.srcPos
    rw [backTo_self hcoins] at hsrc
    obtain ⟨s, hset, hdue⟩ := slotDue_returnItem ho hlen hsrc
    refine ⟨hgold, hroom.of_item hcoins, ?_, hrest, fun i => ?_⟩
    · change (returnItem h.inventory ex).length = _
      rw [hset, List.length_set, hlen]
    · change SlotDue _ ((returnItem h.inventory ex).slot i) _
      rw [hset]
      rcases eq_or_ne ex.srcPos i with rfl | hi
      · rw [Inventory.slot_set_self (by rw [hlen]; exact ho.inRange)]
        exact hdue
      · have hslot := hslots i
        rw [Inventory.slot_set_ne hi]
        rwa [backTo_ne hi, Nat.zero_add] at hslot

theorem Due.foldl_giveItemBack (hd : Due h₀ h items) :
    Due h₀ (items.foldl Session.giveItemBack h) [] := by
  induction items generalizing h with
  | nil => exact hd
  | cons ex items ih => exact ih hd.giveItemBack

theorem update_origin (hupdate : updateExchangeItemCount itemId count items = some items')
    (hex : ex ∈ items') : ∃ e ∈ items, ex = { e with count := ex.count } := by
  induction items generalizing items' with
  | nil => cases hupdate
  | cons e items ih =>
    unfold updateExchangeItemCount at hupdate
    split_ifs at hupdate
    · obtain rfl := Option.some.inj hupdate
      rcases List.mem_cons.mp hex with rfl | hex
      · exact ⟨e, List.mem_cons_self, rfl⟩
      · exact ⟨ex, List.mem_cons_of_mem e hex, rfl⟩
    · obtain ⟨rest, hrest, rfl⟩ := Option.map_eq_some_iff.mp hupdate
      rcases List.mem_cons.mp hex with rfl | hex
      · exact ⟨ex, List.mem_cons_self, rfl⟩
      · obtain ⟨e', he', heq⟩ := ih hrest hex
        exact ⟨e', List.mem_cons_of_mem e he', heq⟩

theorem OfferOf.congr {e : ExchangeItem} (ho : OfferOf inv₀ e) (heq : ex = { e with count := count }) :
    OfferOf inv₀ ex := by
  subst heq
  exact ⟨ho.inRange, ho.itemId_ne, ho.itemId_eq, ho.durability_eq, ho.serialNum_eq, ho.count_le⟩

theorem Due.offerGold (hd : Due h₀ h h.exchangeItems) (hcount : count ≤ h.gold)
    (hle : h.coins ≤ COIN_MAX) : Due h₀ (h.offerGold count) (h.offerGold count).exchangeItems := by
  obtain ⟨hgold, -, hlen, hoffers, hslots⟩ := hd
  have hcoin : COIN_MAX = 2100000000 := rfl
  unfold Session.coins at hle
  unfold Session.offerGold Session.goldLose Session.addExchangeItem
  simp only [if_pos hcount]
  split
  · next items hupdate =>
    obtain ⟨e, he, hitem, htotal⟩ := update_total hupdate
    have hsum : Tally.total offeredGold items = Tally.total offeredGold h.exchangeItems + count := by
      have hsum := htotal offeredGold
      have hentry := Tally.le_total offeredGold he
      rw [offeredGold_gold hitem] at hsum hentry
      rw [offeredGold_gold (by exact hitem)] at hsum
      dsimp only at hsum
      omega
    refine ⟨?_, .inr ?_, hlen, fun ex hex hne => ?_, fun i => ?_⟩
    · dsimp only
      omega
    · dsimp only
      omega
    · obtain ⟨e', he', heq⟩ := update_origin hupdate hex
      have hid : e'.itemId = ex.itemId := by rw [heq]
      exact (hoffers e' he' (hid ▸ hne)).congr heq
    · have hsum := htotal (backTo i)
      rw [backTo_gold hitem, backTo_gold (by exact hitem)] at hsum
      have hslot := hslots i
      dsimp only
      rwa [show Tally.total (backTo i) items = Tally.total (backTo i) h.exchangeItems from hsum]
  · have hsum : Tally.total offeredGold (h.exchangeItems ++ [⟨ITEM_GOLD, count, 0, 0, 255⟩]) =
        Tally.total offeredGold h.exchangeItems + count := by
      rw [Tally.total_append, Tally.total_cons, offeredGold_gold (by rfl)]
      rfl
    refine ⟨?_, .inr ?_, hlen, fun ex hex hne => ?_, fun i => ?_⟩
    · dsimp only
      omega
    · dsimp only
      omega
    · rcases List.mem_append.mp hex with hex | hex
      · exact hoffers ex hex hne
      · exact absurd (congrArg ExchangeItem.itemId (List.mem_singleton.mp hex)) hne
    · simp only [Tally.total_append, Tally.total_cons, Tally.total_nil]
      rw [backTo_gold (by rfl)]
      exact hslots i

/-- What is offered can go back: it joins no entry of another slot and no entry near the end of
its range, and the slot holds no more than a stack. -/
structure Undoable (table : ItemTable) (h : Session) (req : ExchangeAdd) : Prop where
  merged : 0 < countableOf table req.itemId → ∀ ex ∈ h.exchangeItems, ex.itemId = req.itemId →
    ex.count + req.count < 2 ^ 32 ∧ (ex.srcPos = SLOT_MAX + req.pos ∨ asU16 req.count = 0)
  listed : (countableOf table req.itemId ≤ 0 ∨ ∀ ex ∈ h.exchangeItems, ex.itemId ≠ req.itemId) →
    (h.inventory.slot (SLOT_MAX + req.pos)).count ≤ ITEMCOUNT_MAX

theorem slotDue_take (hs : SlotDue s₀ s d) (hitem : s.itemId ≠ 0) (hpos : s.count ≠ 0)
    (hcount : count ≤ s.count) :
    SlotDue s₀ (if s.count - count = 0 then {} else { s with count := s.count - count })
      (d + count) := by
  obtain ⟨hsum, hkept⟩ := hs
  have hsame := hkept.resolve_right fun hempty => hitem hempty.1
  split_ifs with hzero
  · exact ⟨by dsimp only; omega, .inr ⟨rfl, rfl, by omega⟩⟩
  · exact ⟨by dsimp only; omega, .inl hsame⟩

theorem asU16_add (m n : ℕ) : asU16 (m + n) = (asU16 m + asU16 n) % 2 ^ 16 := Nat.add_mod _ _ _

theorem exchangeItems_offerItem (table : ItemTable) (h : Session) (req : ExchangeAdd) :
    (∃ items, 0 < countableOf table req.itemId ∧
      updateExchangeItemCount req.itemId req.count h.exchangeItems = some items ∧
      (h.offerItem table req).exchangeItems = items) ∨
    ((countableOf table req.itemId ≤ 0 ∨ ∀ ex ∈ h.exchangeItems, ex.itemId ≠ req.itemId) ∧
      (h.offerItem table req).exchangeItems = h.exchangeItems ++
        [{ itemId := req.itemId
           count := req.count
           durability := (h.inventory.slot (SLOT_MAX + req.pos)).durability
           serialNum := (h.inventory.slot (SLOT_MAX + req.pos)).serialNum
           srcPos := SLOT_MAX + req.pos }]) := by
  unfold Session.offerItem Session.addExchangeItem
  dsimp only
  split
  · next items hupdate =>
    split_ifs at hupdate with hcountable
    exact .inl ⟨items, hcountable, hupdate, rfl⟩
  · next hupdate =>
    refine .inr ⟨?_, rfl⟩
    split_ifs at hupdate with hcountable
    · exact .inr (update_none hupdate)
    · exact .inl (not_lt.mp hcountable)

theorem inventory_offerItem (table : ItemTable) (h : Session) (req : ExchangeAdd) :
    (h.offerItem table req).inventory =
        Session.takeOffered h.inventory (SLOT_MAX + req.pos) req.count ∧
      (h.offerItem table req).gold = h.gold := by
  unfold Session.offerItem Session.addExchangeItem
  dsimp only
  split <;> exact ⟨rfl, rfl⟩

/-- A slot that holds no more than a stack did not hold more in the beginning. -/
theorem Due.count_le (hd : Due h₀ h items) (hle : (h.inventory.slot i).count ≤ ITEMCOUNT_MAX) :
    (h₀.inventory.slot i).count ≤ ITEMCOUNT_MAX := by
  by_cases hfrom : ∃ ex ∈ items, ex.itemId ≠ ITEM_GOLD ∧ ex.srcPos = i
  · obtain ⟨ex, hex, hne, rfl⟩ := hfrom
    exact (hd.offers ex hex hne).count_le
  · have hnone : Tally.total (backTo i) items ≤ items.length * 0 := by
      refine Tally.total_le_of_forall_le _ fun ex hex => le_of_eq (if_neg fun h => ?_)
      exact hfrom ⟨ex, hex, h⟩
    have hcount := (hd.slots i).count
    omega

/-- A list that gives back as much more as an offer takes. -/
structure Grown (inv₀ : Inventory) (items items' : List ExchangeItem) (req : ExchangeAdd) : Prop where
  offers : ∀ ex ∈ items', ex.itemId ≠ ITEM_GOLD → OfferOf inv₀ ex
  gold : Tally.total offeredGold items' = Tally.total offeredGold items
  noGold : (∀ ex ∈ items, ex.itemId ≠ ITEM_GOLD) → ∀ ex ∈ items', ex.itemId ≠ ITEM_GOLD
  back : ∀ i, Tally.total (backTo i) items' =
    Tally.total (backTo i) items + if SLOT_MAX + req.pos = i then asU16 req.count else 0

theorem Due.grown_update (hd : Due h₀ h h.exchangeItems) (ho : Offerable h req)
    (hupdate : updateExchangeItemCount req.itemId req.count h.exchangeItems = some items)
    (hmerged : ∀ ex ∈ h.exchangeItems, ex.itemId = req.itemId →
      ex.count + req.count < 2 ^ 32 ∧ (ex.srcPos = SLOT_MAX + req.pos ∨ asU16 req.count = 0)) :
    Grown h₀.inventory h.exchangeItems items req := by
  have henough := ho.enough
  have hmax : ITEMCOUNT_MAX = 9999 := rfl
  obtain ⟨e, he, hid, htotal⟩ := update_total hupdate
  have hne : e.itemId ≠ ITEM_GOLD := hid ▸ ho.not_gold
  obtain ⟨hroom, hsrc⟩ := hmerged e he hid
  have hmin : min (e.count + req.count) (2 ^ 32 - 1) = e.count + req.count := by omega
  rw [hmin] at htotal
  refine ⟨fun ex hex hex' => ?_, ?_, fun hnone ex hex => ?_, fun i => ?_⟩
  · obtain ⟨e', he', heq'⟩ := update_origin hupdate hex
    have hid' : e'.itemId = ex.itemId := by rw [heq']
    exact (hd.offers e' he' (hid' ▸ hex')).congr heq'
  · have hsum := htotal offeredGold
    rw [offeredGold_item hne, offeredGold_item (by exact hne)] at hsum
    exact hsum
  · obtain ⟨e', he', heq'⟩ := update_origin hupdate hex
    have hid' : e'.itemId = ex.itemId := by rw [heq']
    exact hid' ▸ hnone e' he'
  · -- the entry's own cut does not wrap, since all of it came out of one stack
    have hsum := htotal (backTo i)
    have hentry := Tally.le_total (backTo e.srcPos) he
    have hle := (hd.offers e he hne).count_le
    have hdue := (hd.slots e.srcPos).count
    rw [backTo_self hne] at hentry
    have hwrap : asU16 (e.count + req.count) = asU16 e.count + asU16 req.count := by
      rw [asU16_add]
      apply Nat.mod_eq_of_lt
      rcases hsrc with hsrc | hzero
      · rw [hsrc] at hle hdue hentry
        omega
      · omega
    rcases eq_or_ne e.srcPos i with rfl | hi
    · rw [backTo_self hne] at hsum
      rw [show backTo e.srcPos { e with count := e.count + req.count } =
        asU16 (e.count + req.count) from backTo_self (by exact hne), hwrap] at hsum
      rcases hsrc with hsrc | hzero
      · rw [if_pos hsrc.symm]
        omega
      · split_ifs <;> omega
    · rw [backTo_ne hi, backTo_ne (by exact hi)] at hsum
      rcases hsrc with hsrc | hzero
      · rw [if_neg (by rw [← hsrc]; exact hi)]
        omega
      · split_ifs <;> omega

theorem Due.grown_append (hd : Due h₀ h h.exchangeItems) (ho : Offerable h req)
    (hle : (h.inventory.slot (SLOT_MAX + req.pos)).count ≤ ITEMCOUNT_MAX) :
    Grown h₀.inventory h.exchangeItems (h.exchangeItems ++
      [{ itemId := req.itemId
         count := req.count
         durability := (h.inventory.slot (SLOT_MAX + req.pos)).durability
         serialNum := (h.inventory.slot (SLOT_MAX + req.pos)).serialNum
         srcPos := SLOT_MAX + req.pos }]) req := by
  have hitem := ho.sameItem
  obtain ⟨hid, hdur, hserial⟩ := (hd.slots (SLOT_MAX + req.pos)).kept.resolve_right
    fun hempty => ho.itemId_ne (hitem.symm.trans hempty.1)
  refine ⟨fun ex hex hex' => ?_, ?_, fun hnone => ?_, fun i => ?_⟩
  · rcases List.mem_append.mp hex with hex | hex
    · exact hd.offers ex hex hex'
    · obtain rfl := List.mem_singleton.mp hex
      refine ⟨?_, ho.itemId_ne, hid.symm.trans hitem, hdur.symm, hserial.symm, hd.count_le hle⟩
      rw [← hd.length]
      exact ho.inRange
  · rw [Tally.total_append, Tally.total_cons, Tally.total_nil,
      offeredGold_item (by exact ho.not_gold)]
    rfl
  · exact List.forall_mem_append.mpr ⟨hnone, List.forall_mem_singleton.mpr ho.not_gold⟩
  · simp only [Tally.total_append, Tally.total_cons, Tally.total_nil, Nat.add_zero]
    rcases eq_or_ne (SLOT_MAX + req.pos) i with rfl | hi
    · rw [if_pos rfl]
      exact congrArg _ (backTo_self (by exact ho.not_gold))
    · rw [if_neg hi]
      exact congrArg _ (backTo_ne (by exact hi))

theorem Due.grown (hd : Due h₀ h h.exchangeItems) (ho : Offerable h req)
    (hu : Undoable table h req) :
    Grown h₀.inventory h.exchangeItems (h.offerItem table req).exchangeItems req := by
  rcases exchangeItems_offerItem table h req with
    ⟨items, hcountable, hupdate, heq⟩ | ⟨hnew, heq⟩
  · rw [heq]
    exact hd.grown_update ho hupdate (hu.merged hcountable)
  · rw [heq]
    exact hd.grown_append ho (hu.listed hnew)

theorem Due.offerItem (hd : Due h₀ h h.exchangeItems) (ho : Offerable h req)
    (hpos : (h.inventory.slot (SLOT_MAX + req.pos)).count ≠ 0) (hu : Undoable table h req) :
    Due h₀ (h.offerItem table req) (h.offerItem table req).exchangeItems := by
  obtain ⟨hoffers, hgold, hnone, hback⟩ := hd.grown ho hu
  obtain ⟨hinv, hsamegold⟩ := inventory_offerItem table h req
  have hrange := ho.inRange
  have hset : Session.takeOffered h.inventory (SLOT_MAX + req.pos) req.count =
      h.inventory.set (SLOT_MAX + req.pos)
        (if (h.inventory.slot (SLOT_MAX + req.pos)).count - asU16 req.count = 0 then {}
        else { h.inventory.slot (SLOT_MAX + req.pos) with
          count := (h.inventory.slot (SLOT_MAX + req.pos)).count - asU16 req.count }) := by
    unfold Session.takeOffered
    rw [if_pos hrange]
    dsimp only
    split_ifs <;> rfl
  refine ⟨?_, ?_, ?_, hoffers, fun i => ?_⟩
  · rw [hgold, hsamegold]
    exact hd.gold
  · unfold GoldFits
    rw [hgold, hsamegold]
    exact hd.room.imp_left hnone
  · rw [hinv, hset, List.length_set]
    exact hd.length
  · rw [hinv, hset, hback]
    rcases eq_or_ne (SLOT_MAX + req.pos) i with rfl | hi
    · rw [Inventory.slot_set_self hrange, if_pos rfl]
      exact slotDue_take (hd.slots _) (ho.sameItem ▸ ho.itemId_ne) hpos ho.enough
    · rw [Inventory.slot_set_ne hi, if_neg hi]
      exact hd.slots i

end

/-- Both have agreed, and nothing is offered yet. -/
structure TradeOpened (w : World) (a b : SessionId) : Prop where
  ne : a ≠ b
  first : ∃ h, w a = some h ∧ h.exchangeUser = some b ∧ h.tradeState = .trading ∧
    h.exchangeItems = []
  second : ∃ k, w b = some k ∧ k.exchangeUser = some a ∧ k.tradeState = .trading ∧
    k.exchangeItems = []

theorem opened_of_agree {env : TradeEnv} {w : World} {a b : SessionId} (hw : InStep w)
    (hpartner : w.exchangeUser b = some a) (hstate : w.tradeState b = .target)
    (hvalid : agreeVoid env w b a = false) {accepted : ℕ} (haccepted : accepted ≠ 0) :
    TradeOpened (exchangeAgree env w b accepted) a b := by
  rcases hb : w b with _ | k
  · rw [World.exchangeUser, World.session, hb] at hpartner
    cases hpartner
  have hpartner' := hpartner
  have hstate' := hstate
  rw [World.exchangeUser, session_eq hb] at hpartner'
  rw [World.tradeState, session_eq hb] at hstate'
  obtain ⟨hba, h, ha, hback, hmatch⟩ := hw.paired.partner_spec hb hpartner'
  rw [hstate'] at hmatch
  have hsender : h.tradeState = .sender := by
    rcases hmatch with ⟨htarget, -⟩ | ⟨-, hsender⟩ | ⟨hopen, -⟩
    · cases htarget
    · exact hsender
    · cases hopen
  have hno : h.exchangeItems = [] := (hw.staged a h ha).early (by rw [hsender]; rfl)
  have hno' : k.exchangeItems = [] := (hw.staged b k hb).early (by rw [hstate']; rfl)
  unfold exchangeAgree World.tradeAgree
  rw [hpartner]
  dsimp only
  rw [if_neg (not_not.mpr hstate), hvalid, if_neg Bool.false_ne_true, if_neg haccepted]
  rw [modify_modify hba hb ha]
  refine ⟨hba.symm, ⟨_, Ledger.rewrite_right, hback, rfl, hno⟩,
    ⟨_, Ledger.rewrite_left hba, hpartner', rfl, hno'⟩⟩

structure SameGoods (h₀ h : Session) : Prop where
  gold : h.gold = h₀.gold
  length : h.inventory.length = h₀.inventory.length
  slots : ∀ i, (h.inventory.slot i).itemId = (h₀.inventory.slot i).itemId ∧
    (h.inventory.slot i).count = (h₀.inventory.slot i).count ∧
    (h.inventory.slot i).durability = (h₀.inventory.slot i).durability ∧
    (h.inventory.slot i).serialNum = (h₀.inventory.slot i).serialNum

theorem Due.sameGoods {h₀ h : Session} (hd : Due h₀ h []) : SameGoods h₀ h := by
  refine ⟨hd.gold, hd.length, fun i => ?_⟩
  obtain ⟨hcount, hkept⟩ := hd.slots i
  obtain ⟨hid, hdur, hserial⟩ := hkept.resolve_right fun h => absurd h.2.2 (lt_irrefl 0)
  exact ⟨hid, hcount, hdur, hserial⟩

theorem Due.settle {h₀ h : Session} (hd : Due h₀ h h.exchangeItems) : SameGoods h₀ h.settle := by
  obtain ⟨hgold, hlen, hslots⟩ := hd.foldl_giveItemBack.sameGoods
  exact ⟨hgold, hlen, hslots⟩

def TakesOffer (table : ItemTable) (a b : SessionId) (w : World) (s : TradeStep) : Prop :=
  (s.sid = a ∨ s.sid = b) ∧ ∃ req, s.msg = .add req ∧ s.env.busy s.sid = false ∧
    (addVerdict table s.env w s.sid req = .gold ∨ addVerdict table s.env w s.sid req = .item)

/-- It can go back; gold can, as long as all of it fits below the cap. -/
def TakesUndoable (table : ItemTable) (w : World) (s : TradeStep) : Prop :=
  ∀ req, s.msg = .add req →
    if req.itemId = ITEM_GOLD then (w.session s.sid).coins ≤ COIN_MAX
    else Undoable table (w.session s.sid) req

def SideDue (w₀ w : World) (s p : SessionId) : Prop :=
  ∃ h₀ h, w₀ s = some h₀ ∧ w s = some h ∧ h.exchangeUser = some p ∧ h.tradeState = .trading ∧
    Due h₀ h h.exchangeItems

section

variable {table : ItemTable} {w₀ w : World} {a b sid p : SessionId}
  {s : TradeStep} {req : ExchangeAdd}

/-- What an accepted offer makes of the session that sent it. -/
inductive OfferTaken (table : ItemTable) (h : Session) (req : ExchangeAdd) : Session → Prop where
  | gold (hid : req.itemId = ITEM_GOLD) (hcount : req.count ≤ h.gold) (hpos : 0 < req.count) :
      OfferTaken table h req (h.offerGold req.count)
  | item (ho : Offerable h req) (hknown : (table req.itemId).isSome) (hcount : 0 < req.count)
      (hpos : (h.inventory.slot (SLOT_MAX + req.pos)).count ≠ 0) :
      OfferTaken table h req (h.offerItem table req)

/-- The offer is written into the session that makes it, and nowhere else. -/
theorem tradeStep_taken {h : Session} (hh : w s.sid = some h) (hmsg : s.msg = .add req)
    (hbusy : s.env.busy s.sid = false)
    (hv : addVerdict table s.env w s.sid req = .gold ∨
      addVerdict table s.env w s.sid req = .item) :
    ∃ h', tradeStep table w s s.sid = some h' ∧ OfferTaken table h req h' ∧
      h'.exchangeUser = h.exchangeUser ∧ h'.tradeState = h.tradeState ∧
      ∀ t, t ≠ s.sid → tradeStep table w s t = w t := by
  have hstep : tradeStep table w s = exchangeAdd table s.env w s.sid req := by
    unfold tradeStep handleExchange
    rw [hmsg, hh, hbusy]
    rfl
  rw [hstep]
  unfold exchangeAdd
  rcases hv with hv | hv
  · have hcount := addVerdict_gold hv
    rw [session_eq hh] at hcount
    obtain ⟨huser, hstate⟩ := offerGold_part req.count h
    rw [hv]
    exact ⟨_, modify_self hh,
      .gold (addVerdict_gold_id hv) hcount (addVerdict_count hv (by decide) (by decide)), huser,
      hstate, fun t ht => modify_other ht⟩
  · have ho := addVerdict_item hv
    have hpos := addVerdict_item_count hv
    rw [session_eq hh] at ho hpos
    obtain ⟨huser, hstate⟩ := offerItem_part table req h
    rw [hv]
    exact ⟨_, modify_self hh,
      .item ho (addVerdict_known hv) (addVerdict_count hv (by decide) (by decide)) hpos,
      huser, hstate, fun t ht => modify_other ht⟩

theorem SideDue.offer (hs : SideDue w₀ w s.sid p) (hmsg : s.msg = .add req)
    (hbusy : s.env.busy s.sid = false)
    (hv : addVerdict table s.env w s.sid req = .gold ∨ addVerdict table s.env w s.sid req = .item)
    (hundo : TakesUndoable table w s) :
    SideDue w₀ (tradeStep table w s) s.sid p ∧ ∀ t, t ≠ s.sid → tradeStep table w s t = w t := by
  obtain ⟨h₀, h, hh₀, hh, huser, hstate, hd⟩ := hs
  obtain ⟨h', hh', htaken, huser', hstate', hother⟩ := tradeStep_taken hh hmsg hbusy hv
  refine ⟨⟨h₀, h', hh₀, hh', huser'.trans huser, hstate'.trans hstate, ?_⟩, hother⟩
  have hu := hundo req hmsg
  rw [session_eq hh] at hu
  cases htaken with
  | gold hid hcount _ =>
    rw [if_pos hid] at hu
    exact hd.offerGold hcount hu
  | item ho _ _ hpos =>
    rw [if_neg ho.not_gold] at hu
    exact hd.offerItem ho hpos hu

theorem SideDue.of_eq (hs : SideDue w₀ w sid p) {w' : World} (heq : w' sid = w sid) :
    SideDue w₀ w' sid p := by
  obtain ⟨h₀, h, hh₀, hh, hrest⟩ := hs
  exact ⟨h₀, h, hh₀, heq.trans hh, hrest⟩

theorem sidesDue_step (hab : a ≠ b) (ha : SideDue w₀ w a b) (hb : SideDue w₀ w b a)
    (htakes : TakesOffer table a b w s) (hundo : TakesUndoable table w s) :
    SideDue w₀ (tradeStep table w s) a b ∧ SideDue w₀ (tradeStep table w s) b a := by
  obtain ⟨hsid, req, hmsg, hbusy, hv⟩ := htakes
  rcases hsid with rfl | rfl
  · obtain ⟨hmine, hother⟩ := ha.offer hmsg hbusy hv hundo
    exact ⟨hmine, hb.of_eq (hother b hab.symm)⟩
  · obtain ⟨hmine, hother⟩ := hb.offer hmsg hbusy hv hundo
    exact ⟨ha.of_eq (hother a hab), hmine⟩

theorem cancel_sidesDue (hab : a ≠ b) (ha : SideDue w₀ w a b) (hb : SideDue w₀ w b a) :
    ∀ s, s = a ∨ s = b → SameGoods (w₀.session s) ((exchangeCancel w a).session s) := by
  obtain ⟨h₀, h, hh₀, hh, huser, hstate, hd⟩ := ha
  obtain ⟨k₀, k, hk₀, hk, -, hstate', hd'⟩ := hb
  rw [exchangeCancel_eq hab hh hk (by rw [hstate]; decide) (by rw [hstate']; decide) huser]
  rintro s (rfl | rfl)
  · rw [session_eq hh₀, session_eq (Ledger.rewrite_left hab)]
    exact hd.settle
  · rw [session_eq hk₀, session_eq Ledger.rewrite_right]
    exact hd'.settle

end

/-- After any offers of the two players, either of them can take all of them back. -/
theorem cancel_undoes_offers {table : ItemTable} {w : World} {a b : SessionId}
    (hopened : TradeOpened w a b) {steps : List TradeStep}
    (hoffers : Run.Along (tradeStep table)
      (fun w s => TakesOffer table a b w s ∧ TakesUndoable table w s) w steps)
    {sid : SessionId} (hsid : sid = a ∨ sid = b) :
    ∀ s, s = a ∨ s = b →
      SameGoods (w.session s) ((exchangeCancel (Run.run (tradeStep table) w steps) sid).session s) := by
  obtain ⟨hab, ⟨h, hh, huser, hstate, hno⟩, ⟨k, hk, huser', hstate', hno'⟩⟩ := hopened
  have hrun : SideDue w (Run.run (tradeStep table) w steps) a b ∧
      SideDue w (Run.run (tradeStep table) w steps) b a :=
    Run.invariant (fun v => SideDue w v a b ∧ SideDue w v b a)
      (fun _ _ hv hs => sidesDue_step hab hv.1 hv.2 hs.1 hs.2) hoffers
      ⟨⟨h, h, hh, hh, huser, hstate, due_nil hno⟩, ⟨k, k, hk, hk, huser', hstate', due_nil hno'⟩⟩
  rcases hsid with rfl | rfl
  · exact cancel_sidesDue hab hrun.1 hrun.2
  · intro s hs
    exact cancel_sidesDue hab.symm hrun.2 hrun.1 s hs.symm

def openedTrade : World :=
  Run.run (tradeStep tradeTable) (fun s =>
    if s = 1 then
      some
        { inventory := Inventory.padded (List.replicate SLOT_MAX {} ++
            [{ itemId := 389010000, count := 10 }, { itemId := 389010000, count := 20 }])
          gold := 700 }
    else twoPlayers s) [⟨quietEnv, 1, .req 2⟩, ⟨quietEnv, 2, .agree 1⟩]

theorem opened_openedTrade : TradeOpened openedTrade 1 2 :=
  ⟨by decide, ⟨_, rfl, rfl, rfl, rfl⟩, ⟨_, rfl, rfl, rfl, rfl⟩⟩

/-- Five potions of the first slot and some gold, and then the rest of the slot. -/
def allOfOneSlot : List TradeStep :=
  [⟨quietEnv, 1, .add ⟨0, 389010000, 5⟩⟩, ⟨quietEnv, 1, .add ⟨255, ITEM_GOLD, 500⟩⟩,
    ⟨quietEnv, 1, .add ⟨0, 389010000, 5⟩⟩]

theorem cancel_undoes_offers_one_slot : SameGoods (openedTrade.session 1)
    ((exchangeCancel (Run.run (tradeStep tradeTable) openedTrade allOfOneSlot) 2).session 1) := by
  have hoffers : Run.Along (tradeStep tradeTable)
      (fun w s => TakesOffer tradeTable 1 2 w s ∧ TakesUndoable tradeTable w s) openedTrade
      allOfOneSlot := by
    refine ⟨⟨⟨.inl rfl, _, rfl, rfl, .inr ?_⟩, ?_⟩, ⟨⟨.inl rfl, _, rfl, rfl, .inl ?_⟩, ?_⟩,
      ⟨⟨.inl rfl, _, rfl, rfl, .inr ?_⟩, ?_⟩, trivial⟩
    · decide +kernel
    · rintro req hmsg
      cases hmsg
      exact ⟨fun _ => by decide +kernel, fun _ => by decide +kernel⟩
    · decide +kernel
    · rintro req hmsg
      cases hmsg
      rw [if_pos rfl]
      decide +kernel
    · decide +kernel
    · rintro req hmsg
      cases hmsg
      exact ⟨fun _ => by decide +kernel, fun _ => by decide +kernel⟩
  exact cancel_undoes_offers opened_openedTrade hoffers (.inr rfl) 1 (.inl rfl)

def fiveOfEachSlot : List TradeStep :=
  [⟨quietEnv, 1, .add ⟨0, 389010000, 5⟩⟩, ⟨quietEnv, 1, .add ⟨1, 389010000, 5⟩⟩]

/-- Five of each slot: all ten go back to the first one. -/
theorem potions_in_one_slot : TradeOpened openedTrade 1 2 ∧
    Run.Along (tradeStep tradeTable) (TakesOffer tradeTable 1 2) openedTrade fiveOfEachSlot ∧
    ¬ SameGoods (openedTrade.session 1)
      ((exchangeCancel (Run.run (tradeStep tradeTable) openedTrade fiveOfEachSlot) 1).session 1) := by
  refine ⟨opened_openedTrade, ⟨⟨.inl rfl, _, rfl, rfl, .inr ?_⟩, ⟨.inl rfl, _, rfl, rfl, .inr ?_⟩,
    trivial⟩, fun h => ?_⟩
  · decide +kernel
  · decide +kernel
  · have hcount := (h.slots 14).2.1
    revert hcount
    decide +kernel

end KoServer
