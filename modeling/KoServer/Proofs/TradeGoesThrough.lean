import KoServer.Proofs.TradeCancel
import KoServer.Proofs.TradeDelivery

/-! When both players decide. The trade is executed as long as no offer has emptied the slot it
came from, since the last check looks for every item there. -/

namespace KoServer

structure Gained (s s' : UserItemSlot) (ex : ExchangeItem) : Prop where
  before : s.itemId = 0 ∨ s.itemId = ex.itemId
  itemId : s'.itemId = ex.itemId
  count : s'.count = s.count + ex.count
  durability : s'.durability = ex.durability
  serialNum : s'.serialNum = ex.serialNum

/-- Every item went to a slot of its own, and no other slot has changed but for what is empty. -/
def Delivered (inv inv' : Inventory) (gs : List ExchangeItem) : Prop :=
  ∃ landings : List (ℕ × ExchangeItem), landings.map Prod.snd = gs ∧
    (landings.map Prod.fst).Nodup ∧
    (∀ l ∈ landings, l.1 ∈ bagSlots ∧ Gained (inv.slot l.1) (inv'.slot l.1) l.2) ∧
    ∀ j, j ∉ landings.map Prod.fst →
      inv'.slot j = inv.slot j ∨ (inv.slot j).count = 0 ∧ inv'.slot j = {}

/-- An empty slot holds no units. -/
def NoLeftovers (inv : Inventory) : Prop := ∀ i, (inv.slot i).itemId = 0 → (inv.slot i).count = 0

structure Whole (table : ItemTable) (inv : Inventory) (ex : ExchangeItem) : Prop where
  single : countableOf table ex.itemId = 0 → ex.count = 1
  small : countableOf table ex.itemId ≠ 0 → ex.count ≤ ITEMCOUNT_MAX
  joins : ∀ i, stackFor table inv ex = some i →
    (inv.slot i).count + ex.count ≤ ITEMCOUNT_MAX ∧ (inv.slot i).durability = ex.durability ∧
      (inv.slot i).serialNum = ex.serialNum

section

variable {table : ItemTable} {inv mid inv' : Inventory} {ex e : ExchangeItem} {i : ℕ}
  {items : List ExchangeItem} {landings : List (ℕ × ExchangeItem)}

theorem gained_placed (hlands : LandsAt table inv i ex) (hclean : NoLeftovers inv)
    (hw : Whole table inv ex) (hid : ex.itemId ≠ 0) :
    Gained (inv.slot i) (placed table (inv.slot i) ex) ex := by
  have hmax : ITEMCOUNT_MAX = 9999 := rfl
  rcases hlands with hstack | ⟨-, hfree⟩
  · obtain ⟨hcountable, -, -, hitem, -⟩ := stackFor_spec hstack
    obtain ⟨hroom, hdur, hserial⟩ := hw.joins i hstack
    have hne : (inv.slot i).itemId ≠ 0 := hitem ▸ hid
    refine ⟨.inr hitem, rfl, ?_, ?_, ?_⟩
    · unfold placed asU16
      rw [if_neg (ne_of_gt hcountable)]
      dsimp only
      omega
    · exact (if_neg hne).trans hdur
    · exact (if_neg hne).trans hserial
  · have hempty : (inv.slot i).itemId = 0 := by
      simp only [freeSlot, Bool.and_eq_true, decide_eq_true_eq] at hfree
      exact hfree.2
    have hzero := hclean i hempty
    refine ⟨.inl hempty, rfl, ?_, if_pos hempty, if_pos hempty⟩
    unfold placed asU16
    dsimp only
    split_ifs with hcountable
    · rw [hzero, hw.single hcountable]
    · have hle := hw.small hcountable
      omega

theorem whole_of_gained (ho : Offers table items) (hex : ex ∈ items) (he : e ∈ items)
    (hclean : NoLeftovers inv) (hlands : LandsAt table inv i e)
    (hgained : Gained (inv.slot i) (placed table (inv.slot i) e) ex) (hid0 : ex.itemId ≠ 0) :
    Whole table inv ex := by
  obtain ⟨-, hid, hcount, hdur, hserial⟩ := hgained
  replace hid : e.itemId = ex.itemId := hid
  replace hcount : (if countableOf table e.itemId = 0 then 1
      else min (((inv.slot i).count + asU16 e.count) % 2 ^ 16) ITEMCOUNT_MAX) =
    (inv.slot i).count + ex.count := hcount
  rw [hid] at hcount
  refine ⟨fun hcountable => ?_, fun hcountable => ?_, fun j hstack => ?_⟩
  · have hempty := hlands.before.resolve_right fun h => by
      rw [hid, hcountable] at h
      exact lt_irrefl _ h.2
    rw [if_pos hcountable, hclean i hempty] at hcount
    omega
  · rw [if_neg hcountable] at hcount
    omega
  · obtain ⟨hcountable, -, -, hitem, -⟩ := stackFor_spec hstack
    obtain rfl : ex = e := ho.unique hex he hid.symm hcountable
    have hij : i = j := by
      rcases hlands with hstack' | ⟨hnone, -⟩
      · exact Option.some.inj (hstack'.symm.trans hstack)
      · rw [hnone] at hstack
        cases hstack
    subst hij
    have hne : (inv.slot i).itemId ≠ 0 := hitem ▸ hid0
    rw [if_neg (ne_of_gt hcountable)] at hcount
    exact ⟨by omega, (if_neg hne).symm.trans hdur, (if_neg hne).symm.trans hserial⟩

/-- After the clearing of emptied slots, a delivery is right when every entry is whole. -/
theorem delivered_iff (ho : Offers table items) (hclean : NoLeftovers inv)
    (hlanded : Landed table inv mid (goods items) landings)
    (hcleared : ∀ i, inv'.slot i = mid.slot i ∨ (mid.slot i).count = 0 ∧ inv'.slot i = {}) :
    Delivered inv inv' (goods items) ↔ ∀ ex ∈ goods items, Whole table inv ex := by
  have hgood : ∀ l ∈ landings, l.2 ∈ items ∧ l.2.itemId ≠ ITEM_GOLD := by
    intro l hl
    exact mem_goods.mp (hlanded.all ▸ List.mem_map_of_mem hl)
  constructor
  · rintro ⟨claimed, hall, -, hgained, -⟩ ex hex
    rw [← hall] at hex
    obtain ⟨⟨i, ex⟩, hl, rfl⟩ := List.mem_map.mp hex
    obtain ⟨-, hgain⟩ := hgained _ hl
    have hitem := mem_goods.mp (hall ▸ List.mem_map_of_mem hl : ex ∈ goods items)
    obtain ⟨-, hid0, hpos⟩ := ho.each ex hitem.1 hitem.2
    have hcount := hgain.count
    dsimp only at hgain hcount ⊢
    -- the slot has grown, so something landed there and was not cleared away
    have hkept : inv'.slot i = mid.slot i := by
      rcases hcleared i with hsame | ⟨-, hcleared⟩
      · exact hsame
      · rw [hcleared] at hcount
        have hzero : (0 : ℕ) = (inv.slot i).count + ex.count := hcount
        omega
    have hmem : i ∈ landings.map Prod.fst := by
      by_contra hout
      rw [hkept, hlanded.others i hout] at hcount
      omega
    obtain ⟨⟨i, e⟩, hl', rfl⟩ := List.mem_map.mp hmem
    rw [hkept, hlanded.slots _ hl'] at hgain
    exact whole_of_gained ho hitem.1 (hgood _ hl').1 hclean (hlanded.lands _ hl').2.2 hgain hid0
  · intro hwhole
    refine ⟨landings, hlanded.all, hlanded.nodup, fun l hl => ⟨(hlanded.lands l hl).1, ?_⟩,
      fun j hj => ?_⟩
    · obtain ⟨hmem, hne⟩ := hgood l hl
      obtain ⟨-, hid0, hpos⟩ := ho.each l.2 hmem hne
      have hgain := gained_placed (hlanded.lands l hl).2.2 hclean
        (hwhole l.2 (mem_goods.mpr ⟨hmem, hne⟩)) hid0
      rcases hcleared l.1 with hsame | ⟨hzero, -⟩
      · rw [hsame, hlanded.slots l hl]
        exact hgain
      · rw [hlanded.slots l hl, hgain.count] at hzero
        omega
    · rw [← hlanded.others j hj]
      exact hcleared j

end

/-- The trade of `s` is as it was, whatever happened to what `s` holds. -/
def SameTrade (w w' : World) (s : SessionId) : Prop :=
  ∃ h h', w s = some h ∧ w' s = some h' ∧ h'.tradeState = h.tradeState ∧
    h'.exchangeUser = h.exchangeUser ∧ h'.exchangeItems = h.exchangeItems

/-- An open trade and what may happen in it: accepted offers, and anything elsewhere. -/
inductive OffersMade (table : ItemTable) (a b : SessionId) : World → Prop where
  | opened {w : World} (h : TradeOpened w a b) : OffersMade table a b w
  | offer {w : World} {s : TradeStep} (h : OffersMade table a b w)
      (hs : TakesOffer table a b w s) : OffersMade table a b (tradeStep table w s)
  | elsewhere {w w' : World} (h : OffersMade table a b w) (ha : SameTrade w w' a)
      (hb : SameTrade w w' b) : OffersMade table a b w'

def Bargains (table : ItemTable) (w : World) (s p : SessionId) : Prop :=
  ∃ h, w s = some h ∧ h.exchangeUser = some p ∧ h.tradeState = .trading ∧
    Offers table h.exchangeItems

section

variable {table : ItemTable} {env : TradeEnv} {w w' : World} {a b sid p : SessionId}
  {items items' : List ExchangeItem} {h k : Session} {s : TradeStep} {req : ExchangeAdd}
  {itemId count : ℕ}

theorem OffersMade.run (h : OffersMade table a b w) {steps : List TradeStep}
    (hs : Run.Along (tradeStep table) (TakesOffer table a b) w steps) :
    OffersMade table a b (Run.run (tradeStep table) w steps) :=
  Run.invariant (OffersMade table a b) (fun _ _ hv hs => hv.offer hs) hs h

theorem update_itemIds (hupdate : updateExchangeItemCount itemId count items = some items') :
    items'.map ExchangeItem.itemId = items.map ExchangeItem.itemId := by
  have hkeys := congrArg (List.map Prod.fst) (update_keys hupdate)
  rwa [List.map_map, List.map_map] at hkeys

theorem update_pos (hupdate : updateExchangeItemCount itemId count items = some items')
    (hpos : ∀ ex ∈ items, ex.itemId ≠ ITEM_GOLD → 0 < ex.count) :
    ∀ ex ∈ items', ex.itemId ≠ ITEM_GOLD → 0 < ex.count := by
  induction items generalizing items' with
  | nil => cases hupdate
  | cons e items ih =>
    obtain ⟨hfirst, hrest⟩ := List.forall_mem_cons.mp hpos
    unfold updateExchangeItemCount at hupdate
    split_ifs at hupdate with hid
    · obtain rfl := Option.some.inj hupdate
      refine List.forall_mem_cons.mpr ⟨fun hne => ?_, hrest⟩
      have := hfirst hne
      dsimp only
      omega
    · obtain ⟨rest, hrest', rfl⟩ := Option.map_eq_some_iff.mp hupdate
      exact List.forall_mem_cons.mpr ⟨hfirst, ih hrest' hrest⟩

theorem Offers.update (ho : Offers table items)
    (hupdate : updateExchangeItemCount itemId count items = some items') : Offers table items' := by
  have hpos := update_pos hupdate fun ex hex hne => (ho.each ex hex hne).2.2
  refine ⟨fun ex hex hne => ?_, ?_⟩
  · obtain ⟨e, he, heq⟩ := update_origin hupdate hex
    have hid : ex.itemId = e.itemId := by rw [heq]
    obtain ⟨hknown, hid0, -⟩ := ho.each e he (hid ▸ hne)
    exact ⟨hid ▸ hknown, hid ▸ hid0, hpos ex hex hne⟩
  · have hids : (items'.map ExchangeItem.itemId).Pairwise fun i j =>
        i = j → countableOf table i ≤ 0 := by
      rw [update_itemIds hupdate]
      exact List.pairwise_map.mpr ho.single
    exact List.pairwise_map.mp hids

theorem Offers.append (ho : Offers table items) {ex : ExchangeItem}
    (hex : ex.itemId ≠ ITEM_GOLD → (table ex.itemId).isSome ∧ ex.itemId ≠ 0 ∧ 0 < ex.count)
    (hnew : countableOf table ex.itemId ≤ 0 ∨ ∀ e ∈ items, e.itemId ≠ ex.itemId) :
    Offers table (items ++ [ex]) := by
  refine ⟨fun e he hne => ?_, List.pairwise_append.mpr ⟨ho.single, List.pairwise_singleton _ _, ?_⟩⟩
  · rcases List.mem_append.mp he with he | he
    · exact ho.each e he hne
    · obtain rfl := List.mem_singleton.mp he
      exact hex hne
  · intro e he e' he' hid
    obtain rfl := List.mem_singleton.mp he'
    rcases hnew with hle | hnew
    · exact hid ▸ hle
    · exact absurd hid (hnew e he)

theorem offers_offerGold (ho : Offers table h.exchangeItems) :
    Offers table (h.offerGold count).exchangeItems := by
  unfold Session.offerGold
  split
  · next items hupdate => exact ho.update hupdate
  · next hupdate =>
    exact ho.append (fun hne => absurd rfl hne) (.inr (update_none hupdate))

theorem offers_offerItem (ho : Offers table h.exchangeItems) (hknown : (table req.itemId).isSome)
    (hid0 : req.itemId ≠ 0) (hpos : 0 < req.count) :
    Offers table (h.offerItem table req).exchangeItems := by
  rcases exchangeItems_offerItem table h req with ⟨items, -, hupdate, heq⟩ | ⟨hnew, heq⟩
  · rw [heq]
    exact ho.update hupdate
  · rw [heq]
    exact ho.append (fun _ => ⟨hknown, hid0, hpos⟩) hnew

theorem Bargains.offer (hb : Bargains table w s.sid p) (hmsg : s.msg = .add req)
    (hbusy : s.env.busy s.sid = false)
    (hv : addVerdict table s.env w s.sid req = .gold ∨
      addVerdict table s.env w s.sid req = .item) :
    Bargains table (tradeStep table w s) s.sid p ∧
      ∀ t, t ≠ s.sid → tradeStep table w s t = w t := by
  obtain ⟨h, hh, huser, hstate, ho⟩ := hb
  obtain ⟨h', hh', htaken, huser', hstate', hother⟩ := tradeStep_taken hh hmsg hbusy hv
  refine ⟨⟨h', hh', huser'.trans huser, hstate'.trans hstate, ?_⟩, hother⟩
  cases htaken with
  | gold _ => exact offers_offerGold ho
  | item hoffer hknown hcount _ => exact offers_offerItem ho hknown hoffer.itemId_ne hcount

theorem Bargains.of_eq (hb : Bargains table w sid p) (heq : w' sid = w sid) :
    Bargains table w' sid p := by
  obtain ⟨h, hh, hrest⟩ := hb
  exact ⟨h, heq.trans hh, hrest⟩

theorem Bargains.elsewhere (hb : Bargains table w sid p) (hsame : SameTrade w w' sid) :
    Bargains table w' sid p := by
  obtain ⟨h, hh, huser, hstate, ho⟩ := hb
  obtain ⟨g, g', hg, hg', hstate', huser', hitems⟩ := hsame
  obtain rfl := Option.some.inj (hh.symm.trans hg)
  exact ⟨g', hg', huser'.trans huser, hstate'.trans hstate, hitems ▸ ho⟩

theorem OffersMade.bargains (hw : OffersMade table a b w) :
    a ≠ b ∧ Bargains table w a b ∧ Bargains table w b a := by
  induction hw with
  | opened hopened =>
    obtain ⟨hab, ⟨h, hh, huser, hstate, hno⟩, ⟨k, hk, huser', hstate', hno'⟩⟩ := hopened
    exact ⟨hab, ⟨h, hh, huser, hstate, hno ▸ offers_nil⟩,
      ⟨k, hk, huser', hstate', hno' ▸ offers_nil⟩⟩
  | offer _ hs ih =>
    obtain ⟨hab, ha, hb⟩ := ih
    obtain ⟨hsid, req, hmsg, hbusy, hv⟩ := hs
    rcases hsid with rfl | rfl
    · obtain ⟨hmine, hother⟩ := ha.offer hmsg hbusy hv
      exact ⟨hab, hmine, hb.of_eq (hother b hab.symm)⟩
    · obtain ⟨hmine, hother⟩ := hb.offer hmsg hbusy hv
      exact ⟨hab, ha.of_eq (hother a hab), hmine⟩
  | elsewhere _ ha hb ih => exact ⟨ih.1, ih.2.1.elsewhere ha, ih.2.2.elsewhere hb⟩

end

/-- Nothing in the surroundings stands between the two players. -/
structure Undisturbed (env : TradeEnv) (a b : SessionId) : Prop where
  first : env.busy a = false
  second : env.busy b = false
  zone : env.zoneId a = env.zoneId b
  nations : env.foreign a b = false

/-- What the table says an entry weighs, as the check reads it. -/
def entryWeight (table : ItemTable) (ex : ExchangeItem) : ℕ :=
  (((table ex.itemId).bind Item.weight).getD 0 % 2 ^ 32).toNat

structure CanTake (table : ItemTable) (env : TradeEnv) (sid : SessionId) (h : Session)
    (items : List ExchangeItem) : Prop where
  slots : (goods items).length ≤ countFreeSlots h.inventory
  clean : NoLeftovers h.inventory
  weight : Tally.total (entryWeight table) (goods items) + env.itemWeight sid ≤ env.maxWeight sid
  gold : h.gold + Tally.total offeredGold items ≤ COIN_MAX

/-- An entry that the last check lets through. -/
structure Kept (table : ItemTable) (own inv : Inventory) (ex : ExchangeItem) : Prop where
  source : (own.slot ex.srcPos).itemId = ex.itemId
  kind : (stackFor table inv ex).isSome →
    ∀ item, table ex.itemId = some item → item.kindD ≠ ITEM_KIND_UNIQUE

section

variable {table : ItemTable} {env : TradeEnv} {w : World} {a b sid p : SessionId}
  {ex : ExchangeItem} {items : List ExchangeItem} {h k : Session}

theorem Undisturbed.symm (hq : Undisturbed env a b) : Undisturbed env b a := by
  refine ⟨hq.second, hq.first, hq.zone.symm, ?_⟩
  have hnations := hq.nations
  unfold TradeEnv.foreign at hnations ⊢
  rw [← hq.zone, ← hnations]
  congr 1
  exact decide_eq_decide.mpr ne_comm

theorem not_occupied (hbusy : env.busy a = false) :
    env.isPlayerDead a = false ∧ env.isMerchanting a = false ∧ env.isMining a = false ∧
      env.occupied a = false := by
  unfold TradeEnv.busy at hbusy
  simp only [Bool.or_eq_false_iff] at hbusy
  obtain ⟨⟨⟨⟨⟨hdead, hmerchant⟩, hmining⟩, hfishing⟩, hsell⟩, hbuy⟩ := hbusy
  refine ⟨hdead, hmerchant, hmining, ?_⟩
  simp [TradeEnv.occupied, hmerchant, hmining, hfishing, hsell, hbuy]

theorem foldl_weight_le (start : ℕ) :
    items.foldl (fun total ex =>
        min (total + (((table ex.itemId).bind Item.weight).getD 0 % 2 ^ 32).toNat) (2 ^ 32 - 1))
      start ≤ start + Tally.total (entryWeight table) items := by
  induction items generalizing start with
  | nil => exact le_rfl
  | cons ex items ih =>
    rw [List.foldl_cons, Tally.total_cons]
    refine (ih _).trans ?_
    unfold entryWeight
    omega

theorem checkExchange_of_canTake (hh : w sid = some h) (hk : w p = some k)
    (huser : h.exchangeUser = some p) (halive : env.isPlayerDead sid = false)
    (ho : Offers table k.exchangeItems) (htake : CanTake table env sid h k.exchangeItems) :
    checkExchange table env w sid = true := by
  obtain ⟨hslots, -, hweight, hgold⟩ := htake
  unfold checkExchange
  simp only [World.exchangeUser, World.exchangeItems, session_eq hh, huser, session_eq hk,
    Bool.and_eq_true, List.all_eq_true, decide_eq_true_eq]
  refine ⟨⟨⟨by rw [halive]; rfl, fun ex hex => ?_⟩, hslots⟩, ?_⟩
  · split_ifs with hcoins
    · have hentry := Tally.le_total offeredGold hex
      rw [offeredGold_gold hcoins] at hentry
      exact decide_eq_true (by omega)
    · exact (ho.each ex hex hcoins).1
  · have hsum := @foldl_weight_le table (goods k.exchangeItems) 0
    refine (Nat.mod_le _ _).trans ?_
    unfold goods at hsum hweight
    omega

theorem placeable_iff (hh : w sid = some h) (hk : w p = some k)
    (hknown : (table ex.itemId).isSome) (hid0 : ex.itemId ≠ 0)
    (hfree : 0 < countFreeSlots h.inventory) :
    placeable table w sid p ex = true ↔ Kept table k.inventory h.inventory ex := by
  obtain ⟨item, hitem⟩ := Option.isSome_iff_exists.mp hknown
  obtain ⟨i, hfind, hbag, -, hlands⟩ := exists_landing hknown hfree
  have hlast : i < SLOT_MAX + HAVE_MAX := by
    obtain ⟨j, hj, rfl⟩ := List.mem_map.mp hbag
    exact Nat.add_lt_add_left (List.mem_range.mp hj) _
  have hfits : (h.inventory.slot i).itemId = ex.itemId ∨ (h.inventory.slot i).itemId = 0 :=
    hlands.before.symm.imp_left And.left
  have hstack : (h.inventory.slot i).itemId ≠ 0 ↔ (stackFor table h.inventory ex).isSome := by
    rcases hlands with hstack | ⟨hnone, hempty⟩
    · obtain ⟨-, -, -, hsame, -⟩ := stackFor_spec hstack
      simp [hstack, hsame, hid0]
    · simp only [freeSlot, Bool.and_eq_true, decide_eq_true_eq] at hempty
      simp [hnone, hempty.2]
  unfold placeable
  rw [hitem]
  dsimp only
  rw [session_eq hh, session_eq hk, hfind]
  dsimp only
  cases hget : k.inventory[ex.srcPos]? with
  | none =>
    have hread : k.inventory.slot ex.srcPos = {} := by
      unfold Inventory.slot
      rw [List.getD_eq_getElem?_getD, hget, Option.getD_none]
    simp only [Bool.and_false, Bool.false_and, Bool.false_eq_true, false_iff]
    intro hkept
    have hsource := hkept.source
    rw [hread] at hsource
    exact hid0 hsource.symm
  | some src =>
    have hread : k.inventory.slot ex.srcPos = src := Inventory.slot_of_getElem? hget
    simp only [hlast, decide_true, Bool.true_and, Bool.and_eq_true, Bool.not_eq_true',
      Bool.and_eq_false_iff, decide_eq_false_iff_not, Bool.or_eq_true, decide_eq_true_eq, hfits,
      and_true]
    constructor
    · rintro ⟨hsource, hkind⟩
      refine ⟨hread ▸ hsource, fun hsome item' hitem' => ?_⟩
      obtain rfl := Option.some.inj (hitem.symm.trans hitem')
      exact hkind.resolve_right fun hempty => hempty (hstack.mpr hsome)
    · rintro ⟨hsource, hkind⟩
      refine ⟨hread ▸ hsource, ?_⟩
      by_cases hsome : (stackFor table h.inventory ex).isSome
      · exact .inl (hkind hsome item hitem)
      · exact .inr fun hne => hsome (hstack.mp hne)

theorem checkExecuteExchange_iff (hq : Undisturbed env sid p) (hh : w sid = some h)
    (hk : w p = some k) (huser : h.exchangeUser = some p) (hback : k.exchangeUser = some sid)
    (hstate : h.tradeState = .deciding) (ho : Offers table k.exchangeItems)
    (hslots : (goods k.exchangeItems).length ≤ countFreeSlots h.inventory) :
    checkExecuteExchange table env w sid = true ↔
      ∀ ex ∈ goods k.exchangeItems, Kept table k.inventory h.inventory ex := by
  obtain ⟨-, -, -, hfree⟩ := not_occupied hq.first
  obtain ⟨-, -, -, hfree'⟩ := not_occupied hq.second
  have hzone : env.sameZone p sid = true := decide_eq_true hq.zone.symm
  have hplace : ∀ ex ∈ goods k.exchangeItems,
      (placeable table w sid p ex = true ↔ Kept table k.inventory h.inventory ex) := by
    intro ex hex
    obtain ⟨hmem, hne⟩ := mem_goods.mp hex
    obtain ⟨hknown, hid0, -⟩ := ho.each ex hmem hne
    exact placeable_iff hh hk hknown hid0
      (Nat.lt_of_lt_of_le (List.length_pos_of_mem hex) hslots)
  unfold checkExecuteExchange
  simp only [World.tradeState, World.exchangeUser, World.exchangeItems, session_eq hh,
    session_eq hk, hstate, huser, hback, hfree, hfree', hzone, hq.nations, decide_true,
    Bool.not_false, Bool.true_and, List.all_eq_true, Bool.or_eq_true, decide_eq_true_eq]
  constructor
  · intro hall ex hex
    obtain ⟨hmem, hne⟩ := mem_goods.mp hex
    exact (hplace ex hex).mp ((hall ex hmem).resolve_left hne)
  · intro hall ex hmem
    by_cases hgold : ex.itemId = ITEM_GOLD
    · exact .inl hgold
    · have hex := mem_goods.mpr ⟨hmem, hgold⟩
      exact .inr ((hplace ex hex).mpr (hall ex hex))

/-- The first decision is noted, and the partner is waited for. -/
theorem decide_wait (hq : Undisturbed env sid p) (hh : w sid = some h) (hk : w p = some k)
    (huser : h.exchangeUser = some p) (hback : k.exchangeUser = some sid)
    (hstate : h.tradeState = .trading) (hstate' : k.tradeState = .trading) :
    tradeStep table w ⟨env, sid, .decide⟩ = w.modify sid (Session.setTradeState .deciding) := by
  obtain ⟨hdead, hmerchant, hmining, -⟩ := not_occupied hq.second
  have hzone : env.sameZone sid p = true := decide_eq_true hq.zone
  have hverdict : decideVerdict table env w sid p = .wait := by
    unfold decideVerdict
    simp [World.tradeState, World.exchangeUser, session_eq hk, hzone, hback, hdead, hmining,
      hmerchant, hstate']
  unfold tradeStep handleExchange exchangeDecide
  simp [World.tradeState, World.exchangeUser, session_eq hh, hh, hq.first, hstate, huser, hverdict]

theorem decide_execute (hq : Undisturbed env sid p) (hsp : sid ≠ p) (hh : w sid = some h)
    (hk : w p = some k) (huser : h.exchangeUser = some p) (hstate : h.tradeState = .trading)
    (hverdict : decideVerdict table env w sid p = .execute) :
    tradeStep table w ⟨env, sid, .decide⟩ = Ledger.rewrite w sid p
      (h.exchangeItems.foldl Session.clearSource
        (k.exchangeItems.foldl (Session.receiveItem table)
          (Session.setTradeState .deciding h))).resetTrade
      (k.exchangeItems.foldl Session.clearSource
        (h.exchangeItems.foldl (Session.receiveItem table) k)).resetTrade := by
  have hh' : w.modify sid (Session.setTradeState .deciding) sid =
    some (Session.setTradeState .deciding h) := modify_self hh
  have hk' : w.modify sid (Session.setTradeState .deciding) p = some k := by
    rw [modify_other hsp.symm, hk]
  have hstep : tradeStep table w ⟨env, sid, .decide⟩ =
      executeExchange table (w.modify sid (Session.setTradeState .deciding)) sid p := by
    unfold tradeStep handleExchange exchangeDecide
    simp [World.tradeState, World.exchangeUser, session_eq hh, hh, hq.first, hstate, huser,
      hverdict]
  rw [hstep, executeExchange_eq hsp hh' hk', modify_pair hsp hh hk, Ledger.rewrite_rewrite hsp]
  rfl

/-- The second decision settles the trade, one way or the other. -/
theorem decideVerdict_execute_iff (hq : Undisturbed env sid p) (hsp : sid ≠ p)
    (hh : w sid = some h) (hk : w p = some k) (huser : h.exchangeUser = some p)
    (hback : k.exchangeUser = some sid) (hstate' : k.tradeState = .deciding)
    (ho : Offers table h.exchangeItems) (ho' : Offers table k.exchangeItems)
    (htake : CanTake table env sid h k.exchangeItems)
    (htake' : CanTake table env p k h.exchangeItems) :
    decideVerdict table env w sid p = .execute ↔
      (∀ ex ∈ goods k.exchangeItems, Kept table k.inventory h.inventory ex) ∧
        ∀ ex ∈ goods h.exchangeItems, Kept table h.inventory k.inventory ex := by
  obtain ⟨halive, -⟩ := not_occupied hq.first
  obtain ⟨halive', hmerchant, hmining, -⟩ := not_occupied hq.second
  have hzone : env.sameZone sid p = true := decide_eq_true hq.zone
  have hh' : w.modify sid (Session.setTradeState .deciding) sid =
    some (Session.setTradeState .deciding h) := modify_self hh
  have hk' : w.modify sid (Session.setTradeState .deciding) p = some k := by
    rw [modify_other hsp.symm, hk]
  have hcheck := checkExchange_of_canTake hh' hk' huser halive ho'
    ⟨htake.slots, htake.clean, htake.weight, htake.gold⟩
  have hcheck' := checkExchange_of_canTake hk' hh' hback halive' ho htake'
  have hexecute := checkExecuteExchange_iff hq hh' hk' huser hback rfl ho' htake.slots
  have hexecute' := checkExecuteExchange_iff hq.symm hk' hh' hback huser hstate' ho htake'.slots
  have hguard : (!env.sameZone sid p || decide (w.exchangeUser p ≠ some sid) ||
      env.isPlayerDead p || env.isMining p || env.isMerchanting p) = false := by
    simp [World.exchangeUser, session_eq hk, hback, hzone, halive', hmining, hmerchant]
  unfold decideVerdict
  rw [hguard, if_neg Bool.false_ne_true]
  simp only [World.tradeState, session_eq hk, hstate']
  rw [if_neg (by decide), if_neg (by decide), hcheck, hcheck']
  simp only [Bool.true_and]
  rw [show (∀ ex ∈ goods h.exchangeItems, Kept table h.inventory k.inventory ex) ↔ _ from
    hexecute'.symm, show (∀ ex ∈ goods k.exchangeItems, Kept table k.inventory h.inventory ex) ↔ _
    from hexecute.symm, ← Bool.and_eq_true]
  split_ifs with hall
  · exact ⟨fun _ => hall, fun _ => rfl⟩
  · exact ⟨fun hfail => (by cases hfail), fun h => absurd h hall⟩

end

structure TookOver (h h' : Session) (items : List ExchangeItem) : Prop where
  bag : Delivered h.inventory h'.inventory (goods items)
  gold : h'.gold = h.gold + Tally.total offeredGold items

def bothDecide (e₁ e₂ : TradeEnv) (first second : SessionId) : List TradeStep :=
  [⟨e₁, first, .decide⟩, ⟨e₂, second, .decide⟩]

structure GoesThrough (table : ItemTable) (e₁ e₂ : TradeEnv) (w : World)
    (first second : SessionId) : Prop where
  executed : decideVerdict table e₂ (tradeStep table w ⟨e₁, first, .decide⟩) second first = .execute
  sides : ∀ s p, s = first ∧ p = second ∨ s = second ∧ p = first →
    TookOver (w.session s)
      ((Run.run (tradeStep table) w (bothDecide e₁ e₂ first second)).session s) (w.exchangeItems p)

/-- Every item of `p` still lies where it was taken from, and `s` can take it as it is. -/
def PassesOver (table : ItemTable) (w : World) (p s : SessionId) : Prop :=
  ∀ ex ∈ goods (w.exchangeItems p),
    Kept table (w.session p).inventory (w.session s).inventory ex ∧
      Whole table (w.session s).inventory ex

section

variable {table : ItemTable} {env e₁ e₂ : TradeEnv} {w : World} {a b sid : SessionId}
  {h k : Session} {items : List ExchangeItem}

/-- One side of the executed trade: what it received, without the slots it had emptied. To have
decided changes nothing of what it had. -/
theorem tookOver_iff {own : List ExchangeItem} (ho : Offers table items)
    (htake : CanTake table env sid h items) :
    TookOver h (own.foldl Session.clearSource (items.foldl (Session.receiveItem table)
      (Session.setTradeState .deciding h))).resetTrade items ↔
      ∀ ex ∈ goods items, Whole table h.inventory ex := by
  obtain ⟨⟨landings, hlanded⟩, hgold⟩ :=
    @receiveItems_landed table items (Session.setTradeState .deciding h) ho htake.slots htake.gold
  have hsame := (@clearSources_slot own
    (items.foldl (Session.receiveItem table) (Session.setTradeState .deciding h)) 0).1
  rw [← delivered_iff ho htake.clean hlanded fun i => (clearSources_slot i).2]
  exact ⟨fun htook => htook.bag, fun hbag => ⟨hbag, hsame.trans hgold⟩⟩

theorem goesThrough_iff (hab : a ≠ b) (ha : Bargains table w a b) (hb : Bargains table w b a)
    (hquiet₁ : Undisturbed e₁ a b) (hquiet₂ : Undisturbed e₂ a b)
    (htake : CanTake table e₂ a (w.session a) (w.exchangeItems b))
    (htake' : CanTake table e₂ b (w.session b) (w.exchangeItems a)) :
    GoesThrough table e₁ e₂ w a b ↔ PassesOver table w a b ∧ PassesOver table w b a := by
  obtain ⟨h, hh, huser, hstate, ho⟩ := ha
  obtain ⟨k, hk, hback, hstate', ho'⟩ := hb
  have hsa : w.session a = h := session_eq hh
  have hsb : w.session b = k := session_eq hk
  have hia : w.exchangeItems a = h.exchangeItems := congrArg Session.exchangeItems hsa
  have hib : w.exchangeItems b = k.exchangeItems := congrArg Session.exchangeItems hsb
  rw [hsa, hib] at htake
  rw [hsb, hia] at htake'
  have hfirst : tradeStep table w ⟨e₁, a, .decide⟩ =
      w.modify a (Session.setTradeState .deciding) :=
    decide_wait hquiet₁ hh hk huser hback hstate hstate'
  have hh₁ : w.modify a (Session.setTradeState .deciding) a =
    some (Session.setTradeState .deciding h) := modify_self hh
  have hk₁ : w.modify a (Session.setTradeState .deciding) b = some k := by
    rw [modify_other hab.symm, hk]
  have hverdict : decideVerdict table e₂ (w.modify a (Session.setTradeState .deciding)) b a =
      .execute ↔ (∀ ex ∈ goods h.exchangeItems, Kept table h.inventory k.inventory ex) ∧
        ∀ ex ∈ goods k.exchangeItems, Kept table k.inventory h.inventory ex :=
    @decideVerdict_execute_iff table e₂ _ b a k (Session.setTradeState .deciding h) hquiet₂.symm
      hab.symm hk₁ hh₁ hback huser rfl ho' ho htake'
      ⟨htake.slots, htake.clean, htake.weight, htake.gold⟩
  have hpasses : PassesOver table w a b ∧ PassesOver table w b a ↔
      ((∀ ex ∈ goods h.exchangeItems, Kept table h.inventory k.inventory ex) ∧
        ∀ ex ∈ goods k.exchangeItems, Kept table k.inventory h.inventory ex) ∧
      (∀ ex ∈ goods k.exchangeItems, Whole table h.inventory ex) ∧
        ∀ ex ∈ goods h.exchangeItems, Whole table k.inventory ex := by
    unfold PassesOver
    rw [hsa, hsb, hia, hib]
    simp only [forall_and]
    tauto
  have hrun : Run.run (tradeStep table) w (bothDecide e₁ e₂ a b) =
      tradeStep table (w.modify a (Session.setTradeState .deciding)) ⟨e₂, b, .decide⟩ := by
    unfold bothDecide
    rw [Run.run_cons, Run.run_cons, Run.run_nil, hfirst]
  have hsides : ∀ hexecute : decideVerdict table e₂ (w.modify a (Session.setTradeState .deciding))
      b a = .execute,
      (TookOver h ((Run.run (tradeStep table) w (bothDecide e₁ e₂ a b)).session a) k.exchangeItems ↔
        ∀ ex ∈ goods k.exchangeItems, Whole table h.inventory ex) ∧
      (TookOver k ((Run.run (tradeStep table) w (bothDecide e₁ e₂ a b)).session b) h.exchangeItems ↔
        ∀ ex ∈ goods h.exchangeItems, Whole table k.inventory ex) := by
    intro hexecute
    rw [hrun, decide_execute hquiet₂.symm hab.symm hk₁ hh₁ hback hstate' hexecute]
    rw [session_eq Ledger.rewrite_right, session_eq (Ledger.rewrite_left hab.symm)]
    exact ⟨tookOver_iff ho' htake, tookOver_iff ho htake'⟩
  rw [hpasses, ← hverdict]
  constructor
  · rintro ⟨hexecuted, hboth⟩
    rw [hfirst] at hexecuted
    have hmine := hboth a b (.inl ⟨rfl, rfl⟩)
    have htheirs := hboth b a (.inr ⟨rfl, rfl⟩)
    rw [hsa, hib] at hmine
    rw [hsb, hia] at htheirs
    obtain ⟨hiff, hiff'⟩ := hsides hexecuted
    exact ⟨hexecuted, hiff.mp hmine, hiff'.mp htheirs⟩
  · rintro ⟨hexecuted, hmine, htheirs⟩
    obtain ⟨hiff, hiff'⟩ := hsides hexecuted
    refine ⟨by rw [hfirst]; exact hexecuted, ?_⟩
    rintro s p (⟨rfl, rfl⟩ | ⟨rfl, rfl⟩)
    · rw [hsa, hib]
      exact hiff.mpr hmine
    · rw [hsb, hia]
      exact hiff'.mpr htheirs

end

/-- A feasible trade that both confirm, in either order, goes through exactly when every offer
passes over. -/
theorem trade_goes_through_iff {table : ItemTable} {e₁ e₂ : TradeEnv} {w : World}
    {a b first second : SessionId} (hoffers : OffersMade table a b w)
    (hquiet₁ : Undisturbed e₁ a b) (hquiet₂ : Undisturbed e₂ a b)
    (htake : CanTake table e₂ a (w.session a) (w.exchangeItems b))
    (htake' : CanTake table e₂ b (w.session b) (w.exchangeItems a))
    (horder : first = a ∧ second = b ∨ first = b ∧ second = a) :
    GoesThrough table e₁ e₂ w first second ↔ PassesOver table w a b ∧ PassesOver table w b a := by
  obtain ⟨hab, ha, hb⟩ := hoffers.bargains
  rcases horder with ⟨rfl, rfl⟩ | ⟨rfl, rfl⟩
  · exact goesThrough_iff hab ha hb hquiet₁ hquiet₂ htake htake'
  · rw [and_comm]
    exact goesThrough_iff hab.symm hb ha hquiet₁.symm hquiet₂.symm htake' htake

theorem noLeftovers_of_mem {inv : Inventory} (h : ∀ s ∈ inv, s.itemId = 0 → s.count = 0) :
    NoLeftovers inv := Inventory.forall_slot h fun _ => rfl

theorem undisturbed_quietEnv : Undisturbed quietEnv 1 2 :=
  ⟨by decide, by decide, by decide, by decide⟩

def halfOffers : List TradeStep :=
  [⟨quietEnv, 1, .add ⟨0, 389010000, 5⟩⟩, ⟨quietEnv, 1, .add ⟨255, ITEM_GOLD, 500⟩⟩]

def halfOffered : World := Run.run (tradeStep tradeTable) openedTrade halfOffers

theorem offersMade_halfOffered : OffersMade tradeTable 1 2 halfOffered := by
  have hoffers : Run.Along (tradeStep tradeTable) (TakesOffer tradeTable 1 2) openedTrade
      halfOffers := by
    refine ⟨⟨.inl rfl, _, rfl, rfl, .inr ?_⟩, ⟨.inl rfl, _, rfl, rfl, .inl ?_⟩, trivial⟩
    · decide +kernel
    · decide +kernel
  exact (OffersMade.opened opened_openedTrade).run hoffers

theorem trade_goes_through_iff_potions : GoesThrough tradeTable quietEnv quietEnv halfOffered 2 1 := by
  refine (trade_goes_through_iff offersMade_halfOffered undisturbed_quietEnv undisturbed_quietEnv
    ?_ ?_ (.inr ⟨rfl, rfl⟩)).mpr ⟨?_, ?_⟩
  · refine ⟨by decide +kernel, noLeftovers_of_mem ?_, by decide +kernel, by decide +kernel⟩
    decide +kernel
  · refine ⟨by decide +kernel, noLeftovers_of_mem ?_, by decide +kernel, by decide +kernel⟩
    decide +kernel
  · intro ex hex
    have hgoods : goods (halfOffered.exchangeItems 1) =
      [{ itemId := 389010000, count := 5, srcPos := 14 }] := by decide +kernel
    obtain rfl := List.mem_singleton.mp (hgoods ▸ hex)
    have hnone : stackFor tradeTable (halfOffered.session 2).inventory
      { itemId := 389010000, count := 5, srcPos := 14 } = none := by decide +kernel
    refine ⟨⟨by decide +kernel, fun hsome => ?_⟩, ⟨fun h => ?_, fun _ => by decide, fun i h => ?_⟩⟩
    · rw [hnone] at hsome
      cases hsome
    · exact absurd h (by decide)
    · rw [hnone] at h
      cases h
  · intro ex hex
    have hgoods : goods (halfOffered.exchangeItems 2) = [] := by decide +kernel
    rw [hgoods] at hex
    cases hex

def swordOffer : TradeStep := ⟨quietEnv, 1, .add ⟨0, 120010000, 1⟩⟩

def swordOffered : World :=
  tradeStep tradeTable (Run.run (tradeStep tradeTable) twoPlayers
    [⟨quietEnv, 1, .req 2⟩, ⟨quietEnv, 2, .agree 1⟩]) swordOffer

/-- The slot of the sword was cleared when it was offered, and the last check does not find it. -/
theorem sword_not_found : OffersMade tradeTable 1 2 swordOffered ∧ Undisturbed quietEnv 1 2 ∧
    CanTake tradeTable quietEnv 1 (swordOffered.session 1) (swordOffered.exchangeItems 2) ∧
    CanTake tradeTable quietEnv 2 (swordOffered.session 2) (swordOffered.exchangeItems 1) ∧
    ¬ GoesThrough tradeTable quietEnv quietEnv swordOffered 1 2 := by
  have hopened : TradeOpened (Run.run (tradeStep tradeTable) twoPlayers
      [⟨quietEnv, 1, .req 2⟩, ⟨quietEnv, 2, .agree 1⟩]) 1 2 :=
    ⟨by decide, ⟨_, rfl, rfl, rfl, rfl⟩, ⟨_, rfl, rfl, rfl, rfl⟩⟩
  have htakes : TakesOffer tradeTable 1 2 (Run.run (tradeStep tradeTable) twoPlayers
      [⟨quietEnv, 1, .req 2⟩, ⟨quietEnv, 2, .agree 1⟩]) swordOffer := by
    refine ⟨.inl rfl, _, rfl, rfl, .inr ?_⟩
    decide +kernel
  refine ⟨(OffersMade.opened hopened).offer htakes, undisturbed_quietEnv, ?_, ?_, fun h => ?_⟩
  · refine ⟨by decide +kernel, noLeftovers_of_mem ?_, by decide +kernel, by decide +kernel⟩
    decide +kernel
  · refine ⟨by decide +kernel, noLeftovers_of_mem ?_, by decide +kernel, by decide +kernel⟩
    decide +kernel
  · have hexecuted := h.executed
    revert hexecuted
    decide +kernel

end KoServer
