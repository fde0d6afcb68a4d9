import Mathlib.Data.List.Induction
import KoServer.Proofs.Merchant

/-! Stock of a shop under purchases that take from it and may give back later, in any order.
What is left of a listing depends on the takes still standing alone, not on their history. -/

namespace KoServer

open Run (run)

/-- The units that stand taken from place `i`. -/
def takenFrom (i : ℕ) (takes : List MerchantTake) : ℕ :=
  Tally.total (fun t => if t.itemSlot = i then t.count else 0) takes

def MerchantTake.again (t : MerchantTake) : StockStep := .take ⟨t.itemId, t.count, t.itemSlot, 0⟩

/-- Occupied places are marked as sold out when nothing is left. -/
def Stocked (m : Market) : Prop :=
  ∀ i, (m.listing i).itemId ≠ 0 → ((m.listing i).soldOut = true ↔ (m.listing i).sellCount = 0)

/-- A listing after `k` units were taken from it. -/
def MerchData.remaining (l : MerchData) (k : ℕ) : MerchData :=
  if l.itemId = 0 then l
  else { l with sellCount := l.sellCount - k, soldOut := decide (l.sellCount - k = 0) }

section Remaining

variable {l : MerchData} {k : ℕ}

theorem remaining_occupied (h : l.itemId ≠ 0) : l.remaining k =
    { l with sellCount := l.sellCount - k, soldOut := decide (l.sellCount - k = 0) } := if_neg h

theorem remaining_zero (h : l.itemId ≠ 0 → (l.soldOut = true ↔ l.sellCount = 0)) :
    l.remaining 0 = l := by
  by_cases hid : l.itemId = 0
  · exact if_pos hid
  · have hsold : decide (l.sellCount - 0 = 0) = l.soldOut := by
      rw [Bool.eq_iff_iff, h hid, decide_eq_true_eq, Nat.sub_zero]
    rw [remaining_occupied hid, hsold, Nat.sub_zero]

@[simp] theorem remaining_itemId : (l.remaining k).itemId = l.itemId := by
  unfold MerchData.remaining
  split <;> rfl

@[simp] theorem remaining_price : (l.remaining k).price = l.price := by
  unfold MerchData.remaining
  split <;> rfl

theorem taken_remaining (h : l.itemId ≠ 0) (count : ℕ) :
    (l.remaining k).taken count = l.remaining (k + count) := by
  rw [remaining_occupied h, remaining_occupied h, MerchData.taken]
  dsimp only
  rw [Nat.sub_sub]
  congr 1
  split_ifs with hzero
  · rw [decide_eq_true hzero]
  · rw [decide_eq_false hzero, decide_eq_false (by omega)]

/-- Giving back units that were taken, and that are more than none. -/
theorem restored_remaining (h : l.itemId ≠ 0) (hlt : l.sellCount < 2 ^ 16) {count : ℕ}
    (hcount : 0 < count) (hwithin : k + count ≤ l.sellCount) :
    (l.remaining (k + count)).restored l.itemId count = l.remaining k := by
  have hback : min (l.sellCount - (k + count) + count) 65535 = l.sellCount - k := by omega
  have hleft : decide (l.sellCount - k = 0) = false := decide_eq_false (by omega)
  rw [remaining_occupied h, remaining_occupied h, MerchData.restored]
  dsimp only
  rw [if_neg h, hback, hleft]

end Remaining

section Takes

variable {i : ℕ} {t : MerchantTake} {takes : List MerchantTake}

theorem takenFrom_append : takenFrom i (takes ++ [t]) =
    takenFrom i takes + if t.itemSlot = i then t.count else 0 := by
  simp [takenFrom]

theorem takenFrom_eraseIdx {k : ℕ} (h : takes[k]? = some t) :
    takenFrom i (takes.eraseIdx k) + (if t.itemSlot = i then t.count else 0) =
      takenFrom i takes := by
  obtain ⟨hk, rfl⟩ := List.getElem?_eq_some_iff.mp h
  have hperm := Tally.total_perm (fun t => if t.itemSlot = i then t.count else 0)
    (List.getElem_cons_eraseIdx_perm hk)
  rw [Tally.total_cons, Nat.add_comm] at hperm
  exact hperm

end Takes

structure TakeOf (m : Market) (t : MerchantTake) : Prop where
  inShop : t.itemSlot < MAX_MERCH_ITEMS
  listed : (m.listing t.itemSlot).itemId = t.itemId
  itemId_ne : t.itemId ≠ 0
  priced : (m.listing t.itemSlot).price ≠ 0
  positive : 0 < t.count

/-- The shop `m` with the standing takes away from it. -/
structure Drained (m : Market) (s : StockState) : Prop where
  takes : ∀ t ∈ s.takes, TakeOf m t
  within : ∀ i, takenFrom i s.takes ≤ (m.listing i).sellCount
  listing : ∀ i, s.market.listing i = (m.listing i).remaining (takenFrom i s.takes)
  seller : s.market.seller = m.seller
  buyer : s.market.buyer = m.buyer
  drGmTotalSold : s.market.drGmTotalSold = m.drGmTotalSold

theorem Market.listing_setListing_ne {m : Market} {i j : ℕ} (hij : i ≠ j) {data : MerchData}
    {h : data.sellCount < 2 ^ 16} : (m.setListing i data h).listing j = m.listing j :=
  Tally.getD_set_ne hij data {}

theorem Market.ext_listing {m m' : Market} (hseller : m.seller = m'.seller)
    (hbuyer : m.buyer = m'.buyer) (hsold : m.drGmTotalSold = m'.drGmTotalSold)
    (hlisting : ∀ i, m.listing i = m'.listing i) : m = m' := by
  refine Market.ext hseller (List.ext_getElem ?_ fun i hi hi' => ?_) hsold hbuyer
  · rw [m.items_length, m'.items_length]
  · have := hlisting i
    unfold listing at this
    rwa [List.getD_eq_getElem _ _ hi, List.getD_eq_getElem _ _ hi'] at this

variable {m : Market} {s s' : StockState}

/-- The standing takes say what is left. -/
theorem Drained.unique (hs : Drained m s) (hs' : Drained m s') (h : s.takes = s'.takes) : s = s' := by
  refine StockState.ext (Market.ext_listing ?_ ?_ ?_ fun i => ?_) h
  · rw [hs.seller, hs'.seller]
  · rw [hs.buyer, hs'.buyer]
  · rw [hs.drGmTotalSold, hs'.drGmTotalSold]
  · rw [hs.listing, hs'.listing, h]

theorem stocked_of_items
    (h : ∀ l ∈ m.merchantItems, l.itemId ≠ 0 → (l.soldOut = true ↔ l.sellCount = 0)) : Stocked m := by
  intro i
  rcases Nat.lt_or_ge i m.merchantItems.length with hi | hi
  · rw [Market.listing, List.getD_eq_getElem _ _ hi]
    exact h _ (List.getElem_mem hi)
  · rw [Market.listing, List.getD_eq_default _ _ hi]
    decide

theorem drained_start (hm : Stocked m) : Drained m ⟨m, []⟩ := by
  refine ⟨by simp, fun i => Nat.zero_le _, fun i => ?_, rfl, rfl, rfl⟩
  exact (remaining_zero (hm i)).symm

/-- When a take goes through, and what it makes of the shop. -/
theorem tryMerchantBuy_iff {itemSlot itemId count : ℕ} {p : MerchData × Market} :
    tryMerchantBuy m itemSlot itemId count = some p ↔
      itemSlot < MAX_MERCH_ITEMS ∧ itemId ≠ 0 ∧ (m.listing itemSlot).itemId = itemId ∧
        (m.listing itemSlot).soldOut = false ∧ count ≤ (m.listing itemSlot).sellCount ∧
        (m.listing itemSlot).price ≠ 0 ∧
        (m.listing itemSlot, m.setListing itemSlot ((m.listing itemSlot).taken count)
          (MerchData.taken_lt (m.listing_lt itemSlot) count)) = p := by
  unfold tryMerchantBuy
  dsimp only
  by_cases hslot : MAX_MERCH_ITEMS ≤ itemSlot
  · simp [hslot, not_lt.mpr hslot]
  · rw [if_neg hslot]
    split
    · next hbad =>
      simp only [reduceCtorEq, false_iff]
      rintro ⟨-, hid, hlisted, hsold, hcount, hprice, -⟩
      rcases hbad with h | h | h | h | h
      · exact hid (hlisted.symm.trans h)
      · exact h hlisted
      · exact absurd h (by simp [hsold])
      · exact absurd h (not_lt.mpr hcount)
      · exact hprice h
    · next hgood =>
      simp only [not_or, Nat.not_lt, Bool.not_eq_true, not_not] at hgood
      obtain ⟨hid, hlisted, hsold, hcount, hprice⟩ := hgood
      constructor
      · intro h
        exact ⟨not_le.mp hslot, hlisted ▸ hid, hlisted, hsold, hcount, hprice, Option.some.inj h⟩
      · rintro ⟨-, -, -, -, -, -, rfl⟩
        rfl

theorem stockStep_again (hs : Drained m s) {t : MerchantTake} (ht : TakeOf m t)
    (hwithin : takenFrom t.itemSlot s.takes + t.count ≤ (m.listing t.itemSlot).sellCount) :
    (stockStep s t.again).takes = s.takes ++ [t] := by
  have hpos := ht.positive
  have hid : (m.listing t.itemSlot).itemId ≠ 0 := ht.listed ▸ ht.itemId_ne
  have hlisting := hs.listing t.itemSlot
  rw [remaining_occupied hid] at hlisting
  have hlisted : (s.market.listing t.itemSlot).itemId = t.itemId := by
    rw [hlisting]
    exact ht.listed
  have hunsold : (s.market.listing t.itemSlot).soldOut = false := by
    rw [hlisting]
    exact decide_eq_false (by omega)
  have henough : t.count ≤ (s.market.listing t.itemSlot).sellCount := by
    rw [hlisting]
    dsimp only
    omega
  have hpriced : (s.market.listing t.itemSlot).price ≠ 0 := by
    rw [hlisting]
    exact ht.priced
  have htake := tryMerchantBuy_iff.mpr
    ⟨ht.inShop, ht.itemId_ne, hlisted, hunsold, henough, hpriced, rfl⟩
  have hchecked : ¬ (MAX_MERCH_ITEMS ≤ t.itemSlot ∨ t.count = 0) :=
    not_or.mpr ⟨not_le.mpr ht.inShop, hpos.ne'⟩
  rw [MerchantTake.again, stockStep, if_neg hchecked, htake]

theorem drained_take (hs : Drained m s) (req : BuyRequest) :
    Drained m (stockStep s (.take req)) := by
  rw [stockStep]
  split_ifs with hbad
  · exact hs
  split
  · exact hs
  next merch market htake =>
  obtain ⟨hslot, hreq, hlisted, -, hcount, hprice, heq⟩ := tryMerchantBuy_iff.mp htake
  obtain ⟨-, rfl⟩ := Prod.mk.inj heq
  obtain ⟨-, hpos⟩ := not_or.mp hbad
  rw [hs.listing] at hlisted hcount hprice
  rw [remaining_itemId] at hlisted
  rw [remaining_price] at hprice
  have hid : (m.listing req.itemSlot).itemId ≠ 0 := hlisted ▸ hreq
  rw [remaining_occupied hid] at hcount
  have hwithin := hs.within req.itemSlot
  refine ⟨fun t ht => ?_, fun i => ?_, fun i => ?_, hs.seller, hs.buyer, hs.drGmTotalSold⟩
  · rcases List.mem_append.mp ht with ht | ht
    · exact hs.takes t ht
    · obtain rfl := List.mem_singleton.mp ht
      exact ⟨hslot, hlisted, hreq, hprice, Nat.pos_of_ne_zero hpos⟩
  · rw [takenFrom_append]
    dsimp only at hcount ⊢
    split_ifs with hi
    · subst hi
      omega
    · exact hs.within i
  · rw [takenFrom_append]
    dsimp only
    rcases eq_or_ne req.itemSlot i with rfl | hne
    · rw [Market.listing_setListing hslot, hs.listing, taken_remaining hid, if_pos rfl]
    · rw [Market.listing_setListing_ne hne, hs.listing, if_neg hne, Nat.add_zero]

theorem drained_restore (hs : Drained m s) (k : ℕ) : Drained m (stockStep s (.restore k)) := by
  rw [stockStep]
  split
  · exact hs
  next t ht =>
  have hof := hs.takes t (List.mem_of_getElem? ht)
  have hslot := hof.inShop
  have hid : (m.listing t.itemSlot).itemId ≠ 0 := by
    rw [hof.listed]
    exact hof.itemId_ne
  have hlisted : (s.market.listing t.itemSlot).itemId = t.itemId := by
    rw [hs.listing, remaining_itemId, hof.listed]
  have hsum := takenFrom_eraseIdx (i := t.itemSlot) ht
  rw [if_pos rfl] at hsum
  rw [restoreMerchantBuy_eq hslot rfl hlisted]
  refine ⟨fun u hu => hs.takes u (List.mem_of_mem_eraseIdx hu), fun i => ?_, fun i => ?_,
    hs.seller, hs.buyer, hs.drGmTotalSold⟩
  · have := hs.within i
    have := takenFrom_eraseIdx (i := i) ht
    dsimp only
    omega
  · dsimp only
    rcases eq_or_ne t.itemSlot i with rfl | hne
    · have hwithin := hs.within t.itemSlot
      rw [← hsum] at hwithin
      rw [Market.listing_setListing hslot, hs.listing, ← hsum, ← hof.listed]
      exact restored_remaining hid (m.listing_lt _) hof.positive hwithin
    · have hsame := takenFrom_eraseIdx (i := i) ht
      rw [if_neg hne, Nat.add_zero] at hsame
      rw [Market.listing_setListing_ne hne, hs.listing, hsame]

theorem drained_step (hs : Drained m s) (i : StockStep) : Drained m (stockStep s i) := by
  cases i with
  | take req => exact drained_take hs req
  | restore k => exact drained_restore hs k

theorem drained_run (hm : Stocked m) (steps : List StockStep) :
    Drained m (run stockStep ⟨m, []⟩ steps) :=
  Run.invariant (Drained m) (fun _ i hs _ => drained_step hs i) (Run.along_true _ _)
    (drained_start hm)

/-- A purchase that fails after its checks is a take that is given back. -/
theorem merchantItemBuy_failed {ctx : BuyContext} {req : BuyRequest}
    (hchecked : buyRefused ctx m req = false) (hfailed : (merchantItemBuy ctx m req).1 = false) :
    (merchantItemBuy ctx m req).2 = (run stockStep ⟨m, []⟩ [.take req, .restore 0]).market := by
  obtain ⟨hslot, hpos, -⟩ := not_buyRefused hchecked
  rw [Run.run_cons, stockStep, if_neg (not_or.mpr ⟨not_le.mpr hslot, hpos.ne'⟩)]
  unfold merchantItemBuy at hfailed ⊢
  rw [if_neg (by simp [hchecked])] at hfailed ⊢
  cases htake : tryMerchantBuy m req.itemSlot req.itemId req.itemCount with
  | none => rfl
  | some p =>
    obtain ⟨merch, taken⟩ := p
    rw [htake] at hfailed
    dsimp only at hfailed ⊢
    split at hfailed
    · rfl
    · cases hfailed

theorem run_again (hm : Stocked m) {takes : List MerchantTake} (htakes : ∀ t ∈ takes, TakeOf m t)
    (hwithin : ∀ i, takenFrom i takes ≤ (m.listing i).sellCount) :
    (run stockStep ⟨m, []⟩ (takes.map MerchantTake.again)).takes = takes := by
  induction takes using List.reverseRecOn with
  | nil => rfl
  | append_singleton takes t ih =>
    have hfirst (i : ℕ) : takenFrom i takes ≤ (m.listing i).sellCount := by
      have := hwithin i
      rw [takenFrom_append] at this
      omega
    have hbefore := ih (fun u hu => htakes u (List.mem_append_left _ hu)) hfirst
    have hlast := hwithin t.itemSlot
    rw [takenFrom_append, if_pos rfl] at hlast
    rw [List.map_append, List.map_singleton, Run.run_append, Run.run_cons, Run.run_nil,
      stockStep_again (drained_run hm _) (htakes t (by simp)) (by rwa [hbefore]), hbefore]

theorem stocked_of_drained (hs : Drained m s) : Stocked s.market := by
  intro i hid
  rw [hs.listing, remaining_itemId] at hid
  rw [hs.listing, remaining_occupied hid]
  exact decide_eq_true_iff

/-- What stands taken never exceeds what was listed; a take that is given back leaves the shop
as the other standing takes alone would have left it; and places are sold out when empty. -/
theorem merchant_never_oversold (hm : Stocked m) (steps : List StockStep) :
    (∀ i, takenFrom i (run stockStep ⟨m, []⟩ steps).takes ≤ (m.listing i).sellCount) ∧
      (∀ k < (run stockStep ⟨m, []⟩ steps).takes.length,
        run stockStep ⟨m, []⟩ (steps ++ [.restore k]) = run stockStep ⟨m, []⟩
          (((run stockStep ⟨m, []⟩ steps).takes.eraseIdx k).map MerchantTake.again)) ∧
      Stocked (run stockStep ⟨m, []⟩ steps).market := by
  have hrun := drained_run hm steps
  refine ⟨hrun.within, fun k hk => ?_, stocked_of_drained hrun⟩
  have hback := drained_run hm (steps ++ [.restore k])
  refine hback.unique (drained_run hm _) ?_
  have htakes : (run stockStep ⟨m, []⟩ (steps ++ [.restore k])).takes =
      (run stockStep ⟨m, []⟩ steps).takes.eraseIdx k := by
    rw [Run.run_append, Run.run_cons, Run.run_nil, stockStep, List.getElem?_eq_getElem hk]
  rw [htakes]
  refine (run_again hm ?_ ?_).symm
  · rw [← htakes]
    exact hback.takes
  · rw [← htakes]
    exact hback.within

def potionsForSale : Market := merchantItemAdd preparing potionStall (listPotions 100 (by decide))

/-- All hundred are taken, a third customer finds none, and the first of the takes fails. -/
theorem never_oversold_potions :
    (run stockStep ⟨potionsForSale, []⟩
      ([.take (buyPotions 40), .take (buyPotions 60), .take (buyPotions 1)] ++ [.restore 0])) =
      run stockStep ⟨potionsForSale, []⟩ [.take (buyPotions 60)] := by
  have hm : Stocked potionsForSale := stocked_of_items (by decide +kernel)
  have h := (merchant_never_oversold hm
    [.take (buyPotions 40), .take (buyPotions 60), .take (buyPotions 1)]).2.1 0 (by decide +kernel)
  rw [h]
  rfl

end KoServer
