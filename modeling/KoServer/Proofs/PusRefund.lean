import KoServer.Lib.Run
import KoServer.Proofs.KnightCash
import KoServer.Proofs.Letter
import KoServer.Spec.PusRefund

/-! Refunds over the life of an account: the list of the session and the rows of the table agree
with what was bought, and a purchase that was credited is in the list no more. -/

namespace KoServer

/-- Within the hour exactly what was bought is taken from the bag, and its price is credited. -/
structure Purchase.Refunded (p : Purchase) (s s' : RefundWorld) (now : ℕ) : Prop where
  inTime : now ≤ p.buyingTime + REFUND_WINDOW_SECS
  taken : ∃ k slot, SLOT_MAX ≤ k ∧ k < SLOT_MAX + HAVE_MAX ∧ s.inventory[k]? = some slot ∧
    slot.itemId = p.itemId ∧ slot.count = p.itemCount ∧
    s'.inventory = s.inventory.modify k RefundWorld.clearSlot
  kc : s'.knightCash = s.knightCash + if p.buyType = 0 then p.itemPrice else 0
  tl : s'.tlBalance = s.tlBalance + if p.buyType = 1 then p.itemPrice else 0

namespace RefundHistory

structure Orderly (h : RefundHistory) (e : RefundEvent) : Prop where
  once : ∀ serial, (h.step e).refunds serial ≤ 1
  refunded : ∀ serial now failure, e = .refund serial now failure →
    (h.world.handleItemReturn serial now failure).2.credited = true →
      ∃ p, h.purchases serial = some p ∧ p.Refunded h.world (h.step e).world now
  kept : ∀ serial now failure, e = .refund serial now failure →
    (h.world.handleItemReturn serial now failure).2.credited = false →
      (h.step e).world.inventory = h.world.inventory ∧
        (h.step e).world.knightCash = h.world.knightCash ∧
        (h.step e).world.tlBalance = h.world.tlBalance

end RefundHistory

/-- The checks of `handle_item_return` all pass. -/
structure RefundWorld.Accepts (s : RefundWorld) (serial now : ℕ) (entry : PusRefundEntry)
    (k : ℕ) : Prop where
  cooldown : s.pusRefundLastTime + REFUND_COOLDOWN_SECS ≤ now
  listed : s.pusRefundMap serial = some entry
  inTime : now ≤ entry.expiredTime
  found : foundSlot s.inventory entry.itemId = some k
  count : (s.inventory.slot k).count = entry.itemCount

/-- The slot is one of the bag, the stack change reaches the client, and the price is positive as
an `i32` and fits on top of the balance. -/
structure RefundWorld.RequestCondition (s : RefundWorld) (entry : PusRefundEntry) (k : ℕ)
    (failure : Option SendFailure) : Prop where
  sent : failure ≠ some .stackChange
  bag : SLOT_MAX ≤ k ∧ k < SLOT_MAX + HAVE_MAX
  price : entry.itemPrice < 2 ^ 31
  kc : entry.buyType = 0 → s.knightCash + entry.itemPrice < 2 ^ 32
  tl : entry.buyType = 1 → s.tlBalance + entry.itemPrice < 2 ^ 32

namespace RefundHistory

/-- What is asked of a request that passes the checks. -/
def Request (h : RefundHistory) : RefundEvent → Prop
  | .refund serial now failure => ∀ entry k, h.world.Accepts serial now entry k →
    h.world.RequestCondition entry k failure
  | _ => True

/-- A request that credits a price also forgets the entry, and no row of a purchase that was
credited is loaded within its hour. -/
def NoRevival (h : RefundHistory) : RefundEvent → Prop
  | .refund serial now failure => ∀ entry k, h.world.Accepts serial now entry k →
    failure = some .balance → entry.itemPrice = 0
  | .gameStart now dbOk => dbOk = true → ∀ row ∈ h.world.rows,
    row.entry.expiredTime < now ∨ h.refunds (asU64 row.mserial) = 0
  | _ => True

end RefundHistory

theorem bmod16 {n : ℕ} (h : n < 2 ^ 16) : (Int.bmod n (2 ^ 16) % 2 ^ 16).toNat = n := by
  rw [Int.bmod_def]
  split_ifs <;> omega

theorem Purchase.entry_row (serial : ℕ) (p : Purchase) : (p.row serial).entry = p.entry := by
  have htime : asU64 (asI32 p.buyingTime) = p.buyingTime := by
    have := p.buyingTime_lt
    rw [asI32_of_lt this]
    unfold asU64
    omega
  have htype := p.buyType_le
  have htype' : ((p.buyType : ℤ) % 2 ^ 8).toNat = p.buyType := by omega
  simp only [PusRefundRow.entry, Purchase.row, Purchase.entry, asU32_asI32 p.itemId_lt,
    asU32_asI32 p.itemPrice_lt, bmod16 p.itemCount_lt, bmod16 p.itemDuration_lt, htime, htype']

theorem Purchase.serial_row {serial : ℕ} (hserial : serial < 2 ^ 64) (p : Purchase) :
    asU64 (p.row serial).mserial = serial := by
  unfold Purchase.row
  dsimp only
  rw [asU64_asI64 hserial]

namespace RefundWorld

theorem loadMap_spec {rows : List PusRefundRow} {now serial : ℕ} {entry : PusRefundEntry}
    (h : loadMap rows now serial = some entry) :
    ∃ row ∈ rows, now ≤ row.entry.expiredTime ∧ asU64 row.mserial = serial ∧
      row.entry = entry := by
  have hfold : ∀ (rows : List PusRefundRow) (map : ℕ → Option PusRefundEntry),
      rows.foldl (fun map row =>
        if row.entry.expiredTime < now then map
        else Function.update map (asU64 row.mserial) (some row.entry)) map serial = some entry →
      map serial = some entry ∨ ∃ row ∈ rows, now ≤ row.entry.expiredTime ∧
        asU64 row.mserial = serial ∧ row.entry = entry := by
    intro rows
    induction rows with
    | nil => exact fun map hmap => Or.inl hmap
    | cons row rows ih =>
      intro map hmap
      rw [List.foldl_cons] at hmap
      rcases ih _ hmap with hnew | ⟨row', hmem, hrow'⟩
      · split_ifs at hnew with hexpired
        · exact Or.inl hnew
        · by_cases hserial : serial = asU64 row.mserial
          · rw [hserial, Function.update_self] at hnew
            exact Or.inr ⟨row, List.mem_cons_self, not_lt.mp hexpired, hserial.symm,
              Option.some.inj hnew⟩
          · rw [Function.update_of_ne hserial] at hnew
            exact Or.inl hnew
      · exact Or.inr ⟨row', List.mem_cons_of_mem _ hmem, hrow'⟩
  exact (hfold rows _ h).resolve_left nofun

section Request

variable {s : RefundWorld} {serial now k : ℕ} {failure : Option SendFailure}
  {entry : PusRefundEntry}

theorem handleItemReturn_of_accepts (ha : s.Accepts serial now entry k) :
    s.handleItemReturn serial now failure =
      ({ s with pusRefundLastTime := now }).returnItem serial entry k failure := by
  unfold handleItemReturn
  rw [if_neg (not_lt.mpr ha.cooldown)]
  simp only [ha.listed, ha.found, ha.count, if_neg (not_lt.mpr ha.inTime), ne_eq,
    not_true_eq_false, if_false]

theorem handleItemReturn_cases (s : RefundWorld) (serial now : ℕ) (failure : Option SendFailure) :
    (∃ entry k, s.Accepts serial now entry k) ∨
      ∃ time code, s.handleItemReturn serial now failure =
        ({ s with pusRefundLastTime := time }, .error code) := by
  unfold handleItemReturn
  by_cases hcooldown : now < s.pusRefundLastTime + REFUND_COOLDOWN_SECS
  · exact Or.inr ⟨s.pusRefundLastTime, .procesTime, if_pos hcooldown⟩
  rw [if_neg hcooldown]
  dsimp only
  cases hentry : s.pusRefundMap serial with
  | none => exact Or.inr ⟨now, .itemNotFound, rfl⟩
  | some entry =>
  dsimp only
  cases hslot : foundSlot s.inventory entry.itemId with
  | none =>
    split_ifs
    · exact Or.inr ⟨now, .timeExpired, rfl⟩
    · exact Or.inr ⟨now, .notInventory, rfl⟩
  | some k =>
    dsimp only
    split_ifs with hexpired hcount
    · exact Or.inr ⟨now, .timeExpired, rfl⟩
    · exact Or.inr ⟨now, .itemUsed, rfl⟩
    · exact Or.inl ⟨entry, k, not_lt.mp hcooldown, hentry, not_lt.mp hexpired, hslot,
        not_not.mp hcount⟩

theorem giveBalance_eq (hkc : s.knightCash < 2 ^ 32) (htl : s.tlBalance < 2 ^ 32)
    (amounts : ℤ × ℤ) :
    (s.giveBalance amounts).knightCash = clampU32 (s.knightCash + amounts.1) ∧
      (s.giveBalance amounts).tlBalance = clampU32 (s.tlBalance + amounts.2) := by
  unfold giveBalance
  split_ifs with hzero
  · rw [hzero.1, hzero.2]
    unfold clampU32
    omega
  · exact ⟨rfl, rfl⟩

theorem giveBalance_keeps (s : RefundWorld) (amounts : ℤ × ℤ) :
    (s.giveBalance amounts).inventory = s.inventory ∧
      (s.giveBalance amounts).pusRefundMap = s.pusRefundMap ∧
      (s.giveBalance amounts).rows = s.rows := by
  unfold giveBalance
  split_ifs <;> exact ⟨rfl, rfl, rfl⟩

/-- What a credited request leaves behind. -/
structure Credits (s : RefundWorld) (serial : ℕ) (entry : PusRefundEntry) (k : ℕ)
    (failure : Option SendFailure) (s' : RefundWorld) : Prop where
  inventory : s'.inventory = s.inventory.modify k clearSlot
  kc : s'.knightCash = clampU32 (s.knightCash + (refundAmounts entry).1)
  tl : s'.tlBalance = clampU32 (s.tlBalance + (refundAmounts entry).2)
  rows : s'.rows = s.rows
  others : ∀ other, other ≠ serial → s'.pusRefundMap other = s.pusRefundMap other
  forgotten : s'.pusRefundMap serial = none ∨
    failure = some .balance ∧ ¬((refundAmounts entry).1 = 0 ∧ (refundAmounts entry).2 = 0)

theorem returnItem_credits (hkc : s.knightCash < 2 ^ 32) (htl : s.tlBalance < 2 ^ 32)
    (hsent : failure ≠ some .stackChange) :
    (s.returnItem serial entry k failure).2.credited = true ∧
      s.Credits serial entry k failure (s.returnItem serial entry k failure).1 := by
  set cleared : RefundWorld := { s with inventory := s.inventory.modify k clearSlot } with hcleared
  obtain ⟨hgiven, hgiven'⟩ := giveBalance_eq (s := cleared) hkc htl (refundAmounts entry)
  obtain ⟨hinv, hmap, hrows⟩ := giveBalance_keeps cleared (refundAmounts entry)
  unfold returnItem
  rw [if_neg hsent]
  dsimp only
  split_ifs with hbalance hsuccess
  · refine ⟨rfl, hinv, hgiven, hgiven', hrows, fun other _ => ?_, Or.inr hbalance⟩
    rw [hmap]
  · refine ⟨rfl, hinv, hgiven, hgiven', hrows, fun other hother => ?_, Or.inl ?_⟩
    · exact (Function.update_of_ne hother _ _).trans (by rw [hmap])
    · exact Function.update_self _ _ _
  · refine ⟨rfl, hinv, hgiven, hgiven', hrows, fun other hother => ?_, Or.inl ?_⟩
    · exact (Function.update_of_ne hother _ _).trans (by rw [hmap])
    · exact Function.update_self _ _ _

theorem returnItem_unsent (s : RefundWorld) (serial : ℕ) (entry : PusRefundEntry) (k : ℕ) :
    s.returnItem serial entry k (some .stackChange) =
      ({ s with inventory := s.inventory.modify k clearSlot }, .aborted false) := by
  unfold returnItem
  exact if_pos rfl

theorem foundSlot_spec {inv : Inventory} {itemId : ℕ} (h : foundSlot inv itemId = some k) :
    ∃ slot, inv[k]? = some slot ∧ slot.itemId = itemId ∧ 0 < slot.count ∧ inv.slot k = slot := by
  obtain ⟨hk, hslot, -⟩ := List.findIdx?_eq_some_iff_getElem.mp h
  simp only [Bool.and_eq_true, decide_eq_true_eq] at hslot
  exact ⟨inv[k], List.getElem?_eq_getElem hk, hslot.1, hslot.2, List.getD_eq_getElem _ _ hk⟩

theorem modify_clearSlot_ne {inv : Inventory} {slot : UserItemSlot} (hk : inv[k]? = some slot)
    (hcount : 0 < slot.count) : inv.modify k clearSlot ≠ inv := by
  intro heq
  have hat : (inv.modify k clearSlot)[k]? = some (clearSlot slot) := by
    rw [List.getElem?_modify_eq, hk]
    rfl
  rw [heq, hk] at hat
  have hzero : slot.count = 0 := congrArg UserItemSlot.count (Option.some.inj hat)
  omega

theorem clampU32_cases (n : ℤ) : n ≤ 0 ∧ clampU32 n = 0 ∨
    0 ≤ n ∧ n < 2 ^ 32 ∧ (clampU32 n : ℤ) = n ∨ 2 ^ 32 ≤ n ∧ clampU32 n = 2 ^ 32 - 1 := by
  unfold clampU32
  omega

theorem credit_iff {kc tl : ℕ} (hprice : entry.itemPrice < 2 ^ 32) (htype : entry.buyType ≤ 1)
    (hkc : kc < 2 ^ 32) (htl : tl < 2 ^ 32) :
    (clampU32 (kc + (refundAmounts entry).1) =
        kc + (if entry.buyType = 0 then entry.itemPrice else 0) ∧
      clampU32 (tl + (refundAmounts entry).2) =
        tl + if entry.buyType = 1 then entry.itemPrice else 0) ↔
    entry.itemPrice < 2 ^ 31 ∧ (entry.buyType = 0 → kc + entry.itemPrice < 2 ^ 32) ∧
      (entry.buyType = 1 → tl + entry.itemPrice < 2 ^ 32) := by
  have hsigned : asI32 entry.itemPrice = entry.itemPrice ∧ entry.itemPrice < 2 ^ 31 ∨
      asI32 entry.itemPrice = entry.itemPrice - 2 ^ 32 ∧ 2 ^ 31 ≤ entry.itemPrice := by
    unfold asI32
    rw [Int.bmod_def]
    split_ifs <;> omega
  unfold refundAmounts
  rcases Nat.le_one_iff_eq_zero_or_eq_one.mp htype with h0 | h1
  · simp only [h0, if_true, if_false, Nat.zero_ne_one, true_imp_iff, false_imp_iff, and_true]
    have hkc' := clampU32_cases (kc + asI32 entry.itemPrice)
    have htl' := clampU32_cases (tl + 0)
    omega
  · simp only [h1, if_true, if_false, Nat.one_ne_zero, true_imp_iff, false_imp_iff, true_and]
    have hkc' := clampU32_cases (kc + 0)
    have htl' := clampU32_cases (tl + asI32 entry.itemPrice)
    omega

end Request

end RefundWorld

namespace RefundHistory

structure Sound (h : RefundHistory) : Prop where
  knightCash_lt : h.world.knightCash < 2 ^ 32
  tlBalance_lt : h.world.tlBalance < 2 ^ 32
  listed : ∀ serial entry, h.world.pusRefundMap serial = some entry →
    ∃ p, h.purchases serial = some p ∧ entry = p.entry ∧ h.refunds serial = 0
  stored : ∀ row ∈ h.world.rows, ∃ serial p, serial < 2 ^ 64 ∧ h.purchases serial = some p ∧
    row = p.row serial
  once : ∀ serial, h.refunds serial ≤ 1
  bought : ∀ serial, h.purchases serial = none → h.refunds serial = 0

variable {h : RefundHistory}

theorem Start.sound (hstart : h.Start) : h.Sound where
  knightCash_lt := hstart.knightCash_lt
  tlBalance_lt := hstart.tlBalance_lt
  listed serial entry hentry := by rw [hstart.pusRefundMap] at hentry; cases hentry
  stored row hrow := by rw [hstart.rows] at hrow; cases hrow
  once serial := by rw [hstart.refunds]; omega
  bought serial _ := hstart.refunds serial

theorem Sound.orderly_of_ne {e : RefundEvent} (hs : (h.step e).Sound)
    (he : ∀ serial now failure, e ≠ .refund serial now failure) : h.Orderly e where
  once := hs.once
  refunded serial now failure heq := absurd heq (he serial now failure)
  kept serial now failure heq := absurd heq (he serial now failure)

theorem Sound.buy (hs : h.Sound) (serial : Fin (2 ^ 64)) (p : Purchase) :
    (h.step (.buy serial p)).Sound := by
  unfold step
  dsimp only
  split_ifs with hsome
  · exact hs
  rw [Bool.not_eq_true, Option.isSome_eq_false_iff, Option.isNone_iff_eq_none] at hsome
  refine ⟨hs.knightCash_lt, hs.tlBalance_lt, fun other entry hentry => ?_, fun row hrow => ?_, hs.once,
    fun other hother => ?_⟩
  · by_cases hother : other = serial
    · subst hother
      simp only [RefundWorld.registerPurchase, Function.update_self] at hentry ⊢
      exact ⟨p, rfl, (Option.some.inj hentry).symm, hs.bought _ hsome⟩
    · simp only [RefundWorld.registerPurchase, Function.update_of_ne hother] at hentry ⊢
      exact hs.listed other entry hentry
  · rcases List.mem_append.mp hrow with hrow | hrow
    · obtain ⟨other, q, hlt, hq, rfl⟩ := hs.stored row hrow
      have hother : other ≠ serial := by
        rintro rfl
        rw [hsome] at hq
        cases hq
      exact ⟨other, q, hlt, (Function.update_of_ne hother _ _).trans hq, rfl⟩
    · rw [List.mem_singleton] at hrow
      exact ⟨serial, p, serial.isLt, Function.update_self _ _ _, hrow⟩
  · dsimp only at hother
    by_cases heq : other = serial
    · rw [heq, Function.update_self] at hother
      cases hother
    · rw [Function.update_of_ne heq] at hother
      exact hs.bought other hother

theorem Sound.delete (hs : h.Sound) (i : ℕ) (dbOk : Bool) : (h.step (.delete i dbOk)).Sound := by
  simp only [step]
  cases h.world.deletions[i]? with
  | none => exact hs
  | some serial =>
    cases dbOk with
    | false => exact ⟨hs.knightCash_lt, hs.tlBalance_lt, hs.listed, hs.stored, hs.once, hs.bought⟩
    | true =>
      refine ⟨hs.knightCash_lt, hs.tlBalance_lt, hs.listed, fun row hrow => ?_, hs.once, hs.bought⟩
      exact hs.stored row (List.mem_of_mem_filter hrow)

/-- A login brings back no purchase that was credited. -/
theorem Sound.gameStart (hs : h.Sound) {now : ℕ} {dbOk : Bool}
    (hrevive : h.NoRevival (.gameStart now dbOk)) : (h.step (.gameStart now dbOk)).Sound := by
  have hstep : h.step (.gameStart now dbOk) =
    { h with world := h.world.loadRefundList now dbOk } := rfl
  rw [hstep]
  unfold RefundWorld.loadRefundList
  split_ifs with hskip
  · exact hs
  simp only [Bool.or_eq_true, Bool.not_eq_true', not_or, Bool.not_eq_false] at hskip
  refine ⟨hs.knightCash_lt, hs.tlBalance_lt, fun serial entry hentry => ?_, hs.stored, hs.once,
    hs.bought⟩
  obtain ⟨row, hrow, hfresh, rfl, rfl⟩ := RefundWorld.loadMap_spec hentry
  obtain ⟨serial, p, hlt, hp, rfl⟩ := hs.stored row hrow
  have hcredited := (hrevive hskip.1 _ hrow).resolve_left (not_lt.mpr hfresh)
  rw [p.serial_row hlt] at hcredited ⊢
  exact ⟨p, hp, p.entry_row serial, hcredited⟩

section Refund

variable {serial now k : ℕ} {failure : Option SendFailure} {entry : PusRefundEntry}

theorem step_refund (h : RefundHistory) (serial now : ℕ) (failure : Option SendFailure) :
    h.step (.refund serial now failure) =
      { h with
        world := (h.world.handleItemReturn serial now failure).1
        refunds :=
          if (h.world.handleItemReturn serial now failure).2.credited then
            Function.update h.refunds serial (h.refunds serial + 1)
          else h.refunds } := rfl

theorem Sound.refused (hs : h.Sound) {time : ℕ} {code : RefundError}
    (heq : h.world.handleItemReturn serial now failure =
      ({ h.world with pusRefundLastTime := time }, .error code)) :
    h.Orderly (.refund serial now failure) ∧ (h.step (.refund serial now failure)).Sound := by
  have hcredited : (h.world.handleItemReturn serial now failure).2.credited = false := by rw [heq]; rfl
  have hstep : h.step (.refund serial now failure) =
      { h with world := { h.world with pusRefundLastTime := time } } := by
    rw [step_refund, hcredited, if_neg Bool.false_ne_true, heq]
  have hsound : (h.step (.refund serial now failure)).Sound := by
    rw [hstep]
    exact ⟨hs.knightCash_lt, hs.tlBalance_lt, hs.listed, hs.stored, hs.once, hs.bought⟩
  refine ⟨⟨hsound.once, ?_, ?_⟩, hsound⟩
  · rintro _ _ _ ⟨rfl, rfl, rfl⟩ hyes
    rw [hcredited] at hyes
    cases hyes
  · rintro _ _ _ ⟨rfl, rfl, rfl⟩ -
    rw [hstep]
    exact ⟨rfl, rfl, rfl⟩

/-- The stack change is not sent: the item is gone and nothing is credited. -/
theorem not_orderly_unsent (ha : h.world.Accepts serial now entry k) :
    ¬h.Orderly (.refund serial now (some .stackChange)) := by
  intro horderly
  have haccepted : h.world.handleItemReturn serial now (some .stackChange) = _ :=
    RefundWorld.handleItemReturn_of_accepts ha
  have heq := haccepted.trans (RefundWorld.returnItem_unsent _ serial entry k)
  obtain ⟨hinv, -⟩ := horderly.kept serial now _ rfl (by rw [heq]; rfl)
  obtain ⟨slot, hslot, -, hcount, -⟩ := RefundWorld.foundSlot_spec ha.found
  rw [step_refund, heq] at hinv
  exact RefundWorld.modify_clearSlot_ne hslot hcount hinv

theorem credits_of_accepts (hs : h.Sound) (ha : h.world.Accepts serial now entry k)
    (hsent : failure ≠ some .stackChange) :
    (h.world.handleItemReturn serial now failure).2.credited = true ∧
      h.world.Credits serial entry k failure (h.world.handleItemReturn serial now failure).1 := by
  rw [RefundWorld.handleItemReturn_of_accepts ha]
  have hcredits : (({ h.world with pusRefundLastTime := now } : RefundWorld).returnItem serial entry
      k failure).2.credited = true ∧ _ :=
    RefundWorld.returnItem_credits hs.knightCash_lt hs.tlBalance_lt hsent
  obtain ⟨hcredited, hinv, hkc, htl, hrows, hothers, hforgotten⟩ := hcredits
  exact ⟨hcredited, hinv, hkc, htl, hrows, hothers, hforgotten⟩

theorem Sound.credited (hs : h.Sound) (ha : h.world.Accepts serial now entry k)
    (hsent : failure ≠ some .stackChange)
    (hrevive : h.NoRevival (.refund serial now failure)) :
    (h.step (.refund serial now failure)).Sound := by
  obtain ⟨hcredited, hc⟩ := credits_of_accepts hs ha hsent
  obtain ⟨p, hp, hentry, hzero⟩ := hs.listed serial entry ha.listed
  rw [step_refund, if_pos hcredited]
  have hforgotten : (h.world.handleItemReturn serial now failure).1.pusRefundMap serial = none := by
    refine hc.forgotten.resolve_right fun ⟨hfailure, hamounts⟩ => hamounts ?_
    have hprice := hrevive entry k ha hfailure
    unfold RefundWorld.refundAmounts
    rw [hprice]
    split_ifs <;> exact ⟨rfl, rfl⟩
  refine ⟨?_, ?_, fun other e he => ?_, fun row hrow => ?_, fun other => ?_, fun other hother => ?_⟩
  · rw [hc.kc]
    exact clampU32_lt _
  · rw [hc.tl]
    exact clampU32_lt _
  · by_cases hother : other = serial
    · rw [hother, hforgotten] at he
      cases he
    · rw [hc.others other hother] at he
      dsimp only
      rw [Function.update_of_ne hother]
      exact hs.listed other e he
  · rw [hc.rows] at hrow
    exact hs.stored row hrow
  · dsimp only
    by_cases hother : other = serial
    · rw [hother, Function.update_self, hzero]
    · rw [Function.update_of_ne hother]
      exact hs.once other
  · have hne : other ≠ serial := by
      rintro rfl
      dsimp only at hother
      rw [hp] at hother
      cases hother
    dsimp only
    rw [Function.update_of_ne hne]
    exact hs.bought other hother

/-- A credited request takes and credits as asked exactly where its condition holds. -/
theorem Sound.refunded_iff (hs : h.Sound) (ha : h.world.Accepts serial now entry k)
    (hsent : failure ≠ some .stackChange) {p : Purchase} (hp : h.purchases serial = some p) :
    p.Refunded h.world (h.step (.refund serial now failure)).world now ↔
      h.world.RequestCondition entry k failure := by
  obtain ⟨-, hc⟩ := credits_of_accepts hs ha hsent
  obtain ⟨q, hq, hentry, -⟩ := hs.listed serial entry ha.listed
  rw [hp] at hq
  obtain rfl := Option.some.inj hq
  obtain ⟨slot, hslot, hid, hcount, hslot'⟩ := RefundWorld.foundSlot_spec ha.found
  have hpriceLt : entry.itemPrice < 2 ^ 32 := by
    rw [hentry]
    exact p.itemPrice_lt
  have htypeLe : entry.buyType ≤ 1 := by
    rw [hentry]
    exact p.buyType_le
  have hcredit := RefundWorld.credit_iff hpriceLt htypeLe hs.knightCash_lt hs.tlBalance_lt
  have hprice : entry.itemPrice = p.itemPrice := by rw [hentry]; rfl
  have htype : entry.buyType = p.buyType := by rw [hentry]; rfl
  have hworld : (h.step (.refund serial now failure)).world =
      (h.world.handleItemReturn serial now failure).1 := rfl
  constructor
  · rintro ⟨-, ⟨k', slot', hlow, hhigh, hslot'', -, -, hinv⟩, hkc, htl⟩
    rw [hworld, hc.inventory] at hinv
    rw [hworld, hc.kc, ← hprice, ← htype] at hkc
    rw [hworld, hc.tl, ← hprice, ← htype] at htl
    obtain ⟨hlt, hkc', htl'⟩ := hcredit.mp ⟨hkc, htl⟩
    -- the slot that is cleared can be told by its count
    have hk : k' = k := by
      by_contra hne
      have hat := congrArg (fun inv : Inventory => inv[k]?) hinv
      simp only [List.getElem?_modify_eq, List.getElem?_modify_ne _ _ hne, hslot] at hat
      have hzero : 0 = slot.count := congrArg UserItemSlot.count (Option.some.inj hat)
      omega
    subst hk
    exact ⟨hsent, ⟨hlow, hhigh⟩, hlt, hkc', htl'⟩
  · rintro ⟨-, ⟨hlow, hhigh⟩, hlt, hkc, htl⟩
    obtain ⟨hkc', htl'⟩ := hcredit.mpr ⟨hlt, hkc, htl⟩
    have htime := ha.inTime
    rw [hentry] at htime
    refine ⟨htime, ⟨k, slot, hlow, hhigh, hslot, by rw [hid, hentry]; rfl, ?_, ?_⟩, ?_, ?_⟩
    · rw [← hslot', ha.count, hentry]
      rfl
    · rw [hworld, hc.inventory]
    · rw [hworld, hc.kc, hkc', hprice, htype]
    · rw [hworld, hc.tl, htl', hprice, htype]

theorem Sound.step_refund (hs : h.Sound) (hrevive : h.NoRevival (.refund serial now failure)) :
    (h.Orderly (.refund serial now failure) ↔ h.Request (.refund serial now failure)) ∧
      (h.Request (.refund serial now failure) → (h.step (.refund serial now failure)).Sound) := by
  by_cases haccepts : ∃ entry k, h.world.Accepts serial now entry k
  · obtain ⟨entry, k, ha⟩ := haccepts
    have hunique : ∀ entry' k', h.world.Accepts serial now entry' k' → entry' = entry ∧ k' = k := by
      intro entry' k' ha'
      have hlisted := ha'.listed.symm.trans ha.listed
      obtain rfl := Option.some.inj hlisted
      exact ⟨rfl, Option.some.inj (ha'.found.symm.trans ha.found)⟩
    have hrequest : h.Request (.refund serial now failure) ↔
        h.world.RequestCondition entry k failure := by
      constructor
      · exact fun hreq => hreq entry k ha
      · intro hcond entry' k' ha'
        obtain ⟨rfl, rfl⟩ := hunique entry' k' ha'
        exact hcond
    rw [hrequest]
    by_cases hsent : failure = some .stackChange
    · subst hsent
      exact ⟨iff_of_false (not_orderly_unsent ha) fun hcond => hcond.sent rfl,
        fun hcond => absurd rfl hcond.sent⟩
    · obtain ⟨p, hp, -, -⟩ := hs.listed serial entry ha.listed
      have hsound := hs.credited ha hsent hrevive
      have hcredited := (credits_of_accepts hs ha hsent).1
      refine ⟨?_, fun _ => hsound⟩
      rw [← hs.refunded_iff ha hsent hp]
      constructor
      · intro horderly
        obtain ⟨q, hq, hrefunded⟩ := horderly.refunded serial now failure rfl hcredited
        rw [hp] at hq
        obtain rfl := Option.some.inj hq
        exact hrefunded
      · intro hrefunded
        refine ⟨hsound.once, ?_, ?_⟩
        · rintro _ _ _ ⟨rfl, rfl, rfl⟩ -
          exact ⟨p, hp, hrefunded⟩
        · rintro _ _ _ ⟨rfl, rfl, rfl⟩ hno
          rw [hcredited] at hno
          cases hno
  · obtain ⟨time, code, heq⟩ :=
      (h.world.handleItemReturn_cases serial now failure).resolve_left haccepts
    obtain ⟨horderly, hsound⟩ := hs.refused heq
    exact ⟨iff_of_true horderly fun entry k ha => absurd ⟨entry, k, ha⟩ haccepts, fun _ => hsound⟩

end Refund

/-- One step that revives nothing: it goes as asked exactly where the request may. -/
theorem Sound.step_iff (hs : h.Sound) {e : RefundEvent} (hrevive : h.NoRevival e) :
    (h.Orderly e ↔ h.Request e) ∧ (h.Request e → (h.step e).Sound) := by
  have hquiet : (∀ serial now failure, e ≠ .refund serial now failure) → h.Request e →
      (h.step e).Sound → (h.Orderly e ↔ h.Request e) ∧ (h.Request e → (h.step e).Sound) :=
    fun he hreq hsound => ⟨iff_of_true (hsound.orderly_of_ne he) hreq, fun _ => hsound⟩
  cases e with
  | buy serial p => exact hquiet nofun trivial (hs.buy serial p)
  | play inventory knightCash tlBalance =>
    exact hquiet nofun trivial
      ⟨knightCash.isLt, tlBalance.isLt, hs.listed, hs.stored, hs.once, hs.bought⟩
  | refund serial now failure => exact hs.step_refund hrevive
  | delete i dbOk => exact hquiet nofun trivial (hs.delete i dbOk)
  | connect =>
    exact hquiet nofun trivial
      ⟨hs.knightCash_lt, hs.tlBalance_lt, nofun, hs.stored, hs.once, hs.bought⟩
  | gameStart now dbOk => exact hquiet nofun trivial (hs.gameStart hrevive)

/-- Where no purchase that was credited comes back into the list, every refund of a run goes as
asked exactly where every request meets its condition. -/
theorem refunds_orderly_iff (h : RefundHistory) (hstart : h.Start) (events : List RefundEvent)
    (hrevive : Run.Along step NoRevival h events) :
    Run.Along step Orderly h events ↔ Run.Along step Request h events := by
  have hboth : Run.Along step (fun h e => h.Orderly e ∧ h.NoRevival e) h events ↔
      Run.Along step (fun h e => h.Request e ∧ h.NoRevival e) h events := by
    refine Run.along_congr Sound (fun h e hs hok => ?_) (fun h e hs => ?_) hstart.sound
    · exact (hs.step_iff hok.2).2 ((hs.step_iff hok.2).1.mp hok.1)
    · exact and_congr_left fun hrev => (hs.step_iff hrev).1
  rw [Run.along_and, Run.along_and] at hboth
  constructor
  · exact fun horderly => (hboth.mp ⟨horderly, hrevive⟩).1
  · exact fun hrequest => (hboth.mpr ⟨hrequest, hrevive⟩).1

theorem potion_itemCount_lt : 1 < 2 ^ 16 := by decide

def potion : Purchase where
  itemId := 389010000
  itemId_lt := by decide
  itemPrice := 100
  itemPrice_lt := by decide
  itemCount := 1
  itemCount_lt := potion_itemCount_lt
  buyingTime := 1000
  buyingTime_lt := by decide
  itemDuration := 0
  itemDuration_lt := by decide
  buyType := 0
  buyType_le := by decide

def potionBag : Inventory :=
  Inventory.padded
    (List.replicate SLOT_MAX ({} : UserItemSlot) ++ [{ itemId := 389010000, count := 1 }])

def newAccount : RefundHistory where
  world :=
    { inventory := []
      knightCash := 0
      tlBalance := 0
      pusRefundMap := fun _ => none
      pusRefundLastTime := 0
      rows := []
      deletions := [] }
  purchases := fun _ => none
  refunds := fun _ => 0

theorem newAccount_start : newAccount.Start :=
  ⟨by decide, by decide, fun _ => rfl, rfl, fun _ => rfl, fun _ => rfl⟩

/-- The potion is refunded, its row is deleted, and then the account logs in. -/
def potionRun : List RefundEvent :=
  [.buy 5 potion, .play potionBag 0 0, .refund 5 2000 none, .delete 0 true, .connect,
    .gameStart 2100 true]

theorem potion_orderly : Run.Along step Orderly newAccount potionRun := by
  refine (refunds_orderly_iff newAccount newAccount_start potionRun ?_).mpr ?_
  · refine ⟨trivial, trivial, fun _ _ _ => nofun, trivial, trivial, fun _ row hrow => ?_, trivial⟩
    have hrows : (Run.run step newAccount [.buy 5 potion, .play potionBag 0 0, .refund 5 2000 none,
        .delete 0 true, .connect]).world.rows = [] := by decide +kernel
    have hrow' : row ∈ ([] : List PusRefundRow) := hrows ▸ hrow
    cases hrow'
  · refine ⟨trivial, trivial, fun entry k ha => ?_, trivial, trivial, trivial, trivial⟩
    have hentry : some entry = some potion.entry := ha.listed.symm.trans rfl
    obtain rfl := Option.some.inj hentry
    have hk : some k = some SLOT_MAX := ha.found.symm.trans (by decide +kernel)
    obtain rfl := Option.some.inj hk
    exact ⟨nofun, by decide, by decide, fun _ => by decide, fun _ => by decide⟩

/-- The account logs in before the row is deleted, and has the potion refunded a second time. -/
theorem potion_refunded_twice : ¬Run.Along step Orderly newAccount
    [.buy 5 potion, .play potionBag 0 0, .refund 5 2000 none, .connect, .gameStart 2100 true,
      .play potionBag 100 0, .refund 5 2200 none] := by
  rintro ⟨-, -, -, -, -, -, hrefund, -⟩
  have honce := hrefund.once 5
  revert honce
  decide +kernel

end RefundHistory

end KoServer
