import Mathlib.Algebra.BigOperators.Ring.Finset
import Mathlib.Algebra.Order.BigOperators.Group.Finset
import KoServer.Proofs.Inventory
import KoServer.Spec.NpcTrade

/-! What a sale pays and what it takes. Every entry is checked against the stack as it was
before the sale, so the entries of one slot can add up to more than the stack, and are all
paid; and an item of the unique kind goes whole whatever count was paid for. -/

namespace KoServer

open Finset

section Prices

def unitPrice (ctx : SellContext) (itemId : ℕ) : ℕ :=
  match ctx.table itemId with
  | none => 0
  | some itemDef => sellPrice itemDef (sellDivisor ctx) 1

def priceFactor (item : Item) (divisor : ℕ) : ℕ :=
  if item.sellNpcType.getD 0 = 1 ∧ 0 < asU64 (item.sellNpcPrice.getD 0) then
    asU64 (item.sellNpcPrice.getD 0)
  else if item.sellPrice.getD 0 ≠ SELL_TYPE_FULL_PRICE then
    asU64 (item.buyPrice.getD 0) / divisor
  else asU64 (item.buyPrice.getD 0)

theorem priceFactor_lt (item : Item) (divisor : ℕ) : priceFactor item divisor < 2 ^ 64 := by
  unfold priceFactor
  split_ifs
  · exact asU64_lt _
  · exact (Nat.div_le_self _ _).trans_lt (asU64_lt _)
  · exact asU64_lt _

theorem saturatingMul64_pos_iff {a b : ℕ} : 0 < saturatingMul64 a b ↔ 0 < a ∧ 0 < b := by
  simp [saturatingMul64, Nat.pos_iff_ne_zero]

theorem saturatingMul64_zero_right (a : ℕ) : saturatingMul64 a 0 = 0 := by
  simp [saturatingMul64]

theorem sellPrice_eq_factor (item : Item) (divisor count : ℕ) :
    sellPrice item divisor count = saturatingMul64 (priceFactor item divisor) count := by
  rcases Nat.eq_zero_or_pos count with rfl | hcount
  · simp [sellPrice, saturatingMul64_zero_right]
  · unfold sellPrice priceFactor
    simp only [gt_iff_lt, saturatingMul64_pos_iff, hcount, and_true]
    by_cases htype : item.sellNpcType.getD 0 = 1
    · by_cases hnpc : 0 < asU64 (item.sellNpcPrice.getD 0)
      · simp only [htype, hnpc, and_self, if_true]
      · simp only [htype, hnpc, and_false, if_true, if_false]
        split_ifs <;> rfl
    · simp only [htype, false_and, if_false]
      split_ifs <;> rfl

def entryPrice (ctx : SellContext) (e : TradeItem) : ℕ := unitPrice ctx e.itemId * e.count

theorem sellPrice_eq_entryPrice {ctx : SellContext} {e : TradeItem} {itemDef : Item}
    (h : ctx.table e.itemId = some itemDef) :
    sellPrice itemDef (sellDivisor ctx) e.count = min (entryPrice ctx e) (2 ^ 64 - 1) := by
  have hlt := priceFactor_lt itemDef (sellDivisor ctx)
  have hunit : unitPrice ctx e.itemId = priceFactor itemDef (sellDivisor ctx) := by
    simp only [unitPrice, h, sellPrice_eq_factor, saturatingMul64]
    omega
  rw [entryPrice, hunit, sellPrice_eq_factor]
  rfl

end Prices

section Checks

variable {ctx : SellContext} {s : Seller}

structure ValidEntry (s : Seller) (e : TradeItem) : Prop where
  inRange : SLOT_MAX + e.invPos < s.inventory.length
  sameItem : (s.inventory.slot (SLOT_MAX + e.invPos)).itemId = e.itemId
  enough : e.count ≤ (s.inventory.slot (SLOT_MAX + e.invPos)).count

def paidPrice (ctx : SellContext) (e : TradeItem) : ℕ := min (entryPrice ctx e) (2 ^ 64 - 1)

/-- An entry passes every check but the one on the running total. -/
structure Sellable (ctx : SellContext) (s : Seller) (e : TradeItem) : Prop
    extends ValidEntry s e where
  tradeable : ∃ itemDef, ctx.table e.itemId = some itemDef ∧
    ¬ ((ITEM_NO_TRADE_MIN ≤ e.itemId ∧ e.itemId ≤ ITEM_NO_TRADE_MAX) ∨
      itemDef.race.getD 0 = RACE_UNTRADEABLE)
  unlocked : ¬ ((s.inventory.slot (SLOT_MAX + e.invPos)).flag = ITEM_FLAG_SEALED ∨
    (s.inventory.slot (SLOT_MAX + e.invPos)).flag = ITEM_FLAG_RENTED ∨
    (s.inventory.slot (SLOT_MAX + e.invPos)).flag = ITEM_FLAG_DUPLICATE ∨
    (s.inventory.slot (SLOT_MAX + e.invPos)).expireTime > 0)

/-- The gold with the running total stays within the cap after every entry. -/
def Capped (ctx : SellContext) (s : Seller) (total : ℕ) (items : List TradeItem) : Prop :=
  ∀ l, l ≠ [] → l <+: items →
    (s.gold + (total + Tally.total (paidPrice ctx) l) % 2 ^ 64) % 2 ^ 64 ≤ COIN_MAX

theorem capped_cons {total : ℕ} {e : TradeItem} {items : List TradeItem} :
    Capped ctx s total (e :: items) ↔
      (s.gold + (total + paidPrice ctx e) % 2 ^ 64) % 2 ^ 64 ≤ COIN_MAX ∧
        Capped ctx s ((total + paidPrice ctx e) % 2 ^ 64) items := by
  have hwrap (l : List TradeItem) :
      ((total + paidPrice ctx e) % 2 ^ 64 + Tally.total (paidPrice ctx) l) % 2 ^ 64 =
        (total + Tally.total (paidPrice ctx) (e :: l)) % 2 ^ 64 := by
    rw [Nat.mod_add_mod, Tally.total_cons, Nat.add_assoc]
  constructor
  · intro h
    refine ⟨?_, fun l _ hpre => ?_⟩
    · simpa using h [e] (List.cons_ne_nil _ _) (List.prefix_cons_inj e |>.mpr List.nil_prefix)
    · rw [hwrap]
      exact h (e :: l) (List.cons_ne_nil _ _) ((List.prefix_cons_inj e).mpr hpre)
  · rintro ⟨hone, hrest⟩ l hne hpre
    cases l with
    | nil => exact absurd rfl hne
    | cons e' l =>
      obtain ⟨rfl, hpre'⟩ := List.cons_prefix_cons.mp hpre
      cases l with
      | nil => simpa using hone
      | cons e'' l =>
        rw [← hwrap]
        exact hrest (e'' :: l) (List.cons_ne_nil _ _) hpre'

theorem checkSellItem_ok {total total' : ℕ} {e e' : TradeItem}
    (h : checkSellItem ctx s total e = .ok (total', e')) :
    Sellable ctx s e ∧ total' = (total + paidPrice ctx e) % 2 ^ 64 ∧
      (s.gold + total') % 2 ^ 64 ≤ COIN_MAX ∧ ∃ b, e' = { e with buyPrice := b } := by
  unfold checkSellItem at h
  split at h
  · cases h
  next itemDef hdef =>
  split_ifs at h with htrade
  split at h
  · cases h
  next slot hslot =>
  split_ifs at h with hid hflag hcount
  dsimp only at h
  split_ifs at h with hcap
  obtain ⟨rfl, rfl⟩ := Prod.mk.inj (Except.ok.inj h)
  obtain rfl := Inventory.slot_of_getElem? hslot
  have hvalid : ValidEntry s e :=
    ⟨(List.getElem?_eq_some_iff.mp hslot).1, not_not.mp hid, not_lt.mp hcount⟩
  refine ⟨⟨hvalid, ⟨itemDef, hdef, htrade⟩, hflag⟩, ?_, not_lt.mp hcap, _, rfl⟩
  rw [sellPrice_eq_entryPrice hdef, paidPrice]

theorem checkSellItem_of_sellable {total : ℕ} {e : TradeItem} (h : Sellable ctx s e)
    (hcap : (s.gold + (total + paidPrice ctx e) % 2 ^ 64) % 2 ^ 64 ≤ COIN_MAX) :
    ∃ e', checkSellItem ctx s total e = .ok ((total + paidPrice ctx e) % 2 ^ 64, e') := by
  obtain ⟨⟨hrange, hid, hcount⟩, ⟨itemDef, hdef, htrade⟩, hflag⟩ := h
  have hslot : s.inventory[SLOT_MAX + e.invPos]? =
      some (s.inventory.slot (SLOT_MAX + e.invPos)) := by
    rw [List.getElem?_eq_getElem hrange, Inventory.slot, List.getD_eq_getElem _ _ hrange]
  unfold checkSellItem
  simp only [hdef, hslot, sellPrice_eq_entryPrice hdef]
  rw [if_neg htrade, if_neg (not_not.mpr hid), if_neg hflag, if_neg (not_lt.mpr hcount)]
  rw [paidPrice] at hcap
  rw [if_neg (not_lt.mpr hcap)]
  exact ⟨_, rfl⟩

theorem removeSold_buyPrice (inv : Inventory) (e : TradeItem) (b : ℕ) :
    removeSold ctx inv { e with buyPrice := b } = removeSold ctx inv e := rfl

theorem checkSellItems_ok {total total' : ℕ} {items items' : List TradeItem}
    (htotal : total < 2 ^ 64) (h : checkSellItems ctx s total items = .ok (total', items')) :
    (∀ e ∈ items, Sellable ctx s e) ∧ Capped ctx s total items ∧
      total' = (total + Tally.total (paidPrice ctx) items) % 2 ^ 64 ∧
      ∀ inv, items'.foldl (removeSold ctx) inv = items.foldl (removeSold ctx) inv := by
  induction items generalizing total items' with
  | nil =>
    obtain ⟨rfl, rfl⟩ := Prod.mk.inj (Except.ok.inj h)
    refine ⟨by simp, fun l hne hpre => ?_, (Nat.mod_eq_of_lt htotal).symm, fun _ => rfl⟩
    exact absurd (List.prefix_nil.mp hpre) hne
  | cons e items ih =>
    unfold checkSellItems at h
    split at h
    · cases h
    next total1 e1 hone =>
    split at h
    · cases h
    next total2 rest hrest =>
    obtain ⟨rfl, rfl⟩ := Prod.mk.inj (Except.ok.inj h)
    obtain ⟨hsellable, rfl, hcap, b, rfl⟩ := checkSellItem_ok hone
    obtain ⟨hsellables, hcaps, htotal2, hfold⟩ := ih (Nat.mod_lt _ (by decide)) hrest
    refine ⟨List.forall_mem_cons.mpr ⟨hsellable, hsellables⟩, capped_cons.mpr ⟨hcap, hcaps⟩, ?_,
      fun inv => ?_⟩
    · rw [htotal2, Nat.mod_add_mod, Tally.total_cons, Nat.add_assoc]
    · rw [List.foldl_cons, List.foldl_cons, removeSold_buyPrice, hfold]

theorem checkSellItems_of_sellable {total : ℕ} {items : List TradeItem}
    (h : ∀ e ∈ items, Sellable ctx s e) (hcap : Capped ctx s total items) :
    ∃ r, checkSellItems ctx s total items = .ok r := by
  induction items generalizing total with
  | nil => exact ⟨_, rfl⟩
  | cons e items ih =>
    obtain ⟨hone, hrest⟩ := List.forall_mem_cons.mp h
    obtain ⟨hcapOne, hcapRest⟩ := capped_cons.mp hcap
    obtain ⟨e', he'⟩ := checkSellItem_of_sellable hone hcapOne
    obtain ⟨⟨total', items'⟩, hitems⟩ := ih hrest hcapRest
    refine ⟨(total', e' :: items'), ?_⟩
    simp only [checkSellItems, he', hitems]

end Checks

section Slots

variable (ctx : SellContext)

def sellsWhole (itemId : ℕ) : Bool :=
  ((ctx.table itemId).bind Item.kind).getD 0 = ITEM_KIND_UNIQUE ∧
    ((ctx.table itemId).bind Item.countable).getD 0 = 0

def asked (entries : List TradeItem) (i : ℕ) : ℕ :=
  Tally.total (fun e => if SLOT_MAX + e.invPos = i then e.count else 0) entries

def named (entries : List TradeItem) (i : ℕ) : Bool := entries.any (SLOT_MAX + ·.invPos = i)

def kept (entries : List TradeItem) (i : ℕ) (slot : UserItemSlot) : ℕ :=
  if slot.itemId = 0 then slot.count
  else if sellsWhole ctx slot.itemId ∧ named entries i then 0
  else slot.count - asked entries i

variable {ctx}

@[simp] theorem removeSold_length (inv : Inventory) (e : TradeItem) :
    (removeSold ctx inv e).length = inv.length := by
  unfold removeSold
  dsimp only
  split_ifs <;> simp

theorem removeSold_other {inv : Inventory} {e : TradeItem} {i : ℕ} (h : SLOT_MAX + e.invPos ≠ i) :
    (removeSold ctx inv e).slot i = inv.slot i := by
  unfold removeSold
  dsimp only
  split_ifs
  · rfl
  · rfl
  · exact Inventory.slot_set_ne h _
  · exact Inventory.slot_set_ne h _

/-- The entry's own slot: nothing for item 0, the whole stack, or what is asked. -/
theorem removeSold_count {inv : Inventory} {e : TradeItem}
    (h : SLOT_MAX + e.invPos < inv.length) :
    ((removeSold ctx inv e).slot (SLOT_MAX + e.invPos)).count =
      if e.itemId = 0 then (inv.slot (SLOT_MAX + e.invPos)).count
      else if sellsWhole ctx e.itemId then 0
      else (inv.slot (SLOT_MAX + e.invPos)).count - e.count := by
  unfold removeSold
  dsimp only
  by_cases h0 : e.itemId = 0
  · rw [if_pos h0, if_pos h0]
  · rw [if_neg h0, if_neg h0, if_neg (not_le.mpr h)]
    by_cases hwhole : sellsWhole ctx e.itemId = true
    · have hwhole' := hwhole
      simp only [sellsWhole, decide_eq_true_eq] at hwhole'
      rw [if_pos (Or.inl hwhole'), if_pos hwhole, Inventory.slot_set_self h]
    · have hwhole' := hwhole
      simp only [sellsWhole, decide_eq_true_eq] at hwhole'
      rw [if_neg hwhole]
      split_ifs with hall
      · rw [Inventory.slot_set_self h]
        have := hall.resolve_left hwhole'
        show 0 = _
        omega
      · rw [Inventory.slot_set_self h]

theorem foldl_removeSold_count {entries : List TradeItem} {inv : Inventory} {i itemId c : ℕ}
    (hi : i < inv.length) (hc : (inv.slot i).count = c)
    (hsame : ∀ e ∈ entries, SLOT_MAX + e.invPos = i → e.itemId = itemId) :
    ((entries.foldl (removeSold ctx) inv).slot i).count =
      if itemId = 0 then c
      else if sellsWhole ctx itemId ∧ named entries i then 0
      else c - asked entries i := by
  induction entries generalizing inv c with
  | nil => simp [named, asked, hc]
  | cons e entries ih =>
    obtain ⟨he, hsame⟩ := List.forall_mem_cons.mp hsame
    rw [List.foldl_cons]
    by_cases hslot : SLOT_MAX + e.invPos = i
    · have hcount : ((removeSold ctx inv e).slot i).count =
          if itemId = 0 then c else if sellsWhole ctx itemId then 0 else c - e.count := by
        rw [← hslot, removeSold_count (hslot ▸ hi), he hslot, hslot, hc]
      rw [ih (by simpa using hi) hcount hsame]
      have hnamed : named (e :: entries) i = true := by simp [named, hslot]
      have hasked : asked (e :: entries) i = e.count + asked entries i := by simp [asked, hslot]
      rw [hnamed, hasked]
      split_ifs <;> simp_all
      omega
    · have hcount : ((removeSold ctx inv e).slot i).count = c := by
        rw [removeSold_other hslot, hc]
      rw [ih (by simpa using hi) hcount hsame]
      have hnamed : named (e :: entries) i = named entries i := by simp [named, hslot]
      have hasked : asked (e :: entries) i = asked entries i := by simp [asked, hslot]
      rw [hnamed, hasked]

end Slots

section Balance

variable (ctx : SellContext) (s : Seller) (entries : List TradeItem)

def removedWorth (inv inv' : Inventory) : ℕ :=
  ∑ i ∈ range inv.length, unitPrice ctx (inv.slot i).itemId *
    ((inv.slot i).count - (inv'.slot i).count)

def paidFor : ℕ := Tally.total (entryPrice ctx) entries

def dueFor : ℕ :=
  ∑ i ∈ range s.inventory.length, unitPrice ctx (s.inventory.slot i).itemId *
    ((s.inventory.slot i).count - kept ctx entries i (s.inventory.slot i))

/-- Asked for, and paid, beyond the stack. Nothing goes for item 0. -/
def overpaid : ℕ :=
  ∑ i ∈ range s.inventory.length, unitPrice ctx (s.inventory.slot i).itemId *
    if (s.inventory.slot i).itemId = 0 then asked entries i
    else asked entries i - (s.inventory.slot i).count

def unpaid : ℕ :=
  ∑ i ∈ range s.inventory.length, unitPrice ctx (s.inventory.slot i).itemId *
    if (s.inventory.slot i).itemId ≠ 0 ∧ sellsWhole ctx (s.inventory.slot i).itemId ∧
        named entries i then
      (s.inventory.slot i).count - asked entries i
    else 0

variable {ctx s entries}

theorem paidFor_eq_sum (hvalid : ∀ e ∈ entries, ValidEntry s e) :
    paidFor ctx entries = ∑ i ∈ range s.inventory.length,
      unitPrice ctx (s.inventory.slot i).itemId * asked entries i := by
  induction entries with
  | nil => simp [paidFor, asked]
  | cons e entries ih =>
    obtain ⟨he, hvalid⟩ := List.forall_mem_cons.mp hvalid
    have hsum := ih hvalid
    simp only [paidFor, asked, Tally.total_cons, mul_add, sum_add_distrib] at hsum ⊢
    rw [hsum, add_left_inj]
    simp only [mul_ite, mul_zero]
    rw [sum_ite_eq, if_pos (mem_range.mpr he.inRange), he.sameItem, entryPrice]

theorem asked_eq_zero {i : ℕ} (h : named entries i = false) : asked entries i = 0 := by
  induction entries with
  | nil => rfl
  | cons e entries ih =>
    simp only [named, List.any_cons, Bool.or_eq_false_iff, decide_eq_false_iff_not] at h
    rw [asked, Tally.total_cons, if_neg h.1, Nat.zero_add]
    exact ih h.2

theorem paidFor_add_unpaid (hvalid : ∀ e ∈ entries, ValidEntry s e) :
    paidFor ctx entries + unpaid ctx s entries = dueFor ctx s entries + overpaid ctx s entries := by
  rw [paidFor_eq_sum hvalid, unpaid, dueFor, overpaid, ← sum_add_distrib, ← sum_add_distrib]
  refine sum_congr rfl fun i _ => ?_
  rw [← mul_add, ← mul_add]
  congr 1
  unfold kept
  by_cases h0 : (s.inventory.slot i).itemId = 0
  · simp [h0]
  · cases hnamed : named entries i with
    | false =>
      have hzero := asked_eq_zero hnamed
      simp [h0, hzero]
    | true =>
      by_cases hwhole : sellsWhole ctx (s.inventory.slot i).itemId = true
      · simp only [h0, hwhole, ne_eq, not_false_eq_true, and_self, if_true, if_false]
        omega
      · simp only [h0, hwhole, ne_eq, Bool.false_eq_true, false_and, and_false, if_false]
        omega

theorem removedWorth_foldl (hvalid : ∀ e ∈ entries, ValidEntry s e) :
    removedWorth ctx s.inventory (entries.foldl (removeSold ctx) s.inventory) =
      dueFor ctx s entries := by
  refine sum_congr rfl fun i hi => ?_
  rw [foldl_removeSold_count (mem_range.mp hi) rfl
    (fun e he hslot => (hslot ▸ (hvalid e he).sameItem).symm)]
  rfl

def soldGold (ctx : SellContext) (s : Seller) (entries : List TradeItem) : ℕ :=
  goldGain s.gold (Tally.total (paidPrice ctx) entries % 2 ^ 64 % 2 ^ 32)

theorem soldGold_of_no_wrap (hlt : s.gold + paidFor ctx entries < 2 ^ 64)
    (hcap : (s.gold + Tally.total (paidPrice ctx) entries % 2 ^ 64) % 2 ^ 64 ≤ COIN_MAX) :
    soldGold ctx s entries = s.gold + paidFor ctx entries := by
  have hpaid : Tally.total (paidPrice ctx) entries = paidFor ctx entries := by
    refine Tally.total_congr _ fun e he => ?_
    have := Tally.le_total (entryPrice ctx) he
    unfold paidFor at hlt
    unfold paidPrice
    omega
  have : COIN_MAX = 2100000000 := rfl
  rw [hpaid] at hcap
  rw [soldGold, hpaid]
  unfold goldGain
  split_ifs <;> omega

/-- An entry is paid no more than what goes from its slot is worth. -/
theorem entryPrice_le_dueFor (hvalid : ∀ e ∈ entries, ValidEntry s e) {e : TradeItem}
    (he : e ∈ entries) (h0 : e.itemId ≠ 0) : entryPrice ctx e ≤ dueFor ctx s entries := by
  obtain ⟨hrange, hitem, henough⟩ := hvalid e he
  have hasked : e.count ≤ asked entries (SLOT_MAX + e.invPos) := by
    have := Tally.le_total
      (fun e' => if SLOT_MAX + e'.invPos = SLOT_MAX + e.invPos then e'.count else 0) he
    simpa [asked] using this
  have hgone : e.count ≤ (s.inventory.slot (SLOT_MAX + e.invPos)).count -
      kept ctx entries (SLOT_MAX + e.invPos) (s.inventory.slot (SLOT_MAX + e.invPos)) := by
    unfold kept
    rw [if_neg (by rwa [hitem])]
    split_ifs <;> omega
  refine le_trans ?_ (single_le_sum (fun _ _ => Nat.zero_le _) (mem_range.mpr hrange))
  rw [hitem]
  exact Nat.mul_le_mul_left _ hgone

/-- A wrapped total never happens to be the due one, as long as nothing is paid for item 0. -/
theorem soldGold_ne_of_wrap (hvalid : ∀ e ∈ entries, ValidEntry s e)
    (h0 : ∀ e ∈ entries, e.itemId ≠ 0) (hlen : entries.length ≤ 24)
    (hwrap : ¬ s.gold + paidFor ctx entries < 2 ^ 64) :
    soldGold ctx s entries ≠ s.gold + dueFor ctx s entries := by
  intro h
  have hgold := s.gold_lt
  have hsold : soldGold ctx s entries < 2 ^ 32 := goldGain_lt
  have hpaid : paidFor ctx entries ≤ entries.length * dueFor ctx s entries :=
    Tally.total_le_of_forall_le _ fun e he => entryPrice_le_dueFor hvalid he (h0 e he)
  have hdue : entries.length * dueFor ctx s entries ≤ 24 * 2 ^ 32 :=
    Nat.mul_le_mul hlen (by omega)
  omega

/-- What the wrapping sum and the cap on the gold cut off from the pay. -/
def cutOff (ctx : SellContext) (s : Seller) (entries : List TradeItem) : ℤ :=
  s.gold + paidFor ctx entries - soldGold ctx s entries

/-- The sales that pay for what they take. While the total does not wrap: what is asked for
beyond the stacks is worth what unasked units of unique items are. Where it wraps, the
missing pay can only be made up by pay for item 0, the empty slot. -/
def FairSale (ctx : SellContext) (s : Seller) (entries : List TradeItem) : Prop :=
  if s.gold + paidFor ctx entries < 2 ^ 64 then
    overpaid ctx s entries = unpaid ctx s entries
  else (∃ e ∈ entries, e.itemId = 0) ∧
    (overpaid ctx s entries : ℤ) = unpaid ctx s entries + cutOff ctx s entries

theorem soldGold_eq_iff (hvalid : ∀ e ∈ entries, ValidEntry s e) (hlen : entries.length ≤ 24)
    (hcap : (s.gold + Tally.total (paidPrice ctx) entries % 2 ^ 64) % 2 ^ 64 ≤ COIN_MAX) :
    soldGold ctx s entries = s.gold + dueFor ctx s entries ↔ FairSale ctx s entries := by
  have hbalance : paidFor ctx entries + unpaid ctx s entries =
      dueFor ctx s entries + overpaid ctx s entries := paidFor_add_unpaid hvalid
  unfold FairSale
  split_ifs with hlt
  · rw [soldGold_of_no_wrap hlt hcap]
    omega
  · constructor
    · intro h
      refine ⟨?_, ?_⟩
      · by_contra hne
        exact soldGold_ne_of_wrap hvalid (fun e he h0 => hne ⟨e, he, h0⟩) hlen hlt h
      · unfold cutOff
        omega
    · rintro ⟨-, h⟩
      unfold cutOff at h
      omega

def sellEntries (reader : PacketReader) : List TradeItem :=
  parseSellItems reader.readU8D.1 reader.readU8D.2

theorem parseSellItems_length (n : ℕ) (reader : PacketReader) :
    (parseSellItems n reader).length = n := by
  induction n generalizing reader with
  | zero => rfl
  | succ n ih =>
    simp only [parseSellItems, List.length_cons]
    rw [ih]

theorem removedWorth_self (inv : Inventory) : removedWorth ctx inv inv = 0 := by
  simp [removedWorth]

structure SaleAccepted (ctx : SellContext) (s : Seller) (entries : List TradeItem) : Prop where
  nonempty : entries ≠ []
  short : entries.length ≤ 24
  sellable : ∀ e ∈ entries, Sellable ctx s e
  capped : Capped ctx s 0 entries

theorem SaleAccepted.valid (h : SaleAccepted ctx s entries) : ∀ e ∈ entries, ValidEntry s e :=
  fun e he => (h.sellable e he).toValidEntry

theorem SaleAccepted.total_capped (h : SaleAccepted ctx s entries) :
    (s.gold + Tally.total (paidPrice ctx) entries % 2 ^ 64) % 2 ^ 64 ≤ COIN_MAX := by
  have hwhole := h.capped entries h.nonempty (List.prefix_refl entries)
  rwa [Nat.zero_add] at hwhole

/-- A sale that is let through changes the seller as a whole. -/
theorem handleSellRequest_accepted {reader : PacketReader}
    (h : SaleAccepted ctx s (sellEntries reader)) :
    ∃ s' t, handleSellRequest ctx s reader = .ok (s', t) ∧
      s'.gold = soldGold ctx s (sellEntries reader) ∧
      s'.inventory = (sellEntries reader).foldl (removeSold ctx) s.inventory := by
  have hlen : (sellEntries reader).length = reader.readU8D.1 := parseSellItems_length _ _
  have hpos := List.length_pos_iff.mpr h.nonempty
  have hshort := h.short
  obtain ⟨⟨total, items⟩, hcheck⟩ := checkSellItems_of_sellable h.sellable h.capped
  obtain ⟨-, -, htotal, hfold⟩ := checkSellItems_ok (by decide) hcheck
  rw [Nat.zero_add] at htotal
  unfold handleSellRequest handleSell
  dsimp only
  rw [if_neg (by omega)]
  unfold sellEntries at hcheck
  rw [hcheck]
  exact ⟨_, _, rfl, by rw [soldGold, htotal], hfold _⟩

theorem saleAccepted_of_ok {reader : PacketReader} {result : Seller × ℕ}
    (h : handleSellRequest ctx s reader = .ok result) : SaleAccepted ctx s (sellEntries reader) := by
  have hlen : (sellEntries reader).length = reader.readU8D.1 := parseSellItems_length _ _
  unfold handleSellRequest at h
  dsimp only at h
  split_ifs at h with hcount
  unfold handleSell at h
  split at h
  · cases h
  next total items hcheck =>
  obtain ⟨hsellable, hcapped, -, -⟩ := checkSellItems_ok (by decide) hcheck
  refine ⟨?_, by omega, hsellable, hcapped⟩
  rw [← List.length_pos_iff]
  omega

end Balance

/-- A sale leaves the seller with the gold and the worth of what went, and a refused one
leaves everything, exactly when the sale is fair or not let through. -/
theorem sell_pays_exactly_iff (ctx : SellContext) (s : Seller) (reader : PacketReader) :
    ((sellStep ctx s reader).gold =
        s.gold + removedWorth ctx s.inventory (sellStep ctx s reader).inventory ∧
      (∀ e, handleSellRequest ctx s reader = .error e → sellStep ctx s reader = s)) ↔
    (SaleAccepted ctx s (sellEntries reader) → FairSale ctx s (sellEntries reader)) := by
  unfold sellStep
  by_cases haccepted : SaleAccepted ctx s (sellEntries reader)
  · obtain ⟨s', t, hreq, hgold, hinv⟩ := handleSellRequest_accepted haccepted
    have hiff := soldGold_eq_iff haccepted.valid haccepted.short haccepted.total_capped
    rw [hreq]
    dsimp only
    rw [hgold, hinv, removedWorth_foldl haccepted.valid, hiff]
    simp [haccepted]
  · cases hreq : handleSellRequest ctx s reader with
    | error e => simp [removedWorth_self, haccepted]
    | ok result => exact absurd (saleAccepted_of_ok hreq) haccepted

/-- Ten potions in the first bag slot, at a hundred gold a piece. -/
def potionSeller : Seller where
  inventory := Inventory.padded
    (List.replicate SLOT_MAX {} ++ [{ itemId := 389010000, durability := 1, count := 10 }])
  gold := 0
  gold_lt := by decide

def potionShop : SellContext where
  table := fun id =>
    if id = 389010000 then some { buyPrice := some 600, countable := some 1 } else none
  itemSellPercent := 0

def potionsTwice : PacketReader :=
  PacketReader.new ([2] ++ (Bytes.le 4 389010000 ++ [0] ++ Bytes.le 2 10) ++
    (Bytes.le 4 389010000 ++ [0] ++ Bytes.le 2 10))

/-- Both entries are paid, and ten potions go. -/
theorem stack_sold_twice :
    (handleSellRequest potionShop potionSeller potionsTwice).isOk = true ∧
      ¬ (sellStep potionShop potionSeller potionsTwice).gold = potionSeller.gold +
        removedWorth potionShop potionSeller.inventory
          (sellStep potionShop potionSeller potionsTwice).inventory := by
  decide +kernel

end KoServer
