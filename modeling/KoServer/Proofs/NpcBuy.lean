import KoServer.Proofs.Inventory
import KoServer.Spec.NpcBuy

/-! What a purchase from an NPC pays and what it delivers. The price is that of the count in
the request; an item that does not stack comes as one, and a destination may not be able to
take the count. -/

namespace KoServer

section Prices

theorem asU64_of_I32 {n : ℤ} (h : I32 n) :
    asU64 n = if 0 ≤ n then n.toNat else 2 ^ 64 - (-n).toNat := by
  obtain ⟨hlo, hhi⟩ := h
  unfold asU64
  split_ifs <;> omega

def shopPrice (isLoyalty : Bool) (itemDef : ShopItem) : ℕ :=
  (if isLoyalty then itemDef.npBuyPrice.getD 0 else itemDef.buyPrice.getD 0).toNat

/-- A price column below 0 reads as a price that no count brings under the limit. -/
theorem wrapped_price {n : ℤ} (h : I32 n) {count : ℕ} (hcount : count < ITEMCOUNT_MAX)
    (hle : asU64 n * count % 2 ^ 64 ≤ COIN_MAX) : asU64 n * count % 2 ^ 64 = n.toNat * count := by
  have hmax : ITEMCOUNT_MAX = 9999 := rfl
  have hcoin : COIN_MAX = 2100000000 := rfl
  rw [asU64_of_I32 h] at hle ⊢
  obtain ⟨hlo, hhi⟩ := h
  split_ifs at hle ⊢ with hn
  · have hsmall : n.toNat * count ≤ 2 ^ 31 * 9999 := Nat.mul_le_mul (by omega) (by omega)
    omega
  · have hzero : n.toNat = 0 := by omega
    rcases Nat.eq_zero_or_pos count with rfl | hpos
    · rw [hzero, Nat.mul_zero, Nat.mul_zero, Nat.zero_mod]
    · exfalso
      generalize hm : (-n).toNat = m at hle
      have hm31 : m ≤ 2 ^ 31 := by omega
      have hmpos : 0 < m := by omega
      have hsmall : m * count ≤ 2 ^ 31 * 9999 := Nat.mul_le_mul hm31 (by omega)
      have hbig : 0 < m * count := Nat.mul_pos hmpos hpos
      have hsplit : (2 ^ 64 - m) * count = 2 ^ 64 * (count - 1) + (2 ^ 64 - m * count) := by
        obtain ⟨k, rfl⟩ : ∃ k, count = k + 1 := ⟨count - 1, by omega⟩
        rw [Nat.sub_mul, Nat.add_sub_cancel, Nat.mul_succ]
        omega
      rw [hsplit, Nat.mul_add_mod] at hle
      omega

theorem basePrice_eq (isLoyalty : Bool) (itemDef : ShopItem) {count : ℕ}
    (hcount : count < ITEMCOUNT_MAX) (hle : basePrice isLoyalty itemDef count ≤ COIN_MAX) :
    basePrice isLoyalty itemDef count = shopPrice isLoyalty itemDef * count := by
  unfold basePrice at hle ⊢
  cases isLoyalty with
  | true => exact wrapped_price itemDef.npBuyPrice_i32 hcount hle
  | false => exact wrapped_price itemDef.buyPrice_i32 hcount hle

/-- The tax on a base price, rounded down. -/
def taxOf (base : ℕ) (zoneType : TaxZoneType) (kingTariff siegeTariff : ℕ) : ℕ :=
  match zoneType with
  | .kingTariff => base * (kingTariff + 10) / 100
  | .siegeMoradon | .siegeDelos => base * ((siegeTariff : ℤ) - 10).natAbs / 100
  | .noTax => 0

def taxedPrice (base : ℕ) (zoneType : TaxZoneType) (kingTariff siegeTariff : ℕ) : ℕ :=
  match zoneType with
  | .siegeMoradon | .siegeDelos =>
    if siegeTariff < 10 then base - taxOf base zoneType kingTariff siegeTariff
    else base + taxOf base zoneType kingTariff siegeTariff
  | .kingTariff | .noTax => base + taxOf base zoneType kingTariff siegeTariff

theorem saturatingAdd32_le {a b : ℕ} (h : saturatingAdd32 a b ≤ COIN_MAX) :
    saturatingAdd32 a b = a + b := by
  have hcoin : COIN_MAX = 2100000000 := rfl
  unfold saturatingAdd32 at h ⊢
  omega

theorem markup_le {base tax : ℕ} (h : saturatingAdd32 base (tax % 2 ^ 32) ≤ COIN_MAX) :
    saturatingAdd32 base (tax % 2 ^ 32) ≤ base + tax ∧
      (saturatingAdd32 base (tax % 2 ^ 32) = base + tax ↔ tax < 2 ^ 32) := by
  rw [saturatingAdd32_le h]
  omega

/-- A discount is at most a tenth of the price, and keeps its tax. -/
theorem adjusted_le {base siegeTariff : ℕ} (hbase : base ≤ COIN_MAX)
    (h : (if (siegeTariff : ℤ) - 10 < 0 then
        base - base * ((siegeTariff : ℤ) - 10).natAbs / 100 % 2 ^ 32
      else saturatingAdd32 base (base * ((siegeTariff : ℤ) - 10).natAbs / 100 % 2 ^ 32)) ≤
        COIN_MAX) :
    (if (siegeTariff : ℤ) - 10 < 0 then
        base - base * ((siegeTariff : ℤ) - 10).natAbs / 100 % 2 ^ 32
      else saturatingAdd32 base (base * ((siegeTariff : ℤ) - 10).natAbs / 100 % 2 ^ 32)) ≤
        (if siegeTariff < 10 then base - base * ((siegeTariff : ℤ) - 10).natAbs / 100
        else base + base * ((siegeTariff : ℤ) - 10).natAbs / 100) ∧
      ((if (siegeTariff : ℤ) - 10 < 0 then
          base - base * ((siegeTariff : ℤ) - 10).natAbs / 100 % 2 ^ 32
        else saturatingAdd32 base (base * ((siegeTariff : ℤ) - 10).natAbs / 100 % 2 ^ 32)) =
          (if siegeTariff < 10 then base - base * ((siegeTariff : ℤ) - 10).natAbs / 100
          else base + base * ((siegeTariff : ℤ) - 10).natAbs / 100) ↔
        base * ((siegeTariff : ℤ) - 10).natAbs / 100 < 2 ^ 32) := by
  have hcoin : COIN_MAX = 2100000000 := rfl
  by_cases hlow : siegeTariff < 10
  · have hsmall : base * ((siegeTariff : ℤ) - 10).natAbs ≤ base * 10 :=
      Nat.mul_le_mul_left _ (by omega)
    rw [if_pos (show (siegeTariff : ℤ) - 10 < 0 by omega), if_pos hlow]
    omega
  · rw [if_neg (show ¬ (siegeTariff : ℤ) - 10 < 0 by omega)] at h ⊢
    rw [if_neg hlow]
    exact markup_le h

theorem calculateItemTax_le {base kingTariff siegeTariff : ℕ} {zoneType : TaxZoneType}
    (hbase : base ≤ COIN_MAX)
    (h : (calculateItemTax base zoneType kingTariff siegeTariff).1 ≤ COIN_MAX) :
    (calculateItemTax base zoneType kingTariff siegeTariff).1 ≤
        taxedPrice base zoneType kingTariff siegeTariff ∧
      ((calculateItemTax base zoneType kingTariff siegeTariff).1 =
          taxedPrice base zoneType kingTariff siegeTariff ↔
        taxOf base zoneType kingTariff siegeTariff < 2 ^ 32) := by
  cases zoneType with
  | kingTariff => exact markup_le h
  | siegeMoradon =>
    simp only [calculateItemTax, apply_ite Prod.fst] at h ⊢
    exact adjusted_le hbase h
  | siegeDelos =>
    simp only [calculateItemTax, apply_ite Prod.fst] at h ⊢
    exact adjusted_le hbase h
  | noTax => simp [calculateItemTax, taxedPrice, taxOf]

end Prices

section Entries

variable (ctx : NpcBuyContext) (s : NpcBuyState) (isLoyalty : Bool)

/-- An entry as the validation and the execution see it. -/
def BuyEntry.item (e : BuyEntry) : TradeItem := ⟨e.itemId, e.invPos, e.count, 0⟩

def TradeItem.dest (item : TradeItem) : ℕ := SLOT_MAX + item.invPos

def listPrice (e : TradeItem) : ℕ :=
  match ctx.table e.itemId with
  | none => 0
  | some itemDef => shopPrice isLoyalty itemDef * e.count

def entryTax (e : TradeItem) : ℕ :=
  if !isLoyalty && !isTaxExempt e.itemId then
    taxOf (listPrice ctx isLoyalty e) (zoneTaxType ctx isLoyalty) (kingTariffOf s)
      (activeSiegeTariff s.siege (zoneTaxType ctx isLoyalty))
  else 0

def entryCost (e : TradeItem) : ℕ :=
  if !isLoyalty && !isTaxExempt e.itemId then
    taxedPrice (listPrice ctx isLoyalty e) (zoneTaxType ctx isLoyalty) (kingTariffOf s)
      (activeSiegeTariff s.siege (zoneTaxType ctx isLoyalty))
  else listPrice ctx isLoyalty e

def charged (e : TradeItem) : ℕ :=
  match ctx.table e.itemId with
  | none => 0
  | some itemDef =>
    (transactionPrice ctx s isLoyalty e.itemId (basePrice isLoyalty itemDef e.count)).1

def boughtWeight (e : TradeItem) : ℕ :=
  match ctx.table e.itemId with
  | none => 0
  | some itemDef => saturatingMul32 (asU32 (itemDef.weight.getD 0)) e.count

/-- An entry passes the checks that are about it alone. -/
def Buyable (e : TradeItem) : Prop :=
  ∃ itemDef, ctx.table e.itemId = some itemDef ∧
    basePrice isLoyalty itemDef e.count ≤ COIN_MAX ∧
    buySlotError itemDef (s.inventory.slot e.dest) e = none

variable {ctx s isLoyalty}

theorem charged_le {e : TradeItem} (he : Buyable ctx s isLoyalty e) (hcount : e.count < ITEMCOUNT_MAX)
    (hle : charged ctx s isLoyalty e ≤ COIN_MAX) :
    charged ctx s isLoyalty e ≤ entryCost ctx s isLoyalty e ∧
      (charged ctx s isLoyalty e = entryCost ctx s isLoyalty e ↔
        entryTax ctx s isLoyalty e < 2 ^ 32) := by
  obtain ⟨itemDef, hdef, hbase, -⟩ := he
  have hcoin : COIN_MAX = 2100000000 := rfl
  have hlist : basePrice isLoyalty itemDef e.count = listPrice ctx isLoyalty e := by
    rw [basePrice_eq isLoyalty itemDef hcount hbase, listPrice, hdef]
  have hsmall : basePrice isLoyalty itemDef e.count % 2 ^ 32 = listPrice ctx isLoyalty e := by
    rw [← hlist]
    exact Nat.mod_eq_of_lt (by omega)
  simp only [charged, hdef, transactionPrice] at hle ⊢
  rw [hsmall, hlist] at hle ⊢
  unfold entryCost entryTax
  split_ifs at hle ⊢ with happlies
  · exact calculateItemTax_le (hlist ▸ hbase) hle
  · simp

end Entries

section Checks

variable {ctx : NpcBuyContext} {s : NpcBuyState} {isLoyalty : Bool}

theorem parseBuyItems_eq (ctx : NpcBuyContext) (sellingGroup : ℕ) (entries : List BuyEntry) :
    (∃ code, parseBuyItems ctx sellingGroup entries = .error code ∧
        ∃ e ∈ entries, buyEntryError ctx sellingGroup e ≠ none) ∨
      parseBuyItems ctx sellingGroup entries = .ok (entries.map BuyEntry.item) ∧
        ∀ e ∈ entries, buyEntryError ctx sellingGroup e = none := by
  induction entries with
  | nil => exact Or.inr ⟨rfl, by simp⟩
  | cons e entries ih =>
    unfold parseBuyItems
    cases herror : buyEntryError ctx sellingGroup e with
    | some code => exact Or.inl ⟨code, rfl, e, List.mem_cons_self, by rw [herror]; simp⟩
    | none =>
      rcases ih with ⟨code, heq, e', hmem, hbad⟩ | ⟨heq, hall⟩
      · rw [heq]
        exact Or.inl ⟨code, rfl, e', List.mem_cons_of_mem _ hmem, hbad⟩
      · rw [heq]
        exact Or.inr ⟨rfl, List.forall_mem_cons.mpr ⟨herror, hall⟩⟩

theorem samePosTwice_eq_false {items : List TradeItem} :
    samePosTwice items = false ↔ (items.map TradeItem.invPos).Nodup := by
  induction items with
  | nil => simp [samePosTwice]
  | cons item items ih =>
    rw [samePosTwice, Bool.or_eq_false_iff, ih, List.map_cons, List.nodup_cons]
    refine and_congr_left fun _ => ?_
    rw [List.any_eq_false, List.mem_map, not_exists]
    refine forall_congr' fun other => ?_
    rw [decide_eq_true_eq, not_and, eq_comm]

/-- The weight the code compares with the limit. -/
def loadedWeight (ctx : NpcBuyContext) (weight : ℕ) : ℕ :=
  saturatingAdd32 (min weight (2 ^ 32 - 1)) ctx.itemWeight

theorem loadedWeight_mono {w w' : ℕ} (h : w ≤ w') : loadedWeight ctx w ≤ loadedWeight ctx w' := by
  unfold loadedWeight saturatingAdd32
  omega

def WithinLimits (ctx : NpcBuyContext) (price weight : ℕ) : Prop :=
  price ≤ COIN_MAX ∧ loadedWeight ctx weight ≤ ctx.maxWeight

@[simp] theorem addTax_totalPrice (t : BuyTotals) (zoneType : TaxZoneType) (tax : ℤ) :
    (t.addTax zoneType tax).totalPrice = t.totalPrice := rfl

@[simp] theorem addTax_totalWeight (t : BuyTotals) (zoneType : TaxZoneType) (tax : ℤ) :
    (t.addTax zoneType tax).totalWeight = t.totalWeight := rfl

/-- One turn of the validation, with `w` the sum of the weights so far. -/
theorem checkBuyItem_spec {t : BuyTotals} (e : TradeItem) {w : ℕ}
    (hw : t.totalWeight = min w (2 ^ 32 - 1)) :
    (∃ code, checkBuyItem ctx s isLoyalty t e = .error code ∧
        ¬ (Buyable ctx s isLoyalty e ∧ WithinLimits ctx
          (t.totalPrice + charged ctx s isLoyalty e) (w + boughtWeight ctx e))) ∨
      ∃ t' b, checkBuyItem ctx s isLoyalty t e = .ok (t', { e with buyPrice := b }) ∧
        (Buyable ctx s isLoyalty e ∧ WithinLimits ctx
          (t.totalPrice + charged ctx s isLoyalty e) (w + boughtWeight ctx e)) ∧
        t'.totalPrice = t.totalPrice + charged ctx s isLoyalty e ∧
        t'.totalWeight = min (w + boughtWeight ctx e) (2 ^ 32 - 1) := by
  unfold checkBuyItem
  cases hdef : ctx.table e.itemId with
  | none =>
    refine Or.inl ⟨24, rfl, ?_⟩
    rintro ⟨⟨itemDef, hsome, -⟩, -⟩
    rw [hdef] at hsome
    cases hsome
  | some itemDef =>
    have hbuyable : Buyable ctx s isLoyalty e ↔ basePrice isLoyalty itemDef e.count ≤ COIN_MAX ∧
        buySlotError itemDef (s.inventory.slot e.dest) e = none := by
      simp [Buyable, hdef]
    have hcharged : charged ctx s isLoyalty e =
        (transactionPrice ctx s isLoyalty e.itemId (basePrice isLoyalty itemDef e.count)).1 := by
      simp only [charged, hdef]
    have hweight : saturatingAdd32 t.totalWeight
        (saturatingMul32 (asU32 (itemDef.weight.getD 0)) e.count) =
          min (w + boughtWeight ctx e) (2 ^ 32 - 1) := by
      simp only [boughtWeight, hdef, hw, saturatingAdd32]
      omega
    have hdest : SLOT_MAX + e.invPos = e.dest := rfl
    simp only [addTax_totalPrice, addTax_totalWeight, hweight, ← hcharged, hbuyable, hdest]
    unfold WithinLimits
    split_ifs with hbase hprice htotal hheavy
    · exact Or.inl ⟨25, rfl, fun h => absurd h.1.1 (not_le.mpr hbase)⟩
    · exact Or.inl ⟨26, rfl, fun h => absurd h.2.1 (by omega)⟩
    · exact Or.inl ⟨27, rfl, fun h => absurd h.2.1 (not_le.mpr htotal)⟩
    · exact Or.inl ⟨4, rfl, fun h => absurd h.2.2 (not_le.mpr hheavy)⟩
    · cases hslot : buySlotError itemDef (s.inventory.slot e.dest) e with
      | some code => exact Or.inl ⟨code, rfl, fun h => by cases h.1.2⟩
      | none =>
        exact Or.inr ⟨_, _, rfl, ⟨⟨not_lt.mp hbase, rfl⟩, not_lt.mp htotal, not_lt.mp hheavy⟩,
          rfl, rfl⟩

/-- The whole validation, which only the execution's view of the entries outlives. -/
theorem checkBuyItems_spec {t : BuyTotals} (items : List TradeItem) {w : ℕ}
    (hw : t.totalWeight = min w (2 ^ 32 - 1)) :
    (∃ code, checkBuyItems ctx s isLoyalty t items = .error code ∧
        ¬ ((∀ e ∈ items, Buyable ctx s isLoyalty e) ∧ (items ≠ [] → WithinLimits ctx
          (t.totalPrice + Tally.total (charged ctx s isLoyalty) items)
          (w + Tally.total (boughtWeight ctx) items)))) ∨
      ∃ t' items', checkBuyItems ctx s isLoyalty t items = .ok (t', items') ∧
        ((∀ e ∈ items, Buyable ctx s isLoyalty e) ∧ (items ≠ [] → WithinLimits ctx
          (t.totalPrice + Tally.total (charged ctx s isLoyalty) items)
          (w + Tally.total (boughtWeight ctx) items))) ∧
        t'.totalPrice = t.totalPrice + Tally.total (charged ctx s isLoyalty) items ∧
        ∀ s', items'.foldl (giveBought ctx) s' = items.foldl (giveBought ctx) s' := by
  induction items generalizing t w with
  | nil => exact Or.inr ⟨t, [], rfl, ⟨by simp, fun h => absurd rfl h⟩, rfl, fun _ => rfl⟩
  | cons e items ih =>
    have hcons : (e :: items) ≠ [] := List.cons_ne_nil _ _
    rw [List.forall_mem_cons]
    simp only [hcons, ne_eq, not_false_eq_true, true_implies, Tally.total_cons]
    simp only [checkBuyItems]
    rcases checkBuyItem_spec e hw with ⟨code, heq, hbad⟩ | ⟨t1, b, heq, ⟨hbuy, hlimits⟩, hp, hw1⟩
    · rw [heq]
      refine Or.inl ⟨code, rfl, fun h => hbad ⟨h.1.1, ?_, ?_⟩⟩
      · exact le_trans (by omega) h.2.1
      · exact (loadedWeight_mono (by omega)).trans h.2.2
    · rw [heq]
      dsimp only
      rcases ih hw1 with ⟨code, heq', hbad⟩ | ⟨t', items', heq', ⟨hall, hlim⟩, hp', hfold⟩
      · rw [heq']
        refine Or.inl ⟨code, rfl, fun h => hbad ⟨h.1.2, fun _ => ?_⟩⟩
        rw [hp, Nat.add_assoc, Nat.add_assoc]
        exact h.2
      · rw [heq']
        refine Or.inr ⟨t', _, rfl, ⟨⟨hbuy, hall⟩, ?_⟩, by rw [hp', hp, Nat.add_assoc],
          fun s' => hfold _⟩
        by_cases hnil : items = []
        · subst hnil
          exact hlimits
        · have := hlim hnil
          rwa [hp, Nat.add_assoc, Nat.add_assoc] at this

end Checks

section Delivery

variable {ctx : NpcBuyContext} {s : NpcBuyState}

@[simp] theorem giveBought_length (s : NpcBuyState) (item : TradeItem) :
    (giveBought ctx s item).inventory.length = s.inventory.length := by
  unfold giveBought
  split_ifs
  · rfl
  · split
    · rfl
    · dsimp only
      split_ifs <;> simp

theorem giveBought_other {item : TradeItem} {i : ℕ} (h : item.dest ≠ i) :
    (giveBought ctx s item).inventory.slot i = s.inventory.slot i := by
  unfold giveBought
  split_ifs
  · rfl
  · split
    · rfl
    · dsimp only
      split_ifs
      · rfl
      · exact Inventory.slot_set_ne h _

theorem giveBought_own {item : TradeItem} {itemDef : ShopItem} (hid : item.itemId ≠ 0)
    (hdef : ctx.table item.itemId = some itemDef) (hrange : item.dest < s.inventory.length) :
    ∃ serial, (giveBought ctx s item).inventory.slot item.dest =
      boughtSlot itemDef serial item (s.inventory.slot item.dest) := by
  refine ⟨s.nextItemSerial, ?_⟩
  unfold giveBought
  rw [if_neg hid, hdef]
  dsimp only
  rw [if_neg (show ¬ s.inventory.length ≤ SLOT_MAX + item.invPos from not_le.mpr hrange)]
  exact Inventory.slot_set_self hrange _

@[simp] theorem foldl_giveBought_length (items : List TradeItem) :
    (items.foldl (giveBought ctx) s).inventory.length = s.inventory.length := by
  induction items generalizing s with
  | nil => rfl
  | cons item items ih => rw [List.foldl_cons, ih, giveBought_length]

theorem foldl_giveBought_other {items : List TradeItem} {i : ℕ} (h : ∀ e ∈ items, e.dest ≠ i) :
    (items.foldl (giveBought ctx) s).inventory.slot i = s.inventory.slot i := by
  induction items generalizing s with
  | nil => rfl
  | cons item items ih =>
    obtain ⟨hitem, hitems⟩ := List.forall_mem_cons.mp h
    rw [List.foldl_cons, ih hitems, giveBought_other hitem]

/-- Each destination is written by its own entry, as no two entries share one. -/
theorem foldl_giveBought_own {items : List TradeItem} {item : TradeItem} {itemDef : ShopItem}
    (hapart : (items.map TradeItem.invPos).Nodup) (hmem : item ∈ items) (hid : item.itemId ≠ 0)
    (hdef : ctx.table item.itemId = some itemDef) (hrange : item.dest < s.inventory.length) :
    ∃ serial, (items.foldl (giveBought ctx) s).inventory.slot item.dest =
      boughtSlot itemDef serial item (s.inventory.slot item.dest) := by
  induction items generalizing s with
  | nil => cases hmem
  | cons first items ih =>
    rw [List.map_cons, List.nodup_cons] at hapart
    obtain ⟨hfirst, hapart⟩ := hapart
    have hdest (e : TradeItem) (he : e ∈ items) : e.dest ≠ first.dest := by
      intro heq
      have hpos : e.invPos = first.invPos := Nat.add_left_cancel heq
      exact hfirst (hpos ▸ List.mem_map_of_mem he)
    rw [List.foldl_cons]
    rcases List.mem_cons.mp hmem with rfl | hmem
    · obtain ⟨serial, hown⟩ := giveBought_own hid hdef hrange
      exact ⟨serial, (foldl_giveBought_other hdest).trans hown⟩
    · obtain ⟨serial, hown⟩ := ih hapart hmem (s := giveBought ctx s first) (by simpa using hrange)
      exact ⟨serial, by rw [hown, giveBought_other (hdest item hmem).symm]⟩

structure TakesWhole (ctx : NpcBuyContext) (inv : Inventory) (item : TradeItem) : Prop where
  inRange : item.dest < inv.length
  single : ∀ itemDef ∈ ctx.table item.itemId, itemDef.countableD = 0 → item.count = 1
  /-- A slot without an item has a counter of 0, and a stack stays within the limit. -/
  room : ∀ itemDef ∈ ctx.table item.itemId, itemDef.countableD ≠ 0 →
    if (inv.slot item.dest).itemId = 0 then (inv.slot item.dest).count % 2 ^ 16 = 0
    else (inv.slot item.dest).count + item.count ≤ ITEMCOUNT_MAX

theorem not_buySlotError {itemDef : ShopItem} {slot : UserItemSlot} {item : TradeItem}
    (h : buySlotError itemDef slot item = none) :
    slot.itemId = 0 ∨ slot.itemId = item.itemId ∧ itemDef.countableD ≠ 0 := by
  unfold buySlotError at h
  split_ifs at h with hempty hsame hcount
  · exact Or.inr ⟨not_not.mp hsame, fun hzero => hcount (Or.inl hzero)⟩
  · exact Or.inl (not_not.mp hempty)

theorem stack_boughtSlot_iff {itemDef : ShopItem} {serial : ℕ} {slot : UserItemSlot}
    {item : TradeItem} (hid : item.itemId ≠ 0) (hcount : item.count < ITEMCOUNT_MAX)
    (hslot : buySlotError itemDef slot item = none) :
    stack item.itemId (boughtSlot itemDef serial item slot) =
        stack item.itemId slot + item.count ↔
      (itemDef.countableD = 0 → item.count = 1) ∧
        (itemDef.countableD ≠ 0 → if slot.itemId = 0 then slot.count % 2 ^ 16 = 0
          else slot.count + item.count ≤ ITEMCOUNT_MAX) := by
  have hmax : ITEMCOUNT_MAX = 9999 := rfl
  have hafter : stack item.itemId (boughtSlot itemDef serial item slot) =
      if itemDef.countableD = 0 then 1
      else min ((slot.count + item.count) % 2 ^ 16) ITEMCOUNT_MAX := stack_of_same rfl
  rw [hafter]
  rcases not_buySlotError hslot with hempty | ⟨hsame, hstacks⟩
  · have hbefore : stack item.itemId slot = 0 := stack_of_other hempty hid
    rw [hbefore, if_pos hempty]
    by_cases hsingle : itemDef.countableD = 0
    · simp only [hsingle, if_true, true_implies, ne_eq, not_true_eq_false, false_implies, and_true]
      omega
    · simp only [hsingle, if_false, false_implies, ne_eq, not_false_eq_true, true_implies, true_and]
      omega
  · have hbefore : stack item.itemId slot = slot.count := stack_of_same hsame
    have hheld : slot.itemId ≠ 0 := hsame ▸ hid
    rw [hbefore, if_neg hheld]
    simp only [hstacks, if_false, false_implies, ne_eq, not_false_eq_true, true_implies, true_and]
    omega

theorem bought_iff {items : List TradeItem} {item : TradeItem} {isLoyalty : Bool}
    {base : NpcBuyState} (hapart : (items.map TradeItem.invPos).Nodup) (hmem : item ∈ items)
    (hid : item.itemId ≠ 0) (hpos : 0 < item.count) (hcount : item.count < ITEMCOUNT_MAX)
    (hbuy : Buyable ctx base isLoyalty item) (hinv : s.inventory = base.inventory) :
    stack item.itemId ((items.foldl (giveBought ctx) s).inventory.slot item.dest) =
        stack item.itemId (base.inventory.slot item.dest) + item.count ↔
      TakesWhole ctx base.inventory item := by
  obtain ⟨itemDef, hdef, -, hslot⟩ := hbuy
  rcases Nat.lt_or_ge item.dest base.inventory.length with hrange | hout
  · obtain ⟨serial, hown⟩ := foldl_giveBought_own hapart hmem hid hdef (hinv ▸ hrange)
    rw [hown, hinv, stack_boughtSlot_iff hid hcount hslot]
    constructor
    · rintro ⟨hsingle, hroom⟩
      refine ⟨hrange, fun d hd => ?_, fun d hd => ?_⟩
      · obtain rfl := Option.some.inj (hdef.symm.trans hd)
        exact hsingle
      · obtain rfl := Option.some.inj (hdef.symm.trans hd)
        exact hroom
    · exact fun h => ⟨h.single itemDef hdef, h.room itemDef hdef⟩
  · have hempty (l : Inventory) (hl : l.length ≤ item.dest) : stack item.itemId (l.slot item.dest) = 0 := by
      rw [Inventory.slot, List.getD_eq_default _ _ hl]
      exact stack_of_other rfl hid
    have hlen : (items.foldl (giveBought ctx) s).inventory.length ≤ item.dest := by
      rwa [foldl_giveBought_length, hinv]
    rw [hempty _ hout, hempty _ hlen]
    exact ⟨fun h => by omega, fun h => absurd h.inRange (not_lt.mpr hout)⟩

end Delivery

section Purchase

variable (ctx : NpcBuyContext) (s : NpcBuyState) (isLoyalty : Bool)

structure BuyAllowed (sellingGroup : ℕ) (entries : List BuyEntry) : Prop where
  wellFormed : ∀ e ∈ entries, buyEntryError ctx sellingGroup e = none
  apart : (entries.map BuyEntry.invPos).Nodup
  buyable : ∀ e ∈ entries, Buyable ctx s isLoyalty e.item
  withinLimits : entries ≠ [] → WithinLimits ctx
    (Tally.total (charged ctx s isLoyalty) (entries.map BuyEntry.item))
    (Tally.total (boughtWeight ctx) (entries.map BuyEntry.item))
  hasCharacter : ctx.hasCharacter = true
  affordable : Tally.total (charged ctx s isLoyalty) (entries.map BuyEntry.item) ≤
    s.currency isLoyalty

structure Bought (entries : List BuyEntry) (s' : NpcBuyState) : Prop where
  paid : s'.currency isLoyalty +
    Tally.total (fun e => entryCost ctx s isLoyalty e.item) entries = s.currency isLoyalty
  otherCurrency : s'.currency (!isLoyalty) = s.currency (!isLoyalty)
  delivered : ∀ e ∈ entries, stack e.itemId (s'.inventory.slot (SLOT_MAX + e.invPos)) =
    stack e.itemId (s.inventory.slot (SLOT_MAX + e.invPos)) + e.count

/-- A purchase that succeeds is exact, and one that fails leaves currency and inventory. -/
def BuyExact (reader : PacketReader) (itemCount sellingGroup : ℕ) : Prop :=
  match handleBuy ctx s reader itemCount sellingGroup isLoyalty with
  | (.fail _, s') => s'.inventory = s.inventory ∧ s'.gold = s.gold ∧ s'.loyalty = s.loyalty
  | (.success _ _ _, s') => Bought ctx s isLoyalty (readBuyEntries itemCount reader) s'

variable {ctx s isLoyalty}

@[simp] theorem giveBought_currency (l : Bool) (item : TradeItem) :
    (giveBought ctx s item).currency l = s.currency l := by
  unfold giveBought
  split_ifs
  · rfl
  · split
    · rfl
    · dsimp only
      split_ifs <;> rfl

@[simp] theorem foldl_giveBought_currency (l : Bool) (items : List TradeItem) :
    (items.foldl (giveBought ctx) s).currency l = s.currency l := by
  induction items generalizing s with
  | nil => rfl
  | cons item items ih => rw [List.foldl_cons, ih, giveBought_currency]

@[simp] theorem collectTaxes_inventory (zoneType : TaxZoneType) (t : BuyTotals) :
    (collectTaxes s zoneType t).inventory = s.inventory := by
  unfold collectTaxes
  dsimp only
  split_ifs <;> rfl

@[simp] theorem collectTaxes_currency (l : Bool) (zoneType : TaxZoneType) (t : BuyTotals) :
    (collectTaxes s zoneType t).currency l = s.currency l := by
  unfold collectTaxes
  dsimp only
  split_ifs <;> rfl

@[simp] theorem payForBuy_inventory (totalPrice : ℕ) :
    (payForBuy s isLoyalty totalPrice).inventory = s.inventory := by
  unfold payForBuy
  split_ifs <;> rfl

theorem payForBuy_currency {totalPrice : ℕ} (hsmall : totalPrice < 2 ^ 32)
    (hle : totalPrice ≤ s.currency isLoyalty) :
    (payForBuy s isLoyalty totalPrice).currency isLoyalty + totalPrice = s.currency isLoyalty ∧
      (payForBuy s isLoyalty totalPrice).currency (!isLoyalty) = s.currency (!isLoyalty) := by
  unfold payForBuy
  rw [Nat.mod_eq_of_lt hsmall]
  cases isLoyalty with
  | true => exact ⟨Nat.sub_add_cancel hle, rfl⟩
  | false =>
    have hgold : goldLose s.gold totalPrice = some (s.gold - totalPrice) := if_pos hle
    simp only [hgold, Option.getD_some]
    exact ⟨Nat.sub_add_cancel hle, rfl⟩

theorem BuyAllowed.total_le {sellingGroup : ℕ} {entries : List BuyEntry}
    (h : BuyAllowed ctx s isLoyalty sellingGroup entries) :
    Tally.total (charged ctx s isLoyalty) (entries.map BuyEntry.item) ≤ COIN_MAX := by
  by_cases hnil : entries = []
  · subst hnil
    exact Nat.zero_le _
  · exact (h.withinLimits hnil).1

/-- A purchase is refused and changes nothing, or it is allowed and carried out. -/
theorem handleBuy_spec (reader : PacketReader) (itemCount sellingGroup : ℕ) :
    (∃ code, handleBuy ctx s reader itemCount sellingGroup isLoyalty = (.fail code, s) ∧
        ¬ BuyAllowed ctx s isLoyalty sellingGroup (readBuyEntries itemCount reader)) ∨
      ∃ after price group s',
        handleBuy ctx s reader itemCount sellingGroup isLoyalty = (.success after price group, s') ∧
        BuyAllowed ctx s isLoyalty sellingGroup (readBuyEntries itemCount reader) ∧
        s'.inventory = (((readBuyEntries itemCount reader).map BuyEntry.item).foldl
          (giveBought ctx) (payForBuy s isLoyalty (Tally.total (charged ctx s isLoyalty)
            ((readBuyEntries itemCount reader).map BuyEntry.item)))).inventory ∧
        ∀ l, s'.currency l = (payForBuy s isLoyalty (Tally.total (charged ctx s isLoyalty)
          ((readBuyEntries itemCount reader).map BuyEntry.item))).currency l := by
  unfold handleBuy
  generalize readBuyEntries itemCount reader = entries
  have hpos : (entries.map BuyEntry.item).map TradeItem.invPos = entries.map BuyEntry.invPos := by
    rw [List.map_map]
    rfl
  have hbuyable : (∀ e ∈ entries.map BuyEntry.item, Buyable ctx s isLoyalty e) ↔
      ∀ e ∈ entries, Buyable ctx s isLoyalty e.item := List.forall_mem_map
  rcases parseBuyItems_eq ctx sellingGroup entries with ⟨code, heq, e, hmem, hbad⟩ | ⟨heq, hgood⟩
  · rw [heq]
    exact Or.inl ⟨code, rfl, fun h => hbad (h.wellFormed e hmem)⟩
  rw [heq]
  dsimp only
  cases htwice : samePosTwice (entries.map BuyEntry.item) with
  | true =>
    refine Or.inl ⟨23, rfl, fun h => ?_⟩
    rw [samePosTwice_eq_false.mpr (hpos ▸ h.apart)] at htwice
    cases htwice
  | false =>
    have hapart := hpos ▸ samePosTwice_eq_false.mp htwice
    rw [if_neg (by decide)]
    rcases checkBuyItems_spec (t := {}) (w := 0) (entries.map BuyEntry.item) rfl with
      ⟨code, hcheck, hbad⟩ | ⟨t', items', hcheck, ⟨hbuy, hlimits⟩, hprice, hfold⟩
    · rw [hcheck]
      refine Or.inl ⟨code, rfl, fun h => hbad ⟨hbuyable.mpr h.buyable, fun hne => ?_⟩⟩
      rw [Nat.zero_add, Nat.zero_add]
      exact h.withinLimits (by simpa using hne)
    · rw [hcheck]
      simp only [Nat.zero_add] at hprice hlimits
      have hlimits' (hne : entries ≠ []) := hlimits (by simpa using hne)
      have htotal : t'.totalPrice % 2 ^ 32 =
          Tally.total (charged ctx s isLoyalty) (entries.map BuyEntry.item) := by
        rw [hprice]
        refine Nat.mod_eq_of_lt (lt_of_le_of_lt ?_ (show COIN_MAX < 2 ^ 32 by decide))
        by_cases hnil : entries = []
        · subst hnil
          exact Nat.zero_le _
        · exact (hlimits' hnil).1
      dsimp only
      rw [htotal, hprice]
      cases hchar : ctx.hasCharacter with
      | false => exact Or.inl ⟨1, rfl, fun h => by simp [h.hasCharacter] at hchar⟩
      | true =>
        rw [if_neg (by decide)]
        by_cases hpoor : s.currency isLoyalty <
            Tally.total (charged ctx s isLoyalty) (entries.map BuyEntry.item)
        · rw [if_pos hpoor]
          exact Or.inl ⟨3, rfl, fun h => absurd h.affordable (not_le.mpr hpoor)⟩
        · rw [if_neg hpoor]
          refine Or.inr ⟨_, _, _, _, rfl,
            ⟨hgood, hapart, hbuyable.mp hbuy, hlimits', hchar, not_lt.mp hpoor⟩, ?_, fun l => ?_⟩
          · rw [collectTaxes_inventory, hfold]
          · rw [collectTaxes_currency, foldl_giveBought_currency]

theorem not_buyEntryError {sellingGroup : ℕ} {e : BuyEntry}
    (h : buyEntryError ctx sellingGroup e = none) :
    e.itemId ≠ 0 ∧ 0 < e.count ∧ e.count < ITEMCOUNT_MAX := by
  unfold buyEntryError at h
  split_ifs at h with hfields
  rw [not_or, not_or, not_or] at hfields
  exact ⟨hfields.1, Nat.pos_of_ne_zero hfields.2.1, not_le.mp hfields.2.2.2⟩

theorem handleBuyRequest_fail {reader : PacketReader} {group code : ℕ} {s' : NpcBuyState}
    (h : handleBuyRequest ctx s reader group = (.fail code, s')) : s' = s := by
  unfold handleBuyRequest at h
  dsimp only at h
  by_cases hcount : reader.readU8D.1 = 0 ∨ 24 < reader.readU8D.1
  · rw [if_pos hcount] at h
    exact (Prod.mk.inj h).2.symm
  rw [if_neg hcount] at h
  rcases @handleBuy_spec ctx s (group = LOYALTY_SELLING_GROUP) reader.readU8D.2 reader.readU8D.1
    group with ⟨code', heq, -⟩ | ⟨after, price, loyaltyGroup, s'', heq, -⟩
  · rw [heq] at h
    exact (Prod.mk.inj h).2.symm
  · rw [heq] at h
    cases (Prod.mk.inj h).1

theorem charged_total_iff {sellingGroup : ℕ} {entries : List BuyEntry}
    (h : BuyAllowed ctx s isLoyalty sellingGroup entries) :
    Tally.total (charged ctx s isLoyalty) (entries.map BuyEntry.item) =
        Tally.total (fun e => entryCost ctx s isLoyalty e.item) entries ↔
      ∀ e ∈ entries, entryTax ctx s isLoyalty e.item < 2 ^ 32 := by
  have hone (e : BuyEntry) (he : e ∈ entries) := by
    refine charged_le (h.buyable e he) (not_buyEntryError (h.wellFormed e he)).2.2 ?_
    exact (Tally.le_total _ (List.mem_map_of_mem he)).trans h.total_le
  have hmap : Tally.total (charged ctx s isLoyalty) (entries.map BuyEntry.item) =
      Tally.total (fun e : BuyEntry => charged ctx s isLoyalty e.item) entries :=
    Tally.total_map _ _ _
  rw [hmap, Tally.total_eq_total_iff _ fun e he => (hone e he).1]
  exact forall₂_congr fun e he => (hone e he).2

/-- A purchase is exact just when it is refused, or every destination can take its count and
every tax fits 32 bits. -/
theorem npc_buy_exact_iff (ctx : NpcBuyContext) (s : NpcBuyState) (isLoyalty : Bool)
    (reader : PacketReader) (itemCount sellingGroup : ℕ) :
    BuyExact ctx s isLoyalty reader itemCount sellingGroup ↔
      (BuyAllowed ctx s isLoyalty sellingGroup (readBuyEntries itemCount reader) →
        ∀ e ∈ readBuyEntries itemCount reader, TakesWhole ctx s.inventory e.item ∧
          entryTax ctx s isLoyalty e.item < 2 ^ 32) := by
  unfold BuyExact
  rcases @handleBuy_spec ctx s isLoyalty reader itemCount sellingGroup with
    ⟨code, heq, hnot⟩ | ⟨after, price, group, s', heq, hallowed, hinv, hcurrency⟩
  · rw [heq]
    exact ⟨fun _ h => absurd h hnot, fun _ => ⟨rfl, rfl, rfl⟩⟩
  rw [heq]
  dsimp only
  generalize readBuyEntries itemCount reader = entries at *
  have hapart : ((entries.map BuyEntry.item).map TradeItem.invPos).Nodup := by
    rw [List.map_map]
    exact hallowed.apart
  obtain ⟨hpaid, hother⟩ :=
    payForBuy_currency (hallowed.total_le.trans_lt (by decide)) hallowed.affordable
  rw [← hcurrency] at hpaid hother
  have hdelivered (e : BuyEntry) (he : e ∈ entries) :
      stack e.itemId (s'.inventory.slot (SLOT_MAX + e.invPos)) =
          stack e.itemId (s.inventory.slot (SLOT_MAX + e.invPos)) + e.count ↔
        TakesWhole ctx s.inventory e.item := by
    obtain ⟨hid, hpos, hcount⟩ := not_buyEntryError (hallowed.wellFormed e he)
    rw [hinv]
    exact bought_iff hapart (List.mem_map_of_mem he) hid hpos hcount (hallowed.buyable e he)
      (payForBuy_inventory _)
  constructor
  · rintro ⟨hcost, -, hall⟩ - e he
    exact ⟨(hdelivered e he).mp (hall e he),
      (charged_total_iff hallowed).mp (by omega) e he⟩
  · intro h
    have hgood := h hallowed
    refine ⟨?_, hother, fun e he => (hdelivered e he).mpr (hgood e he).1⟩
    rw [← (charged_total_iff hallowed).mpr fun e he => (hgood e he).2]
    exact hpaid

end Purchase

/-! A shop in a zone without taxes sells potions and, by the piece, daggers. -/

def potionRow : ShopItem where
  countable := some 1
  buyPrice := some 50
  buyPrice_i32 := by decide
  npBuyPrice_i32 := by decide

def daggerRow : ShopItem where
  buyPrice := some 300
  duration := some 1000
  buyPrice_i32 := by decide
  npBuyPrice_i32 := by decide

def townShop : NpcBuyContext where
  table := fun id =>
    if id = 389010000 then some potionRow else if id = 110110001 then some daggerRow else none
  itemSellTable := fun group => if group = 101 then [[389010000, 110110001]] else []
  zoneId := 55
  itemWeight := 0
  maxWeight := 1000
  hasCharacter := true

def townCustomer : NpcBuyState where
  inventory := List.replicate INVENTORY_TOTAL {}
  gold := 2000
  loyalty := 0
  drGmTotalSold := 0
  nextItemSerial := 1
  king := none
  siege := ⟨0, 10, 10, 0, 0, 0⟩

def buyOne (itemId count : ℕ) (index : UInt8) : PacketReader :=
  .new (Bytes.le 4 itemId ++ [0] ++ Bytes.le 2 count ++ [0, index])

/-- Three potions come as three. -/
theorem three_potions_exact :
    BuyExact townShop townCustomer false (buyOne 389010000 3 0) 1 101 := by
  refine (npc_buy_exact_iff townShop townCustomer false (buyOne 389010000 3 0) 1 101).mpr
    fun _ e he => ?_
  have hread : readBuyEntries 1 (buyOne 389010000 3 0) = [⟨389010000, 0, 3, 0, 0⟩] := by decide +kernel
  rw [hread, List.mem_singleton] at he
  subst he
  refine ⟨⟨by decide, fun d hd hzero => ?_, fun d hd _ => by decide⟩, by decide⟩
  obtain rfl : potionRow = d := Option.some.inj hd
  exact absurd hzero (by decide)

/-- Three daggers are paid for, and one is delivered. -/
theorem three_daggers_for_one :
    ¬ BuyExact townShop townCustomer false (buyOne 110110001 3 1) 1 101 := by
  intro h
  have hread : readBuyEntries 1 (buyOne 110110001 3 1) = [⟨110110001, 0, 3, 0, 1⟩] := by decide +kernel
  have hpaid : (handleBuy townShop townCustomer (buyOne 110110001 3 1) 1 101 false).1 =
      .success 1100 900 none := by decide +kernel
  have hone : stack 110110001 ((handleBuy townShop townCustomer
      (buyOne 110110001 3 1) 1 101 false).2.inventory.slot SLOT_MAX) = 1 := by decide +kernel
  unfold BuyExact at h
  rw [hread] at h
  generalize handleBuy townShop townCustomer (buyOne 110110001 3 1) 1 101 false = out at h hpaid hone
  obtain ⟨reply, s'⟩ := out
  obtain rfl := hpaid
  have hdelivered := h.delivered _ (List.mem_singleton_self _)
  rw [show SLOT_MAX + 0 = SLOT_MAX from rfl, hone] at hdelivered
  revert hdelivered
  decide

end KoServer
