import Mathlib.Data.List.Pairwise
import KoServer.Proofs.TradeSession

/-! Where the delivery of a list lands. Every item takes a slot of its own, which can be told
from the bag as it was before the delivery. -/

namespace KoServer

def goods (items : List ExchangeItem) : List ExchangeItem := items.filter (·.itemId ≠ ITEM_GOLD)

/-- What accepted offers make of a list: known items, and one entry for each that stacks. -/
structure Offers (table : ItemTable) (items : List ExchangeItem) : Prop where
  each : ∀ ex ∈ items, ex.itemId ≠ ITEM_GOLD →
    (table ex.itemId).isSome ∧ ex.itemId ≠ 0 ∧ 0 < ex.count
  single : items.Pairwise fun e e' => e.itemId = e'.itemId → countableOf table e.itemId ≤ 0

/-- The first stack that the entry can join. -/
def stackFor (table : ItemTable) (inv : Inventory) (ex : ExchangeItem) : Option ℕ :=
  if 0 < countableOf table ex.itemId then
    bagSlots.find? (stackWithRoom inv ex.itemId (asU16 ex.count))
  else none

def placed (table : ItemTable) (dst : UserItemSlot) (ex : ExchangeItem) : UserItemSlot :=
  { dst with
    itemId := ex.itemId
    count :=
      if countableOf table ex.itemId = 0 then 1
      else min ((dst.count + asU16 ex.count) % 2 ^ 16) ITEMCOUNT_MAX
    durability := if dst.itemId = 0 then ex.durability else dst.durability
    serialNum := if dst.itemId = 0 then ex.serialNum else dst.serialNum }

/-- The entry goes to slot `i`: its stack, or an empty slot where there is none. -/
def LandsAt (table : ItemTable) (inv : Inventory) (i : ℕ) (ex : ExchangeItem) : Prop :=
  stackFor table inv ex = some i ∨ stackFor table inv ex = none ∧ freeSlot inv i = true

section

variable {table : ItemTable} {inv inv' : Inventory} {ex e : ExchangeItem} {i j : ℕ}
  {items : List ExchangeItem} {h : Session}

theorem goods_gold (hgold : ex.itemId = ITEM_GOLD) : goods (ex :: items) = goods items := by
  simp [goods, hgold]

theorem goods_item (hgold : ex.itemId ≠ ITEM_GOLD) : goods (ex :: items) = ex :: goods items := by
  simp [goods, hgold]

theorem mem_goods : ex ∈ goods items ↔ ex ∈ items ∧ ex.itemId ≠ ITEM_GOLD := by
  simp [goods]

theorem offers_nil : Offers table [] := ⟨by simp, List.Pairwise.nil⟩

theorem Offers.tail (ho : Offers table (ex :: items)) : Offers table items :=
  ⟨fun e he => ho.each e (List.mem_cons_of_mem ex he), (List.pairwise_cons.mp ho.single).2⟩

theorem Offers.unique (ho : Offers table items) (hex : ex ∈ items) (he : e ∈ items)
    (hid : ex.itemId = e.itemId) (hcountable : 0 < countableOf table ex.itemId) : ex = e := by
  by_contra hne
  have hsymm : Std.Symm fun e e' : ExchangeItem =>
      e.itemId = e'.itemId → countableOf table e.itemId ≤ 0 :=
    ⟨fun _ _ hle hsame => hsame ▸ hle hsame.symm⟩
  have hle := ho.single.forall hex he hne hid
  omega

theorem stackFor_spec (hstack : stackFor table inv ex = some i) :
    0 < countableOf table ex.itemId ∧ i ∈ bagSlots ∧ i < inv.length ∧
      (inv.slot i).itemId = ex.itemId ∧
      ((inv.slot i).count + asU16 ex.count) % 2 ^ 16 ≤ ITEMCOUNT_MAX := by
  unfold stackFor at hstack
  split_ifs at hstack with hcountable
  have hroom := List.find?_some hstack
  simp only [stackWithRoom, Bool.and_eq_true, decide_eq_true_eq] at hroom
  exact ⟨hcountable, List.mem_of_find?_eq_some hstack, hroom.1.1, hroom.1.2, hroom.2⟩

theorem findSlotForItem_eq (hknown : (table ex.itemId).isSome) :
    findSlotForItem table inv ex.itemId (asU16 ex.count) =
      match stackFor table inv ex with
      | some i => some i
      | none => bagSlots.find? (freeSlot inv) := by
  obtain ⟨item, hitem⟩ := Option.isSome_iff_exists.mp hknown
  have hcountable : countableOf table ex.itemId = item.countableD := by
    rw [countableOf, hitem]
    rfl
  unfold findSlotForItem stackFor
  rw [hitem, hcountable]
  dsimp only
  split_ifs
  · rfl
  · rfl

theorem exists_landing (hknown : (table ex.itemId).isSome) (hfree : 0 < countFreeSlots inv) :
    ∃ i, findSlotForItem table inv ex.itemId (asU16 ex.count) = some i ∧ i ∈ bagSlots ∧
      i < inv.length ∧ LandsAt table inv i ex := by
  obtain ⟨i, hfind⟩ := findSlotForItem_isSome (asU16 ex.count) hknown hfree
  have hfind' := hfind
  rw [findSlotForItem_eq hknown] at hfind'
  refine ⟨i, hfind, ?_⟩
  cases hstack : stackFor table inv ex with
  | some j =>
    rw [hstack] at hfind'
    obtain rfl := Option.some.inj hfind'
    obtain ⟨-, hbag, hrange, -⟩ := stackFor_spec hstack
    exact ⟨hbag, hrange, .inl hstack⟩
  | none =>
    rw [hstack] at hfind'
    have hslot := List.find?_some hfind'
    have hrange : i < inv.length := by
      simp only [freeSlot, Bool.and_eq_true, decide_eq_true_eq] at hslot
      exact hslot.1
    exact ⟨List.mem_of_find?_eq_some hfind', hrange, .inr ⟨hstack, hslot⟩⟩

theorem placeItem_set (hrange : i < inv.length) :
    placeItem table inv i ex = inv.set i (placed table (inv.slot i) ex) := by
  unfold placeItem
  rw [if_neg (not_le.mpr hrange)]
  rfl

theorem LandsAt.before (hlands : LandsAt table inv i ex) :
    (inv.slot i).itemId = 0 ∨
      (inv.slot i).itemId = ex.itemId ∧ 0 < countableOf table ex.itemId := by
  rcases hlands with hstack | ⟨-, hfree⟩
  · obtain ⟨hcountable, -, -, hitem, -⟩ := stackFor_spec hstack
    exact .inr ⟨hitem, hcountable⟩
  · simp only [freeSlot, Bool.and_eq_true, decide_eq_true_eq] at hfree
    exact .inl hfree.2

theorem stackFor_set (hlands : LandsAt table inv i ex) (hid : e.itemId ≠ 0)
    (hother : ex.itemId = e.itemId → countableOf table ex.itemId ≤ 0) :
    stackFor table (inv.set i (placed table (inv.slot i) ex)) e = stackFor table inv e := by
  unfold stackFor
  split_ifs with hcountable
  · have hne : ex.itemId ≠ e.itemId := by
      intro hsame
      have hle := hother hsame
      rw [hsame] at hle
      omega
    congr 1
    funext j
    unfold stackWithRoom
    rw [List.length_set]
    rcases eq_or_ne i j with rfl | hj
    · by_cases hrange : i < inv.length
      · have hbefore : (inv.slot i).itemId ≠ e.itemId := by
          rcases hlands.before with hempty | ⟨hsame, -⟩
          · rw [hempty]
            exact hid.symm
          · rw [hsame]
            exact hne
        rw [Inventory.slot_set_self hrange]
        simp [placed, hne, hbefore]
      · simp [hrange]
    · rw [Inventory.slot_set_ne hj]
  · rfl

/-- An item that lands after another one takes another slot, which it finds in the old bag. -/
theorem LandsAt.earlier (hlands : LandsAt table inv i ex) (hrange : i < inv.length)
    (hex : ex.itemId ≠ 0) (hid : e.itemId ≠ 0)
    (hother : ex.itemId = e.itemId → countableOf table ex.itemId ≤ 0)
    (hlater : LandsAt table (inv.set i (placed table (inv.slot i) ex)) j e) :
    i ≠ j ∧ LandsAt table inv j e := by
  have hsame := stackFor_set hlands hid hother
  have hij : i ≠ j := by
    rintro rfl
    rcases hlater.before with hempty | ⟨hitem, hcountable⟩
    · rw [Inventory.slot_set_self hrange] at hempty
      exact hex hempty
    · rw [Inventory.slot_set_self hrange] at hitem
      have hitem' : ex.itemId = e.itemId := hitem
      have hle := hother hitem'
      rw [hitem'] at hle
      omega
  refine ⟨hij, ?_⟩
  rcases hlater with hstack | ⟨hnone, hfree⟩
  · exact .inl (hsame ▸ hstack)
  · refine .inr ⟨hsame ▸ hnone, ?_⟩
    simpa [freeSlot, Inventory.slot_set_ne hij] using hfree

structure Landed (table : ItemTable) (inv inv' : Inventory) (goods : List ExchangeItem)
    (landings : List (ℕ × ExchangeItem)) : Prop where
  all : landings.map Prod.snd = goods
  nodup : (landings.map Prod.fst).Nodup
  lands : ∀ l ∈ landings, l.1 ∈ bagSlots ∧ l.1 < inv.length ∧ LandsAt table inv l.1 l.2
  slots : ∀ l ∈ landings, inv'.slot l.1 = placed table (inv.slot l.1) l.2
  others : ∀ j, j ∉ landings.map Prod.fst → inv'.slot j = inv.slot j

theorem landed_nil : Landed table inv inv [] [] :=
  ⟨rfl, List.nodup_nil, by simp, by simp, fun _ _ => rfl⟩

theorem Landed.cons {landings : List (ℕ × ExchangeItem)} {gs : List ExchangeItem}
    (hbag : i ∈ bagSlots) (hrange : i < inv.length) (hlands : LandsAt table inv i ex)
    (hex : ex.itemId ≠ 0) (hid : ∀ e ∈ gs, e.itemId ≠ 0)
    (hother : ∀ e ∈ gs, ex.itemId = e.itemId → countableOf table ex.itemId ≤ 0)
    (hl : Landed table (inv.set i (placed table (inv.slot i) ex)) inv' gs landings) :
    Landed table inv inv' (ex :: gs) ((i, ex) :: landings) := by
  have hearlier : ∀ l ∈ landings, i ≠ l.1 ∧ LandsAt table inv l.1 l.2 := by
    intro l hmem
    have hgood : l.2 ∈ gs := hl.all ▸ List.mem_map_of_mem hmem
    exact hlands.earlier hrange hex (hid _ hgood) (hother _ hgood) (hl.lands l hmem).2.2
  have hfresh : i ∉ landings.map Prod.fst := by
    intro hmem
    obtain ⟨l, hmem, heq⟩ := List.mem_map.mp hmem
    exact (hearlier l hmem).1 heq.symm
  refine ⟨?_, ?_, ?_, ?_, fun j hj => ?_⟩
  · rw [List.map_cons, hl.all]
  · rw [List.map_cons]
    exact List.nodup_cons.mpr ⟨hfresh, hl.nodup⟩
  · refine List.forall_mem_cons.mpr ⟨⟨hbag, hrange, hlands⟩, fun l hmem => ?_⟩
    obtain ⟨hbag', hrange', -⟩ := hl.lands l hmem
    rw [List.length_set] at hrange'
    exact ⟨hbag', hrange', (hearlier l hmem).2⟩
  · refine List.forall_mem_cons.mpr ⟨?_, fun l hmem => ?_⟩
    · rw [hl.others i hfresh, Inventory.slot_set_self hrange]
    · rw [hl.slots l hmem, Inventory.slot_set_ne (hearlier l hmem).1]
  · rw [List.map_cons, List.mem_cons, not_or] at hj
    rw [hl.others j hj.2, Inventory.slot_set_ne (Ne.symm hj.1)]

theorem receiveItems_landed (ho : Offers table items)
    (hfree : (goods items).length ≤ countFreeSlots h.inventory)
    (hcoins : h.gold + Tally.total offeredGold items ≤ COIN_MAX) :
    (∃ landings, Landed table h.inventory (items.foldl (Session.receiveItem table) h).inventory
      (goods items) landings) ∧
    (items.foldl (Session.receiveItem table) h).gold =
      h.gold + Tally.total offeredGold items := by
  induction items generalizing h with
  | nil => exact ⟨⟨[], landed_nil⟩, rfl⟩
  | cons ex items ih =>
    rw [Tally.total_cons] at hcoins
    rw [List.foldl_cons, Tally.total_cons]
    unfold Session.receiveItem
    by_cases hgold : ex.itemId = ITEM_GOLD
    · rw [goods_gold hgold] at hfree ⊢
      rw [offeredGold_gold hgold] at hcoins ⊢
      have hgain : (h.goldGain ex.count).gold = h.gold + ex.count := if_neg (by omega)
      rw [if_pos hgold]
      obtain ⟨hlanded, htotal⟩ := @ih (h.goldGain ex.count) ho.tail hfree (by rw [hgain]; omega)
      refine ⟨hlanded, ?_⟩
      rw [← Nat.add_assoc, ← hgain]
      exact htotal
    · rw [goods_item hgold, List.length_cons] at hfree
      rw [offeredGold_item hgold, Nat.zero_add] at hcoins ⊢
      rw [goods_item hgold, if_neg hgold]
      obtain ⟨hknown, hex, -⟩ := ho.each ex List.mem_cons_self hgold
      obtain ⟨i, hfind, hbag, hrange, hlands⟩ := exists_landing hknown
        (Nat.lt_of_lt_of_le (Nat.succ_pos _) hfree)
      rw [hfind]
      dsimp only
      rw [placeItem_set hrange]
      have hroom : (goods items).length ≤
          countFreeSlots (h.inventory.set i (placed table (h.inventory.slot i) ex)) := by
        have := @countFreeSlots_set h.inventory i (placed table (h.inventory.slot i) ex)
        omega
      obtain ⟨⟨landings, hlanded⟩, htotal⟩ :=
        @ih { h with inventory := h.inventory.set i (placed table (h.inventory.slot i) ex) }
          ho.tail hroom hcoins
      refine ⟨⟨(i, ex) :: landings, hlanded.cons hbag hrange hlands hex ?_ ?_⟩, htotal⟩
      · intro e he
        obtain ⟨hmem, hne⟩ := mem_goods.mp he
        exact (ho.tail.each e hmem hne).2.1
      · intro e he
        exact (List.pairwise_cons.mp ho.single).1 e (mem_goods.mp he).1

theorem clearSources_slot (i : ℕ) :
    (items.foldl Session.clearSource h).gold = h.gold ∧
      ((items.foldl Session.clearSource h).inventory.slot i = h.inventory.slot i ∨
        (h.inventory.slot i).count = 0 ∧
          (items.foldl Session.clearSource h).inventory.slot i = {}) := by
  induction items generalizing h with
  | nil => exact ⟨rfl, .inl rfl⟩
  | cons ex items ih =>
    rw [List.foldl_cons]
    unfold Session.clearSource
    split_ifs with hgold hzero
    · exact ih
    · obtain ⟨hrange, hzero⟩ := hzero
      obtain ⟨hsame, hslot⟩ := @ih { h with inventory := h.inventory.set ex.srcPos {} }
      refine ⟨hsame, ?_⟩
      rcases eq_or_ne ex.srcPos i with rfl | hi
      · right
        rw [Inventory.slot_set_self hrange] at hslot
        exact ⟨hzero, hslot.elim id And.right⟩
      · rwa [Inventory.slot_set_ne hi] at hslot
    · exact ih

end

end KoServer
