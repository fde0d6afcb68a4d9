import KoServer.Lib.Spend
import KoServer.Proofs.Inventory
import KoServer.Spec.ItemUpgrade
import Mathlib.Data.List.Dedup

/-! What an upgrade takes from the bag. The recipe and the rate are looked up with the ten ids
of the request; what is removed are the entries with a slot of the bag. -/

namespace KoServer

open Spend (spend spendAt)

section Units

def heldUnits (id : ℕ) (slot : UserItemSlot) : ℕ :=
  if slot.itemId = id then max 1 slot.count else 0

def takeUnit (slot : UserItemSlot) : UserItemSlot :=
  if slot.itemId = 0 then slot
  else if 1 < slot.count then { slot with count := slot.count - 1 } else {}

theorem takeUnit_of_empty {slot : UserItemSlot} (h : slot.itemId = 0) : takeUnit slot = slot :=
  if_pos h

@[simp] theorem takeUnit_default : takeUnit {} = {} := rfl

theorem heldUnits_takeUnit {id : ℕ} (hid : id ≠ 0) (slot : UserItemSlot) :
    heldUnits id (takeUnit slot) = heldUnits id slot - 1 := by
  unfold takeUnit
  split_ifs with hempty hmany
  · unfold heldUnits
    rw [hempty, if_neg hid.symm]
  · unfold heldUnits
    dsimp only
    split_ifs <;> omega
  · have hnone : heldUnits id {} = 0 := if_neg hid.symm
    rw [hnone]
    unfold heldUnits
    split_ifs <;> omega

theorem heldUnits_self_pos (slot : UserItemSlot) : 0 < heldUnits slot.itemId slot := by
  unfold heldUnits
  rw [if_pos rfl]
  omega

/-- Some units are gone, and nothing else changed; or all are, and the slot is empty. -/
def FewerUnits (slot slot' : UserItemSlot) : Prop :=
  slot' = {} ∨ ∃ n < slot.count, slot' = { slot with count := n }

theorem takeUnit_iterate_empty {slot : UserItemSlot} (h : slot.itemId = 0) (k : ℕ) :
    takeUnit^[k] slot = slot := Function.iterate_fixed (takeUnit_of_empty h) k

theorem fewerUnits_iterate {slot : UserItemSlot} (h : slot.itemId ≠ 0) {k : ℕ} (hk : 0 < k) :
    FewerUnits slot (takeUnit^[k] slot) := by
  induction k with
  | zero => omega
  | succ k ih =>
    rw [Function.iterate_succ_apply']
    rcases Nat.eq_zero_or_pos k with rfl | hpos
    · rw [Function.iterate_zero_apply, takeUnit, if_neg h]
      split_ifs
      · exact Or.inr ⟨slot.count - 1, by omega, rfl⟩
      · exact Or.inl rfl
    · rcases ih hpos with hnone | ⟨n, hn, hsome⟩
      · rw [hnone]
        exact Or.inl rfl
      · rw [hsome, takeUnit, if_neg h]
        split_ifs
        · exact Or.inr ⟨n - 1, by omega, rfl⟩
        · exact Or.inl rfl

theorem takeUnit_iterate_eq_iff (slot : UserItemSlot) (k : ℕ) :
    takeUnit^[k] slot = slot ↔ k = 0 ∨ slot.itemId = 0 := by
  constructor
  · intro h
    by_contra hne
    obtain ⟨hk, hid⟩ := not_or.mp hne
    have hleft := Spend.measure_iterate (heldUnits_takeUnit hid) k slot
    have hpos := heldUnits_self_pos slot
    rw [h] at hleft
    omega
  · rintro (rfl | hempty)
    · rfl
    · exact takeUnit_iterate_empty hempty k

theorem removeConsumed_eq (inv : Inventory) (item : UpgradeItem) :
    removeConsumed inv item = spendAt takeUnit {} inv item.actualIdx := by
  show removeConsumed inv item = inv.set item.actualIdx (takeUnit (inv.slot item.actualIdx))
  unfold removeConsumed
  dsimp only
  rcases Nat.lt_or_ge item.actualIdx inv.length with hlt | hge
  · by_cases hid : (inv.slot item.actualIdx).itemId = 0
    · rw [if_neg fun h => h.2 hid, takeUnit_of_empty hid]
      have hread : inv.slot item.actualIdx = inv[item.actualIdx] := List.getD_eq_getElem _ _ hlt
      rw [hread, List.set_getElem_self hlt]
    · rw [if_pos ⟨hlt, hid⟩, takeUnit, if_neg hid]
      split_ifs <;> rfl
  · rw [if_neg fun h => absurd h.1 (not_lt.mpr hge), List.set_eq_of_length_le hge]

theorem foldl_removeConsumed (inv : Inventory) (items : List UpgradeItem) :
    items.foldl removeConsumed inv = spend takeUnit {} inv (items.map UpgradeItem.actualIdx) := by
  unfold spend
  rw [List.foldl_map]
  exact List.foldl_ext _ _ inv fun inv' item _ => removeConsumed_eq inv' item

end Units

namespace UpgradePlan

variable (w : UpgradeTables) (draws : UpgradeDraws) (p : UpgradePlan)

/-- The distinct items that chose the recipe and the rate, the origin item apart: the recipe's
scroll, and the items of the setting or the logos in its place. -/
def chosenBy : List ℕ :=
  let settingIds := match p.setting with
    | some setting => [setting.reqItemId1, setting.reqItemId2]
    | none => [(ITEM_BLESSING_LOGOS : ℤ)]
  (((p.recipe.reqItem :: settingIds).filter (· ≠ 0)).map asU32).dedup

/-- One unit of each, and for accessories two further copies of the origin item. -/
def materials : List ℕ :=
  p.chosenBy ++ if p.accessories then [p.origin.itemId, p.origin.itemId] else []

def originSlot (slot : UserItemSlot) : UserItemSlot :=
  if p.fails draws then p.failedSlot w draws slot
  else
    match w.getItem p.newItemId with
    | none => slot
    | some newProto => p.upgradedSlot newProto slot

def otherSlots (inv : Inventory) : List ℕ :=
  (List.range inv.length).filter (· ≠ p.origin.actualIdx)

/-- The units of an item outside the origin slot. -/
def otherUnits (inv : Inventory) (id : ℕ) : ℕ :=
  Tally.total (fun j => heldUnits id (inv.slot j)) (p.otherSlots inv)

/-- The slots that are named by the entries to be removed. -/
def named : List ℕ := p.consumed.map UpgradeItem.actualIdx

/-- The units of an item that the entries name outside the origin slot; a slot that is named
more often than it has units counts with those it has. -/
def namedUnits (inv : Inventory) (id : ℕ) : ℕ :=
  Tally.total (fun j => min (p.named.count j) (heldUnits id (inv.slot j))) (p.otherSlots inv)

structure Consumes (s s' : UpgradeState) : Prop where
  origin : s'.inventory.slot p.origin.actualIdx =
    p.originSlot w draws (s.inventory.slot p.origin.actualIdx)
  units : ∀ id, id ≠ 0 →
    p.otherUnits s'.inventory id + p.materials.count id = p.otherUnits s.inventory id
  rest : ∀ j, j ≠ p.origin.actualIdx → s'.inventory.slot j = s.inventory.slot j ∨
    (s.inventory.slot j).itemId ∈ p.materials ∧
      FewerUnits (s.inventory.slot j) (s'.inventory.slot j)
  gold : s'.gold + p.reqCoins = s.gold

/-- The entries name one unit of each material and nothing else. The origin slot is named by
none of them, unless the draw leaves it empty. -/
structure NamesMaterials (inv : Inventory) : Prop where
  origin : p.origin.actualIdx ∈ p.named →
    (p.originSlot w draws (inv.slot p.origin.actualIdx)).itemId = 0
  units : ∀ id, id ≠ 0 → p.namedUnits inv id = p.materials.count id

variable {w draws p} {s : UpgradeState} {slot : UserItemSlot}

theorem mem_otherSlots {inv : Inventory} {j : ℕ} :
    j ∈ p.otherSlots inv ↔ j < inv.length ∧ j ≠ p.origin.actualIdx := by
  simp [otherSlots]

/-- A slot after the upgrade: the origin's is rewritten, and each is taken from as often as it
is named. -/
theorem slot_applyUpgrade (hidx : p.origin.actualIdx < s.inventory.length) (j : ℕ) :
    (applyUpgrade s p slot).inventory.slot j = takeUnit^[p.named.count j]
      (if j = p.origin.actualIdx then slot else s.inventory.slot j) := by
  have hspend := Spend.getD_spend takeUnit_default (s.inventory.set p.origin.actualIdx slot)
    p.named j
  have hset : (s.inventory.set p.origin.actualIdx slot).getD j {} =
      if j = p.origin.actualIdx then slot else s.inventory.slot j := by
    split_ifs with hj
    · rw [hj]
      exact Tally.getD_set_self hidx slot {}
    · exact Tally.getD_set_ne (Ne.symm hj) slot {}
  show (p.consumed.foldl removeConsumed (s.inventory.set p.origin.actualIdx slot)).getD j {} = _
  rw [foldl_removeConsumed, ← hset]
  exact hspend

theorem length_applyUpgrade :
    (applyUpgrade s p slot).inventory.length = s.inventory.length := by
  show (p.consumed.foldl removeConsumed (s.inventory.set p.origin.actualIdx slot)).length = _
  rw [foldl_removeConsumed, Spend.length_spend, List.length_set]

theorem otherUnits_applyUpgrade (hidx : p.origin.actualIdx < s.inventory.length) {id : ℕ}
    (hid : id ≠ 0) :
    p.otherUnits (applyUpgrade s p slot).inventory id + p.namedUnits s.inventory id =
      p.otherUnits s.inventory id := by
  have hjs : p.otherSlots (applyUpgrade s p slot).inventory = p.otherSlots s.inventory := by
    unfold otherSlots
    rw [length_applyUpgrade]
  have hspend := Spend.total_spend takeUnit_default (heldUnits_takeUnit hid) s.inventory p.named
    (p.otherSlots s.inventory)
  have hafter : p.otherUnits (applyUpgrade s p slot).inventory id =
      Tally.total (fun j => heldUnits id ((spend takeUnit {} s.inventory p.named).getD j {}))
        (p.otherSlots s.inventory) := by
    unfold otherUnits
    rw [hjs]
    apply Tally.total_congr
    intro j hj
    obtain ⟨-, hne⟩ := mem_otherSlots.mp hj
    rw [slot_applyUpgrade hidx, if_neg hne, Spend.getD_spend takeUnit_default]
    rfl
  rw [hafter]
  exact hspend

theorem gold_applyUpgrade (hgold : p.reqCoins ≤ s.gold) :
    (applyUpgrade s p slot).gold + p.reqCoins = s.gold := by
  show (if 0 < p.reqCoins then (goldLose s.gold p.reqCoins).getD s.gold else s.gold) +
    p.reqCoins = s.gold
  unfold goldLose
  rw [if_pos hgold, Option.getD_some]
  split_ifs <;> omega

/-- A slot outside the origin's that an entry takes something from holds one of the named
items. -/
theorem namedUnits_pos {inv : Inventory} {j : ℕ} (hj : j ≠ p.origin.actualIdx)
    (hid : (inv.slot j).itemId ≠ 0) (hnamed : 0 < p.named.count j) :
    0 < p.namedUnits inv (inv.slot j).itemId := by
  have hlt : j < inv.length := by
    by_contra hge
    exact hid (congrArg UserItemSlot.itemId (List.getD_eq_default _ _ (not_lt.mp hge)))
  have hle := Tally.le_total (fun k => min (p.named.count k)
    (heldUnits (inv.slot j).itemId (inv.slot k))) (mem_otherSlots.mpr ⟨hlt, hj⟩)
  have hpos := heldUnits_self_pos (inv.slot j)
  unfold namedUnits
  omega

/-- An upgrade consumes what it uses exactly if its entries name that. -/
theorem consumes_applyUpgrade_iff (hidx : p.origin.actualIdx < s.inventory.length)
    (hgold : p.reqCoins ≤ s.gold) :
    p.Consumes w draws s (applyUpgrade s p
        (p.originSlot w draws (s.inventory.slot p.origin.actualIdx))) ↔
      p.NamesMaterials w draws s.inventory := by
  constructor
  · intro h
    refine ⟨fun hmem => ?_, fun id hid => ?_⟩
    · have horigin := h.origin
      rw [slot_applyUpgrade hidx, if_pos rfl, takeUnit_iterate_eq_iff] at horigin
      exact horigin.resolve_left (Nat.ne_of_gt (List.count_pos_iff.mpr hmem))
    · have hunits := h.units id hid
      have hgone : p.otherUnits (applyUpgrade s p
          (p.originSlot w draws (s.inventory.slot p.origin.actualIdx))).inventory id +
            p.namedUnits s.inventory id = p.otherUnits s.inventory id :=
        otherUnits_applyUpgrade hidx hid
      omega
  · intro h
    refine ⟨?_, fun id hid => ?_, fun j hj => ?_, gold_applyUpgrade hgold⟩
    · rw [slot_applyUpgrade hidx, if_pos rfl, takeUnit_iterate_eq_iff]
      by_cases hmem : p.origin.actualIdx ∈ p.named
      · exact Or.inr (h.origin hmem)
      · exact Or.inl (List.count_eq_zero.mpr hmem)
    · rw [← h.units id hid]
      exact otherUnits_applyUpgrade hidx hid
    · rw [slot_applyUpgrade hidx, if_neg hj]
      by_cases hsame : takeUnit^[p.named.count j] (s.inventory.slot j) = s.inventory.slot j
      · exact Or.inl hsame
      · obtain ⟨hcount, hid⟩ := not_or.mp (mt (takeUnit_iterate_eq_iff _ _).mpr hsame)
        have hpos := namedUnits_pos hj hid (Nat.pos_of_ne_zero hcount)
        rw [h.units _ hid] at hpos
        exact Or.inr ⟨List.count_pos_iff.mp hpos,
          fewerUnits_iterate hid (Nat.pos_of_ne_zero hcount)⟩

end UpgradePlan

section Request

variable (w : UpgradeTables) (env : UpgradeEnv) (draws : UpgradeDraws) (s : UpgradeState)
  (upgradeType : ℕ) (req : UpgradeRequest)

/-- The request is answered before its items are looked at. -/
def upgradeRefused : Bool :=
  !env.isInNpcRange req.npcId || !env.isAnvil req.npcId ||
    (env.isPlayerDead || env.isTrading || env.isStoreOpen || env.isMerchanting || env.isMining) ||
    rateLimited w env s

def noteAttempt : UpgradeState :=
  { s with lastUpgradeTime := env.now, upgradeCount := min (s.upgradeCount + 1) 255 }

theorem itemUpgrade_refused (h : upgradeRefused w env s req = true) :
    itemUpgrade w env draws s upgradeType req =
      (⟨upgradeType, req.bType, .trading, none, []⟩, s) := by
  simp only [upgradeRefused, Bool.or_eq_true] at h
  unfold itemUpgrade
  simp only [Bool.or_eq_true]
  split_ifs with hrange hanvil hbusy hrate
  · rfl
  · rfl
  · rfl
  · rfl
  · rcases h with ((h | h) | h) | h
    · exact absurd h hrange
    · exact absurd h hanvil
    · exact absurd h hbusy
    · exact absurd h hrate

theorem itemUpgrade_open (h : upgradeRefused w env s req = false) :
    itemUpgrade w env draws s upgradeType req =
      match checkUpgrade w s req.bType req.raw with
      | .error (result, items) => (⟨upgradeType, req.bType, result, none, items⟩, noteAttempt env s)
      | .ok p => performUpgrade w draws (noteAttempt env s) upgradeType p := by
  simp only [upgradeRefused, Bool.or_eq_false_iff] at h
  obtain ⟨⟨⟨hrange, hanvil⟩, hbusy⟩, hrate⟩ := h
  unfold itemUpgrade
  rw [hrange, hanvil, hrate]
  simp only [hbusy, Bool.or_self, Bool.false_eq_true, if_false]
  rfl

variable {w s}

theorem refuseItem_none {inv : Inventory} {item : UpgradeItem} (h : refuseItem inv item = none) :
    item.actualIdx < inv.length ∧ (inv.slot item.actualIdx).itemId = item.itemId := by
  unfold refuseItem at h
  cases hslot : inv[item.actualIdx]? with
  | none => simp only [hslot, reduceCtorEq] at h
  | some slot =>
    simp only [hslot] at h
    split_ifs at h with hother
    refine ⟨(List.getElem?_eq_some_iff.mp hslot).1, ?_⟩
    rw [Inventory.slot_of_getElem? hslot]
    exact not_not.mp (not_or.mp hother).1

theorem refuseItem_refusal {inv : Inventory} {item : UpgradeItem} {result : UpgradeResult}
    (h : refuseItem inv item = some result) : result = .noMatch ∨ result = .rental := by
  unfold refuseItem at h
  cases hslot : inv[item.actualIdx]? with
  | none =>
    simp only [hslot, Option.some.injEq] at h
    exact Or.inl h.symm
  | some slot =>
    simp only [hslot] at h
    split_ifs at h
    · exact Or.inl (Option.some.inj h).symm
    · exact Or.inr (Option.some.inj h).symm

/-- What the checks come to: a refusal, which is none of the two results of an upgrade, or a
plan whose items are in the bag and whose price is in the purse. -/
def Checked (s : UpgradeState) (bType : ℕ) :
    Except (UpgradeResult × List UpgradeItem) UpgradePlan → Prop
  | .error refusal =>
    refusal.1 = .noMatch ∨ refusal.1 = .rental ∨ refusal.1 = .needCoins
  | .ok p =>
    p.bType = bType ∧ (bType = UPGRADE_TYPE_NORMAL ∨ bType = UPGRADE_TYPE_PREVIEW) ∧
      (∀ item ∈ p.items, refuseItem s.inventory item = none) ∧ p.reqCoins ≤ s.gold

theorem checked_noMatch (s : UpgradeState) (bType : ℕ) (items : List UpgradeItem) :
    Checked s bType (.error (.noMatch, items)) := Or.inl rfl

theorem checked_ite {bType : ℕ} {c : Prop} [Decidable c] {items : List UpgradeItem}
    {rest : Except (UpgradeResult × List UpgradeItem) UpgradePlan}
    (h : ¬ c → Checked s bType rest) :
    Checked s bType (if c then .error (.noMatch, items) else rest) := by
  by_cases hc : c
  · rw [if_pos hc]
    exact checked_noMatch s bType items
  · rw [if_neg hc]
    exact h hc

theorem checked_checkUpgrade (w : UpgradeTables) (s : UpgradeState) (bType : ℕ)
    (raw : List (ℕ × ℕ)) : Checked s bType (checkUpgrade w s bType raw) := by
  unfold checkUpgrade
  refine checked_ite fun hbType => ?_
  obtain ⟨hnormal, hpreview⟩ := not_not.mp hbType
  have htype : bType = UPGRADE_TYPE_NORMAL ∨ bType = UPGRADE_TYPE_PREVIEW := by
    unfold UPGRADE_TYPE_NORMAL UPGRADE_TYPE_PREVIEW at *
    omega
  cases listItems raw with
  | nil => exact checked_noMatch _ _ _
  | cons origin others =>
    dsimp only
    cases hrefuse : (origin :: others).findSome? (refuseItem s.inventory) with
    | some refusal =>
      obtain ⟨item, -, hitem⟩ := List.exists_of_findSome?_eq_some hrefuse
      rcases refuseItem_refusal hitem with hno | hrental
      · exact Or.inl hno
      · exact Or.inr (Or.inl hrental)
    | none =>
      have hitems := List.findSome?_eq_none_iff.mp hrefuse
      cases w.getItem origin.itemId with
      | none => exact checked_noMatch _ _ _
      | some proto =>
        dsimp only
        -- the scroll, the special items, the class, the logos twice, the accessories
        iterate 6 refine checked_ite fun _ => ?_
        split
        · exact checked_noMatch _ _ _
        refine checked_ite fun _ => ?_
        split
        · exact checked_noMatch _ _ _
        next setting genRate reqCoins _ =>
        refine checked_ite fun _ => ?_
        by_cases hcoins : s.gold < reqCoins
        · rw [if_pos hcoins]
          exact Or.inr (Or.inr rfl)
        · rw [if_neg hcoins]
          exact ⟨rfl, htype, hitems, not_lt.mp hcoins⟩

theorem checkUpgrade_spec {bType : ℕ} {raw : List (ℕ × ℕ)} {p : UpgradePlan}
    (h : checkUpgrade w s bType raw = .ok p) : Checked s bType (.ok p) :=
  h ▸ checked_checkUpgrade w s bType raw

theorem checkUpgrade_refusal {bType : ℕ} {raw : List (ℕ × ℕ)}
    {refusal : UpgradeResult × List UpgradeItem} (h : checkUpgrade w s bType raw = .error refusal) :
    Checked s bType (.error refusal) :=
  h ▸ checked_checkUpgrade w s bType raw

/-- The request was carried out: a success or a failure that is not a preview. -/
def UpgradeReply.executed (r : UpgradeReply) : Bool :=
  r.bType = UPGRADE_TYPE_NORMAL && (r.result = .failed || r.result = .succeeded)

/-- The request comes through the checks and is no preview, and its item is not to become one
that there is not. -/
structure Executes (w : UpgradeTables) (env : UpgradeEnv) (draws : UpgradeDraws) (s : UpgradeState)
    (req : UpgradeRequest) (p : UpgradePlan) : Prop where
  accepted : upgradeRefused w env s req = false
  checked : checkUpgrade w s req.bType req.raw = .ok p
  normal : req.bType = UPGRADE_TYPE_NORMAL
  target : p.fails draws = true ∨ (w.getItem p.newItemId).isSome = true

theorem UpgradePlan.normal_of_fails {p : UpgradePlan} (h : p.fails draws = true) :
    p.bType = UPGRADE_TYPE_NORMAL := by
  simp only [fails, Bool.decide_and, Bool.and_eq_true, decide_eq_true_eq] at h
  exact h.1

/-- What is answered without being carried out leaves bag and purse alone. -/
theorem itemUpgrade_answered (h : ∀ p, ¬ Executes w env draws s req p) :
    (itemUpgrade w env draws s upgradeType req).1.executed = false ∧
      (itemUpgrade w env draws s upgradeType req).2.inventory = s.inventory ∧
      (itemUpgrade w env draws s upgradeType req).2.gold = s.gold := by
  cases hrefused : upgradeRefused w env s req with
  | true =>
    rw [itemUpgrade_refused w env draws s upgradeType req hrefused]
    exact ⟨Bool.and_false _, rfl, rfl⟩
  | false =>
    rw [itemUpgrade_open w env draws s upgradeType req hrefused]
    cases hcheck : checkUpgrade w s req.bType req.raw with
    | error refusal =>
      obtain ⟨result, items⟩ := refusal
      have hrefusal : result = .noMatch ∨ result = .rental ∨ result = .needCoins :=
        checkUpgrade_refusal hcheck
      refine ⟨?_, rfl, rfl⟩
      rcases hrefusal with rfl | rfl | rfl <;> exact Bool.and_false _
    | ok p =>
      obtain ⟨hbType, htype, -, -⟩ := checkUpgrade_spec hcheck
      rw [← hbType] at htype
      dsimp only
      unfold performUpgrade
      dsimp only
      have hfails : ¬ p.fails draws = true := fun hfails =>
        h p ⟨hrefused, hcheck, hbType ▸ p.normal_of_fails draws hfails, Or.inl hfails⟩
      rw [if_neg hfails]
      cases hproto : w.getItem p.newItemId with
      | none => exact ⟨Bool.and_false _, rfl, rfl⟩
      | some newProto =>
        have hpreview : p.bType = UPGRADE_TYPE_PREVIEW := htype.resolve_left fun hnormal =>
          h p ⟨hrefused, hcheck, hbType ▸ hnormal, Or.inr (by rw [hproto]; rfl)⟩
        dsimp only
        rw [if_pos hpreview]
        refine ⟨?_, rfl, rfl⟩
        unfold UpgradeReply.executed
        rw [hpreview]
        rfl

theorem itemUpgrade_executes {p : UpgradePlan} (h : Executes w env draws s req p) :
    (itemUpgrade w env draws s upgradeType req).1.executed = true ∧
      (itemUpgrade w env draws s upgradeType req).2 = applyUpgrade (noteAttempt env s) p
        (p.originSlot w draws (s.inventory.slot p.origin.actualIdx)) := by
  obtain ⟨hbType, -, -, -⟩ := checkUpgrade_spec h.checked
  have hnormal : p.bType = UPGRADE_TYPE_NORMAL := hbType.trans h.normal
  rw [itemUpgrade_open w env draws s upgradeType req h.accepted, h.checked]
  dsimp only
  unfold performUpgrade UpgradePlan.originSlot
  dsimp only
  by_cases hfails : p.fails draws = true
  · rw [if_pos hfails, if_pos hfails]
    refine ⟨?_, rfl⟩
    unfold UpgradeReply.executed
    rw [hnormal]
    rfl
  · rw [if_neg hfails, if_neg hfails]
    cases hproto : w.getItem p.newItemId with
    | none =>
      have htarget := h.target.resolve_left hfails
      rw [hproto] at htarget
      cases htarget
    | some newProto =>
      have hnot : ¬ p.bType = UPGRADE_TYPE_PREVIEW := by
        rw [hnormal]
        decide
      dsimp only
      rw [if_neg hnot]
      refine ⟨?_, rfl⟩
      unfold UpgradeReply.executed
      rw [hnormal]
      rfl

def upgradeRequest (data : List UInt8) : UpgradeRequest :=
  readUpgrade (PacketReader.new data).readU8D.2

def isUpgradeType (data : List UInt8) : Bool :=
  (PacketReader.new data).readU8D.1 ∈ [ITEM_UPGRADE, ITEM_ACCESSORIES, ITEM_UPGRADE_REBIRTH]

theorem handleItemUpgrade_of_type {data : List UInt8} (h : isUpgradeType data = true) :
    handleItemUpgrade w env draws s data =
      (some (itemUpgrade w env draws s (PacketReader.new data).readU8D.1 (upgradeRequest data)).1,
        (itemUpgrade w env draws s (PacketReader.new data).readU8D.1 (upgradeRequest data)).2) := by
  simp only [isUpgradeType, List.mem_cons, List.not_mem_nil, or_false, decide_eq_true_eq] at h
  exact if_pos h

theorem handleItemUpgrade_of_other {data : List UInt8} (h : ¬ isUpgradeType data = true) :
    handleItemUpgrade w env draws s data = (none, s) := by
  simp only [isUpgradeType, List.mem_cons, List.not_mem_nil, or_false, decide_eq_true_eq] at h
  exact if_neg h

theorem consumes_noteAttempt {p : UpgradePlan} (h : Executes w env draws s req p) :
    p.Consumes w draws s (applyUpgrade (noteAttempt env s) p
        (p.originSlot w draws (s.inventory.slot p.origin.actualIdx))) ↔
      p.NamesMaterials w draws s.inventory := by
  obtain ⟨-, -, hitems, hgold⟩ := checkUpgrade_spec h.checked
  have hidx := (refuseItem_none (hitems p.origin List.mem_cons_self)).1
  have hiff : p.Consumes w draws (noteAttempt env s) (applyUpgrade (noteAttempt env s) p
      (p.originSlot w draws (s.inventory.slot p.origin.actualIdx))) ↔
        p.NamesMaterials w draws s.inventory := UpgradePlan.consumes_applyUpgrade_iff hidx hgold
  refine Iff.trans ⟨fun h => ?_, fun h => ?_⟩ hiff
  · exact ⟨h.origin, h.units, h.rest, h.gold⟩
  · exact ⟨h.origin, h.units, h.rest, h.gold⟩

/-- An upgrade that is carried out consumes what it uses; any other request changes nothing. -/
def UpgradeConsumes (w : UpgradeTables) (env : UpgradeEnv) (draws : UpgradeDraws) (s : UpgradeState)
    (data : List UInt8) : Prop :=
  let out := handleItemUpgrade w env draws s data
  if out.1.any UpgradeReply.executed then
    ∃ p, checkUpgrade w s (upgradeRequest data).bType (upgradeRequest data).raw = .ok p ∧
      p.Consumes w draws s out.2
  else out.2.inventory = s.inventory ∧ out.2.gold = s.gold

/-- An upgrade consumes what it uses exactly if the entries that are removed name one unit of
each material. -/
theorem upgrade_consumes_iff (w : UpgradeTables) (env : UpgradeEnv) (draws : UpgradeDraws)
    (s : UpgradeState) (data : List UInt8) :
    UpgradeConsumes w env draws s data ↔
      (isUpgradeType data = true → ∀ p, Executes w env draws s (upgradeRequest data) p →
        p.NamesMaterials w draws s.inventory) := by
  unfold UpgradeConsumes
  dsimp only
  by_cases htype : isUpgradeType data = true
  · rw [handleItemUpgrade_of_type env draws htype, Option.any_some]
    by_cases hexec : ∃ p, Executes w env draws s (upgradeRequest data) p
    · obtain ⟨p, hp⟩ := hexec
      obtain ⟨hdone, hstate⟩ := itemUpgrade_executes env draws (PacketReader.new data).readU8D.1
        (upgradeRequest data) hp
      have hiff := consumes_noteAttempt env draws _ hp
      rw [hdone, if_pos rfl, hstate]
      constructor
      · rintro ⟨q, hq, hconsumes⟩ - r hr
        obtain rfl := Except.ok.inj (hq.symm.trans hp.checked)
        obtain rfl := Except.ok.inj (hr.checked.symm.trans hp.checked)
        exact hiff.mp hconsumes
      · intro h
        exact ⟨p, hp.checked, hiff.mpr (h htype p hp)⟩
    · have hnone := fun p hp => hexec ⟨p, hp⟩
      obtain ⟨hdone, hinv, hgold⟩ := itemUpgrade_answered env draws
        (PacketReader.new data).readU8D.1 (upgradeRequest data) hnone
      rw [hdone, if_neg Bool.false_ne_true]
      exact ⟨fun _ _ p hp => absurd hp (hnone p), fun _ => ⟨hinv, hgold⟩⟩
  · rw [handleItemUpgrade_of_other env draws htype, Option.any_none, if_neg Bool.false_ne_true]
    exact ⟨fun _ h => absurd h htype, fun _ => ⟨rfl, rfl⟩⟩

end Request

/-! A sword of grade 3 with its scroll and a trina, which doubles the rate. -/

def anvilTables : UpgradeTables where
  getItem := fun id =>
    if id = 120110003 ∨ id = 120110004 then
      some { itemType := some 5, itemClass := some 3, duration := some 5000 }
    else none
  getUpgradeRecipes := fun id => if id = 120110003 then some [⟨120110004, 379021000⟩] else none
  upgradeSettings := [⟨379021000, 0, 5, 3, 100000, 4500⟩, ⟨379021000, 700002000, 5, 3, 100000, 9000⟩]
  serverSettings := none

def atTheAnvil : UpgradeEnv where
  isInNpcRange := fun _ => true
  isAnvil := fun _ => true
  isPlayerDead := false
  isTrading := false
  isStoreOpen := false
  isMerchanting := false
  isMining := false
  now := 10000

def swordAndTrina : UpgradeState where
  inventory := List.replicate SLOT_MAX {} ++
    [{ itemId := 120110003, count := 1, durability := 4000 }, { itemId := 379021000, count := 1 },
      { itemId := ITEM_TRINA, count := 1 }] ++ List.replicate 79 {}
  gold := 150000
  upgradeCount := 0
  lastUpgradeTime := 0

/-- The sword and the scroll from their slots, and the trina from a slot of the client's choice. -/
def upgradeSword (trinaSlot : UInt8) : List UInt8 :=
  [2, 1] ++ Bytes.le 4 1 ++ Bytes.le 4 120110003 ++ [0] ++ Bytes.le 4 379021000 ++ [1] ++
    Bytes.le 4 ITEM_TRINA ++ [trinaSlot] ++
    (List.replicate 7 (Bytes.le 4 0 ++ [(0xff : UInt8)])).flatten

def swordPlan : UpgradePlan where
  bType := 1
  origin := ⟨120110003, 0⟩
  others := [⟨379021000, 1⟩]
  byGrade := 3
  accessories := false
  recipe := ⟨120110004, 379021000⟩
  setting := some ⟨379021000, 700002000, 5, 3, 100000, 9000⟩
  genRate := 9000
  reqCoins := 100000

/-- With no slot for the trina the sword is upgraded at the trina's rate, and the trina stays. -/
theorem trina_not_consumed :
    ¬ UpgradeConsumes anvilTables atTheAnvil ⟨5000, 0⟩ swordAndTrina (upgradeSword 0xff) := by
  intro h
  have hplan : checkUpgrade anvilTables swordAndTrina (upgradeRequest (upgradeSword 0xff)).bType
      (upgradeRequest (upgradeSword 0xff)).raw = .ok swordPlan := by decide +kernel
  have hdone : ((handleItemUpgrade anvilTables atTheAnvil ⟨5000, 0⟩ swordAndTrina
      (upgradeSword 0xff)).1.any UpgradeReply.executed) = true := by decide +kernel
  unfold UpgradeConsumes at h
  dsimp only at h
  rw [if_pos hdone] at h
  obtain ⟨p, hp, hconsumes⟩ := h
  obtain rfl := Except.ok.inj (hp.symm.trans hplan)
  have htrina := hconsumes.units ITEM_TRINA (by decide)
  revert htrina
  decide +kernel

end KoServer
