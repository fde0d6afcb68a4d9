import KoServer.Lib.Run
import KoServer.Proofs.ClanStorage
import KoServer.Spec.GuildBank

/-! What the guild bank keeps over a run of requests that are handled one after the other. -/

namespace KoServer

variable {table : ItemTable} {env : ClanEnv} {s s' : BankState} {item : Item} {req : ClanRequest}

def ClanRequest.srcIdx (req : ClanRequest) : ℕ := SLOT_MAX + req.srcPos

def ClanRequest.dstIdx (req : ClanRequest) : ℕ := SLOT_MAX + req.dstPos

structure DepositAllowed (env : ClanEnv) (s : BankState) (item : Item) (req : ClanRequest) :
    Prop where
  state : validateBasicState env = true
  clan : env.clanFame.isSome = true ∧ env.clanKnown = true
  fields : req.count ≠ 0 ∧ req.itemId ≠ 0 ∧ req.itemId ≠ ITEM_GOLD
  srcPos_lt : req.srcPos < HAVE_MAX
  whIdx_lt : req.whSlot req.dstPos < WAREHOUSE_MAX
  tradable : ¬ (ITEM_NO_TRADE_MIN ≤ req.itemId ∧ req.itemId ≤ ITEM_NO_TRADE_MAX)
  srcIdx_lt : req.srcIdx < s.member.inventory.length
  holds : (s.member.inventory.slot req.srcIdx).itemId = req.itemId
  accepted : depositRefused (s.member.inventory.slot req.srcIdx) (asU16 req.count) = none
  free : destinationTaken item (s.member.inventory.slot req.srcIdx)
    (s.bank.slot (req.whSlot req.dstPos)) = false

def depositDone (env : ClanEnv) (s : BankState) (item : Item) (req : ClanRequest) : BankState :=
  BankState.saveSlot { s with
    bank := s.bank.setItem (req.whSlot req.dstPos)
      (storedItem item (asU16 req.count) env.nextItemSerial (s.member.inventory.slot req.srcIdx)
        (s.bank.slot (req.whSlot req.dstPos)))
    member := { s.member with
      inventory := s.member.inventory.set req.srcIdx
        (reducedItem item (asU16 req.count) (s.member.inventory.slot req.srcIdx)) } }
    (req.whSlot req.dstPos)

theorem depositRefused_ne_success {src : UserItemSlot} {count : ℕ} {r : ClanResult}
    (h : depositRefused src count = some r) : r ≠ .success := by
  unfold depositRefused at h
  split_ifs at h <;> obtain rfl := Option.some.inj h <;> decide

/-- A deposit is answered with an error and leaves everything, or it goes through. -/
theorem handleDeposit_spec (table : ItemTable) (env : ClanEnv) (s : BankState) (req : ClanRequest) :
    (∃ r, r ≠ .success ∧ handleDeposit table env s req = (r, s)) ∨
      ∃ item, table req.itemId = some item ∧ DepositAllowed env s item req ∧
        handleDeposit table env s req = (.success, depositDone env s item req) := by
  have herror : ClanResult.error ≠ .success := by decide
  unfold handleDeposit
  dsimp only
  split_ifs with hstate hfields hpos htrade
  · exact Or.inl ⟨_, herror, rfl⟩
  · exact Or.inl ⟨_, herror, rfl⟩
  · cases table req.itemId <;> exact Or.inl ⟨_, herror, rfl⟩
  · cases table req.itemId <;> exact Or.inl ⟨_, herror, rfl⟩
  split
  · exact Or.inl ⟨_, herror, rfl⟩
  next item hitem =>
  split
  · exact Or.inl ⟨_, herror, rfl⟩
  next src hsrc =>
  split_ifs with hid
  · exact Or.inl ⟨_, herror, rfl⟩
  split
  · next r hrefused => exact Or.inl ⟨r, depositRefused_ne_success hrefused, rfl⟩
  next haccepted =>
  split
  · exact Or.inl ⟨_, by decide, rfl⟩
  next bank hbank =>
  obtain ⟨hfree, rfl⟩ := storeIn_eq_some.mp hbank
  obtain rfl := Inventory.slot_of_getElem? hsrc
  have hlen := (List.getElem?_eq_some_iff.mp hsrc).1
  have hreduce := (@reduceInventory_eq_some item (asU16 req.count) _ _ _).mpr ⟨hlen, rfl⟩
  rw [hreduce]
  simp only [Bool.or_eq_true, Bool.not_eq_true', not_or, Bool.not_eq_true, Bool.not_eq_false,
    Option.isNone_eq_false_iff, not_le] at hstate hfields hpos
  exact Or.inr ⟨item, hitem, ⟨hstate.1.1, ⟨hstate.1.2, hstate.2⟩, hfields, hpos.1, hpos.2, htrade,
    hlen, not_not.mp hid, haccepted, hfree⟩, rfl⟩

structure WithdrawAllowed (table : ItemTable) (env : ClanEnv) (s : BankState) (item : Item)
    (req : ClanRequest) : Prop where
  checked : withdrawChecked table env s.member.inventory req = .ok item
  holds : (s.bank.slot (req.whSlot req.srcPos)).itemId = req.itemId
  enough : asU16 req.count ≤ (s.bank.slot (req.whSlot req.srcPos)).count
  plain : (s.bank.slot (req.whSlot req.srcPos)).flag ≠ ITEM_FLAG_DUPLICATE
  dstIdx_lt : req.dstIdx < s.member.inventory.length
  free : destinationTaken item (s.bank.slot (req.whSlot req.srcPos))
    (s.member.inventory.slot req.dstIdx) = false

def withdrawDone (env : ClanEnv) (s : BankState) (item : Item) (req : ClanRequest) : BankState :=
  BankState.saveSlot { s with
    bank := s.bank.setItem (req.whSlot req.srcPos)
      (reducedItem item (asU16 req.count) (s.bank.slot (req.whSlot req.srcPos)))
    member := { s.member with
      inventory := s.member.inventory.set req.dstIdx
        (storedItem item (asU16 req.count) env.nextItemSerial (s.bank.slot (req.whSlot req.srcPos))
          (s.member.inventory.slot req.dstIdx)) } }
    (req.whSlot req.srcPos)

theorem withdrawChecked_ok {inv : Inventory} (h : withdrawChecked table env inv req = .ok item) :
    table req.itemId = some item ∧ req.itemId ≠ 0 ∧ req.whSlot req.srcPos < WAREHOUSE_MAX ∧
      req.dstPos < HAVE_MAX := by
  unfold withdrawChecked at h
  cases hitem : table req.itemId with
  | none =>
    rw [hitem] at h
    dsimp only at h
    split_ifs at h
  | some item' =>
    rw [hitem] at h
    dsimp only at h
    split_ifs at h with hstate hclan hfields hweight hpos
    obtain rfl := Except.ok.inj h
    simp only [not_or, not_le] at hfields hpos
    exact ⟨rfl, hfields.2.1, hpos.1, hpos.2⟩

theorem withdrawChecked_ne_success {inv : Inventory} {r : ClanResult}
    (h : withdrawChecked table env inv req = .error r) : r ≠ .success := by
  unfold withdrawChecked at h
  cases hitem : table req.itemId <;> rw [hitem] at h <;> dsimp only at h <;> split_ifs at h <;>
    obtain rfl := Except.error.inj h <;> decide

theorem handleWithdraw_spec (table : ItemTable) (env : ClanEnv) (s : BankState)
    (req : ClanRequest) :
    (∃ r, r ≠ .success ∧ handleWithdraw table env s req = (r, s)) ∨
      ∃ item, WithdrawAllowed table env s item req ∧
        handleWithdraw table env s req = (.success, withdrawDone env s item req) := by
  unfold handleWithdraw
  dsimp only
  split
  · next r hchecked => exact Or.inl ⟨r, withdrawChecked_ne_success hchecked, rfl⟩
  next item hchecked =>
  split
  · next r hread => exact Or.inl ⟨r, readStored_ne_success hread, rfl⟩
  next src hread =>
  split
  · exact Or.inl ⟨_, by decide, rfl⟩
  next inventory hadd =>
  obtain ⟨rfl, hid, hcount, hplain⟩ := readStored_ok hread
  obtain ⟨hlen, hfree, rfl⟩ := addToInventory_eq_some.mp hadd
  -- nobody has been at the slot since it was read
  have hdeduct := (@deductStored_eq_some _ item _ _ _ _ _).mpr ⟨hid, hcount, rfl⟩
  rw [hdeduct]
  exact Or.inr ⟨item, ⟨hchecked, hid, hcount, hplain, hlen, hfree⟩, rfl⟩

def moveItemDone (s : BankState) (req : ClanRequest) : BankState :=
  (BankState.saveSlot { s with
    bank := (s.bank.setItem (req.whSlot req.dstPos) (s.bank.slot (req.whSlot req.srcPos))).setItem
      (req.whSlot req.srcPos) {} } (req.whSlot req.srcPos)).saveSlot (req.whSlot req.dstPos)

theorem handleMoveItem_spec (env : ClanEnv) (s : BankState) (req : ClanRequest) :
    (∃ r, r ≠ .success ∧ handleMoveItem env s req = (r, s)) ∨
      req.whSlot req.srcPos < WAREHOUSE_MAX ∧ req.whSlot req.dstPos < WAREHOUSE_MAX ∧
        (s.bank.slot (req.whSlot req.dstPos)).itemId = 0 ∧
        handleMoveItem env s req = (.success, moveItemDone s req) := by
  have herror : ClanResult.error ≠ .success := by decide
  unfold handleMoveItem
  dsimp only
  split_ifs with hstate hclan hpos hslots hdup
  · exact Or.inl ⟨_, herror, rfl⟩
  · exact Or.inl ⟨_, herror, rfl⟩
  · exact Or.inl ⟨_, herror, rfl⟩
  · exact Or.inl ⟨_, by decide, rfl⟩
  · rw [not_or, not_le, not_le] at hpos
    exact Or.inr ⟨hpos.1, hpos.2, hslots.2, rfl⟩
  · exact Or.inl ⟨_, herror, rfl⟩

def BankState.coins (s : BankState) : ℤ := s.bank.gold + s.member.gold

/-- A gold request is answered with an error and leaves everything, or it moves gold alone. -/
theorem handleGoldOp_spec (env : ClanEnv) (s : BankState) (amount direction : ℕ) :
    (∃ r, r ≠ .success ∧ handleGoldOp env s amount direction = (r, s)) ∨
      ∃ (bankGold : ℤ) (gold : ℕ), bankGold + gold = s.coins ∧
        handleGoldOp env s amount direction = (.success, BankState.saveGold { s with
          bank := { s.bank with gold := bankGold }, member := { s.member with gold := gold } }) := by
  have herror : ClanResult.error ≠ .success := by decide
  unfold handleGoldOp
  cases hfame : env.clanFame with
  | none =>
    dsimp only
    split_ifs <;> exact Or.inl ⟨_, herror, rfl⟩
  | some fame =>
    dsimp only
    split_ifs with hstate hzero hdir hdeposit hleader hwithdraw
    · exact Or.inl ⟨_, herror, rfl⟩
    · exact Or.inl ⟨_, herror, rfl⟩
    · refine Or.inr ⟨_, _, ?_, rfl⟩
      rw [goldLose, if_pos hdeposit.1, BankState.coins, Option.getD_some]
      omega
    · exact Or.inl ⟨_, herror, rfl⟩
    · exact Or.inl ⟨_, herror, rfl⟩
    · refine Or.inr ⟨_, _, ?_, rfl⟩
      rw [goldGain, if_neg (not_lt.mpr hwithdraw.2), BankState.coins]
      omega
    · exact Or.inl ⟨_, herror, rfl⟩

inductive GuildCase (table : ItemTable) (env : ClanEnv) (s : BankState) :
    GuildRequest → ClanResult × BankState → Prop
  | refused {r : GuildRequest} {result : ClanResult} (hresult : result ≠ .success) :
      GuildCase table env s r (result, s)
  | goldMoved {amount direction : ℕ} {bankGold : ℤ} {gold : ℕ} (hcoins : bankGold + gold = s.coins) :
      GuildCase table env s (.goldOp amount direction) (.success, BankState.saveGold { s with
        bank := { s.bank with gold := bankGold }, member := { s.member with gold := gold } })
  | deposited {req : ClanRequest} {item : Item} (htable : table req.itemId = some item)
      (hallowed : DepositAllowed env s item req) :
      GuildCase table env s (.deposit req) (.success, depositDone env s item req)
  | withdrawn {req : ClanRequest} {item : Item} (hallowed : WithdrawAllowed table env s item req) :
      GuildCase table env s (.withdraw req) (.success, withdrawDone env s item req)
  | moved {req : ClanRequest} (hsrc : req.whSlot req.srcPos < WAREHOUSE_MAX)
      (hdst : req.whSlot req.dstPos < WAREHOUSE_MAX)
      (hempty : (s.bank.slot (req.whSlot req.dstPos)).itemId = 0) :
      GuildCase table env s (.moveItem req) (.success, moveItemDone s req)

theorem handleItemData_cases (table : ItemTable) (env : ClanEnv) (s : BankState)
    (r : GuildRequest) : GuildCase table env s r (handleItemData table env s r) := by
  cases r with
  | goldOp amount direction =>
    rw [handleItemData]
    rcases handleGoldOp_spec env s amount direction with ⟨_, hr, heq⟩ | ⟨_, _, hcoins, heq⟩
    · rw [heq]
      exact .refused hr
    · rw [heq]
      exact .goldMoved hcoins
  | deposit req =>
    rw [handleItemData]
    rcases handleDeposit_spec table env s req with ⟨_, hr, heq⟩ | ⟨item, htable, hallowed, heq⟩
    · rw [heq]
      exact .refused hr
    · rw [heq]
      exact .deposited htable hallowed
  | withdraw req =>
    rw [handleItemData]
    rcases handleWithdraw_spec table env s req with ⟨_, hr, heq⟩ | ⟨item, hallowed, heq⟩
    · rw [heq]
      exact .refused hr
    · rw [heq]
      exact .withdrawn hallowed
  | moveItem req =>
    rw [handleItemData]
    rcases handleMoveItem_spec env s req with ⟨_, hr, heq⟩ | ⟨hsrc, hdst, hempty, heq⟩
    · rw [heq]
      exact .refused hr
    · rw [heq]
      exact .moved hsrc hdst hempty

/-- A request answered with an error changes nothing. -/
theorem handleItemData_error {r : GuildRequest}
    (h : (handleItemData table env s r).1 ≠ .success) : (handleItemData table env s r).2 = s := by
  have hcase := handleItemData_cases table env s r
  generalize handleItemData table env s r = out at hcase h ⊢
  cases hcase with
  | refused _ => rfl
  | goldMoved _ => exact absurd rfl h
  | deposited _ _ => exact absurd rfl h
  | withdrawn _ => exact absurd rfl h
  | moved _ _ _ => exact absurd rfl h

def BankState.units (table : ItemTable) (id : ℕ) (s : BankState) : ℕ :=
  KoServer.units table id s.bank.items + KoServer.units table id s.member.inventory

def NoGhosts (slots : List UserItemSlot) : Prop := ∀ s ∈ slots, s.itemId ≠ 0 → s.count ≠ 0

instance (slots : List UserItemSlot) : Decidable (NoGhosts slots) := by
  unfold NoGhosts
  infer_instance

def BankState.NoGhosts (s : BankState) : Prop :=
  KoServer.NoGhosts s.bank.items ∧ KoServer.NoGhosts s.member.inventory

/-- The transfer changes what there is of the item, or shows it where nothing arrived. -/
def strands (item : Item) (count : ℕ) (src dst : UserItemSlot) : Prop :=
  landsShort item count dst ∨ leavesShort item count src ∨ unitsLanded item count dst = 0

instance (item : Item) (count : ℕ) (src dst : UserItemSlot) :
    Decidable (strands item count src dst) := by
  unfold strands
  infer_instance

def requestStrands (table : ItemTable) (env : ClanEnv) (s : BankState) : GuildRequest → Prop
  | .deposit req => ∃ item, table req.itemId = some item ∧ DepositAllowed env s item req ∧
      strands item (asU16 req.count) (s.member.inventory.slot req.srcIdx)
        (s.bank.slot (req.whSlot req.dstPos))
  | .withdraw req => ∃ item, WithdrawAllowed table env s item req ∧
      strands item (asU16 req.count) (s.bank.slot (req.whSlot req.srcPos))
        (s.member.inventory.slot req.dstIdx)
  | .goldOp _ _ => False
  | .moveItem _ => False

section Ghosts

variable {slots : List UserItemSlot}

theorem noGhosts_set (h : NoGhosts slots) (i : ℕ) {a : UserItemSlot}
    (ha : a.itemId ≠ 0 → a.count ≠ 0) : NoGhosts (slots.set i a) := by
  intro t ht
  rcases List.mem_or_eq_of_mem_set ht with ht | rfl
  · exact h t ht
  · exact ha

theorem noGhosts_slot (h : NoGhosts slots) (i : ℕ) :
    (Inventory.slot slots i).itemId ≠ 0 → (Inventory.slot slots i).count ≠ 0 :=
  Inventory.forall_slot (p := fun t => t.itemId ≠ 0 → t.count ≠ 0) h (fun h => absurd rfl h) i

theorem reducedItem_noGhost {count : ℕ} :
    (reducedItem item count src).itemId ≠ 0 → (reducedItem item count src).count ≠ 0 := by
  rw [reducedItem_eq]
  split_ifs with h
  · exact fun _ => h.2
  · exact fun h => absurd rfl h

end Ghosts

/-- What every step of a run that strands nothing keeps. -/
structure BankKept (table : ItemTable) (s s' : BankState) : Prop where
  units : ∀ id ≠ 0, s'.units table id = s.units table id
  coins : s'.coins = s.coins
  noGhosts : s.NoGhosts → s'.NoGhosts

theorem BankKept.refl (s : BankState) : BankKept table s s := ⟨fun _ _ => rfl, rfl, id⟩

theorem BankKept.trans {s'' : BankState} (h : BankKept table s s') (h' : BankKept table s' s'') :
    BankKept table s s'' :=
  ⟨fun id hid => (h'.units id hid).trans (h.units id hid), h'.coins.trans h.coins,
    fun hs => h'.noGhosts (h.noGhosts hs)⟩

theorem transfer_kept {count nextSerial : ℕ} {src dst : UserItemSlot}
    (htable : table src.itemId = some item) (hcount : count ≤ src.count)
    (hfree : destinationTaken item src dst = false) (hkept : ¬ strands item count src dst) {id : ℕ}
    (hid : id ≠ 0) :
    slotUnits table id (reducedItem item count src) +
        slotUnits table id (storedItem item count nextSerial src dst) =
      slotUnits table id src + slotUnits table id dst := by
  unfold strands at hkept
  obtain ⟨hlands, hleaves, -⟩ := not_or.mp hkept |>.imp_right not_or.mp
  have harrives := @storedItem_units table item src dst count nextSerial id htable hfree hlands hid
  have hgone := reducedItem_units htable rfl hcount hleaves hid
  omega

theorem depositRefused_enough {src : UserItemSlot} {count : ℕ}
    (h : depositRefused src count = none) : count ≤ src.count := by
  unfold depositRefused at h
  split_ifs at h with hflag hdup hcount
  exact not_lt.mp hcount

theorem depositDone_kept (htable : table req.itemId = some item) (h : DepositAllowed env s item req)
    (hkept : ¬ strands item (asU16 req.count) (s.member.inventory.slot req.srcIdx)
      (s.bank.slot (req.whSlot req.dstPos))) : BankKept table s (depositDone env s item req) := by
  refine ⟨fun id hid => ?_, rfl, fun hs => ⟨noGhosts_set hs.1 _ fun _ => ?_,
    noGhosts_set hs.2 _ reducedItem_noGhost⟩⟩
  · have htransfer := @transfer_kept table item _ env.nextItemSerial _ _ (h.holds.symm ▸ htable)
      (depositRefused_enough h.accepted) h.free hkept id hid
    have hbank := ClanStorage.units_setItem (b := s.bank) table id h.whIdx_lt
      (storedItem item (asU16 req.count) env.nextItemSerial (s.member.inventory.slot req.srcIdx)
        (s.bank.slot (req.whSlot req.dstPos)))
    have hinv := units_set table id h.srcIdx_lt
      (reducedItem item (asU16 req.count) (s.member.inventory.slot req.srcIdx))
    show units table id (s.bank.setItem _ _).items + units table id (s.member.inventory.set _ _) = _
    unfold BankState.units
    omega
  · rw [storedItem_count]
    exact fun h => hkept (Or.inr (Or.inr h))

theorem withdrawDone_kept (h : WithdrawAllowed table env s item req)
    (hkept : ¬ strands item (asU16 req.count) (s.bank.slot (req.whSlot req.srcPos))
      (s.member.inventory.slot req.dstIdx)) : BankKept table s (withdrawDone env s item req) := by
  obtain ⟨htable, -, hwh, -⟩ := withdrawChecked_ok h.checked
  refine ⟨fun id hid => ?_, rfl, fun hs => ⟨noGhosts_set hs.1 _ reducedItem_noGhost,
    noGhosts_set hs.2 _ fun _ => ?_⟩⟩
  · have htransfer := @transfer_kept table item _ env.nextItemSerial _ _ (h.holds.symm ▸ htable)
      h.enough h.free hkept id hid
    have hbank := ClanStorage.units_setItem (b := s.bank) table id hwh
      (reducedItem item (asU16 req.count) (s.bank.slot (req.whSlot req.srcPos)))
    have hinv := units_set table id h.dstIdx_lt
      (storedItem item (asU16 req.count) env.nextItemSerial (s.bank.slot (req.whSlot req.srcPos))
        (s.member.inventory.slot req.dstIdx))
    show units table id (s.bank.setItem _ _).items + units table id (s.member.inventory.set _ _) = _
    unfold BankState.units
    omega
  · rw [storedItem_count]
    exact fun h => hkept (Or.inr (Or.inr h))

theorem moveItemDone_kept (hsrc : req.whSlot req.srcPos < WAREHOUSE_MAX)
    (hdst : req.whSlot req.dstPos < WAREHOUSE_MAX)
    (hempty : (s.bank.slot (req.whSlot req.dstPos)).itemId = 0) :
    BankKept table s (moveItemDone s req) := by
  refine ⟨fun id hid => ?_, rfl, fun hs => ⟨noGhosts_set (noGhosts_set hs.1 _
    (noGhosts_slot hs.1 _)) _ fun h => absurd rfl h, hs.2⟩⟩
  exact congrArg (· + _) (units_move (s.bank.idx_lt hsrc) (s.bank.idx_lt hdst) hid hempty)

theorem handleItemData_kept {r : GuildRequest} (hkept : ¬ requestStrands table env s r) :
    BankKept table s (handleItemData table env s r).2 := by
  have hcase := handleItemData_cases table env s r
  generalize handleItemData table env s r = out at hcase ⊢
  cases hcase with
  | refused _ => exact BankKept.refl s
  | goldMoved hcoins => exact ⟨fun _ _ => rfl, hcoins, id⟩
  | deposited htable hallowed =>
    exact depositDone_kept htable hallowed fun h => hkept ⟨_, htable, hallowed, h⟩
  | withdrawn hallowed => exact withdrawDone_kept hallowed fun h => hkept ⟨_, hallowed, h⟩
  | moved hsrc hdst hempty => exact moveItemDone_kept hsrc hdst hempty

def guildStep (table : ItemTable) (s : BankState) (i : ClanEnv × GuildRequest) : BankState :=
  (handleItemData table i.1 s i.2).2

theorem guildStep_kept {steps : List (ClanEnv × GuildRequest)}
    (hok : Run.Along (guildStep table) (fun s i => ¬ requestStrands table i.1 s i.2) s steps) :
    BankKept table s (Run.run (guildStep table) s steps) :=
  Run.invariant (BankKept table s) (fun _ _ ht hi => ht.trans (handleItemData_kept hi)) hok
    (BankKept.refl s)

/-- Over any run of requests none of which strands units, the bank and the member together keep
every item and all gold, and no slot comes to show an item of which there is nothing; and a
request that is answered with an error changes nothing, in any state. -/
theorem guild_bank_conserves (table : ItemTable) {s : BankState}
    {steps : List (ClanEnv × GuildRequest)}
    (hok : Run.Along (guildStep table) (fun s i => ¬ requestStrands table i.1 s i.2) s steps) :
    (∀ id ≠ 0, (Run.run (guildStep table) s steps).units table id = s.units table id) ∧
      (Run.run (guildStep table) s steps).coins = s.coins ∧
      (s.NoGhosts → (Run.run (guildStep table) s steps).NoGhosts) ∧
      ∀ env (t : BankState) r, (handleItemData table env t r).1 ≠ .success →
        (handleItemData table env t r).2 = t := by
  have hkept := guildStep_kept hok
  exact ⟨hkept.units, hkept.coins, hkept.noGhosts, fun env t r => handleItemData_error⟩

/-- A clan leader who stands around. -/
def quietClan : ClanEnv where
  toWarehouseEnv := quietInn
  clanFame := some CHIEF
  clanKnown := true

/-- Ten potions in the leader's first bag slot, and 9995 in the first slot of the bank. -/
def potionBank : BankState where
  bank :=
    { items := { itemId := 389010000, durability := 1, count := 9995 } ::
        List.replicate (WAREHOUSE_MAX - 1) {}
      items_length := by rw [List.length_cons, List.length_replicate]; rfl
      gold := 0 }
  member :=
    { inventory := Inventory.padded (List.replicate SLOT_MAX {} ++
        [{ itemId := 389010000, durability := 1, count := 10 }])
      gold := 0 }
  pending := []

/-- A request for potions between the first bag slot and a slot of the first tab. -/
def bankPotions (srcPos dstPos count : ℕ) : ClanRequest where
  npcId := 0
  itemId := 389010000
  tab := 0
  srcPos := srcPos
  dstPos := dstPos
  count := count

theorem guild_bank_conserves_potions :
    (Run.run (guildStep potionTable) potionBank
      [(quietClan, .deposit (bankPotions 0 0 4))]).units potionTable 389010000 = 10005 := by
  have hok : ¬ requestStrands potionTable quietClan potionBank (.deposit (bankPotions 0 0 4)) := by
    rintro ⟨item, hitem, -, hstrands⟩
    obtain rfl := Option.some.inj
      ((show potionTable 389010000 = some { countable := some 1 } from rfl).symm.trans hitem)
    revert hstrands
    decide +kernel
  have hkept := (@guild_bank_conserves potionTable potionBank
    [(quietClan, .deposit (bankPotions 0 0 4))] ⟨hok, trivial⟩).1 389010000 (by decide)
  exact hkept.trans (by decide +kernel)

/-- A deposit of 65536 potions puts none of them into a free slot and marks it as theirs; one of
all ten onto the stack loses five. Both are answered with success. -/
theorem guild_bank_strands_potions :
    (potionBank.NoGhosts ∧
      (handleItemData potionTable quietClan potionBank
        (.deposit (bankPotions 0 1 65536))).1 = .success ∧
      ¬ (Run.run (guildStep potionTable) potionBank
        [(quietClan, .deposit (bankPotions 0 1 65536))]).NoGhosts) ∧
    (Run.run (guildStep potionTable) potionBank
      [(quietClan, .deposit (bankPotions 0 0 10))]).units potionTable 389010000 ≠
      potionBank.units potionTable 389010000 := by
  refine ⟨⟨⟨by decide +kernel, by decide +kernel⟩, by decide +kernel, fun h => ?_⟩, by decide +kernel⟩
  exact absurd h.1 (by decide +kernel)

end KoServer
