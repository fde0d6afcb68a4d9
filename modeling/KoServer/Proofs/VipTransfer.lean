import KoServer.Proofs.VipWarehouse

/-! What the transfers between bag and VIP vault keep: the units of each item under each flag.
They are kept where all that leaves the source arrives, under the flag that is there. -/

namespace KoServer

variable {table : ItemTable} {env : VipEnv} {s : VipSession} {item : Item}
  {src dst : UserItemSlot} {req : VipItemRequest} {id flag count n : ℕ}

def flagUnits (id flag : ℕ) (a : UserItemSlot) : ℕ :=
  if a.itemId = id ∧ a.flag = flag then a.count else 0

def VipSession.carried (id flag : ℕ) (s : VipSession) : ℕ :=
  Tally.total (flagUnits id flag) s.inventory + s.inVault (flagUnits id flag)

def VipRequest.isTransfer : VipRequest → Bool
  | .invenToStorage _ | .storageToInven _ | .storageToStore _ | .invenToInven _ => true
  | _ => false

/-- Every unit keeps its flag, and a request that is answered with an error changes nothing. -/
structure ConservesVip (table : ItemTable) (s : VipSession) (i : VipEnv × VipRequest) : Prop where
  units : ∀ id ≠ 0, ∀ flag, (vipStep table s i).carried id flag = s.carried id flag
  error : ∀ opcode code, (handleVip table i.1 s i.2).1 = some (opcode, code) → code ≠ 1 →
    vipStep table s i = s

/-- The destination takes all that leaves the source, and joins no units under another flag. -/
def TransfersWhole (item : Item) (count : ℕ) (src dst : UserItemSlot) : Prop :=
  src.itemId = 0 ∨ unitsLanded item count dst = unitsOwed item count src dst ∧
    (dst.itemId = 0 ∨ dst.count = 0 ∨ dst.flag = src.flag)

/-- The condition on a request; the transfer to the vault clears its destination. -/
def MovesWhole (table : ItemTable) (s : VipSession) (i : VipEnv × VipRequest) : Prop :=
  match i.2 with
  | .invenToStorage req => ∀ item src, StoreAllowed table i.1 s req item src →
      TransfersWhole item req.count src (vipCleared (s.vipSlot (req.referencePos + req.dstPos)))
  | .storageToInven req => ∀ item dst, FetchAllowed table i.1 s req item dst →
      TransfersWhole item req.count (s.vipSlot (req.referencePos + req.srcPos)) dst
  | _ => True

theorem flagUnits_of_same (hid : src.itemId = id) (hflag : src.flag = flag) :
    flagUnits id flag src = src.count := if_pos ⟨hid, hflag⟩

theorem flagUnits_of_flag (h : src.flag ≠ flag) : flagUnits id flag src = 0 :=
  if_neg fun hand => h hand.2

theorem flagUnits_of_item (h : src.itemId ≠ id) : flagUnits id flag src = 0 :=
  if_neg fun hand => h hand.1

theorem flagUnits_of_empty (hid : id ≠ 0) (h : src.itemId = 0) : flagUnits id flag src = 0 :=
  flagUnits_of_item fun heq => hid (heq.symm.trans h)

theorem flagUnits_vipCleared (hid : id ≠ 0) :
    flagUnits id flag (vipCleared dst) = flagUnits id flag dst := by
  unfold vipCleared
  split_ifs with h
  · rw [flagUnits_of_empty hid rfl]
    rcases h with h | h
    · unfold flagUnits
      split_ifs
      · exact h.symm
      · rfl
    · exact (flagUnits_of_empty hid h).symm
  · rfl

theorem flagUnits_storedItem : flagUnits id flag (storedItem item count n src dst) =
    if src.itemId = id ∧ src.flag = flag then unitsLanded item count dst else 0 := by
  rw [← @storedItem_count item src dst count n]
  rfl

theorem flagUnits_vipSource (h : count ≤ src.count) (hid : id ≠ 0) :
    flagUnits id flag (vipSource item count src) =
      if src.itemId = id ∧ src.flag = flag then
        if 0 < item.countableD then src.count - count else 0
      else 0 := by
  rw [vipSource_eq h]
  by_cases hleft : 0 < item.countableD ∧ count < src.count
  · rw [if_pos hleft, if_pos hleft.1]
    rfl
  · rw [if_neg hleft, flagUnits_of_empty hid rfl]
    split_ifs
    · omega
    · rfl
    · rfl

theorem transfer_even_iff (hcount : count ≤ src.count) (hsrc : src.itemId ≠ 0)
    (hfree : destinationTaken item src dst = false) :
    (∀ id ≠ 0, ∀ flag, flagUnits id flag (vipSource item count src) +
        flagUnits id flag (storedItem item count n src dst) =
      flagUnits id flag src + flagUnits id flag dst) ↔ TransfersWhole item count src dst := by
  have hdst := of_destinationTaken hfree
  constructor
  · intro h
    refine Or.inr ?_
    have hflags : dst.itemId = 0 ∨ dst.count = 0 ∨ dst.flag = src.flag := by
      by_contra hother
      push Not at hother
      obtain ⟨hid, hunits, hflag⟩ := hother
      have heq := h dst.itemId hid dst.flag
      rw [flagUnits_vipSource hcount hid, flagUnits_storedItem,
        if_neg fun hand => hflag hand.2.symm, if_neg fun hand => hflag hand.2.symm,
        flagUnits_of_flag hflag.symm, flagUnits_of_same rfl rfl] at heq
      omega
    refine ⟨?_, hflags⟩
    have heq := h src.itemId hsrc src.flag
    have hself : src.itemId = src.itemId ∧ src.flag = src.flag := ⟨rfl, rfl⟩
    rw [flagUnits_vipSource hcount hsrc, flagUnits_storedItem, if_pos hself, if_pos hself,
      flagUnits_of_same rfl rfl] at heq
    unfold unitsOwed
    rcases hdst with hempty | ⟨hpos, hsame⟩
    · rw [flagUnits_of_empty hsrc hempty] at heq
      rw [if_pos hempty]
      split_ifs at heq ⊢
      · omega
      · omega
    · rw [if_pos hpos] at heq
      rw [if_pos hpos, if_neg (hsame ▸ hsrc)]
      rcases hflags with hempty | hzero | hflag
      · exact absurd (hsame ▸ hempty) hsrc
      · have hnone : flagUnits src.itemId src.flag dst = 0 := by
          unfold flagUnits
          split_ifs
          · exact hzero
          · rfl
        omega
      · rw [flagUnits_of_same hsame hflag] at heq
        omega
  · rintro (hzero | ⟨hlanded, hflags⟩) id hid flag
    · exact absurd hzero hsrc
    rw [flagUnits_vipSource hcount hid, flagUnits_storedItem, hlanded]
    by_cases hsame : src.itemId = id ∧ src.flag = flag
    · rw [if_pos hsame, if_pos hsame, flagUnits_of_same hsame.1 hsame.2]
      unfold unitsOwed
      rcases hdst with hempty | ⟨hpos, hitem⟩
      · rw [flagUnits_of_empty hid hempty, if_pos hempty]
        split_ifs
        · omega
        · omega
      · rw [if_pos hpos, if_pos hpos, if_neg (hitem ▸ hsrc)]
        rcases hflags with hempty | hzero | hflag
        · exact absurd (hitem ▸ hempty) hsrc
        · have hnone : flagUnits id flag dst = 0 := by
            unfold flagUnits
            split_ifs
            · exact hzero
            · rfl
          omega
        · rw [flagUnits_of_same (hitem.trans hsame.1) (hflag.trans hsame.2)]
          omega
    · rw [if_neg hsame, if_neg hsame]
      have hnosrc : flagUnits id flag src = 0 := if_neg hsame
      have hnodst : flagUnits id flag dst = 0 := by
        rcases hdst with hempty | ⟨-, hitem⟩
        · exact flagUnits_of_empty hid hempty
        · rcases hflags with hempty | hzero | hflag
          · exact flagUnits_of_empty hid hempty
          · unfold flagUnits
            split_ifs
            · exact hzero
            · rfl
          · exact if_neg fun hand => hsame ⟨hitem ▸ hand.1, hflag ▸ hand.2⟩
      omega

/-- A bag slot and a vault slot, both overwritten. -/
theorem carried_setItems {i j : ℕ} (hi : s.inventory[i]? = some src) (hj : j < VIPWAREHOUSE_MAX)
    (a b : UserItemSlot) :
    (s.setItems (s.inventory.set i a) j b).carried id flag + flagUnits id flag src +
        flagUnits id flag (s.vipSlot j) =
      s.carried id flag + flagUnits id flag a + flagUnits id flag b := by
  obtain ⟨hlen, -⟩ := List.getElem?_eq_some_iff.mp hi
  have hbag := Tally.total_set (flagUnits id flag) hlen a {}
  have hslot : s.inventory.getD i {} = src := by rw [List.getD_eq_getElem?_getD, hi]; rfl
  have hvault := inVault_setItems (s := s) (flagUnits id flag) (s.inventory.set i a) hj b
  rw [hslot] at hbag
  unfold VipSession.carried
  have hsame : (s.setItems (s.inventory.set i a) j b).inventory = s.inventory.set i a := rfl
  rw [hsame]
  omega

theorem storeDone_even_iff (h : StoreAllowed table env s req item src) :
    (∀ id ≠ 0, ∀ flag, (storeDone env s req item src).carried id flag = s.carried id flag) ↔
      TransfersWhole item req.count src
        (vipCleared (s.vipSlot (req.referencePos + req.dstPos))) := by
  have hset := fun id flag => @carried_setItems s src id flag _ _ h.src_eq h.vipIdx_lt
    (vipSource item req.count src) (storedItem item req.count env.nextItemSerial src
      (vipCleared (s.vipSlot (req.referencePos + req.dstPos))))
  have hfree : destinationTaken item src
      (vipCleared (s.vipSlot (req.referencePos + req.dstPos))) = false := by
    unfold vipCleared
    split_ifs
    · rfl
    · exact h.free
  have hdst := of_destinationTaken h.free
  unfold storeDone
  dsimp only
  by_cases hsrc : src.itemId = 0
  · refine iff_of_true (fun id hid flag => ?_) (Or.inl hsrc)
    have heq := hset id flag
    have hnone : (s.vipSlot (req.referencePos + req.dstPos)).itemId = 0 :=
      hdst.elim (fun h => h) fun h => h.2.trans hsrc
    rw [flagUnits_vipSource h.enough hid, flagUnits_storedItem,
      if_neg fun hand => hid (hand.1.symm.trans hsrc),
      if_neg fun hand => hid (hand.1.symm.trans hsrc), flagUnits_of_empty hid hsrc,
      flagUnits_of_empty hid hnone] at heq
    omega
  · rw [← transfer_even_iff (n := env.nextItemSerial) h.enough hsrc hfree]
    refine forall₃_congr fun id hid flag => ?_
    have heq := hset id flag
    rw [flagUnits_vipCleared hid]
    omega

theorem fetchDone_even_iff (h : FetchAllowed table env s req item dst) :
    (∀ id ≠ 0, ∀ flag, (fetchDone env s req item dst).carried id flag = s.carried id flag) ↔
      TransfersWhole item req.count (s.vipSlot (req.referencePos + req.srcPos)) dst := by
  have hset := fun id flag => @carried_setItems s dst id flag _ _ h.dst_eq h.vipIdx_lt
    (storedItem item req.count env.nextItemSerial (s.vipSlot (req.referencePos + req.srcPos)) dst)
    (vipSource item req.count (vipCleared (s.vipSlot (req.referencePos + req.srcPos))))
  have hfree := h.free
  have henough := h.enough
  have hcounted := h.counted
  unfold fetchDone
  dsimp only
  generalize s.vipSlot (req.referencePos + req.srcPos) = src at *
  by_cases hsrc : src.itemId = 0
  · refine iff_of_true (fun id hid flag => ?_) (Or.inl hsrc)
    have heq := hset id flag
    have hnone : dst.itemId = 0 :=
      (of_destinationTaken hfree).elim (fun h => h) fun h => h.2.trans hsrc
    have hleft : (vipSource item req.count (vipCleared src)).itemId = 0 := by
      rw [vipCleared, if_pos (Or.inr hsrc), vipSource]
      split_ifs
      all_goals rfl
    rw [flagUnits_storedItem, if_neg fun hand => hid (hand.1.symm.trans hsrc),
      flagUnits_of_empty hid hleft, flagUnits_of_empty hid hsrc,
      flagUnits_of_empty hid hnone] at heq
    omega
  · have hcleared : vipCleared src = src := vipCleared_of_count hsrc (by omega)
    rw [hcleared] at hset ⊢
    rw [← transfer_even_iff (n := env.nextItemSerial) henough hsrc hfree]
    refine forall₃_congr fun id hid flag => ?_
    have heq := hset id flag
    omega

theorem carried_swap {a b : ℕ} (ha : a < s.inventory.length) (hb : b < s.inventory.length) :
    Tally.total (flagUnits id flag) (s.inventory.swap a b) =
      Tally.total (flagUnits id flag) s.inventory := by
  have hfirst := Tally.total_set (flagUnits id flag) ha (s.inventory.slot b) ({} : UserItemSlot)
  have hb' : b < (s.inventory.set a (s.inventory.slot b)).length := by rwa [List.length_set]
  have hsecond := Tally.total_set (flagUnits id flag) hb' (s.inventory.slot a)
    ({} : UserItemSlot)
  have hread : (s.inventory.set a (s.inventory.slot b)).getD b ({} : UserItemSlot) =
      s.inventory.slot b := by
    by_cases hab : a = b
    · subst hab
      exact Tally.getD_set_self ha _ ({} : UserItemSlot)
    · exact Tally.getD_set_ne hab _ ({} : UserItemSlot)
  rw [hread] at hsecond
  unfold Inventory.swap
  unfold Inventory.slot at *
  omega

theorem conserves_iff {i : VipEnv × VipRequest} (htransfer : i.2.isTransfer = true) :
    ConservesVip table s i ↔ MovesWhole table s i := by
  obtain ⟨env, req⟩ := i
  have heffect := handleVip_effect table env s req
  have hstep : vipStep table s (env, req) = (handleVip table env s req).2 := rfl
  have hiff : ConservesVip table s (env, req) ↔
      (∀ id ≠ 0, ∀ flag, (handleVip table env s req).2.carried id flag = s.carried id flag) ∧
        ∀ opcode code, (handleVip table env s req).1 = some (opcode, code) → code ≠ 1 →
          (handleVip table env s req).2 = s :=
    ⟨fun h => ⟨h.units, h.error⟩, fun h => ⟨h.1, h.2⟩⟩
  rw [hiff]
  generalize handleVip table env s req = result at heffect
  cases heffect with
  | unchanged answer h =>
    refine iff_of_true ⟨fun _ _ _ => rfl, fun _ _ _ _ => rfl⟩ ?_
    cases req with
    | invenToStorage req => exact fun item src hallowed => absurd ⟨item, src, hallowed⟩ h
    | storageToInven req => exact fun item dst hallowed => absurd ⟨item, dst, hallowed⟩ h
    | _ => trivial
  | @stored req item src h =>
    have heven := storeDone_even_iff h
    have hknown := h.known
    have hsrc := h.src_eq
    constructor
    · rintro ⟨hunits, -⟩ item' src' h'
      obtain rfl : item = item' := Option.some.inj (hknown.symm.trans h'.known)
      obtain rfl : src = src' := Option.some.inj (hsrc.symm.trans h'.src_eq)
      exact heven.mp hunits
    · intro hwhole
      refine ⟨heven.mpr (hwhole item src h), fun opcode code heq hcode => ?_⟩
      rw [Option.some.injEq, Prod.mk.injEq] at heq
      exact absurd heq.2.symm hcode
  | @fetched req item dst h =>
    have heven := fetchDone_even_iff h
    have hknown := h.known
    have hdst := h.dst_eq
    constructor
    · rintro ⟨hunits, -⟩ item' dst' h'
      obtain rfl : item = item' := Option.some.inj (hknown.symm.trans h'.known)
      obtain rfl : dst = dst' := Option.some.inj (hdst.symm.trans h'.dst_eq)
      exact heven.mp hunits
    · intro hwhole
      refine ⟨heven.mpr (hwhole item dst h), fun opcode code heq hcode => ?_⟩
      rw [Option.some.injEq, Prod.mk.injEq] at heq
      exact absurd heq.2.symm hcode
  | moved hsrc hdst hempty =>
    refine iff_of_true ⟨fun id hid flag => ?_, fun opcode code heq hcode => ?_⟩ trivial
    · exact congrArg (Tally.total (flagUnits id flag) s.inventory + ·)
        (inVault_moved (fun a ha => flagUnits_of_empty hid ha) _ _ hsrc hdst hempty)
    · rw [Option.some.injEq, Prod.mk.injEq] at heq
      exact absurd heq.2.symm hcode
  | swapped hsrc hdst =>
    refine iff_of_true ⟨fun id hid flag => ?_, fun opcode code heq hcode => ?_⟩ trivial
    · exact congrArg (· + s.inVault (flagUnits id flag)) (carried_swap hsrc hdst)
    · rw [Option.some.injEq, Prod.mk.injEq] at heq
      exact absurd heq.2.symm hcode
  | keyed inventory expiry => cases htransfer
  | set h hpin => cases htransfer
  | cancelled h => cases htransfer
  | changed h hpin => cases htransfer

/-- A run of transfers keeps every unit under its flag just where each of them meets the
condition. -/
theorem vip_conserves_iff (table : ItemTable) {s : VipSession}
    {steps : List (VipEnv × VipRequest)} (htransfer : ∀ i ∈ steps, i.2.isTransfer = true) :
    Run.Along (vipStep table) (ConservesVip table) s steps ↔
      Run.Along (vipStep table) (MovesWhole table) s steps := by
  have hkind : Run.Along (vipStep table) (fun _ i => i.2.isTransfer = true) s steps :=
    Run.along_of_forall s htransfer
  have hcongr : Run.Along (vipStep table)
        (fun s i => ConservesVip table s i ∧ i.2.isTransfer = true) s steps ↔
      Run.Along (vipStep table) (fun s i => MovesWhole table s i ∧ i.2.isTransfer = true) s steps :=
    Run.along_congr (fun _ => True) (fun _ _ _ _ => trivial)
      (fun s i _ => and_congr_left conserves_iff) trivial
  rw [Run.along_and, Run.along_and] at hcongr
  exact ⟨fun h => (hcongr.mp ⟨h, hkind⟩).1, fun h => (hcongr.mpr ⟨h, hkind⟩).1⟩

theorem fivePotions_length : (({ itemId := 389010000, count := 5, serialNum := 7 } : UserItemSlot) ::
    List.replicate 47 {}).length = VIPWAREHOUSE_MAX := by
  rw [List.length_cons, List.length_replicate]
  rfl

/-- Five potions in the first slot of the vault, and some in the first of the bag. -/
def potionBag (count flag : ℕ) : VipSession where
  inventory := (List.replicate INVENTORY_TOTAL {}).set SLOT_MAX
    { itemId := 389010000, count := count, flag := flag, serialNum := 8 }
  vipWarehouse :=
    { itemId := 389010000, count := 5, serialNum := 7 } :: List.replicate 47 ({} : UserItemSlot)
  vipWarehouse_length := fivePotions_length
  vipPassword := []
  vipPasswordRequest := 0
  vipVaultExpiry := 0

def fetchPotions : VipEnv × VipRequest :=
  (idleVip, .storageToInven
    { itemId := 389010000, page := 0, srcPos := 0, dstPos := 0, count := 5 })

theorem vip_conserves_potions :
    Run.Along (vipStep potionTable) (ConservesVip potionTable) (potionBag 3 0) [fetchPotions] := by
  refine (vip_conserves_iff potionTable (List.forall_mem_singleton.mpr rfl)).mpr
    ⟨fun item dst h => Or.inr ?_, trivial⟩
  obtain rfl : ({ countable := some 1 } : Item) = item := Option.some.inj h.known
  obtain rfl : ({ itemId := 389010000, count := 3, serialNum := 8 } : UserItemSlot) = dst :=
    Option.some.inj h.dst_eq
  exact ⟨by decide +kernel, by decide +kernel⟩

/-- The five potions come onto three that are sealed, and all eight are without a seal then. -/
theorem vip_unseals_potions :
    ¬ ∀ (table : ItemTable) (s : VipSession) (steps : List (VipEnv × VipRequest)),
      (∀ a ∈ s.inventory ++ s.vipWarehouse, a.count ≤ ITEMCOUNT_MAX) →
      (∀ i ∈ steps, i.2.isTransfer = true) →
        Run.Along (vipStep table) (ConservesVip table) s steps := by
  intro h
  obtain ⟨hconserves, -⟩ := h potionTable (potionBag 3 ITEM_FLAG_SEALED) [fetchPotions]
    (by decide +kernel) (List.forall_mem_singleton.mpr rfl)
  have hunits := hconserves.units 389010000 (by decide) ITEM_FLAG_SEALED
  exact absurd hunits (by decide +kernel)

end KoServer
