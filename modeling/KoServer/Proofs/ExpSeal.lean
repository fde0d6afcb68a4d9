import KoServer.Proofs.ExpLoss
import KoServer.Proofs.GiveItem
import KoServer.Spec.ExpSeal

/-! What the experience seal keeps: a gain goes to the sealed experience up to its cap, to the
character when the cap is reached, and a jar is filled for exactly what it holds. -/

namespace KoServer

variable {w : Widths} {t : LevelTables} {ch : Progress} {call : ExpCall}

theorem seal_levelChange (w : Widths) (t : LevelTables) (ch : Progress) (level : ℕ)
    (isLevelUp : Bool) :
    (ch.levelChange w t level isLevelUp).sealedExp = ch.sealedExp ∧
      (ch.levelChange w t level isLevelUp).expSealStatus = ch.expSealStatus := by
  unfold Progress.levelChange
  split_ifs
  · exact ⟨rfl, rfl⟩
  · unfold Progress.levelJump Progress.setSkill
    dsimp only
    split_ifs <;> exact ⟨rfl, rfl⟩
  · unfold Progress.levelUp Progress.grantSkills Progress.grantStats Progress.setSkill
    dsimp only
    split_ifs <;> exact ⟨rfl, rfl⟩
  · exact ⟨rfl, rfl⟩

theorem sealedExp_dropLevel (w : Widths) (t : LevelTables) (ch : Progress) :
    (ch.dropLevel w t).sealedExp = ch.sealedExp := (seal_levelChange w t _ _ _).1

theorem sealedExp_le (hle : ch.sealedExp ≤ MAX_SEALED_EXP) :
    (ch.expChangeInner w t call).sealedExp ≤ MAX_SEALED_EXP := by
  fun_induction Progress.expChangeInner w t ch call with
  | case1 => exact hle
  | case2 => exact hle
  | case3 _ _ _ _ _ _ _ ih => exact ih hle
  | case4 => exact min_le_right _ _
  | case5 => exact hle
  | case6 ch _ _ _ _ _ _ _ _ _ ih => exact ih ((sealedExp_dropLevel w t ch).trans_le hle)
  | case7 ch => exact (sealedExp_dropLevel w t ch).trans_le hle
  | case8 => exact (seal_levelChange w t _ _ _).1.trans_le hle
  | case9 => exact hle
  | case10 => exact hle

/-- Below the cap the gain is all sealed, as far as the cap allows. -/
theorem sealed_below (hexp : ch.exp < 2 ^ 63) (hopen : 0 < call.iExp)
    (hseal : ch.expSealStatus = true) (hgain : 0 < call.withBonuses)
    (hnarrow : call.withBonuses < 2 ^ 32) (hroom : ch.sealedExp < MAX_SEALED_EXP) :
    ch.expChangeInner w t call =
      { ch with sealedExp := min (ch.sealedExp + call.withBonuses.toNat) MAX_SEALED_EXP } := by
  have hwhole : asU32 call.withBonuses = call.withBonuses.toNat := by
    unfold asU32
    omega
  have hcut : ∀ n : ℕ, min (min n (2 ^ 32 - 1)) MAX_SEALED_EXP = min n MAX_SEALED_EXP := by
    intro n
    unfold MAX_SEALED_EXP
    omega
  rw [Progress.expChangeInner, if_neg (by omega), if_neg (Nat.not_le.mpr hexp)]
  dsimp only
  rw [dif_pos ⟨hseal, hgain⟩, if_neg (Nat.not_le.mpr hroom), hwhole, hcut]

/-- At the cap the seal comes off and the gain goes through the bonuses once more. -/
theorem sealed_full (hexp : ch.exp < 2 ^ 63) (hopen : 0 < call.iExp)
    (hseal : ch.expSealStatus = true) (hgain : 0 < call.withBonuses)
    (hfull : MAX_SEALED_EXP ≤ ch.sealedExp) :
    ch.expChangeInner w t call =
      ({ ch with expSealStatus := false } : Progress).land w t
        { call with iExp := call.withBonuses, isBonusReward := false }
        (applyExpBonuses call.bonusPercents call.withBonuses.toNat) := by
  rw [Progress.expChangeInner, if_neg (by omega), if_neg (Nat.not_le.mpr hexp)]
  dsimp only
  rw [dif_pos ⟨hseal, hgain⟩, if_pos hfull, ← withBonuses_again hgain]
  have hpos : ¬call.withBonuses < 0 := by omega
  exact expChangeInner_unsealed hexp (fun h => hpos h.1) fun h => by simp at h

theorem seal_land {x : ℤ} (hx : 0 ≤ asI64 (ch.exp + x)) :
    (ch.land w t call x).sealedExp = ch.sealedExp ∧
      (ch.land w t call x).expSealStatus = ch.expSealStatus := by
  unfold Progress.land
  dsimp only
  rw [if_neg (not_lt.mpr hx)]
  split_ifs
  · exact seal_levelChange w t _ _ _
  · exact ⟨rfl, rfl⟩
  · exact ⟨rfl, rfl⟩

/-- A gain that arrives is all there, except at the last level, which it fills. -/
theorem cumulativeExp_land {x : ℤ} (hpos : 1 ≤ ch.level)
    (hmax : ch.maxExp = t.getExpByLevel ch.level) (hx : 0 < x) (hrange : ch.exp + x < 2 ^ 63) :
    cumulativeExp t (ch.land w t call x) = cumulativeExp t ch + x ∨
      MAX_LEVEL ≤ ch.level ∧ ch.maxExp ≤ ch.exp + x ∧
        ch.land w t call x = { ch with exp := asU64 ch.maxExp } := by
  have hnew : asI64 (ch.exp + x) = ch.exp + x := asI64_of_range (by omega) hrange
  unfold Progress.land
  simp only [hnew]
  rw [if_neg (by omega)]
  by_cases hfull : 0 < ch.maxExp ∧ ch.maxExp ≤ ch.exp + x
  · rw [if_pos hfull]
    by_cases hlast : ch.level < MAX_LEVEL
    · left
      rw [if_pos hlast]
      obtain ⟨hlevel, hexp, -⟩ := gainLevel_same (w := w) (t := t) hlast (ch.exp + x - ch.maxExp)
      unfold cumulativeExp
      rw [hlevel, hexp, Finset.sum_Ico_succ_top hpos, ← hmax]
      omega
    · right
      rw [if_neg hlast]
      exact ⟨Nat.not_lt.mp hlast, hfull.2, rfl⟩
  · left
    rw [if_neg hfull]
    unfold cumulativeExp
    dsimp only
    omega

variable {table : ItemTable} {serial : ℕ} {s : Sealer} {req : PotionRequest}

theorem free_of_single {inv : Inventory} {item : Item} {itemId count pos : ℕ}
    (hitem : table itemId = some item) (hsingle : ¬0 < item.countableD)
    (hfound : findSlotForItem table inv itemId count = some pos) : (inv.slot pos).itemId = 0 := by
  unfold findSlotForItem at hfound
  rw [hitem] at hfound
  dsimp only at hfound
  rw [if_neg hsingle] at hfound
  have hfree := List.find?_some hfound
  simp only [freeSlot, Bool.and_eq_true, decide_eq_true_eq] at hfree
  exact hfree.2

/-- An item of which one unit can be given: it is no scroll that stacks, nor of the kind that is
not given at all. -/
def Givable (item : Item) : Prop :=
  item.countableD ≠ 2 ∧ (item.kindD = ITEM_KIND_UNIQUE → ¬0 < item.countableD)

theorem giveItem_one {inv inv' : Inventory} {itemId : ℕ} (hid : itemId ≠ 0)
    (hcounts : ∀ s ∈ inv, s.count ≤ ITEMCOUNT_MAX)
    (hwiped : ∀ i, (inv.slot i).itemId = 0 → (inv.slot i).count = 0)
    (hgivable : ∀ item, table itemId = some item → Givable item)
    (h : giveItem table serial inv itemId 1 = some inv') :
    Tally.total (stack itemId) inv' = Tally.total (stack itemId) inv + 1 := by
  obtain ⟨item, pos, hitem, hfound, hlt, rfl⟩ := giveItem_spec h
  obtain ⟨-, hscroll⟩ := hgivable item hitem
  have hgiven : Given item inv _ itemId 1 pos :=
    @given_found _ _ serial _ _ _ item hcounts hfound
  by_cases hone : OneInSlot item
  · have hfree : ¬0 < item.countableD := by
      rcases hone with hkind | hzero
      · exact hscroll hkind
      · omega
    exact (hgiven.single hone).2 hid (free_of_single hitem hfree hfound)
  · exact (hgiven.exact hone (by decide) (hwiped pos)).1

theorem giveItem_other {inv inv' : Inventory} {itemId id count : ℕ} (hid : id ≠ 0)
    (hne : id ≠ itemId) (h : giveItem table serial inv itemId count = some inv') :
    Tally.total (stack id) inv' = Tally.total (stack id) inv := by
  obtain ⟨item, pos, -, hfound, hlt, rfl⟩ := giveItem_spec h
  obtain ⟨-, hbefore⟩ := findSlotForItem_spec hfound
  have hset := Tally.total_set (stack id) hlt
    (stackGiven item serial itemId count (inv.slot pos)) {}
  have hnone : stack id (inv.slot pos) = 0 := by
    rcases hbefore with hempty | ⟨hsame, -⟩
    · exact stack_of_empty hid hempty
    · exact stack_of_other hsame hne
  have hgiven : stack id (stackGiven item serial itemId count (inv.slot pos)) = 0 :=
    stack_of_other rfl hne
  rw [show inv.getD pos {} = inv.slot pos from rfl, hnone, hgiven] at hset
  omega

/-- What the jar's slot leaves free can be filled again. -/
theorem giveItem_removed {inv : Inventory} {itemId pos : ℕ} (hknown : (table itemId).isSome)
    (hgivable : ∀ item, table itemId = some item → Givable item) (hbag : pos ∈ bagSlots)
    (hlt : pos < inv.length) : ∃ inv', giveItem table serial (inv.set pos {}) itemId 1 = some inv' := by
  have hfree : 0 < countFreeSlots (inv.set pos {}) := by
    apply List.countP_pos_iff.mpr
    refine ⟨pos, hbag, ?_⟩
    simp only [freeSlot, Bool.and_eq_true, decide_eq_true_eq, Inventory.slot_set_self hlt,
      List.length_set]
    exact ⟨hlt, trivial⟩
  obtain ⟨i, hfound⟩ := findSlotForItem_isSome 1 hknown hfree
  obtain ⟨item, hitem⟩ := Option.isSome_iff_exists.mp hknown
  have hthere := (findSlotForItem_spec hfound).1
  unfold giveItem
  rw [hitem]
  dsimp only
  rw [if_neg (hgivable item hitem).1, hfound]
  dsimp only
  rw [if_neg (Nat.not_le.mpr hthere)]
  exact ⟨_, rfl⟩

theorem resultItemId_le {amount jar : ℕ} (h : resultItemId amount = some jar) :
    amount < 2 ^ 32 ∧ jar ≠ 0 ∧ jar ≠ SEALED_JAR := by
  unfold resultItemId at h
  split_ifs at h with h1 h2 h3
  all_goals
    obtain rfl := Option.some.inj h
    exact ⟨by omega, by decide, by decide⟩

/-- At most `ITEMCOUNT_MAX` of anything in a slot, and nothing left over in an empty one. -/
structure TidyBag (inv : Inventory) : Prop where
  counts : ∀ s ∈ inv, s.count ≤ ITEMCOUNT_MAX
  wiped : ∀ s ∈ inv, s.itemId = 0 → s.count = 0

structure Filled (s s' : Sealer) (jar amount : ℕ) : Prop where
  result : resultItemId amount = some jar
  progress : s'.progress = { s.progress with sealedExp := s'.progress.sealedExp }
  sealed_exp : s'.progress.sealedExp + amount = s.progress.sealedExp
  empty : Tally.total (stack SEALED_JAR) s'.inventory + 1 =
    Tally.total (stack SEALED_JAR) s.inventory
  filled : Tally.total (stack jar) s'.inventory = Tally.total (stack jar) s.inventory + 1
  others : ∀ id, id ≠ 0 → id ≠ SEALED_JAR → id ≠ jar →
    Tally.total (stack id) s'.inventory = Tally.total (stack id) s.inventory

theorem potionJar_spec {jar : ℕ} (h : s.potionJar table req = some jar) :
    req.absPos < s.inventory.length ∧ (s.inventory.slot req.absPos).itemId = SEALED_JAR ∧
      req.sealedExp ≤ s.progress.sealedExp ∧ resultItemId req.sealedExp = some jar ∧
      (table jar).isSome := by
  unfold Sealer.potionJar at h
  split_ifs at h with hjar hslot hless
  rw [not_or, not_le, not_not] at hslot
  obtain ⟨hresult, hknown⟩ := Option.filter_eq_some_iff.mp h
  exact ⟨hslot.1, hslot.2, not_lt.mp hless, hresult, hknown⟩

theorem forall_mem_removed {inv : Inventory} {p : UserItemSlot → Prop} (h : ∀ s ∈ inv, p s)
    (hempty : p {}) (pos : ℕ) : ∀ s ∈ inv.set pos {}, p s := by
  intro s hs
  rcases List.mem_or_eq_of_mem_set hs with hold | rfl
  · exact h s hold
  · exact hempty

def JarKept (s : Sealer) (amount : ℕ) (answer : ExpSealReply × Sealer) : Prop :=
  match answer.1 with
  | .potion jar _ _ => Filled s answer.2 jar amount
  | _ => answer.2 = s

theorem sealedPotion_kept (htidy : TidyBag s.inventory) (hbag : req.invPos < HAVE_MAX)
    (hsingle : (s.inventory.slot req.absPos).itemId = SEALED_JAR →
      (s.inventory.slot req.absPos).count = 1)
    (hgivable : ∀ amount jar item, resultItemId amount = some jar → table jar = some item →
      Givable item) :
    JarKept s req.sealedExp (s.sealedPotion table serial req) := by
  unfold Sealer.sealedPotion
  cases hjar : s.potionJar table req with
  | none => rfl
  | some jar =>
    obtain ⟨hlt, hslot, hle, hresult, hknown⟩ := potionJar_spec hjar
    obtain ⟨hnarrow, hid, hne⟩ := resultItemId_le hresult
    have hpos : req.absPos ∈ bagSlots :=
      List.mem_map_of_mem (List.mem_range.mpr hbag)
    obtain ⟨inv', hgive⟩ := @giveItem_removed _ serial _ _ _ hknown
      (fun item hitem => hgivable _ _ _ hresult hitem) hpos hlt
    have hremoved : ∀ id, Tally.total (stack id) (s.inventory.set req.absPos {}) +
        stack id (s.inventory.slot req.absPos) = Tally.total (stack id) s.inventory := by
      intro id
      have hset := Tally.total_set (stack id) hlt {} {}
      rw [show s.inventory.getD req.absPos {} = s.inventory.slot req.absPos from rfl] at hset
      have hempty : stack id ({} : UserItemSlot) = 0 := ite_self 0
      omega
    have hwiped : ∀ i, (Inventory.slot (s.inventory.set req.absPos {}) i).itemId = 0 →
        (Inventory.slot (s.inventory.set req.absPos {}) i).count = 0 := by
      intro i
      exact Inventory.forall_slot (p := fun s => s.itemId = 0 → s.count = 0)
        (forall_mem_removed htidy.wiped (fun _ => rfl) _) (fun _ => rfl) i
    have hone := hsingle hslot
    have hmod : req.sealedExp % 2 ^ 32 = req.sealedExp := Nat.mod_eq_of_lt hnarrow
    dsimp only
    rw [hgive]
    dsimp only
    rw [hmod]
    refine ⟨hresult, rfl, Nat.sub_add_cancel hle, ?_, ?_, ?_⟩
    · dsimp only
      rw [giveItem_other (by decide) hne.symm hgive, ← hremoved, stack_of_same hslot, hone]
    · dsimp only
      rw [giveItem_one hid (forall_mem_removed htidy.counts (Nat.zero_le _) _) hwiped
        (fun item hitem => hgivable _ _ _ hresult hitem) hgive, ← hremoved,
        stack_of_other hslot hne, Nat.add_zero]
    · intro id hnonzero hnojar hother
      dsimp only
      rw [giveItem_other hnonzero hother hgive, ← hremoved, stack_of_other hslot hnojar,
        Nat.add_zero]

theorem handleExpSeal_cases (table : ItemTable) (serial : ℕ) (s : Sealer) (data : PacketReader) :
    (s.handleExpSeal table serial data).2 = s ∨
      (∃ enable, (s.handleExpSeal table serial data).2 = (s.updateStatus enable).2) ∨
      ∃ req, (s.handleExpSeal table serial data).2 = (s.sealedPotion table serial req).2 := by
  unfold Sealer.handleExpSeal
  dsimp only
  split_ifs
  · exact .inl rfl
  · exact .inr (.inl ⟨true, rfl⟩)
  · exact .inr (.inl ⟨false, rfl⟩)
  · exact .inr (.inr ⟨_, rfl⟩)
  · exact .inl rfl

/-- No packet gives experience: it switches the seal, or takes from what is sealed. -/
theorem handleExpSeal_takes (table : ItemTable) (serial : ℕ) (s : Sealer) (data : PacketReader) :
    let s' := (s.handleExpSeal table serial data).2
    s'.progress.sealedExp ≤ s.progress.sealedExp ∧
      s'.progress = { s.progress with
        expSealStatus := s'.progress.expSealStatus
        sealedExp := s'.progress.sealedExp } := by
  have hcases := handleExpSeal_cases table serial s data
  generalize (s.handleExpSeal table serial data).2 = s' at hcases ⊢
  rcases hcases with rfl | ⟨enable, rfl⟩ | ⟨req, rfl⟩
  · exact ⟨le_refl _, rfl⟩
  · exact ⟨le_refl _, rfl⟩
  · unfold Sealer.sealedPotion
    split
    · exact ⟨le_refl _, rfl⟩
    · dsimp only
      split
      · exact ⟨le_refl _, rfl⟩
      · exact ⟨Nat.sub_le _ _, rfl⟩

def sealedAndExp (t : LevelTables) (ch : Progress) : ℤ := ch.sealedExp + cumulativeExp t ch

structure SealedGain (t : LevelTables) (call : ExpCall) (ch ch' : Progress) (x : ℤ) : Prop where
  below : ch.sealedExp < MAX_SEALED_EXP →
    ch' = { ch with sealedExp := min (ch.sealedExp + x.toNat) MAX_SEALED_EXP }
  conserved : ch.sealedExp < MAX_SEALED_EXP → ch.sealedExp + x ≤ MAX_SEALED_EXP →
    sealedAndExp t ch' = sealedAndExp t ch + x
  full : ch.sealedExp = MAX_SEALED_EXP → applyExpBonuses call.bonusPercents x.toNat = x →
    ch.exp + x < 2 ^ 63 →
      ch'.expSealStatus = false ∧ ch'.sealedExp = ch.sealedExp ∧
        (sealedAndExp t ch' = sealedAndExp t ch + x ∨
          ch.level = MAX_LEVEL ∧ ch.maxExp ≤ ch.exp + x ∧
            ch' = { ch with expSealStatus := false, exp := asU64 ch.maxExp })

theorem sealedGain (hpos : 1 ≤ ch.level) (hle : ch.level ≤ MAX_LEVEL)
    (hmax : ch.maxExp = t.getExpByLevel ch.level) (hexp : ch.exp < 2 ^ 63)
    (hseal : ch.expSealStatus = true) (hgain : 0 < call.withBonuses)
    (hnarrow : call.withBonuses < 2 ^ 32) :
    SealedGain t call ch (ch.expChangeInner w t call) call.withBonuses := by
  have hopen : 0 < call.iExp := by
    by_contra hno
    rw [ExpCall.withBonuses, if_neg fun h => hno h.1] at hgain
    exact hno hgain
  refine ⟨sealed_below hexp hopen hseal hgain hnarrow, ?_, ?_⟩
  · intro hroom hfits
    rw [sealed_below hexp hopen hseal hgain hnarrow hroom]
    unfold sealedAndExp cumulativeExp
    dsimp only
    omega
  · intro hfull hagain hrange
    rw [sealed_full hexp hopen hseal hgain hfull.ge, hagain]
    have hnew : asI64 (ch.exp + call.withBonuses) = ch.exp + call.withBonuses :=
      asI64_of_range (by omega) hrange
    have hkept : _ ∧ _ := @seal_land w t { ch with expSealStatus := false }
      { call with iExp := call.withBonuses, isBonusReward := false } call.withBonuses
      (by dsimp only; omega)
    refine ⟨hkept.2, hkept.1, ?_⟩
    have hland := @cumulativeExp_land w t { ch with expSealStatus := false }
      { call with iExp := call.withBonuses, isBonusReward := false } _ hpos hmax hgain hrange
    rcases hland with hall | ⟨hlast, hover, hcut⟩
    · left
      unfold sealedAndExp
      rw [hall, hkept.1]
      unfold cumulativeExp
      dsimp only
      omega
    · exact Or.inr ⟨le_antisymm hle hlast, hover, hcut⟩

/-- A gain under the seal is sealed up to the cap or goes to the character, the cap is kept, and a
jar is filled for what it holds or not at all. -/
theorem exp_seal_keeps (w : Widths) (t : LevelTables) (call : ExpCall) (table : ItemTable)
    (serial : ℕ) (s : Sealer) (req : PotionRequest)
    (hpos : 1 ≤ s.progress.level) (hle : s.progress.level ≤ MAX_LEVEL)
    (hmax : s.progress.maxExp = t.getExpByLevel s.progress.level)
    (hexp : s.progress.exp < 2 ^ 63) (hsealed : s.progress.sealedExp ≤ MAX_SEALED_EXP) :
    (s.progress.expSealStatus = true → 0 < call.withBonuses → call.withBonuses < 2 ^ 32 →
      SealedGain t call s.progress (s.progress.expChangeInner w t call) call.withBonuses) ∧
    (s.progress.expChangeInner w t call).sealedExp ≤ MAX_SEALED_EXP ∧
    (TidyBag s.inventory → req.invPos < HAVE_MAX →
      ((s.inventory.slot req.absPos).itemId = SEALED_JAR →
        (s.inventory.slot req.absPos).count = 1) →
      (∀ amount jar item, resultItemId amount = some jar → table jar = some item → Givable item) →
        JarKept s req.sealedExp (s.sealedPotion table serial req)) :=
  ⟨sealedGain hpos hle hmax hexp, sealedExp_le hsealed, sealedPotion_kept⟩

/-! An empty jar in the first slot of the bag, and 500 million sealed. -/

def sealing : Sealer where
  inGame := true
  isDead := false
  progress := { tenth with expSealStatus := true, sealedExp := 500000000 }
  inventory := (List.replicate INVENTORY_TOTAL ({} : UserItemSlot)).set SLOT_MAX
    { itemId := SEALED_JAR, count := 1 }

def smallJar : PotionRequest := ⟨SEALED_JAR, 0, 100000000⟩

theorem sealing_keeps :
    SealedGain evenTable (gain 3) sealing.progress
        (sealing.progress.expChangeInner .machine evenTable (gain 3)) 3 ∧
      JarKept sealing smallJar.sealedExp
        (sealing.sealedPotion (fun _ => some { countable := some 1 }) 7 smallJar) := by
  have hkeeps := exp_seal_keeps .machine evenTable (gain 3)
    (fun _ => some { countable := some 1 }) 7 sealing smallJar (by decide) (by decide) rfl
    (by decide) (by decide)
  refine ⟨hkeeps.1 rfl (by decide) (by decide), hkeeps.2.2 ⟨by decide, by decide⟩ (by decide)
    (fun _ => rfl) ?_⟩
  intro amount jar item _ hitem
  obtain rfl := Option.some.inj hitem
  exact ⟨by decide, fun hkind => absurd hkind (by decide)⟩

def almostSealed : Progress := { tenth with expSealStatus := true, sealedExp := 999999999 }

/-- Next to the cap only 1 of 2 is sealed, and the other is lost. -/
theorem almostSealed_loses :
    almostSealed.expSealStatus = true ∧ (gain 2).withBonuses = 2 ∧
      sealedAndExp evenTable (almostSealed.expChangeInner .machine evenTable (gain 2)) =
        sealedAndExp evenTable almostSealed + 1 := by
  have htwo : (gain 2).withBonuses.toNat = 2 := by decide
  have hcut : min (almostSealed.sealedExp + 2) MAX_SEALED_EXP = almostSealed.sealedExp + 1 := rfl
  refine ⟨rfl, by decide, ?_⟩
  rw [sealed_below (by decide) (by decide) rfl (by decide) (by decide) (by decide), htwo, hcut]
  unfold sealedAndExp cumulativeExp
  dsimp only
  omega

end KoServer
