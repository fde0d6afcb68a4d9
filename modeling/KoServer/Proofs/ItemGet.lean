import KoServer.Lib.Run
import KoServer.Lib.Tally
import KoServer.Proofs.PartyCommand
import KoServer.Proofs.TradeSession
import KoServer.Spec.ItemGet

/-! Picking up from the ground. What is taken is delivered once and in full, or put back; a party
divides gold without the remainder. -/

namespace KoServer

def LootItem.isEmpty (item : LootItem) : Bool := item.itemId = 0 || item.count = 0

def LootItem.stackNumber (item : LootItem) : ℕ := if item.isEmpty then 0 else 1

def LootResult.delivers : LootResult → Bool
  | .itemGivenAway => true
  | .solo _ _ _ _ => true
  | _ => false

def LootResult.isError : LootResult → Bool
  | .error => true
  | .noWeight => true
  | _ => false

/-- What a later request reads of a bundle. -/
def GroundBundle.view {Pos : Type*} (b : GroundBundle Pos) :
    ℕ × ℕ × Pos × (Fin NPC_HAVE_ITEM_LIST → ℕ × ℕ) :=
  (b.itemsCount, b.looter, b.position, fun i => ((b.items i).itemId, (b.items i).count))

/-- Whatever the requests of parties were, a party can be a party of `LootEnv`. -/
theorem party_nodup_run (steps : List (PartyEnv × PartyEvent)) (p : ℕ) (members : List ℕ)
    (hp : ((Run.run partyStep .start steps).parties p).map Party.activeMembers = some members) :
    members.Nodup := by
  obtain ⟨party, hparty, rfl⟩ := Option.map_eq_some_iff.mp hp
  exact activeMembers_nodup steps hparty

variable {Pos : Type*}

namespace LootWorld

def held (s : LootWorld Pos) (sid itemId : ℕ) : ℕ :=
  (s.pickers sid).elim 0 fun p => Tally.total (stack itemId) p.inventory

def present (s : LootWorld Pos) (bundleId : ℕ) (slotId : Fin NPC_HAVE_ITEM_LIST) : ℕ :=
  (s.bundles bundleId).elim 0 fun b => (b.items slotId).stackNumber

def taken (s : LootWorld Pos) (bundleId : ℕ) (b : GroundBundle Pos)
    (slotId : Fin NPC_HAVE_ITEM_LIST) : LootWorld Pos :=
  { s with
    bundles := Function.update s.bundles bundleId <|
      if b.itemsCount - 1 = 0 then none
      else some { b with
        items := Function.update b.items slotId {}
        itemsCount := b.itemsCount - 1 } }

structure Admits (s : LootWorld Pos) (req : LootRequest Pos) (b : GroundBundle Pos)
    (slotId : Fin NPC_HAVE_ITEM_LIST) : Prop where
  inGame : s.pickers req.sid ≠ none
  idle : (req.env.isPlayerDead || req.env.isTrading || req.env.isMerchanting || req.env.isMining ||
    req.env.isFishing) = false
  slot : slotId.val = req.slotId
  bundle : s.bundles req.bundleId = some b
  mayLoot : req.env.mayLoot req.sid b.looter = true
  stack : (b.items slotId).isEmpty = false
  near : ∃ pos, req.env.position req.sid = some pos ∧ req.env.tooFar pos b.position = false

/-- Nobody in the picker's party is alive and near the gold. -/
def NobodyEligible (s : LootWorld Pos) (req : LootRequest Pos) (b : GroundBundle Pos)
    (slotId : Fin NPC_HAVE_ITEM_LIST) : Prop :=
  (b.items slotId).itemId = ITEM_GOLD ∧
    ∃ members, (req.env.partyId req.sid).bind req.env.party = some members ∧
      s.eligible req.env members b.position = []

/-- One request, its answer and the world afterwards: what is delivered arrives in full, and after
an error the bundle is as it was, unless its last stack was taken or gold that nobody is eligible
for. A party gets equal shares of gold, without the remainder. -/
structure LootKept (s : LootWorld Pos) (req : LootRequest Pos) (answer : LootResult)
    (t : LootWorld Pos) : Prop where
  item : ∀ pos itemId total gold, answer = .solo (some pos) itemId total gold →
    ∃ b slotId, s.Admits req b slotId ∧ itemId = (b.items slotId).itemId ∧
      ∀ sid id, id ≠ 0 → t.held sid id =
        s.held sid id + if sid = req.sid ∧ id = itemId then (b.items slotId).count else 0
  error : answer.isError = true →
    (∀ b slotId, s.Admits req b slotId → 1 < b.itemsCount ∧ ¬ s.NobodyEligible req b slotId) →
    t.pickers = s.pickers ∧ ∀ bundleId, (t.bundles bundleId).map GroundBundle.view =
      (s.bundles bundleId).map GroundBundle.view
  solo : ∀ itemId count gold, answer = .solo none itemId count gold →
    req.env.bonus req.sid = .off →
    ∃ b slotId, s.Admits req b slotId ∧ (b.items slotId).itemId = ITEM_GOLD ∧
      ∀ sid, t.goldOf sid = s.goldOf sid + if sid = req.sid then (b.items slotId).count else 0
  party : answer = .itemGivenAway → (∀ sid, req.env.bonus sid = .off) →
    ∃ b slotId members, s.Admits req b slotId ∧ (b.items slotId).itemId = ITEM_GOLD ∧
      (req.env.partyId req.sid).bind req.env.party = some members ∧
      let eligible := s.eligible req.env members b.position
      let share := (b.items slotId).count / eligible.length
      (∀ sid, t.goldOf sid =
        if sid ∈ eligible then KoServer.goldGain (s.goldOf sid) share else s.goldOf sid) ∧
      ((∀ sid ∈ eligible, s.goldOf sid + share ≤ COIN_MAX) →
        Tally.total t.goldOf eligible + (b.items slotId).count % eligible.length =
          Tally.total s.goldOf eligible + (b.items slotId).count)

structure InRange (s : LootWorld Pos) : Prop where
  bundles : ∀ bundleId b, s.bundles bundleId = some b → b.itemsCount < 2 ^ 8 ∧
    ∀ i, (b.items i).count < 2 ^ 16 ∧
      ((b.items i).itemId ≠ ITEM_GOLD → (b.items i).count ≤ ITEMCOUNT_MAX)
  pickers : ∀ sid p, s.pickers sid = some p → Tidy p.inventory

end LootWorld

open LootWorld

variable {table : ItemTable} {s t : LootWorld Pos} {req : LootRequest Pos}
  {b : GroundBundle Pos} {slotId : Fin NPC_HAVE_ITEM_LIST} {bundleId sid itemId count : ℕ}

theorem bundles_taken (id : ℕ) : (s.taken bundleId b slotId).bundles id =
    if id = bundleId then
      if b.itemsCount - 1 = 0 then none
      else some { b with
        items := Function.update b.items slotId {}
        itemsCount := b.itemsCount - 1 }
    else s.bundles id := by
  unfold LootWorld.taken
  exact Function.update_apply _ _ _ _

theorem present_of_bundle (hb : s.bundles bundleId = some b) :
    s.present bundleId slotId = (b.items slotId).stackNumber := by
  unfold LootWorld.present
  rw [hb]
  rfl

theorem present_of_view {id : ℕ} (i : Fin NPC_HAVE_ITEM_LIST)
    (h : (t.bundles id).map GroundBundle.view = (s.bundles id).map GroundBundle.view) :
    t.present id i = s.present id i := by
  let stackNumber : Option (ℕ × ℕ × Pos × (Fin NPC_HAVE_ITEM_LIST → ℕ × ℕ)) → ℕ := fun v =>
    v.elim 0 fun v => LootItem.stackNumber { itemId := (v.2.2.2 i).1, count := (v.2.2.2 i).2 }
  have hpresent : ∀ u : LootWorld Pos,
      u.present id i = stackNumber ((u.bundles id).map GroundBundle.view) := by
    intro u
    unfold LootWorld.present
    cases u.bundles id <;> rfl
  rw [hpresent, hpresent, h]

theorem present_taken_self : (s.taken bundleId b slotId).present bundleId slotId = 0 := by
  unfold LootWorld.present
  rw [bundles_taken, if_pos rfl]
  split_ifs
  · rfl
  · rw [Option.elim_some]
    dsimp only
    rw [Function.update_self]
    rfl

theorem present_taken_le (hb : s.bundles bundleId = some b) (id : ℕ)
    (i : Fin NPC_HAVE_ITEM_LIST) :
    (s.taken bundleId b slotId).present id i ≤ s.present id i := by
  by_cases hid : id = bundleId
  · subst hid
    by_cases hi : i = slotId
    · rw [hi, present_taken_self]
      exact Nat.zero_le _
    · rw [present_of_bundle hb]
      unfold LootWorld.present
      rw [bundles_taken, if_pos rfl]
      split_ifs
      · exact Nat.zero_le _
      · rw [Option.elim_some]
        dsimp only
        rw [Function.update_of_ne hi]
  · unfold LootWorld.present
    rw [bundles_taken, if_neg hid]

theorem LootWorld.InRange.taken (h : s.InRange) (hb : s.bundles bundleId = some b)
    (slotId : Fin NPC_HAVE_ITEM_LIST) : (s.taken bundleId b slotId).InRange := by
  refine ⟨fun id b' hb' => ?_, h.pickers⟩
  obtain ⟨hcount, hitems⟩ := h.bundles _ _ hb
  rw [bundles_taken] at hb'
  split_ifs at hb' with hid hlast
  · obtain rfl := Option.some.inj hb'
    refine ⟨(Nat.sub_le _ _).trans_lt hcount, fun i => ?_⟩
    by_cases hi : i = slotId
    · dsimp only
      rw [hi, Function.update_self]
      exact ⟨by decide, fun _ => Nat.zero_le _⟩
    · dsimp only
      rw [Function.update_of_ne hi]
      exact hitems i
  · exact h.bundles _ _ hb'

/-- Gold that comes in changes nothing that is in range. -/
theorem LootWorld.InRange.of_inventory (h : s.InRange) (hbundles : t.bundles = s.bundles)
    (hpickers : ∀ sid, (t.pickers sid).map Picker.inventory =
      (s.pickers sid).map Picker.inventory) : t.InRange := by
  refine ⟨fun id b hb => h.bundles id b (hbundles ▸ hb), fun sid p hp => ?_⟩
  have hsame := hpickers sid
  rw [hp, Option.map_some] at hsame
  obtain ⟨p₀, hp₀, heq⟩ := Option.map_eq_some_iff.mp hsame.symm
  exact heq ▸ h.pickers sid p₀ hp₀

theorem held_updatePicker (f : Picker → Picker) (sid' id : ℕ) :
    (s.updatePicker sid f).held sid' id =
      if sid' = sid then (s.pickers sid).elim 0 fun p => Tally.total (stack id) (f p).inventory
      else s.held sid' id := by
  unfold LootWorld.held LootWorld.updatePicker
  dsimp only
  split_ifs with hsid
  · rw [hsid, Function.update_self]
    cases s.pickers sid <;> rfl
  · rw [Function.update_of_ne hsid]

theorem stack_set {inv : Inventory} {dstPos id : ℕ} {slot : UserItemSlot} (htidy : Tidy inv)
    (hfind : findSlotForItem table inv itemId count = some dstPos) (hcount : count ≤ ITEMCOUNT_MAX)
    (hitem : slot.itemId = itemId)
    (hslot : slot.count = min (saturatingAdd16 (inv.slot dstPos).count count) ITEMCOUNT_MAX)
    (hid : id ≠ 0) :
    Tally.total (stack id) (inv.set dstPos slot) =
      Tally.total (stack id) inv + if id = itemId then count else 0 := by
  obtain ⟨hlen, hfits⟩ := findSlotForItem_spec hfind
  obtain ⟨hle, hempty⟩ := htidy dstPos
  have hsum : slot.count = (inv.slot dstPos).count + count := by
    unfold saturatingAdd16 ITEMCOUNT_MAX at *
    rcases hfits with hzero | ⟨-, hroom⟩
    · rw [hslot, hempty hzero]
      omega
    · omega
  have hset := Tally.total_set (stack id) hlen slot {}
  change _ + stack id (inv.slot dstPos) = _ at hset
  unfold stack at hset ⊢
  rw [hitem, hsum] at hset
  rcases hfits with hzero | ⟨hsame, -⟩
  · rw [hzero, if_neg hid.symm, hempty hzero, Nat.zero_add] at hset
    simp only [eq_comm (a := id)]
    exact hset
  · rw [hsame] at hset
    simp only [eq_comm (a := id)]
    split_ifs at hset ⊢ <;> omega

theorem goldOf_goldGain (amount sid' : ℕ) (hsid : s.pickers sid ≠ none) :
    (s.goldGain sid amount).goldOf sid' =
      if sid' = sid then goldGain (s.goldOf sid) amount else s.goldOf sid' := by
  unfold LootWorld.goldOf LootWorld.goldGain LootWorld.updatePicker
  dsimp only
  split_ifs with h
  · obtain ⟨p, hp⟩ := Option.ne_none_iff_exists'.mp hsid
    rw [h, Function.update_self, hp]
    rfl
  · rw [Function.update_of_ne h]

theorem lootGold_off (hcount : count < 2 ^ 16) : lootGold .off count = count := by
  unfold lootGold goldWithBonus GoldBonus.off
  dsimp only
  rw [if_neg (lt_irrefl 0), if_neg (lt_irrefl 0), if_neg Bool.false_ne_true]
  omega

theorem goldOf_foldl {members : List ℕ} (hnodup : members.Nodup)
    (hmembers : ∀ m ∈ members, s.pickers m ≠ none) (amount : ℕ → ℕ) (sid : ℕ) :
    (members.foldl (fun s m => s.goldGain m (amount m)) s).goldOf sid =
      if sid ∈ members then goldGain (s.goldOf sid) (amount sid) else s.goldOf sid := by
  induction members generalizing s with
  | nil => rfl
  | cons m members ih =>
    obtain ⟨hnew, hnodup⟩ := List.nodup_cons.mp hnodup
    obtain ⟨hm, hmembers⟩ := List.forall_mem_cons.mp hmembers
    have hstay : ∀ m' ∈ members, (s.goldGain m (amount m)).pickers m' ≠ none := by
      intro m' hm'
      change Function.update s.pickers m _ m' ≠ none
      rw [Function.update_of_ne fun heq : m' = m => hnew (heq ▸ hm')]
      exact hmembers m' hm'
    rw [List.foldl_cons, ih hnodup hstay, goldOf_goldGain _ _ hm]
    by_cases hsid : sid = m
    · rw [hsid, if_neg hnew, if_pos rfl, if_pos List.mem_cons_self]
    · simp only [List.mem_cons, hsid, false_or, if_false]

theorem foldl_goldGain (members : List ℕ) (amount : ℕ → ℕ) :
    (members.foldl (fun s m => s.goldGain m (amount m)) s).bundles = s.bundles ∧
      ∀ sid, ((members.foldl (fun s m => s.goldGain m (amount m)) s).pickers sid).map
        Picker.inventory = (s.pickers sid).map Picker.inventory := by
  induction members generalizing s with
  | nil => exact ⟨rfl, fun _ => rfl⟩
  | cons m members ih =>
    obtain ⟨hbundles, hpickers⟩ := ih (s := s.goldGain m (amount m))
    refine ⟨hbundles, fun sid => (hpickers sid).trans ?_⟩
    change (Function.update s.pickers m _ sid).map Picker.inventory = _
    by_cases hsid : sid = m
    · rw [hsid, Function.update_self, Option.map_map]
      rfl
    · rw [Function.update_of_ne hsid]

/-- What equal shares below the cap come to. -/
theorem total_shares {f g : ℕ → ℕ} {members : List ℕ} {share : ℕ}
    (h : ∀ m ∈ members, g m = f m + share) :
    Tally.total g members = Tally.total f members + members.length * share := by
  rw [Tally.total_congr g h, Tally.total_add]
  simp [Tally.total]

theorem LootWorld.LootKept.unchanged {r : LootResult} (hr : r.delivers = false) : s.LootKept req r s := by
  refine ⟨fun _ _ _ _ heq => ?_, fun _ _ => ⟨rfl, fun _ => rfl⟩, fun _ _ _ heq => ?_,
    fun heq => ?_⟩ <;>
  · rw [heq] at hr
    cases hr

theorem LootWorld.LootKept.nobody (hadmits : s.Admits req b slotId) (hnobody : s.NobodyEligible req b slotId) :
    s.LootKept req .error t := by
  refine ⟨fun _ _ _ _ heq => ?_, fun _ hkeeps => absurd hnobody (hkeeps b slotId hadmits).2,
    fun _ _ _ heq => ?_, fun heq => ?_⟩ <;> cases heq

theorem LootWorld.LootKept.arrived (h : s.InRange) (hadmits : s.Admits req b slotId)
    (hgold : (b.items slotId).itemId ≠ ITEM_GOLD) {picker : Picker} {dstPos invPos gold : ℕ}
    {slot : UserItemSlot} (hpicker : s.pickers req.sid = some picker)
    (hfind : findSlotForItem table picker.inventory (b.items slotId).itemId
      (b.items slotId).count = some dstPos)
    (hitem : slot.itemId = (b.items slotId).itemId)
    (hslot : slot.count = min (saturatingAdd16 (picker.inventory.slot dstPos).count
      (b.items slotId).count) ITEMCOUNT_MAX) :
    s.LootKept req (.solo (some invPos) (b.items slotId).itemId slot.count gold)
      ((s.taken req.bundleId b slotId).updatePicker req.sid fun p =>
        { p with inventory := picker.inventory.set dstPos slot }) := by
  refine ⟨fun pos itemId total gold heq => ?_, fun herror => ?_, fun _ _ _ heq => ?_,
    fun heq => ?_⟩
  · cases heq
    refine ⟨b, slotId, hadmits, rfl, fun sid id hid => ?_⟩
    rw [held_updatePicker]
    by_cases hsid : sid = req.sid
    · subst hsid
      rw [if_pos rfl]
      change (s.pickers req.sid).elim 0 _ = _
      have hcount := ((h.bundles _ _ hadmits.bundle).2 slotId).2 hgold
      have hunits := stack_set (h.pickers _ _ hpicker) hfind hcount hitem hslot hid
      unfold LootWorld.held
      rw [hpicker, Option.elim_some, Option.elim_some, hunits]
      simp only [true_and]
    · rw [if_neg hsid, if_neg fun hboth => hsid hboth.1]
      rfl
  · cases herror
  · cases heq
  · cases heq

theorem LootWorld.LootKept.paid (h : s.InRange) (hadmits : s.Admits req b slotId)
    (hgold : (b.items slotId).itemId = ITEM_GOLD) {gold : ℕ}
    (hroom : s.goldOf req.sid + (b.items slotId).count ≤ COIN_MAX) :
    s.LootKept req (.solo none ITEM_GOLD (b.items slotId).count gold)
      ((s.taken req.bundleId b slotId).goldGain req.sid
        (lootGold (req.env.bonus req.sid) (b.items slotId).count)) := by
  refine ⟨fun _ _ _ _ heq => ?_, fun herror => ?_, fun itemId count gold heq hoff => ?_,
    fun heq => ?_⟩
  · cases heq
  · cases herror
  · cases heq
    refine ⟨b, slotId, hadmits, hgold, fun sid => ?_⟩
    have hcount := ((h.bundles _ _ hadmits.bundle).2 slotId).1
    have hgain := goldOf_goldGain (s := s.taken req.bundleId b slotId) (b.items slotId).count sid
      hadmits.inGame
    rw [hoff, lootGold_off hcount, hgain]
    change (if sid = req.sid then KoServer.goldGain (s.goldOf req.sid) _ else s.goldOf sid) = _
    split_ifs with hsid
    · rw [hsid, KoServer.goldGain, if_neg (not_lt.mpr hroom)]
    · rfl
  · cases heq

theorem LootWorld.LootKept.shared (h : s.InRange) (hadmits : s.Admits req b slotId)
    (hgold : (b.items slotId).itemId = ITEM_GOLD) {members : List ℕ}
    (hparty : (req.env.partyId req.sid).bind req.env.party = some members) :
    let eligible := s.eligible req.env members b.position
    s.LootKept req .itemGivenAway
      (eligible.foldl (fun s member => s.goldGain member
        (lootGold (req.env.bonus member) ((b.items slotId).count / eligible.length)))
        (s.taken req.bundleId b slotId)) := by
  intro eligible
  refine ⟨fun _ _ _ _ heq => ?_, fun herror => ?_, fun _ _ _ heq => ?_, fun _ hoff => ?_⟩
  · cases heq
  · cases herror
  · cases heq
  have hnodup : eligible.Nodup := by
    obtain ⟨p, hp, hmembers⟩ := Option.bind_eq_some_iff.mp hparty
    exact (req.env.party_nodup p members hmembers).filter _
  have hpickers : ∀ m ∈ eligible, (s.taken req.bundleId b slotId).pickers m ≠ none := by
    intro m hm hnone
    change s.pickers m = none at hnone
    have hm := (List.mem_filter.mp hm).2
    rw [hnone] at hm
    cases hm
  have hshare : (b.items slotId).count / eligible.length < 2 ^ 16 :=
    (Nat.div_le_self _ _).trans_lt ((h.bundles _ _ hadmits.bundle).2 slotId).1
  have hgolds := goldOf_foldl hnodup hpickers fun m =>
    lootGold (req.env.bonus m) ((b.items slotId).count / eligible.length)
  refine ⟨b, slotId, members, hadmits, hgold, hparty, fun sid => ?_, fun hroom => ?_⟩
  · rw [hgolds sid, hoff, lootGold_off hshare]
    rfl
  · have hsum := total_shares fun m hm => (hgolds m).trans
      (show _ = s.goldOf m + (b.items slotId).count / eligible.length by
        rw [if_pos hm, hoff, lootGold_off hshare]
        exact if_neg (not_lt.mpr (hroom m hm)))
    refine (congrArg (· + (b.items slotId).count % eligible.length) hsum).trans ?_
    rw [Nat.add_assoc, Nat.div_add_mod]

variable [Inhabited Pos]

def LootWorld.putBack (s : LootWorld Pos) (bundleId : ℕ) (b : GroundBundle Pos)
    (slotId : Fin NPC_HAVE_ITEM_LIST) : LootWorld Pos :=
  (s.taken bundleId b slotId).restoreBundleItem bundleId slotId (b.items slotId).itemId
    (b.items slotId).count

theorem bundles_putBack_of_ne {id : ℕ} (hid : id ≠ bundleId) :
    (s.putBack bundleId b slotId).bundles id = s.bundles id := by
  unfold LootWorld.putBack LootWorld.restoreBundleItem LootWorld.taken
  dsimp only
  rw [Function.update_of_ne hid, Function.update_of_ne hid]

/-- A bundle that still has something takes back what was taken. -/
theorem view_putBack (slotId : Fin NPC_HAVE_ITEM_LIST) (hb : s.bundles bundleId = some b)
    (hcount : b.itemsCount < 2 ^ 8) (hmore : 1 < b.itemsCount) (id : ℕ) :
    ((s.putBack bundleId b slotId).bundles id).map GroundBundle.view =
      (s.bundles id).map GroundBundle.view := by
  by_cases hid : id = bundleId
  · subst hid
    have hleft : ¬ b.itemsCount - 1 = 0 := by omega
    unfold LootWorld.putBack LootWorld.restoreBundleItem
    dsimp only
    rw [Function.update_self, bundles_taken, if_pos rfl, if_neg hleft, hb, Option.map_some,
      Option.map_some, Option.some.injEq]
    unfold GroundBundle.view
    dsimp only
    have hcount' : min (b.itemsCount - 1 + 1) 255 = b.itemsCount := by omega
    rw [hcount', Function.update_idem]
    congr 3
    funext i
    by_cases hi : i = slotId
    · rw [hi, Function.update_self]
    · rw [Function.update_of_ne hi]
  · rw [bundles_putBack_of_ne hid]

/-- A bundle that was emptied comes back with the one stack, of no looter and no place. -/
theorem bundles_putBack_emptied (hlast : b.itemsCount ≤ 1) :
    (s.putBack bundleId b slotId).bundles bundleId =
      some { (default : GroundBundle Pos) with
        bundleId := bundleId
        itemsCount := 1
        items := Function.update (fun _ => {}) slotId
          ⟨(b.items slotId).itemId, (b.items slotId).count, slotId⟩ } := by
  have hnone : b.itemsCount - 1 = 0 := by omega
  unfold LootWorld.putBack LootWorld.restoreBundleItem
  dsimp only
  rw [Function.update_self, bundles_taken, if_pos rfl, if_pos hnone]

theorem present_putBack_le (hb : s.bundles bundleId = some b) (hcount : b.itemsCount < 2 ^ 8)
    (id : ℕ) (i : Fin NPC_HAVE_ITEM_LIST) :
    (s.putBack bundleId b slotId).present id i ≤ s.present id i := by
  by_cases hlast : b.itemsCount ≤ 1
  · by_cases hid : id = bundleId
    · subst hid
      rw [present_of_bundle (bundles_putBack_emptied hlast), present_of_bundle hb]
      dsimp only
      by_cases hi : i = slotId
      · rw [hi, Function.update_self]
        exact le_rfl
      · rw [Function.update_of_ne hi]
        exact Nat.zero_le _
    · unfold LootWorld.present
      rw [bundles_putBack_of_ne hid]
  · exact (present_of_view i (view_putBack _ hb hcount (Nat.lt_of_not_le hlast) id)).le

theorem LootWorld.LootKept.putBack {r : LootResult} (hr : r.delivers = false) (h : s.InRange)
    (hadmits : s.Admits req b slotId) : s.LootKept req r (s.putBack req.bundleId b slotId) := by
  refine ⟨fun _ _ _ _ heq => ?_, fun _ hkeeps => ⟨rfl, fun bundleId => ?_⟩, fun _ _ _ heq => ?_,
    fun heq => ?_⟩
  · rw [heq] at hr
    cases hr
  · exact view_putBack _ hadmits.bundle (h.bundles _ _ hadmits.bundle).1
      (hkeeps b slotId hadmits).1 bundleId
  · rw [heq] at hr
    cases hr
  · rw [heq] at hr
    cases hr

theorem LootWorld.InRange.putBack (h : s.InRange) (hb : s.bundles bundleId = some b)
    (slotId : Fin NPC_HAVE_ITEM_LIST) : (s.putBack bundleId b slotId).InRange := by
  refine ⟨fun id b' hb' => ?_, h.pickers⟩
  obtain ⟨hcount, hitems⟩ := h.bundles _ _ hb
  by_cases hid : id = bundleId
  · subst hid
    by_cases hlast : b.itemsCount ≤ 1
    · rw [bundles_putBack_emptied hlast] at hb'
      obtain rfl := Option.some.inj hb'
      refine ⟨Nat.one_lt_two_pow (by decide), fun i => ?_⟩
      dsimp only
      by_cases hi : i = slotId
      · rw [hi, Function.update_self]
        exact hitems slotId
      · rw [Function.update_of_ne hi]
        exact ⟨by decide, fun _ => Nat.zero_le _⟩
    · have hview := view_putBack slotId hb hcount (Nat.lt_of_not_le hlast) id
      rw [hb, hb', Option.map_some, Option.map_some, Option.some.injEq] at hview
      unfold GroundBundle.view at hview
      simp only [Prod.mk.injEq, funext_iff] at hview
      obtain ⟨hsame, -, -, hsameItems⟩ := hview
      refine ⟨hsame ▸ hcount, fun i => ?_⟩
      obtain ⟨hid, hunits⟩ := hsameItems i
      rw [hid, hunits]
      exact hitems i
  · rw [bundles_putBack_of_ne hid] at hb'
    exact h.bundles _ _ hb'

theorem handle_cases (table : ItemTable) (s : LootWorld Pos) (req : LootRequest Pos) :
    (∃ r : LootResult, s.handle table req = (r, s) ∧ r.delivers = false) ∨
    ∃ b slotId, s.Admits req b slotId ∧ s.handle table req =
      if (b.items slotId).itemId = ITEM_GOLD then
        (s.taken req.bundleId b slotId).pickGold req.env req.sid req.bundleId slotId b.position
          (b.items slotId).count
      else (s.taken req.bundleId b slotId).pickItem table req.env req.sid req.bundleId slotId
        (b.items slotId).itemId (b.items slotId).count := by
  unfold LootWorld.handle
  dsimp only
  by_cases hgame : (s.pickers req.sid).isNone
  · exact Or.inl ⟨_, if_pos hgame, rfl⟩
  rw [if_neg hgame]
  by_cases hbusy : (req.env.isPlayerDead || req.env.isTrading || req.env.isMerchanting ||
      req.env.isMining || req.env.isFishing)
  · exact Or.inl ⟨_, if_pos hbusy, rfl⟩
  rw [if_neg hbusy]
  by_cases hslot : req.slotId < NPC_HAVE_ITEM_LIST
  swap
  · exact Or.inl ⟨_, dif_neg hslot, rfl⟩
  rw [dif_pos hslot]
  cases hb : s.bundles req.bundleId with
  | none => exact Or.inl ⟨_, rfl, rfl⟩
  | some b =>
    dsimp only
    by_cases hloot : !req.env.mayLoot req.sid b.looter
    · exact Or.inl ⟨_, if_pos hloot, rfl⟩
    rw [if_neg hloot]
    set slotId : Fin NPC_HAVE_ITEM_LIST := ⟨req.slotId, hslot⟩ with hslotId
    by_cases hempty : (b.items slotId).itemId = 0 ∨ (b.items slotId).count = 0
    · exact Or.inl ⟨_, if_pos hempty, rfl⟩
    rw [if_neg hempty]
    cases hpos : req.env.position req.sid with
    | none => exact Or.inl ⟨_, rfl, rfl⟩
    | some pos =>
      dsimp only
      by_cases hfar : req.env.tooFar pos b.position
      · exact Or.inl ⟨_, if_pos hfar, rfl⟩
      rw [if_neg hfar]
      have htake : s.tryTakeBundleItem req.bundleId slotId =
          (some ((b.items slotId).itemId, (b.items slotId).count),
            s.taken req.bundleId b slotId) := by
        unfold LootWorld.tryTakeBundleItem
        rw [hb]
        dsimp only
        rw [if_neg hempty]
        rfl
      have hstack : (b.items slotId).isEmpty = false := by
        unfold LootItem.isEmpty
        simpa using hempty
      refine Or.inr ⟨b, slotId, ⟨fun hnone => hgame (hnone ▸ rfl), ?_, rfl, hb, ?_, hstack, pos, hpos,
        ?_⟩, ?_⟩
      · exact Bool.eq_false_of_not_eq_true hbusy
      · simpa using hloot
      · exact Bool.eq_false_of_not_eq_true hfar
      · rw [htake]
        dsimp only
        rw [if_neg (not_not.mpr rfl)]

theorem pickGold_cases (env : LootEnv Pos) (t : LootWorld Pos) (sid bundleId : ℕ)
    (slotId : Fin NPC_HAVE_ITEM_LIST) (position : Pos) (count : ℕ) :
    (∃ members, (env.partyId sid).bind env.party = some members ∧
      t.eligible env members position = [] ∧
      t.pickGold env sid bundleId slotId position count = (.error, t)) ∨
    (∃ members, (env.partyId sid).bind env.party = some members ∧
      t.pickGold env sid bundleId slotId position count = (.itemGivenAway,
        (t.eligible env members position).foldl (fun s member => s.goldGain member
          (lootGold (env.bonus member) (count / (t.eligible env members position).length))) t)) ∨
    t.pickGold env sid bundleId slotId position count =
      (.error, t.restoreBundleItem bundleId slotId ITEM_GOLD count) ∨
    (t.goldOf sid + count ≤ COIN_MAX ∧ ∃ gold,
      t.pickGold env sid bundleId slotId position count =
        (.solo none ITEM_GOLD count gold, t.goldGain sid (lootGold (env.bonus sid) count))) := by
  unfold LootWorld.pickGold
  cases hparty : (env.partyId sid).bind env.party with
  | some members =>
    dsimp only
    by_cases hnobody : t.eligible env members position = []
    · exact Or.inl ⟨members, rfl, hnobody, if_pos hnobody⟩
    · exact Or.inr (Or.inl ⟨members, rfl, if_neg hnobody⟩)
  | none =>
    dsimp only
    by_cases hfull : COIN_MAX < t.goldOf sid + count
    · exact Or.inr (Or.inr (Or.inl (if_pos hfull)))
    · exact Or.inr (Or.inr (Or.inr ⟨Nat.le_of_not_lt hfull, _, if_neg hfull⟩))

theorem pickItem_cases (table : ItemTable) (env : LootEnv Pos) (t : LootWorld Pos)
    (sid bundleId : ℕ) (slotId : Fin NPC_HAVE_ITEM_LIST) (itemId count : ℕ) :
    (∃ r : LootResult, r.isError = true ∧ r.delivers = false ∧
      t.pickItem table env sid bundleId slotId itemId count =
        (r, t.restoreBundleItem bundleId slotId itemId count)) ∨
    ∃ picker dstPos slot gold, t.pickers sid = some picker ∧
      findSlotForItem table picker.inventory itemId count = some dstPos ∧
      slot.itemId = itemId ∧
      slot.count = min (saturatingAdd16 (picker.inventory.slot dstPos).count count) ITEMCOUNT_MAX ∧
      t.pickItem table env sid bundleId slotId itemId count =
        (.solo (some (dstPos - SLOT_MAX)) itemId slot.count gold,
          t.updatePicker sid fun p => { p with inventory := picker.inventory.set dstPos slot }) := by
  unfold LootWorld.pickItem
  cases hpicker : t.pickers sid with
  | none => exact Or.inl ⟨_, rfl, rfl, rfl⟩
  | some picker =>
    dsimp only
    by_cases hweight : !checkWeight table env.toWarehouseEnv picker.inventory itemId count
    · exact Or.inl ⟨_, rfl, rfl, if_pos hweight⟩
    rw [if_neg hweight]
    cases hfind : findSlotForItem table picker.inventory itemId count with
    | none => exact Or.inl ⟨_, rfl, rfl, rfl⟩
    | some dstPos =>
      cases table itemId with
      | none => exact Or.inl ⟨_, rfl, rfl, rfl⟩
      | some itemDef =>
        dsimp only
        by_cases htotal : INVENTORY_TOTAL ≤ dstPos
        · exact Or.inl ⟨_, rfl, rfl, if_pos htotal⟩
        rw [if_neg htotal]
        by_cases hlen : picker.inventory.length ≤ dstPos
        · exact Or.inl ⟨_, rfl, rfl, if_pos hlen⟩
        rw [if_neg hlen]
        exact Or.inr ⟨picker, dstPos, { picker.inventory.slot dstPos with
          itemId := itemId
          count := min (saturatingAdd16 (picker.inventory.slot dstPos).count count) ITEMCOUNT_MAX
          durability := if decide ((picker.inventory.slot dstPos).itemId = 0) then
            itemDef.duration.getD 0 else (picker.inventory.slot dstPos).durability
          serialNum := if decide ((picker.inventory.slot dstPos).itemId = 0) then
            env.nextItemSerial else (picker.inventory.slot dstPos).serialNum },
          picker.gold, rfl, hfind, rfl, rfl, rfl⟩

theorem lootKept (h : s.InRange) (table : ItemTable) (req : LootRequest Pos) :
    s.LootKept req (s.handle table req).1 (s.handle table req).2 := by
  obtain ⟨r, hr, hdelivers⟩ | ⟨b, slotId, hadmits, hr⟩ := handle_cases table s req
  · rw [hr]
    exact .unchanged hdelivers
  rw [hr]
  by_cases hgold : (b.items slotId).itemId = ITEM_GOLD
  · rw [if_pos hgold]
    obtain ⟨members, hparty, hnobody, heq⟩ | ⟨members, hparty, heq⟩ | heq | ⟨hroom, gold, heq⟩ :=
      pickGold_cases req.env (s.taken req.bundleId b slotId) req.sid req.bundleId slotId b.position
        (b.items slotId).count
    · rw [heq]
      exact .nobody hadmits ⟨hgold, members, hparty, hnobody⟩
    · rw [heq]
      exact .shared h hadmits hgold hparty
    · rw [heq, ← hgold]
      exact .putBack rfl h hadmits
    · rw [heq]
      exact .paid h hadmits hgold hroom
  · rw [if_neg hgold]
    obtain ⟨r, -, hdelivers, heq⟩ | ⟨picker, dstPos, slot, gold, hpicker, hfind, hitem, hslot, heq⟩ :=
      pickItem_cases table req.env (s.taken req.bundleId b slotId) req.sid req.bundleId slotId
        (b.items slotId).itemId (b.items slotId).count
    · rw [heq]
      exact .putBack hdelivers h hadmits
    · rw [heq]
      exact .arrived h hadmits hgold hpicker hfind hitem hslot

def LootWorld.step (table : ItemTable) (s : LootWorld Pos) (req : LootRequest Pos) : LootWorld Pos :=
  (s.handle table req).2

def delivered (table : ItemTable) (bundleId : ℕ) (slotId : Fin NPC_HAVE_ITEM_LIST)
    (s : LootWorld Pos) (req : LootRequest Pos) : ℕ :=
  if (s.handle table req).1.delivers ∧ req.bundleId = bundleId ∧ req.slotId = slotId then 1 else 0

/-- What a request does to the world, in short: nothing, or the stack is put back, or it is gone. -/
theorem step_cases (h : s.InRange) (table : ItemTable) (req : LootRequest Pos) :
    (s.step table req = s ∧ (s.handle table req).1.delivers = false) ∨
    ∃ b slotId, s.Admits req b slotId ∧
      ((s.step table req = s.putBack req.bundleId b slotId ∧
        (s.handle table req).1.delivers = false) ∨
      ((s.step table req).bundles = (s.taken req.bundleId b slotId).bundles ∧
        (s.step table req).InRange)) := by
  unfold LootWorld.step
  obtain ⟨r, hr, hdelivers⟩ | ⟨b, slotId, hadmits, hr⟩ := handle_cases table s req
  · rw [hr]
    exact Or.inl ⟨rfl, hdelivers⟩
  have htaken := h.taken hadmits.bundle slotId
  refine Or.inr ⟨b, slotId, hadmits, ?_⟩
  rw [hr]
  by_cases hgold : (b.items slotId).itemId = ITEM_GOLD
  · rw [if_pos hgold]
    obtain ⟨members, hparty, hnobody, heq⟩ | ⟨members, hparty, heq⟩ | heq | ⟨hroom, gold, heq⟩ :=
      pickGold_cases req.env (s.taken req.bundleId b slotId) req.sid req.bundleId slotId b.position
        (b.items slotId).count
    · rw [heq]
      exact Or.inr ⟨rfl, htaken⟩
    · rw [heq]
      obtain ⟨hbundles, hpickers⟩ := foldl_goldGain (s := s.taken req.bundleId b slotId)
        ((s.taken req.bundleId b slotId).eligible req.env members b.position) fun m =>
          lootGold (req.env.bonus m) ((b.items slotId).count /
            ((s.taken req.bundleId b slotId).eligible req.env members b.position).length)
      exact Or.inr ⟨hbundles, htaken.of_inventory hbundles hpickers⟩
    · rw [heq, ← hgold]
      exact Or.inl ⟨rfl, rfl⟩
    · rw [heq]
      obtain ⟨hbundles, hpickers⟩ := foldl_goldGain (s := s.taken req.bundleId b slotId)
        [req.sid] fun m => lootGold (req.env.bonus m) (b.items slotId).count
      exact Or.inr ⟨rfl, htaken.of_inventory hbundles hpickers⟩
  · rw [if_neg hgold]
    obtain ⟨r, -, hdelivers, heq⟩ | ⟨picker, dstPos, slot, gold, hpicker, hfind, hitem, hslot, heq⟩ :=
      pickItem_cases table req.env (s.taken req.bundleId b slotId) req.sid req.bundleId slotId
        (b.items slotId).itemId (b.items slotId).count
    · rw [heq]
      exact Or.inl ⟨rfl, hdelivers⟩
    · rw [heq]
      refine Or.inr ⟨rfl, htaken.bundles, fun sid p hp => ?_⟩
      have hcount := ((h.bundles _ _ hadmits.bundle).2 slotId).2 hgold
      have htidy := h.pickers _ _ hpicker
      change Function.update s.pickers req.sid _ sid = some p at hp
      by_cases hsid : sid = req.sid
      · rw [hsid, Function.update_self] at hp
        obtain ⟨p₀, -, rfl⟩ := Option.map_eq_some_iff.mp hp
        refine htidy.set dstPos ⟨hslot ▸ Nat.min_le_right _ _, fun hzero => ?_⟩
        have hstack := hadmits.stack
        unfold LootItem.isEmpty at hstack
        rw [← hitem, hzero] at hstack
        cases hstack
      · rw [Function.update_of_ne hsid] at hp
        exact h.pickers sid p hp

theorem LootWorld.InRange.step (h : s.InRange) (table : ItemTable) (req : LootRequest Pos) :
    (s.step table req).InRange := by
  obtain ⟨heq, -⟩ | ⟨b, slotId, hadmits, ⟨heq, -⟩ | ⟨-, hrange⟩⟩ := step_cases h table req
  · rwa [heq]
  · rw [heq]
    exact h.putBack hadmits.bundle slotId
  · exact hrange

theorem present_step (h : s.InRange) (table : ItemTable) (req : LootRequest Pos) (bundleId : ℕ)
    (slotId : Fin NPC_HAVE_ITEM_LIST) :
    (s.step table req).present bundleId slotId + delivered table bundleId slotId s req ≤
      s.present bundleId slotId := by
  unfold delivered
  obtain ⟨heq, hdelivers⟩ | ⟨b, i, hadmits, ⟨heq, hdelivers⟩ | ⟨hbundles, -⟩⟩ :=
    step_cases h table req
  · rw [heq, hdelivers]
    exact le_rfl
  · rw [heq, hdelivers]
    exact present_putBack_le hadmits.bundle (h.bundles _ _ hadmits.bundle).1 bundleId slotId
  · have hsame : (s.step table req).present bundleId slotId =
        (s.taken req.bundleId b i).present bundleId slotId := by
      unfold LootWorld.present
      rw [hbundles]
    rw [hsame]
    split_ifs with hthere
    · obtain ⟨-, rfl, hslot⟩ := hthere
      obtain rfl : i = slotId := Fin.ext (hadmits.slot.trans hslot)
      rw [present_taken_self, present_of_bundle hadmits.bundle]
      unfold LootItem.stackNumber
      rw [hadmits.stack]
      exact le_rfl
    · exact present_taken_le hadmits.bundle bundleId slotId

/-- Every request of a run keeps the loot, and no stack of a bundle is delivered twice. -/
theorem lootKept_run {s : LootWorld Pos} (h : s.InRange) (table : ItemTable)
    (steps : List (LootRequest Pos)) :
    Run.Along (LootWorld.step table)
      (fun s req => s.LootKept req (s.handle table req).1 (s.handle table req).2) s steps ∧
    ∀ bundleId slotId,
      Run.total (LootWorld.step table) (delivered table bundleId slotId) s steps ≤ 1 := by
  refine ⟨Run.along_of_invariant LootWorld.InRange
    (fun s req h _ => ⟨h.step table req, lootKept h table req⟩) (Run.along_true s steps) h,
    fun bundleId slotId => ?_⟩
  have hle := Run.total_le LootWorld.InRange (fun s => s.present bundleId slotId)
    (fun s req h => ⟨h.step table req, present_step h table req bundleId slotId⟩) steps h
  have hone : s.present bundleId slotId ≤ 1 := by
    unfold LootWorld.present
    cases s.bundles bundleId with
    | none => exact Nat.zero_le 1
    | some b =>
      rw [Option.elim_some]
      unfold LootItem.stackNumber
      split_ifs <;> omega
  exact (Nat.le_add_left _ _).trans (hle.trans hone)

def spoils : GroundBundle (ℤ × ℤ) where
  bundleId := 1
  itemsCount := 2
  looter := 1
  position := (100, 100)
  items := fun i =>
    if i.val = 0 then ⟨ITEM_GOLD, 10, 0⟩ else if i.val = 1 then ⟨389010000, 5, 1⟩ else {}

def clearing : LootWorld (ℤ × ℤ) where
  bundles := fun id => if id = 1 then some spoils else none
  pickers := fun sid => if 1 ≤ sid ∧ sid ≤ 3 then some ⟨List.replicate INVENTORY_TOTAL {}, 100⟩ else none

def distanceSq (p q : ℤ × ℤ) : ℤ := (p.1 - q.1) ^ 2 + (p.2 - q.2) ^ 2

def comrades : LootEnv (ℤ × ℤ) where
  inGame := true
  isPlayerDead := false
  isTrading := false
  isStoreOpen := false
  isMerchanting := false
  isSellingMerchant := false
  isSellingMerchantPreparing := false
  isBuyingMerchantPreparing := false
  isMining := false
  isFishing := false
  genieActive := false
  zoneId := 21
  isNpcDead := fun _ => false
  isInNpcRange := fun _ => false
  npcType := fun _ => none
  itemWeight := 0
  maxWeight := 1000
  nextItemSerial := 1
  position := fun sid => some (100 + sid, 100)
  dead := fun _ => false
  partyId := fun sid => if 1 ≤ sid ∧ sid ≤ 3 then some 1 else none
  party := fun id => if id = 1 then some [1, 2, 3] else none
  party_nodup := by
    intro id members hmembers
    split_ifs at hmembers
    obtain rfl := Option.some.inj hmembers
    decide
  tooFar := fun p q => 2500 < distanceSq p q
  inRange := fun p q => distanceSq p q ≤ 2500
  bonus := fun _ => .off

def arrows : ItemTable := fun id => if id = 389010000 then some { countable := some 1 } else none

theorem inRange_clearing : clearing.InRange := by
  refine ⟨fun id b hb => ?_, fun sid p hp => ?_⟩
  · change (if id = 1 then some spoils else none) = some b at hb
    split_ifs at hb
    obtain rfl := Option.some.inj hb
    exact ⟨by decide, by decide⟩
  · change (if 1 ≤ sid ∧ sid ≤ 3 then some _ else none) = some p at hp
    split_ifs at hp
    obtain rfl := Option.some.inj hp
    intro i
    change TidySlot ((List.replicate INVENTORY_TOTAL {}).getD i {})
    rw [List.getD_eq_getElem?_getD, List.getElem?_getD_replicate_default_eq]
    exact tidySlot_default

/-- Two of them want the item, and one the gold. -/
theorem lootKept_clearing :
    Run.Along (LootWorld.step arrows)
      (fun s req => s.LootKept req (s.handle arrows req).1 (s.handle arrows req).2) clearing
      [⟨comrades, 1, 1, 1⟩, ⟨comrades, 2, 1, 1⟩, ⟨comrades, 2, 1, 0⟩] ∧
    ∀ bundleId slotId, Run.total (LootWorld.step arrows) (delivered arrows bundleId slotId) clearing
      [⟨comrades, 1, 1, 1⟩, ⟨comrades, 2, 1, 1⟩, ⟨comrades, 2, 1, 0⟩] ≤ 1 :=
  lootKept_run inRange_clearing arrows _

/-- Of the 10 gold each of the three gets 3. -/
theorem not_lootExact_clearing :
    let answer := clearing.handle arrows ⟨comrades, 1, 1, 0⟩
    answer.1 = .itemGivenAway ∧
      Tally.total answer.2.goldOf [1, 2, 3] ≠ Tally.total clearing.goldOf [1, 2, 3] + 10 := by
  decide +kernel

end KoServer
