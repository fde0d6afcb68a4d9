import Mathlib.Data.Fintype.Basic
import KoServer.Lib.Ledger
import KoServer.Lib.Run
import KoServer.Proofs.GuildBank
import KoServer.Spec.ClanWarehouse

/-! Withdrawals of several members at once. Between the write to the inventory and the deduction
the units are there twice; what is in flight is counted by the phases. -/

namespace KoServer

open Function Finset

variable {ι G : Type} [DecidableEq ι] {table : ItemTable} {item : Item}

/-- Units that are in the member's inventory and not yet deducted. -/
def inFlight (table : ItemTable) (id : ℕ) : WithdrawPhase → ℕ
  | .deducting _ req => movedUnits table id req.itemId (asU16 req.count)
  | .rollingBack req => movedUnits table id req.itemId (asU16 req.count)
  | _ => 0

structure Arrived (table : ItemTable) (req : ClanRequest) (w : WithdrawMember) (a : UserItemSlot) :
    Prop where
  dstIdx_lt : req.dstIdx < w.before.length
  inventory : w.member.inventory = w.before.set req.dstIdx a
  brought : ∀ id ≠ 0, slotUnits table id a =
    slotUnits table id (w.before.slot req.dstIdx) +
      movedUnits table id req.itemId (asU16 req.count)

def MemberOk (table : ItemTable) (w : WithdrawMember) : Prop :=
  match w.phase with
  | .idle => True
  | .adding _ item req src => table req.itemId = some item ∧
      req.whSlot req.srcPos < WAREHOUSE_MAX ∧ src.itemId = req.itemId ∧ w.member.inventory = w.before
  | .deducting item req => table req.itemId = some item ∧
      req.whSlot req.srcPos < WAREHOUSE_MAX ∧ ∃ a, Arrived table req w a
  | .rollingBack req => w.before.slot req.dstIdx = {} ∧ ∃ a, Arrived table req w a
  | .answered result => result ≠ .success → w.member.inventory = w.before

theorem Arrived.units_inventory {req : ClanRequest} {w : WithdrawMember} {a : UserItemSlot}
    (h : Arrived table req w a) {id : ℕ} (hid : id ≠ 0) :
    units table id w.member.inventory =
      units table id w.before + movedUnits table id req.itemId (asU16 req.count) := by
  have hset := units_set table id h.dstIdx_lt a
  have hunits := h.brought id hid
  rw [h.inventory]
  omega

theorem Arrived.rollback {req : ClanRequest} {w : WithdrawMember} {a : UserItemSlot}
    (h : Arrived table req w a) (hblank : w.before.slot req.dstIdx = {}) :
    rollbackInventory (SLOT_MAX + req.dstPos) w.member.inventory = w.before := by
  show w.member.inventory.set req.dstIdx {} = w.before
  rw [h.inventory, List.set_set, ← hblank, Inventory.slot, List.getD_eq_getElem _ _ h.dstIdx_lt,
    List.set_getElem_self]

/-- What comes before the read only moves gold, or lets the read happen. -/
structure StartOk (table : ItemTable) (start : WithdrawStart G) : Prop where
  answered : ∀ env b m req r b' m', start env b m req = .inl (r, b', m') →
    b'.items = b.items ∧ m'.inventory = m.inventory
  checked : ∀ env b m req item, start env b m req = .inr item →
    table req.itemId = some item ∧ req.whSlot req.srcPos < WAREHOUSE_MAX

theorem outputStart_ok (table : ItemTable) : StartOk table (outputStart table) := by
  constructor
  · intro env b m req r b' m' h
    unfold outputStart at h
    cases hitem : table req.itemId <;> rw [hitem] at h <;> dsimp only at h <;> split_ifs at h <;>
      obtain ⟨rfl, rfl, rfl⟩ := Sum.inl.inj h <;> exact ⟨rfl, rfl⟩
  · intro env b m req item h
    unfold outputStart at h
    cases hitem : table req.itemId with
    | none =>
      rw [hitem] at h
      dsimp only at h
      split_ifs at h
    | some item' =>
      rw [hitem] at h
      dsimp only at h
      split_ifs at h with h₁ h₂ h₃ h₄ h₅ h₆ h₇ hpos
      obtain rfl := Sum.inr.inj h
      exact ⟨rfl, not_le.mp (not_or.mp hpos).1⟩

theorem withdrawStart_ok (table : ItemTable) : StartOk table (withdrawStart table) := by
  constructor
  · intro env b m req r b' m' h
    unfold withdrawStart at h
    split at h
    · obtain ⟨rfl, rfl, rfl⟩ := Sum.inl.inj h
      exact ⟨rfl, rfl⟩
    · cases h
  · intro env b m req item h
    unfold withdrawStart at h
    split at h
    · cases h
    · next item' hchecked =>
      obtain rfl := Sum.inr.inj h
      obtain ⟨htable, -, hwh, -⟩ := withdrawChecked_ok hchecked
      exact ⟨htable, hwh⟩

namespace ClanSystem

variable [Fintype ι]

def units (table : ItemTable) (id : ℕ) (s : ClanSystem ι G) : ℕ :=
  KoServer.units table id s.storage.items +
    ∑ m, KoServer.units table id (s.members m).member.inventory

structure Balanced (table : ItemTable) (s₀ s : ClanSystem ι G) : Prop where
  members : ∀ m, MemberOk table (s.members m)
  units : ∀ id ≠ 0, s.units table id =
    s₀.units table id + ∑ m, inFlight table id (s.members m).phase

variable {s₀ s : ClanSystem ι G} {m : ι} {w : WithdrawMember} {storage : ClanStorage G}

theorem Balanced.put (h : Balanced table s₀ s) (hw : MemberOk table w)
    (hunits : ∀ id ≠ 0, KoServer.units table id storage.items +
        KoServer.units table id w.member.inventory + inFlight table id (s.members m).phase =
      KoServer.units table id s.storage.items +
        KoServer.units table id (s.members m).member.inventory + inFlight table id w.phase) :
    Balanced table s₀ ({ s with storage := storage }.put m w) := by
  refine ⟨fun k => ?_, fun id hid => ?_⟩
  · show MemberOk table (update s.members m w k)
    rcases eq_or_ne k m with rfl | hne
    · rwa [update_self]
    · rw [update_of_ne hne]
      exact h.members k
  · have hinv := Ledger.sum_update (fun v : WithdrawMember =>
      KoServer.units table id v.member.inventory) s.members w (mem_univ m)
    have hflight := Ledger.sum_update (fun v : WithdrawMember => inFlight table id v.phase)
      s.members w (mem_univ m)
    have hstep := hunits id hid
    have hbefore := h.units id hid
    show KoServer.units table id storage.items +
        ∑ k, KoServer.units table id (update s.members m w k).member.inventory =
      s₀.units table id + ∑ k, inFlight table id (update s.members m w k).phase
    unfold ClanSystem.units at hbefore ⊢
    omega

end ClanSystem

/-- A write or a deduction that loses or makes units, or a rollback of a slot that was in use. -/
def withdrawStrays (s : ClanSystem ι G) : WithdrawStep ι → Prop
  | .request _ _ _ => False
  | .proceed m =>
    match (s.members m).phase with
    | .adding _ item req src =>
      req.dstIdx < (s.members m).member.inventory.length ∧
        destinationTaken item src ((s.members m).member.inventory.slot req.dstIdx) = false ∧
        landsShort item (asU16 req.count) ((s.members m).member.inventory.slot req.dstIdx)
    | .deducting item req =>
      if (s.storage.slot (req.whSlot req.srcPos)).itemId = req.itemId ∧
          asU16 req.count ≤ (s.storage.slot (req.whSlot req.srcPos)).count then
        leavesShort item (asU16 req.count) (s.storage.slot (req.whSlot req.srcPos))
      else (s.members m).before.slot req.dstIdx ≠ {}
    | _ => False

instance (s : ClanSystem ι G) (i : WithdrawStep ι) : Decidable (withdrawStrays s i) := by
  unfold withdrawStrays
  split
  · infer_instance
  · split <;> infer_instance

namespace ClanSystem

variable [Fintype ι] {s₀ s : ClanSystem ι G} {m : ι}

theorem balanced_add {nextSerial : ℕ} {req : ClanRequest} {src : UserItemSlot} {inv : Inventory}
    (h : Balanced table s₀ s)
    (hphase : (s.members m).phase = .adding nextSerial item req src)
    (hadd : addToInventory item (asU16 req.count) nextSerial req.dstIdx src
      (s.members m).member.inventory = some inv)
    (hwhole : ¬ landsShort item (asU16 req.count) ((s.members m).member.inventory.slot req.dstIdx)) :
    Balanced table s₀ (s.put m { s.members m with
      member := { (s.members m).member with inventory := inv }, phase := .deducting item req }) := by
  have hm := h.members m
  rw [MemberOk, hphase] at hm
  obtain ⟨htable, hwh, hsrc, hbefore⟩ := hm
  obtain ⟨hlen, hfree, rfl⟩ := addToInventory_eq_some.mp hadd
  rw [hbefore] at hlen hfree hwhole
  have harrived : Arrived table req
      { s.members m with
        member := { (s.members m).member with
          inventory := (s.members m).member.inventory.set req.dstIdx
            (storedItem item (asU16 req.count) nextSerial src
              ((s.members m).member.inventory.slot req.dstIdx)) }
        phase := .deducting item req }
      (storedItem item (asU16 req.count) nextSerial src
        ((s.members m).member.inventory.slot req.dstIdx)) := by
    refine ⟨hlen, by rw [hbefore], fun id hid => ?_⟩
    rw [hbefore, ← hsrc]
    exact storedItem_units (hsrc.symm ▸ htable) hfree hwhole hid
  refine h.put ⟨htable, hwh, _, harrived⟩ fun id hid => ?_
  have hunits := harrived.units_inventory hid
  rw [hphase]
  dsimp only [inFlight] at hunits ⊢
  rw [hunits, hbefore]
  omega

theorem balanced_deduct {req : ClanRequest} {storage : ClanStorage G} (h : Balanced table s₀ s)
    (hphase : (s.members m).phase = .deducting item req)
    (hdeduct : deductStored item req.itemId (asU16 req.count) (req.whSlot req.srcPos) s.storage =
      some storage)
    (hwhole : ¬ leavesShort item (asU16 req.count) (s.storage.slot (req.whSlot req.srcPos))) :
    Balanced table s₀
      ({ s with storage := storage }.put m { s.members m with phase := .answered .success }) := by
  have hm := h.members m
  rw [MemberOk, hphase] at hm
  obtain ⟨htable, hwh, -⟩ := hm
  obtain ⟨hid, hcount, rfl⟩ := deductStored_eq_some.mp hdeduct
  refine h.put (fun hne => absurd rfl hne) fun id hid0 => ?_
  have hset := ClanStorage.units_setItem (b := s.storage) table id hwh
    (reducedItem item (asU16 req.count) (s.storage.slot (req.whSlot req.srcPos)))
  have hreduced := reducedItem_units htable hid hcount hwhole hid0
  rw [hphase]
  dsimp only [inFlight]
  omega

theorem balanced_lost {req : ClanRequest} (h : Balanced table s₀ s)
    (hphase : (s.members m).phase = .deducting item req)
    (hblank : (s.members m).before.slot req.dstIdx = {}) :
    Balanced table s₀ (s.put m { s.members m with phase := .rollingBack req }) := by
  have hm := h.members m
  rw [MemberOk, hphase] at hm
  obtain ⟨-, -, a, ha⟩ := hm
  refine h.put ⟨hblank, a, ⟨ha.dstIdx_lt, ha.inventory, ha.brought⟩⟩ fun id hid => ?_
  rw [hphase]
  rfl

theorem balanced_rollback {req : ClanRequest} (h : Balanced table s₀ s)
    (hphase : (s.members m).phase = .rollingBack req) :
    Balanced table s₀ (s.put m { s.members m with
      member := { (s.members m).member with
        inventory := rollbackInventory (SLOT_MAX + req.dstPos) (s.members m).member.inventory }
      phase := .answered .error }) := by
  have hm := h.members m
  rw [MemberOk, hphase] at hm
  obtain ⟨hblank, a, ha⟩ := hm
  have hback := ha.rollback hblank
  refine h.put (fun _ => hback) fun id hid => ?_
  have hunits := ha.units_inventory hid
  rw [hphase]
  dsimp only [inFlight]
  rw [hback, hunits]
  omega

theorem balanced_answer (storage : ClanStorage G) {result : ClanResult} {member : ClanMember}
    (h : Balanced table s₀ s) (hflight : ∀ id, inFlight table id (s.members m).phase = 0)
    {before : Inventory} (hitems : storage.items = s.storage.items)
    (hinv : member.inventory = (s.members m).member.inventory) (hbefore : before = member.inventory) :
    Balanced table s₀
      ({ s with storage := storage }.put m ⟨member, .answered result, before⟩) := by
  refine h.put (fun _ => hbefore.symm) fun id hid => ?_
  rw [hflight, hitems, hinv]
  rfl

theorem balanced_proceed (h : Balanced table s₀ s) (hkept : ¬ withdrawStrays s (.proceed m)) :
    Balanced table s₀ (s.proceed m) := by
  rw [proceed]
  dsimp only
  cases hphase : (s.members m).phase with
  | idle => exact h
  | answered result => exact h
  | adding nextSerial item req src =>
    rw [withdrawStrays, hphase] at hkept
    dsimp only
    split
    · have hm := h.members m
      rw [MemberOk, hphase] at hm
      refine balanced_answer s.storage h (fun id => by rw [hphase]; rfl) rfl rfl ?_
      exact hm.2.2.2.symm
    · next inv hadd =>
      obtain ⟨hlen, hfree, -⟩ := addToInventory_eq_some.mp hadd
      exact balanced_add h hphase hadd fun hshort => hkept ⟨hlen, hfree, hshort⟩
  | deducting item req =>
    rw [withdrawStrays, hphase] at hkept
    dsimp only
    split
    · next hlost =>
      refine balanced_lost h hphase ?_
      dsimp only at hkept
      rw [if_neg] at hkept
      · exact not_not.mp hkept
      · rintro ⟨hid, hcount⟩
        rw [(@deductStored_eq_some _ item _ _ _ _ _).mpr ⟨hid, hcount, rfl⟩] at hlost
        cases hlost
    · next storage hdeduct =>
      obtain ⟨hid, hcount, -⟩ := deductStored_eq_some.mp hdeduct
      dsimp only at hkept
      rw [if_pos ⟨hid, hcount⟩] at hkept
      exact balanced_deduct h hphase hdeduct hkept
  | rollingBack req => exact balanced_rollback h hphase

theorem balanced_request {start : WithdrawStart G} (hstart : StartOk table start)
    (h : Balanced table s₀ s) (env : ClanEnv) (req : ClanRequest) :
    Balanced table s₀ (s.request start m env req) := by
  rw [request]
  split
  · exact h
  next hfinished =>
  have hflight (id : ℕ) : inFlight table id (s.members m).phase = 0 := by
    cases hphase : (s.members m).phase <;> rw [hphase] at hfinished <;>
      first | rfl | exact absurd rfl hfinished
  split
  · next result storage member hanswer =>
    obtain ⟨hitems, hinv⟩ := hstart.answered _ _ _ _ _ _ _ hanswer
    exact balanced_answer _ h hflight hitems hinv hinv.symm
  next item hitem =>
  split
  · exact balanced_answer s.storage h hflight rfl rfl rfl
  next src hread =>
  obtain ⟨-, hsrc, -, -⟩ := readStored_ok hread
  obtain ⟨htable, hwh⟩ := hstart.checked _ _ _ _ _ hitem
  show Balanced table s₀ ({ s with storage := s.storage }.put m _)
  refine h.put ⟨htable, hwh, hsrc, rfl⟩ fun id hid => ?_
  rw [hflight]
  rfl

omit [DecidableEq ι] in
theorem balanced_start (hidle : ∀ m, (s.members m).phase = .idle) : Balanced table s s := by
  refine ⟨fun m => ?_, fun id hid => ?_⟩
  · rw [MemberOk, hidle]
    trivial
  · have hnone : ∑ m, inFlight table id (s.members m).phase = 0 :=
      Finset.sum_eq_zero fun m _ => by rw [hidle]; rfl
    rw [hnone, Nat.add_zero]

theorem balanced_run {start : WithdrawStart G} (hstart : StartOk table start)
    (hidle : ∀ m, (s.members m).phase = .idle) {steps : List (WithdrawStep ι)}
    (hok : Run.Along (withdrawStep start) (fun s i => ¬ withdrawStrays s i) s steps) :
    Balanced table s (Run.run (withdrawStep start) s steps) := by
  refine Run.invariant (Balanced table s) (fun t i ht hi => ?_) hok (balanced_start hidle)
  cases i with
  | request m env req => exact balanced_request hstart ht env req
  | proceed m => exact balanced_proceed ht hi

end ClanSystem

theorem withdraw_alone (table : ItemTable) (s : ClanSystem ι ℤ) (m : ι) (env : ClanEnv)
    (req : ClanRequest) (hfinished : (s.members m).phase.finished = true) :
    let out := handleWithdraw table env ⟨s.storage, (s.members m).member, []⟩ req
    let t := Run.run (withdrawStep (withdrawStart table)) s
      [.request m env req, .proceed m, .proceed m, .proceed m]
    t.storage = out.2.bank ∧ (t.members m).member = out.2.member ∧
      (t.members m).phase = .answered out.1 := by
  simp only [Run.run_cons, Run.run_nil, withdrawStep, ClanSystem.request, hfinished, withdrawStart,
    handleWithdraw]
  cases withdrawChecked table env (s.members m).member.inventory req with
  | error r => simp [ClanSystem.proceed, ClanSystem.put]
  | ok item =>
    cases hread : readStored req.itemId (asU16 req.count) (req.whSlot req.srcPos) s.storage with
    | error r => simp [ClanSystem.proceed, ClanSystem.put]
    | ok src =>
      cases hadd : addToInventory item (asU16 req.count) env.nextItemSerial (SLOT_MAX + req.dstPos)
          src (s.members m).member.inventory with
      | none => simp [ClanSystem.proceed, ClanSystem.put, hadd]
      | some inv =>
        cases hdeduct : deductStored item req.itemId (asU16 req.count) (req.whSlot req.srcPos)
            s.storage with
        | none => simp [ClanSystem.proceed, ClanSystem.put, hadd, hdeduct]
        | some storage =>
          simp [ClanSystem.proceed, ClanSystem.put, hadd, hdeduct, BankState.saveSlot]

/-- Over runs that stray nowhere: when all requests are finished the storage and the members
together have every item as before, and whoever was answered with a failure has the inventory that
there was when the request came. -/
def WithdrawalsConserve (table : ItemTable) (start : WithdrawStart G) : Prop :=
  ∀ (ι : Type) [Fintype ι] [DecidableEq ι] (s : ClanSystem ι G) (steps : List (WithdrawStep ι)),
    (∀ m, (s.members m).phase = .idle) →
    Run.Along (withdrawStep start) (fun s i => ¬ withdrawStrays s i) s steps →
    ((∀ m, ((Run.run (withdrawStep start) s steps).members m).phase.finished = true) →
      ∀ id ≠ 0, (Run.run (withdrawStep start) s steps).units table id = s.units table id) ∧
    ∀ m result, ((Run.run (withdrawStep start) s steps).members m).phase = .answered result →
      result ≠ .success →
      ((Run.run (withdrawStep start) s steps).members m).member.inventory =
        ((Run.run (withdrawStep start) s steps).members m).before

theorem withdrawalsConserve_of_ok {start : WithdrawStart G} (hstart : StartOk table start) :
    WithdrawalsConserve table start := by
  intro ι _ _ s steps hidle hok
  have h := ClanSystem.balanced_run hstart hidle hok
  refine ⟨fun hfinished id hid => ?_, fun m result hphase hfailed => ?_⟩
  · have hnone : ∑ m, inFlight table id
        ((Run.run (withdrawStep start) s steps).members m).phase = 0 := by
      refine Finset.sum_eq_zero fun m _ => ?_
      have hm := hfinished m
      cases hphase : ((Run.run (withdrawStep start) s steps).members m).phase <;>
        rw [hphase] at hm <;> first | rfl | cases hm
    have hunits := h.units id hid
    rwa [hnone, Nat.add_zero] at hunits
  · have hm := h.members m
    rw [MemberOk, hphase] at hm
    exact hm hfailed

/-- So it is for both of the clan's storages. -/
theorem clan_withdrawals_conserve (table : ItemTable) :
    WithdrawalsConserve table (outputStart table) ∧
      WithdrawalsConserve table (withdrawStart table) :=
  ⟨withdrawalsConserve_of_ok (outputStart_ok table), withdrawalsConserve_of_ok (withdrawStart_ok table)⟩

/-- Ten potions in the warehouse. The first member has five in the bag, the second an empty slot. -/
def potionClan : ClanSystem Bool ℕ where
  storage :=
    { items := { itemId := 389010000, durability := 1, count := 10 } ::
        List.replicate (WAREHOUSE_MAX - 1) {}
      items_length := by rw [List.length_cons, List.length_replicate]; rfl
      gold := 0 }
  members m :=
    { member :=
        { inventory := Inventory.padded (List.replicate SLOT_MAX {} ++
            [if m then { itemId := 389010000, durability := 1, count := 5 } else {}])
          gold := 0 }
      phase := .idle
      before := [] }

/-- Both ask for potions of the same slot at the same time, and the second gets them first. -/
def bothWithdraw (count : ℕ) : List (WithdrawStep Bool) :=
  [.request true quietClan (bankPotions 0 0 count), .request false quietClan (bankPotions 0 0 count),
    .proceed true, .proceed false, .proceed false, .proceed true, .proceed true]

/-- Five each: both get theirs. -/
theorem both_withdraw_five :
    (Run.run (withdrawStep (outputStart potionTable)) potionClan (bothWithdraw 5)).units
      potionTable 389010000 = potionClan.units potionTable 389010000 :=
  ((clan_withdrawals_conserve potionTable).1 Bool potionClan (bothWithdraw 5) (fun _ => rfl)
    (by decide +kernel)).1 (by decide +kernel) 389010000 (by decide)

/-- All ten for each: the first member is refused in the end, and loses the five that were in the
bag before. -/
theorem both_withdraw_all :
    (∀ m, ((Run.run (withdrawStep (outputStart potionTable)) potionClan
      (bothWithdraw 10)).members m).phase.finished = true) ∧
    (Run.run (withdrawStep (outputStart potionTable)) potionClan (bothWithdraw 10)).units
      potionTable 389010000 ≠ potionClan.units potionTable 389010000 ∧
    ((Run.run (withdrawStep (outputStart potionTable)) potionClan
      (bothWithdraw 10)).members true).phase = .answered .error ∧
    ((Run.run (withdrawStep (outputStart potionTable)) potionClan
        (bothWithdraw 10)).members true).member.inventory ≠
      ((Run.run (withdrawStep (outputStart potionTable)) potionClan
        (bothWithdraw 10)).members true).before := by
  decide +kernel

end KoServer
