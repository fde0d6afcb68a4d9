import KoServer.Lib.LazyCache
import KoServer.Proofs.GuildBankRows
import KoServer.Spec.ClanWarehouse

/-! Sessions that load a clan's storage and deposit in it at the same time. An insertion that
comes late overwrites what was deposited since its rows were read. -/

namespace KoServer

open LazyCache (Sys Step Lossless)

variable {table : ItemTable} {clan : ℕ}

def storageWorth {G : Type} (table : ItemTable) (gold : G → ℤ) :
    Option ℕ → ClanStorage G → ℤ
  | some id, b => if id = 0 then 0 else units table id b.items
  | none, b => gold b.gold

inductive GuildDeposit
  | gold (amount : ℕ)
  | item (req : ClanRequest)

def GuildDeposit.request : GuildDeposit → GuildRequest
  | .gold amount => .goldOp amount 0
  | .item req => .deposit req

structure GuildDepositor where
  env : ClanEnv
  member : ClanMember
  deposit : GuildDeposit

/-- The deposit on the entry, and the tasks it spawns. -/
def guildDeposit (table : ItemTable) (clan : ℕ) (a : GuildDepositor) (b : GuildBank) :
    Option (GuildBank × List (GuildBankStore → GuildBankStore)) :=
  match handleItemData table a.env ⟨b, a.member, []⟩ a.deposit.request with
  | (.success, s) => some (s.bank, s.pending.map fun w store => store.execute clan w)
  | _ => none

/-- What a deposit is to bring: the count as the handler takes it. -/
def guildGain (table : ItemTable) : Option ℕ → GuildDepositor → ℤ
  | k, ⟨_, _, .gold amount⟩ => if k = none then amount else 0
  | k, ⟨_, _, .item req⟩ =>
    match k with
    | some id => if id = 0 then 0 else movedUnits table id req.itemId (asU16 req.count)
    | none => 0

/-- The cache entry, the rows and the sessions of one clan. -/
abbrev GuildLoading (τ : Type) := Sys τ GuildBank GuildBankStore GuildDepositor

def guildLoadStep {τ : Type} [DecidableEq τ] (table : ItemTable) (clan : ℕ) :
    GuildLoading τ → Step τ GuildDepositor → GuildLoading τ :=
  Sys.step (fun store => store.loadGuildBank clan) (guildDeposit table clan)

section Worth

variable {G : Type} {gold : G → ℤ} {b b' : ClanStorage G}

theorem worth_storeIn {item : Item} {src : UserItemSlot} {itemId count nextSerial whIdx : ℕ}
    (hwh : whIdx < WAREHOUSE_MAX) (htable : table itemId = some item) (hsrc : src.itemId = itemId)
    (hstore : storeIn item count nextSerial whIdx src b = some b')
    (hwhole : ¬ landsShort item count (b.slot whIdx)) (k : Option ℕ) :
    storageWorth table gold k b +
        (match k with
          | some id => if id = 0 then 0 else (movedUnits table id itemId count : ℤ)
          | none => 0) ≤
      storageWorth table gold k b' := by
  cases k with
  | none =>
    obtain ⟨-, rfl⟩ := storeIn_eq_some.mp hstore
    simp only [storageWorth, ClanStorage.setItem]
    omega
  | some id =>
    simp only [storageWorth]
    split_ifs with hid
    · omega
    · have hunits := storeIn_units hwh (hsrc.symm ▸ htable) hstore hwhole hid
      rw [hunits, hsrc]
      push_cast
      omega

theorem worth_gold {amount : ℕ} {g : G} (hgold : gold b.gold + amount ≤ gold g) (k : Option ℕ) :
    storageWorth table gold k b + (if k = none then (amount : ℤ) else 0) ≤
      storageWorth table gold k { b with gold := g } := by
  cases k with
  | none => exact hgold
  | some id =>
    rw [if_neg (by simp), add_zero]
    exact le_refl _

end Worth

def guildLosesDeposit {τ : Type} (table : ItemTable) (s : GuildLoading τ) :
    Step τ GuildDepositor → Prop
  | .act t ⟨env, member, .item req⟩ => s.phase t = .ready ∧ ∃ b item, s.entry = some b ∧
      table req.itemId = some item ∧ DepositAllowed env ⟨b, member, []⟩ item req ∧
      landsShort item (asU16 req.count) (b.slot (req.whSlot req.dstPos))
  | i => LazyCache.Overwrites (storageWorth table id) s i

theorem guildDeposit_eq_some {a : GuildDepositor} {b b' : GuildBank}
    {tasks : List (GuildBankStore → GuildBankStore)}
    (h : guildDeposit table clan a b = some (b', tasks)) :
    (handleItemData table a.env ⟨b, a.member, []⟩ a.deposit.request).1 = .success ∧
      (handleItemData table a.env ⟨b, a.member, []⟩ a.deposit.request).2.bank = b' := by
  unfold guildDeposit at h
  split at h
  · next s heq =>
    rw [heq]
    obtain ⟨rfl, -⟩ := Prod.mk.inj (Option.some.inj h)
    exact ⟨rfl, rfl⟩
  · cases h

theorem handleGoldOp_deposit {env : ClanEnv} {s : BankState} {amount : ℕ}
    (h : (handleGoldOp env s amount 0).1 = .success) :
    (handleGoldOp env s amount 0).2.bank = { s.bank with gold := s.bank.gold + amount } := by
  unfold handleGoldOp at h ⊢
  cases hfame : env.clanFame with
  | none =>
    rw [hfame] at h
    dsimp only at h
    split_ifs at h
  | some fame =>
    rw [hfame] at h
    dsimp only at h ⊢
    rw [if_pos rfl] at h ⊢
    split_ifs at h ⊢
    rfl

theorem guildDeposit_lossless {τ : Type} {s : GuildLoading τ} {i : Step τ GuildDepositor}
    (h : ¬ guildLosesDeposit table s i) :
    Lossless (guildDeposit table clan) (storageWorth table id) (guildGain table) s i := by
  cases i with
  | look t => trivial
  | read t => trivial
  | run k => trivial
  | insert t =>
    intro v loaded hentry hphase k
    by_contra hless
    exact h ⟨v, loaded, hentry, hphase, k, not_le.mp hless⟩
  | act t a =>
    intro b b' tasks hphase hentry happly k
    obtain ⟨env, member, deposit⟩ := a
    obtain ⟨hsuccess, hbank⟩ := guildDeposit_eq_some happly
    cases deposit with
    | gold amount =>
      have hgold := handleGoldOp_deposit hsuccess
      obtain rfl := hbank.symm.trans hgold
      exact worth_gold (le_refl _) k
    | item req =>
      dsimp only [GuildDeposit.request, handleItemData] at hsuccess hbank
      rcases handleDeposit_spec table env ⟨b, member, []⟩ req with
        ⟨r, hr, heq⟩ | ⟨item, htable, hallowed, heq⟩
      · rw [heq] at hsuccess
        exact absurd hsuccess hr
      · rw [heq] at hbank
        have hwhole : ¬ landsShort item (asU16 req.count) (b.slot (req.whSlot req.dstPos)) :=
          fun hshort => h ⟨hphase, b, item, hentry, htable, hallowed, hshort⟩
        have hstore := storeIn_eq_some.mpr ⟨hallowed.free, hbank.symm⟩
        exact worth_storeIn hallowed.whIdx_lt htable hallowed.holds hstore hwhole k

structure WarehouseDepositor where
  env : ClanEnv
  member : ClanMember
  req : ClanRequest

def warehouseDeposit (table : ItemTable) (clan : ℕ) (a : WarehouseDepositor) (b : ClanWarehouse) :
    Option (ClanWarehouse × List (ClanWarehouseStore → ClanWarehouseStore)) :=
  match handleInput table a.env ⟨b, a.member, []⟩ a.req with
  | (.success, s) => some (s.warehouse, s.pending.map fun w store => store.execute clan w)
  | _ => none

def warehouseGain (table : ItemTable) (k : Option ℕ) (a : WarehouseDepositor) : ℤ :=
  if a.req.itemId = ITEM_GOLD then if k = none then a.req.count else 0
  else
    match k with
    | some id => if id = 0 then 0 else movedUnits table id a.req.itemId (asU16 a.req.count)
    | none => 0

abbrev WarehouseLoading (τ : Type) := Sys τ ClanWarehouse ClanWarehouseStore WarehouseDepositor

def warehouseLoadStep {τ : Type} [DecidableEq τ] (table : ItemTable) (clan : ℕ) :
    WarehouseLoading τ → Step τ WarehouseDepositor → WarehouseLoading τ :=
  Sys.step (fun store => store.loadClanWarehouse clan) (warehouseDeposit table clan)

structure InputDeposits (table : ItemTable) (env : ClanEnv) (b : ClanWarehouse)
    (member : ClanMember) (item : Item) (req : ClanRequest) : Prop where
  state : validateBasicState env = true
  clan : env.clanFame.isSome = true ∧ env.clanKnown = true
  inRange : env.isInNpcRange req.npcId = true
  fields : req.count ≠ 0 ∧ req.itemId ≠ ITEM_GOLD
  table : table req.itemId = some item
  srcPos_lt : req.srcPos < HAVE_MAX
  whIdx_lt : req.whSlot req.dstPos < WAREHOUSE_MAX
  tradable : ¬ (ITEM_NO_TRADE_MIN ≤ req.itemId ∧ req.itemId ≤ ITEM_NO_TRADE_MAX)
  srcIdx_lt : req.srcIdx < member.inventory.length
  holds : (member.inventory.slot req.srcIdx).itemId = req.itemId
  accepted : depositRefused (member.inventory.slot req.srcIdx) (asU16 req.count) = none
  free : destinationTaken item (member.inventory.slot req.srcIdx)
    (b.slot (req.whSlot req.dstPos)) = false

inductive InputCase (table : ItemTable) (env : ClanEnv) (s : ClanWarehouseState)
    (req : ClanRequest) : ClanResult × ClanWarehouseState → Prop
  | refused {result : ClanResult} (hresult : result ≠ .success) :
      InputCase table env s req (result, s)
  | gold {t : ClanWarehouseState} (hitem : req.itemId = ITEM_GOLD)
      (hgold : t.warehouse = { s.warehouse with gold := s.warehouse.gold + req.count }) :
      InputCase table env s req (.success, t)
  | deposited {item : Item} {t : ClanWarehouseState}
      (hallowed : InputDeposits table env s.warehouse s.member item req)
      (hstore : storeIn item (asU16 req.count) env.nextItemSerial (req.whSlot req.dstPos)
        (s.member.inventory.slot req.srcIdx) s.warehouse = some t.warehouse) :
      InputCase table env s req (.success, t)

theorem handleInput_cases (table : ItemTable) (env : ClanEnv) (s : ClanWarehouseState)
    (req : ClanRequest) : InputCase table env s req (handleInput table env s req) := by
  have herror : ClanResult.error ≠ .success := by decide
  unfold handleInput
  dsimp only
  split_ifs with hstate hrange hcount hgold hpays hpos htrade
  · exact .refused herror
  · exact .refused herror
  · exact .refused herror
  · exact .gold hgold rfl
  · exact .refused herror
  · cases table req.itemId <;> exact .refused herror
  · cases table req.itemId <;> exact .refused herror
  split
  · exact .refused herror
  next item hitem =>
  split
  · exact .refused herror
  next src hsrc =>
  split_ifs with hid
  · exact .refused herror
  split
  · next r hrefused => exact .refused (depositRefused_ne_success hrefused)
  next haccepted =>
  split
  · exact .refused herror
  next warehouse hstore =>
  obtain rfl := Inventory.slot_of_getElem? hsrc
  have hlen := (List.getElem?_eq_some_iff.mp hsrc).1
  have hfree := (storeIn_eq_some.mp hstore).1
  rw [(@reduceInventory_eq_some item (asU16 req.count) _ _ _).mpr ⟨hlen, rfl⟩]
  simp only [Bool.or_eq_true, Bool.not_eq_true', not_or, Bool.not_eq_true, Bool.not_eq_false,
    Option.isNone_eq_false_iff, not_le] at hstate hrange hpos
  exact .deposited ⟨hstate.1.1, ⟨hstate.1.2, hstate.2⟩, hrange, ⟨hcount, hgold⟩, hitem, hpos.1,
    hpos.2, htrade, hlen, not_not.mp hid, haccepted, hfree⟩ hstore

def warehouseLosesDeposit {τ : Type} (table : ItemTable) (s : WarehouseLoading τ) :
    Step τ WarehouseDepositor → Prop
  | .act t ⟨env, member, req⟩ => s.phase t = .ready ∧ ∃ b item, s.entry = some b ∧
      InputDeposits table env b member item req ∧
      landsShort item (asU16 req.count) (b.slot (req.whSlot req.dstPos))
  | i => LazyCache.Overwrites (storageWorth table (fun g : ℕ => (g : ℤ))) s i

theorem warehouseDeposit_lossless {τ : Type} {s : WarehouseLoading τ}
    {i : Step τ WarehouseDepositor} (h : ¬ warehouseLosesDeposit table s i) :
    Lossless (warehouseDeposit table clan) (storageWorth table (fun g : ℕ => (g : ℤ)))
      (warehouseGain table) s i := by
  cases i with
  | look t => trivial
  | read t => trivial
  | run k => trivial
  | insert t =>
    intro v loaded hentry hphase k
    by_contra hless
    exact h ⟨v, loaded, hentry, hphase, k, not_le.mp hless⟩
  | act t a =>
    intro b b' tasks hphase hentry happly k
    obtain ⟨env, member, req⟩ := a
    have hcase := handleInput_cases table env ⟨b, member, []⟩ req
    unfold warehouseDeposit at happly
    dsimp only at happly
    generalize handleInput table env ⟨b, member, []⟩ req = out at hcase happly
    cases hcase with
    | refused hresult =>
      split at happly
      · next heq => exact absurd (congrArg Prod.fst heq) hresult
      · cases happly
    | gold hitem hgold =>
      obtain ⟨rfl, -⟩ := Prod.mk.inj (Option.some.inj happly)
      have hgain : warehouseGain table k ⟨env, member, req⟩ = if k = none then (req.count : ℤ) else 0 :=
        if_pos hitem
      rw [hgold, hgain]
      refine worth_gold ?_ k
      push_cast
      exact le_refl _
    | deposited hallowed hstore =>
      obtain ⟨rfl, -⟩ := Prod.mk.inj (Option.some.inj happly)
      have hgain : warehouseGain table k ⟨env, member, req⟩ = match k with
          | some id => if id = 0 then 0 else (movedUnits table id req.itemId (asU16 req.count) : ℤ)
          | none => 0 := if_neg hallowed.fields.2
      rw [hgain]
      exact worth_storeIn hallowed.whIdx_lt hallowed.table hallowed.holds hstore
        (fun hshort => h ⟨hphase, b, _, hentry, hallowed, hshort⟩) k

/-- What was deposited is in the cache, on top of what the rows held at first; as long as nothing
is in the cache, nothing was deposited. -/
def DepositsPresent {τ G D A : Type} (table : ItemTable) (gold : G → ℤ)
    (gain : Option ℕ → A → ℤ) (base : ClanStorage G) (s : Sys τ (ClanStorage G) D A) : Prop :=
  match s.entry with
  | none => s.acknowledged = []
  | some b => ∀ k, storageWorth table gold k base + LazyCache.gained gain k s.acknowledged ≤
      storageWorth table gold k b

theorem depositsPresent_of_kept {τ G D A : Type} {gold : G → ℤ} {gain : Option ℕ → A → ℤ}
    {load : D → ClanStorage G} {rows : D} {s : Sys τ (ClanStorage G) D A}
    (h : LazyCache.Kept load (storageWorth table gold) gain rows s) :
    DepositsPresent table gold gain (load rows) s := by
  unfold DepositsPresent
  cases hentry : s.entry with
  | none => exact (h.unloaded hentry).2.2.1
  | some b => exact h.loaded b hentry

/-- In a run from an unloaded cache in which no insertion overwrites more with less, and every
deposit lands in full, every deposit that succeeded is in the cache. -/
theorem clan_deposits_present {τ : Type} [DecidableEq τ] (table : ItemTable) (clan : ℕ) :
    (∀ (rows : GuildBankStore) (steps : List (Step τ GuildDepositor)),
      Run.Along (guildLoadStep table clan) (fun s i => ¬ guildLosesDeposit table s i)
        (Sys.start rows) steps →
      DepositsPresent table id (guildGain table) (rows.loadGuildBank clan)
        (Run.run (guildLoadStep table clan) (Sys.start rows) steps)) ∧
    ∀ (rows : ClanWarehouseStore) (steps : List (Step τ WarehouseDepositor)),
      Run.Along (warehouseLoadStep table clan) (fun s i => ¬ warehouseLosesDeposit table s i)
        (Sys.start rows) steps →
      DepositsPresent table (fun g : ℕ => (g : ℤ)) (warehouseGain table)
        (rows.loadClanWarehouse clan)
        (Run.run (warehouseLoadStep table clan) (Sys.start rows) steps) := by
  refine ⟨fun rows steps hok => ?_, fun rows steps hok => ?_⟩
  · have hlossless : Run.Along (guildLoadStep table clan)
        (Lossless (guildDeposit table clan) (storageWorth table id) (guildGain table))
        (Sys.start rows) steps :=
      Run.along_of_invariant (fun _ => True)
        (fun s i _ hi => ⟨trivial, guildDeposit_lossless hi⟩) hok trivial
    exact depositsPresent_of_kept
      (@LazyCache.kept_run τ GuildBank GuildBankStore GuildDepositor (Option ℕ) _
        (fun store => store.loadGuildBank clan) _ _ _ rows steps hlossless)
  · have hlossless : Run.Along (warehouseLoadStep table clan)
        (Lossless (warehouseDeposit table clan) (storageWorth table (fun g : ℕ => (g : ℤ)))
          (warehouseGain table)) (Sys.start rows) steps :=
      Run.along_of_invariant (fun _ => True)
        (fun s i _ hi => ⟨trivial, warehouseDeposit_lossless hi⟩) hok trivial
    exact depositsPresent_of_kept
      (@LazyCache.kept_run τ ClanWarehouse ClanWarehouseStore WarehouseDepositor (Option ℕ) _
        (fun store => store.loadClanWarehouse clan) _ _ _ rows steps hlossless)

def threePotions : GuildDepositor := ⟨quietClan, potionBank.member, .item (bankPotions 0 0 3)⟩

/-- One session loads the empty bank and deposits. -/
def loadAndDeposit : List (Step Bool GuildDepositor) :=
  [.look true, .read true, .insert true, .act true threePotions]

/-- Both find no entry and read the rows; the second inserts them after the first has deposited. -/
def lateInsertion : List (Step Bool GuildDepositor) :=
  [.look true, .look false, .read true, .read false, .insert true, .act true threePotions,
    .insert false]

theorem deposit_present_alone :
    DepositsPresent potionTable id (guildGain potionTable) (noBankRows.loadGuildBank 1)
      (Run.run (guildLoadStep potionTable 1) (Sys.start noBankRows) loadAndDeposit) := by
  refine (clan_deposits_present potionTable 1).1 noBankRows loadAndDeposit
    ⟨fun h => h, fun h => h, ?_, ?_, trivial⟩
  · rintro ⟨v, loaded, hentry, -⟩
    cases hentry
  · rintro ⟨-, b, item, hentry, hitem, -, hshort⟩
    obtain rfl := Option.some.inj hentry
    obtain rfl := Option.some.inj
      ((show potionTable 389010000 = some { countable := some 1 } from rfl).symm.trans hitem)
    revert hshort
    decide +kernel

/-- The three potions were acknowledged, and are gone. -/
theorem late_insertion_loses_deposit :
    ¬ DepositsPresent potionTable id (guildGain potionTable) (noBankRows.loadGuildBank 1)
      (Run.run (guildLoadStep potionTable 1) (Sys.start noBankRows) lateInsertion) := by
  intro h
  have hgained : LazyCache.gained (guildGain potionTable) (some 389010000)
      (Run.run (guildLoadStep potionTable 1) (Sys.start noBankRows) lateInsertion).acknowledged =
        3 := by decide +kernel
  have hentry : (Run.run (guildLoadStep potionTable 1) (Sys.start noBankRows)
      lateInsertion).entry = some (noBankRows.loadGuildBank 1) := by decide +kernel
  have hbase : storageWorth potionTable id (some 389010000) (noBankRows.loadGuildBank 1) = 0 := by
    decide +kernel
  rw [DepositsPresent, hentry] at h
  have hpresent := h (some 389010000)
  rw [hgained, hbase] at hpresent
  exact absurd hpresent (by decide)

end KoServer
