import KoServer.Lib.WriteBehind
import KoServer.Proofs.GuildBank

/-! The rows of the guild bank. A slot is saved under its tab and its flat index, and the load
adds the tab to the index once more; and the tasks that save overtake one another. -/

namespace KoServer

open Run (run)

def savedRow (s : UserItemSlot) : Option BankRow :=
  if s.itemId = 0 then none
  else some ⟨s.itemId, s.count, s.durability, s.flag, s.expireTime⟩

/-- The two slots agree in the fields that a row keeps. -/
structure SameRow (s t : UserItemSlot) : Prop where
  itemId : s.itemId = t.itemId
  count : s.count = t.count
  durability : s.durability = t.durability
  flag : s.flag = t.flag
  expireTime : s.expireTime = t.expireTime

instance (s t : UserItemSlot) : Decidable (SameRow s t) :=
  decidable_of_iff (s.itemId = t.itemId ∧ s.count = t.count ∧ s.durability = t.durability ∧
      s.flag = t.flag ∧ s.expireTime = t.expireTime)
    ⟨fun ⟨h₁, h₂, h₃, h₄, h₅⟩ => ⟨h₁, h₂, h₃, h₄, h₅⟩, fun ⟨h₁, h₂, h₃, h₄, h₅⟩ => ⟨h₁, h₂, h₃, h₄, h₅⟩⟩

theorem SameRow.symm {s t : UserItemSlot} (h : SameRow s t) : SameRow t s :=
  ⟨h.itemId.symm, h.count.symm, h.durability.symm, h.flag.symm, h.expireTime.symm⟩

theorem execute_slot (clan : ℕ) (store : GuildBankStore) (i : ℕ) (s : UserItemSlot) :
    store.execute clan (.slot i s) =
      { store with items := Function.update store.items (clan, i / ITEMS_PER_PAGE, i) (savedRow s) } := by
  simp only [GuildBankStore.execute, savedRow]
  split_ifs <;> rfl

/-- A bank in which nobody has put anything. -/
def emptyGuildBank : GuildBank where
  items := List.replicate WAREHOUSE_MAX {}
  items_length := List.length_replicate
  gold := 0

def changeSlot (clan : ℕ) (p : GuildBank × GuildBankStore) (w : ℕ × UserItemSlot) :
    GuildBank × GuildBankStore :=
  (p.1.setItem w.1 w.2, p.2.execute clan (.slot w.1 w.2))

/-- The clan's rows are those of the slots of the bank, under the keys of the save. -/
structure Mirrored (clan : ℕ) (b : GuildBank) (store : GuildBankStore) : Prop where
  own : ∀ i < WAREHOUSE_MAX, store.items (clan, i / ITEMS_PER_PAGE, i) = savedRow (b.slot i)
  others : ∀ tab i, tab ≠ i / ITEMS_PER_PAGE → store.items (clan, tab, i) = none

section RoundTrip

variable {clan : ℕ} {b : GuildBank} {store : GuildBankStore}

theorem mirrored_start (h : ∀ tab i, store.items (clan, tab, i) = none) :
    Mirrored clan emptyGuildBank store := by
  refine ⟨fun i hi => ?_, fun tab i _ => h tab i⟩
  have hempty : emptyGuildBank.slot i = {} := by
    rw [ClanStorage.slot, Inventory.slot, emptyGuildBank, List.getD_replicate _ hi]
  rw [h, hempty]
  rfl

theorem mirrored_change (h : Mirrored clan b store) (w : ℕ × UserItemSlot) :
    Mirrored clan (changeSlot clan (b, store) w).1 (changeSlot clan (b, store) w).2 := by
  obtain ⟨i, s⟩ := w
  simp only [changeSlot, execute_slot]
  refine ⟨fun j hj => ?_, fun tab j hne => ?_⟩
  · dsimp only
    rcases eq_or_ne i j with rfl | hij
    · rw [Function.update_self, ClanStorage.slot_setItem_self hj]
    · have hkey : (clan, j / ITEMS_PER_PAGE, j) ≠ (clan, i / ITEMS_PER_PAGE, i) := fun h => by
        simp only [Prod.mk.injEq] at h
        exact hij h.2.2.symm
      rw [Function.update_of_ne hkey, ClanStorage.slot_setItem_ne hij, h.own j hj]
  · have hkey : (clan, tab, j) ≠ (clan, i / ITEMS_PER_PAGE, i) := fun h => by
      simp only [Prod.mk.injEq] at h
      obtain ⟨-, htab, rfl⟩ := h
      exact hne htab
    exact (Function.update_of_ne hkey _ _).trans (h.others tab j hne)

theorem mirrored_run (h : ∀ tab i, store.items (clan, tab, i) = none)
    (changes : List (ℕ × UserItemSlot)) :
    Mirrored clan (run (changeSlot clan) (emptyGuildBank, store) changes).1
      (run (changeSlot clan) (emptyGuildBank, store) changes).2 :=
  Run.invariant (fun p : GuildBank × GuildBankStore => Mirrored clan p.1 p.2)
    (fun _ w hp _ => mirrored_change hp w) (Run.along_true _ _) (mirrored_start h)

theorem loadGuildBank_slot {j : ℕ} (hj : j < WAREHOUSE_MAX) :
    (store.loadGuildBank clan).slot j = store.loadItem clan j := by
  have hlen : j < ((List.range WAREHOUSE_MAX).map (store.loadItem clan)).length := by simpa using hj
  rw [ClanStorage.slot, Inventory.slot, GuildBankStore.loadGuildBank, List.getD_eq_getElem _ _ hlen]
  simp

/-- On the first tab the load looks where the save wrote. -/
theorem loadItem_first (h : Mirrored clan b store) {j : ℕ} (hj : j < ITEMS_PER_PAGE) :
    ((b.slot j).itemId = 0 → store.loadItem clan j = {}) ∧
      ((b.slot j).itemId ≠ 0 → SameRow (store.loadItem clan j) (b.slot j)) := by
  have hpages : ITEMS_PER_PAGE = 24 := rfl
  have hmax : WAREHOUSE_MAX = 192 := rfl
  have htab : j / ITEMS_PER_PAGE = 0 := Nat.div_eq_of_lt hj
  have hrow := h.own j (by omega)
  rw [htab] at hrow
  have hone : (List.range (0 + 1)).reverse = [0] := rfl
  unfold GuildBankStore.loadItem
  rw [htab, hone]
  simp only [List.findSome?_cons, List.findSome?_nil, Nat.zero_mul, Nat.sub_zero, hrow, savedRow]
  constructor
  · intro hid
    rw [if_pos hid]
  · intro hid
    rw [if_neg hid]
    exact ⟨rfl, rfl, rfl, rfl, rfl⟩

/-- Beyond the first tab a slot is read from rows of slots before it, and none of the first tab. -/
theorem loadItem_beyond (h : Mirrored clan b store) {j : ℕ} (hj : ITEMS_PER_PAGE ≤ j)
    (hmax : j < WAREHOUSE_MAX)
    (hvacant : ∀ i, ITEMS_PER_PAGE ≤ i → i < j → (b.slot i).itemId = 0) :
    store.loadItem clan j = {} := by
  have hpages : ITEMS_PER_PAGE = 24 := rfl
  have hnone : ((List.range (j / ITEMS_PER_PAGE + 1)).reverse.findSome? fun tab =>
      store.items (clan, tab, j - tab * ITEMS_PER_PAGE)) = none := by
    rw [List.findSome?_eq_none_iff]
    intro tab htab
    rw [List.mem_reverse, List.mem_range] at htab
    by_cases hown : tab = (j - tab * ITEMS_PER_PAGE) / ITEMS_PER_PAGE
    · have hfrom : ITEMS_PER_PAGE ≤ j - tab * ITEMS_PER_PAGE := by
        rw [hpages] at hown hj ⊢
        omega
      have hbelow : j - tab * ITEMS_PER_PAGE < j := by
        rw [hpages] at hown hj ⊢
        omega
      have hbefore := hvacant _ hfrom hbelow
      have hrow := h.own (j - tab * ITEMS_PER_PAGE) (by omega)
      rw [← hown] at hrow
      rw [hrow, savedRow, if_pos hbefore]
    · exact h.others _ _ hown
  unfold GuildBankStore.loadItem
  rw [hnone]

/-- Saved and loaded again, the bank is the same exactly when nothing is beyond its first tab and
vacant slots have nothing left in them. -/
theorem guild_bank_round_trip_iff (h : ∀ tab i, store.items (clan, tab, i) = none)
    (changes : List (ℕ × UserItemSlot)) :
    (∀ i < WAREHOUSE_MAX,
      SameRow (((run (changeSlot clan) (emptyGuildBank, store) changes).2.loadGuildBank clan).slot i)
        ((run (changeSlot clan) (emptyGuildBank, store) changes).1.slot i)) ↔
      (∀ i < WAREHOUSE_MAX, ITEMS_PER_PAGE ≤ i →
        ((run (changeSlot clan) (emptyGuildBank, store) changes).1.slot i).itemId = 0) ∧
      ∀ i < WAREHOUSE_MAX,
        ((run (changeSlot clan) (emptyGuildBank, store) changes).1.slot i).itemId = 0 →
          SameRow ((run (changeSlot clan) (emptyGuildBank, store) changes).1.slot i) {} := by
  have hrows := mirrored_run h changes
  set p := run (changeSlot clan) (emptyGuildBank, store) changes
  constructor
  · intro hsame
    have hvacant (i : ℕ) : i < WAREHOUSE_MAX → ITEMS_PER_PAGE ≤ i → (p.1.slot i).itemId = 0 := by
      -- the first occupied slot beyond the tab is read from vacant ones
      induction i using Nat.strong_induction_on with
      | _ i ih =>
        intro hi hbeyond
        have hload := loadItem_beyond hrows hbeyond hi fun k hk hki => ih k hki (by omega) hk
        have hback := (hsame i hi).itemId
        rw [loadGuildBank_slot hi, hload] at hback
        exact hback.symm
    refine ⟨hvacant, fun i hi hid => ?_⟩
    have hback := hsame i hi
    rw [loadGuildBank_slot hi] at hback
    rcases Nat.lt_or_ge i ITEMS_PER_PAGE with hfirst | hbeyond
    · rw [(loadItem_first hrows hfirst).1 hid] at hback
      exact hback.symm
    · rw [loadItem_beyond hrows hbeyond hi fun k hk hki => hvacant k (by omega) hk] at hback
      exact hback.symm
  · rintro ⟨hvacant, hblank⟩ i hi
    rw [loadGuildBank_slot hi]
    rcases Nat.lt_or_ge i ITEMS_PER_PAGE with hfirst | hbeyond
    · by_cases hid : (p.1.slot i).itemId = 0
      · rw [(loadItem_first hrows hfirst).1 hid]
        exact (hblank i hi hid).symm
      · exact (loadItem_first hrows hfirst).2 hid
    · rw [loadItem_beyond hrows hbeyond hi fun k hk hki => hvacant k (by omega) hk]
      exact (hblank i hi (hvacant i hi hbeyond)).symm

end RoundTrip

def noBankRows : GuildBankStore := ⟨fun _ => none, fun _ => 0⟩

def tenPotions : UserItemSlot := { itemId := 389010000, durability := 1, count := 10 }

/-- The last slot of the first tab comes back. -/
theorem round_trip_first_tab :
    SameRow (((run (changeSlot 1) (emptyGuildBank, noBankRows)
        [(0, tenPotions), (23, tenPotions)]).2.loadGuildBank 1).slot 23)
      ((run (changeSlot 1) (emptyGuildBank, noBankRows) [(0, tenPotions), (23, tenPotions)]).1.slot 23) :=
  (@guild_bank_round_trip_iff 1 noBankRows (fun _ _ => rfl) [(0, tenPotions), (23, tenPotions)]).mpr
    ⟨by decide +kernel, by decide +kernel⟩ 23 (by decide)

/-- The first slot of the second tab comes back as the first slot of the third. -/
theorem round_trip_second_tab :
    (¬ ∀ i < WAREHOUSE_MAX,
      SameRow (((run (changeSlot 1) (emptyGuildBank, noBankRows)
          [(24, tenPotions)]).2.loadGuildBank 1).slot i)
        ((run (changeSlot 1) (emptyGuildBank, noBankRows) [(24, tenPotions)]).1.slot i)) ∧
    SameRow (((run (changeSlot 1) (emptyGuildBank, noBankRows)
      [(24, tenPotions)]).2.loadGuildBank 1).slot 48) tenPotions := by
  refine ⟨fun h => ?_, by decide +kernel⟩
  exact absurd (h 24 (by decide)) (by decide +kernel)

inductive BankKey
  | slot (i : ℕ)
  | gold
  deriving DecidableEq

def BankKey.Value : BankKey → Type
  | .slot _ => Option BankRow
  | .gold => ℤ

def bankMemory (beyond : ℕ → Option BankRow) (b : GuildBank) : ∀ k : BankKey, k.Value
  | .slot i => if i < WAREHOUSE_MAX then savedRow (b.slot i) else beyond i
  | .gold => b.gold

def bankRows (clan : ℕ) (store : GuildBankStore) : ∀ k : BankKey, k.Value
  | .slot i => store.items (clan, i / ITEMS_PER_PAGE, i)
  | .gold => store.gold clan

def BankWrite.captured : BankWrite → Σ k : BankKey, k.Value
  | .slot i s => ⟨.slot i, savedRow s⟩
  | .gold g => ⟨.gold, g⟩

def Persisted (clan : ℕ) (b : GuildBank) (store : GuildBankStore) : Prop :=
  (∀ i < WAREHOUSE_MAX, store.items (clan, i / ITEMS_PER_PAGE, i) = savedRow (b.slot i)) ∧
    store.gold clan = b.gold

instance (clan : ℕ) (b : GuildBank) (store : GuildBankStore) : Decidable (Persisted clan b store) := by
  unfold Persisted
  infer_instance

section Tasks

variable {clan : ℕ} {b b' : GuildBank} {store : GuildBankStore} {beyond : ℕ → Option BankRow}

theorem bankRows_execute (w : BankWrite) :
    bankRows clan (store.execute clan w) = WriteBehind.exec (bankRows clan store) w.captured := by
  funext k
  cases w with
  | slot i s =>
    rw [execute_slot]
    rcases eq_or_ne (BankKey.slot i) k with rfl | hne
    · exact (Function.update_self _ _ _).trans (WriteBehind.exec_self (BankWrite.slot i s).captured).symm
    · refine Eq.trans ?_ (WriteBehind.exec_of_ne hne).symm
      cases k with
      | slot j =>
        have hkey : (clan, j / ITEMS_PER_PAGE, j) ≠ (clan, i / ITEMS_PER_PAGE, i) := fun h => by
          simp only [Prod.mk.injEq] at h
          exact hne (congrArg _ h.2.2.symm)
        exact Function.update_of_ne hkey _ _
      | gold => rfl
  | gold g =>
    cases k with
    | slot j =>
      refine Eq.trans ?_ (WriteBehind.exec_of_ne (by simp [BankWrite.captured])).symm
      rfl
    | gold =>
      refine Eq.trans ?_ (WriteBehind.exec_self (BankWrite.gold g).captured).symm
      exact Function.update_self _ _ _

theorem bankRows_executeAll (tasks : List BankWrite) :
    bankRows clan (tasks.foldl (GuildBankStore.execute clan) store) =
      WriteBehind.execAll (bankRows clan store) (tasks.map BankWrite.captured) := by
  induction tasks generalizing store with
  | nil => rfl
  | cons w tasks ih =>
    rw [List.foldl_cons, ih, bankRows_execute]
    rfl

theorem bankMemory_slot {i : ℕ} (h : i < WAREHOUSE_MAX) :
    bankMemory beyond b (.slot i) = savedRow (b.slot i) := if_pos h

theorem bankMemory_beyond {i : ℕ} (h : WAREHOUSE_MAX ≤ i) :
    bankMemory beyond b (.slot i) = beyond i := if_neg (not_lt.mpr h)

def rowsBeyond (clan : ℕ) (store : GuildBankStore) (i : ℕ) : Option BankRow :=
  store.items (clan, i / ITEMS_PER_PAGE, i)

theorem persisted_of_eq (h : bankRows clan store = bankMemory beyond b) : Persisted clan b store :=
  ⟨fun i hi => (congrFun h (.slot i)).trans (bankMemory_slot hi), congrFun h .gold⟩

theorem eq_of_persisted (h : Persisted clan b store)
    (hbeyond : ∀ i, WAREHOUSE_MAX ≤ i → rowsBeyond clan store i = beyond i) :
    bankRows clan store = bankMemory beyond b := by
  funext k
  cases k with
  | slot i =>
    rcases Nat.lt_or_ge i WAREHOUSE_MAX with hi | hi
    · exact (h.1 i hi).trans (bankMemory_slot hi).symm
    · exact (hbeyond i hi).trans (bankMemory_beyond hi).symm
  | gold => exact h.2

def InBank (tasks : List BankWrite) : Prop := ∀ i s, .slot i s ∈ tasks → i < WAREHOUSE_MAX

theorem persisted_executeAll_iff {tasks : List BankWrite} (htasks : InBank tasks) :
    Persisted clan b (tasks.foldl (GuildBankStore.execute clan) store) ↔
      WriteBehind.execAll (bankRows clan store) (tasks.map BankWrite.captured) =
        bankMemory (rowsBeyond clan store) b := by
  rw [← bankRows_executeAll]
  refine ⟨fun h => eq_of_persisted h fun i hi => ?_, persisted_of_eq⟩
  have hrow := congrFun (@bankRows_executeAll clan store tasks) (.slot i)
  rw [WriteBehind.execAll_of_ne] at hrow
  · exact hrow
  · intro w hw heq
    obtain ⟨v, hv, rfl⟩ := List.mem_map.mp hw
    cases v with
    | slot j t =>
      obtain rfl := BankKey.slot.inj heq
      exact absurd (htasks j t hv) (not_lt.mpr hi)
    | gold g => cases heq

/-- The task would write something else than what the bank holds. -/
def stale (b : GuildBank) : BankWrite → Prop
  | .slot i s => savedRow s ≠ savedRow (b.slot i)
  | .gold g => g ≠ b.gold

instance (b : GuildBank) : DecidablePred (stale b)
  | .slot i s => inferInstanceAs (Decidable (savedRow s ≠ savedRow (b.slot i)))
  | .gold g => inferInstanceAs (Decidable (g ≠ b.gold))

theorem current_iff (beyond : ℕ → Option BankRow) {tasks : List BankWrite} (htasks : InBank tasks) :
    WriteBehind.Current (bankMemory beyond b) (tasks.map BankWrite.captured) ↔
      ∀ w ∈ tasks, ¬ stale b w := by
  unfold WriteBehind.Current
  rw [List.forall_mem_map]
  refine forall₂_congr fun w hw => ?_
  cases w with
  | slot i s =>
    have hi := htasks i s hw
    show savedRow s = bankMemory beyond b (.slot i) ↔ _
    rw [bankMemory_slot hi]
    exact not_not.symm
  | gold g => exact not_not.symm

/-- The request spawns tasks for what it changes. -/
structure Spawns (s s' : BankState) (spawned : List BankWrite) : Prop where
  pending : s'.pending = s.pending ++ spawned
  inBank : InBank spawned
  fresh : ∀ w ∈ spawned, ¬ stale s'.bank w
  saved : ∀ (beyond : ℕ → Option BankRow) (k : BankKey),
    (∀ w ∈ spawned.map BankWrite.captured, w.1 ≠ k) →
      bankMemory beyond s'.bank k = bankMemory beyond s.bank k

variable {s : BankState}

theorem spawns_nothing (s : BankState) : Spawns s s [] :=
  ⟨(List.append_nil _).symm, fun _ _ h => absurd h List.not_mem_nil,
    fun _ h => absurd h List.not_mem_nil, fun _ _ _ => rfl⟩

theorem bankMemory_setItem {i : ℕ} {a : UserItemSlot} {k : BankKey} (h : BankKey.slot i ≠ k) :
    bankMemory beyond (b.setItem i a) k = bankMemory beyond b k := by
  cases k with
  | slot j =>
    have hij : i ≠ j := fun hij => h (congrArg _ hij)
    simp only [bankMemory, ClanStorage.slot_setItem_ne hij]
  | gold => rfl

theorem spawns_slot {i : ℕ} (hi : i < WAREHOUSE_MAX) (a : UserItemSlot) (member : ClanMember) :
    Spawns s (BankState.saveSlot { s with bank := s.bank.setItem i a, member := member } i)
      [.slot i ((s.bank.setItem i a).slot i)] := by
  refine ⟨rfl, fun j t h => ?_, fun w hw => ?_, fun beyond k hk => ?_⟩
  · obtain ⟨rfl, -⟩ := BankWrite.slot.inj (List.mem_singleton.mp h)
    exact hi
  · obtain rfl := List.mem_singleton.mp hw
    exact fun h => h rfl
  · exact bankMemory_setItem (hk _ List.mem_cons_self)

theorem spawns_move {i j : ℕ} (hi : i < WAREHOUSE_MAX) (hj : j < WAREHOUSE_MAX)
    (a a' : UserItemSlot) :
    Spawns s
      ((BankState.saveSlot { s with bank := (s.bank.setItem j a).setItem i a' } i).saveSlot j)
      [.slot i (((s.bank.setItem j a).setItem i a').slot i),
        .slot j (((s.bank.setItem j a).setItem i a').slot j)] := by
  refine ⟨List.append_assoc _ _ _, fun k t h => ?_, fun w hw => ?_, fun beyond k hk => ?_⟩
  · rcases List.mem_pair.mp h with h | h <;> obtain ⟨rfl, -⟩ := BankWrite.slot.inj h
    · exact hi
    · exact hj
  · rcases List.mem_pair.mp hw with rfl | rfl
    · exact fun h => h rfl
    · exact fun h => h rfl
  · have hki : BankKey.slot i ≠ k := hk _ List.mem_cons_self
    have hkj : BankKey.slot j ≠ k := hk _ (List.mem_cons_of_mem _ List.mem_cons_self)
    exact (bankMemory_setItem hki).trans (bankMemory_setItem hkj)

theorem spawns_gold (bankGold : ℤ) (member : ClanMember) :
    Spawns s (BankState.saveGold { s with
      bank := { s.bank with gold := bankGold }, member := member }) [.gold bankGold] := by
  refine ⟨rfl, fun j t h => ?_, fun w hw => ?_, fun beyond k hk => ?_⟩
  · cases List.mem_singleton.mp h
  · obtain rfl := List.mem_singleton.mp hw
    exact fun h => h rfl
  · cases k with
    | slot j => rfl
    | gold => exact absurd rfl (hk _ List.mem_cons_self)

theorem handleItemData_spawns (table : ItemTable) (env : ClanEnv) (s : BankState)
    (r : GuildRequest) : ∃ spawned, Spawns s (handleItemData table env s r).2 spawned := by
  have hcase := handleItemData_cases table env s r
  generalize handleItemData table env s r = out at hcase ⊢
  cases hcase with
  | refused _ => exact ⟨_, spawns_nothing s⟩
  | goldMoved _ => exact ⟨_, spawns_gold _ _⟩
  | deposited _ hallowed => exact ⟨_, spawns_slot hallowed.whIdx_lt _ _⟩
  | withdrawn hallowed =>
    obtain ⟨-, -, hwh, -⟩ := withdrawChecked_ok hallowed.checked
    exact ⟨_, spawns_slot hwh _ _⟩
  | moved hsrc hdst _ => exact ⟨_, spawns_move hsrc hdst _ _⟩

/-- A request changes a slot, or the gold, while a task waits to write what it was before. -/
def overtakes (table : ItemTable) (s : PersistState) : PersistStep → Prop
  | .request env member r => ∃ w ∈ s.state.pending,
      stale (handleItemData table env { s.state with member := member } r).2.bank w
  | .execute _ => False

/-- Nothing is missing but what waiting tasks will write. -/
structure Following (clan : ℕ) (beyond : ℕ → Option BankRow) (s : PersistState) : Prop where
  clean : WriteBehind.Clean (bankMemory beyond s.state.bank) (bankRows clan s.store)
    (s.state.pending.map BankWrite.captured)
  inBank : InBank s.state.pending
  beyond : ∀ i, WAREHOUSE_MAX ≤ i → rowsBeyond clan s.store i = beyond i

variable {table : ItemTable} {p : PersistState}

theorem following_start (h : Persisted clan p.state.bank p.store) (hnone : p.state.pending = []) :
    Following clan (rowsBeyond clan p.store) p := by
  refine ⟨?_, ?_, fun _ _ => rfl⟩
  · rw [hnone, eq_of_persisted h fun _ _ => rfl]
    exact fun _ _ => rfl
  · rw [hnone]
    exact fun _ _ h => absurd h List.not_mem_nil

theorem following_request (h : Following clan beyond p) (env : ClanEnv) (member : ClanMember)
    (r : GuildRequest) : Following clan beyond (persistStep table clan p (.request env member r)) := by
  obtain ⟨spawned, hspawns⟩ := handleItemData_spawns table env { p.state with member := member } r
  refine ⟨?_, ?_, h.beyond⟩
  · simp only [persistStep, hspawns.pending, List.map_append]
    exact h.clean.spawn (hspawns.saved beyond)
  · simp only [persistStep, hspawns.pending]
    intro i a ha
    rcases List.mem_append.mp ha with ha | ha
    · exact h.inBank i a ha
    · exact hspawns.inBank i a ha

/-- In every order of the waiting tasks the rows end as the bank exactly when none is stale. -/
theorem following_settles_iff (h : Following clan beyond p) :
    (∀ tasks : List BankWrite, tasks.Perm p.state.pending →
      Persisted clan p.state.bank (tasks.foldl (GuildBankStore.execute clan) p.store)) ↔
      ∀ w ∈ p.state.pending, ¬ stale p.state.bank w := by
  have hmemory : bankMemory (rowsBeyond clan p.store) p.state.bank =
      bankMemory beyond p.state.bank := by
    funext k
    cases k with
    | slot i =>
      rcases Nat.lt_or_ge i WAREHOUSE_MAX with hi | hi
      · rw [bankMemory_slot hi, bankMemory_slot hi]
      · rw [bankMemory_beyond hi, bankMemory_beyond hi, h.beyond i hi]
    | gold => rfl
  rw [← current_iff beyond h.inBank, ← WriteBehind.settles_iff _ h.clean, ← hmemory]
  refine forall₂_congr fun tasks hp => persisted_executeAll_iff fun i a ha => ?_
  exact h.inBank i a (hp.mem_iff.mp ha)

theorem rowsBeyond_execute {w : BankWrite} (hw : InBank [w]) {i : ℕ} (hi : WAREHOUSE_MAX ≤ i) :
    rowsBeyond clan (store.execute clan w) i = rowsBeyond clan store i := by
  have hrow := congrFun (@bankRows_execute clan store w) (.slot i)
  rw [WriteBehind.exec_of_ne] at hrow
  · exact hrow
  · cases w with
    | slot j s =>
      intro heq
      obtain rfl := BankKey.slot.inj heq
      exact absurd (hw j s (List.mem_singleton_self _)) (not_lt.mpr hi)
    | gold g => exact fun heq => by cases heq

theorem eraseIdx_perm {α : Type*} {l : List α} {k : ℕ} {a : α} (h : l[k]? = some a) :
    (a :: l.eraseIdx k).Perm l := by
  obtain ⟨hk, rfl⟩ := List.getElem?_eq_some_iff.mp h
  exact List.getElem_cons_eraseIdx_perm hk

theorem following_step (h : Following clan beyond p) (hfresh : ∀ w ∈ p.state.pending, ¬ stale p.state.bank w)
    {i : PersistStep} (hi : ¬ overtakes table p i) :
    Following clan beyond (persistStep table clan p i) ∧
      ∀ w ∈ (persistStep table clan p i).state.pending,
        ¬ stale (persistStep table clan p i).state.bank w := by
  cases i with
  | request env member r =>
    refine ⟨following_request h env member r, fun w hw => ?_⟩
    obtain ⟨spawned, hspawns⟩ := handleItemData_spawns table env { p.state with member := member } r
    simp only [persistStep, hspawns.pending] at hw
    rcases List.mem_append.mp hw with hw | hw
    · exact fun hstale => hi ⟨w, hw, hstale⟩
    · exact hspawns.fresh w hw
  | execute k =>
    rw [persistStep]
    split
    · exact ⟨h, hfresh⟩
    next w hw =>
    have hmem := List.mem_of_getElem? hw
    have hrest {v : BankWrite} (hv : v ∈ p.state.pending.eraseIdx k) : v ∈ p.state.pending :=
      List.mem_of_mem_eraseIdx hv
    have hcurrent := (current_iff beyond h.inBank).mpr hfresh
    refine ⟨⟨?_, fun i a ha => h.inBank i a (hrest ha), fun i hi => ?_⟩, fun v hv => hfresh v (hrest hv)⟩
    · rw [bankRows_execute]
      refine h.clean.exec (hcurrent _ (List.mem_map_of_mem hmem)) fun v hv => ?_
      obtain ⟨u, hu, rfl⟩ := List.mem_map.mp hv
      rcases List.mem_cons.mp ((eraseIdx_perm hw).mem_iff.mpr hu) with rfl | hu
      · exact Or.inl rfl
      · exact Or.inr (List.mem_map_of_mem hu)
    · rw [rowsBeyond_execute _ hi]
      · exact h.beyond i hi
      · intro j s hs
        obtain rfl := List.mem_singleton.mp hs
        exact h.inBank j s hmem

theorem following_run (hstart : Persisted clan p.state.bank p.store) (hnone : p.state.pending = [])
    {steps : List PersistStep}
    (hok : Run.Along (persistStep table clan) (fun p i => ¬ overtakes table p i) p steps) :
    Following clan (rowsBeyond clan p.store) (run (persistStep table clan) p steps) ∧
      ∀ w ∈ (run (persistStep table clan) p steps).state.pending,
        ¬ stale (run (persistStep table clan) p steps).state.bank w := by
  refine Run.invariant (fun q : PersistState => Following clan (rowsBeyond clan p.store) q ∧
      ∀ w ∈ q.state.pending, ¬ stale q.state.bank w)
    (fun q i hq hi => following_step hq.1 hq.2 hi) hok ⟨following_start hstart hnone, ?_⟩
  rw [hnone]
  exact fun w hw => absurd hw List.not_mem_nil

/-- The requests of a run in which no task has come to run yet. -/
def requestsOnly (requests : List (ClanEnv × ClanMember × GuildRequest)) : List PersistStep :=
  requests.map fun r => .request r.1 r.2.1 r.2.2

theorem following_requests (hstart : Persisted clan p.state.bank p.store)
    (hnone : p.state.pending = []) (requests : List (ClanEnv × ClanMember × GuildRequest)) :
    Following clan (rowsBeyond clan p.store)
      (run (persistStep table clan) p (requestsOnly requests)) := by
  have hstep : ∀ (q : PersistState), Following clan (rowsBeyond clan p.store) q →
      Following clan (rowsBeyond clan p.store)
        (run (persistStep table clan) q (requestsOnly requests)) := by
    induction requests with
    | nil => exact fun q hq => hq
    | cons r requests ih => exact fun q hq => ih _ (following_request hq _ _ _)
  exact hstep p (following_start hstart hnone)

end Tasks

/-- After any requests, the rows end as the bank in every order of the tasks exactly when every
task captured what its slot, or the gold, still holds in the end; and in a run that has no request
overtake a task, with tasks running in between, they do from every state reached. -/
theorem guild_rows_converge_iff (table : ItemTable) (clan : ℕ) {p : PersistState}
    (hstart : Persisted clan p.state.bank p.store) (hnone : p.state.pending = []) :
    (∀ requests : List (ClanEnv × ClanMember × GuildRequest),
      (∀ tasks : List BankWrite,
        tasks.Perm (run (persistStep table clan) p (requestsOnly requests)).state.pending →
        Persisted clan (run (persistStep table clan) p (requestsOnly requests)).state.bank
          (tasks.foldl (GuildBankStore.execute clan)
            (run (persistStep table clan) p (requestsOnly requests)).store)) ↔
        ∀ w ∈ (run (persistStep table clan) p (requestsOnly requests)).state.pending,
          ¬ stale (run (persistStep table clan) p (requestsOnly requests)).state.bank w) ∧
    ∀ steps : List PersistStep,
      Run.Along (persistStep table clan) (fun p i => ¬ overtakes table p i) p steps →
      ∀ tasks : List BankWrite,
        tasks.Perm (run (persistStep table clan) p steps).state.pending →
        Persisted clan (run (persistStep table clan) p steps).state.bank
          (tasks.foldl (GuildBankStore.execute clan)
            (run (persistStep table clan) p steps).store) := by
  refine ⟨fun requests => following_settles_iff (following_requests hstart hnone requests),
    fun steps hok => ?_⟩
  obtain ⟨hfollowing, hfresh⟩ := following_run hstart hnone hok
  exact (following_settles_iff hfollowing).mpr hfresh

def freshBank : PersistState where
  state := { bank := emptyGuildBank, member := potionBank.member, pending := [] }
  store := noBankRows

theorem freshBank_persisted : Persisted 1 freshBank.state.bank freshBank.store := by decide +kernel

/-- Two members deposit potions in the slots `i` and `j` of the first tab. -/
def twoDeposits (i j : ℕ) : List (ClanEnv × ClanMember × GuildRequest) :=
  [(quietClan, potionBank.member, .deposit (bankPotions 0 i 3)),
    (quietClan, potionBank.member, .deposit (bankPotions 0 j 4))]

theorem two_slots_converge :
    Persisted 1 (run (persistStep potionTable 1) freshBank (requestsOnly (twoDeposits 0 1))).state.bank
      ((run (persistStep potionTable 1) freshBank
        (requestsOnly (twoDeposits 0 1))).state.pending.reverse.foldl (GuildBankStore.execute 1)
        (run (persistStep potionTable 1) freshBank (requestsOnly (twoDeposits 0 1))).store) :=
  ((guild_rows_converge_iff potionTable 1 freshBank_persisted rfl).1 (twoDeposits 0 1)).mpr
    (by decide +kernel) _ (List.reverse_perm _)

/-- Seven potions are in the slot, and the row of the first three is written last. -/
theorem same_slot_diverges :
    ∃ tasks : List BankWrite, tasks.Perm (run (persistStep potionTable 1) freshBank
        (requestsOnly (twoDeposits 0 0))).state.pending ∧
      ¬ Persisted 1 (run (persistStep potionTable 1) freshBank
          (requestsOnly (twoDeposits 0 0))).state.bank
        (tasks.foldl (GuildBankStore.execute 1)
          (run (persistStep potionTable 1) freshBank (requestsOnly (twoDeposits 0 0))).store) := by
  refine ⟨_, List.reverse_perm _, fun h => ?_⟩
  exact absurd (h.1 0 (by decide)) (by decide +kernel)

end KoServer
