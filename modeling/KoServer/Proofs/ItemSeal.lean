import Mathlib.Logic.Function.Basic
import KoServer.Lib.Run
import KoServer.Proofs.BagItems
import KoServer.Proofs.Packet
import KoServer.Spec.ItemSeal

/-! What the four seal requests do to the flags of the bag, over any run of them. A run is
watched: with each slot goes the flag its item had when it was last locked. -/

namespace KoServer

structure Watched where
  state : SealState
  lockedWith : ℕ → Option ℕ

namespace Watched

variable (env : SealEnv)

def start (s : SealState) : Watched := ⟨s, fun _ => none⟩

def step (w : Watched) (req : SealRequest) : Watched :=
  let (reply, state) := itemSealProcess env w.state req
  { state := state
    lockedWith :=
      if req.sealOpcode = SEAL_LOCK ∧ reply = some req.succeeded then
        Function.update w.lockedWith req.actualSlot
          (some (w.state.inventory.slot req.actualSlot).flag)
      else w.lockedWith }

def flag (w : Watched) (i : ℕ) : ℕ := (w.state.inventory.slot i).flag

end Watched

/-- A step opens a seal only with the password and an UNLOCK, which brings the flag from before
the LOCK back; it ends a binding only by a LOCK or with the password and an UNBOUND, which takes
its scrolls. -/
structure KeepsLocks (env : SealEnv) (w : Watched) (req : SealRequest) : Prop where
  sealed : ∀ i, w.flag i = ITEM_FLAG_SEALED → (w.step env req).flag i ≠ ITEM_FLAG_SEALED →
    req.sealOpcode = SEAL_UNLOCK ∧ req.actualSlot = i ∧ passwordFits env req = true
  bound : ∀ i, w.flag i = ITEM_FLAG_BOUND → (w.step env req).flag i ≠ ITEM_FLAG_BOUND →
    req.actualSlot = i ∧ (req.sealOpcode = SEAL_LOCK ∨
      req.sealOpcode = SEAL_UNBOUND ∧ passwordFits env req = true ∧
        bagStock BINDING_SCROLL_ID (w.step env req).state.inventory + req.boundCount env =
          bagStock BINDING_SCROLL_ID w.state.inventory)
  restored : ∀ i f, w.lockedWith i = some f → w.flag i = ITEM_FLAG_SEALED →
    (w.step env req).flag i ≠ ITEM_FLAG_SEALED → (w.step env req).flag i = f

namespace SealRequest

/-- A request as a client sends it, with any number in front of the item. -/
def written (req : SealRequest) (unk0 : ℕ) : Packet :=
  let front : Packet := ⟨0, Bytes.le 1 req.sealOpcode ++ Bytes.le 4 unk0 ++
    Bytes.le 4 req.itemId ++ Bytes.le 1 req.srcPos, false⟩
  front.writeString req.password

theorem readSeal_written {req : SealRequest} (unk0 : ℕ) (hop : req.sealOpcode < 2 ^ 8)
    (hunk : unk0 < 2 ^ 32) (hitem : req.itemId < 2 ^ 32) (hpos : req.srcPos < 2 ^ 8)
    (hletters : ∀ c ∈ req.password, TableLetter c)
    (hlen : (encodeStringBytes req.password).length ≤ MAX_STRING_LEN)
    (hbound : req.sealOpcode = SEAL_BOUND → req.password = []) :
    readSeal (req.written unk0).data = req := by
  generalize htail : Bytes.le 2 (encodeStringBytes req.password).length ++
    encodeStringBytes req.password = tail
  have hdata : (req.written unk0).data = Bytes.le 1 req.sealOpcode ++
      (Bytes.le 4 unk0 ++ (Bytes.le 4 req.itemId ++ (Bytes.le 1 req.srcPos ++ tail))) := by
    simp [written, Packet.writeString, Packet.writeU16, Packet.writeBytes, ← htail]
  have h1 := PacketReader.readU8_written [] (Bytes.le 4 unk0 ++ (Bytes.le 4 req.itemId ++
    (Bytes.le 1 req.srcPos ++ tail))) req.sealOpcode hop
  have h2 := PacketReader.readU32_written (Bytes.le 1 req.sealOpcode) (Bytes.le 4 req.itemId ++
    (Bytes.le 1 req.srcPos ++ tail)) unk0 hunk
  have h3 := PacketReader.readU32_written (Bytes.le 1 req.sealOpcode ++ Bytes.le 4 unk0)
    (Bytes.le 1 req.srcPos ++ tail) req.itemId hitem
  have h4 := PacketReader.readU8_written (Bytes.le 1 req.sealOpcode ++ Bytes.le 4 unk0 ++
    Bytes.le 4 req.itemId) tail req.srcPos hpos
  have h5 := PacketReader.readString_written ⟨0, Bytes.le 1 req.sealOpcode ++ Bytes.le 4 unk0 ++
    Bytes.le 4 req.itemId ++ Bytes.le 1 req.srcPos, false⟩ req.password [] hletters hlen
  have hwritten : (Packet.writeString ⟨0, Bytes.le 1 req.sealOpcode ++ Bytes.le 4 unk0 ++
      Bytes.le 4 req.itemId ++ Bytes.le 1 req.srcPos, false⟩ req.password).data =
      (req.written unk0).data := rfl
  rw [hwritten, List.append_nil, hdata] at h5
  simp only [List.nil_append, List.append_assoc, List.length_nil, List.length_append,
    Bytes.le_length] at h1 h2 h3 h4 h5
  unfold readSeal
  rw [hdata]
  simp only [PacketReader.new, PacketReader.readU8D, PacketReader.readU32D, h1, h2, h3, h4, h5,
    Option.getD_some, Option.map_some, Nat.zero_add]
  split_ifs with hop
  · rw [← hbound hop]
  · rfl

variable (env : SealEnv) (s : SealState) (req : SealRequest)

/-- The UNLOCK passes its checks. -/
def unlocks : Prop :=
  req.sealOpcode = SEAL_UNLOCK ∧ req.itemId ≠ 0 ∧ passwordFits env req = true ∧
    sealable env unlockRejects s.inventory req = true

def binds : Prop :=
  req.sealOpcode = SEAL_BOUND ∧ req.itemId ≠ 0 ∧ sealable env boundRejects s.inventory req = true

def unbinds : Prop :=
  req.sealOpcode = SEAL_UNBOUND ∧ req.itemId ≠ 0 ∧ passwordFits env req = true ∧
    sealable env unboundRejects s.inventory req = true ∧
    (req.boundCount env = 0 ∨
      checkExistItemCount s.inventory BINDING_SCROLL_ID (req.boundCount env) = true)

end SealRequest

def scrollConsumable (env : SealEnv) : Bool :=
  ((env.getItem BINDING_SCROLL_ID).bind Item.kind).getD 0 = ITEM_KIND_UNIQUE

/-- One slot pays: a stack with all the scrolls, or a scroll of as many that runs out of its
charges. If it is used up it is neither sealed nor bound, but for the item itself. -/
def ScrollsPaid (env : SealEnv) (s : SealState) (req : SealRequest) : Prop :=
  req.boundCount env = 0 ∨
  ∃ j, robSlot (scrollConsumable env) BINDING_SCROLL_ID (req.boundCount env) s.inventory bagSlots =
      some j ∧
    (scrollConsumable env = true → (s.inventory.slot j).count = req.boundCount env ∧
      robbed true (req.boundCount env) (s.inventory.slot j) = {}) ∧
    ((s.inventory.slot j).count = req.boundCount env → j ≠ req.actualSlot →
      (s.inventory.slot j).flag ≠ ITEM_FLAG_SEALED ∧ (s.inventory.slot j).flag ≠ ITEM_FLAG_BOUND)

/-- No seal is overwritten by a BOUND, what an UNLOCK opens was locked with a flag it can bring
back, and one slot pays for an UNBOUND. -/
structure Guarded (env : SealEnv) (w : Watched) (req : SealRequest) : Prop where
  unlock : req.unlocks env w.state → ∀ f, w.lockedWith req.actualSlot = some f →
    f = ITEM_FLAG_NONE ∨ f = ITEM_FLAG_NOT_BOUND ∨ f = ITEM_FLAG_BOUND
  bound : req.binds env w.state → w.flag req.actualSlot ≠ ITEM_FLAG_SEALED
  unbound : req.unbinds env w.state → ScrollsPaid env w.state req

section

variable {env : SealEnv} {s : SealState} {req : SealRequest} {inv : Inventory}
  {rejected : UserItemSlot → Bool} {f : UserItemSlot → UserItemSlot}

structure NamesItem (inv : Inventory) (req : SealRequest) : Prop where
  lt : req.actualSlot < inv.length
  same : (inv.slot req.actualSlot).itemId = req.itemId

theorem bagStock_updateSlot {id : ℕ} (h : ∀ slot, stack id (f slot) = stack id slot) :
    bagStock id (updateSlot inv req f) = bagStock id inv := by
  apply Tally.total_congr
  intro i _
  unfold updateSlot
  dsimp only
  split_ifs with hnamed
  · rcases eq_or_ne req.actualSlot i with rfl | hne
    · rw [Inventory.slot_set_self hnamed.1, h]
    · rw [Inventory.slot_set_ne hne]
  · rfl

theorem sealable_spec (h : sealable env rejected inv req = true) :
    NamesItem inv req ∧ rejected (inv.slot req.actualSlot) = false := by
  unfold sealable at h
  rw [Bool.and_eq_true, Option.any_eq_true] at h
  obtain ⟨-, invItem, hget, h⟩ := h
  simp only [Bool.and_eq_true, decide_eq_true_eq, Bool.not_eq_true'] at h
  have hslot := Inventory.slot_of_getElem? hget
  refine ⟨⟨(List.getElem?_eq_some_iff.mp hget).1, ?_⟩, ?_⟩
  · rw [hslot]
    exact h.1.1.1.1
  · rw [hslot]
    exact h.1.2

theorem updateSlot_named (h : NamesItem inv req) :
    updateSlot inv req f = inv.set req.actualSlot (f (inv.slot req.actualSlot)) :=
  if_pos ⟨h.lt, h.same⟩

theorem slot_updateSlot_ne {i : ℕ} (h : i ≠ req.actualSlot) :
    (updateSlot inv req f).slot i = inv.slot i := by
  unfold updateSlot
  dsimp only
  split_ifs
  · exact Inventory.slot_set_ne h.symm _
  · rfl

theorem slot_updateSlot_named (h : NamesItem inv req) :
    (updateSlot inv req f).slot req.actualSlot = f (inv.slot req.actualSlot) := by
  rw [updateSlot_named h, Inventory.slot_set_self h.lt]

inductive SealMove (env : SealEnv) (s : SealState) (req : SealRequest) :
    Option SealReply × SealState → Prop
  | idle (reply : Option SealReply) (hreply : reply ≠ some req.succeeded)
      (hunlock : ¬ req.unlocks env s) (hbound : ¬ req.binds env s) (hunbound : ¬ req.unbinds env s) :
      SealMove env s req (reply, s)
  | lock (gold : ℕ) (hop : req.sealOpcode = SEAL_LOCK)
      (hnamed : sealable env lockRejects s.inventory req = true) :
      SealMove env s req (some req.succeeded, ⟨updateSlot s.inventory req lockSlot, gold⟩)
  | unlock (h : req.unlocks env s) :
      SealMove env s req (some req.succeeded, ⟨updateSlot s.inventory req unlockSlot, s.gold⟩)
  | bound (h : req.binds env s) :
      SealMove env s req (some req.succeeded, ⟨updateSlot s.inventory req
        fun slot => { slot with flag := ITEM_FLAG_BOUND }, s.gold⟩)
  | unbound (h : req.unbinds env s) :
      SealMove env s req (some req.succeeded, ⟨updateSlot (req.robScrolls env s) req
        fun slot => { slot with flag := ITEM_FLAG_NOT_BOUND }, s.gold⟩)

theorem refused_ne_succeeded (result : ℕ) : some (req.refused result) ≠ some req.succeeded := by
  simp [SealRequest.refused, SealRequest.succeeded]

theorem itemSealProcess_move (env : SealEnv) (s : SealState) (req : SealRequest) :
    SealMove env s req (itemSealProcess env s req) := by
  unfold itemSealProcess
  dsimp only
  by_cases hid : req.itemId = 0
  · rw [if_pos hid]
    exact .idle none (by simp) (fun h => h.2.1 hid) (fun h => h.2.1 hid) fun h => h.2.1 hid
  rw [if_neg hid]
  by_cases hlock : req.sealOpcode = SEAL_LOCK
  · have hidle : ∀ result, SealMove env s req (some (req.refused result), s) := by
      intro result
      refine .idle _ (refused_ne_succeeded result) ?_ ?_ ?_ <;>
        exact fun h => absurd (hlock.symm.trans h.1) (by decide)
    rw [if_pos hlock]
    unfold SealRequest.itemSealLock
    split_ifs with hpass hgold hnamed
    · exact hidle 4
    · exact hidle 3
    · exact hidle 2
    · exact .lock _ hlock (by simpa using hnamed)
  rw [if_neg hlock]
  by_cases hunlock : req.sealOpcode = SEAL_UNLOCK
  · have hidle : ∀ result, ¬ req.unlocks env s → SealMove env s req (some (req.refused result), s) := by
      intro result hno
      refine .idle _ (refused_ne_succeeded result) hno ?_ ?_ <;>
        exact fun h => absurd (hunlock.symm.trans h.1) (by decide)
    rw [if_pos hunlock]
    unfold SealRequest.itemSealUnlock
    split_ifs with hpass hnamed
    · exact hidle 4 fun h => by simp [h.2.2.1] at hpass
    · exact hidle 2 fun h => by simp [h.2.2.2] at hnamed
    · exact .unlock ⟨hunlock, hid, by simpa using hpass, by simpa using hnamed⟩
  rw [if_neg hunlock]
  by_cases hbound : req.sealOpcode = SEAL_BOUND
  · rw [if_pos hbound]
    unfold SealRequest.itemSealBound
    split_ifs with hnamed
    · refine .idle _ (refused_ne_succeeded 2) (fun h => hunlock h.1) (fun h => ?_) fun h => ?_
      · simp [h.2.2] at hnamed
      · exact absurd (hbound.symm.trans h.1) (by decide)
    · exact .bound ⟨hbound, hid, by simpa using hnamed⟩
  rw [if_neg hbound]
  by_cases hunbound : req.sealOpcode = SEAL_UNBOUND
  · have hidle : ∀ result, ¬ req.unbinds env s → SealMove env s req (some (req.refused result), s) :=
      fun result hno => .idle _ (refused_ne_succeeded result) (fun h => hunlock h.1)
        (fun h => hbound h.1) hno
    rw [if_pos hunbound]
    unfold SealRequest.itemSealUnbound
    split_ifs with hpass hnamed hscrolls
    · exact hidle 4 fun h => by simp [h.2.2.1] at hpass
    · exact hidle 2 fun h => by simp [h.2.2.2.1] at hnamed
    · refine hidle 2 fun h => ?_
      rcases h.2.2.2.2 with hnone | hexist
      · simp [hnone] at hscrolls
      · simp [hexist] at hscrolls
    · refine .unbound ⟨hunbound, hid, by simpa using hpass, by simpa using hnamed, ?_⟩
      simpa [Nat.pos_iff_ne_zero, or_iff_not_imp_left] using hscrolls
  rw [if_neg hunbound]
  exact .idle none (by simp) (fun h => hunlock h.1) (fun h => hbound h.1) fun h => hunbound h.1

structure SameFlags (slot slot' : UserItemSlot) : Prop where
  itemId : slot'.itemId = slot.itemId
  flag : slot'.flag = slot.flag
  originalFlag : slot'.originalFlag = slot.originalFlag

/-- A slot that is taken from keeps its flags, or is wiped. -/
theorem robbed_cases (consumable : Bool) (count : ℕ) (slot : UserItemSlot) :
    robbed consumable count slot = {} ∨ SameFlags slot (robbed consumable count slot) := by
  unfold robbed
  dsimp only
  split_ifs
  · exact Or.inl rfl
  · exact Or.inr ⟨rfl, rfl, rfl⟩
  · exact Or.inl rfl
  · exact Or.inr ⟨rfl, rfl, rfl⟩

theorem robbed_false_eq_default_iff {count : ℕ} {slot : UserItemSlot} (h : slot.itemId ≠ 0) :
    robbed false count slot = {} ↔ slot.count = count := by
  unfold robbed
  simp only [Bool.false_eq_true, if_false]
  split_ifs with heq
  · exact iff_of_true rfl heq
  · exact iff_of_false (fun hwiped => h (congrArg UserItemSlot.itemId hwiped)) heq

def scrollSlot (env : SealEnv) (s : SealState) (req : SealRequest) : Option ℕ :=
  robSlot (scrollConsumable env) BINDING_SCROLL_ID (req.boundCount env) s.inventory bagSlots

theorem robScrolls_free (h : req.boundCount env = 0) : req.robScrolls env s = s.inventory := by
  unfold SealRequest.robScrolls robItem
  rw [if_pos h]
  rfl

theorem robScrolls_none (hn : req.boundCount env ≠ 0) (h : scrollSlot env s req = none) :
    req.robScrolls env s = s.inventory := by
  unfold SealRequest.robScrolls robItem
  rw [if_neg hn, robFrom_eq]
  unfold scrollSlot scrollConsumable at h
  rw [h]
  rfl

theorem robScrolls_some {j : ℕ} (hn : req.boundCount env ≠ 0) (h : scrollSlot env s req = some j) :
    req.robScrolls env s = s.inventory.set j
      (robbed (scrollConsumable env) (req.boundCount env) (s.inventory.slot j)) := by
  unfold SealRequest.robScrolls robItem
  rw [if_neg hn, robFrom_eq]
  unfold scrollSlot scrollConsumable at h
  rw [h]
  rfl

/-- Every slot keeps its flags or is wiped, and only the one the scrolls are in is wiped. -/
theorem slot_robScrolls (env : SealEnv) (s : SealState) (req : SealRequest) (i : ℕ) :
    SameFlags (s.inventory.slot i) ((req.robScrolls env s).slot i) ∨
      (req.robScrolls env s).slot i = {} ∧ req.boundCount env ≠ 0 ∧ scrollSlot env s req = some i ∧
        robbed (scrollConsumable env) (req.boundCount env) (s.inventory.slot i) = {} := by
  by_cases hn : req.boundCount env = 0
  · rw [robScrolls_free hn]
    exact Or.inl ⟨rfl, rfl, rfl⟩
  cases hslot : scrollSlot env s req with
  | none =>
    rw [robScrolls_none hn hslot]
    exact Or.inl ⟨rfl, rfl, rfl⟩
  | some j =>
    rw [robScrolls_some hn hslot]
    obtain ⟨-, hlt, -, -⟩ := robSlot_spec hslot
    by_cases hij : j = i
    · subst hij
      rw [Inventory.slot_set_self hlt]
      exact (robbed_cases _ _ _).symm.imp_right fun h => ⟨h, hn, rfl, h⟩
    · rw [Inventory.slot_set_ne hij]
      exact Or.inl ⟨rfl, rfl, rfl⟩

theorem length_robScrolls (env : SealEnv) (s : SealState) (req : SealRequest) :
    (req.robScrolls env s).length = s.inventory.length := by
  by_cases hn : req.boundCount env = 0
  · rw [robScrolls_free hn]
  cases hslot : scrollSlot env s req with
  | none => rw [robScrolls_none hn hslot]
  | some j => rw [robScrolls_some hn hslot, List.length_set]

/-- As many scrolls go as the item asks for, where one slot pays for all of them. -/
theorem scrolls_taken_iff (hn : req.boundCount env ≠ 0) :
    bagStock BINDING_SCROLL_ID (req.robScrolls env s) + req.boundCount env =
        bagStock BINDING_SCROLL_ID s.inventory ↔
      ∃ j, scrollSlot env s req = some j ∧ (scrollConsumable env = true →
        (s.inventory.slot j).count = req.boundCount env ∧
          robbed true (req.boundCount env) (s.inventory.slot j) = {}) := by
  cases hslot : scrollSlot env s req with
  | none =>
    rw [robScrolls_none hn hslot]
    simp [hn]
  | some j =>
    obtain ⟨hmem, hlt, hid, henough⟩ := robSlot_spec hslot
    have hset := bagStock_set hmem hlt
      (robbed (scrollConsumable env) (req.boundCount env) (s.inventory.slot j)) BINDING_SCROLL_ID
    rw [stack_of_same hid] at hset
    rw [robScrolls_some hn hslot]
    simp only [Option.some.injEq, exists_eq_left']
    cases hc : scrollConsumable env with
    | true =>
      rw [hc] at hset
      have hscroll : robbed true (req.boundCount env) (s.inventory.slot j) ≠ {} →
          stack BINDING_SCROLL_ID (robbed true (req.boundCount env) (s.inventory.slot j)) =
            (s.inventory.slot j).count := by
        intro hne
        unfold robbed at hne ⊢
        simp only [if_true] at hne ⊢
        split_ifs at hne ⊢ with hd
        · exact absurd rfl hne
        · exact stack_of_same hid
      by_cases hwiped : robbed true (req.boundCount env) (s.inventory.slot j) = {}
      · rw [hwiped, stack_default (by decide)] at hset
        simp only [hwiped, and_true, forall_const]
        omega
      · rw [hscroll hwiped] at hset
        simp only [hwiped, and_false, forall_const, iff_false]
        omega
    | false =>
      have hle := henough hc
      have hleft : stack BINDING_SCROLL_ID (robbed false (req.boundCount env) (s.inventory.slot j)) =
          (s.inventory.slot j).count - req.boundCount env := by
        unfold robbed
        simp only [Bool.false_eq_true, if_false]
        split_ifs with heq
        · rw [heq, Nat.sub_self]
          exact stack_default (by decide)
        · exact stack_of_same hid
      rw [hc, hleft] at hset
      simp only [Bool.false_eq_true, false_implies, iff_true]
      omega

end

section

variable {env : SealEnv} {w : Watched} {req : SealRequest}

def Recorded (w : Watched) : Prop :=
  ∀ i f, w.lockedWith i = some f → w.flag i = ITEM_FLAG_SEALED →
    (w.state.inventory.slot i).originalFlag = f

theorem step_state (env : SealEnv) (w : Watched) (req : SealRequest) :
    (w.step env req).state = (itemSealProcess env w.state req).2 := rfl

theorem step_lockedWith (env : SealEnv) (w : Watched) (req : SealRequest) :
    (w.step env req).lockedWith =
      if req.sealOpcode = SEAL_LOCK ∧ (itemSealProcess env w.state req).1 = some req.succeeded then
        Function.update w.lockedWith req.actualSlot (some (w.flag req.actualSlot))
      else w.lockedWith := rfl

theorem keepsLocks_same (h : ∀ i, (w.step env req).flag i = w.flag i) : KeepsLocks env w req := by
  refine ⟨fun i hi hi' => ?_, fun i hi hi' => ?_, fun i f _ hi hi' => ?_⟩ <;>
    exact absurd ((h i).trans hi) hi'

theorem keepsLocks_iff_named
    (hothers : ∀ i, i ≠ req.actualSlot → (w.step env req).flag i = w.flag i) :
    KeepsLocks env w req ↔
      (w.flag req.actualSlot = ITEM_FLAG_SEALED →
        (w.step env req).flag req.actualSlot ≠ ITEM_FLAG_SEALED →
          (req.sealOpcode = SEAL_UNLOCK ∧ passwordFits env req = true) ∧
            ∀ f, w.lockedWith req.actualSlot = some f → (w.step env req).flag req.actualSlot = f) ∧
      (w.flag req.actualSlot = ITEM_FLAG_BOUND →
        (w.step env req).flag req.actualSlot ≠ ITEM_FLAG_BOUND →
          req.sealOpcode = SEAL_LOCK ∨ req.sealOpcode = SEAL_UNBOUND ∧ passwordFits env req = true ∧
            bagStock BINDING_SCROLL_ID (w.step env req).state.inventory + req.boundCount env =
              bagStock BINDING_SCROLL_ID w.state.inventory) := by
  constructor
  · intro h
    refine ⟨fun hs hs' => ⟨?_, fun f hf => h.restored _ f hf hs hs'⟩, fun hb hb' => (h.bound _ hb hb').2⟩
    obtain ⟨hop, -, hpass⟩ := h.sealed _ hs hs'
    exact ⟨hop, hpass⟩
  · rintro ⟨hsealed, hbound⟩
    refine ⟨fun i hi hi' => ?_, fun i hi hi' => ?_, fun i f hf hi hi' => ?_⟩ <;>
      rcases eq_or_ne i req.actualSlot with rfl | hne
    · obtain ⟨⟨hop, hpass⟩, -⟩ := hsealed hi hi'
      exact ⟨hop, rfl, hpass⟩
    · exact absurd ((hothers i hne).trans hi) hi'
    · exact ⟨rfl, hbound hi hi'⟩
    · exact absurd ((hothers i hne).trans hi) hi'
    · exact (hsealed hi hi').2 f hf
    · exact absurd ((hothers i hne).trans hi) hi'

theorem flag_of_updateSlot {f : UserItemSlot → UserItemSlot}
    (hinv : (w.step env req).state.inventory = updateSlot w.state.inventory req f)
    (hnamed : NamesItem w.state.inventory req) :
    (w.step env req).flag req.actualSlot = (f (w.state.inventory.slot req.actualSlot)).flag ∧
      ∀ i, i ≠ req.actualSlot → (w.step env req).flag i = w.flag i := by
  refine ⟨?_, fun i hi => ?_⟩
  · rw [Watched.flag, hinv, slot_updateSlot_named hnamed]
  · rw [Watched.flag, hinv, slot_updateSlot_ne hi]
    rfl

theorem keepsLocks_lock
    (hinv : (w.step env req).state.inventory = updateSlot w.state.inventory req lockSlot)
    (hop : req.sealOpcode = SEAL_LOCK)
    (hnamed : sealable env lockRejects w.state.inventory req = true) : KeepsLocks env w req := by
  obtain ⟨hname, hrej⟩ := sealable_spec hnamed
  obtain ⟨-, hothers⟩ := flag_of_updateSlot hinv hname
  simp only [lockRejects, Bool.or_eq_false_iff, decide_eq_false_iff_not] at hrej
  exact (keepsLocks_iff_named hothers).mpr
    ⟨fun hs => absurd hs hrej.1.1.1.1, fun _ _ => Or.inl hop⟩

theorem keepsLocks_unlock_iff (hw : Recorded w) (h : req.unlocks env w.state)
    (hinv : (w.step env req).state.inventory = updateSlot w.state.inventory req unlockSlot) :
    KeepsLocks env w req ↔ ∀ f, w.lockedWith req.actualSlot = some f →
      f = ITEM_FLAG_NONE ∨ f = ITEM_FLAG_NOT_BOUND ∨ f = ITEM_FLAG_BOUND := by
  obtain ⟨hop, -, hpass, hnamed⟩ := h
  obtain ⟨hname, hrej⟩ := sealable_spec hnamed
  obtain ⟨hflag, hothers⟩ := flag_of_updateSlot hinv hname
  simp only [unlockRejects, Bool.or_eq_false_iff, decide_eq_false_iff_not, not_not] at hrej
  have hsealed : w.flag req.actualSlot = ITEM_FLAG_SEALED := hrej.1.1.1
  have hunbound : w.flag req.actualSlot ≠ ITEM_FLAG_BOUND := by
    rw [hsealed]
    decide
  have hopen : (w.step env req).flag req.actualSlot ≠ ITEM_FLAG_SEALED := by
    rw [hflag, unlockSlot]
    dsimp only
    split_ifs with hsaved
    · rcases hsaved with hsaved | hsaved <;> rw [hsaved] <;> decide
    · decide
  have hback : ∀ f, w.lockedWith req.actualSlot = some f →
      ((w.step env req).flag req.actualSlot = f ↔
        f = ITEM_FLAG_NONE ∨ f = ITEM_FLAG_NOT_BOUND ∨ f = ITEM_FLAG_BOUND) := by
    intro f hf
    rw [hflag, unlockSlot, hw _ f hf hsealed]
    dsimp only
    split_ifs with hsaved
    · exact iff_of_true rfl (Or.inr hsaved)
    · rw [eq_comm, or_iff_left hsaved]
  rw [keepsLocks_iff_named hothers]
  constructor
  · rintro ⟨h, -⟩ f hf
    exact (hback f hf).mp ((h hsealed hopen).2 f hf)
  · intro h
    exact ⟨fun _ _ => ⟨⟨hop, hpass⟩, fun f hf => (hback f hf).mpr (h f hf)⟩,
      fun hb => absurd hb hunbound⟩

theorem keepsLocks_bound_iff (h : req.binds env w.state)
    (hinv : (w.step env req).state.inventory = updateSlot w.state.inventory req
      fun slot => { slot with flag := ITEM_FLAG_BOUND }) :
    KeepsLocks env w req ↔ w.flag req.actualSlot ≠ ITEM_FLAG_SEALED := by
  obtain ⟨hop, -, hnamed⟩ := h
  obtain ⟨hname, -⟩ := sealable_spec hnamed
  obtain ⟨hflag, hothers⟩ := flag_of_updateSlot hinv hname
  dsimp only at hflag
  rw [keepsLocks_iff_named hothers, hflag]
  constructor
  · rintro ⟨h, -⟩ hs
    have hunlock := (h hs (by decide)).1.1
    exact absurd (hop.symm.trans hunlock) (by decide)
  · intro hs
    exact ⟨fun hs' => absurd hs' hs, fun _ hb => absurd rfl hb⟩

theorem keepsLocks_unbound_iff (h : req.unbinds env w.state)
    (hinv : (w.step env req).state.inventory = updateSlot (req.robScrolls env w.state) req
      fun slot => { slot with flag := ITEM_FLAG_NOT_BOUND }) :
    KeepsLocks env w req ↔ ScrollsPaid env w.state req := by
  obtain ⟨hop, hid, hpass, hnamed, -⟩ := h
  obtain ⟨hname, hrej⟩ := sealable_spec hnamed
  simp only [unboundRejects, Bool.or_eq_false_iff, decide_eq_false_iff_not, not_not] at hrej
  have hbound : w.flag req.actualSlot = ITEM_FLAG_BOUND := hrej.1.1
  have hothers : ∀ i, i ≠ req.actualSlot →
      (w.step env req).flag i = ((req.robScrolls env w.state).slot i).flag := by
    intro i hi
    rw [Watched.flag, hinv, slot_updateSlot_ne hi]
  -- the item loses its binding, or is itself the last of the scrolls
  have hopen : (w.step env req).flag req.actualSlot ≠ ITEM_FLAG_BOUND := by
    rw [Watched.flag, hinv]
    rcases slot_robScrolls env w.state req req.actualSlot with hkept | ⟨hwiped, -⟩
    · have hname' : NamesItem (req.robScrolls env w.state) req :=
        ⟨by rw [length_robScrolls]; exact hname.lt, hkept.itemId.trans hname.same⟩
      rw [slot_updateSlot_named hname']
      exact (by decide : ITEM_FLAG_NOT_BOUND ≠ ITEM_FLAG_BOUND)
    · unfold updateSlot
      dsimp only
      rw [if_neg fun hstill => hid (by rw [← hstill.2, hwiped]), hwiped]
      exact (by decide : (0 : ℕ) ≠ ITEM_FLAG_BOUND)
  have hstock : bagStock BINDING_SCROLL_ID (w.step env req).state.inventory =
      bagStock BINDING_SCROLL_ID (req.robScrolls env w.state) := by
    rw [hinv]
    exact bagStock_updateSlot fun _ => rfl
  constructor
  · intro hk
    rcases (hk.bound _ hbound hopen).2 with hlock | ⟨-, -, hexact⟩
    · exact absurd (hop.symm.trans hlock) (by decide)
    rw [hstock] at hexact
    by_cases hn : req.boundCount env = 0
    · exact Or.inl hn
    obtain ⟨j, hslot, hlast⟩ := (scrolls_taken_iff hn).mp hexact
    refine Or.inr ⟨j, hslot, hlast, fun hcount hne => ?_⟩
    have hwiped : (w.step env req).flag j = ITEM_FLAG_NONE := by
      rw [hothers j hne, robScrolls_some hn hslot, Inventory.slot_set_self (robSlot_spec hslot).2.1]
      cases hc : scrollConsumable env with
      | true =>
        rw [(hlast hc).2]
        rfl
      | false =>
        have hid : (w.state.inventory.slot j).itemId ≠ 0 := by
          rw [(robSlot_spec hslot).2.2.1]
          decide
        rw [(robbed_false_eq_default_iff hid).mpr hcount]
        rfl
    constructor
    · intro hs
      have hunlock := (hk.sealed j hs (by rw [hwiped]; decide)).1
      exact absurd (hop.symm.trans hunlock) (by decide)
    · intro hb
      exact hne (hk.bound j hb (by rw [hwiped]; decide)).1.symm
  · intro hpaid
    have hexact : bagStock BINDING_SCROLL_ID (req.robScrolls env w.state) + req.boundCount env =
        bagStock BINDING_SCROLL_ID w.state.inventory := by
      by_cases hn : req.boundCount env = 0
      · rw [robScrolls_free hn, hn, Nat.add_zero]
      · obtain ⟨j, hslot, hlast, -⟩ := hpaid.resolve_left hn
        exact (scrolls_taken_iff hn).mpr ⟨j, hslot, hlast⟩
    have hkept : ∀ i, i ≠ req.actualSlot → (w.flag i = ITEM_FLAG_SEALED ∨ w.flag i = ITEM_FLAG_BOUND) →
        (w.step env req).flag i = w.flag i := by
      intro i hi hlocked
      rw [hothers i hi]
      rcases slot_robScrolls env w.state req i with hsame | ⟨-, hn, hslot, hwiped⟩
      · exact hsame.flag
      · exfalso
        obtain ⟨j, hslot', hlast, hfree⟩ := hpaid.resolve_left hn
        obtain rfl : i = j := Option.some.inj (hslot.symm.trans hslot')
        have hcount : (w.state.inventory.slot i).count = req.boundCount env := by
          cases hc : scrollConsumable env with
          | true => exact (hlast hc).1
          | false =>
            have hid : (w.state.inventory.slot i).itemId ≠ 0 := by
              rw [(robSlot_spec hslot).2.2.1]
              decide
            rw [hc] at hwiped
            exact (robbed_false_eq_default_iff hid).mp hwiped
        obtain ⟨hs, hb⟩ := hfree hcount hi
        exact hlocked.elim hs hb
    refine ⟨fun i hs hs' => ?_, fun i hb hb' => ?_, fun i f _ hs hs' => ?_⟩ <;>
      rcases eq_or_ne i req.actualSlot with rfl | hne
    · exact absurd (hbound.symm.trans hs) (by decide)
    · exact absurd ((hkept i hne (Or.inl hs)).trans hs) hs'
    · exact ⟨rfl, Or.inr ⟨hop, hpass, by rw [hstock]; exact hexact⟩⟩
    · exact absurd ((hkept i hne (Or.inr hb)).trans hb) hb'
    · exact absurd (hbound.symm.trans hs) (by decide)
    · exact absurd ((hkept i hne (Or.inl hs)).trans hs) hs'

/-- One request, on a bag whose seals were watched. -/
theorem keepsLocks_iff (hw : Recorded w) : KeepsLocks env w req ↔ Guarded env w req := by
  have hmove := itemSealProcess_move env w.state req
  have hstate := step_state env w req
  generalize itemSealProcess env w.state req = r at hmove hstate
  have hinv : (w.step env req).state.inventory = r.2.inventory := by rw [hstate]
  cases hmove with
  | idle reply _ hunlock hbound hunbound =>
    refine iff_of_true (keepsLocks_same fun i => ?_) ⟨?_, ?_, ?_⟩
    · rw [Watched.flag, hinv]
      rfl
    · exact fun h => absurd h hunlock
    · exact fun h => absurd h hbound
    · exact fun h => absurd h hunbound
  | lock gold hop hnamed =>
    refine iff_of_true (keepsLocks_lock hinv hop hnamed) ⟨?_, ?_, ?_⟩ <;>
      exact fun h => absurd (hop.symm.trans h.1) (by decide)
  | unlock h =>
    rw [keepsLocks_unlock_iff hw h hinv]
    refine ⟨fun hf => ⟨fun _ => hf, ?_, ?_⟩, fun hg => hg.unlock h⟩ <;>
      exact fun h' => absurd (h.1.symm.trans h'.1) (by decide)
  | bound h =>
    rw [keepsLocks_bound_iff h hinv]
    refine ⟨fun hf => ⟨?_, fun _ => hf, ?_⟩, fun hg => hg.bound h⟩ <;>
      exact fun h' => absurd (h.1.symm.trans h'.1) (by decide)
  | unbound h =>
    rw [keepsLocks_unbound_iff h hinv]
    refine ⟨fun hf => ⟨?_, ?_, fun _ => hf⟩, fun hg => hg.unbound h⟩ <;>
      exact fun h' => absurd (h.1.symm.trans h'.1) (by decide)

theorem recorded_start (s : SealState) : Recorded (Watched.start s) := fun _ _ h => by cases h

theorem recorded_step (hw : Recorded w) : Recorded (w.step env req) := by
  have hmove := itemSealProcess_move env w.state req
  have hstate := step_state env w req
  have hlocked := step_lockedWith env w req
  generalize itemSealProcess env w.state req = r at hmove hstate hlocked
  -- a slot that keeps its flags and its record
  have hsame : (w.step env req).lockedWith = w.lockedWith → ∀ i f,
      SameFlags (w.state.inventory.slot i) ((w.step env req).state.inventory.slot i) →
      (w.step env req).lockedWith i = some f → (w.step env req).flag i = ITEM_FLAG_SEALED →
      ((w.step env req).state.inventory.slot i).originalFlag = f := by
    intro hrec i f hflags hf hs
    rw [hflags.originalFlag]
    exact hw i f (hrec ▸ hf) (hflags.flag.symm.trans hs)
  have hunmoved : req.sealOpcode ≠ SEAL_LOCK → (w.step env req).lockedWith = w.lockedWith :=
    fun hop => hlocked.trans (if_neg fun h => hop h.1)
  intro i f hf hs
  cases hmove with
  | idle reply hreply =>
    have hrec : (w.step env req).lockedWith = w.lockedWith := hlocked.trans (if_neg fun h => hreply h.2)
    refine hsame hrec i f ?_ hf hs
    rw [hstate]
    exact ⟨rfl, rfl, rfl⟩
  | lock gold hop hnamed =>
    rw [if_pos ⟨hop, rfl⟩] at hlocked
    obtain ⟨hname, -⟩ := sealable_spec hnamed
    rw [hlocked] at hf
    rw [Watched.flag, hstate] at hs
    rw [hstate]
    rcases eq_or_ne i req.actualSlot with rfl | hne
    · rw [Function.update_self] at hf
      rw [slot_updateSlot_named hname]
      exact Option.some.inj hf
    · rw [Function.update_of_ne hne] at hf
      rw [slot_updateSlot_ne hne] at hs ⊢
      exact hw i f hf hs
  | unlock h =>
    have hrec := hunmoved (by rw [h.1]; decide)
    rcases eq_or_ne i req.actualSlot with rfl | hne
    · exfalso
      rw [Watched.flag, hstate, slot_updateSlot_named (sealable_spec h.2.2.2).1, unlockSlot] at hs
      dsimp only at hs
      split_ifs at hs with hsaved
      · rw [hs] at hsaved
        exact absurd hsaved (by decide)
      · cases hs
    · refine hsame hrec i f ?_ hf hs
      rw [hstate, slot_updateSlot_ne hne]
      exact ⟨rfl, rfl, rfl⟩
  | bound h =>
    have hrec := hunmoved (by rw [h.1]; decide)
    rcases eq_or_ne i req.actualSlot with rfl | hne
    · exfalso
      rw [Watched.flag, hstate, slot_updateSlot_named (sealable_spec h.2.2).1] at hs
      cases hs
    · refine hsame hrec i f ?_ hf hs
      rw [hstate, slot_updateSlot_ne hne]
      exact ⟨rfl, rfl, rfl⟩
  | unbound h =>
    have hrec := hunmoved (by rw [h.1]; decide)
    have hwipe : (w.step env req).state.inventory.slot i ≠ {} := by
      intro hwiped
      rw [Watched.flag, hwiped] at hs
      cases hs
    rw [hstate] at hwipe
    rcases eq_or_ne i req.actualSlot with rfl | hne
    · exfalso
      rw [Watched.flag, hstate] at hs
      unfold updateSlot at hs hwipe
      dsimp only at hs hwipe
      split_ifs at hs hwipe with hstill
      · rw [Inventory.slot_set_self hstill.1] at hs
        cases hs
      · rcases slot_robScrolls env w.state req req.actualSlot with hkept | ⟨hwiped, -⟩
        · refine hstill ⟨?_, hkept.itemId.trans (sealable_spec h.2.2.2.1).1.same⟩
          rw [length_robScrolls]
          exact (sealable_spec h.2.2.2.1).1.lt
        · exact hwipe hwiped
    · refine hsame hrec i f ?_ hf hs
      rw [hstate]
      rw [slot_updateSlot_ne hne] at hwipe ⊢
      exact (slot_robScrolls env w.state req i).resolve_right fun hwiped => hwipe hwiped.1

end

/-- The seals and bindings of a bag are kept along a run just where every request is guarded. -/
theorem keepsLocks_run_iff (env : SealEnv) (s : SealState) (reqs : List SealRequest) :
    Run.Along (Watched.step env) (KeepsLocks env) (Watched.start s) reqs ↔
      Run.Along (Watched.step env) (Guarded env) (Watched.start s) reqs :=
  Run.along_congr Recorded (fun _ _ hw _ => recorded_step hw) (fun _ _ hw => keepsLocks_iff hw)
    (recorded_start s)

def sealedEnv : SealEnv where
  getItem := fun _ => some {}
  bound := fun _ => some 1
  vipPassword := []

def sealedBag : SealState where
  inventory := (List.replicate INVENTORY_TOTAL ({} : UserItemSlot)).set SLOT_MAX
    { itemId := 389010000, count := 1, serialNum := 1, flag := ITEM_FLAG_SEALED }
  gold := 0

/-- A BOUND, without any password. -/
def bindSealed : SealRequest := ⟨SEAL_BOUND, 389010000, 0, []⟩

theorem not_keepsLocks_bindSealed :
    ¬ Run.Along (Watched.step sealedEnv) (KeepsLocks sealedEnv) (Watched.start sealedBag)
      [bindSealed] := by
  rintro ⟨h, -⟩
  have hbefore : (Watched.start sealedBag).flag SLOT_MAX = ITEM_FLAG_SEALED := by decide +kernel
  have hafter : ((Watched.start sealedBag).step sealedEnv bindSealed).flag SLOT_MAX ≠
      ITEM_FLAG_SEALED := by decide +kernel
  exact absurd (h.sealed SLOT_MAX hbefore hafter).1 (by decide)

end KoServer
