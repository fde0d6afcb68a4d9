import KoServer.Spec.CharacterSeal
import KoServer.Lib.Rows

/-! What the scroll and the ring leave behind, call by call. -/

namespace KoServer

theorem unsealRow_sealRow (id : ℕ) (accountId charName : List Char) (itemSerial : ℤ)
    (c : UserData) :
    unsealRow (sealRow id accountId charName itemSerial c) =
      { c with
        nation := if c.classId.tdiv 100 = 1 then 2 else 1
        rebStr := 0
        rebSta := 0
        rebDex := 0
        rebIntel := 0
        rebCha := 0
        zone := 21 } := rfl

namespace SealWorld

variable {w w' : SealWorld} {accountId charName : List Char} {itemSerial uniqueId : ℤ}

/-- The three calls that save a character. -/
def storeSeal (accountId charName : List Char) (itemSerial : ℤ) (w : SealWorld) :
    Option (ℤ × SealWorld) :=
  (w.sealCharacter accountId charName itemSerial).bind fun (sealId, w) =>
    (w.takeUniqueId.createMapping w.newUniqueId sealId accountId).map fun (_, w') =>
      (w.newUniqueId, w')

/-- Only the tables of the seals changed, and they only grew. -/
structure Stores (w w' : SealWorld) : Prop where
  accountChar : w'.accountChar = w.accountChar
  userdata : w'.userdata = w.userdata
  userItems : w'.userItems = w.userItems
  inventory : w'.inventory = w.inventory
  items : ∃ rows, w'.sealItems = w.sealItems ++ rows
  mappings : ∃ rows, w'.sealMapping = w.sealMapping ++ rows

theorem Stores.refl (w : SealWorld) : Stores w w :=
  ⟨rfl, rfl, rfl, rfl, ⟨[], (List.append_nil _).symm⟩, [], (List.append_nil _).symm⟩

/-- A sealed character that is found stays found. -/
theorem Stores.load (h : Stores w w') {r : CharacterSealItemRow}
    (hr : w.loadSealItemByUniqueId uniqueId = some r) :
    w'.loadSealItemByUniqueId uniqueId = some r := by
  obtain ⟨m, hm, hid⟩ := Option.bind_eq_some_iff.mp hr
  obtain ⟨rows, hrows⟩ := h.items
  obtain ⟨rows', hrows'⟩ := h.mappings
  refine Option.bind_eq_some_iff.mpr ⟨m, ?_, ?_⟩
  · rw [hrows', List.find?_append, hm]
    rfl
  · rw [hrows, List.find?_append, hid]
    rfl

theorem sealCharacter_stores {sealId : ℕ}
    (h : w.sealCharacter accountId charName itemSerial = some (sealId, w')) : Stores w w' := by
  unfold sealCharacter at h
  cases hc : w.userdata charName with
  | none => simp [hc] at h
  | some c =>
    simp only [hc] at h
    split_ifs at h
    obtain ⟨-, rfl⟩ := Prod.ext_iff.mp (Option.some.inj h)
    exact ⟨rfl, rfl, rfl, rfl, ⟨_, rfl⟩, [], (List.append_nil _).symm⟩

theorem sealCharacter_sealMapping {sealId : ℕ}
    (h : w.sealCharacter accountId charName itemSerial = some (sealId, w')) :
    w'.sealMapping = w.sealMapping := by
  unfold sealCharacter at h
  cases hc : w.userdata charName with
  | none => simp [hc] at h
  | some c =>
    simp only [hc] at h
    split_ifs at h
    obtain ⟨-, rfl⟩ := Prod.ext_iff.mp (Option.some.inj h)
    rfl

theorem createMapping_stores {sealId : ℕ}
    (h : w.createMapping uniqueId sealId accountId = some ((), w')) : Stores w w' := by
  unfold createMapping at h
  split_ifs at h
  obtain ⟨-, rfl⟩ := Prod.ext_iff.mp (Option.some.inj h)
  exact ⟨rfl, rfl, rfl, rfl, ⟨[], (List.append_nil _).symm⟩, _, rfl⟩

theorem Stores.trans {w'' : SealWorld} (h : Stores w w') (h' : Stores w' w'') : Stores w w'' := by
  obtain ⟨rows, hrows⟩ := h.items
  obtain ⟨rows', hrows'⟩ := h'.items
  obtain ⟨maps, hmaps⟩ := h.mappings
  obtain ⟨maps', hmaps'⟩ := h'.mappings
  exact
    { accountChar := h'.accountChar.trans h.accountChar
      userdata := h'.userdata.trans h.userdata
      userItems := h'.userItems.trans h.userItems
      inventory := h'.inventory.trans h.inventory
      items := ⟨rows ++ rows', by rw [hrows', hrows, List.append_assoc]⟩
      mappings := ⟨maps ++ maps', by rw [hmaps', hmaps, List.append_assoc]⟩ }

theorem takeUniqueId_stores (w : SealWorld) : Stores w w.takeUniqueId :=
  ⟨rfl, rfl, rfl, rfl, ⟨[], (List.append_nil _).symm⟩, [], (List.append_nil _).symm⟩

theorem storeSeal_eq_some
    (h : w.storeSeal accountId charName itemSerial = some (uniqueId, w')) :
    ∃ sealId w₁, w.sealCharacter accountId charName itemSerial = some (sealId, w₁) ∧
      uniqueId = w₁.newUniqueId ∧
      w₁.takeUniqueId.createMapping w₁.newUniqueId sealId accountId = some ((), w') := by
  obtain ⟨⟨sealId, w₁⟩, h₁, h⟩ := Option.bind_eq_some_iff.mp h
  obtain ⟨⟨⟨⟩, w₂⟩, h₂, h⟩ := Option.map_eq_some_iff.mp h
  obtain ⟨hu, rfl⟩ := Prod.mk.inj h
  exact ⟨sealId, w₁, h₁, hu.symm, h₂⟩

theorem storeSeal_stores (h : w.storeSeal accountId charName itemSerial = some (uniqueId, w')) :
    Stores w w' := by
  obtain ⟨sealId, w₁, h₁, -, h₂⟩ := storeSeal_eq_some h
  exact ((sealCharacter_stores h₁).trans (takeUniqueId_stores w₁)).trans (createMapping_stores h₂)

/-- What is stored: the row of the character, found under the new unique id. -/
theorem storeSeal_spec (h : w.storeSeal accountId charName itemSerial = some (uniqueId, w')) :
    ∃ c, w.userdata charName = some c ∧
      (∀ m ∈ w.sealMapping, m.uniqueId ≠ uniqueId) ∧
      w'.sealMapping = w.sealMapping ++ [⟨uniqueId, w.nextSealItemId, accountId⟩] ∧
      w'.loadSealItemByUniqueId uniqueId =
        some (sealRow w.nextSealItemId accountId charName itemSerial c) := by
  obtain ⟨sealId, w₁, h₁, hu, h₂⟩ := storeSeal_eq_some h
  rw [hu]
  unfold sealCharacter at h₁
  cases hc : w.userdata charName with
  | none => simp [hc] at h₁
  | some c =>
    simp only [hc] at h₁
    split_ifs at h₁ with hid
    obtain ⟨rfl, hw₁⟩ := Prod.mk.inj (Option.some.inj h₁)
    have hsame : w₁.newUniqueId = w.newUniqueId := by rw [← hw₁]; rfl
    rw [hsame] at h₂ ⊢
    rw [← hw₁] at h₂
    unfold createMapping at h₂
    split_ifs at h₂ with hunique
    obtain ⟨-, rfl⟩ := Prod.ext_iff.mp (Option.some.inj h₂)
    have hfresh : ∀ m ∈ w.sealMapping, m.uniqueId ≠ w.newUniqueId := by
      intro m hm hu
      exact hunique (List.any_eq_true.mpr ⟨m, hm, decide_eq_true hu⟩)
    refine ⟨c, rfl, hfresh, rfl, ?_⟩
    have hmapping : (w.sealMapping ++
        [(⟨w.newUniqueId, w.nextSealItemId, accountId⟩ : CharacterSealMappingRow)]).find?
          (·.uniqueId = w.newUniqueId) = some ⟨w.newUniqueId, w.nextSealItemId, accountId⟩ := by
      rw [List.find?_append, List.find?_eq_none.mpr fun m hm => by simpa using hfresh m hm]
      simp
    have hitem : (w.sealItems ++ [sealRow w.nextSealItemId accountId charName itemSerial c]).find?
        (·.id = w.nextSealItemId) =
          some (sealRow w.nextSealItemId accountId charName itemSerial c) := by
      rw [List.find?_append,
        List.find?_eq_none.mpr fun r hr hr' => hid (List.any_eq_true.mpr ⟨r, hr, hr'⟩)]
      simp [sealRow]
    exact Option.bind_eq_some_iff.mpr ⟨_, hmapping, hitem⟩

end SealWorld

section

variable {α : Type*} {failing : Option SealCall} {call : SealCall} {w w' : SealWorld}
  {next : α → SealWorld → SealWorld × SealAnswer}

theorem query_failing {answer : Option (α × SealWorld)} (h : failing = some call) :
    query failing call w answer next = (w, .dbError) := if_pos h

theorem query_some {a : α} (h : failing ≠ some call) :
    query failing call w (some (a, w')) next = next a w' := if_neg h

theorem query_none : query failing call w none next = (w, .dbError) := by
  unfold query
  split_ifs <;> rfl

theorem execute_failing {next : SealWorld → SealWorld × SealAnswer} (h : failing = some call) :
    execute failing call w w' next = (w, .dbError) := if_pos h

theorem execute_ok {next : SealWorld → SealWorld × SealAnswer} (h : failing ≠ some call) :
    execute failing call w w' next = next w' := if_neg h

theorem fetch_failing {row : α} {next : α → SealWorld × SealAnswer} (h : failing = some call) :
    fetch failing call w row next = (w, .dbError) := if_pos h

theorem fetch_ok {row : α} {next : α → SealWorld × SealAnswer} (h : failing ≠ some call) :
    fetch failing call w row next = next row := if_neg h

end

/-- The calls of a scroll after which the character is still in its slot when they fail. -/
def SealCall.beforeRemoval : SealCall → Bool
  | .getAccountChars | .sealCharacter | .nextUniqueId | .createMapping | .loadTarget
  | .clearCharSlot => true
  | _ => false

section scroll

variable {failing : Option SealCall} {p : SealPlayer} {req : ScrollRequest} {w : SealWorld}

/-- Where the scroll's request saves a character: the character slot it goes on to clear, and the
state with the saved character. -/
def ScrollRequest.stores (req : ScrollRequest) (p : SealPlayer) (w : SealWorld) :
    Option (Fin 4 × ℤ × SealWorld) :=
  (req.check p w.inventory).bind fun (accountId, slot) =>
    (w.accountChar.bind (·.position req.targetName)).bind fun charSlotIdx =>
      (w.storeSeal accountId req.targetName (asI64 slot.serialNum)).map fun (uniqueId, w') =>
        (charSlotIdx, uniqueId, w')

theorem ScrollRequest.stores_eq_some {charSlotIdx : Fin 4} {uniqueId : ℤ} {w' : SealWorld} :
    req.stores p w = some (charSlotIdx, uniqueId, w') ↔
      ∃ accountId slot ac, req.check p w.inventory = some (accountId, slot) ∧
        w.accountChar = some ac ∧ ac.position req.targetName = some charSlotIdx ∧
        w.storeSeal accountId req.targetName (asI64 slot.serialNum) = some (uniqueId, w') := by
  simp only [stores, Option.bind_eq_some_iff, Option.map_eq_some_iff, Prod.exists, Prod.mk.injEq]
  constructor
  · rintro ⟨accountId, slot, hcheck, idx, ⟨ac, hac, hidx⟩, u, w', hstore, rfl, rfl, rfl⟩
    exact ⟨accountId, slot, ac, hcheck, hac, hidx, hstore⟩
  · rintro ⟨accountId, slot, ac, hcheck, hac, hidx, hstore⟩
    exact ⟨accountId, slot, hcheck, charSlotIdx, ⟨ac, hac, hidx⟩, uniqueId, w', hstore, rfl, rfl,
      rfl⟩

def ScrollRequest.sealedWorld (req : ScrollRequest) (charSlotIdx : Fin 4) (w : SealWorld) :
    SealWorld :=
  let w' := ((w.clearCharSlot charSlotIdx).deleteUserItems req.targetName).deleteUserData
    req.targetName
  { w' with inventory := becomeRing (SLOT_MAX + req.srcSlot) w'.inventory }

theorem sealTarget_of_none {accountId : List Char} {slot : UserItemSlot} {charSlotIdx : Fin 4}
    (h : w.storeSeal accountId req.targetName (asI64 slot.serialNum) = none) :
    ∃ w', sealTarget failing req accountId slot charSlotIdx w = (w', .dbError) ∧
      SealWorld.Stores w w' ∧ w'.sealMapping = w.sealMapping := by
  unfold sealTarget
  cases hseal : w.sealCharacter accountId req.targetName (asI64 slot.serialNum) with
  | none => exact ⟨w, query_none, .refl w, rfl⟩
  | some saved =>
    obtain ⟨sealId, w₁⟩ := saved
    have hw₁ := SealWorld.sealCharacter_stores hseal
    have hmap := SealWorld.sealCharacter_sealMapping hseal
    have hnone : w₁.takeUniqueId.createMapping w₁.newUniqueId sealId accountId = none := by
      simpa [SealWorld.storeSeal, hseal] using h
    by_cases h₁ : failing = some .sealCharacter
    · exact ⟨w, query_failing h₁, .refl w, rfl⟩
    rw [query_some h₁]
    by_cases h₂ : failing = some .nextUniqueId
    · exact ⟨w₁, query_failing h₂, hw₁, hmap⟩
    rw [query_some h₂]
    exact ⟨_, by rw [hnone, query_none], hw₁.trans (SealWorld.takeUniqueId_stores w₁), hmap⟩

theorem sealTarget_of_some {accountId : List Char} {slot : UserItemSlot} {charSlotIdx : Fin 4}
    {uniqueId : ℤ} {w' : SealWorld}
    (h : w.storeSeal accountId req.targetName (asI64 slot.serialNum) = some (uniqueId, w')) :
    ((failing = some .sealCharacter ∨ failing = some .nextUniqueId ∨
        failing = some .createMapping ∨ failing = some .loadTarget ∨
        failing = some .clearCharSlot) ∧
      ∃ w'', sealTarget failing req accountId slot charSlotIdx w = (w'', .dbError) ∧
        SealWorld.Stores w w'') ∨
    (failing = some .deleteUserItems ∧
      sealTarget failing req accountId slot charSlotIdx w =
        (w'.clearCharSlot charSlotIdx, .dbError)) ∨
    (failing = some .deleteUserData ∧
      sealTarget failing req accountId slot charSlotIdx w =
        ((w'.clearCharSlot charSlotIdx).deleteUserItems req.targetName, .dbError)) ∨
    ((∀ call, failing = some call → call.beforeRemoval = true → call = .getAccountChars) ∧
      failing ≠ some .deleteUserItems ∧ failing ≠ some .deleteUserData ∧
      ∃ classId level race, sealTarget failing req accountId slot charSlotIdx w =
        (req.sealedWorld charSlotIdx w',
          .sealed req.srcSlot (asU32 uniqueId) req.targetName classId level race)) := by
  obtain ⟨sealId, w₁, hseal, hu, hmap⟩ := SealWorld.storeSeal_eq_some h
  have hw₁ := SealWorld.sealCharacter_stores hseal
  have hw₂ := hw₁.trans (SealWorld.takeUniqueId_stores w₁)
  have hw' := hw₂.trans (SealWorld.createMapping_stores hmap)
  obtain ⟨c, hc, -⟩ := SealWorld.storeSeal_spec h
  have hload : w'.userdata req.targetName = some c := by rw [hw'.userdata, hc]
  unfold sealTarget
  rw [hseal]
  by_cases h₁ : failing = some .sealCharacter
  · exact Or.inl ⟨Or.inl h₁, w, query_failing h₁, .refl w⟩
  rw [query_some h₁]
  by_cases h₂ : failing = some .nextUniqueId
  · exact Or.inl ⟨Or.inr (Or.inl h₂), w₁, query_failing h₂, hw₁⟩
  rw [query_some h₂, hmap]
  by_cases h₃ : failing = some .createMapping
  · exact Or.inl ⟨Or.inr (Or.inr (Or.inl h₃)), _, query_failing h₃, hw₂⟩
  rw [query_some h₃]
  by_cases h₄ : failing = some .loadTarget
  · exact Or.inl ⟨Or.inr (Or.inr (Or.inr (Or.inl h₄))), w', fetch_failing h₄, hw'⟩
  rw [fetch_ok h₄, hload]
  by_cases h₅ : failing = some .clearCharSlot
  · exact Or.inl ⟨Or.inr (Or.inr (Or.inr (Or.inr h₅))), w', execute_failing h₅, hw'⟩
  rw [execute_ok h₅]
  by_cases h₆ : failing = some .deleteUserItems
  · exact Or.inr (Or.inl ⟨h₆, execute_failing h₆⟩)
  rw [execute_ok h₆]
  by_cases h₇ : failing = some .deleteUserData
  · exact Or.inr (Or.inr (Or.inl ⟨h₇, execute_failing h₇⟩))
  rw [execute_ok h₇]
  refine Or.inr (Or.inr (Or.inr ⟨?_, h₆, h₇, _, _, _, by rw [hu]; rfl⟩))
  rintro call rfl hbefore
  cases call <;> simp_all [SealCall.beforeRemoval]

/-- What a scroll's request leaves: it stops before the character is taken out of its slot, or one
of the deletions fails, or the scroll is a ring. -/
theorem handleUseScroll_cases (failing : Option SealCall) (p : SealPlayer) (req : ScrollRequest)
    (w : SealWorld) :
    (∃ w' answer, handleUseScroll failing p req w = (w', answer) ∧ SealWorld.Stores w w' ∧
      (answer = .scrollError ∨ answer = .dbError) ∧
      (req.stores p w = none ∧ w'.sealMapping = w.sealMapping ∨
        ∃ call, failing = some call ∧ call.beforeRemoval = true)) ∨
    (∃ charSlotIdx uniqueId w', req.stores p w = some (charSlotIdx, uniqueId, w') ∧
      (failing = some .deleteUserItems ∧
          handleUseScroll failing p req w = (w'.clearCharSlot charSlotIdx, .dbError) ∨
        failing = some .deleteUserData ∧
          handleUseScroll failing p req w =
            ((w'.clearCharSlot charSlotIdx).deleteUserItems req.targetName, .dbError) ∨
        (∀ call, failing = some call → call.beforeRemoval = false) ∧
          failing ≠ some .deleteUserItems ∧ failing ≠ some .deleteUserData ∧
          ∃ classId level race, handleUseScroll failing p req w =
            (req.sealedWorld charSlotIdx w',
              .sealed req.srcSlot (asU32 uniqueId) req.targetName classId level race))) := by
  have hstores : req.stores p w =
    (req.check p w.inventory).bind fun (accountId, slot) =>
      (w.accountChar.bind (·.position req.targetName)).bind fun charSlotIdx =>
        (w.storeSeal accountId req.targetName (asI64 slot.serialNum)).map fun (uniqueId, w') =>
          (charSlotIdx, uniqueId, w') := rfl
  unfold handleUseScroll
  cases hcheck : req.check p w.inventory with
  | none =>
    rw [hcheck] at hstores
    exact Or.inl ⟨w, _, rfl, .refl w, Or.inl rfl, Or.inl ⟨hstores, rfl⟩⟩
  | some found =>
    obtain ⟨accountId, slot⟩ := found
    simp only [hcheck, Option.bind_some] at hstores
    dsimp only
    by_cases h₀ : failing = some .getAccountChars
    · exact Or.inl ⟨w, _, fetch_failing h₀, .refl w, Or.inr rfl, Or.inr ⟨_, h₀, rfl⟩⟩
    rw [fetch_ok h₀]
    cases hidx : w.accountChar.bind (·.position req.targetName) with
    | none =>
      rw [hidx] at hstores
      exact Or.inl ⟨w, _, rfl, .refl w, Or.inl rfl, Or.inl ⟨hstores, rfl⟩⟩
    | some charSlotIdx =>
      simp only [hidx, Option.bind_some] at hstores
      cases hstore : w.storeSeal accountId req.targetName (asI64 slot.serialNum) with
      | none =>
        rw [hstore] at hstores
        obtain ⟨w', hw', hgrows, hmap⟩ := sealTarget_of_none hstore
        exact Or.inl ⟨w', _, hw', hgrows, Or.inr rfl, Or.inl ⟨hstores, hmap⟩⟩
      | some stored =>
        obtain ⟨uniqueId, w'⟩ := stored
        rw [hstore] at hstores
        rcases sealTarget_of_some hstore with
          ⟨hcall, w'', hw'', hgrows⟩ | h | h | ⟨hcall, h₆, h₇, classId, level, race, h⟩
        · refine Or.inl ⟨w'', _, hw'', hgrows, Or.inr rfl, Or.inr ?_⟩
          rcases hcall with h | h | h | h | h <;> exact ⟨_, h, rfl⟩
        · exact Or.inr ⟨_, _, _, hstores, Or.inl h⟩
        · exact Or.inr ⟨_, _, _, hstores, Or.inr (Or.inl h)⟩
        · refine Or.inr ⟨_, _, _, hstores, Or.inr (Or.inr ⟨?_, h₆, h₇, classId, level, race, h⟩)⟩
          intro call hfail
          by_contra hbefore
          exact h₀ (hcall call hfail (by simpa using hbefore) ▸ hfail)

end scroll

/-- The calls of a ring after which nothing has changed when they fail. -/
def SealCall.beforeRestore : SealCall → Bool
  | .getAccountChars | .getSealList | .loadSealItem | .unsealLoad | .insertUserData => true
  | _ => false

section ring

variable {failing : Option SealCall} {p : SealPlayer} {req : RingRequest} {w : SealWorld}

def RingRequest.target (req : RingRequest) (p : SealPlayer) (w : SealWorld) :
    Option (List Char × Fin 4) :=
  if h : HAVE_MAX ≤ req.srcSlot ∨ req.itemId ≠ ITEM_CYPHER_RING ∨ 4 ≤ req.targetSlot then none
  else
    have hslot : req.targetSlot < 4 := RingRequest.targetSlot_lt h
    if !req.holdsRing w.inventory then none
    else
      p.accountId.bind fun accountId =>
        w.accountChar.bind fun ac =>
          if ac.name ⟨req.targetSlot, hslot⟩ ≠ [] then none
          else some (accountId, ⟨req.targetSlot, hslot⟩)

/-- The character slot, the unique id and the sealed character of a ring's request that takes a
character out: the one of the account's first mapping. -/
def RingRequest.releases (req : RingRequest) (p : SealPlayer) (w : SealWorld) :
    Option (Fin 4 × ℤ × CharacterSealItemRow) :=
  (req.target p w).bind fun (accountId, slot) =>
    (w.getSealList accountId).head?.bind fun m =>
      (w.loadSealItemByUniqueId m.uniqueId).bind fun r =>
        if otherNation p (some r) || (w.userdata r.charName).isSome then none
        else some (slot, m.uniqueId, r)

theorem RingRequest.target_eq_some {accountId : List Char} {slot : Fin 4} :
    req.target p w = some (accountId, slot) ↔
      req.srcSlot < HAVE_MAX ∧ req.itemId = ITEM_CYPHER_RING ∧ req.targetSlot = slot ∧
        req.holdsRing w.inventory = true ∧ p.accountId = some accountId ∧
        ∃ ac, w.accountChar = some ac ∧ ac.name slot = [] := by
  unfold target
  split_ifs with hbad hring
  · simp only [false_iff]
    rintro ⟨hsrc, hitem, htarget, -⟩
    have := slot.isLt
    rcases hbad with h | h | h <;> omega
  · simp only [false_iff]
    rintro ⟨-, -, -, hholds, -⟩
    simp [hholds] at hring
  · push Not at hbad
    simp only [Option.bind_eq_some_iff, Option.ite_none_left_eq_some, Option.some.injEq,
      Prod.mk.injEq, not_not]
    constructor
    · rintro ⟨acct, hacct, ac, hac, hname, rfl, rfl⟩
      exact ⟨hbad.1, hbad.2.1, rfl, by simpa using hring, hacct, ac, hac, hname⟩
    · rintro ⟨-, -, htarget, -, hacct, ac, hac, hname⟩
      obtain rfl : (⟨req.targetSlot, hbad.2.2⟩ : Fin 4) = slot := Fin.ext htarget
      exact ⟨accountId, hacct, ac, hac, hname, rfl, rfl⟩

theorem RingRequest.releases_eq_some {slot : Fin 4} {uniqueId : ℤ} {r : CharacterSealItemRow} :
    req.releases p w = some (slot, uniqueId, r) ↔
      ∃ accountId m, req.target p w = some (accountId, slot) ∧
        (w.getSealList accountId).head? = some m ∧ m.uniqueId = uniqueId ∧
        w.loadSealItemByUniqueId uniqueId = some r ∧ otherNation p (some r) = false ∧
        w.userdata r.charName = none := by
  simp only [releases, Option.bind_eq_some_iff, Prod.exists, Option.ite_none_left_eq_some,
    Option.some.injEq, Prod.mk.injEq, Bool.or_eq_true, not_or, Bool.not_eq_true,
    Option.isSome_eq_false_iff, Option.isNone_iff_eq_none]
  constructor
  · rintro ⟨acct, slot, htarget, m, hm, r, hr, ⟨hnation, hfree⟩, rfl, rfl, rfl⟩
    exact ⟨acct, m, htarget, hm, rfl, hr, hnation, hfree⟩
  · rintro ⟨acct, m, htarget, hm, rfl, hr, hnation, hfree⟩
    exact ⟨acct, slot, htarget, m, hm, r, hr, ⟨hnation, hfree⟩, rfl, rfl, rfl⟩

def SealWorld.withUserData (r : CharacterSealItemRow) (w : SealWorld) : SealWorld :=
  { w with userdata := Function.update w.userdata r.charName (some (unsealRow r)) }

def RingRequest.restoredWorld (req : RingRequest) (slot : Fin 4) (uniqueId : ℤ)
    (r : CharacterSealItemRow) (w : SealWorld) : SealWorld :=
  let w' := ((w.withUserData r).updateCharSlot slot r.charName).deleteSeal uniqueId
  { w' with inventory := clearRing (SLOT_MAX + req.srcSlot) w'.inventory }

theorem unsealCharacter_of_none {uniqueId : ℤ} {slot : Fin 4}
    {next : Bool → SealWorld → SealWorld × SealAnswer}
    (h : w.loadSealItemByUniqueId uniqueId = none) :
    unsealCharacter failing uniqueId slot w next = (w, .dbError) ∨
      unsealCharacter failing uniqueId slot w next = next false w := by
  unfold unsealCharacter
  by_cases h₁ : failing = some .unsealLoad
  · exact Or.inl (fetch_failing h₁)
  · rw [fetch_ok h₁, h]
    exact Or.inr rfl

theorem unsealCharacter_of_taken {uniqueId : ℤ} {slot : Fin 4} {r : CharacterSealItemRow}
    {next : Bool → SealWorld → SealWorld × SealAnswer}
    (h : w.loadSealItemByUniqueId uniqueId = some r) (htaken : w.userdata r.charName ≠ none) :
    unsealCharacter failing uniqueId slot w next = (w, .dbError) := by
  unfold unsealCharacter
  by_cases h₁ : failing = some .unsealLoad
  · exact fetch_failing h₁
  · obtain ⟨c, hc⟩ := Option.ne_none_iff_exists'.mp htaken
    have hnone : w.insertUserData r = none := by
      unfold SealWorld.insertUserData
      rw [hc]
    rw [fetch_ok h₁, h]
    dsimp only
    rw [hnone, query_none]

theorem unsealCharacter_of_free {uniqueId : ℤ} {slot : Fin 4} {r : CharacterSealItemRow}
    {next : Bool → SealWorld → SealWorld × SealAnswer}
    (h : w.loadSealItemByUniqueId uniqueId = some r) (hfree : w.userdata r.charName = none) :
    ((failing = some .unsealLoad ∨ failing = some .insertUserData) ∧
      unsealCharacter failing uniqueId slot w next = (w, .dbError)) ∨
    (failing = some .updateCharSlot ∧
      unsealCharacter failing uniqueId slot w next = (w.withUserData r, .dbError)) ∨
    (failing = some .deleteSeal ∧ unsealCharacter failing uniqueId slot w next =
      ((w.withUserData r).updateCharSlot slot r.charName, .dbError)) ∨
    ((failing ≠ some .unsealLoad ∧ failing ≠ some .insertUserData ∧
        failing ≠ some .updateCharSlot ∧ failing ≠ some .deleteSeal) ∧
      unsealCharacter failing uniqueId slot w next =
        next true (((w.withUserData r).updateCharSlot slot r.charName).deleteSeal uniqueId)) := by
  have hinsert : w.insertUserData r = some ((), w.withUserData r) := by
    unfold SealWorld.insertUserData
    rw [hfree]
    rfl
  unfold unsealCharacter
  by_cases h₁ : failing = some .unsealLoad
  · exact Or.inl ⟨Or.inl h₁, fetch_failing h₁⟩
  rw [fetch_ok h₁, h]
  dsimp only
  rw [hinsert]
  by_cases h₂ : failing = some .insertUserData
  · exact Or.inl ⟨Or.inr h₂, query_failing h₂⟩
  rw [query_some h₂]
  by_cases h₃ : failing = some .updateCharSlot
  · exact Or.inr (Or.inl ⟨h₃, execute_failing h₃⟩)
  rw [execute_ok h₃]
  by_cases h₄ : failing = some .deleteSeal
  · exact Or.inr (Or.inr (Or.inl ⟨h₄, execute_failing h₄⟩))
  rw [execute_ok h₄]
  exact Or.inr (Or.inr (Or.inr ⟨⟨h₁, h₂, h₃, h₄⟩, rfl⟩))

/-- The first mapping's character may be released: everything up to its row is in order. -/
theorem useRingIn_cases (failing : Option SealCall) (p : SealPlayer) (req : RingRequest)
    (accountId : List Char) (slot : Fin 4) (w : SealWorld)
    (hcall : failing ≠ some .getAccountChars) :
    let released := (w.getSealList accountId).head?.bind fun m =>
      (w.loadSealItemByUniqueId m.uniqueId).bind fun r =>
        if otherNation p (some r) || (w.userdata r.charName).isSome then none
        else some (slot, m.uniqueId, r)
    ((released = none ∨ ∃ call, failing = some call ∧ call.beforeRestore = true) ∧
      ∃ answer, useRingIn failing p req accountId slot w = (w, answer) ∧
        (answer = .ringError 0 ∨ answer = .dbError)) ∨
    (∃ uniqueId r, released = some (slot, uniqueId, r) ∧
      (failing = some .updateCharSlot ∧
          useRingIn failing p req accountId slot w = (w.withUserData r, .dbError) ∨
        failing = some .deleteSeal ∧ useRingIn failing p req accountId slot w =
          ((w.withUserData r).updateCharSlot slot r.charName, .dbError) ∨
        (∀ call, failing = some call → call.beforeRestore = false) ∧
          failing ≠ some .updateCharSlot ∧ failing ≠ some .deleteSeal ∧
          useRingIn failing p req accountId slot w =
            (req.restoredWorld slot uniqueId r w, .restored req.srcSlot))) := by
  intro released
  unfold useRingIn
  by_cases h₁ : failing = some .getSealList
  · exact Or.inl ⟨Or.inr ⟨_, h₁, rfl⟩, _, fetch_failing h₁, Or.inr rfl⟩
  rw [fetch_ok h₁]
  cases hm : (w.getSealList accountId).head? with
  | none => exact Or.inl ⟨Or.inl (by simp [released, hm]), _, rfl, Or.inl rfl⟩
  | some m =>
    dsimp only
    by_cases h₂ : failing = some .loadSealItem
    · exact Or.inl ⟨Or.inr ⟨_, h₂, rfl⟩, _, fetch_failing h₂, Or.inr rfl⟩
    rw [fetch_ok h₂]
    cases hr : w.loadSealItemByUniqueId m.uniqueId with
    | none =>
      refine Or.inl ⟨Or.inl (by simp [released, hm, hr]), ?_⟩
      rw [if_neg (show ¬otherNation p none = true from Bool.false_ne_true)]
      rcases unsealCharacter_of_none hr with h | h
      · exact ⟨_, h, Or.inr rfl⟩
      · exact ⟨_, h, Or.inl rfl⟩
    | some r =>
      by_cases hnation : otherNation p (some r) = true
      · exact Or.inl ⟨Or.inl (by simp [released, hm, hr, hnation]), _, if_pos hnation, Or.inl rfl⟩
      rw [if_neg hnation]
      by_cases hfree : w.userdata r.charName = none
      · have hreleased : released = some (slot, m.uniqueId, r) := by
          simp [released, hm, hr, hnation, hfree]
        rcases unsealCharacter_of_free hr hfree with
          ⟨hcalls, h⟩ | ⟨h₃, h⟩ | ⟨h₄, h⟩ | ⟨⟨h₃, h₄, h₅, h₆⟩, h⟩
        · refine Or.inl ⟨Or.inr ?_, _, h, Or.inr rfl⟩
          rcases hcalls with h | h <;> exact ⟨_, h, rfl⟩
        · exact Or.inr ⟨_, _, hreleased, Or.inl ⟨h₃, h⟩⟩
        · exact Or.inr ⟨_, _, hreleased, Or.inr (Or.inl ⟨h₄, h⟩)⟩
        · refine Or.inr ⟨_, _, hreleased, Or.inr (Or.inr ⟨?_, h₅, h₆, h⟩)⟩
          rintro call rfl
          cases call <;> simp_all [SealCall.beforeRestore]
      · refine Or.inl ⟨Or.inl ?_, _, unsealCharacter_of_taken hr hfree, Or.inr rfl⟩
        simp [released, hm, hr, Option.isSome_iff_ne_none.mpr hfree]

/-- What a ring's request leaves: nothing has changed, or the row is back without the slot, or the
character is in its slot with its seal still there, or it is restored. -/
theorem handleUseRing_cases (failing : Option SealCall) (p : SealPlayer) (req : RingRequest)
    (w : SealWorld) :
    ((req.releases p w = none ∨ ∃ call, failing = some call ∧ call.beforeRestore = true) ∧
      ∃ answer, handleUseRing failing p req w = (w, answer) ∧
        (answer = .silent ∨ (∃ code, answer = .ringError code) ∨ answer = .dbError)) ∨
    (∃ slot uniqueId r, req.releases p w = some (slot, uniqueId, r) ∧
      (failing = some .updateCharSlot ∧
          handleUseRing failing p req w = (w.withUserData r, .dbError) ∨
        failing = some .deleteSeal ∧ handleUseRing failing p req w =
          ((w.withUserData r).updateCharSlot slot r.charName, .dbError) ∨
        (∀ call, failing = some call → call.beforeRestore = false) ∧
          failing ≠ some .updateCharSlot ∧ failing ≠ some .deleteSeal ∧
          handleUseRing failing p req w =
            (req.restoredWorld slot uniqueId r w, .restored req.srcSlot))) := by
  have hnone : req.target p w = none → req.releases p w = none := by
    intro h
    unfold RingRequest.releases
    rw [h]
    rfl
  unfold RingRequest.target at hnone
  unfold handleUseRing
  split_ifs at hnone ⊢ with hbad hring
  · exact Or.inl ⟨Or.inl (hnone rfl), _, rfl, Or.inl rfl⟩
  · exact Or.inl ⟨Or.inl (hnone rfl), _, rfl, Or.inr (Or.inl ⟨0, rfl⟩)⟩
  · cases hacct : p.accountId with
    | none => exact Or.inl ⟨Or.inl (hnone (by simp [hacct])), _, rfl, Or.inr (Or.inl ⟨0, rfl⟩)⟩
    | some accountId =>
      dsimp only
      by_cases h₀ : failing = some .getAccountChars
      · exact Or.inl ⟨Or.inr ⟨_, h₀, rfl⟩, _, fetch_failing h₀, Or.inr (Or.inr rfl)⟩
      rw [fetch_ok h₀]
      cases hac : w.accountChar with
      | none =>
        exact Or.inl ⟨Or.inl (hnone (by simp [hacct, hac])), _, rfl, Or.inr (Or.inl ⟨0, rfl⟩)⟩
      | some ac =>
        dsimp only
        split_ifs with hname
        · exact Or.inl ⟨Or.inl (hnone (by simp [hacct, hac, hname])), _, rfl,
            Or.inr (Or.inl ⟨3, rfl⟩)⟩
        · push Not at hbad
          have htarget : req.target p w = some (accountId, ⟨req.targetSlot, hbad.2.2⟩) :=
            RingRequest.target_eq_some.mpr ⟨hbad.1, hbad.2.1, rfl, by simpa using hring, hacct, ac,
              hac, by simpa using hname⟩
          have hreleases : req.releases p w = (w.getSealList accountId).head?.bind fun m =>
              (w.loadSealItemByUniqueId m.uniqueId).bind fun r =>
                if otherNation p (some r) || (w.userdata r.charName).isSome then none
                else some (⟨req.targetSlot, hbad.2.2⟩, m.uniqueId, r) := by
            unfold RingRequest.releases
            rw [htarget]
            rfl
          rcases useRingIn_cases failing p req accountId ⟨req.targetSlot, hbad.2.2⟩ w h₀ with
            ⟨hstop, answer, h, hanswer⟩ | ⟨uniqueId, r, hreleased, h⟩
          · refine Or.inl ⟨hreleases ▸ hstop, answer, h, ?_⟩
            rcases hanswer with rfl | rfl
            · exact Or.inr (Or.inl ⟨0, rfl⟩)
            · exact Or.inr (Or.inr rfl)
          · exact Or.inr ⟨_, uniqueId, r, hreleases.trans hreleased, h⟩

end ring

end KoServer
