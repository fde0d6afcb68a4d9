import KoServer.Proofs.CharacterSeal
import KoServer.Lib.Rows
import KoServer.Lib.Run
import Mathlib.Data.Fintype.Basic
import Mathlib.Tactic.FinCases

/-! Sealed characters over runs of scrolls and rings. A history keeps beside the tables which
character each ring of the bag was made of. -/

namespace KoServer

structure SealedCharacter where
  name : List Char
  data : UserData
  items : List UserItemSlot

/-- The row without the zone the character stands in. -/
def UserData.placeless (d : UserData) : UserData := { d with zone := 0 }

def SealedCharacter.Same (c c' : SealedCharacter) : Prop :=
  c.name = c'.name ∧ c.data.placeless = c'.data.placeless ∧ c.items = c'.items

theorem SealedCharacter.Same.refl (c : SealedCharacter) : c.Same c := ⟨rfl, rfl, rfl⟩

/-- A character that a seal saves whole: it owns nothing, has no rebirth points, and its nation is
the other one than its class says. -/
structure SealedCharacter.Plain (c : SealedCharacter) : Prop where
  nation : c.data.nation = if c.data.classId.tdiv 100 = 1 then 2 else 1
  rebStr : c.data.rebStr = 0
  rebSta : c.data.rebSta = 0
  rebDex : c.data.rebDex = 0
  rebIntel : c.data.rebIntel = 0
  rebCha : c.data.rebCha = 0
  items : c.items = []

def CharacterSealItemRow.Saves (r : CharacterSealItemRow) (c : SealedCharacter) : Prop :=
  ∃ id accountId itemSerial, r = sealRow id accountId c.name itemSerial c.data

theorem CharacterSealItemRow.Saves.charName {r : CharacterSealItemRow} {c : SealedCharacter}
    (h : r.Saves c) : r.charName = c.name := by
  obtain ⟨_, _, _, rfl⟩ := h
  rfl

theorem CharacterSealItemRow.Saves.placeless_iff {r : CharacterSealItemRow} {c : SealedCharacter}
    (h : r.Saves c) :
    (unsealRow r).placeless = c.data.placeless ∧ ([] : List UserItemSlot) = c.items ↔ c.Plain := by
  obtain ⟨_, _, _, rfl⟩ := h
  rw [unsealRow_sealRow]
  constructor
  · rintro ⟨hdata, hitems⟩
    simp only [UserData.placeless, UserData.mk.injEq, and_true, true_and] at hdata
    obtain ⟨hnation, h₁, h₂, h₃, h₄, h₅⟩ := hdata
    exact ⟨hnation.symm, h₁.symm, h₂.symm, h₃.symm, h₄.symm, h₅.symm, hitems.symm⟩
  · rintro ⟨hnation, h₁, h₂, h₃, h₄, h₅, hitems⟩
    simp only [UserData.placeless, UserData.mk.injEq, and_true, true_and]
    exact ⟨⟨hnation.symm, h₁.symm, h₂.symm, h₃.symm, h₄.symm, h₅.symm⟩, hitems.symm⟩

namespace SealWorld

variable (w : SealWorld)

def charName (slot : Fin 4) : Option (List Char) := w.accountChar.bind (·.strCharId slot)

def InSlot (c : SealedCharacter) : Prop :=
  ∃ slot d, w.charName slot = some c.name ∧ w.userdata c.name = some d ∧
    d.placeless = c.data.placeless ∧ w.userItems c.name = c.items

def RingInBag (k : ℕ) : Prop :=
  k < HAVE_MAX ∧ ∃ slot, w.inventory[SLOT_MAX + k]? = some slot ∧ slot.itemId = ITEM_CYPHER_RING

def Recorded (p : SealPlayer) (c : SealedCharacter) : Prop :=
  ∃ m ∈ w.sealMapping, p.accountId = some m.accountId ∧
    ∃ r, w.loadSealItemByUniqueId m.uniqueId = some r ∧ r.Saves c

end SealWorld

structure SealHistory where
  world : SealWorld
  /-- The character that was sealed by the scroll which became the ring in a bag slot. -/
  made : ℕ → Option SealedCharacter

namespace SealHistory

def next (h : SealHistory) (result : SealWorld × SealAnswer) : SealHistory where
  world := result.1
  made :=
    match result.2 with
    | .sealed srcSlot _ name _ _ _ =>
      Function.update h.made srcSlot
        ((h.world.userdata name).map fun d => ⟨name, d, h.world.userItems name⟩)
    | .restored srcSlot => Function.update h.made srcSlot none
    | _ => h.made

def step (failing : Option SealCall) (p : SealPlayer) (h : SealHistory)
    (req : CharacterSealRequest) : SealHistory :=
  h.next (handleSeal failing p h.world req)

variable (p : SealPlayer) (h : SealHistory)

def InRing (c : SealedCharacter) : Prop :=
  ∃ k c', h.made k = some c' ∧ c'.Same c ∧ h.world.RingInBag k ∧ h.world.Recorded p c' ∧
    h.world.userdata c.name = none

def Accounted (c : SealedCharacter) : Prop := h.world.InSlot c ∨ h.InRing p c

/-- No character is in two places. -/
structure NoTwice : Prop where
  slots : ∀ slot slot' name, h.world.charName slot = some name →
    h.world.charName slot' = some name → slot = slot'
  rings : ∀ k k' c c', h.made k = some c → h.made k' = some c' → c.name = c'.name → k = k'
  apart : ∀ k c slot, h.made k = some c → h.world.charName slot ≠ some c.name

/-- The account's tables and the rings of the bag belong together. -/
structure Orderly : Prop extends h.NoTwice where
  rows : ∀ slot name, h.world.charName slot = some name →
    name ≠ [] ∧ (h.world.userdata name).isSome
  items : ∀ name, h.world.userdata name = none → h.world.userItems name = []
  uniqueIds : (h.world.sealMapping.map (·.uniqueId)).Nodup
  made_ring : ∀ k c, h.made k = some c → c.name ≠ [] ∧ h.world.RingInBag k ∧
    h.world.Recorded p c ∧ h.world.userdata c.name = none
  ring_made : ∀ k, h.world.RingInBag k → (h.made k).isSome
  owned : ∀ m ∈ h.world.sealMapping, p.accountId = some m.accountId →
    ∃ r k c, h.world.loadSealItemByUniqueId m.uniqueId = some r ∧ h.made k = some c ∧ r.Saves c
  once : ∀ m ∈ h.world.sealMapping, ∀ m' ∈ h.world.sealMapping, p.accountId = some m.accountId →
    p.accountId = some m'.accountId → ∀ r r', h.world.loadSealItemByUniqueId m.uniqueId = some r →
      h.world.loadSealItemByUniqueId m'.uniqueId = some r' → r.charName = r'.charName → m = m'

/-- A ring's request puts the character into the slot it names, which was empty, with the class,
the nation, the level, the stats, the gold and the items it had, and takes that ring. -/
def Returns (h h' : SealHistory) (req : RingRequest) (c : SealedCharacter) : Prop :=
  ∃ slot : Fin 4, req.targetSlot = slot ∧ (h.world.charName slot).getD [] = [] ∧
    (∀ slot', h'.world.charName slot' =
      if slot' = slot then some c.name else h.world.charName slot') ∧
    (∃ d, h'.world.userdata c.name = some d ∧ d.classId = c.data.classId ∧
      d.nation = c.data.nation ∧ d.level = c.data.level ∧
      (d.strong, d.sta, d.dex, d.intel, d.cha, d.freePoints) =
        (c.data.strong, c.data.sta, c.data.dex, c.data.intel, c.data.cha, c.data.freePoints) ∧
      (d.rebStr, d.rebSta, d.rebDex, d.rebIntel, d.rebCha) =
        (c.data.rebStr, c.data.rebSta, c.data.rebDex, c.data.rebIntel, c.data.rebCha) ∧
      d.gold = c.data.gold) ∧
    h'.world.userItems c.name = c.items ∧ h.world.RingInBag req.srcSlot ∧
    h'.world.inventory = clearRing (SLOT_MAX + req.srcSlot) h.world.inventory

def Survives (failing : Option SealCall) (req : CharacterSealRequest) : Prop :=
  ∀ c, h.Accounted p c → (h.step failing p req).Accounted p c

structure Keeps (req : CharacterSealRequest) : Prop where
  restores : ∀ ring srcSlot, req = .useRing ring →
    (handleSeal none p h.world req).2 = .restored srcSlot →
      ∃ c, h.made ring.srcSlot = some c ∧ h.Returns (h.step none p req) ring c
  survives : h.Survives p none req
  noTwice : (h.step none p req).NoTwice

/-- A scroll spells the character's name as its slot does. The ring that is used is the one of the
account's first mapping, and its character plain. A call that fails is none of those between which
a character is neither in its slot nor in its ring. -/
def Safe (failing : Option SealCall) : CharacterSealRequest → Prop
  | .useScroll req => ∀ slot uniqueId w', req.stores p h.world = some (slot, uniqueId, w') →
      (∃ call, failing = some call ∧ call.beforeRemoval = true) ∨
        failing ≠ some .deleteUserItems ∧ failing ≠ some .deleteUserData ∧
          h.world.charName slot = some req.targetName
  | .useRing req => ∀ slot uniqueId r, req.releases p h.world = some (slot, uniqueId, r) →
      (∃ call, failing = some call ∧ call.beforeRestore = true) ∨
        failing ≠ some .updateCharSlot ∧ ∃ k c, h.made k = some c ∧ c.name = r.charName ∧
          c.Plain ∧ (failing ≠ some .deleteSeal → k = req.srcSlot)

end SealHistory

namespace SealWorld

variable {w w' : SealWorld} {p : SealPlayer} {c : SealedCharacter}

theorem charName_clearCharSlot (slot slot' : Fin 4) :
    (w.clearCharSlot slot).charName slot' = if slot' = slot then none else w.charName slot' := by
  unfold charName clearCharSlot
  cases w.accountChar with
  | none => split_ifs <;> rfl
  | some ac => exact Function.update_apply ..

theorem charName_updateCharSlot {ac : AccountCharRow} (hac : w.accountChar = some ac)
    (name : List Char) (slot slot' : Fin 4) :
    (w.updateCharSlot slot name).charName slot' =
      if slot' = slot then some name else w.charName slot' := by
  unfold charName updateCharSlot
  rw [hac]
  exact Function.update_apply ..

theorem Stores.charName (hw : Stores w w') (slot : Fin 4) : w'.charName slot = w.charName slot := by
  unfold SealWorld.charName
  rw [hw.accountChar]

theorem Stores.recorded (hw : Stores w w') (h : w.Recorded p c) : w'.Recorded p c := by
  obtain ⟨m, hm, hacct, r, hr, hsaves⟩ := h
  obtain ⟨rows, hrows⟩ := hw.mappings
  exact ⟨m, hrows ▸ List.mem_append_left _ hm, hacct, r, hw.load hr, hsaves⟩

theorem Stores.ringInBag (hw : Stores w w') {k : ℕ} : w'.RingInBag k ↔ w.RingInBag k := by
  unfold RingInBag
  rw [hw.inventory]

theorem ringInBag_modify {f : UserItemSlot → UserItemSlot} {k k' : ℕ} (hk : k' ≠ k) {w : SealWorld} :
    { w with inventory := w.inventory.modify (SLOT_MAX + k) f }.RingInBag k' ↔ w.RingInBag k' := by
  unfold RingInBag
  dsimp only
  rw [List.getElem?_modify_ne f _ (by omega)]

theorem deleteSeal_tables {m : CharacterSealMappingRow} (hm : m ∈ w.sealMapping)
    (hnodup : (w.sealMapping.map (·.uniqueId)).Nodup) :
    (w.deleteSeal m.uniqueId).sealMapping = w.sealMapping.filter (·.sealItemId ≠ m.sealItemId) ∧
      (w.deleteSeal m.uniqueId).sealItems = w.sealItems.filter (·.id ≠ m.sealItemId) := by
  have hfound : w.sealMapping.find? (·.uniqueId = m.uniqueId) = some m :=
    Rows.find?_of_key hnodup hm
  unfold deleteSeal
  rw [hfound]
  exact ⟨rfl, rfl⟩

theorem load_deleteSeal {m m' : CharacterSealMappingRow} (hm : m ∈ w.sealMapping)
    (hm' : m' ∈ w.sealMapping) (hnodup : (w.sealMapping.map (·.uniqueId)).Nodup)
    (hne : m'.sealItemId ≠ m.sealItemId) :
    (w.deleteSeal m.uniqueId).loadSealItemByUniqueId m'.uniqueId =
      w.loadSealItemByUniqueId m'.uniqueId := by
  obtain ⟨hmaps, hitems⟩ := deleteSeal_tables hm hnodup
  have hfound : w.sealMapping.find? (·.uniqueId = m'.uniqueId) = some m' :=
    Rows.find?_of_key hnodup hm'
  have hkept : (w.sealMapping.filter (·.sealItemId ≠ m.sealItemId)).find?
      (·.uniqueId = m'.uniqueId) = some m' :=
    Rows.find?_of_key (hnodup.sublist (List.Sublist.map _ List.filter_sublist))
      (List.mem_filter.mpr ⟨hm', by simpa using hne⟩)
  unfold loadSealItemByUniqueId
  rw [hmaps, hkept, hfound, Option.bind_some, Option.bind_some, hitems, List.find?_filter]
  congr 1
  funext r
  by_cases hr : r.id = m'.sealItemId
  · simp [hr, hne]
  · simp [hr]

end SealWorld

namespace SealHistory

variable {p : SealPlayer} {h : SealHistory}

theorem Orderly.inSlot (ho : h.Orderly p) {slot : Fin 4} {name : List Char}
    (hslot : h.world.charName slot = some name) : ∃ c, c.name = name ∧ h.world.InSlot c := by
  obtain ⟨d, hd⟩ := Option.isSome_iff_exists.mp (ho.rows slot name hslot).2
  exact ⟨⟨name, d, h.world.userItems name⟩, rfl, slot, d, hslot, hd, rfl, rfl⟩

theorem not_accounted {c : SealedCharacter}
    (hslot : ∀ slot, h.world.charName slot ≠ some c.name)
    (hmade : ∀ k c', h.made k = some c' → c'.name = c.name → h.world.userdata c.name ≠ none) :
    ¬h.Accounted p c := by
  rintro (⟨slot, d, hname, -⟩ | ⟨k, c', hk, hsame, -, -, hfree⟩)
  · exact hslot slot hname
  · exact hmade k c' hk hsame.1 hfree

theorem accounted_of_stores {w' : SealWorld} (hw : SealWorld.Stores h.world w')
    {c : SealedCharacter} (hc : h.Accounted p c) : Accounted p ⟨w', h.made⟩ c := by
  rcases hc with ⟨slot, d, hname, hd, hdata, hitems⟩ | ⟨k, c', hk, hsame, hring, hrec, hfree⟩
  · refine Or.inl ⟨slot, d, ?_, ?_, hdata, ?_⟩
    · exact (hw.charName slot).trans hname
    · exact (congrFun hw.userdata _).trans hd
    · exact (congrFun hw.userItems _).trans hitems
  · refine Or.inr ⟨k, c', hk, hsame, hw.ringInBag.mpr hring, hw.recorded hrec, ?_⟩
    exact (congrFun hw.userdata _).trans hfree

/-- Rows of `character_seal_items` without a mapping change nothing. -/
theorem Orderly.of_stores {w' : SealWorld} (ho : h.Orderly p) (hw : SealWorld.Stores h.world w')
    (hmap : w'.sealMapping = h.world.sealMapping) : Orderly p ⟨w', h.made⟩ := by
  have hname : ∀ slot, w'.charName slot = h.world.charName slot := hw.charName
  -- The mappings have their seals, and keep them.
  have hload : ∀ m ∈ w'.sealMapping, p.accountId = some m.accountId → ∀ r,
      w'.loadSealItemByUniqueId m.uniqueId = some r →
        h.world.loadSealItemByUniqueId m.uniqueId = some r := by
    intro m hm hacct r hr
    obtain ⟨r', k, c, hr', -⟩ := ho.owned m (hmap ▸ hm) hacct
    rw [hw.load hr'] at hr
    rw [hr', hr]
  exact
    { slots := fun slot slot' n hslot hslot' =>
        ho.slots slot slot' n ((hname slot).symm.trans hslot) ((hname slot').symm.trans hslot')
      rings := ho.rings
      apart := fun k c slot hk hslot => ho.apart k c slot hk ((hname slot).symm.trans hslot)
      rows := fun slot n hslot => by
        rw [hw.userdata]
        exact ho.rows slot n ((hname slot).symm.trans hslot)
      items := fun n hn => by
        rw [hw.userItems]
        rw [hw.userdata] at hn
        exact ho.items n hn
      uniqueIds := by
        rw [hmap]
        exact ho.uniqueIds
      made_ring := fun k c hk => by
        obtain ⟨hne, hring, hrec, hfree⟩ := ho.made_ring k c hk
        refine ⟨hne, hw.ringInBag.mpr hring, hw.recorded hrec, ?_⟩
        rw [hw.userdata]
        exact hfree
      ring_made := fun k hring => ho.ring_made k (hw.ringInBag.mp hring)
      owned := fun m hm hacct => by
        obtain ⟨r, k, c, hr, hk, hsaves⟩ := ho.owned m (hmap ▸ hm) hacct
        exact ⟨r, k, c, hw.load hr, hk, hsaves⟩
      once := fun m hm m' hm' hacct hacct' r r' hr hr' heq =>
        ho.once m (hmap ▸ hm) m' (hmap ▸ hm') hacct hacct' r r' (hload m hm hacct r hr)
          (hload m' hm' hacct' r' hr') heq }

theorem check_eq_some {req : ScrollRequest} {inv : Inventory} {accountId : List Char}
    {slot : UserItemSlot} (hcheck : req.check p inv = some (accountId, slot)) :
    req.targetName ≠ [] ∧ req.srcSlot < HAVE_MAX ∧ inv[SLOT_MAX + req.srcSlot]? = some slot ∧
      slot.itemId = ITEM_SEAL_SCROLL ∧ p.accountId = some accountId := by
  unfold ScrollRequest.check at hcheck
  split_ifs at hcheck with hname hpass hsrc
  cases hslot : inv[SLOT_MAX + req.srcSlot]? with
  | none => simp [hslot] at hcheck
  | some slot' =>
    simp only [hslot] at hcheck
    split_ifs at hcheck with hitem
    obtain ⟨acct, hacct, heq⟩ := Option.map_eq_some_iff.mp hcheck
    obtain ⟨rfl, rfl⟩ := Prod.mk.inj heq
    push Not at hname hsrc
    exact ⟨hname.1, hsrc, rfl, hitem.1, hacct⟩

theorem position_eq_some {ac : AccountCharRow} {targetName : List Char} {slot : Fin 4}
    (hpos : ac.position targetName = some slot) (hne : targetName ≠ []) :
    ∃ name, ac.strCharId slot = some name := by
  unfold AccountCharRow.position at hpos
  have hname := List.find?_some hpos
  cases hslot : ac.strCharId slot with
  | some name => exact ⟨name, rfl⟩
  | none =>
    have hempty : ac.name slot = [] := by
      unfold AccountCharRow.name
      rw [hslot]
      rfl
    rw [hempty] at hname
    simp [eqIgnoreAsciiCase] at hname
    exact absurd hname.symm (by simpa using hne)

/-- A scroll whose character is saved: the slot that is cleared, the character with what it has,
and what was stored. -/
structure Seals (p : SealPlayer) (h : SealHistory) (req : ScrollRequest) (slot : Fin 4)
    (uniqueId : ℤ) (w' : SealWorld) (name : List Char) (d : UserData) : Prop where
  stores : SealWorld.Stores h.world w'
  slotName : h.world.charName slot = some name
  data : h.world.userdata req.targetName = some d
  target : req.targetName ≠ []
  srcSlot : req.srcSlot < HAVE_MAX
  scroll : ∃ s, h.world.inventory[SLOT_MAX + req.srcSlot]? = some s ∧ s.itemId = ITEM_SEAL_SCROLL
  fresh : ∀ m ∈ h.world.sealMapping, m.uniqueId ≠ uniqueId
  mapping : ∃ m, w'.sealMapping = h.world.sealMapping ++ [m] ∧ m.uniqueId = uniqueId ∧
    p.accountId = some m.accountId
  saved : ∃ r, w'.loadSealItemByUniqueId uniqueId = some r ∧
    ∀ items, r.Saves ⟨req.targetName, d, items⟩

theorem seals_of_stores {req : ScrollRequest} {slot : Fin 4} {uniqueId : ℤ} {w' : SealWorld}
    (hstores : req.stores p h.world = some (slot, uniqueId, w')) :
    ∃ name d, h.Seals p req slot uniqueId w' name d := by
  obtain ⟨accountId, item, ac, hcheck, hac, hpos, hstore⟩ :=
    ScrollRequest.stores_eq_some.mp hstores
  obtain ⟨hne, hsrc, hitem, hscroll, hacct⟩ := check_eq_some hcheck
  obtain ⟨name, hname⟩ := position_eq_some hpos hne
  obtain ⟨d, hd, hfresh, hmap, hload⟩ := SealWorld.storeSeal_spec hstore
  refine ⟨name, d, ?_⟩
  exact
    { stores := SealWorld.storeSeal_stores hstore
      slotName := by
        unfold SealWorld.charName
        rw [hac]
        exact hname
      data := hd
      target := hne
      srcSlot := hsrc
      scroll := ⟨item, hitem, hscroll⟩
      fresh := hfresh
      mapping := ⟨_, hmap, rfl, hacct⟩
      saved := ⟨_, hload, fun items => ⟨_, _, _, rfl⟩⟩ }

section

variable {req : ScrollRequest} {slot : Fin 4} {uniqueId : ℤ} {w' : SealWorld} {name : List Char}
  {d : UserData}

theorem Seals.made_eq_none (hs : h.Seals p req slot uniqueId w' name d) (ho : h.Orderly p) :
    h.made req.srcSlot = none := by
  cases hmade : h.made req.srcSlot with
  | none => rfl
  | some c =>
    obtain ⟨-, ⟨-, item, hitem, hring⟩, -⟩ := ho.made_ring _ _ hmade
    obtain ⟨item', hitem', hscroll⟩ := hs.scroll
    rw [hitem] at hitem'
    obtain rfl := Option.some.inj hitem'
    rw [hring] at hscroll
    exact absurd hscroll (by decide)

theorem Seals.made_ne (hs : h.Seals p req slot uniqueId w' name d) (ho : h.Orderly p) {k : ℕ}
    {c : SealedCharacter} (hmade : h.made k = some c) : c.name ≠ req.targetName := by
  intro heq
  have hfree := (ho.made_ring k c hmade).2.2.2
  rw [heq, hs.data] at hfree
  cases hfree

def sealed (h : SealHistory) (req : ScrollRequest) (slot : Fin 4) (w' : SealWorld) (d : UserData) :
    SealHistory where
  world := req.sealedWorld slot w'
  made := Function.update h.made req.srcSlot
    (some ⟨req.targetName, d, h.world.userItems req.targetName⟩)

theorem Seals.charName (hs : h.Seals p req slot uniqueId w' name d) (slot' : Fin 4) :
    (h.sealed req slot w' d).world.charName slot' =
      if slot' = slot then none else h.world.charName slot' := by
  rw [← hs.stores.charName slot', ← SealWorld.charName_clearCharSlot]
  rfl

theorem Seals.userdata (hs : h.Seals p req slot uniqueId w' name d) (n : List Char) :
    (h.sealed req slot w' d).world.userdata n =
      if n = req.targetName then none else h.world.userdata n := by
  rw [← hs.stores.userdata]
  exact Function.update_apply ..

theorem Seals.userItems (hs : h.Seals p req slot uniqueId w' name d) (n : List Char) :
    (h.sealed req slot w' d).world.userItems n =
      if n = req.targetName then [] else h.world.userItems n := by
  rw [← hs.stores.userItems]
  change Function.update (Function.update w'.userItems req.targetName []) req.targetName [] n = _
  rw [Function.update_idem]
  exact Function.update_apply ..

theorem Seals.ringInBag (hs : h.Seals p req slot uniqueId w' name d) (k : ℕ) :
    (h.sealed req slot w' d).world.RingInBag k ↔ k = req.srcSlot ∨ h.world.RingInBag k := by
  by_cases hk : k = req.srcSlot
  · subst hk
    obtain ⟨item, hitem, -⟩ := hs.scroll
    refine iff_of_true ⟨hs.srcSlot, { item with itemId := ITEM_CYPHER_RING }, ?_, rfl⟩ (Or.inl rfl)
    change (becomeRing (SLOT_MAX + req.srcSlot) w'.inventory)[SLOT_MAX + req.srcSlot]? = _
    unfold becomeRing
    rw [List.getElem?_modify_eq, hs.stores.inventory, hitem]
    rfl
  · rw [or_iff_right hk, ← hs.stores.ringInBag]
    exact SealWorld.ringInBag_modify (w := w') hk

theorem Seals.recorded (hs : h.Seals p req slot uniqueId w' name d) {c : SealedCharacter}
    (hc : h.world.Recorded p c) : (h.sealed req slot w' d).world.Recorded p c :=
  hs.stores.recorded hc

theorem Seals.recorded_target (hs : h.Seals p req slot uniqueId w' name d)
    (items : List UserItemSlot) :
    (h.sealed req slot w' d).world.Recorded p ⟨req.targetName, d, items⟩ := by
  obtain ⟨m, hmap, rfl, hacct⟩ := hs.mapping
  obtain ⟨r, hr, hsaves⟩ := hs.saved
  refine ⟨m, ?_, hacct, r, hr, hsaves items⟩
  change m ∈ w'.sealMapping
  rw [hmap]
  exact List.mem_append_right _ (List.mem_singleton_self m)

theorem Seals.made_ne_name (hs : h.Seals p req slot uniqueId w' name d) (ho : h.Orderly p) {k : ℕ}
    {c : SealedCharacter} (hmade : h.made k = some c) : c.name ≠ name := by
  rintro rfl
  exact ho.apart k c slot hmade hs.slotName

theorem Seals.survives_iff (hs : h.Seals p req slot uniqueId w' name d) (ho : h.Orderly p) :
    (∀ c, h.Accounted p c → (h.sealed req slot w' d).Accounted p c) ↔ name = req.targetName := by
  constructor
  · intro hall
    by_contra hne
    obtain ⟨c, hc, hin⟩ := ho.inSlot hs.slotName
    refine not_accounted ?_ ?_ (hall c (Or.inl hin))
    · intro slot' hslot'
      rw [hs.charName, hc] at hslot'
      split_ifs at hslot' with heq
      exact heq (ho.slots _ _ _ hslot' hs.slotName)
    · intro k c' hk hname
      dsimp only [sealed] at hk
      rw [Function.update_apply] at hk
      split_ifs at hk
      · obtain rfl := Option.some.inj hk
        exact absurd (hc.symm.trans hname.symm) hne
      · exact absurd (hname.trans hc) (hs.made_ne_name ho hk)
  · rintro rfl c (⟨slot', d', hname, hd, hdata, hitems⟩ | ⟨k, c', hk, hsame, hring, hrec, hfree⟩)
    · by_cases heq : slot' = slot
      · subst heq
        have hc : c.name = req.targetName := Option.some.inj (hname.symm.trans hs.slotName)
        rw [hc, hs.data] at hd
        obtain rfl := Option.some.inj hd
        refine Or.inr ⟨req.srcSlot, _, Function.update_self .., ⟨hc.symm, hdata, ?_⟩,
          (hs.ringInBag _).mpr (Or.inl rfl), hs.recorded_target _, ?_⟩
        · rw [← hitems, hc]
        · rw [hs.userdata, if_pos hc]
      · have hc : c.name ≠ req.targetName := fun hc =>
          heq (ho.slots _ _ _ (hc ▸ hname) hs.slotName)
        refine Or.inl ⟨slot', d', ?_, ?_, hdata, ?_⟩
        · rw [hs.charName, if_neg heq, hname]
        · rw [hs.userdata, if_neg hc, hd]
        · rw [hs.userItems, if_neg hc, hitems]
    · have hne : k ≠ req.srcSlot := by
        rintro rfl
        rw [hs.made_eq_none ho] at hk
        cases hk
      refine Or.inr ⟨k, c', (Function.update_of_ne hne ..).trans hk, hsame,
        (hs.ringInBag k).mpr (Or.inr hring), hs.recorded hrec, ?_⟩
      rw [hs.userdata]
      split_ifs
      · rfl
      · exact hfree

theorem Seals.made_cases {k : ℕ} {c : SealedCharacter}
    (hk : (h.sealed req slot w' d).made k = some c) :
    (k = req.srcSlot ∧ c = ⟨req.targetName, d, h.world.userItems req.targetName⟩) ∨
      (k ≠ req.srcSlot ∧ h.made k = some c) := by
  dsimp only [sealed] at hk
  rw [Function.update_apply] at hk
  split_ifs at hk with heq
  · exact Or.inl ⟨heq, (Option.some.inj hk).symm⟩
  · exact Or.inr ⟨heq, hk⟩

theorem Seals.noTwice (hs : h.Seals p req slot uniqueId w' req.targetName d) (ho : h.Orderly p) :
    (h.sealed req slot w' d).NoTwice where
  slots slot₁ slot₂ n h₁ h₂ := by
    rw [hs.charName] at h₁ h₂
    split_ifs at h₁ h₂
    exact ho.slots _ _ _ h₁ h₂
  rings k k' c c' hk hk' hname := by
    rcases made_cases hk with ⟨rfl, rfl⟩ | ⟨-, hk⟩ <;>
      rcases made_cases hk' with ⟨rfl, rfl⟩ | ⟨-, hk'⟩
    · rfl
    · exact absurd hname.symm (hs.made_ne ho hk')
    · exact absurd hname (hs.made_ne ho hk)
    · exact ho.rings _ _ _ _ hk hk' hname
  apart k c slot₁ hk hslot := by
    rw [hs.charName] at hslot
    split_ifs at hslot with heq
    rcases made_cases hk with ⟨rfl, rfl⟩ | ⟨-, hk⟩
    · exact heq (ho.slots _ _ _ hslot hs.slotName)
    · exact ho.apart _ _ _ hk hslot

theorem Seals.orderly (hs : h.Seals p req slot uniqueId w' req.targetName d) (ho : h.Orderly p) :
    (h.sealed req slot w' d).Orderly p where
  toNoTwice := hs.noTwice ho
  rows slot₁ n hslot := by
    rw [hs.charName] at hslot
    split_ifs at hslot with heq
    have hne : n ≠ req.targetName := by
      rintro rfl
      exact heq (ho.slots _ _ _ hslot hs.slotName)
    rw [hs.userdata, if_neg hne]
    exact ho.rows _ _ hslot
  items n hn := by
    rw [hs.userdata] at hn
    rw [hs.userItems]
    split_ifs at hn ⊢ with heq
    · rfl
    · exact ho.items n hn
  uniqueIds := by
    obtain ⟨m, hmap, rfl, -⟩ := hs.mapping
    change (w'.sealMapping.map (·.uniqueId)).Nodup
    rw [hmap, List.map_append, List.map_singleton]
    refine ho.uniqueIds.append (List.nodup_singleton _) ?_
    rw [List.disjoint_singleton]
    intro hmem
    obtain ⟨m', hm', heq⟩ := List.mem_map.mp hmem
    exact hs.fresh m' hm' heq
  made_ring k c hk := by
    rcases made_cases hk with ⟨rfl, rfl⟩ | ⟨hne, hk⟩
    · refine ⟨hs.target, (hs.ringInBag _).mpr (Or.inl rfl), hs.recorded_target _, ?_⟩
      rw [hs.userdata, if_pos rfl]
    · obtain ⟨hname, hring, hrec, hfree⟩ := ho.made_ring k c hk
      refine ⟨hname, (hs.ringInBag k).mpr (Or.inr hring), hs.recorded hrec, ?_⟩
      rw [hs.userdata, if_neg (hs.made_ne ho hk), hfree]
  ring_made k hring := by
    by_cases hk : k = req.srcSlot
    · subst hk
      dsimp only [sealed]
      rw [Function.update_self]
      rfl
    · dsimp only [sealed]
      rw [Function.update_of_ne hk]
      exact ho.ring_made k (((hs.ringInBag k).mp hring).resolve_left hk)
  owned m hm hacct := by
    obtain ⟨m₀, hmap, hu, -⟩ := hs.mapping
    change m ∈ w'.sealMapping at hm
    rw [hmap] at hm
    rcases List.mem_append.mp hm with hm | hm
    · obtain ⟨r, k, c, hr, hk, hsaves⟩ := ho.owned m hm hacct
      have hne : k ≠ req.srcSlot := by
        rintro rfl
        rw [hs.made_eq_none ho] at hk
        cases hk
      exact ⟨r, k, c, hs.stores.load hr, (Function.update_of_ne hne ..).trans hk, hsaves⟩
    · obtain rfl := List.mem_singleton.mp hm
      obtain ⟨r, hr, hsaves⟩ := hs.saved
      rw [hu]
      exact ⟨r, req.srcSlot, _, hr, Function.update_self .., hsaves _⟩
  once := by
    obtain ⟨m₀, hmap, hu, -⟩ := hs.mapping
    obtain ⟨r₀, hr₀, hsaves₀⟩ := hs.saved
    have hname₀ : r₀.charName = req.targetName := (hsaves₀ []).charName
    -- An older mapping keeps its seal, and its character is not the new one.
    have hold : ∀ m ∈ h.world.sealMapping, p.accountId = some m.accountId → ∀ r,
        w'.loadSealItemByUniqueId m.uniqueId = some r →
          h.world.loadSealItemByUniqueId m.uniqueId = some r ∧ r.charName ≠ req.targetName := by
      intro m hm hacct r hr
      obtain ⟨r', k, c, hr', hk, hsaves⟩ := ho.owned m hm hacct
      obtain rfl := Option.some.inj ((hs.stores.load hr').symm.trans hr)
      exact ⟨hr', hsaves.charName ▸ hs.made_ne ho hk⟩
    intro m hm m' hm' hacct hacct' r r' hr hr' heq
    change m ∈ w'.sealMapping at hm
    change m' ∈ w'.sealMapping at hm'
    change w'.loadSealItemByUniqueId m.uniqueId = some r at hr
    change w'.loadSealItemByUniqueId m'.uniqueId = some r' at hr'
    rw [hmap] at hm hm'
    rcases List.mem_append.mp hm with hold₁ | hnew₁ <;>
      rcases List.mem_append.mp hm' with hold₂ | hnew₂
    · exact ho.once m hold₁ m' hold₂ hacct hacct' r r' (hold m hold₁ hacct r hr).1
        (hold m' hold₂ hacct' r' hr').1 heq
    · obtain rfl := List.mem_singleton.mp hnew₂
      rw [hu, hr₀] at hr'
      obtain rfl := Option.some.inj hr'
      exact absurd (heq.trans hname₀) (hold m hold₁ hacct r hr).2
    · obtain rfl := List.mem_singleton.mp hnew₁
      rw [hu, hr₀] at hr
      obtain rfl := Option.some.inj hr
      exact absurd (heq.symm.trans hname₀) (hold m' hold₂ hacct' r' hr').2
    · exact (List.mem_singleton.mp hnew₁).trans (List.mem_singleton.mp hnew₂).symm

end

theorem scroll_survives_iff {failing : Option SealCall} {req : ScrollRequest} (ho : h.Orderly p) :
    h.Survives p failing (.useScroll req) ↔ h.Safe p failing (.useScroll req) := by
  unfold Survives step handleSeal Safe
  dsimp only
  rcases handleUseScroll_cases failing p req h.world with
    ⟨w', answer, heq, hw', hanswer, hwhy⟩ | ⟨slot, uniqueId, w', hstores, hcalls⟩
  · rw [heq]
    refine iff_of_true (fun c hc => ?_) fun slot uniqueId w'' hstores => ?_
    · rcases hanswer with rfl | rfl <;> exact accounted_of_stores hw' hc
    · rcases hwhy with ⟨hnone, -⟩ | hcall
      · rw [hnone] at hstores
        cases hstores
      · exact Or.inl hcall
  · obtain ⟨name, d, hs⟩ := seals_of_stores hstores
    obtain ⟨c, hc, hin⟩ := ho.inSlot hs.slotName
    -- The slot is cleared, and no ring is there for its character.
    have hlost : ∀ w'', (∀ slot', w''.charName slot' = (w'.clearCharSlot slot).charName slot') →
        ¬Accounted p ⟨w'', h.made⟩ c := by
      intro w'' hw''
      refine not_accounted (fun slot' hslot' => ?_) fun k c' hk hname => ?_
      · change w''.charName slot' = _ at hslot'
        rw [hw'', SealWorld.charName_clearCharSlot, hs.stores.charName, hc] at hslot'
        split_ifs at hslot' with heq
        exact heq (ho.slots _ _ _ hslot' hs.slotName)
      · exact absurd (hname.trans hc) (hs.made_ne_name ho hk)
    rcases hcalls with ⟨hfail, heq⟩ | ⟨hfail, heq⟩ | ⟨hbefore, h₁, h₂, classId, level, race, heq⟩
    · rw [heq]
      refine iff_of_false (fun hall => hlost _ (fun _ => rfl) (hall c (Or.inl hin))) fun hsafe => ?_
      rcases hsafe _ _ _ hstores with ⟨call, hcall, hbefore⟩ | ⟨hne, -⟩
      · rw [hfail] at hcall
        obtain rfl := Option.some.inj hcall
        cases hbefore
      · exact hne hfail
    · rw [heq]
      refine iff_of_false (fun hall => hlost ((w'.clearCharSlot slot).deleteUserItems req.targetName)
        (fun _ => rfl) (hall c (Or.inl hin))) fun hsafe => ?_
      rcases hsafe _ _ _ hstores with ⟨call, hcall, hbefore⟩ | ⟨-, hne, -⟩
      · rw [hfail] at hcall
        obtain rfl := Option.some.inj hcall
        cases hbefore
      · exact hne hfail
    · have hnext : h.next (handleUseScroll failing p req h.world) = h.sealed req slot w' d := by
        rw [heq]
        unfold next sealed
        dsimp only
        rw [hs.data]
        rfl
      rw [hnext, hs.survives_iff ho]
      constructor
      · rintro rfl slot' uniqueId' w'' hstores'
        obtain ⟨rfl, -, -⟩ := by
          rw [hstores] at hstores'
          simpa only [Option.some.injEq, Prod.mk.injEq] using hstores'
        exact Or.inr ⟨h₁, h₂, hs.slotName⟩
      · intro hsafe
        rcases hsafe _ _ _ hstores with ⟨call, hcall, hbefore'⟩ | ⟨-, -, hname⟩
        · rw [hbefore call hcall] at hbefore'
          cases hbefore'
        · exact Option.some.inj (hs.slotName.symm.trans hname)

/-- A scroll that spells the name right keeps the tables in order. -/
theorem scroll_orderly {req : ScrollRequest} (ho : h.Orderly p)
    (hsafe : h.Safe p none (.useScroll req)) : (h.step none p (.useScroll req)).Orderly p := by
  unfold step handleSeal
  unfold Safe at hsafe
  dsimp only at hsafe ⊢
  rcases handleUseScroll_cases none p req h.world with
    ⟨w', answer, heq, hw', hanswer, hwhy⟩ | ⟨slot, uniqueId, w', hstores, hcalls⟩
  · obtain ⟨-, hmap⟩ : req.stores p h.world = none ∧ w'.sealMapping = h.world.sealMapping := by
      rcases hwhy with hwhy | ⟨call, hcall, -⟩
      · exact hwhy
      · cases hcall
    have hnext : h.next (handleUseScroll none p req h.world) = ⟨w', h.made⟩ := by
      rw [heq]
      rcases hanswer with rfl | rfl <;> rfl
    rw [hnext]
    exact ho.of_stores hw' hmap
  · obtain ⟨name, d, hs⟩ := seals_of_stores hstores
    rcases hcalls with ⟨hfail, -⟩ | ⟨hfail, -⟩ | ⟨-, -, -, classId, level, race, heq⟩
    · cases hfail
    · cases hfail
    · have hnext : h.next (handleUseScroll none p req h.world) = h.sealed req slot w' d := by
        rw [heq]
        unfold next sealed
        dsimp only
        rw [hs.data]
        rfl
      rcases hsafe _ _ _ hstores with ⟨call, hcall, -⟩ | ⟨-, -, hname⟩
      · cases hcall
      · obtain rfl := Option.some.inj (hs.slotName.symm.trans hname)
        rw [hnext]
        exact hs.orderly ho

structure Frees (p : SealPlayer) (h : SealHistory) (req : RingRequest) (slot : Fin 4)
    (r : CharacterSealItemRow) (m : CharacterSealMappingRow) (k : ℕ) (d c : SealedCharacter) :
    Prop where
  account : ∃ ac, h.world.accountChar = some ac
  targetSlot : req.targetSlot = slot
  slotEmpty : h.world.charName slot = none
  ring : h.world.RingInBag req.srcSlot
  mapping : m ∈ h.world.sealMapping
  own : p.accountId = some m.accountId
  load : h.world.loadSealItemByUniqueId m.uniqueId = some r
  made : h.made k = some d
  saves : r.Saves d
  free : h.world.userdata d.name = none
  used : h.made req.srcSlot = some c

theorem Orderly.frees (ho : h.Orderly p) {req : RingRequest} {slot : Fin 4} {uniqueId : ℤ}
    {r : CharacterSealItemRow} (hreleases : req.releases p h.world = some (slot, uniqueId, r)) :
    ∃ m k d c, h.Frees p req slot r m k d c ∧ m.uniqueId = uniqueId := by
  obtain ⟨accountId, m, htarget, hhead, hu, hload, -, hfree⟩ :=
    RingRequest.releases_eq_some.mp hreleases
  obtain ⟨hsrc, -, hslot, hholds, hacct, ac, hac, hname⟩ := RingRequest.target_eq_some.mp htarget
  have hm := List.mem_filter.mp (List.mem_of_mem_head? (Option.mem_def.mpr hhead))
  have hown : p.accountId = some m.accountId := by
    rw [hacct, of_decide_eq_true hm.2]
  subst hu
  obtain ⟨r', k, d, hr', hk, hsaves⟩ := ho.owned m hm.1 hown
  obtain rfl := Option.some.inj (hr'.symm.trans hload)
  have hring : h.world.RingInBag req.srcSlot := by
    unfold RingRequest.holdsRing at hholds
    cases hitem : h.world.inventory[SLOT_MAX + req.srcSlot]? with
    | none => simp [hitem] at hholds
    | some item =>
      rw [hitem] at hholds
      exact ⟨hsrc, item, hitem, (of_decide_eq_true hholds).1⟩
  obtain ⟨c, hc⟩ := Option.isSome_iff_exists.mp (ho.ring_made _ hring)
  refine ⟨m, k, d, c, ?_, rfl⟩
  exact
    { account := ⟨ac, hac⟩
      targetSlot := hslot
      slotEmpty := by
        cases hn : h.world.charName slot with
        | none => rfl
        | some n =>
          have hn' : ac.strCharId slot = some n := by
            unfold SealWorld.charName at hn
            rw [hac] at hn
            exact hn
          unfold AccountCharRow.name at hname
          rw [hn'] at hname
          exact absurd hname (ho.rows slot n hn).1
      ring := hring
      mapping := hm.1
      own := hown
      load := hload
      made := hk
      saves := hsaves
      free := hsaves.charName ▸ hfree
      used := hc }

section

variable {req : RingRequest} {slot : Fin 4} {r : CharacterSealItemRow}
  {m : CharacterSealMappingRow} {k : ℕ} {d c : SealedCharacter}

theorem Frees.charName_ne (hf : h.Frees p req slot r m k d c) (ho : h.Orderly p) (slot' : Fin 4) :
    h.world.charName slot' ≠ some d.name := ho.apart k d slot' hf.made

theorem Frees.userItems (hf : h.Frees p req slot r m k d c) (ho : h.Orderly p) :
    h.world.userItems d.name = [] := ho.items _ hf.free

def seated (h : SealHistory) (slot : Fin 4) (r : CharacterSealItemRow) : SealWorld :=
  (h.world.withUserData r).updateCharSlot slot r.charName

theorem Frees.seated_charName (hf : h.Frees p req slot r m k d c) (slot' : Fin 4) :
    (h.seated slot r).charName slot' =
      if slot' = slot then some d.name else h.world.charName slot' := by
  obtain ⟨ac, hac⟩ := hf.account
  rw [← hf.saves.charName]
  exact SealWorld.charName_updateCharSlot (w := h.world.withUserData r) hac r.charName slot slot'

theorem Frees.seated_userdata (hf : h.Frees p req slot r m k d c) (n : List Char) :
    (h.seated slot r).userdata n =
      if n = d.name then some (unsealRow r) else h.world.userdata n := by
  rw [← hf.saves.charName]
  exact Function.update_apply ..

/-- A character in a slot keeps its slot, its row and its items. -/
theorem Frees.inSlot (hf : h.Frees p req slot r m k d c) {e : SealedCharacter}
    (he : h.world.InSlot e) : (h.seated slot r).InSlot e := by
  obtain ⟨slot', data, hname, hdata, hsame, hitems⟩ := he
  have hslot : slot' ≠ slot := by
    rintro rfl
    rw [hf.slotEmpty] at hname
    cases hname
  have hne : e.name ≠ d.name := by
    intro heq
    rw [heq, hf.free] at hdata
    cases hdata
  refine ⟨slot', data, ?_, ?_, hsame, hitems⟩
  · rw [hf.seated_charName, if_neg hslot, hname]
  · rw [hf.seated_userdata, if_neg hne, hdata]

theorem Frees.inSlot_iff (hf : h.Frees p req slot r m k d c) (ho : h.Orderly p)
    {e : SealedCharacter} (he : d.Same e) : (h.seated slot r).InSlot e ↔ d.Plain := by
  obtain ⟨hname, hdata, hitems⟩ := he
  rw [← hf.saves.placeless_iff, ← hf.userItems ho, hdata, hitems]
  constructor
  · rintro ⟨slot', data, -, hrow, hsame, hown⟩
    rw [hf.seated_userdata, if_pos hname.symm] at hrow
    obtain rfl := Option.some.inj hrow
    rw [← hname] at hown
    exact ⟨hsame, hown⟩
  · rintro ⟨hsame, hown⟩
    refine ⟨slot, unsealRow r, ?_, ?_, hsame, ?_⟩
    · rw [hf.seated_charName, if_pos rfl, hname]
    · rw [hf.seated_userdata, if_pos hname.symm]
    · rw [← hname]
      exact hown

theorem Frees.accounted (hf : h.Frees p req slot r m k d c) (ho : h.Orderly p) : h.Accounted p d :=
  have ⟨_, hring, hrec, hfree⟩ := ho.made_ring k d hf.made
  Or.inr ⟨k, d, hf.made, .refl d, hring, hrec, hfree⟩

/-- With the row there again and the slot still empty, the character is nowhere. -/
theorem Frees.lost (hf : h.Frees p req slot r m k d c) (ho : h.Orderly p) :
    ¬Accounted p ⟨h.world.withUserData r, h.made⟩ d := by
  refine not_accounted (hf.charName_ne ho) fun k' c' _ _ => ?_
  change Function.update h.world.userdata r.charName (some (unsealRow r)) d.name ≠ none
  rw [← hf.saves.charName, Function.update_self]
  simp

/-- The character is in its slot, and its seal and its ring are still there. -/
theorem Frees.seated_survives_iff (hf : h.Frees p req slot r m k d c) (ho : h.Orderly p) :
    (∀ e, h.Accounted p e → Accounted p ⟨h.seated slot r, h.made⟩ e) ↔ d.Plain := by
  constructor
  · intro hall
    rcases hall d (hf.accounted ho) with hslot | ⟨-, -, -, -, -, -, hfree⟩
    · exact (hf.inSlot_iff ho (.refl d)).mp hslot
    · change (h.seated slot r).userdata d.name = none at hfree
      rw [hf.seated_userdata, if_pos rfl] at hfree
      cases hfree
  · rintro hplain e (hslot | ⟨k', e', hk', hsame, hring, hrec, hfree⟩)
    · exact Or.inl (hf.inSlot hslot)
    · by_cases hname : e'.name = d.name
      · obtain rfl := ho.rings _ _ _ _ hk' hf.made hname
        obtain rfl := Option.some.inj (hk'.symm.trans hf.made)
        exact Or.inl ((hf.inSlot_iff ho hsame).mpr hplain)
      · refine Or.inr ⟨k', e', hk', hsame, hring, hrec, ?_⟩
        change (h.seated slot r).userdata e.name = none
        rw [hf.seated_userdata, if_neg (hsame.1 ▸ hname), hfree]

def freed (h : SealHistory) (req : RingRequest) (slot : Fin 4) (r : CharacterSealItemRow)
    (m : CharacterSealMappingRow) : SealHistory where
  world := req.restoredWorld slot m.uniqueId r h.world
  made := Function.update h.made req.srcSlot none

theorem deleteSeal_rows (w : SealWorld) (uniqueId : ℤ) :
    (w.deleteSeal uniqueId).accountChar = w.accountChar ∧
      (w.deleteSeal uniqueId).userdata = w.userdata ∧
      (w.deleteSeal uniqueId).userItems = w.userItems ∧
      (w.deleteSeal uniqueId).inventory = w.inventory := by
  unfold SealWorld.deleteSeal
  cases w.sealMapping.find? (·.uniqueId = uniqueId) <;> exact ⟨rfl, rfl, rfl, rfl⟩

theorem freed_charName (slot' : Fin 4) :
    (h.freed req slot r m).world.charName slot' = (h.seated slot r).charName slot' := by
  unfold SealWorld.charName
  exact congrArg (·.bind fun ac => ac.strCharId slot')
    (deleteSeal_rows (h.seated slot r) m.uniqueId).1

theorem freed_userdata : (h.freed req slot r m).world.userdata = (h.seated slot r).userdata :=
  (deleteSeal_rows (h.seated slot r) m.uniqueId).2.1

theorem freed_userItems : (h.freed req slot r m).world.userItems = h.world.userItems :=
  (deleteSeal_rows (h.seated slot r) m.uniqueId).2.2.1

theorem freed_inventory : (h.freed req slot r m).world.inventory =
    clearRing (SLOT_MAX + req.srcSlot) h.world.inventory :=
  congrArg (clearRing (SLOT_MAX + req.srcSlot))
    (deleteSeal_rows (h.seated slot r) m.uniqueId).2.2.2

theorem freed_inSlot {e : SealedCharacter} :
    (h.freed req slot r m).world.InSlot e ↔ (h.seated slot r).InSlot e := by
  unfold SealWorld.InSlot
  rw [freed_userdata, freed_userItems]
  simp only [freed_charName]
  rfl

theorem freed_made {k' : ℕ} {e : SealedCharacter} :
    (h.freed req slot r m).made k' = some e ↔ k' ≠ req.srcSlot ∧ h.made k' = some e := by
  dsimp only [freed]
  rw [Function.update_apply]
  split_ifs with heq
  · simp [heq]
  · simp [heq]

theorem freed_ringInBag (k' : ℕ) :
    (h.freed req slot r m).world.RingInBag k' ↔ k' ≠ req.srcSlot ∧ h.world.RingInBag k' := by
  unfold SealWorld.RingInBag
  rw [freed_inventory]
  unfold clearRing
  by_cases hk : k' = req.srcSlot
  · subst hk
    rw [List.getElem?_modify_eq]
    simp only [ne_eq, not_true, false_and, iff_false]
    rintro ⟨-, item, hitem, hring⟩
    obtain ⟨item', -, rfl⟩ := Option.map_eq_some_iff.mp hitem
    exact absurd hring (show (0 : ℕ) ≠ ITEM_CYPHER_RING by decide)
  · rw [List.getElem?_modify_ne _ _ (by omega)]
    simp [hk]

theorem Frees.other (hf : h.Frees p req slot r m k d c) (ho : h.Orderly p)
    {m' : CharacterSealMappingRow} (hm' : m' ∈ h.world.sealMapping)
    (hown : p.accountId = some m'.accountId) (hne : m' ≠ m) : m'.sealItemId ≠ m.sealItemId := by
  intro heq
  have hfind : h.world.sealMapping.find? (·.uniqueId = m.uniqueId) = some m :=
    Rows.find?_of_key ho.uniqueIds hf.mapping
  have hfind' : h.world.sealMapping.find? (·.uniqueId = m'.uniqueId) = some m' :=
    Rows.find?_of_key ho.uniqueIds hm'
  have hload : h.world.loadSealItemByUniqueId m'.uniqueId = some r := by
    rw [← hf.load]
    unfold SealWorld.loadSealItemByUniqueId
    rw [hfind, hfind', Option.bind_some, Option.bind_some, heq]
  exact hne (ho.once m' hm' m hf.mapping hown hf.own r r hload hf.load rfl)

theorem Frees.mem_freed (hf : h.Frees p req slot r m k d c) (ho : h.Orderly p)
    {m' : CharacterSealMappingRow} (hown : p.accountId = some m'.accountId) :
    m' ∈ (h.freed req slot r m).world.sealMapping ↔ m' ∈ h.world.sealMapping ∧ m' ≠ m := by
  have htables : (h.freed req slot r m).world.sealMapping =
      h.world.sealMapping.filter (·.sealItemId ≠ m.sealItemId) :=
    (SealWorld.deleteSeal_tables (w := h.seated slot r) hf.mapping ho.uniqueIds).1
  rw [htables, List.mem_filter]
  constructor
  · rintro ⟨hm', hne⟩
    refine ⟨hm', ?_⟩
    rintro rfl
    exact absurd rfl (of_decide_eq_true hne)
  · rintro ⟨hm', hne⟩
    exact ⟨hm', decide_eq_true (hf.other ho hm' hown hne)⟩

theorem Frees.load_freed (hf : h.Frees p req slot r m k d c) (ho : h.Orderly p)
    {m' : CharacterSealMappingRow} (hm' : m' ∈ h.world.sealMapping)
    (hown : p.accountId = some m'.accountId) (hne : m' ≠ m) :
    (h.freed req slot r m).world.loadSealItemByUniqueId m'.uniqueId =
      h.world.loadSealItemByUniqueId m'.uniqueId :=
  SealWorld.load_deleteSeal (w := h.seated slot r) hf.mapping hm' ho.uniqueIds
    (hf.other ho hm' hown hne)

theorem Frees.recorded_freed (hf : h.Frees p req slot r m k d c) (ho : h.Orderly p)
    {e : SealedCharacter} (he : h.world.Recorded p e) (hname : e.name ≠ d.name) :
    (h.freed req slot r m).world.Recorded p e := by
  obtain ⟨m', hm', hown, r', hr', hsaves⟩ := he
  have hne : m' ≠ m := by
    rintro rfl
    rw [hf.load] at hr'
    obtain rfl := Option.some.inj hr'
    exact hname (hsaves.charName.symm.trans hf.saves.charName)
  exact ⟨m', (hf.mem_freed ho hown).mpr ⟨hm', hne⟩, hown, r',
    (hf.load_freed ho hm' hown hne).trans hr', hsaves⟩

/-- The whole request keeps every character if and only if the ring is the one of the seal, and its
character comes back as it was. -/
theorem Frees.survives_iff (hf : h.Frees p req slot r m k d c) (ho : h.Orderly p) :
    (∀ e, h.Accounted p e → (h.freed req slot r m).Accounted p e) ↔
      k = req.srcSlot ∧ d.Plain := by
  have htaken : (h.freed req slot r m).world.userdata d.name ≠ none := by
    rw [freed_userdata, hf.seated_userdata, if_pos rfl]
    simp
  constructor
  · intro hall
    refine ⟨?_, ?_⟩
    · -- The ring that is used is gone, and so is its character, unless it is the one in the slot.
      have hring : h.Accounted p c := by
        obtain ⟨-, hring, hrec, hfree⟩ := ho.made_ring _ c hf.used
        exact Or.inr ⟨_, c, hf.used, .refl c, hring, hrec, hfree⟩
      by_contra hk
      have hname : c.name ≠ d.name := fun heq => hk (ho.rings _ _ _ _ hf.made hf.used heq.symm)
      refine not_accounted (fun slot' hslot' => ?_) (fun k' e hk' heq => ?_) (hall c hring)
      · rw [freed_charName, hf.seated_charName] at hslot'
        split_ifs at hslot'
        · exact hname (Option.some.inj hslot').symm
        · exact ho.apart _ c slot' hf.used hslot'
      · obtain ⟨hne, hk'⟩ := freed_made.mp hk'
        exact absurd (ho.rings _ _ _ _ hk' hf.used heq) hne
    · rcases hall d (hf.accounted ho) with hslot | ⟨-, -, -, -, -, -, hfree⟩
      · exact (hf.inSlot_iff ho (.refl d)).mp (freed_inSlot.mp hslot)
      · exact absurd hfree htaken
  · rintro ⟨rfl, hplain⟩ e (hslot | ⟨k', e', hk', hsame, hring, hrec, hfree⟩)
    · exact Or.inl (freed_inSlot.mpr (hf.inSlot hslot))
    · by_cases hname : e'.name = d.name
      · obtain rfl := ho.rings _ _ _ _ hk' hf.made hname
        obtain rfl := Option.some.inj (hk'.symm.trans hf.made)
        exact Or.inl (freed_inSlot.mpr ((hf.inSlot_iff ho hsame).mpr hplain))
      · have hne : k' ≠ req.srcSlot := by
          rintro rfl
          exact hname (congrArg _ (Option.some.inj (hk'.symm.trans hf.made)))
        refine Or.inr ⟨k', e', freed_made.mpr ⟨hne, hk'⟩, hsame,
          (freed_ringInBag k').mpr ⟨hne, hring⟩, hf.recorded_freed ho hrec hname, ?_⟩
        rw [freed_userdata, hf.seated_userdata, if_neg (hsame.1 ▸ hname), hfree]

theorem Frees.noTwice (hf : h.Frees p req slot r m req.srcSlot d c) (ho : h.Orderly p) :
    (h.freed req slot r m).NoTwice where
  slots slot₁ slot₂ n h₁ h₂ := by
    rw [freed_charName, hf.seated_charName] at h₁ h₂
    split_ifs at h₁ h₂ with heq₁ heq₂ heq₂
    · rw [heq₁, heq₂]
    · obtain rfl := Option.some.inj h₁
      exact absurd h₂ (hf.charName_ne ho slot₂)
    · obtain rfl := Option.some.inj h₂
      exact absurd h₁ (hf.charName_ne ho slot₁)
    · exact ho.slots _ _ _ h₁ h₂
  rings k₁ k₂ e₁ e₂ hk₁ hk₂ hname :=
    ho.rings _ _ _ _ (freed_made.mp hk₁).2 (freed_made.mp hk₂).2 hname
  apart k' e slot' hk' hslot' := by
    obtain ⟨hne, hk'⟩ := freed_made.mp hk'
    rw [freed_charName, hf.seated_charName] at hslot'
    split_ifs at hslot'
    · exact hne (ho.rings _ _ _ _ hk' hf.made (Option.some.inj hslot').symm)
    · exact ho.apart _ _ _ hk' hslot'

theorem Frees.orderly (hf : h.Frees p req slot r m req.srcSlot d c) (ho : h.Orderly p) :
    (h.freed req slot r m).Orderly p := by
  -- The rings that stay are of other characters.
  have hother : ∀ k' e, k' ≠ req.srcSlot → h.made k' = some e → e.name ≠ d.name :=
    fun k' e hne hk' heq => hne (ho.rings _ _ _ _ hk' hf.made heq)
  exact
    { toNoTwice := hf.noTwice ho
      rows := fun slot' n hslot' => by
        rw [freed_charName, hf.seated_charName] at hslot'
        rw [freed_userdata, hf.seated_userdata]
        split_ifs at hslot' with hslot
        · obtain rfl := Option.some.inj hslot'
          rw [if_pos rfl]
          exact ⟨(ho.made_ring _ _ hf.made).1, rfl⟩
        · have hn : n ≠ d.name := by
            rintro rfl
            exact hf.charName_ne ho slot' hslot'
          rw [if_neg hn]
          exact ho.rows _ _ hslot'
      items := fun n hn => by
        rw [freed_userdata, hf.seated_userdata] at hn
        rw [freed_userItems]
        split_ifs at hn
        exact ho.items n hn
      uniqueIds := by
        have htables : (h.freed req slot r m).world.sealMapping =
            h.world.sealMapping.filter (·.sealItemId ≠ m.sealItemId) :=
          (SealWorld.deleteSeal_tables (w := h.seated slot r) hf.mapping ho.uniqueIds).1
        rw [htables]
        exact ho.uniqueIds.sublist (List.Sublist.map _ List.filter_sublist)
      made_ring := fun k' e hk' => by
        obtain ⟨hne, hk'⟩ := freed_made.mp hk'
        obtain ⟨hname, hring, hrec, hfree⟩ := ho.made_ring k' e hk'
        have hd := hother k' e hne hk'
        refine ⟨hname, (freed_ringInBag k').mpr ⟨hne, hring⟩, hf.recorded_freed ho hrec hd, ?_⟩
        rw [freed_userdata, hf.seated_userdata, if_neg hd, hfree]
      ring_made := fun k' hring => by
        obtain ⟨hne, hring⟩ := (freed_ringInBag k').mp hring
        obtain ⟨e, he⟩ := Option.isSome_iff_exists.mp (ho.ring_made k' hring)
        exact Option.isSome_iff_exists.mpr ⟨e, freed_made.mpr ⟨hne, he⟩⟩
      owned := fun m' hm' hown => by
        obtain ⟨hm', hne⟩ := (hf.mem_freed ho hown).mp hm'
        obtain ⟨r', k', e, hr', hk', hsaves⟩ := ho.owned m' hm' hown
        have hk : k' ≠ req.srcSlot := by
          rintro rfl
          obtain rfl := Option.some.inj (hk'.symm.trans hf.made)
          exact hne (ho.once m' hm' m hf.mapping hown hf.own r' r hr' hf.load
            (hsaves.charName.trans hf.saves.charName.symm))
        exact ⟨r', k', e, (hf.load_freed ho hm' hown hne).trans hr', freed_made.mpr ⟨hk, hk'⟩,
          hsaves⟩
      once := fun m₁ hm₁ m₂ hm₂ hown₁ hown₂ r₁ r₂ hr₁ hr₂ heq => by
        obtain ⟨hm₁, hne₁⟩ := (hf.mem_freed ho hown₁).mp hm₁
        obtain ⟨hm₂, hne₂⟩ := (hf.mem_freed ho hown₂).mp hm₂
        rw [hf.load_freed ho hm₁ hown₁ hne₁] at hr₁
        rw [hf.load_freed ho hm₂ hown₂ hne₂] at hr₂
        exact ho.once m₁ hm₁ m₂ hm₂ hown₁ hown₂ r₁ r₂ hr₁ hr₂ heq }

/-- A plain character comes back from its ring as the request says. -/
theorem Frees.returns (hf : h.Frees p req slot r m req.srcSlot d c) (ho : h.Orderly p)
    (hplain : d.Plain) : h.Returns (h.freed req slot r m) req d := by
  obtain ⟨hdata, hitems⟩ := hf.saves.placeless_iff.mpr hplain
  simp only [UserData.placeless, UserData.mk.injEq] at hdata
  refine ⟨slot, hf.targetSlot, ?_, fun slot' => ?_, ⟨unsealRow r, ?_, ?_⟩, ?_, hf.ring,
    freed_inventory⟩
  · rw [hf.slotEmpty]
    rfl
  · rw [freed_charName, hf.seated_charName]
  · rw [freed_userdata, hf.seated_userdata, if_pos rfl]
  · simp [hdata]
  · rw [freed_userItems, hf.userItems ho, hitems]

end

theorem Orderly.safe_ring_iff {failing : Option SealCall} {req : RingRequest} {slot : Fin 4}
    {r : CharacterSealItemRow} {m : CharacterSealMappingRow} {k : ℕ} {d c : SealedCharacter}
    (ho : h.Orderly p) (hreleases : req.releases p h.world = some (slot, m.uniqueId, r))
    (hf : h.Frees p req slot r m k d c)
    (hcalls : ∀ call, failing = some call → call.beforeRestore = false) :
    h.Safe p failing (.useRing req) ↔
      failing ≠ some .updateCharSlot ∧ d.Plain ∧
        (failing ≠ some .deleteSeal → k = req.srcSlot) := by
  constructor
  · intro hsafe
    rcases hsafe _ _ _ hreleases with
      ⟨call, hcall, hbefore⟩ | ⟨hne, k', d', hk', hname, hplain, hring⟩
    · rw [hcalls call hcall] at hbefore
      cases hbefore
    · obtain rfl := ho.rings _ _ _ _ hk' hf.made (hname.trans hf.saves.charName)
      obtain rfl := Option.some.inj (hk'.symm.trans hf.made)
      exact ⟨hne, hplain, hring⟩
  · rintro ⟨hne, hplain, hring⟩ slot' uniqueId r' hreleases'
    rw [hreleases] at hreleases'
    simp only [Option.some.injEq, Prod.mk.injEq] at hreleases'
    obtain ⟨-, -, rfl⟩ := hreleases'
    exact Or.inr ⟨hne, k, d, hf.made, hf.saves.charName.symm, hplain, hring⟩

theorem ring_survives_iff {failing : Option SealCall} {req : RingRequest} (ho : h.Orderly p) :
    h.Survives p failing (.useRing req) ↔ h.Safe p failing (.useRing req) := by
  have hcases := handleUseRing_cases failing p req h.world
  unfold Survives step handleSeal
  dsimp only
  rcases hcases with ⟨hwhy, answer, heq, hanswer⟩ | ⟨slot, uniqueId, r, hreleases, hcalls⟩
  · rw [heq]
    refine iff_of_true (fun c hc => ?_) fun slot uniqueId r hreleases => ?_
    · rcases hanswer with rfl | ⟨code, rfl⟩ | rfl <;> exact hc
    · rcases hwhy with hnone | hcall
      · rw [hnone] at hreleases
        cases hreleases
      · exact Or.inl hcall
  · obtain ⟨m, k, d, c, hf, rfl⟩ := ho.frees hreleases
    rcases hcalls with ⟨hfail, heq⟩ | ⟨hfail, heq⟩ | ⟨hbefore, h₁, h₂, heq⟩
    · rw [heq, ho.safe_ring_iff hreleases hf (by rintro call rfl; cases hfail; rfl)]
      exact iff_of_false (fun hall => hf.lost ho (hall d (hf.accounted ho)))
        fun hsafe => hsafe.1 hfail
    · rw [heq, ho.safe_ring_iff hreleases hf (by rintro call rfl; cases hfail; rfl)]
      refine (hf.seated_survives_iff ho).trans ⟨fun hplain => ⟨?_, hplain, ?_⟩, fun h => h.2.1⟩
      · rw [hfail]
        decide
      · exact fun hne => absurd hfail hne
    · rw [heq, ho.safe_ring_iff hreleases hf hbefore]
      exact (hf.survives_iff ho).trans
        ⟨fun h => ⟨h₁, h.2, fun _ => h.1⟩, fun h => ⟨h.2.2 h₂, h.2.1⟩⟩

theorem survives_iff {failing : Option SealCall} {req : CharacterSealRequest} (ho : h.Orderly p) :
    h.Survives p failing req ↔ h.Safe p failing req := by
  cases req with
  | useScroll req => exact scroll_survives_iff ho
  | useRing req => exact ring_survives_iff ho

/-- A ring's request in which no call fails: nothing has changed, or the character of the ring is
out of it. -/
theorem ring_step_cases {req : RingRequest} (ho : h.Orderly p)
    (hsafe : h.Safe p none (.useRing req)) :
    (h.step none p (.useRing req) = h ∧
      ∀ srcSlot, (handleSeal none p h.world (.useRing req)).2 ≠ .restored srcSlot) ∨
    ∃ slot r m d c, h.Frees p req slot r m req.srcSlot d c ∧ d.Plain ∧
      h.step none p (.useRing req) = h.freed req slot r m := by
  have hcases := handleUseRing_cases none p req h.world
  unfold step handleSeal
  dsimp only
  rcases hcases with ⟨-, answer, heq, hanswer⟩ | ⟨slot, uniqueId, r, hreleases, hcalls⟩
  · rw [heq]
    refine Or.inl ⟨?_, fun srcSlot => ?_⟩ <;> rcases hanswer with rfl | ⟨code, rfl⟩ | rfl
    · rfl
    · rfl
    · rfl
    · nofun
    · nofun
    · nofun
  · obtain ⟨m, k, d, c, hf, rfl⟩ := ho.frees hreleases
    rcases hcalls with ⟨hfail, -⟩ | ⟨hfail, -⟩ | ⟨hbefore, -, -, heq⟩
    · cases hfail
    · cases hfail
    · obtain ⟨-, hplain, hring⟩ := (ho.safe_ring_iff hreleases hf hbefore).mp hsafe
      obtain rfl := hring nofun
      rw [heq]
      exact Or.inr ⟨slot, r, m, d, c, hf, hplain, rfl⟩

theorem orderly_step {req : CharacterSealRequest} (ho : h.Orderly p) (hsafe : h.Safe p none req) :
    (h.step none p req).Orderly p := by
  cases req with
  | useScroll req => exact scroll_orderly ho hsafe
  | useRing req =>
    rcases ring_step_cases ho hsafe with ⟨heq, -⟩ | ⟨slot, r, m, d, c, hf, -, heq⟩
    · rw [heq]
      exact ho
    · rw [heq]
      exact hf.orderly ho

theorem keeps_iff {req : CharacterSealRequest} (ho : h.Orderly p) :
    h.Keeps p req ↔ h.Safe p none req := by
  refine ⟨fun hkeeps => (survives_iff ho).mp hkeeps.survives, fun hsafe => ?_⟩
  refine ⟨?_, (survives_iff ho).mpr hsafe, (orderly_step ho hsafe).toNoTwice⟩
  rintro ring srcSlot rfl hanswer
  rcases ring_step_cases ho hsafe with ⟨-, hno⟩ | ⟨slot, r, m, d, c, hf, hplain, heq⟩
  · exact absurd hanswer (hno srcSlot)
  · rw [heq]
    exact ⟨d, hf.made, hf.returns ho hplain⟩

/-- Requests in which no database call fails keep the characters all along if and only if each of
them is safe; and where they are, a request in which one call fails keeps them if and only if that
is safe. -/
theorem sealing_keeps_iff (ho : h.Orderly p) (reqs : List CharacterSealRequest) :
    (Run.Along (step none p) (Keeps p) h reqs ↔
        Run.Along (step none p) (fun h => h.Safe p none) h reqs) ∧
      (Run.Along (step none p) (fun h => h.Safe p none) h reqs → ∀ call req,
        (Run.run (step none p) h reqs).Survives p (some call) req ↔
          (Run.run (step none p) h reqs).Safe p (some call) req) := by
  refine ⟨?_, fun hsafe call req => ?_⟩
  · exact (Run.along_congr (fun h => Orderly p h) (fun h req ho hsafe => orderly_step ho hsafe)
      (fun h req ho => (keeps_iff ho).symm) ho).symm
  · exact survives_iff (Run.invariant (fun h => Orderly p h)
      (fun h req ho hsafe => orderly_step ho hsafe) hsafe ho)

/-- An account without seals, and a bag without rings. -/
theorem orderly_fresh {w : SealWorld}
    (hslots : ∀ slot slot', w.charName slot = w.charName slot' → w.charName slot ≠ none →
      slot = slot')
    (hrows : ∀ slot name, w.charName slot = some name → name ≠ [] ∧ (w.userdata name).isSome)
    (hitems : ∀ name, w.userdata name = none → w.userItems name = [])
    (hmappings : w.sealMapping = []) (hrings : ∀ s ∈ w.inventory, s.itemId ≠ ITEM_CYPHER_RING) :
    Orderly p ⟨w, fun _ => none⟩ := by
  have hnone : ∀ m ∈ w.sealMapping, False := by simp [hmappings]
  have hmade : ∀ (k : ℕ) (c : SealedCharacter), (fun _ => none) k = some c → False :=
    fun _ c hk => Option.some_ne_none c hk.symm
  exact
    { slots := fun slot slot' name h₁ h₂ => hslots slot slot' (h₁.trans h₂.symm) (by
        change w.charName slot = _ at h₁
        rw [h₁]
        simp)
      rings := fun k _ c _ hk => (hmade k c hk).elim
      apart := fun k c _ hk => (hmade k c hk).elim
      rows := hrows
      items := hitems
      uniqueIds := by
        rw [hmappings]
        exact List.nodup_nil
      made_ring := fun k c hk => (hmade k c hk).elim
      ring_made := fun k hring => by
        obtain ⟨-, item, hitem, hid⟩ := hring
        exact absurd hid (hrings item (List.mem_of_getElem? hitem))
      owned := fun m hm => (hnone m hm).elim
      once := fun m hm => (hnone m hm).elim }

end SealHistory

def sealBag : Inventory :=
  Inventory.padded (List.replicate SLOT_MAX ({} : UserItemSlot) ++
    [{ itemId := ITEM_SEAL_SCROLL, count := 1, serialNum := 7 },
      { itemId := ITEM_SEAL_SCROLL, count := 1, serialNum := 8 }])

/-- The characters `b` and `c` beside the player's own `e`, and two scrolls in its bag. -/
def sealAccount (nation : ℤ) : SealWorld where
  accountChar := some ⟨3, fun slot => [some ['b'], some ['c'], some ['e'], none].getD slot none⟩
  userdata name :=
    if name = ['b'] then some { nation := nation, classId := 101, gold := 500 }
    else if name = ['c'] then some { nation := nation, classId := 102, level := 60 }
    else if name = ['e'] then some { nation := nation, classId := 103 }
    else none
  userItems _ := []
  sealItems := []
  sealMapping := []
  nextSealItemId := 1
  nextUniqueId := 1
  inventory := sealBag

def sealPlayer : SealPlayer := ⟨['e'], 1, ['1'], some ['a']⟩

theorem sealAccount_orderly (nation : ℤ) :
    SealHistory.Orderly sealPlayer ⟨sealAccount nation, fun _ => none⟩ := by
  have hslots : ∀ slot slot' : Fin 4, (sealAccount nation).charName slot =
      (sealAccount nation).charName slot' → (sealAccount nation).charName slot ≠ none →
        slot = slot' := by
    intro slot slot'
    fin_cases slot <;> fin_cases slot' <;> simp [sealAccount, SealWorld.charName]
  refine SealHistory.orderly_fresh hslots ?_ (fun _ _ => rfl) rfl ?_
  · intro slot name hname
    fin_cases slot <;> simp [sealAccount, SealWorld.charName] at hname <;> subst hname <;>
      exact ⟨by decide, rfl⟩
  · change ∀ item ∈ sealBag, item.itemId ≠ ITEM_CYPHER_RING
    decide

theorem sealing_keeps_plain :
    Run.Along (SealHistory.step none sealPlayer) (SealHistory.Keeps sealPlayer)
      ⟨sealAccount 2, fun _ => none⟩
      [.useScroll ⟨0, ITEM_SEAL_SCROLL, ['b'], ['1']⟩, .useRing ⟨0, ITEM_CYPHER_RING, 3⟩] := by
  refine ((SealHistory.sealing_keeps_iff (sealAccount_orderly 2) _).1).mpr ⟨?_, ?_, trivial⟩
  · rintro slot uniqueId w' hstores
    have hslot : (ScrollRequest.stores ⟨0, ITEM_SEAL_SCROLL, ['b'], ['1']⟩ sealPlayer
        (sealAccount 2)).map Prod.fst = some 0 := by decide
    rw [hstores] at hslot
    cases hslot
    exact Or.inr ⟨nofun, nofun, rfl⟩
  · rintro slot uniqueId r hreleases
    have hname : (RingRequest.releases ⟨0, ITEM_CYPHER_RING, 3⟩ sealPlayer
        (SealHistory.step none sealPlayer ⟨sealAccount 2, fun _ => none⟩
          (.useScroll ⟨0, ITEM_SEAL_SCROLL, ['b'], ['1']⟩)).world).map (·.2.2.charName) =
            some ['b'] := by decide
    rw [hreleases] at hname
    refine Or.inr ⟨nofun, 0, ⟨['b'], { nation := 2, classId := 101, gold := 500 }, []⟩, rfl,
      (Option.some.inj hname).symm, ?_, fun _ => rfl⟩
    exact ⟨by decide, rfl, rfl, rfl, rfl, rfl, rfl⟩

/-- Two characters are sealed, and the second ring lets the first one out. -/
theorem second_ring_frees_first :
    ¬Run.Along (SealHistory.step none sealPlayer) (SealHistory.Keeps sealPlayer)
      ⟨sealAccount 1, fun _ => none⟩
      [.useScroll ⟨0, ITEM_SEAL_SCROLL, ['b'], ['1']⟩,
        .useScroll ⟨1, ITEM_SEAL_SCROLL, ['c'], ['1']⟩, .useRing ⟨1, ITEM_CYPHER_RING, 3⟩] := by
  rintro ⟨-, -, hkeeps, -⟩
  obtain ⟨c, hmade, slot, hslot, -, hnames, -⟩ := hkeeps.restores ⟨1, ITEM_CYPHER_RING, 3⟩ 1 rfl
    (by decide)
  have hc : c.name = ['c'] := congrArg SealedCharacter.name (Option.some.inj hmade).symm
  obtain rfl : slot = 3 := Fin.ext hslot.symm
  have hb := hnames 3
  rw [if_pos rfl, hc] at hb
  exact absurd hb (by decide)

end KoServer
