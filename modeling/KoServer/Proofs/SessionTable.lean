import KoServer.Lib.Run
import KoServer.Lib.Tally
import KoServer.Spec.SessionTable

/-! The table of sessions against the ids in use, the online count and the two indexes. They agree
as long as an id is free when the counter comes to it, and a session that goes is the only one of
its name. -/

namespace KoServer

def SessionStep.isConnect : SessionStep → Bool
  | .connect admitted => admitted
  | _ => false

theorem SessionStep.eq_connect {i : SessionStep} (hi : i.isConnect = true) : i = .connect true := by
  cases i with
  | connect admitted => exact congrArg _ hi
  | _ => cases hi

namespace SessionTable

def SESSION_IDS : ℕ := 2 ^ 16

variable (toLower : List Char → List Char) (w : SessionTable)

def InGame (id : ℕ) (name : List Char) (zoneId : ℕ) : Prop :=
  w.sessions id = some { character := some name, zoneId := zoneId }

def loadedAt (id : ℕ) : ℕ := if ((w.sessions id).bind SessionHandle.character).isSome then 1 else 0

def loadedCount : ℕ := Tally.total w.loadedAt (List.range SESSION_IDS)

/-- Held by a connection, or by a session in the table. -/
def Alive (id : ℕ) : Prop := id ∈ w.clients.map Prod.fst ∨ (w.sessions id).isSome

structure Consistent : Prop where
  online : w.onlineCount = w.loadedCount
  zones : ∀ id name zoneId, w.InGame id name zoneId →
    ∀ z, id ∈ w.zoneSessionIndex z ↔ z = zoneId
  names : ∀ id name zoneId, w.InGame id name zoneId →
    ∃ id' zoneId', w.nameToSession (toLower name) = some id' ∧ w.InGame id' name zoneId'

/-- The id of a new connection is no live session's, and the count and the indexes are right
afterwards. -/
structure Identifies (i : SessionStep) : Prop where
  fresh : i = .connect true → ¬ w.Alive w.allocateSessionId.1
  consistent : (w.step toLower i).Consistent toLower

/-- No other session in game has a name that reads the same in lower case. -/
def LastOf (id : ℕ) : Prop :=
  ∀ name zoneId, w.InGame id name zoneId → ∀ id' name' zoneId', w.InGame id' name' zoneId' →
    toLower name' = toLower name → id' = id

/-- The condition on a step. Who had the id that the counter has come to is gone; 0 is no id, and
the counter goes on to 1. -/
def Distinct : SessionStep → Prop
  | .connect admitted => admitted = true → ¬ w.Alive (max 1 w.nextSessionId)
  | .enterGame client name zoneId => ∀ id, w.clients[client]? = some (id, false) → zoneId ≠ 0 ∧
      ∀ id' name' zoneId', w.InGame id' name' zoneId' → toLower name' = toLower name → name' = name
  | .changeZone id zoneId => (w.sessions id).isSome → zoneId ≠ 0
  | .disconnect client => ∀ id entered, w.clients[client]? = some (id, entered) →
      w.LastOf toLower id
  | .stayOffline _ => True
  | .unregister id => w.LastOf toLower id
  | .kickDuplicate id => w.sessions id = none

structure Served : Prop where
  counter : w.nextSessionId < SESSION_IDS
  ids : (w.clients.map Prod.fst).Nodup
  lt : ∀ c ∈ w.clients, c.1 < SESSION_IDS
  waiting : ∀ id, (id, false) ∈ w.clients → w.sessions id = none

structure Indexed : Prop where
  lt : ∀ id, (w.sessions id).isSome → id < SESSION_IDS
  loaded : ∀ id, (w.sessions id).isSome → ∃ name zoneId, zoneId ≠ 0 ∧ w.InGame id name zoneId
  zones : ∀ id z, id ∈ w.zoneSessionIndex z ↔ ∃ name, w.InGame id name z
  online : w.onlineCount = w.loadedCount
  names : ∀ id name zoneId, w.InGame id name zoneId →
    ∃ id' zoneId', w.nameToSession (toLower name) = some id' ∧ w.InGame id' name zoneId'
  spelled : ∀ id id' name name' zoneId zoneId', w.InGame id name zoneId →
    w.InGame id' name' zoneId' → toLower name' = toLower name → name' = name

def Kept : Prop := w.Served ∧ w.Indexed toLower

variable {toLower} {w} {w' : SessionTable} {id id' zoneId zoneId' oldZone newZone z : ℕ}
  {name name' : List Char}

theorem InGame.inj (h : w.InGame id name zoneId) (h' : w.InGame id name' zoneId') :
    name = name' ∧ zoneId = zoneId' := by
  have heq := Option.some.inj (h.symm.trans h')
  rw [SessionHandle.mk.injEq, Option.some.injEq] at heq
  exact heq

theorem InGame.isSome (h : w.InGame id name zoneId) : (w.sessions id).isSome := by
  rw [h]
  rfl

theorem mem_movedIndex (h : ∀ z, id ∈ w.zoneSessionIndex z ↔ oldZone ≠ 0 ∧ z = oldZone) :
    id' ∈ w.movedIndex id oldZone newZone z ↔
      if id' = id then newZone ≠ 0 ∧ z = newZone else id' ∈ w.zoneSessionIndex z := by
  have herased : ∀ z', id' ∈ (if oldZone ≠ 0 then
      Function.update w.zoneSessionIndex oldZone ((w.zoneSessionIndex oldZone).erase id)
      else w.zoneSessionIndex) z' ↔ id' ≠ id ∧ id' ∈ w.zoneSessionIndex z' := by
    intro z'
    split_ifs with hold
    · by_cases hz : z' = oldZone
      · rw [hz, Function.update_self, Finset.mem_erase]
      · rw [Function.update_of_ne hz]
        refine ⟨fun hmem => ⟨?_, hmem⟩, And.right⟩
        rintro rfl
        exact hz ((h z').mp hmem).2
    · refine ⟨fun hmem => ⟨?_, hmem⟩, And.right⟩
      rintro rfl
      exact hold ((h z').mp hmem).1
  unfold movedIndex
  dsimp only
  generalize (if oldZone ≠ 0 then
      Function.update w.zoneSessionIndex oldZone ((w.zoneSessionIndex oldZone).erase id)
    else w.zoneSessionIndex) = index at herased ⊢
  split_ifs with hmoved hnew hid hid hid
  · rw [hid]
    by_cases hz : z = newZone
    · rw [hz, Function.update_self, Finset.mem_insert]
      exact iff_of_true (Or.inl rfl) ⟨hnew, rfl⟩
    · rw [Function.update_of_ne hz, ← hid, herased]
      exact iff_of_false (fun hmem => hmem.1 hid) fun hand => hz hand.2
  · by_cases hz : z = newZone
    · rw [hz, Function.update_self, Finset.mem_insert, or_iff_right hid, herased]
      exact and_iff_right hid
    · rw [Function.update_of_ne hz, herased]
      exact and_iff_right hid
  · rw [herased]
    exact iff_of_false (fun hmem => hmem.1 hid) fun hand => hnew hand.1
  · rw [herased]
    exact and_iff_right hid
  · rw [not_not] at hmoved
    rw [hid, h, hmoved]
  · rfl

theorem loadedCount_update (hid : id < SESSION_IDS)
    (h : ∀ j, j ≠ id → w'.sessions j = w.sessions j) :
    w'.loadedCount + w.loadedAt id = w.loadedCount + w'.loadedAt id :=
  Tally.total_update List.nodup_range (List.mem_range.mpr hid) fun j hj => by
    unfold loadedAt
    rw [h j hj]

theorem loadedCount_le : w.loadedCount ≤ SESSION_IDS := by
  have hle := Tally.total_le_of_forall_le (f := w.loadedAt) (b := 1) (l := List.range SESSION_IDS)
    fun id _ => by
      unfold loadedAt
      split_ifs
      · exact le_rfl
      · exact Nat.zero_le 1
  rw [List.length_range, Nat.mul_one] at hle
  exact hle

theorem loadedAt_of_inGame (h : w.InGame id name zoneId) : w.loadedAt id = 1 := by
  rw [loadedAt, h]
  rfl

theorem loadedAt_of_none (h : w.sessions id = none) : w.loadedAt id = 0 := by
  rw [loadedAt, h]
  rfl

theorem Indexed.consistent (h : w.Indexed toLower) : w.Consistent toLower where
  online := h.online
  zones id name zoneId hin z := by
    rw [h.zones]
    refine ⟨fun ⟨name', hin'⟩ => (hin'.inj hin).2, ?_⟩
    rintro rfl
    exact ⟨name, hin⟩
  names := h.names

theorem Indexed.listed (h : w.Indexed toLower) (hin : w.InGame id name zoneId) (z : ℕ) :
    id ∈ w.zoneSessionIndex z ↔ zoneId ≠ 0 ∧ z = zoneId := by
  rw [h.consistent.zones id name zoneId hin z]
  refine (and_iff_right ?_).symm
  obtain ⟨name', zoneId', hne, hin'⟩ := h.loaded id hin.isSome
  rw [(hin.inj hin').2]
  exact hne

theorem registerIngame_registerSession (id : ℕ) (name : List Char) (zoneId : ℕ) :
    (w.registerSession id).registerIngame toLower id name zoneId = { w with
      sessions := Function.update w.sessions id
        (some { character := some name, zoneId := zoneId })
      nameToSession := Function.update w.nameToSession (toLower name) (some id)
      onlineCount := (w.onlineCount + 1) % 2 ^ 32
      zoneSessionIndex := w.movedIndex id 0 zoneId } := by
  simp only [registerIngame, registerSession, Function.update_self, Function.update_idem]
  rfl

theorem Indexed.unlisted (h : w.Indexed toLower) (hfree : w.sessions id = none) (z : ℕ) :
    id ∈ w.zoneSessionIndex z ↔ (0 : ℕ) ≠ 0 ∧ z = 0 := by
  rw [h.zones]
  refine iff_of_false ?_ fun hand => hand.1 rfl
  rintro ⟨name', hin⟩
  rw [InGame, hfree] at hin
  cases hin

/-- A character comes into the game under an id that is free. -/
theorem Indexed.enter (h : w.Indexed toLower) (hid : id < SESSION_IDS) (hfree : w.sessions id = none)
    (hzone : zoneId ≠ 0) (hspelled : ∀ id' name' zoneId', w.InGame id' name' zoneId' →
      toLower name' = toLower name → name' = name) :
    ((w.registerSession id).registerIngame toLower id name zoneId).Indexed toLower := by
  have hnone := h.unlisted hfree
  have heq := @registerIngame_registerSession toLower w id name zoneId
  generalize (w.registerSession id).registerIngame toLower id name zoneId = w' at heq ⊢
  have hsessions : w'.sessions = Function.update w.sessions id
      (some { character := some name, zoneId := zoneId }) := by rw [heq]
  have hindex : w'.zoneSessionIndex = w.movedIndex id 0 zoneId := by rw [heq]
  have hnames : w'.nameToSession = Function.update w.nameToSession (toLower name) (some id) := by
    rw [heq]
  have honline : w'.onlineCount = (w.onlineCount + 1) % 2 ^ 32 := by rw [heq]
  have hnew : w'.InGame id name zoneId := by rw [InGame, hsessions, Function.update_self]
  have hothers : ∀ j, j ≠ id → w'.sessions j = w.sessions j := fun j hj => by
    rw [hsessions, Function.update_of_ne hj]
  have hold : ∀ j name' zoneId', j ≠ id → (w'.InGame j name' zoneId' ↔ w.InGame j name' zoneId') :=
    fun j name' zoneId' hj => by rw [InGame, InGame, hothers j hj]
  refine ⟨fun j hj => ?_, fun j hj => ?_, fun j z => ?_, ?_, fun j name' zoneId' hin => ?_,
    fun j k name' name'' zoneId' zoneId'' hj hk heq => ?_⟩
  · by_cases hji : j = id
    · exact hji ▸ hid
    · exact h.lt j (hothers j hji ▸ hj)
  · by_cases hji : j = id
    · exact ⟨name, zoneId, hzone, hji ▸ hnew⟩
    · obtain ⟨name', zoneId', hne, hin⟩ := h.loaded j (hothers j hji ▸ hj)
      exact ⟨name', zoneId', hne, (hold j _ _ hji).mpr hin⟩
  · rw [hindex, mem_movedIndex hnone]
    split_ifs with hji
    · subst hji
      refine ⟨fun ⟨_, hz⟩ => ⟨name, hz ▸ hnew⟩, fun ⟨name', hin⟩ => ⟨hzone, (hin.inj hnew).2⟩⟩
    · rw [h.zones]
      exact exists_congr fun name' => (hold j name' z hji).symm
  · have hcount := loadedCount_update hid hothers
    have hle := w.loadedCount_le
    rw [loadedAt_of_none hfree, loadedAt_of_inGame hnew] at hcount
    rw [honline, h.online]
    unfold SESSION_IDS at hle
    omega
  · rw [hnames]
    by_cases hlower : toLower name' = toLower name
    · have hname : name' = name := by
        by_cases hji : j = id
        · exact ((hji ▸ hin).inj hnew).1
        · exact hspelled j name' zoneId' ((hold j _ _ hji).mp hin) hlower
      rw [hname, Function.update_self]
      exact ⟨id, zoneId, rfl, hnew⟩
    · have hji : j ≠ id := by
        rintro rfl
        exact hlower (congrArg toLower (hin.inj hnew).1)
      obtain ⟨k, zoneId'', hk, hin'⟩ := h.names j name' zoneId' ((hold j _ _ hji).mp hin)
      have hki : k ≠ id := by
        rintro rfl
        rw [InGame, hfree] at hin'
        cases hin'
      rw [Function.update_of_ne hlower]
      exact ⟨k, zoneId'', hk, (hold k _ _ hki).mpr hin'⟩
  · by_cases hji : j = id
    · have hname := ((hji ▸ hj).inj hnew).1
      by_cases hki : k = id
      · have hname' := ((hki ▸ hk).inj hnew).1
        rw [hname, hname']
      · rw [hname] at heq ⊢
        exact hspelled k name'' zoneId'' ((hold k _ _ hki).mp hk) heq
    · by_cases hki : k = id
      · have hname := ((hki ▸ hk).inj hnew).1
        rw [hname] at heq ⊢
        exact (hspelled j name' zoneId' ((hold j _ _ hji).mp hj) heq.symm).symm
      · exact h.spelled j k name' name'' zoneId' zoneId'' ((hold j _ _ hji).mp hj)
          ((hold k _ _ hki).mp hk) heq

theorem updateZone_of_inGame (hin : w.InGame id name oldZone) (newZone : ℕ) :
    w.updateZone id newZone = { w with
      sessions := Function.update w.sessions id
        (some { character := some name, zoneId := newZone })
      zoneSessionIndex := w.movedIndex id oldZone newZone } := by
  unfold updateZone
  rw [hin]

theorem Indexed.rezone (h : w.Indexed toLower) (hin : w.InGame id name oldZone)
    (hzone : newZone ≠ 0) : (w.updateZone id newZone).Indexed toLower := by
  have hlisted := h.listed hin
  have hid := h.lt id hin.isSome
  have heq := updateZone_of_inGame hin newZone
  generalize w.updateZone id newZone = w' at heq ⊢
  have hsessions : w'.sessions = Function.update w.sessions id
      (some { character := some name, zoneId := newZone }) := by rw [heq]
  have hindex : w'.zoneSessionIndex = w.movedIndex id oldZone newZone := by rw [heq]
  have hnames : w'.nameToSession = w.nameToSession := by rw [heq]
  have honline : w'.onlineCount = w.onlineCount := by rw [heq]
  have hnew : w'.InGame id name newZone := by rw [InGame, hsessions, Function.update_self]
  have hothers : ∀ j, j ≠ id → w'.sessions j = w.sessions j := fun j hj => by
    rw [hsessions, Function.update_of_ne hj]
  have hto : ∀ j name' zoneId, w.InGame j name' zoneId → ∃ zoneId', w'.InGame j name' zoneId' := by
    intro j name' zoneId hj
    by_cases hji : j = id
    · subst hji
      rw [(hj.inj hin).1]
      exact ⟨newZone, hnew⟩
    · exact ⟨zoneId, (hothers j hji).trans hj⟩
  have hfrom : ∀ j name' zoneId, w'.InGame j name' zoneId →
      ∃ zoneId', w.InGame j name' zoneId' := by
    intro j name' zoneId hj
    by_cases hji : j = id
    · subst hji
      rw [(hj.inj hnew).1]
      exact ⟨oldZone, hin⟩
    · exact ⟨zoneId, (hothers j hji).symm.trans hj⟩
  refine ⟨fun j hj => ?_, fun j hj => ?_, fun j z => ?_, ?_, fun j name' zoneId hj => ?_,
    fun j k name' name'' zoneId zoneId' hj hk heq => ?_⟩
  · by_cases hji : j = id
    · exact hji ▸ hid
    · exact h.lt j (hothers j hji ▸ hj)
  · by_cases hji : j = id
    · exact ⟨name, newZone, hzone, hji ▸ hnew⟩
    · obtain ⟨name', zoneId', hne, hj'⟩ := h.loaded j (hothers j hji ▸ hj)
      exact ⟨name', zoneId', hne, (hothers j hji).trans hj'⟩
  · rw [hindex, mem_movedIndex hlisted]
    split_ifs with hji
    · subst hji
      exact ⟨fun ⟨_, hz⟩ => ⟨name, hz ▸ hnew⟩, fun ⟨name', hj⟩ => ⟨hzone, (hj.inj hnew).2⟩⟩
    · rw [h.zones]
      refine exists_congr fun name' => ?_
      rw [InGame, InGame, hothers j hji]
  · have hcount := loadedCount_update hid hothers
    rw [loadedAt_of_inGame hin, loadedAt_of_inGame hnew] at hcount
    rw [honline, h.online]
    omega
  · obtain ⟨zoneId', hj'⟩ := hfrom j name' zoneId hj
    obtain ⟨k, zoneK, hk, hk'⟩ := h.names j name' zoneId' hj'
    obtain ⟨zoneK', hk''⟩ := hto k name' zoneK hk'
    exact ⟨k, zoneK', hnames ▸ hk, hk''⟩
  · obtain ⟨_, hj'⟩ := hfrom j name' zoneId hj
    obtain ⟨_, hk'⟩ := hfrom k name'' zoneId' hk
    exact h.spelled j k name' name'' _ _ hj' hk' heq

theorem unregisterSession_of_none (hnone : w.sessions id = none) :
    w.unregisterSession toLower id = w := by
  unfold unregisterSession
  rw [hnone]

theorem unregisterSession_of_inGame (hin : w.InGame id name zoneId) :
    w.unregisterSession toLower id = { w with
      sessions := Function.update w.sessions id none
      zoneSessionIndex := w.movedIndex id zoneId 0
      nameToSession := Function.update w.nameToSession (toLower name) none
      onlineCount := (w.onlineCount + (2 ^ 32 - 1)) % 2 ^ 32 } := by
  unfold unregisterSession
  rw [hin]

theorem Indexed.remove (h : w.Indexed toLower) (hlast : w.LastOf toLower id) :
    (w.unregisterSession toLower id).Indexed toLower := by
  cases hid : w.sessions id with
  | none => rwa [unregisterSession_of_none hid]
  | some handle =>
    obtain ⟨name, zoneId, hne, hin⟩ := h.loaded id (by rw [hid]; rfl)
    have hlisted := h.listed hin
    have heq := @unregisterSession_of_inGame toLower _ _ _ _ hin
    generalize w.unregisterSession toLower id = w' at heq ⊢
    have hsessions : w'.sessions = Function.update w.sessions id none := by rw [heq]
    have hindex : w'.zoneSessionIndex = w.movedIndex id zoneId 0 := by rw [heq]
    have hnames : w'.nameToSession = Function.update w.nameToSession (toLower name) none := by
      rw [heq]
    have honline : w'.onlineCount = (w.onlineCount + (2 ^ 32 - 1)) % 2 ^ 32 := by rw [heq]
    have hgone : w'.sessions id = none := by rw [hsessions, Function.update_self]
    have hothers : ∀ j, j ≠ id → w'.sessions j = w.sessions j := fun j hj => by
      rw [hsessions, Function.update_of_ne hj]
    have hpresent : ∀ j, (w'.sessions j).isSome → j ≠ id := by
      rintro j hj rfl
      rw [hgone] at hj
      cases hj
    have hfrom : ∀ j name' zoneId', w'.InGame j name' zoneId' → w.InGame j name' zoneId' :=
      fun j name' zoneId' hj => (hothers j (hpresent j hj.isSome)).symm.trans hj
    refine ⟨fun j hj => ?_, fun j hj => ?_, fun j z => ?_, ?_, fun j name' zoneId' hj => ?_,
      fun j k name' name'' zoneId' zoneId'' hj hk heq => ?_⟩
    · exact h.lt j (hothers j (hpresent j hj) ▸ hj)
    · obtain ⟨name', zoneId', hne', hj'⟩ := h.loaded j (hothers j (hpresent j hj) ▸ hj)
      exact ⟨name', zoneId', hne', (hothers j (hpresent j hj)).trans hj'⟩
    · rw [hindex, mem_movedIndex hlisted]
      split_ifs with hji
      · subst hji
        refine iff_of_false (fun hand => hand.1 rfl) ?_
        rintro ⟨name', hj⟩
        exact hpresent j hj.isSome rfl
      · rw [h.zones]
        refine exists_congr fun name' => ?_
        rw [InGame, InGame, hothers j hji]
    · have hcount := loadedCount_update (h.lt id hin.isSome) hothers
      have hle := w.loadedCount_le
      rw [loadedAt_of_inGame hin, loadedAt_of_none hgone] at hcount
      rw [honline, h.online]
      unfold SESSION_IDS at hle
      omega
    · have hji := hpresent j hj.isSome
      have hj' := hfrom j name' zoneId' hj
      obtain ⟨k, zoneId'', hk, hk'⟩ := h.names j name' zoneId' hj'
      have hlower : toLower name' ≠ toLower name :=
        fun hlower => hji (hlast name zoneId hin j name' zoneId' hj' hlower)
      have hki : k ≠ id := by
        rintro rfl
        exact hlower (congrArg toLower (hk'.inj hin).1)
      exact ⟨k, zoneId'', by rw [hnames, Function.update_of_ne hlower]; exact hk,
        (hothers k hki).trans hk'⟩
    · exact h.spelled j k name' name'' zoneId' zoneId'' (hfrom j _ _ hj) (hfrom k _ _ hk) heq

theorem allocateSessionId_lt (h : w.nextSessionId < SESSION_IDS) :
    w.allocateSessionId.1 < SESSION_IDS ∧ w.allocateSessionId.2 < SESSION_IDS := by
  unfold allocateSessionId
  unfold SESSION_IDS at *
  split_ifs
  · exact ⟨h, Nat.mod_lt _ (by decide)⟩
  · exact ⟨Nat.mod_lt _ (by decide), Nat.mod_lt _ (by decide)⟩

theorem allocateSessionId_eq (w : SessionTable) :
    w.allocateSessionId = (max 1 w.nextSessionId, (max 1 w.nextSessionId + 1) % 2 ^ 16) := by
  unfold allocateSessionId
  by_cases hzero : w.nextSessionId = 0
  · rw [if_neg (not_not.mpr hzero), hzero]
    rfl
  · rw [if_pos hzero, Nat.max_eq_right (Nat.pos_of_ne_zero hzero)]

theorem unregisterSession_others {j : ℕ} (hj : j ≠ id) :
    (w.unregisterSession toLower id).sessions j = w.sessions j := by
  unfold unregisterSession
  cases w.sessions id with
  | none => rfl
  | some handle =>
    dsimp only
    cases handle.character with
    | none => exact Function.update_of_ne hj _ _
    | some name => exact Function.update_of_ne hj _ _

theorem unregisterSession_free {j : ℕ} (hj : w.sessions j = none) :
    (w.unregisterSession toLower id).sessions j = none := by
  by_cases hji : j = id
  · subst hji
    rwa [unregisterSession_of_none hj]
  · rwa [unregisterSession_others hji]

theorem unregisterSession_clients : (w.unregisterSession toLower id).clients = w.clients := by
  unfold unregisterSession
  cases w.sessions id with
  | none => rfl
  | some handle =>
    dsimp only
    cases handle.character with
    | none => rfl
    | some name => rfl

theorem unregisterSession_counter :
    (w.unregisterSession toLower id).nextSessionId = w.nextSessionId := by
  unfold unregisterSession
  cases w.sessions id with
  | none => rfl
  | some handle =>
    dsimp only
    cases handle.character with
    | none => rfl
    | some name => rfl

/-- Fewer connections, and no session under a free id. -/
theorem Served.sublist (h : w.Served) (hcounter : w'.nextSessionId = w.nextSessionId)
    (hclients : w'.clients.Sublist w.clients)
    (hfree : ∀ j, w.sessions j = none → w'.sessions j = none) : w'.Served where
  counter := hcounter ▸ h.counter
  ids := (hclients.map Prod.fst).nodup h.ids
  lt c hc := h.lt c (hclients.subset hc)
  waiting j hj := hfree j (h.waiting j (hclients.subset hj))

theorem Served.enter (h : w.Served) {client : ℕ} (hget : w.clients[client]? = some (id, false))
    (hcounter : w'.nextSessionId = w.nextSessionId)
    (hclients : w'.clients = w.clients.set client (id, true))
    (hothers : ∀ j, j ≠ id → w'.sessions j = w.sessions j) : w'.Served := by
  have hmem : (id, false) ∈ w.clients := List.mem_of_getElem? hget
  obtain ⟨hlen, hat⟩ := List.getElem?_eq_some_iff.mp hget
  have hids : w'.clients.map Prod.fst = w.clients.map Prod.fst := by
    rw [hclients, List.map_set]
    refine List.ext_getElem? fun j => ?_
    by_cases hj : client = j
    · subst hj
      rw [List.getElem?_set_self (by rwa [List.length_map]), List.getElem?_map, hget]
      rfl
    · rw [List.getElem?_set_ne hj]
  refine ⟨hcounter ▸ h.counter, hids ▸ h.ids, fun c hc => ?_, fun j hj => ?_⟩
  · rw [hclients] at hc
    rcases List.mem_or_eq_of_mem_set hc with hc | rfl
    · exact h.lt c hc
    · exact h.lt (id, false) hmem
  · have hji : j ≠ id := by
      rintro rfl
      have hentered : (j, true) ∈ w'.clients := hclients ▸ List.mem_set hlen (j, true)
      have hsame := List.inj_on_of_nodup_map (hids ▸ h.ids) hentered hj rfl
      cases hsame
    rw [hclients] at hj
    rcases List.mem_or_eq_of_mem_set hj with hj | hj
    · rw [hothers j hji]
      exact h.waiting j hj
    · cases hj

theorem kept_connect (h : w.Kept toLower) (hfree : ¬ w.Alive (max 1 w.nextSessionId)) :
    (w.step toLower (.connect true)).Kept toLower := by
  obtain ⟨hserved, hindexed⟩ := h
  obtain ⟨hid, hnext⟩ := allocateSessionId_lt hserved.counter
  replace hfree : ¬ w.Alive w.allocateSessionId.1 := by
    rw [allocateSessionId_eq]
    exact hfree
  unfold Alive at hfree
  push Not at hfree
  refine ⟨⟨hnext, ?_, fun c hc => ?_, fun j hj => ?_⟩, ⟨hindexed.lt, hindexed.loaded,
    hindexed.zones, hindexed.online, hindexed.names, hindexed.spelled⟩⟩
  · change ((w.clients ++ [(w.allocateSessionId.1, false)]).map Prod.fst).Nodup
    rw [List.map_append, List.map_singleton]
    exact List.nodup_append'.mpr ⟨hserved.ids, List.nodup_singleton _,
      List.disjoint_singleton.mpr hfree.1⟩
  · rcases List.mem_append.mp hc with hc | hc
    · exact hserved.lt c hc
    · rw [List.mem_singleton.mp hc]
      exact hid
  · rcases List.mem_append.mp hj with hj | hj
    · exact hserved.waiting j hj
    · have hsame : j = w.allocateSessionId.1 := congrArg Prod.fst (List.mem_singleton.mp hj)
      rw [hsame]
      exact Option.not_isSome_iff_eq_none.mp hfree.2

theorem kept_step (h : w.Kept toLower) {i : SessionStep} (hok : w.Distinct toLower i) :
    (w.step toLower i).Kept toLower := by
  obtain ⟨hserved, hindexed⟩ := h
  cases i with
  | connect admitted =>
    cases admitted with
    | false => exact ⟨hserved, hindexed⟩
    | true => exact kept_connect ⟨hserved, hindexed⟩ (hok rfl)
  | enterGame client name zoneId =>
    change (w.enterGame toLower client name zoneId).Kept toLower
    unfold enterGame
    cases hget : w.clients[client]? with
    | none => exact ⟨hserved, hindexed⟩
    | some c =>
      obtain ⟨id, entered⟩ := c
      cases entered with
      | true => exact ⟨hserved, hindexed⟩
      | false =>
        obtain ⟨hzone, hspelled⟩ := hok id hget
        have hmem := List.mem_of_getElem? hget
        have hentered := hindexed.enter (hserved.lt _ hmem) (hserved.waiting id hmem) hzone hspelled
        dsimp only
        rw [registerIngame_registerSession] at hentered ⊢
        exact ⟨hserved.enter hget rfl rfl fun j hj => Function.update_of_ne hj _ _,
          ⟨hentered.lt, hentered.loaded, hentered.zones, hentered.online, hentered.names,
            hentered.spelled⟩⟩
  | changeZone id zoneId =>
    cases hid : w.sessions id with
    | none =>
      have hsame : w.step toLower (.changeZone id zoneId) = w := by
        unfold step updateZone
        dsimp only
        rw [hid]
      rw [hsame]
      exact ⟨hserved, hindexed⟩
    | some handle =>
      have hsome : (w.sessions id).isSome := by rw [hid]; rfl
      obtain ⟨name, oldZone, -, hin⟩ := hindexed.loaded id hsome
      refine ⟨?_, hindexed.rezone hin (hok hsome)⟩
      change (w.updateZone id zoneId).Served
      rw [updateZone_of_inGame hin]
      refine hserved.sublist rfl (List.Sublist.refl _) fun j hj => ?_
      have hji : j ≠ id := by
        rintro rfl
        rw [hj] at hsome
        cases hsome
      exact (Function.update_of_ne hji _ _).trans hj
  | disconnect client =>
    unfold step
    dsimp only
    cases hget : w.clients[client]? with
    | none => exact ⟨hserved, hindexed⟩
    | some c =>
      obtain ⟨id, entered⟩ := c
      have hremoved := hindexed.remove (hok id entered hget)
      refine ⟨hserved.sublist unregisterSession_counter (List.eraseIdx_sublist _ _) fun j hj =>
        unregisterSession_free hj, ⟨hremoved.lt, hremoved.loaded, hremoved.zones, hremoved.online,
          hremoved.names, hremoved.spelled⟩⟩
  | stayOffline client =>
    exact ⟨hserved.sublist rfl (List.eraseIdx_sublist _ _) fun _ hj => hj, ⟨hindexed.lt,
      hindexed.loaded, hindexed.zones, hindexed.online, hindexed.names, hindexed.spelled⟩⟩
  | unregister id =>
    refine ⟨hserved.sublist unregisterSession_counter ?_ fun j hj => unregisterSession_free hj,
      hindexed.remove hok⟩
    exact (congrArg (List.Sublist · w.clients) unregisterSession_clients).mpr (List.Sublist.refl _)
  | kickDuplicate id =>
    have hsame : w.step toLower (.kickDuplicate id) = w := by
      unfold step kickSessionForDuplicate
      dsimp only
      rw [show w.sessions id = none from hok]
    rw [hsame]
    exact ⟨hserved, hindexed⟩

theorem lastOf_of_names (hnames : ∀ j name' zoneId', j ≠ id → w.InGame j name' zoneId' →
      ∃ k, (w.unregisterSession toLower id).nameToSession (toLower name') = some k) :
    w.LastOf toLower id := by
  intro name zoneId hin j name' zoneId' hj hlower
  by_contra hji
  obtain ⟨k, hk⟩ := hnames j name' zoneId' hji hj
  rw [unregisterSession_of_inGame hin, hlower] at hk
  have hnone : Function.update w.nameToSession (toLower name) none (toLower name) = some k := hk
  rw [Function.update_self] at hnone
  cases hnone

theorem distinct_of_enterGame (hserved : w.Served) (hindexed : w.Indexed toLower) {client : ℕ}
    (hconsistent : (w.step toLower (.enterGame client name zoneId)).Consistent toLower) :
    w.Distinct toLower (.enterGame client name zoneId) := by
  intro id hget
  have hfree := hserved.waiting id (List.mem_of_getElem? hget)
  unfold step enterGame at hconsistent
  dsimp only at hconsistent
  rw [hget] at hconsistent
  dsimp only at hconsistent
  rw [registerIngame_registerSession] at hconsistent
  have hnew : InGame { w with
      sessions := Function.update w.sessions id
        (some { character := some name, zoneId := zoneId })
      nameToSession := Function.update w.nameToSession (toLower name) (some id)
      onlineCount := (w.onlineCount + 1) % 2 ^ 32
      zoneSessionIndex := w.movedIndex id 0 zoneId
      clients := w.clients.set client (id, true) } id name zoneId := Function.update_self ..
  refine ⟨?_, fun id' name' zoneId' hin hlower => ?_⟩
  · rintro rfl
    have hlisted := (hconsistent.zones id name 0 hnew 0).mpr rfl
    have hmem := (mem_movedIndex (hindexed.unlisted hfree)).mp hlisted
    rw [if_pos rfl] at hmem
    exact hmem.1 rfl
  · have hne : id' ≠ id := by
      rintro rfl
      rw [InGame, hfree] at hin
      cases hin
    obtain ⟨k, zoneK, hk, hk'⟩ := hconsistent.names id' name' zoneId'
      ((Function.update_of_ne hne _ _).trans hin)
    have hkid : Function.update w.nameToSession (toLower name) (some id) (toLower name') =
      some k := hk
    rw [hlower, Function.update_self, Option.some.injEq] at hkid
    subst hkid
    exact (hk'.inj hnew).1

theorem free_of_kickDuplicate (hindexed : w.Indexed toLower)
    (hconsistent : (w.step toLower (.kickDuplicate id)).Consistent toLower) :
    w.sessions id = none := by
  by_contra hsome
  obtain ⟨name, zoneId, hne, hin⟩ := hindexed.loaded id (Option.isSome_iff_ne_none.mpr hsome)
  unfold step kickSessionForDuplicate at hconsistent
  dsimp only at hconsistent
  rw [show w.sessions id = _ from hin] at hconsistent
  dsimp only at hconsistent
  have honline := hconsistent.online
  generalize hw' : ({ w with
    sessions := Function.update w.sessions id none
    zoneSessionIndex := w.movedIndex id zoneId 0 } : SessionTable) = w' at honline
  have hother : ∀ j, j ≠ id → w'.sessions j = w.sessions j := by
    intro j hj
    rw [← hw']
    exact Function.update_of_ne hj _ _
  have hcount := loadedCount_update (hindexed.lt id hin.isSome) hother
  have hgone : w'.sessions id = none := by rw [← hw']; exact Function.update_self ..
  have hsame : w'.onlineCount = w.onlineCount := by rw [← hw']
  have hold := hindexed.online
  rw [loadedAt_of_inGame hin, loadedAt_of_none hgone] at hcount
  omega

theorem identifies_iff (h : w.Kept toLower) (i : SessionStep) :
    w.Identifies toLower i ↔ w.Distinct toLower i := by
  refine ⟨fun hident => ?_, fun hok => ⟨?_, (kept_step h hok).2.consistent⟩⟩
  · obtain ⟨hfresh, hconsistent⟩ := hident
    obtain ⟨hserved, hindexed⟩ := h
    cases i with
    | connect admitted =>
      rintro rfl
      have hid := hfresh rfl
      rwa [allocateSessionId_eq] at hid
    | enterGame client name zoneId => exact distinct_of_enterGame hserved hindexed hconsistent
    | changeZone id zoneId =>
      intro hsome
      obtain ⟨name, oldZone, hne, hin⟩ := hindexed.loaded id hsome
      rintro rfl
      unfold step at hconsistent
      dsimp only at hconsistent
      rw [updateZone_of_inGame hin] at hconsistent
      have hlisted := (hconsistent.zones id name 0 (Function.update_self ..) 0).mpr rfl
      have hmem := (mem_movedIndex (hindexed.listed hin)).mp hlisted
      rw [if_pos rfl] at hmem
      exact hmem.1 rfl
    | disconnect client =>
      intro id entered hget
      unfold step at hconsistent
      dsimp only at hconsistent
      rw [hget] at hconsistent
      refine lastOf_of_names fun j name' zoneId' hji hj => ?_
      obtain ⟨k, -, hk, -⟩ := hconsistent.names j name' zoneId'
        ((unregisterSession_others hji).trans hj)
      exact ⟨k, hk⟩
    | stayOffline client => trivial
    | unregister id =>
      refine lastOf_of_names fun j name' zoneId' hji hj => ?_
      obtain ⟨k, -, hk, -⟩ := hconsistent.names j name' zoneId'
        ((unregisterSession_others hji).trans hj)
      exact ⟨k, hk⟩
    | kickDuplicate id => exact free_of_kickDuplicate hindexed hconsistent
  · rintro rfl
    rw [allocateSessionId_eq]
    exact hok rfl

theorem kept_start : start.Kept toLower := by
  refine ⟨⟨by decide, List.nodup_nil, nofun, nofun⟩, ⟨nofun, nofun, fun id z => ?_, ?_, nofun,
    nofun⟩⟩
  · exact iff_of_false (Finset.notMem_empty id) nofun
  · unfold loadedCount
    rw [Tally.total_congr start.loadedAt (g := fun _ => 0) fun _ _ => rfl]
    generalize List.range SESSION_IDS = ids
    induction ids with
    | nil => rfl
    | cons id ids ih => rw [Tally.total_cons, ← ih, Nat.zero_add]

/-- Along a run the ids and the indexes identify the live sessions just where every step meets the
condition. -/
theorem identifies_along_iff (toLower : List Char → List Char) (steps : List SessionStep) :
    Run.Along (step toLower) (Identifies toLower) start steps ↔
      Run.Along (step toLower) (Distinct toLower) start steps :=
  (Run.along_congr (Kept toLower) (fun _ _ h hi => kept_step h hi)
    (fun _ i h => (identifies_iff h i).symm) kept_start).symm

theorem isSome_of_update {sessions : ℕ → Option SessionHandle} {handle : Option SessionHandle} {j : ℕ}
    (hid : handle.isSome → (sessions id).isSome)
    (hj : (Function.update sessions id handle j).isSome) : (sessions j).isSome := by
  by_cases hji : j = id
  · subst hji
    rw [Function.update_self] at hj
    exact hid hj
  · rwa [Function.update_of_ne hji] at hj

/-- No step but a connection brings an id into use or moves the counter. -/
theorem other_step {i : SessionStep} (hi : i.isConnect = false) :
    (w.step toLower i).nextSessionId = w.nextSessionId ∧
      ∀ j, (w.step toLower i).Alive j → w.Alive j := by
  have hremoved : ∀ {id j : ℕ}, ((w.unregisterSession toLower id).sessions j).isSome →
      (w.sessions j).isSome := by
    intro id j hj
    by_contra hnone
    rw [unregisterSession_free (Option.not_isSome_iff_eq_none.mp hnone)] at hj
    cases hj
  cases i with
  | connect admitted =>
    obtain rfl : admitted = false := hi
    exact ⟨rfl, fun _ hj => hj⟩
  | enterGame client name zoneId =>
    change (w.enterGame toLower client name zoneId).nextSessionId = _ ∧
      ∀ j, (w.enterGame toLower client name zoneId).Alive j → _
    unfold enterGame
    split
    · next id hget =>
      have hmem : (id, false) ∈ w.clients := List.mem_of_getElem? hget
      rw [registerIngame_registerSession]
      refine ⟨rfl, fun j hj => ?_⟩
      rcases hj with hj | hj
      · obtain ⟨c, hc, rfl⟩ := List.mem_map.mp hj
        rcases List.mem_or_eq_of_mem_set hc with hc | rfl
        · exact .inl (List.mem_map_of_mem hc)
        · exact .inl (List.mem_map.mpr ⟨_, hmem, rfl⟩)
      · by_cases hji : j = id
        · exact hji ▸ .inl (List.mem_map_of_mem hmem)
        · dsimp only at hj
          rw [Function.update_of_ne hji] at hj
          exact .inr hj
    · exact ⟨rfl, fun _ hj => hj⟩
  | changeZone id zoneId =>
    change (w.updateZone id zoneId).nextSessionId = _ ∧
      ∀ j, (w.updateZone id zoneId).Alive j → _
    unfold updateZone
    cases hid : w.sessions id with
    | none => exact ⟨rfl, fun _ hj => hj⟩
    | some handle =>
      exact ⟨rfl, fun j hj => hj.imp_right (isSome_of_update fun _ => by rw [hid]; rfl)⟩
  | disconnect client =>
    unfold step
    dsimp only
    split
    · refine ⟨unregisterSession_counter, fun j hj => hj.imp (fun hj => ?_) hremoved⟩
      exact ((List.eraseIdx_sublist _ _).map Prod.fst).subset hj
    · exact ⟨rfl, fun _ hj => hj⟩
  | stayOffline client =>
    refine ⟨rfl, fun j hj => hj.imp_left fun hj => ?_⟩
    exact ((List.eraseIdx_sublist _ _).map Prod.fst).subset hj
  | unregister id =>
    refine ⟨unregisterSession_counter, fun j hj => hj.imp (fun hj => ?_) hremoved⟩
    have hclients : (w.unregisterSession toLower id).clients = w.clients := unregisterSession_clients
    rwa [← hclients]
  | kickDuplicate id =>
    change (w.kickSessionForDuplicate id).nextSessionId = _ ∧
      ∀ j, (w.kickSessionForDuplicate id).Alive j → _
    unfold kickSessionForDuplicate
    cases w.sessions id with
    | none => exact ⟨rfl, fun _ hj => hj⟩
    | some handle =>
      exact ⟨rfl, fun j hj => hj.imp_right (isSome_of_update fun h => by cases h)⟩

theorem step_connect : (w.step toLower (.connect true)).nextSessionId =
    (max 1 w.nextSessionId + 1) % 2 ^ 16 := by
  change w.allocateSessionId.2 = _
  rw [allocateSessionId_eq]

/-- The ids go round: the counter tells how many connections there were, up to a multiple of
65535. -/
theorem counter_run (steps : List SessionStep) :
    max 1 (Run.run (step toLower) start steps).nextSessionId =
      steps.countP SessionStep.isConnect % 65535 + 1 := by
  induction steps using List.reverseRecOn with
  | nil => rfl
  | append_singleton steps i ih =>
    rw [Run.run_append, Run.run_cons, Run.run_nil, List.countP_append]
    cases hi : i.isConnect with
    | false =>
      rw [(other_step hi).1, ih, List.countP_cons_of_neg (by simp [hi]), List.countP_nil]
      rfl
    | true =>
      obtain rfl := SessionStep.eq_connect hi
      rw [step_connect, ih, List.countP_cons_of_pos hi, List.countP_nil]
      omega

theorem few_connections_free {steps : List SessionStep}
    (hbehind : ∀ id, w.Alive id → id < w.nextSessionId) (hpos : 0 < w.nextSessionId)
    (hfew : w.nextSessionId + steps.countP SessionStep.isConnect < 2 ^ 16) :
    Run.Along (step toLower) (fun w i => i = .connect true → ¬ w.Alive (max 1 w.nextSessionId)) w
      steps := by
  induction steps generalizing w with
  | nil => trivial
  | cons i steps ih =>
    cases hi : i.isConnect with
    | false =>
      rw [List.countP_cons_of_neg (by simp [hi])] at hfew
      obtain ⟨hcounter, halive⟩ : (w.step toLower i).nextSessionId = w.nextSessionId ∧
          ∀ j, (w.step toLower i).Alive j → w.Alive j := other_step hi
      refine ⟨?_, ih (fun id hid => ?_) ?_ ?_⟩
      · rintro rfl
        cases hi
      · exact hcounter ▸ hbehind id (halive id hid)
      · exact hcounter ▸ hpos
      · exact hcounter ▸ hfew
    | true =>
      obtain rfl := SessionStep.eq_connect hi
      rw [List.countP_cons_of_pos hi] at hfew
      have hmax : max 1 w.nextSessionId = w.nextSessionId := Nat.max_eq_right hpos
      have hcounter : (w.step toLower (.connect true)).nextSessionId = w.nextSessionId + 1 := by
        rw [step_connect, hmax, Nat.mod_eq_of_lt (by omega)]
      refine ⟨fun _ hid => ?_, ih (fun id hid => ?_) ?_ ?_⟩
      · rw [hmax] at hid
        exact absurd (hbehind _ hid) (lt_irrefl _)
      · rw [hcounter]
        rcases hid with hid | hid
        · rw [step, if_pos rfl, List.map_append, List.mem_append] at hid
          rcases hid with hid | hid
          · exact Nat.lt_succ_of_lt (hbehind id (.inl hid))
          · rw [List.map_singleton, List.mem_singleton, allocateSessionId_eq] at hid
            rw [hid, hmax]
            exact Nat.lt_succ_self _
        · exact Nat.lt_succ_of_lt (hbehind id (.inr hid))
      · rw [hcounter]
        exact Nat.succ_pos _
      · rw [hcounter]
        omega

theorem few_connections_fresh {steps : List SessionStep}
    (hfew : steps.countP SessionStep.isConnect < 65535) : Run.Along (step toLower)
      (fun w i => i = .connect true → ¬ w.Alive (max 1 w.nextSessionId)) start steps := by
  refine few_connections_free (fun id hid => ?_) Nat.one_pos ?_
  · rcases hid with hid | hid <;> cases hid
  · change 1 + _ < _
    omega

/-- A character's new session enters the game before the old one has gone. When the old one goes,
the index forgets the name, and the new session is not found. -/
theorem name_of_live_session_lost :
    ¬ ∀ (toLower : List Char → List Char) (steps : List SessionStep),
      Run.Along (step toLower) (fun w _ => w.clients.length < 65535) start steps →
        Run.Along (step toLower) (Identifies toLower) start steps := by
  intro h
  have hident := h (List.map Char.toLower)
    [.connect true, .enterGame 0 ['A', 'n', 'n'] 21, .connect true, .enterGame 1 ['A', 'n', 'n'] 21,
      .disconnect 0] (by decide)
  obtain ⟨-, -, -, -, hlast, -⟩ := (identifies_along_iff _ _).mp hident
  have hsame := hlast 1 true rfl ['A', 'n', 'n'] 21 rfl 2 ['A', 'n', 'n'] 21 rfl rfl
  exact absurd hsame (by decide)

end SessionTable

end KoServer
