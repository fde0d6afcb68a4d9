import KoServer.Lib.Grouping
import KoServer.Lib.Run
import KoServer.Spec.RegionGrid

/-! The region grid against the stored positions. A cell lists exactly the sessions that are
positioned in it, as long as nobody's stored position leaves its cell without the grid. -/

namespace KoServer

namespace ZoneState

variable {zone : ZoneState} {rx rz a b : ℕ} {r : Region}

theorem getRegion_eq_some :
    zone.getRegion rx rz = some r ↔
      rx < zone.maxRegion ∧ rz < zone.maxRegion ∧ zone.regions rx rz = r := by
  unfold getRegion
  split_ifs with h
  · exact iff_of_false nofun fun ⟨hx, hz, _⟩ => by omega
  · rw [Option.some.injEq]
    exact ⟨fun heq => ⟨by omega, by omega, heq⟩, fun h => h.2.2⟩

/-- What `add_user` and `remove_user` have in common. -/
def alter (zone : ZoneState) (rx rz : ℕ) (f : Region → Region) : ZoneState :=
  match zone.getRegion rx rz with
  | some r => zone.setRegion rx rz (f r)
  | none => zone

theorem getRegion_setRegion_self (h : zone.getRegion rx rz = some r) (r' : Region) :
    (zone.setRegion rx rz r').getRegion rx rz = some r' := by
  obtain ⟨hx, hz, -⟩ := getRegion_eq_some.mp h
  exact getRegion_eq_some.mpr ⟨hx, hz, by simp [setRegion]⟩

theorem getRegion_setRegion_of_ne (h : (a, b) ≠ (rx, rz)) (r' : Region) :
    (zone.setRegion rx rz r').getRegion a b = zone.getRegion a b := by
  have hregion : (zone.setRegion rx rz r').regions a b = zone.regions a b := by
    unfold setRegion
    by_cases ha : a = rx
    · subst ha
      have hb : b ≠ rz := fun hb => h (by rw [hb])
      simp [hb]
    · simp [ha]
  unfold getRegion
  rw [hregion]
  rfl

theorem getRegion_alter_self (f : Region → Region) :
    (zone.alter rx rz f).getRegion rx rz = (zone.getRegion rx rz).map f := by
  unfold alter
  cases h : zone.getRegion rx rz with
  | none => exact h
  | some r => exact getRegion_setRegion_self h (f r)

theorem getRegion_alter_of_ne (h : (a, b) ≠ (rx, rz)) (f : Region → Region) :
    (zone.alter rx rz f).getRegion a b = zone.getRegion a b := by
  unfold alter
  cases zone.getRegion rx rz with
  | none => rfl
  | some r => exact getRegion_setRegion_of_ne h (f r)

theorem mem_offsets {d : ℤ} : d ∈ [-1, 0, 1] ↔ -1 ≤ d ∧ d ≤ 1 := by
  simp only [List.mem_cons, List.not_mem_nil, or_false]
  omega

theorem mem_usersNear {dx dz : ℤ} {sid : ℕ} : sid ∈ zone.usersNear rx rz dx dz ↔
    0 ≤ neighbour rx dx ∧ 0 ≤ neighbour rz dz ∧ (neighbour rx dx).toNat < zone.maxRegion ∧
      (neighbour rz dz).toNat < zone.maxRegion ∧
      sid ∈ (zone.regions (neighbour rx dx).toNat (neighbour rz dz).toNat).users := by
  unfold usersNear
  dsimp only
  split_ifs with h
  · cases hr : zone.getRegion (neighbour rx dx).toNat (neighbour rz dz).toNat with
    | none =>
      refine iff_of_false List.not_mem_nil fun ⟨_, _, hx, hz, _⟩ => ?_
      rw [getRegion_eq_some.mpr ⟨hx, hz, rfl⟩] at hr
      cases hr
    | some r =>
      obtain ⟨hx, hz, rfl⟩ := getRegion_eq_some.mp hr
      exact ⟨fun hmem => ⟨h.1, h.2, hx, hz, hmem⟩, fun h => h.2.2.2.2⟩
  · exact iff_of_false List.not_mem_nil fun ⟨hx, hz, _⟩ => h ⟨hx, hz⟩

theorem nodup_usersNear {dx dz : ℤ} : (zone.usersNear rx rz dx dz).Nodup := by
  unfold usersNear
  dsimp only
  split_ifs
  · cases zone.getRegion (neighbour rx dx).toNat (neighbour rz dz).toNat with
    | none => exact List.nodup_nil
    | some r => exact r.nodup
  · exact List.nodup_nil

theorem maxRegion_le : zone.maxRegion ≤ 1366 := by
  have hsize := zone.mapSize_le
  unfold maxRegion VIEW_DISTANCE
  unfold U16_MAX at hsize
  omega

/-- The arithmetic of `i16` only wraps around outside of every grid. -/
theorem neighbour_eq_iff {dx : ℤ} (hrx : rx < U16_MAX) (hdx : dx ∈ [-1, 0, 1])
    (ha : a < zone.maxRegion) : neighbour rx dx = a ↔ (rx : ℤ) + dx = a := by
  have hsmall : a < 1366 := ha.trans_le zone.maxRegion_le
  have hin : rx < 65535 := hrx
  obtain ⟨hlow, hhigh⟩ := mem_offsets.mp hdx
  unfold neighbour
  rw [Int.bmod_add_bmod, Int.bmod_def, Nat.cast_ofNat]
  split_ifs with hpos
  · omega
  · omega

end ZoneState

namespace Position

def cell (pos : Position) : ℕ × ℕ × ℕ := (pos.zoneId, pos.regionX, pos.regionZ)

@[simp] theorem cell_new (zoneId : ℕ) (x z : ℚ) :
    (Position.new zoneId x z).cell = (zoneId, calcRegion x, calcRegion z) := rfl

end Position

namespace GridWorld

variable (w : GridWorld)

/-- The users that the grid of a loaded zone has in a cell. -/
def cellUsers (c : ℕ × ℕ × ℕ) : Option (List ℕ) :=
  (w.zones c.1).bind fun zone => (zone.getRegion c.2.1 c.2.2).map Region.users

/-- The cell of a position, where it is inside of the grid of a loaded zone. -/
def gridCell (pos : Position) : Option (ℕ × ℕ × ℕ) :=
  if (w.cellUsers pos.cell).isSome then some pos.cell else none

def cellOf (sid : ℕ) : Option (ℕ × ℕ × ℕ) := (w.sessions sid).bind w.gridCell

/-- The invariant: what a cell lists is what the stored positions say. -/
def Kept : Prop := Grouping.Agree w.cellOf w.cellUsers

/-- The property of the grid: in every cell, and for the nine cells around any. -/
structure Matches : Prop where
  cells : ∀ zoneId zone rx rz, w.zones zoneId = some zone → rx < zone.maxRegion →
    rz < zone.maxRegion → ∀ sid, sid ∈ (zone.regions rx rz).users ↔
      ∃ pos, w.sessions sid = some pos ∧ pos.zoneId = zoneId ∧ pos.regionX = rx ∧ pos.regionZ = rz
  once : ∀ zoneId zone rx rz, w.zones zoneId = some zone → rx < U16_MAX → rz < U16_MAX →
    (zone.getUsersIn3x3 rx rz).Nodup
  around : ∀ zoneId zone rx rz, w.zones zoneId = some zone → rx < U16_MAX → rz < U16_MAX →
    ∀ sid, sid ∈ zone.getUsersIn3x3 rx rz ↔
      ∃ pos, w.sessions sid = some pos ∧ pos.zoneId = zoneId ∧
        pos.regionX < zone.maxRegion ∧ pos.regionZ < zone.maxRegion ∧
        pos.regionX ≤ rx + 1 ∧ rx ≤ pos.regionX + 1 ∧ pos.regionZ ≤ rz + 1 ∧ rz ≤ pos.regionZ + 1

/-- The new position has the old one's cell, or neither is inside of a loaded zone's grid. -/
def Stays (sid zoneId : ℕ) (x z : ℚ) : Prop :=
  ∀ pos, w.sessions sid = some pos → w.gridCell (Position.new zoneId x z) = w.gridCell pos

/-- The condition on a step: a temple event or the end of a soccer match, which leave the grid
alone, does not take anybody out of a cell or into one. -/
def Tracks : GridStep → Prop
  | .templeTeleport sid zoneId => w.Stays sid zoneId 0 0
  | .templeKick sid eventZone nation level =>
    w.Stays sid (kickOutDestination eventZone nation level) 0 0
  | .soccerWarp sid zoneId destX destZ => w.Stays sid zoneId destX destZ
  | _ => True

variable {w} {w' : GridWorld} {sid : ℕ} {pos pos' : Position} {c : ℕ × ℕ × ℕ} {l : List ℕ}

theorem cellUsers_eq_some : w.cellUsers c = some l ↔ ∃ zone, w.zones c.1 = some zone ∧
    c.2.1 < zone.maxRegion ∧ c.2.2 < zone.maxRegion ∧ (zone.regions c.2.1 c.2.2).users = l := by
  unfold cellUsers
  constructor
  · intro h
    obtain ⟨zone, hzone, h⟩ := Option.bind_eq_some_iff.mp h
    obtain ⟨r, hr, rfl⟩ := Option.map_eq_some_iff.mp h
    obtain ⟨hx, hz, rfl⟩ := ZoneState.getRegion_eq_some.mp hr
    exact ⟨zone, hzone, hx, hz, rfl⟩
  · rintro ⟨zone, hzone, hx, hz, rfl⟩
    rw [hzone, Option.bind_some, ZoneState.getRegion_eq_some.mpr ⟨hx, hz, rfl⟩]
    rfl

theorem gridCell_eq_some : w.gridCell pos = some c ↔ pos.cell = c ∧ (w.cellUsers c).isSome := by
  unfold gridCell
  split_ifs with h
  · rw [Option.some.injEq]
    exact ⟨fun heq => ⟨heq, heq ▸ h⟩, fun heq => heq.1⟩
  · exact iff_of_false nofun fun ⟨heq, hsome⟩ => h (heq ▸ hsome)

theorem gridCell_congr (h : pos.cell = pos'.cell) : w.gridCell pos = w.gridCell pos' := by
  unfold gridCell
  rw [h]

theorem cellOf_eq_some : w.cellOf sid = some c ↔
    (∃ pos, w.sessions sid = some pos ∧ pos.cell = c) ∧ (w.cellUsers c).isSome := by
  unfold cellOf
  constructor
  · intro h
    obtain ⟨pos, hpos, h⟩ := Option.bind_eq_some_iff.mp h
    obtain ⟨heq, hsome⟩ := gridCell_eq_some.mp h
    exact ⟨⟨pos, hpos, heq⟩, hsome⟩
  · rintro ⟨⟨pos, hpos, heq⟩, hsome⟩
    rw [hpos]
    exact gridCell_eq_some.mpr ⟨heq, hsome⟩

/-- Worlds whose grids reach as far. -/
def SameGrid (w w' : GridWorld) : Prop := ∀ c, (w'.cellUsers c).isSome = (w.cellUsers c).isSome

theorem SameGrid.gridCell_eq (h : SameGrid w w') : w'.gridCell = w.gridCell := by
  funext pos
  unfold gridCell
  rw [h pos.cell]

theorem SameGrid.cellOf_update (h : SameGrid w w') {p : Option Position}
    (hs : w'.sessions = Function.update w.sessions sid p) :
    w'.cellOf = Function.update w.cellOf sid (p.bind w.gridCell) := by
  funext j
  unfold cellOf
  rw [hs, h.gridCell_eq]
  by_cases hj : j = sid
  · rw [hj, Function.update_self, Function.update_self]
  · rw [Function.update_of_ne hj, Function.update_of_ne hj]

/-- A cell of a zone changed, where the zone is loaded. -/
def alterCell (w : GridWorld) (c : ℕ × ℕ × ℕ) (f : Region → Region) : GridWorld :=
  w.withZone c.1 fun zone => zone.alter c.2.1 c.2.2 f

@[simp] theorem sessions_withZone (zoneId : ℕ) (f : ZoneState → ZoneState) :
    (w.withZone zoneId f).sessions = w.sessions := by
  unfold withZone
  cases w.zones zoneId with
  | none => rfl
  | some zone => rfl

theorem zones_withZone (zoneId : ℕ) (f : ZoneState → ZoneState) :
    (w.withZone zoneId f).zones =
      Function.update w.zones zoneId ((w.zones zoneId).map f) := by
  unfold withZone
  cases h : w.zones zoneId with
  | none => exact (Function.update_eq_self_iff.mpr h.symm).symm
  | some zone => rfl

/-- Nothing else than that cell changes, and it only where the grid has it. -/
theorem cellUsers_alterCell (f : Region → Region) (g : List ℕ → List ℕ)
    (hf : ∀ r, (f r).users = g r.users) :
    (w.alterCell c f).cellUsers = Function.update w.cellUsers c ((w.cellUsers c).map g) := by
  funext d
  unfold alterCell cellUsers
  rw [zones_withZone]
  by_cases hd : d = c
  · subst hd
    rw [Function.update_self, Function.update_self, Option.bind_map, Option.map_bind]
    congr 1
    funext zone
    simp only [Function.comp_apply, ZoneState.getRegion_alter_self, Option.map_map]
    congr 1
    funext r
    exact hf r
  · rw [Function.update_of_ne hd]
    by_cases hzone : d.1 = c.1
    · rw [hzone, Function.update_self, Option.bind_map]
      have hne : (d.2.1, d.2.2) ≠ (c.2.1, c.2.2) := fun heq => hd (Prod.ext hzone heq)
      congr 1
      funext zone
      simp only [Function.comp_apply, ZoneState.getRegion_alter_of_ne hne]
    · rw [Function.update_of_ne hzone]

theorem sameGrid_alterCell (f : Region → Region) (g : List ℕ → List ℕ)
    (hf : ∀ r, (f r).users = g r.users) : SameGrid w (w.alterCell c f) := by
  intro d
  rw [cellUsers_alterCell f g hf]
  by_cases hd : d = c
  · rw [hd, Function.update_self, Option.isSome_map]
  · rw [Function.update_of_ne hd]

theorem cellUsers_addUser (c : ℕ × ℕ × ℕ) (sid : ℕ) :
    (w.alterCell c (·.insert sid)).cellUsers =
      Function.update w.cellUsers c ((w.cellUsers c).map (·.insert sid)) :=
  cellUsers_alterCell _ _ fun _ => rfl

theorem cellUsers_removeUser (c : ℕ × ℕ × ℕ) (sid : ℕ) :
    (w.alterCell c (·.remove sid)).cellUsers =
      Function.update w.cellUsers c ((w.cellUsers c).map (·.erase sid)) :=
  cellUsers_alterCell _ _ fun _ => rfl

/-- Out of the cell that the stored position names: the session is in no cell then. -/
theorem agree_removeUser {of : ℕ → Option (ℕ × ℕ × ℕ)} (h : Grouping.Agree of w.cellUsers)
    (hof : of sid = w.gridCell pos) :
    Grouping.Agree (Function.update of sid none)
      (w.alterCell pos.cell (·.remove sid)).cellUsers := by
  rw [cellUsers_removeUser]
  cases hc : w.cellUsers pos.cell with
  | none =>
    have hnone : of sid = none := by rw [hof, gridCell, hc]; rfl
    rw [Option.map_none, ← hnone, Function.update_eq_self, ← hc, Function.update_eq_self]
    exact h
  | some l =>
    have hsome : of sid = some pos.cell := by
      rw [hof]
      exact gridCell_eq_some.mpr ⟨rfl, by rw [hc]; rfl⟩
    obtain ⟨l', hl', hmem⟩ := (h.iff sid pos.cell).mp hsome
    obtain rfl : l = l' := Option.some.inj (hc.symm.trans hl')
    exact h.leave hc (List.perm_cons_erase hmem)

/-- Into the cell of a position, for a session in no cell. -/
theorem agree_addUser {of : ℕ → Option (ℕ × ℕ × ℕ)} (h : Grouping.Agree of w.cellUsers)
    (hof : of sid = none) :
    Grouping.Agree (Function.update of sid (w.gridCell pos))
      (w.alterCell pos.cell (·.insert sid)).cellUsers := by
  rw [cellUsers_addUser]
  cases hc : w.cellUsers pos.cell with
  | none =>
    have hnone : w.gridCell pos = of sid := by rw [hof, gridCell, hc]; rfl
    rw [hnone, Option.map_none, Function.update_eq_self, ← hc, Function.update_eq_self]
    exact h
  | some l =>
    have hsome : w.gridCell pos = some pos.cell :=
      gridCell_eq_some.mpr ⟨rfl, by rw [hc]; rfl⟩
    have hnew : sid ∉ l := h.not_mem hc (by rw [hof]; exact (Option.some_ne_none _).symm)
    rw [hsome]
    refine h.enter hof hc ?_
    change (l.insert sid).Perm (sid :: l)
    rw [List.insert_of_not_mem hnew]

@[simp] theorem zones_register : (w.register sid pos).zones = w.zones := rfl

@[simp] theorem cellUsers_register : (w.register sid pos).cellUsers = w.cellUsers := rfl

@[simp] theorem gridCell_register : (w.register sid pos).gridCell = w.gridCell := rfl

@[simp] theorem sessions_register :
    (w.register sid pos).sessions = Function.update w.sessions sid (some pos) := rfl

theorem updatePosition_of_some (h : w.sessions sid = some pos) (zoneId : ℕ) (x z : ℚ) :
    (w.updatePosition sid zoneId x z).2 = w.register sid (Position.new zoneId x z) := by
  unfold updatePosition
  rw [h]
  rfl

theorem updatePosition_of_none (h : w.sessions sid = none) (zoneId : ℕ) (x z : ℚ) :
    (w.updatePosition sid zoneId x z).2 = w := by
  unfold updatePosition
  rw [h]

theorem cellOf_of_some (h : w.sessions sid = some pos) : w.cellOf sid = w.gridCell pos := by
  rw [cellOf, h]
  rfl

theorem cellOf_of_none (h : w.sessions sid = none) : w.cellOf sid = none := by
  rw [cellOf, h]
  rfl

theorem register_withZone (zoneId : ℕ) (f : ZoneState → ZoneState) :
    (w.register sid pos).withZone zoneId f = (w.withZone zoneId f).register sid pos := by
  unfold withZone register
  dsimp only
  cases w.zones zoneId with
  | none => rfl
  | some zone => rfl

theorem withZone_withZone (zoneId : ℕ) (f g : ZoneState → ZoneState) :
    (w.withZone zoneId f).withZone zoneId g = w.withZone zoneId fun zone => g (f zone) := by
  cases h : w.zones zoneId with
  | none => simp only [withZone, h]
  | some zone => simp only [withZone, h, Function.update_self, Function.update_idem]

theorem kept_start (table : ℕ → Option ZoneMap) : (start table).Kept := by
  refine ⟨fun sid c => iff_of_false nofun ?_, fun c l hl => ?_⟩
  · rintro ⟨l, hl, hmem⟩
    obtain ⟨zone, hzone, -, -, rfl⟩ := cellUsers_eq_some.mp hl
    obtain ⟨map, -, rfl⟩ := Option.map_eq_some_iff.mp hzone
    exact List.not_mem_nil hmem
  · obtain ⟨zone, -, -, -, rfl⟩ := cellUsers_eq_some.mp hl
    exact (zone.regions c.2.1 c.2.2).nodup

theorem kept_regrid (h : w.Kept) (hpos : w.sessions sid = some pos) (destZone : ℕ)
    (destX destZ : ℚ) : (w.regrid sid pos destZone destX destZ).Kept := by
  generalize hto : Position.new destZone destX destZ = dest
  have hregrid : w.regrid sid pos destZone destX destZ =
      ((w.alterCell pos.cell (·.remove sid)).register sid dest).alterCell dest.cell (·.insert sid) := by
    subst hto
    unfold regrid
    dsimp only
    rw [updatePosition_of_some (by rw [sessions_withZone]; exact hpos)]
    rfl
  have hout := agree_removeUser h (cellOf_of_some hpos)
  have hremove : SameGrid w (w.alterCell pos.cell (·.remove sid)) :=
    sameGrid_alterCell _ (·.erase sid) fun _ => rfl
  have hinsert := sameGrid_alterCell (w := (w.alterCell pos.cell (·.remove sid)).register sid dest)
    (c := dest.cell) (·.insert sid) (·.insert sid) fun _ => rfl
  have hin : Grouping.Agree _ ((((w.alterCell pos.cell (·.remove sid)).register sid dest).alterCell
      dest.cell (·.insert sid)).cellUsers) := agree_addUser hout (Function.update_self ..)
  rw [gridCell_register, hremove.gridCell_eq, Function.update_idem] at hin
  rw [hregrid]
  unfold Kept
  have hsessions : (((w.alterCell pos.cell (·.remove sid)).register sid dest).alterCell dest.cell
      (·.insert sid)).sessions = Function.update w.sessions sid (some dest) := by
    rw [alterCell, sessions_withZone, sessions_register, alterCell, sessions_withZone]
  rw [SameGrid.cellOf_update (fun c => (hinsert c).trans (hremove c)) hsessions]
  exact hin

/-- A new position in the same cell, or inside of no grid as the old one. -/
theorem kept_register (h : w.Kept) (hpos : w.sessions sid = some pos)
    (hcell : w.gridCell pos' = w.gridCell pos) : (w.register sid pos').Kept := by
  unfold Kept
  rw [@SameGrid.cellOf_update w (w.register sid pos') sid (fun _ => rfl) _ sessions_register,
    Option.bind_some, hcell, ← cellOf_of_some hpos, Function.update_eq_self]
  exact h

theorem kept_updatePosition (h : w.Kept) {zoneId : ℕ} {x z : ℚ} (hstays : w.Stays sid zoneId x z) :
    (w.updatePosition sid zoneId x z).2.Kept := by
  cases hpos : w.sessions sid with
  | none =>
    rw [updatePosition_of_none hpos]
    exact h
  | some pos =>
    rw [updatePosition_of_some hpos]
    exact kept_register h hpos (hstays pos hpos)

theorem kept_handlePhase2 (h : w.Kept) (sid zoneId : ℕ) (x z : ℚ) :
    (w.handlePhase2 sid zoneId x z).Kept := by
  unfold handlePhase2
  cases hpos : w.sessions sid with
  | some pos => exact h
  | none =>
    change ((w.register sid (Position.new zoneId x z)).alterCell (Position.new zoneId x z).cell
      (·.insert sid)).Kept
    generalize Position.new zoneId x z = dest
    have hinsert := sameGrid_alterCell (w := w.register sid dest) (c := dest.cell) (·.insert sid)
      (·.insert sid) fun _ => rfl
    have hin : Grouping.Agree _ (((w.register sid dest).alterCell dest.cell
        (·.insert sid)).cellUsers) := agree_addUser h (cellOf_of_none hpos)
    have hsessions : ((w.register sid dest).alterCell dest.cell (·.insert sid)).sessions =
        Function.update w.sessions sid (some dest) := by
      rw [alterCell, sessions_withZone, sessions_register]
    have hgrid : SameGrid w ((w.register sid dest).alterCell dest.cell (·.insert sid)) := hinsert
    unfold Kept
    rw [SameGrid.cellOf_update hgrid hsessions]
    exact hin

theorem kept_handleMove (h : w.Kept) (sid : ℕ) (admitted : Bool) (willX willZ : ℕ) :
    (w.handleMove sid admitted willX willZ).Kept := by
  unfold handleMove
  cases hpos : w.sessions sid with
  | none => exact h
  | some snap =>
    dsimp only
    split_ifs with hreject
    · exact h
    · unfold updatePosition
      rw [hpos]
      dsimp only
      split_ifs with hregion
      · -- The closure on the zone is the same as two, with the position stored in between.
        have hmoved := kept_regrid h hpos snap.zoneId (willX / 10) (willZ / 10)
        unfold regrid at hmoved
        dsimp only at hmoved
        rw [updatePosition_of_some (by rw [sessions_withZone]; exact hpos), ← register_withZone,
          withZone_withZone] at hmoved
        exact hmoved
      · refine kept_register h hpos (gridCell_congr ?_)
        rw [not_or, not_not, not_not] at hregion
        rw [Position.cell_new, Position.cell, hregion.1, hregion.2]

theorem kept_sameZoneWarp (h : w.Kept) (sid : ℕ) (destX destZ : ℚ) :
    (w.sameZoneWarp sid destX destZ).Kept := by
  unfold sameZoneWarp
  cases hpos : w.sessions sid with
  | none => exact h
  | some pos =>
    dsimp only
    split_ifs with hout
    · exact h
    · exact kept_regrid h hpos pos.zoneId destX destZ

theorem kept_triggerZoneChange (h : w.Kept) (sid destZone : ℕ) (destX destZ : ℚ) (drawn : ℚ × ℚ)
    (may admitted : Bool) :
    (w.triggerZoneChange sid destZone destX destZ drawn may admitted).Kept := by
  unfold triggerZoneChange
  cases hpos : w.sessions sid with
  | none =>
    dsimp only
    rw [ite_self]
    exact h
  | some pos =>
    dsimp only
    split_ifs with hmay hsame hloaded hreject
    · exact h
    · exact kept_sameZoneWarp h sid destX destZ
    · exact h
    · exact h
    · exact kept_regrid h hpos destZone _ _

theorem kept_serverTeleportToZone (h : w.Kept) (sid destZone : ℕ) (destX destZ : ℚ)
    (drawn : ℚ × ℚ) : (w.serverTeleportToZone sid destZone destX destZ drawn).Kept := by
  unfold serverTeleportToZone
  cases hpos : w.sessions sid with
  | none => exact h
  | some pos =>
    dsimp only
    split_ifs with hsame
    · exact h
    · exact kept_regrid h hpos destZone _ _

theorem kept_leaveGame (h : w.Kept) (sid : ℕ) : (w.leaveGame sid).Kept := by
  unfold leaveGame
  cases hpos : w.sessions sid with
  | none => exact h
  | some pos =>
    have hout := agree_removeUser h (cellOf_of_some hpos)
    have hremove : SameGrid w (w.alterCell pos.cell (·.remove sid)) :=
      sameGrid_alterCell _ (·.erase sid) fun _ => rfl
    change ((w.alterCell pos.cell (·.remove sid)).unregister sid).Kept
    unfold Kept
    have hgone : SameGrid w ((w.alterCell pos.cell (·.remove sid)).unregister sid) := hremove
    have hsessions : ((w.alterCell pos.cell (·.remove sid)).unregister sid).sessions =
        Function.update w.sessions sid none := by
      rw [unregister, alterCell, sessions_withZone]
    rw [SameGrid.cellOf_update hgone hsessions]
    exact hout

theorem kept_step (h : w.Kept) (i : GridStep) (hok : w.Tracks i) : (w.step i).Kept := by
  cases i with
  | enterGame sid zoneId x z => exact kept_handlePhase2 h sid zoneId x z
  | move sid admitted willX willZ => exact kept_handleMove h sid admitted willX willZ
  | sameZoneWarp sid destX destZ => exact kept_sameZoneWarp h sid destX destZ
  | zoneChange sid destZone destX destZ drawn may admitted =>
    exact kept_triggerZoneChange h sid destZone destX destZ drawn may admitted
  | serverTeleport sid destZone destX destZ drawn =>
    exact kept_serverTeleportToZone h sid destZone destX destZ drawn
  | templeTeleport sid zoneId => exact kept_updatePosition h hok
  | templeKick sid eventZone nation level => exact kept_updatePosition h hok
  | soccerWarp sid zoneId destX destZ => exact kept_updatePosition h hok
  | logout sid => exact kept_leaveGame h sid
  | disconnect sid => exact kept_leaveGame h sid

theorem Kept.mem_iff (h : w.Kept) {zoneId rx rz : ℕ} {zone : ZoneState}
    (hzone : w.zones zoneId = some zone) (hx : rx < zone.maxRegion) (hz : rz < zone.maxRegion)
    (sid : ℕ) : sid ∈ (zone.regions rx rz).users ↔
      ∃ pos, w.sessions sid = some pos ∧ pos.zoneId = zoneId ∧ pos.regionX = rx ∧
        pos.regionZ = rz := by
  have hcell : w.cellUsers (zoneId, rx, rz) = some (zone.regions rx rz).users :=
    cellUsers_eq_some.mpr ⟨zone, hzone, hx, hz, rfl⟩
  have hof := h.iff sid (zoneId, rx, rz)
  rw [hcell] at hof
  simp only [Option.some.injEq, exists_eq_left'] at hof
  rw [← hof, cellOf_eq_some, hcell]
  simp only [Option.isSome_some, and_true, Position.cell, Prod.mk.injEq]

theorem Kept.of_mem (h : w.Kept) {zoneId : ℕ} {zone : ZoneState}
    (hzone : w.zones zoneId = some zone) {rx rz : ℕ} {dx dz : ℤ}
    (hmem : sid ∈ zone.usersNear rx rz dx dz) :
    ∃ pos, w.sessions sid = some pos ∧ pos.zoneId = zoneId ∧ pos.regionX < zone.maxRegion ∧
      pos.regionZ < zone.maxRegion ∧ ZoneState.neighbour rx dx = pos.regionX ∧
      ZoneState.neighbour rz dz = pos.regionZ := by
  obtain ⟨hnx, hnz, hx, hz, husers⟩ := ZoneState.mem_usersNear.mp hmem
  obtain ⟨pos, hpos, hid, hposX, hposZ⟩ := (h.mem_iff hzone hx hz sid).mp husers
  exact ⟨pos, hpos, hid, hposX ▸ hx, hposZ ▸ hz, by omega, by omega⟩

/-- Two of the nine cells list nobody in common. -/
theorem Kept.same_place (h : w.Kept) {zoneId : ℕ} {zone : ZoneState}
    (hzone : w.zones zoneId = some zone) {rx rz : ℕ} (hrx : rx < U16_MAX) (hrz : rz < U16_MAX)
    {dx dz dx' dz' : ℤ} (hdx : dx ∈ [-1, 0, 1]) (hdz : dz ∈ [-1, 0, 1]) (hdx' : dx' ∈ [-1, 0, 1])
    (hdz' : dz' ∈ [-1, 0, 1]) (hmem : sid ∈ zone.usersNear rx rz dx dz)
    (hmem' : sid ∈ zone.usersNear rx rz dx' dz') : dx = dx' ∧ dz = dz' := by
  obtain ⟨pos, hpos, -, hx, hz, hnx, hnz⟩ := h.of_mem hzone hmem
  obtain ⟨pos', hpos', -, -, -, hnx', hnz'⟩ := h.of_mem hzone hmem'
  obtain rfl : pos = pos' := Option.some.inj (hpos.symm.trans hpos')
  rw [ZoneState.neighbour_eq_iff hrx hdx hx] at hnx
  rw [ZoneState.neighbour_eq_iff hrx hdx' hx] at hnx'
  rw [ZoneState.neighbour_eq_iff hrz hdz hz] at hnz
  rw [ZoneState.neighbour_eq_iff hrz hdz' hz] at hnz'
  omega

theorem Kept.nodup_users3x3 (h : w.Kept) {zoneId : ℕ} {zone : ZoneState}
    (hzone : w.zones zoneId = some zone) {rx rz : ℕ} (hrx : rx < U16_MAX) (hrz : rz < U16_MAX) :
    (zone.getUsersIn3x3 rx rz).Nodup := by
  unfold ZoneState.getUsersIn3x3
  refine List.nodup_flatMap.mpr ⟨fun dx hdx => List.nodup_flatMap.mpr ⟨fun dz _ =>
    ZoneState.nodup_usersNear, ?_⟩, ?_⟩
  · refine List.Pairwise.imp_of_mem ?_ (by decide : List.Pairwise (· ≠ ·) [(-1 : ℤ), 0, 1])
    intro dz dz' hdz hdz' hne sid hmem hmem'
    exact hne (h.same_place hzone hrx hrz hdx hdz hdx hdz' hmem hmem').2
  · refine List.Pairwise.imp_of_mem ?_ (by decide : List.Pairwise (· ≠ ·) [(-1 : ℤ), 0, 1])
    intro dx dx' hdx hdx' hne sid hmem hmem'
    obtain ⟨dz, hdz, hmem⟩ := List.mem_flatMap.mp hmem
    obtain ⟨dz', hdz', hmem'⟩ := List.mem_flatMap.mp hmem'
    exact hne (h.same_place hzone hrx hrz hdx hdz hdx' hdz' hmem hmem').1

theorem Kept.mem_users3x3 (h : w.Kept) {zoneId : ℕ} {zone : ZoneState}
    (hzone : w.zones zoneId = some zone) {rx rz : ℕ} (hrx : rx < U16_MAX) (hrz : rz < U16_MAX)
    (sid : ℕ) : sid ∈ zone.getUsersIn3x3 rx rz ↔
      ∃ pos, w.sessions sid = some pos ∧ pos.zoneId = zoneId ∧
        pos.regionX < zone.maxRegion ∧ pos.regionZ < zone.maxRegion ∧
        pos.regionX ≤ rx + 1 ∧ rx ≤ pos.regionX + 1 ∧ pos.regionZ ≤ rz + 1 ∧
        rz ≤ pos.regionZ + 1 := by
  rw [ZoneState.getUsersIn3x3, List.mem_flatMap]
  constructor
  · rintro ⟨dx, hdx, hmem⟩
    obtain ⟨dz, hdz, hmem⟩ := List.mem_flatMap.mp hmem
    obtain ⟨pos, hpos, hid, hx, hz, hnx, hnz⟩ := h.of_mem hzone hmem
    rw [ZoneState.neighbour_eq_iff hrx hdx hx] at hnx
    rw [ZoneState.neighbour_eq_iff hrz hdz hz] at hnz
    rw [ZoneState.mem_offsets] at hdx hdz
    exact ⟨pos, hpos, hid, hx, hz, by omega, by omega, by omega, by omega⟩
  · rintro ⟨pos, hpos, hid, hx, hz, hx1, hx2, hz1, hz2⟩
    have hdx : (pos.regionX : ℤ) - rx ∈ [-1, 0, 1] := ZoneState.mem_offsets.mpr (by omega)
    have hdz : (pos.regionZ : ℤ) - rz ∈ [-1, 0, 1] := ZoneState.mem_offsets.mpr (by omega)
    have hnx := (ZoneState.neighbour_eq_iff hrx hdx hx).mpr (by omega)
    have hnz := (ZoneState.neighbour_eq_iff hrz hdz hz).mpr (by omega)
    refine ⟨_, hdx, List.mem_flatMap.mpr ⟨_, hdz, ZoneState.mem_usersNear.mpr ?_⟩⟩
    rw [hnx, hnz]
    refine ⟨by omega, by omega, hx, hz, ?_⟩
    exact (h.mem_iff hzone hx hz sid).mpr ⟨pos, hpos, hid, rfl, rfl⟩

theorem Kept.matches (h : w.Kept) : w.Matches where
  cells _ _ _ _ hzone hx hz sid := h.mem_iff hzone hx hz sid
  once _ _ _ _ hzone hrx hrz := h.nodup_users3x3 hzone hrx hrz
  around _ _ _ _ hzone hrx hrz sid := h.mem_users3x3 hzone hrx hrz sid

/-- The condition is exact: a step that keeps the grid and takes a session out of its cell, or into
one, leaves a grid that does not match. -/
theorem stays_of_matches (h : w.Kept) {zoneId : ℕ} {x z : ℚ}
    (hmatches : (w.updatePosition sid zoneId x z).2.Matches) : w.Stays sid zoneId x z := by
  intro pos hpos
  rw [updatePosition_of_some hpos] at hmatches
  generalize Position.new zoneId x z = pos' at hmatches ⊢
  have hlisted : ∀ c, (w.cellUsers c).isSome → (pos'.cell = c ↔ pos.cell = c) := by
    intro c hc
    obtain ⟨l, hl⟩ := Option.isSome_iff_exists.mp hc
    obtain ⟨zone, hzone, hx, hz, -⟩ := cellUsers_eq_some.mp hl
    have hold := h.mem_iff hzone hx hz sid
    have hnew := hmatches.cells c.1 zone c.2.1 c.2.2 hzone hx hz sid
    rw [hold] at hnew
    simp only [sessions_register, Function.update_self, hpos, Option.some.injEq,
      exists_eq_left'] at hnew
    simp only [Position.cell, Prod.ext_iff]
    exact hnew.symm
  refine Option.ext fun c => ?_
  rw [gridCell_eq_some, gridCell_eq_some]
  exact and_congr_left (hlisted c)

/-- In every state of a run whose steps meet the condition the grid matches the positions. -/
theorem grid_matches (table : ℕ → Option ZoneMap) (steps : List GridStep)
    (hok : Run.Along step Tracks (start table) steps) :
    (Run.run step (start table) steps).Matches :=
  (Run.invariant Kept (fun _ i h hi => kept_step h i hi) hok (kept_start table)).matches

def twoZones (zoneId : ℕ) : Option ZoneMap :=
  if zoneId = ZONE_MORADON ∨ zoneId = ZONE_BORDER_DEFENSE_WAR then
    some { mapSize := 1024, mapSize_le := by decide }
  else none

theorem grid_matches_warps :
    (Run.run step (start twoZones)
      [.enterGame 1 ZONE_MORADON 500 500, .move 1 true 6000 5000, .sameZoneWarp 1 100 100,
        .serverTeleport 1 ZONE_BORDER_DEFENSE_WAR 300 300 (0, 0), .logout 1]).Matches :=
  grid_matches twoZones _ ⟨trivial, trivial, trivial, trivial, trivial, trivial⟩

/-- A temple event takes a player from Moradon to its own zone. The grid of Moradon keeps the
session, and the grid of the event's zone does not get it. -/
theorem temple_leaves_ghost :
    ¬ ∀ (table : ℕ → Option ZoneMap) (steps : List GridStep),
      (Run.run step (start table) steps).Matches := by
  intro h
  have hmatches := h twoZones
    [.enterGame 1 ZONE_MORADON 10 10, .templeTeleport 1 ZONE_BORDER_DEFENSE_WAR]
  generalize hw : Run.run step _ _ = w at hmatches
  obtain ⟨zone, hzone⟩ : ∃ zone, w.zones ZONE_MORADON = some zone :=
    Option.isSome_iff_exists.mp (hw ▸ by decide +kernel)
  have hmem : 1 ∈ (zone.regions 0 0).users := by
    have hlisted : (w.zones ZONE_MORADON).map (fun zone => (zone.regions 0 0).users) = some [1] :=
      hw ▸ by decide +kernel
    rw [hzone, Option.map_some, Option.some.injEq] at hlisted
    rw [hlisted]
    exact List.mem_singleton_self 1
  obtain ⟨pos, hpos, hid, -⟩ := (hmatches.cells _ zone 0 0 hzone (Nat.succ_pos _)
    (Nat.succ_pos _) 1).mp hmem
  have hgone : (w.sessions 1).map Position.zoneId = some ZONE_BORDER_DEFENSE_WAR :=
    hw ▸ by decide +kernel
  rw [hpos, Option.map_some, hid] at hgone
  exact absurd (Option.some.inj hgone) (by decide)

end GridWorld

end KoServer
