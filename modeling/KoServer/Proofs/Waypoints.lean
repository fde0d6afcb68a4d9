import Mathlib.Tactic.FieldSimp
import KoServer.Proofs.Pathfind

/-! Whether the waypoints of a path can be walked from cell to cell. A path that is capped ends with
a leap to the goal. -/

namespace KoServer

open AStar (Route)

structure MapData.Walks (map : MapData) (start goal : Cell) (cells : List Cell) : Prop where
  steps : (start :: cells).IsChain fun u v => max (v.1 - u.1).natAbs (v.2 - u.2).natAbs ≤ 1
  walkable : ∀ cell ∈ start :: cells, map.isWalkable cell.1 cell.2 = true
  last : cells.getLast? = some goal

def MapData.Cheapest (map : MapData) (start goal : Cell) (cells : List Cell) : Prop :=
  ∃ cost, Route map.Step start cells goal cost ∧
    ∀ cells' cost', Route map.Step start cells' goal cost' → cost ≤ cost'

section

variable {cameFrom : Cell → Option Cell} {start cell : Cell} {cells cells' : List Cell}
  {fuel fuel' k : ℕ}

theorem backLinks_mono (h : backLinks cameFrom start fuel cell = some cells) (hle : fuel ≤ fuel') :
    backLinks cameFrom start fuel' cell = some cells := by
  induction fuel generalizing cell cells fuel' with
  | zero => cases h
  | succ fuel ih =>
    obtain ⟨fuel', rfl⟩ := Nat.exists_eq_add_of_le' (Nat.le_of_add_left_le hle)
    unfold backLinks at h ⊢
    split_ifs at h ⊢
    · exact h
    · cases hparent : cameFrom cell with
      | none =>
        rw [hparent] at h
        exact h
      | some parent =>
        rw [hparent] at h
        obtain ⟨rest, hrest, rfl⟩ := Option.map_eq_some_iff.mp h
        dsimp only
        rw [ih hrest (Nat.le_of_succ_le_succ hle)]
        rfl

end

section

variable {map : MapData} {start goal : Cell} {cells : List Cell} {goalWorld : ℚ × ℚ} {cost : ℕ}

theorem toGrid_center (hunit : 0 < map.unitDist) {i : ℤ} (hi : 0 ≤ i) :
    map.toGrid (i * map.unitDist + map.unitDist * (1 / 2)) = i := by
  have hquot : (i * map.unitDist + map.unitDist * (1 / 2)) / map.unitDist = i + 1 / 2 := by
    field_simp
  have hpos : (0 : ℚ) ≤ i + 1 / 2 := add_nonneg (Int.cast_nonneg hi) (by norm_num)
  unfold MapData.toGrid
  rw [hquot, if_pos hpos, Int.floor_intCast_add]
  norm_num

theorem toCell_center (hunit : 0 < map.unitDist) {cell : Cell}
    (hcell : map.isWalkable cell.1 cell.2 = true) : map.toCell (map.center cell) = cell := by
  unfold MapData.isWalkable at hcell
  simp only [Bool.and_eq_true, decide_eq_true_eq] at hcell
  exact Prod.ext (toGrid_center hunit hcell.1.1.1.1) (toGrid_center hunit hcell.1.1.1.2)

theorem toWaypoints_eq (hne : cells ≠ []) : map.toWaypoints cells goalWorld =
    (cells.take MAX_PATH_LINE).dropLast.map map.center ++ [goalWorld] := by
  have hpath : cells.take MAX_PATH_LINE ≠ [] := by
    simpa [MAX_PATH_LINE] using hne
  unfold MapData.toWaypoints
  dsimp only
  generalize cells.take MAX_PATH_LINE = path at hpath
  obtain ⟨front, last, rfl⟩ := path.eq_nil_or_concat.resolve_left hpath
  rw [List.concat_eq_append, List.mapIdx_concat, List.dropLast_concat, List.length_append,
    List.length_singleton, Nat.add_sub_cancel, if_pos rfl, List.mapIdx_eq_zipIdx_map]
  congr 1
  refine List.ext_getElem (by simp) fun i hi _ => ?_
  rw [List.length_map, List.length_zipIdx] at hi
  simp [hi.ne]

theorem toWaypoints_toCell (hunit : 0 < map.unitDist) (hne : cells ≠ [])
    (hcells : ∀ cell ∈ cells, map.isWalkable cell.1 cell.2 = true) :
    (map.toWaypoints cells goalWorld).map map.toCell =
      (cells.take MAX_PATH_LINE).dropLast ++ [map.toCell goalWorld] := by
  rw [toWaypoints_eq hne, List.map_append, List.map_map]
  congr 1
  refine (List.map_congr_left fun cell hcell => ?_).trans (List.map_id _)
  exact toCell_center hunit (hcells cell (List.mem_of_mem_take (List.dropLast_subset _ hcell)))

theorem step_cost {u v : Cell} (h : map.Step u v cost) :
    COST_ORTHOGONAL ≤ cost ∧ cost ≤ COST_DIAGONAL := by
  rw [h.cost]
  split_ifs <;> decide

theorem walks_of_route (hstart : map.isWalkable start.1 start.2 = true) (hne : cells ≠ [])
    (h : Route map.Step start cells goal cost) : map.Walks start goal cells where
  steps := h.isChain.2.imp fun u v ⟨_, hstep⟩ => hstep.adjacent.le
  walkable := fun cell hcell => by
    rcases List.mem_cons.mp hcell with rfl | hcell
    · exact hstart
    · obtain ⟨_, _, hstep⟩ := h.entered cell hcell
      exact hstep.walkable
  last := by
    have hlast := h.isChain.1
    rwa [List.getLast?_cons_of_ne_nil hne] at hlast

theorem not_walks_of_capped (h : Route map.Step start cells goal cost)
    (hleast : ∀ cells' cost', Route map.Step start cells' goal cost' → cost ≤ cost')
    (hlong : MAX_PATH_LINE < cells.length) :
    ¬map.Walks start goal ((cells.take MAX_PATH_LINE).dropLast ++ [goal]) := by
  intro hwalks
  rw [List.dropLast_take hlong] at hwalks
  rw [← List.take_append_drop (MAX_PATH_LINE - 1) cells] at h
  obtain ⟨mid, cost₁, cost₂, hfirst, hrest, rfl⟩ := h.split
  have hrestCost := hrest.length_le fun _ _ _ hstep => (step_cost hstep).1
  have hchain := hwalks.steps
  rw [← List.cons_append, List.isChain_append] at hchain
  have hlast := hchain.2.2 mid hfirst.isChain.1 goal rfl
  have hwalkable := hwalks.walkable goal (by simp)
  rw [List.length_drop] at hrestCost
  unfold COST_ORTHOGONAL MAX_PATH_LINE at *
  rcases Nat.lt_or_ge 0 (max (goal.1 - mid.1).natAbs (goal.2 - mid.2).natAbs) with hnext | hsame
  · obtain ⟨last, hstep⟩ : ∃ last, map.Step mid goal last := ⟨_, hwalkable, by omega, rfl⟩
    have hle := hleast _ _ (hfirst.snoc hstep)
    have hstepCost := (step_cost hstep).2
    unfold COST_DIAGONAL at hstepCost
    omega
  · obtain rfl : mid = goal := Prod.ext (by omega) (by omega)
    have hle := hleast _ _ hfirst
    omega

end

section

variable {map : MapData} {startWorld goalWorld : ℚ × ℚ} {fuel : ℕ} {result : PathResult}

theorem findPath_found (hresult : map.findPath fuel startWorld goalWorld = some result)
    (hfound : result.found = true) :
    0 < map.unitDist ∧
    map.isWalkable (map.toCell startWorld).1 (map.toCell startWorld).2 = true ∧
    map.isWalkable (map.toCell goalWorld).1 (map.toCell goalWorld).2 = true ∧
    (map.toCell startWorld = map.toCell goalWorld ∧ result.waypoints = [goalWorld] ∨
      map.toCell startWorld ≠ map.toCell goalWorld ∧ ∃ cameFrom cells,
        map.search (map.toCell startWorld) (map.toCell goalWorld) = .goal cameFrom ∧
        backLinks cameFrom (map.toCell startWorld) fuel (map.toCell goalWorld) = some cells ∧
        result.waypoints = map.toWaypoints cells.reverse goalWorld) := by
  unfold MapData.findPath at hresult
  dsimp only at hresult
  split_ifs at hresult with hunit hblocked hsame
  · cases hresult
    cases hfound
  · cases hresult
    cases hfound
  · cases hresult
    simp only [Bool.or_eq_true, Bool.not_eq_true', not_or, Bool.not_eq_false] at hblocked
    exact ⟨not_le.mp hunit, hblocked.1, hblocked.2, .inl ⟨hsame, rfl⟩⟩
  · simp only [Bool.or_eq_true, Bool.not_eq_true', not_or, Bool.not_eq_false] at hblocked
    refine ⟨not_le.mp hunit, hblocked.1, hblocked.2, .inr ⟨hsame, ?_⟩⟩
    cases hsearch : map.search (map.toCell startWorld) (map.toCell goalWorld) with
    | goal cameFrom =>
      rw [hsearch] at hresult
      obtain ⟨cells, hcells, rfl⟩ := Option.map_eq_some_iff.mp hresult
      exact ⟨cameFrom, cells, rfl, hcells, rfl⟩
    | exhausted =>
      rw [hsearch] at hresult
      cases hresult
      cases hfound
    | iterationLimit =>
      rw [hsearch] at hresult
      cases hresult
      cases hfound

theorem cheapest_nil (cell : Cell) : map.Cheapest cell cell [] :=
  ⟨0, .nil cell, fun _ _ _ => Nat.zero_le _⟩

/-- The waypoints of a path can be walked from cell to cell where no route of the least cost has
more cells than the cap, and not where all have more. -/
theorem waypoints_walk_within_cap (map : MapData) (startWorld goalWorld : ℚ × ℚ) (fuel : ℕ)
    (result : PathResult) (hresult : map.findPath fuel startWorld goalWorld = some result)
    (hfound : result.found = true) :
    ((∀ cells, map.Cheapest (map.toCell startWorld) (map.toCell goalWorld) cells →
        cells.length ≤ MAX_PATH_LINE) →
      map.Walks (map.toCell startWorld) (map.toCell goalWorld)
        (result.waypoints.map map.toCell)) ∧
    (map.Walks (map.toCell startWorld) (map.toCell goalWorld)
        (result.waypoints.map map.toCell) →
      ∃ cells, map.Cheapest (map.toCell startWorld) (map.toCell goalWorld) cells ∧
        cells.length ≤ MAX_PATH_LINE) := by
  obtain ⟨hunit, hstart, hgoal, ⟨hsame, hwaypoints⟩ | ⟨hne, cameFrom, cells, hsearch, hcells,
    hwaypoints⟩⟩ := findPath_found hresult hfound
  · rw [hwaypoints, List.map_singleton, hsame]
    refine ⟨fun _ => ⟨?_, ?_, rfl⟩, fun _ => ⟨[], cheapest_nil _, Nat.zero_le _⟩⟩
    · simp
    · simpa using hgoal
  · have hright : (map.search (map.toCell startWorld) (map.toCell goalWorld)).Right map
        (map.toCell startWorld) (map.toCell goalWorld) := search_right
    rw [hsearch] at hright
    rw [hwaypoints]
    obtain ⟨cells', cost, ⟨enough, hlinks⟩, hroute, hleast⟩ := hright
    obtain rfl : cells = cells' := Option.some.inj <|
      (backLinks_mono hcells (Nat.le_max_left fuel enough)).symm.trans
        (hlinks _ (Nat.le_max_right fuel enough))
    have hnonempty : cells.reverse ≠ [] := by
      intro hnil
      rw [hnil] at hroute
      exact hne (Option.some.inj hroute.isChain.1)
    have hwalks := walks_of_route hstart hnonempty hroute
    rw [toWaypoints_toCell hunit hnonempty fun cell hcell =>
      hwalks.walkable cell (List.mem_cons_of_mem _ hcell)]
    refine ⟨fun hcap => ?_, fun hwalked => ⟨cells.reverse, ⟨cost, hroute, hleast⟩, ?_⟩⟩
    · have hshort := hcap cells.reverse ⟨cost, hroute, hleast⟩
      rw [List.take_of_length_le hshort, List.dropLast_append_getLast? _ hwalks.last]
      exact hwalks
    · exact not_lt.mp fun hlong => not_walks_of_capped hroute hleast hlong hwalked

end

/-- Round the corner in three steps, so that no cheaper route has more than three. -/
theorem ringMap_waypoints_walk : ∃ result, ringMap.findPath 5 (2, 2) (10, 10) = some result ∧
    ringMap.Walks (ringMap.toCell (2, 2)) (ringMap.toCell (10, 10))
      (result.waypoints.map ringMap.toCell) := by
  have hany : (ringMap.findPath 5 (2, 2) (10, 10)).any (·.found) = true := by decide +kernel
  obtain ⟨result, hresult, hfound⟩ := (Option.any_eq_true ..).mp hany
  refine ⟨result, hresult, (waypoints_walk_within_cap ringMap (2, 2) (10, 10) 5 result hresult
    hfound).1 fun cells ⟨cost, hroute, hleast⟩ => ?_⟩
  have hstart : ringMap.toCell (2, 2) = (0, 0) := by decide +kernel
  have hgoal : ringMap.toCell (10, 10) = (2, 2) := by decide +kernel
  rw [hstart, hgoal] at hroute hleast
  have hcorner : Route ringMap.Step (0, 0) [(1, 0), (2, 1), (2, 2)] (2, 2) (0 + 10 + 11 + 10) :=
    ((Route.nil _).snoc ⟨by decide, by decide, by decide⟩
      |>.snoc ⟨by decide, by decide, by decide⟩).snoc ⟨by decide, by decide, by decide⟩
  have hcost := hleast _ _ hcorner
  have hlength := hroute.length_le fun _ _ _ hstep => (step_cost hstep).1
  unfold COST_ORTHOGONAL MAX_PATH_LINE at *
  omega

/-- A hundred and two cells in a row. -/
def corridorMap : MapData where
  gridSize := 102
  unitDist := 4
  isMovableGrid := fun _ z => z = 0

/-- The goal is 101 cells away: the last waypoint but one is not next to it. -/
theorem corridorMap_leaps : ¬∀ (map : MapData) (startWorld goalWorld : ℚ × ℚ) (fuel : ℕ)
    (result : PathResult), map.findPath fuel startWorld goalWorld = some result →
      result.found = true → map.Walks (map.toCell startWorld) (map.toCell goalWorld)
        (result.waypoints.map map.toCell) := by
  intro h
  have hends : (corridorMap.findPath 102 (2, 2) (406, 2)).any (fun result => result.found &&
      (result.waypoints.map corridorMap.toCell).drop 98 = [(99, 0), (101, 0)]) = true := by
    decide +kernel
  obtain ⟨result, hresult, hends⟩ := (Option.any_eq_true ..).mp hends
  obtain ⟨hfound, hdrop⟩ := Bool.and_eq_true_iff.mp hends
  have hsteps := (h corridorMap (2, 2) (406, 2) 102 result hresult hfound).steps.drop 99
  rw [List.drop_succ_cons, of_decide_eq_true hdrop] at hsteps
  exact absurd (List.isChain_pair.mp hsteps) (by decide)

end KoServer
