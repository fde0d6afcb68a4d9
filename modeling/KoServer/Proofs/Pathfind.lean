import KoServer.Lib.AStar
import KoServer.Spec.Pathfind

/-! The path search is complete and finds paths of least cost, and what becomes of a path in the
waypoints. -/

namespace KoServer

open AStar (Route)

structure MapData.Step (map : MapData) (u v : Cell) (cost : ℕ) : Prop where
  walkable : map.isWalkable v.1 v.2 = true
  adjacent : max (v.1 - u.1).natAbs (v.2 - u.2).natAbs = 1
  cost : cost = if v.1 = u.1 ∨ v.2 = u.2 then COST_ORTHOGONAL else COST_DIAGONAL

def PathSearch.toSearch (s : PathSearch) : AStar.Search Cell where
  frontier := s.openSet.map fun n => ((n.x, n.z), n.g)
  best := s.gScores
  parent := s.cameFrom

section

variable {map : MapData} {u v goal : Cell} {cost k : ℕ} {vs : List Cell}

theorem step_of_neighbor (hwalkable : map.isWalkable v.1 v.2 = true)
    (hmem : (v.1 - u.1, v.2 - u.2, cost) ∈ neighbors) : map.Step u v cost := by
  have hrow : ∀ d ∈ neighbors, max d.1.natAbs d.2.1.natAbs = 1 ∧
      d.2.2 = if d.1 = 0 ∨ d.2.1 = 0 then COST_ORTHOGONAL else COST_DIAGONAL := by decide
  obtain ⟨hadjacent, hcost⟩ := hrow _ hmem
  exact ⟨hwalkable, hadjacent, by simpa only [Int.sub_eq_zero] using hcost⟩

theorem neighbor_of_step (h : map.Step u v cost) :
    (v.1 - u.1, v.2 - u.2, cost) ∈ neighbors := by
  obtain ⟨-, hadjacent, hcost⟩ := h
  have hx : v.1 - u.1 = -1 ∨ v.1 - u.1 = 0 ∨ v.1 - u.1 = 1 := by omega
  have hz : v.2 - u.2 = -1 ∨ v.2 - u.2 = 0 ∨ v.2 - u.2 = 1 := by omega
  have hcost' : cost = if v.1 - u.1 = 0 ∨ v.2 - u.2 = 0 then COST_ORTHOGONAL else COST_DIAGONAL := by
    simpa only [Int.sub_eq_zero] using hcost
  rw [hcost']
  generalize v.1 - u.1 = dx at *
  generalize v.2 - u.2 = dz at *
  rcases hx with rfl | rfl | rfl <;> rcases hz with rfl | rfl | rfl
  all_goals
    revert hadjacent
    decide

theorem step_pos (h : map.Step u v cost) : 0 < cost := by
  rw [h.cost]
  split_ifs <;> decide

theorem heuristic_eq (x z goalX goalZ : ℤ) : heuristic x z goalX goalZ =
    10 * max (x - goalX).natAbs (z - goalZ).natAbs +
      min (x - goalX).natAbs (z - goalZ).natAbs := by
  unfold heuristic COST_DIAGONAL COST_ORTHOGONAL
  dsimp only
  omega

theorem heuristic_step (h : map.Step u v cost) :
    heuristic u.1 u.2 goal.1 goal.2 ≤ cost + heuristic v.1 v.2 goal.1 goal.2 := by
  obtain ⟨-, hadjacent, hcost⟩ := h
  rw [heuristic_eq, heuristic_eq, hcost]
  unfold COST_DIAGONAL COST_ORTHOGONAL
  split_ifs <;> omega

theorem heuristic_route (h : Route map.Step u vs v k) :
    heuristic u.1 u.2 goal.1 goal.2 ≤ k + heuristic v.1 v.2 goal.1 goal.2 := by
  induction h with
  | nil => exact (Nat.zero_add _).ge
  | snoc _ he ih =>
    have hstep := @heuristic_step _ _ _ goal _ he
    omega

theorem heuristic_goal : heuristic goal.1 goal.2 goal.1 goal.2 = 0 := by
  rw [heuristic_eq]
  omega

end

theorem popNode_spec {nodes rest : List AStarNode} {top : AStarNode}
    (h : popNode nodes = some (top, rest)) :
    top ∈ nodes ∧ rest = nodes.erase top ∧ ∀ n ∈ nodes, top.f ≤ n.f := by
  have hfold : ∀ (l : List AStarNode) (n : AStarNode),
      l.foldl (fun top n => if top.lt n then n else top) n ∈ n :: l ∧
        ∀ m ∈ n :: l, (l.foldl (fun top n => if top.lt n then n else top) n).f ≤ m.f := by
    intro l
    induction l with
    | nil => exact fun n => ⟨List.mem_cons_self, fun m hm => (List.mem_singleton.mp hm) ▸ le_refl _⟩
    | cons a l ih =>
      intro n
      rw [List.foldl_cons]
      obtain ⟨hmem, hleast⟩ := ih (if n.lt a then a else n)
      have hn : (if n.lt a then a else n).f ≤ n.f ∧ (if n.lt a then a else n).f ≤ a.f := by
        unfold AStarNode.lt
        split_ifs with hlt
        · simp only [Bool.or_eq_true, Bool.and_eq_true, decide_eq_true_eq] at hlt
          omega
        · simp only [Bool.or_eq_true, Bool.and_eq_true, decide_eq_true_eq] at hlt
          omega
      refine ⟨?_, fun m hm => ?_⟩
      · rcases List.mem_cons.mp hmem with heq | hmem
        · rw [heq]
          split_ifs <;> simp
        · exact List.mem_cons_of_mem _ (List.mem_cons_of_mem _ hmem)
      · have hfirst := hleast _ List.mem_cons_self
        rcases List.mem_cons.mp hm with rfl | hm
        · exact hfirst.trans hn.1
        · rcases List.mem_cons.mp hm with rfl | hm
          · exact hfirst.trans hn.2
          · exact hleast m (List.mem_cons_of_mem _ hm)
  cases nodes with
  | nil => cases h
  | cons n nodes =>
    obtain ⟨rfl, rfl⟩ := Prod.mk.inj (Option.some.inj h)
    exact ⟨(hfold nodes n).1, rfl, (hfold nodes n).2⟩

theorem popNode_none {nodes : List AStarNode} (h : popNode nodes = none) : nodes = [] := by
  cases nodes with
  | nil => rfl
  | cons n nodes => cases h

section

variable {map : MapData} {start goal : Cell} {current : AStarNode} {s : PathSearch}
  {ds : List (ℤ × ℤ × ℕ)}

def MapData.stepsFrom (map : MapData) (x z : ℤ) (ds : List (ℤ × ℤ × ℕ)) : List (Cell × ℕ) :=
  (ds.filter fun d => map.isWalkable (x + d.1) (z + d.2.1)).map fun d =>
    ((x + d.1, z + d.2.1), d.2.2)

theorem stepsFrom_cons (x z : ℤ) (d : ℤ × ℤ × ℕ) : map.stepsFrom x z (d :: ds) =
    if map.isWalkable (x + d.1) (z + d.2.1) then
      ((x + d.1, z + d.2.1), d.2.2) :: map.stepsFrom x z ds
    else map.stepsFrom x z ds := by
  unfold MapData.stepsFrom
  rw [List.filter_cons]
  split_ifs <;> rfl

theorem mem_stepsFrom {x z : ℤ} {v : Cell} {cost : ℕ} :
    (v, cost) ∈ map.stepsFrom x z neighbors ↔ map.Step (x, z) v cost := by
  unfold MapData.stepsFrom
  simp only [List.mem_map, List.mem_filter, Prod.mk.injEq]
  constructor
  · rintro ⟨d, ⟨hd, hwalkable⟩, hv, hcost⟩
    subst hv hcost
    refine step_of_neighbor hwalkable ?_
    simpa only [add_sub_cancel_left] using hd
  · intro h
    refine ⟨_, ⟨neighbor_of_step h, ?_⟩, ?_, rfl⟩
    · simpa only [add_sub_cancel] using h.walkable
    · simp only [add_sub_cancel]

theorem explore_toSearch : (ds.foldl (map.exploreNeighbor goal current) s).toSearch =
    (map.stepsFrom current.x current.z ds).foldl
      (AStar.relax (current.x, current.z) current.g) s.toSearch := by
  induction ds generalizing s with
  | nil => rfl
  | cons d ds ih =>
    rw [List.foldl_cons, ih]
    rw [stepsFrom_cons]
    obtain ⟨dx, dz, cost⟩ := d
    unfold MapData.exploreNeighbor
    dsimp only
    by_cases hwalkable : map.isWalkable (current.x + dx) (current.z + dz) = true
    · rw [if_pos hwalkable, if_pos hwalkable, List.foldl_cons]
      congr 1
      unfold AStar.relax AStar.Search.improves
      change _ = if ((s.gScores (current.x + dx, current.z + dz)).all fun b =>
        current.g + cost < b) = true then _ else _
      cases hscore : s.gScores (current.x + dx, current.z + dz) with
      | none => rfl
      | some b =>
        rw [Option.any_some, Option.all_some]
        by_cases hle : b ≤ current.g + cost
        · rw [if_pos (decide_eq_true hle), if_neg (by simpa using hle)]
        · rw [if_neg (by simpa using hle), if_pos (by simpa using hle)]
          rfl
    · rw [if_neg hwalkable, if_neg hwalkable]

/-- Every node shows what its cost and the heuristic add up to. -/
def PathSearch.Estimated (s : PathSearch) (goal : Cell) : Prop :=
  ∀ n ∈ s.openSet, n.f = n.g + heuristic n.x n.z goal.1 goal.2

theorem explore_estimated (h : s.Estimated goal) :
    (ds.foldl (map.exploreNeighbor goal current) s).Estimated goal := by
  induction ds generalizing s with
  | nil => exact h
  | cons d ds ih =>
    refine ih ?_
    unfold MapData.exploreNeighbor
    dsimp only
    split_ifs
    · exact h
    · intro n hn
      rcases List.mem_cons.mp hn with rfl | hn
      · rfl
      · exact h n hn
    · exact h

/-- What holds whenever a node is about to be popped. -/
structure PathSearch.Sound (map : MapData) (start goal : Cell) (s : PathSearch) : Prop where
  estimated : s.Estimated goal
  inv : AStar.Inv map.Step start (fun _ _ _ => False) s.toSearch
  waiting : AStar.Waiting s.toSearch goal

theorem sound_init : PathSearch.Sound map start goal
    { openSet := [⟨heuristic start.1 start.2 goal.1 goal.2, 0, start.1, start.2⟩]
      gScores := Function.update (fun _ => none) start (some 0)
      cameFrom := fun _ => none } where
  estimated := fun n hn => by
    rw [List.mem_singleton.mp hn]
    exact (Nat.zero_add _).symm
  inv := AStar.Inv.init
  waiting := AStar.Waiting.init

theorem mem_frontier_erase {rest : List AStarNode} (hrest : rest = s.openSet.erase current) :
    (∀ e ∈ rest.map fun n => ((n.x, n.z), n.g), e ∈ s.toSearch.frontier) ∧
      ∀ e ∈ s.toSearch.frontier, e = ((current.x, current.z), current.g) ∨
        e ∈ rest.map fun n => ((n.x, n.z), n.g) := by
  subst hrest
  refine ⟨fun e he => ?_, fun e he => ?_⟩
  · obtain ⟨n, hn, rfl⟩ := List.mem_map.mp he
    exact List.mem_map_of_mem (List.mem_of_mem_erase hn)
  · obtain ⟨n, hn, rfl⟩ := List.mem_map.mp he
    by_cases heq : n = current
    · exact .inl (by rw [heq])
    · exact .inr (List.mem_map_of_mem ((List.mem_erase_of_ne heq).mpr hn))

def SearchEnd.Right (map : MapData) (start goal : Cell) : SearchEnd → Prop
  | .goal cameFrom => ∃ cells cost,
      (∃ enough, ∀ fuel, enough ≤ fuel →
        backLinks cameFrom start fuel goal = some cells) ∧
      Route map.Step start cells.reverse goal cost ∧
      ∀ cells' cost', Route map.Step start cells' goal cost' → cost ≤ cost'
  | .exhausted => ∀ cells cost, ¬Route map.Step start cells goal cost
  | .iterationLimit => True

theorem backLinks_eq (cameFrom : Cell → Option Cell) (fuel : ℕ) (cell : Cell) :
    backLinks cameFrom start fuel cell = AStar.trace cameFrom start fuel cell := by
  induction fuel generalizing cell with
  | zero => rfl
  | succ fuel ih =>
    unfold backLinks AStar.trace
    split_ifs
    · rfl
    · cases cameFrom cell with
      | none => rfl
      | some parent =>
        dsimp only
        rw [ih parent]

/-- A node of the goal that is popped ends the search with a path of least cost. -/
theorem PathSearch.Sound.goal_popped (h : s.Sound map start goal)
    (hpopped : current ∈ s.openSet) (hleast : ∀ n ∈ s.openSet, current.f ≤ n.f)
    (hgoal : (current.x, current.z) = goal) : (SearchEnd.goal s.cameFrom).Right map start goal := by
  have hzero : current.f = current.g := by
    have hf := h.estimated current hpopped
    rw [← hgoal] at hf
    exact hf.trans (by rw [@heuristic_goal (current.x, current.z), Nat.add_zero])
  have hentry : (goal, current.g) ∈ s.toSearch.frontier := by
    rw [← hgoal]
    exact List.mem_map_of_mem (f := fun n : AStarNode => ((n.x, n.z), n.g)) hpopped
  have hmin : ∀ e ∈ s.toSearch.frontier, current.g ≤ e.2 + heuristic e.1.1 e.1.2 goal.1 goal.2 := by
    intro e he
    obtain ⟨n, hn, rfl⟩ := List.mem_map.mp he
    have hf := h.estimated n hn
    have hle := hleast n hn
    dsimp only
    omega
  have hoptimal : ∀ {cells' cost'}, Route map.Step start cells' goal cost' → current.g ≤ cost' :=
    h.inv.optimal h.waiting heuristic_goal (fun x vs k hroute => by
      have hle := @heuristic_route _ _ _ goal _ _ hroute
      rwa [heuristic_goal, Nat.add_zero] at hle) hmin
  obtain ⟨b, hbest, hb⟩ := h.inv.worse goal current.g hentry
  obtain ⟨cells, cost, htrace, hroute, hcost⟩ := h.inv.trace (fun _ _ _ => step_pos) hbest
  refine ⟨cells, cost, ⟨b + 1, fun fuel hfuel => ?_⟩, hroute, fun cells' cost' hroute' => ?_⟩
  · rw [backLinks_eq]
    exact htrace fuel hfuel
  · have hle := hoptimal hroute'
    omega

theorem PathSearch.Sound.popped (h : s.Sound map start goal) {rest : List AStarNode}
    (hrest : rest = s.openSet.erase current) (hpopped : current ∈ s.openSet)
    (hgoal : (current.x, current.z) ≠ goal) :
    if (s.gScores (current.x, current.z)).any fun bestG => bestG < current.g then
      PathSearch.Sound map start goal { s with openSet := rest }
    else PathSearch.Sound map start goal
      (neighbors.foldl (map.exploreNeighbor goal current) { s with openSet := rest }) := by
  obtain ⟨hsub, hleft⟩ := mem_frontier_erase (s := s) hrest
  have hestimated : PathSearch.Estimated { s with openSet := rest } goal := fun n hn =>
    h.estimated n (List.mem_of_mem_erase (hrest ▸ hn))
  have hwaiting := h.waiting.pop hgoal hleft
  obtain ⟨b, hbest, hb⟩ := h.inv.worse (current.x, current.z) current.g
    (List.mem_map_of_mem (f := fun n : AStarNode => ((n.x, n.z), n.g)) hpopped)
  change s.gScores (current.x, current.z) = some b at hbest
  rw [hbest, Option.any_some]
  split_ifs with hstale
  · refine ⟨hestimated, h.inv.pop hsub hleft fun hcurrent => ?_, hwaiting⟩
    obtain rfl : b = current.g := Option.some.inj (hbest.symm.trans hcurrent)
    exact absurd (of_decide_eq_true hstale) (Nat.lt_irrefl _)
  · obtain rfl : b = current.g := Nat.le_antisymm hb (Nat.not_lt.mp fun hlt =>
      hstale (decide_eq_true hlt))
    refine ⟨explore_estimated hestimated, ?_, ?_⟩
    · rw [explore_toSearch]
      refine AStar.Inv.expand hbest (fun e he => mem_stepsFrom.mp he) ?_
      refine h.inv.pop hsub hleft fun _ u c hstep => ⟨rfl, mem_stepsFrom.mpr hstep⟩
    · rw [explore_toSearch]
      exact hwaiting.expand

theorem searchLoop_right (iterations : ℕ) (h : s.Sound map start goal) :
    (map.searchLoop goal iterations s).Right map start goal := by
  have hexhausted : ∀ s : PathSearch, s.Sound map start goal → s.openSet = [] →
      SearchEnd.exhausted.Right map start goal := by
    intro s h hempty cells cost
    refine h.inv.unreachable h.waiting ?_
    change s.openSet.map _ = []
    rw [hempty, List.map_nil]
  induction iterations generalizing s with
  | zero =>
    unfold MapData.searchLoop
    split_ifs with hempty
    · exact hexhausted s h hempty
    · trivial
  | succ iterations ih =>
    unfold MapData.searchLoop
    cases hpop : popNode s.openSet with
    | none => exact hexhausted s h (popNode_none hpop)
    | some popped =>
      obtain ⟨current, rest⟩ := popped
      obtain ⟨hmem, hrest, hleast⟩ := popNode_spec hpop
      dsimp only
      split_ifs with hgoal hstale
      · exact h.goal_popped hmem hleast hgoal
      · have hnext := h.popped hrest hmem hgoal
        rw [if_pos hstale] at hnext
        exact ih hnext
      · have hnext := h.popped hrest hmem hgoal
        rw [if_neg hstale] at hnext
        exact ih hnext

theorem search_right : (map.search start goal).Right map start goal :=
  searchLoop_right _ sound_init

end

def SearchEnd.BeforeLimit : SearchEnd → Prop
  | .iterationLimit => False
  | _ => True

instance : (e : SearchEnd) → Decidable e.BeforeLimit
  | .goal _ | .exhausted => .isTrue trivial
  | .iterationLimit => .isFalse id

def MapData.linkedCells (map : MapData) (fuel : ℕ) (start goal : Cell) : Option (List Cell) :=
  match map.search start goal with
  | .goal cameFrom => (backLinks cameFrom start fuel goal).map List.reverse
  | .exhausted | .iterationLimit => none

theorem findPath_of_walkable {map : MapData} {startWorld goalWorld : ℚ × ℚ}
    (hunit : 0 < map.unitDist)
    (hstart : map.isWalkable (map.toCell startWorld).1 (map.toCell startWorld).2 = true)
    (hgoal : map.isWalkable (map.toCell goalWorld).1 (map.toCell goalWorld).2 = true) (fuel : ℕ) :
    map.findPath fuel startWorld goalWorld =
      if map.toCell startWorld = map.toCell goalWorld then some ⟨[goalWorld], true⟩
      else
        match map.search (map.toCell startWorld) (map.toCell goalWorld) with
        | .goal cameFrom =>
          (backLinks cameFrom (map.toCell startWorld) fuel (map.toCell goalWorld)).map fun cells =>
            ⟨map.toWaypoints cells.reverse goalWorld, true⟩
        | .exhausted | .iterationLimit => some ⟨[], false⟩ := by
  unfold MapData.findPath
  dsimp only
  rw [if_neg (not_le.mpr hunit), hstart, hgoal]
  exact if_neg (by decide)

/-- The path is found just where there is one, and it is one of least cost. -/
theorem find_path_complete_and_optimal (map : MapData) (startWorld goalWorld : ℚ × ℚ)
    (hunit : 0 < map.unitDist)
    (hstart : map.isWalkable (map.toCell startWorld).1 (map.toCell startWorld).2 = true)
    (hgoal : map.isWalkable (map.toCell goalWorld).1 (map.toCell goalWorld).2 = true)
    (hlimit : (map.search (map.toCell startWorld) (map.toCell goalWorld)).BeforeLimit) :
    ∃ result enough, (∀ fuel, enough ≤ fuel →
        map.findPath fuel startWorld goalWorld = some result) ∧
      (result.found = true ↔ ∃ cells cost,
        Route map.Step (map.toCell startWorld) cells (map.toCell goalWorld) cost) ∧
      (result.found = true → ∃ cells cost,
        (∀ fuel, enough ≤ fuel →
          map.linkedCells fuel (map.toCell startWorld) (map.toCell goalWorld) = some cells) ∧
        Route map.Step (map.toCell startWorld) cells (map.toCell goalWorld) cost ∧
        ∀ cells' cost', Route map.Step (map.toCell startWorld) cells' (map.toCell goalWorld) cost' →
          cost ≤ cost') := by
  simp only [findPath_of_walkable hunit hstart hgoal]
  clear hstart hgoal
  generalize map.toCell startWorld = start at *
  generalize map.toCell goalWorld = goal at *
  have hright : (map.search start goal).Right map start goal := search_right
  unfold MapData.linkedCells
  cases hsearch : map.search start goal with
  | iterationLimit =>
    rw [hsearch] at hlimit
    exact hlimit.elim
  | exhausted =>
    rw [hsearch] at hright
    have hne : start ≠ goal := fun heq => hright [] 0 (heq ▸ Route.nil _)
    refine ⟨⟨[], false⟩, 0, fun _ _ => if_neg hne, ⟨fun h => (by cases h), ?_⟩, fun h => (by cases h)⟩
    rintro ⟨cells, cost, hroute⟩
    exact absurd hroute (hright cells cost)
  | goal cameFrom =>
    rw [hsearch] at hright
    obtain ⟨cells, cost, ⟨enough, hlinks⟩, hroute, hleast⟩ := hright
    have hfound : ∃ result : PathResult, result.found = true ∧ ∀ fuel, enough ≤ fuel →
        (if start = goal then some ⟨[goalWorld], true⟩
        else (backLinks cameFrom start fuel goal).map fun cells =>
          ⟨map.toWaypoints cells.reverse goalWorld, true⟩) = some result := by
      by_cases heq : start = goal
      · exact ⟨⟨[goalWorld], true⟩, rfl, fun _ _ => if_pos heq⟩
      · refine ⟨⟨map.toWaypoints cells.reverse goalWorld, true⟩, rfl, fun fuel hfuel => ?_⟩
        rw [if_neg heq, hlinks fuel hfuel]
        rfl
    obtain ⟨result, hfound, hresult⟩ := hfound
    refine ⟨result, enough, hresult, iff_of_true hfound ⟨_, _, hroute⟩, fun _ =>
      ⟨cells.reverse, cost, fun fuel hfuel => ?_, hroute, hleast⟩⟩
    dsimp only
    rw [hlinks fuel hfuel]
    rfl

/-- Three by three cells with the middle one blocked. -/
def ringMap : MapData where
  gridSize := 3
  unitDist := 4
  isMovableGrid := fun x z => !(x = 1 && z = 1)

theorem ringMap_found : ∃ result enough, ∀ fuel, enough ≤ fuel →
    ringMap.findPath fuel (2, 2) (10, 10) = some result ∧
      (result.found = true ↔ ∃ cells cost,
        Route ringMap.Step (ringMap.toCell (2, 2)) cells (ringMap.toCell (10, 10)) cost) := by
  obtain ⟨result, enough, hresult, hfound, -⟩ := find_path_complete_and_optimal ringMap (2, 2)
    (10, 10) (by decide +kernel) (by decide +kernel) (by decide +kernel) (by decide +kernel)
  exact ⟨result, enough, fun fuel hfuel => ⟨hresult fuel hfuel, hfound⟩⟩

end KoServer
