import Mathlib.Data.Rat.Floor
import Mathlib.Logic.Function.Basic

/-! The paths of NPCs: the A* search of `systems/pathfind.rs` on the event grid of a map, and the
waypoints that it returns. World coordinates are rational. -/

namespace KoServer

def MAX_PATH_LINE : ℕ := 100
def COST_ORTHOGONAL : ℕ := 10
def COST_DIAGONAL : ℕ := 11
def MAX_ITERATIONS_CAP : ℕ := 50000

abbrev Cell := ℤ × ℤ

/-- `NEIGHBORS`. -/
def neighbors : List (ℤ × ℤ × ℕ) :=
  [(-1, -1, COST_DIAGONAL), (0, -1, COST_ORTHOGONAL), (1, -1, COST_DIAGONAL),
    (1, 0, COST_ORTHOGONAL), (1, 1, COST_DIAGONAL), (0, 1, COST_ORTHOGONAL),
    (-1, 1, COST_DIAGONAL), (-1, 0, COST_ORTHOGONAL)]

structure MapData where
  gridSize : ℤ
  unitDist : ℚ
  isMovableGrid : ℤ → ℤ → Bool

structure PathResult where
  waypoints : List (ℚ × ℚ)
  found : Bool

structure AStarNode where
  f : ℕ
  g : ℕ
  x : ℤ
  z : ℤ
deriving DecidableEq

/-- `Ord::cmp` is `Less`. The least `f` and `g` are the greatest nodes. -/
def AStarNode.lt (a b : AStarNode) : Bool :=
  b.f < a.f || (a.f = b.f && (b.g < a.g || (a.g = b.g && (a.x < b.x || (a.x = b.x && a.z < b.z)))))

/-- `BinaryHeap::pop`: the greatest of the nodes. -/
def popNode : List AStarNode → Option (AStarNode × List AStarNode)
  | [] => none
  | n :: rest =>
    let top := rest.foldl (fun top n => if top.lt n then n else top) n
    some (top, (n :: rest).erase top)

def calcMaxIterations (sx sz gx gz gridSize : ℤ) : ℕ :=
  let dx := (sx - gx).natAbs
  let dz := (sz - gz).natAbs
  let maxtry := dx * gridSize.toNat + dz * gridSize.toNat + 1
  max (min (min (maxtry * 2) (2 ^ 64 - 1)) MAX_ITERATIONS_CAP) 500

def heuristic (x z goalX goalZ : ℤ) : ℕ :=
  let dx := (x - goalX).natAbs
  let dz := (z - goalZ).natAbs
  let diag := min dx dz
  let straight := max dx dz - diag
  diag * COST_DIAGONAL + straight * COST_ORTHOGONAL

structure PathSearch where
  openSet : List AStarNode
  gScores : Cell → Option ℕ
  cameFrom : Cell → Option Cell

inductive SearchEnd
  | goal (cameFrom : Cell → Option Cell)
  /-- Nothing is left in the open set. -/
  | exhausted
  | iterationLimit

namespace MapData

variable (map : MapData)

def isWalkable (gx gz : ℤ) : Bool :=
  0 ≤ gx && 0 ≤ gz && gx < map.gridSize && gz < map.gridSize && map.isMovableGrid gx gz

def exploreNeighbor (goal : Cell) (current : AStarNode) (s : PathSearch) :
    ℤ × ℤ × ℕ → PathSearch
  | (dx, dz, cost) =>
    let nx := current.x + dx
    let nz := current.z + dz
    if map.isWalkable nx nz then
      let newG := current.g + cost
      if (s.gScores (nx, nz)).any fun existingG => existingG ≤ newG then s
      else
        { openSet := ⟨newG + heuristic nx nz goal.1 goal.2, newG, nx, nz⟩ :: s.openSet
          gScores := Function.update s.gScores (nx, nz) (some newG)
          cameFrom := Function.update s.cameFrom (nx, nz) (some (current.x, current.z)) }
    else s

def searchLoop (goal : Cell) : ℕ → PathSearch → SearchEnd
  | 0, s => if s.openSet = [] then .exhausted else .iterationLimit
  | iterations + 1, s =>
    match popNode s.openSet with
    | none => .exhausted
    | some (current, rest) =>
      let s' := { s with openSet := rest }
      if (current.x, current.z) = goal then .goal s.cameFrom
      else if (s.gScores (current.x, current.z)).any fun bestG => bestG < current.g then
        searchLoop goal iterations s'
      else searchLoop goal iterations (neighbors.foldl (map.exploreNeighbor goal current) s')

def search (start goal : Cell) : SearchEnd :=
  map.searchLoop goal (calcMaxIterations start.1 start.2 goal.1 goal.2 map.gridSize)
    { openSet := [⟨heuristic start.1 start.2 goal.1 goal.2, 0, start.1, start.2⟩]
      gScores := Function.update (fun _ => none) start (some 0)
      cameFrom := fun _ => none }

/-- `(w / unit_dist) as i32`. -/
def toGrid (w : ℚ) : ℤ := if 0 ≤ w / map.unitDist then ⌊w / map.unitDist⌋ else ⌈w / map.unitDist⌉

def toCell (w : ℚ × ℚ) : Cell := (map.toGrid w.1, map.toGrid w.2)

def center (cell : Cell) : ℚ × ℚ :=
  (cell.1 * map.unitDist + map.unitDist * (1 / 2), cell.2 * map.unitDist + map.unitDist * (1 / 2))

/-- What `reconstruct_path` makes of the cells from the start to the goal. -/
def toWaypoints (cells : List Cell) (goalWorld : ℚ × ℚ) : List (ℚ × ℚ) :=
  let path := cells.take MAX_PATH_LINE
  path.mapIdx fun i cell => if i = path.length - 1 then goalWorld else map.center cell

end MapData

/-- The loop of `reconstruct_path`: the cells from `current` back to the start, without it. There
is no value if the links are not at an end after so many cells. -/
def backLinks (cameFrom : Cell → Option Cell) (start : Cell) : ℕ → Cell → Option (List Cell)
  | 0, _ => none
  | fuel + 1, current =>
    if current = start then some []
    else
      match cameFrom current with
      | none => some [current]
      | some parent => (backLinks cameFrom start fuel parent).map (current :: ·)

/-- `find_path`, if the links are at an end after so many cells. -/
def MapData.findPath (map : MapData) (fuel : ℕ) (startWorld goalWorld : ℚ × ℚ) :
    Option PathResult :=
  let start := map.toCell startWorld
  let goal := map.toCell goalWorld
  if map.unitDist ≤ 0 then some ⟨[], false⟩
  else if !map.isWalkable start.1 start.2 || !map.isWalkable goal.1 goal.2 then some ⟨[], false⟩
  else if start = goal then some ⟨[goalWorld], true⟩
  else
    match map.search start goal with
    | .goal cameFrom =>
      (backLinks cameFrom start fuel goal).map fun cells =>
        ⟨map.toWaypoints cells.reverse goalWorld, true⟩
    | .exhausted | .iterationLimit => some ⟨[], false⟩

end KoServer
