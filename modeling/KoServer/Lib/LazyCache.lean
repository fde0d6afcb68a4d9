import Mathlib.Algebra.BigOperators.Group.List.Basic
import Mathlib.Algebra.Order.Ring.Int
import Mathlib.Logic.Function.Basic
import KoServer.Lib.Run

/-! A cache entry that sessions load from rows when they find none, in three steps: a look at the
cache, a read of the rows, and an insertion that overwrites whatever is there by then. Actions on
the entry spawn tasks that write the rows. Nothing an action brought is lost as long as no
insertion has less of it than the entry that it overwrites. -/

namespace LazyCache

inductive Phase (V : Type*)
  | idle
  | reading
  | inserting (loaded : V)
  | ready

structure Sys (τ V D A : Type*) where
  entry : Option V
  rows : D
  phase : τ → Phase V
  tasks : List (D → D)
  /-- The actions that went through. -/
  acknowledged : List A

inductive Step (τ A : Type*)
  | look (t : τ)
  | read (t : τ)
  | insert (t : τ)
  | act (t : τ) (a : A)
  | run (i : ℕ)

variable {τ V D A κ : Type*} [DecidableEq τ] (load : D → V)
  (apply : A → V → Option (V × List (D → D)))

namespace Sys

def start (rows : D) : Sys τ V D A := ⟨none, rows, fun _ => .idle, [], []⟩

def goto (s : Sys τ V D A) (t : τ) (p : Phase V) : Sys τ V D A :=
  { s with phase := Function.update s.phase t p }

def step (s : Sys τ V D A) : Step τ A → Sys τ V D A
  | .look t =>
    match s.phase t with
    | .idle => s.goto t (if s.entry.isSome then .ready else .reading)
    | _ => s
  | .read t =>
    match s.phase t with
    | .reading => s.goto t (.inserting (load s.rows))
    | _ => s
  | .insert t =>
    match s.phase t with
    | .inserting loaded => { s with entry := some loaded }.goto t .ready
    | _ => s
  | .act t a =>
    match s.phase t, s.entry with
    | .ready, some v =>
      match apply a v with
      | none => s.goto t .idle
      | some (v', tasks) =>
        { s with
          entry := some v'
          tasks := s.tasks ++ tasks
          acknowledged := a :: s.acknowledged }.goto t .idle
    | .ready, none => s.goto t .idle
    | _, _ => s
  | .run i =>
    match s.tasks[i]? with
    | none => s
    | some task => { s with rows := task s.rows, tasks := s.tasks.eraseIdx i }

end Sys

variable (worth : κ → V → ℤ) (gain : κ → A → ℤ)

def gained (k : κ) (actions : List A) : ℤ := (actions.map (gain k)).sum

/-- The step brings in full what it is to bring, and overwrites nothing that is worth more. -/
def Lossless (s : Sys τ V D A) : Step τ A → Prop
  | .insert t => ∀ v loaded, s.entry = some v → s.phase t = .inserting loaded →
      ∀ k, worth k v ≤ worth k loaded
  | .act t a => ∀ v v' tasks, s.phase t = .ready → s.entry = some v →
      apply a v = some (v', tasks) → ∀ k, worth k v + gain k a ≤ worth k v'
  | _ => True

/-- The insertion puts less of something in the place of more. -/
def Overwrites (s : Sys τ V D A) : Step τ A → Prop
  | .insert t => ∃ v loaded, s.entry = some v ∧ s.phase t = .inserting loaded ∧
      ∃ k, worth k loaded < worth k v
  | _ => False

/-- Before the first insertion nothing has been done; from then on the entry is worth what the
rows were, and what the actions brought. -/
structure Kept (rows : D) (s : Sys τ V D A) : Prop where
  unloaded : s.entry = none → s.rows = rows ∧ s.tasks = [] ∧ s.acknowledged = [] ∧
    ∀ t loaded, s.phase t = .inserting loaded → loaded = load rows
  loaded : ∀ v, s.entry = some v →
    ∀ k, worth k (load rows) + gained gain k s.acknowledged ≤ worth k v

variable {load apply worth gain} {rows : D} {s : Sys τ V D A}

omit [DecidableEq τ] in
theorem kept_start : Kept load worth gain rows (Sys.start rows : Sys τ V D A) := by
  refine ⟨fun _ => ⟨rfl, rfl, rfl, fun t loaded h => ?_⟩, fun v h => ?_⟩
  · cases h
  · cases h

/-- A session that goes on without an insertion pending. -/
theorem Kept.goto (h : Kept load worth gain rows s) (t : τ) {p : Phase V}
    (hp : ∀ loaded, p = .inserting loaded → s.entry = none → loaded = load rows) :
    Kept load worth gain rows (s.goto t p) := by
  refine ⟨fun hnone => ?_, h.loaded⟩
  obtain ⟨hrows, htasks, hack, hphase⟩ := h.unloaded hnone
  refine ⟨hrows, htasks, hack, fun u loaded hu => ?_⟩
  have hu : Function.update s.phase t p u = .inserting loaded := hu
  rcases eq_or_ne u t with rfl | hne
  · rw [Function.update_self] at hu
    exact hp loaded hu hnone
  · rw [Function.update_of_ne hne] at hu
    exact hphase u loaded hu

theorem Kept.ready (h : Kept load worth gain rows s) (t : τ) :
    Kept load worth gain rows (s.goto t .ready) := h.goto t (by simp)

theorem Kept.idle (h : Kept load worth gain rows s) (t : τ) :
    Kept load worth gain rows (s.goto t .idle) := h.goto t (by simp)

theorem kept_insert (h : Kept load worth gain rows s) {t : τ}
    (hok : Lossless apply worth gain s (.insert t)) :
    Kept load worth gain rows (s.step load apply (.insert t)) := by
  rw [Sys.step]
  split
  · next loaded hphase =>
    refine Kept.ready ⟨fun hnone => ?_, fun v hv k => ?_⟩ t
    · cases hnone
    · obtain rfl := Option.some.inj hv
      cases hentry : s.entry with
      | none =>
        obtain ⟨-, -, hack, hloaded⟩ := h.unloaded hentry
        rw [hack, hloaded t loaded hphase]
        simp [gained]
      | some old => exact (h.loaded old hentry k).trans (hok old loaded hentry hphase k)
  · exact h

theorem kept_act (h : Kept load worth gain rows s) {t : τ} {a : A}
    (hok : Lossless apply worth gain s (.act t a)) :
    Kept load worth gain rows (s.step load apply (.act t a)) := by
  rw [Sys.step]
  split
  · next v hphase hentry =>
    split
    · exact h.idle t
    · next v' tasks happly =>
      refine Kept.idle ⟨fun hnone => ?_, fun w hw k => ?_⟩ t
      · cases hnone
      · obtain rfl := Option.some.inj hw
        have hbefore := h.loaded v hentry k
        have hbrought := hok v v' tasks hphase hentry happly k
        simp only [gained, List.map_cons, List.sum_cons] at hbefore ⊢
        omega
  · exact h.idle t
  · exact h

theorem kept_step (h : Kept load worth gain rows s) {i : Step τ A}
    (hok : Lossless apply worth gain s i) : Kept load worth gain rows (s.step load apply i) := by
  cases i with
  | look t =>
    rw [Sys.step]
    split
    · refine h.goto t fun loaded hp => ?_
      split_ifs at hp
    · exact h
  | read t =>
    rw [Sys.step]
    split
    · refine h.goto t fun loaded hp hnone => ?_
      obtain rfl := Phase.inserting.inj hp
      rw [(h.unloaded hnone).1]
    · exact h
  | insert t => exact kept_insert h hok
  | act t a => exact kept_act h hok
  | run i =>
    rw [Sys.step]
    split
    · exact h
    · next task htask =>
      refine ⟨fun hnone => ?_, h.loaded⟩
      rw [(h.unloaded hnone).2.1] at htask
      cases htask

theorem kept_run {steps : List (Step τ A)}
    (hok : Run.Along (Sys.step load apply) (Lossless apply worth gain) (Sys.start rows) steps) :
    Kept load worth gain rows (Run.run (Sys.step load apply) (Sys.start rows) steps) :=
  Run.invariant (Kept load worth gain rows) (fun _ _ h hi => kept_step h hi) hok kept_start

end LazyCache
