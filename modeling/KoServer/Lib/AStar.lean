import Mathlib.Data.List.Chain
import Mathlib.Logic.Function.Basic
import Mathlib.Order.Basic
import Mathlib.Algebra.Order.Group.Nat
import Mathlib.Tactic.SplitIfs

/-! Best-first search with an estimate, as A* does it with a heap of entries that are never taken
back: an entry is worth something only while it shows the best cost known of its vertex. No order is
fixed among the entries of least estimate. -/

namespace AStar

variable {V : Type*} [DecidableEq V]

/-- The entries that are waiting, the best cost known of each vertex and where it comes from. -/
structure Search (V : Type*) where
  frontier : List (V × ℕ)
  best : V → Option ℕ
  parent : V → Option V

/-- The vertices visited after the first, up to the last, and what that costs. -/
inductive Route (edge : V → V → ℕ → Prop) : V → List V → V → ℕ → Prop
  | nil (u : V) : Route edge u [] u 0
  | snoc {u v w : V} {vs : List V} {k c : ℕ} (h : Route edge u vs v k) (he : edge v w c) :
      Route edge u (vs ++ [w]) w (k + c)

/-- Nothing better than `g` is known of the vertex. -/
def Search.improves (s : Search V) (u : V) (g : ℕ) : Bool := (s.best u).all fun b => g < b

/-- An edge from `v`, of which `g` is the cost, to `u`. -/
def relax (v : V) (g : ℕ) (s : Search V) (e : V × ℕ) : Search V :=
  if s.improves e.1 (g + e.2) then
    { frontier := (e.1, g + e.2) :: s.frontier
      best := Function.update s.best e.1 (some (g + e.2))
      parent := Function.update s.parent e.1 (some v) }
  else s

/-- What holds between two entries. `waived` are the edges that are still to be relaxed. -/
structure Inv (edge : V → V → ℕ → Prop) (source : V) (waived : V → V → ℕ → Prop) (s : Search V) :
    Prop where
  known : s.best source = some 0
  worse : ∀ v g, (v, g) ∈ s.frontier → ∃ b, s.best v = some b ∧ b ≤ g
  parent : ∀ v g, s.best v = some g → v = source ∨
    ∃ p b c, s.parent v = some p ∧ s.best p = some b ∧ edge p v c ∧ b + c ≤ g
  settled : ∀ v g, s.best v = some g → (v, g) ∈ s.frontier ∨
    ∀ u c, edge v u c → waived v u c ∨ ∃ b, s.best u = some b ∧ b ≤ g + c

section

variable {edge : V → V → ℕ → Prop} {source goal u v w : V} {waived waived' : V → V → ℕ → Prop}
  {s : Search V} {g c k : ℕ} {es : List (V × ℕ)}

omit [DecidableEq V] in
theorem not_improves : s.improves u g = false ↔ ∃ b, s.best u = some b ∧ b ≤ g := by
  unfold Search.improves
  cases s.best u with
  | none => simp
  | some b => simp

theorem Inv.init : Inv edge source waived
    { frontier := [(source, 0)], best := Function.update (fun _ => none) source (some 0),
      parent := fun _ => none } := by
  have hknown : ∀ v g, Function.update (fun _ => none) source (some 0) v = some g →
      v = source ∧ g = 0 := by
    intro v g h
    rcases eq_or_ne v source with rfl | hne
    · rw [Function.update_self] at h
      exact ⟨rfl, (Option.some.inj h).symm⟩
    · rw [Function.update_of_ne hne] at h
      cases h
  have hsource : Function.update (fun _ : V => none) source (some 0) source = some 0 :=
    Function.update_self ..
  refine ⟨hsource, fun v g h => ?_, fun v g h => .inl (hknown v g h).1, fun v g h => .inl ?_⟩
  · obtain ⟨rfl, rfl⟩ := Prod.mk.inj (List.mem_singleton.mp h)
    exact ⟨0, hsource, le_refl 0⟩
  · obtain ⟨rfl, rfl⟩ := hknown v g h
    exact List.mem_singleton_self _

theorem best_relax (e : V × ℕ) {b : ℕ} (h : s.best w = some b) :
    ∃ b', (relax v g s e).best w = some b' ∧ b' ≤ b := by
  unfold relax
  split_ifs with himproves
  · rcases eq_or_ne w e.1 with rfl | hne
    · unfold Search.improves at himproves
      rw [h] at himproves
      have hlt : g + e.2 < b := of_decide_eq_true himproves
      exact ⟨g + e.2, Function.update_self .., hlt.le⟩
    · exact ⟨b, (Function.update_of_ne hne ..).trans h, le_refl b⟩
  · exact ⟨b, h, le_refl b⟩

theorem mem_frontier_relax (e : V × ℕ) {x : V × ℕ} (h : x ∈ s.frontier) :
    x ∈ (relax v g s e).frontier := by
  unfold relax
  split_ifs
  · exact List.mem_cons_of_mem _ h
  · exact h

theorem relaxed (e : V × ℕ) : ∃ b, (relax v g s e).best e.1 = some b ∧ b ≤ g + e.2 := by
  unfold relax
  split_ifs with himproves
  · exact ⟨g + e.2, Function.update_self .., le_refl _⟩
  · exact not_improves.mp (eq_false_of_ne_true himproves)

/-- The best of a vertex that is settled with cost `g` stays while its edges are relaxed. -/
theorem best_relax_self (e : V × ℕ) (h : s.best v = some g) : (relax v g s e).best v = some g := by
  unfold relax
  split_ifs with himproves
  · rcases eq_or_ne v e.1 with heq | hne
    · unfold Search.improves at himproves
      rw [← heq, h] at himproves
      have hlt : g + e.2 < g := of_decide_eq_true himproves
      omega
    · exact (Function.update_of_ne hne ..).trans h
  · exact h

theorem Inv.relax (h : Inv edge source waived s) (hbest : s.best v = some g) (he : edge v u c)
    (hwaived : ∀ x y k, waived x y k → (x = v ∧ y = u ∧ k = c) ∨ waived' x y k) :
    Inv edge source waived' (relax v g s (u, c)) := by
  have hself := best_relax_self (s := s) (u, c) hbest
  have hgrows : ∀ {x b}, s.best x = some b → ∃ b', (AStar.relax v g s (u, c)).best x = some b' ∧
      b' ≤ b := fun hx => best_relax (u, c) hx
  have hknown : ∀ x b, (AStar.relax v g s (u, c)).best x = some b →
      s.best x = some b ∧ (AStar.relax v g s (u, c)).parent x = s.parent x ∨
      x = u ∧ b = g + c ∧ (AStar.relax v g s (u, c)).parent x = some v ∧
        (u, g + c) ∈ (AStar.relax v g s (u, c)).frontier := by
    intro x b hx
    unfold AStar.relax at hx ⊢
    split_ifs at hx ⊢
    · rcases eq_or_ne x u with rfl | hne
      · dsimp only at hx
        rw [Function.update_self] at hx
        cases hx
        exact .inr ⟨rfl, rfl, Function.update_self .., List.mem_cons_self⟩
      · dsimp only at hx ⊢
        rw [Function.update_of_ne hne] at hx ⊢
        exact .inl ⟨hx, rfl⟩
    · exact .inl ⟨hx, rfl⟩
  refine ⟨?_, fun x b hx => ?_, fun x b hx => ?_, fun x b hx => ?_⟩
  · obtain ⟨b, hb, hle⟩ := hgrows h.known
    rwa [Nat.le_zero.mp hle] at hb
  · have hold : (x, b) ∈ s.frontier ∨ (x, b) = (u, g + c) := by
      unfold AStar.relax at hx
      split_ifs at hx
      · exact (List.mem_cons.mp hx).symm
      · exact .inl hx
    rcases hold with hold | heq
    · obtain ⟨b₀, hb₀, hle⟩ := h.worse x b hold
      obtain ⟨b', hb', hle'⟩ := hgrows hb₀
      exact ⟨b', hb', hle'.trans hle⟩
    · obtain ⟨rfl, rfl⟩ := Prod.mk.inj heq
      exact relaxed (s := s) (v := v) (x, c)
  · rcases hknown x b hx with ⟨hold, hparent⟩ | ⟨rfl, rfl, hparent, -⟩
    · rw [hparent]
      refine (h.parent x b hold).imp_right fun ⟨p, b₀, k, hp, hb₀, hedge, hle⟩ => ?_
      obtain ⟨b', hb', hle'⟩ := hgrows hb₀
      exact ⟨p, b', k, hp, hb', hedge, (Nat.add_le_add_right hle' k).trans hle⟩
    · exact .inr ⟨v, g, c, hparent, hself, he, le_refl _⟩
  · rcases hknown x b hx with ⟨hold, -⟩ | ⟨rfl, rfl, -, hmem⟩
    · refine (h.settled x b hold).imp (mem_frontier_relax (u, c)) fun hedges y k hedge => ?_
      rcases hedges y k hedge with hw | ⟨b₀, hb₀, hle⟩
      · rcases hwaived x y k hw with ⟨rfl, rfl, rfl⟩ | hw'
        · obtain rfl : b = g := Option.some.inj (hold.symm.trans hbest)
          exact .inr (relaxed (s := s) (v := x) (y, k))
        · exact .inl hw'
      · obtain ⟨b', hb', hle'⟩ := hgrows hb₀
        exact .inr ⟨b', hb', hle'.trans hle⟩
    · exact .inl hmem

theorem Inv.expand (hbest : s.best v = some g) (hes : ∀ e ∈ es, edge v e.1 e.2)
    (h : Inv edge source (fun x y k => x = v ∧ (y, k) ∈ es) s) :
    Inv edge source (fun _ _ _ => False) (es.foldl (AStar.relax v g) s) := by
  induction es generalizing s with
  | nil =>
    refine ⟨h.known, h.worse, h.parent, fun x b hx => ?_⟩
    refine (h.settled x b hx).imp_right fun hedges y k hedge => ?_
    exact .inr ((hedges y k hedge).resolve_left fun hw => List.not_mem_nil hw.2)
  | cons e es ih =>
    obtain ⟨he, hes⟩ := List.forall_mem_cons.mp hes
    refine ih (best_relax_self e hbest) hes (h.relax hbest he fun x y k hw => ?_)
    obtain ⟨rfl, hmem⟩ := hw
    rcases List.mem_cons.mp hmem with heq | hmem
    · obtain ⟨rfl, rfl⟩ := Prod.mk.inj heq
      exact .inl ⟨rfl, rfl, rfl⟩
    · exact .inr ⟨rfl, hmem⟩

omit [DecidableEq V] in
/-- An entry leaves the frontier. Unless something better is known of its vertex, the edges of the
vertex are to be relaxed. -/
theorem Inv.pop (h : Inv edge source (fun _ _ _ => False) s) {frontier : List (V × ℕ)}
    (hsub : ∀ e ∈ frontier, e ∈ s.frontier) (hleft : ∀ e ∈ s.frontier, e = (v, g) ∨ e ∈ frontier)
    (hwaived : s.best v = some g → ∀ u c, edge v u c → waived v u c) :
    Inv edge source waived { s with frontier := frontier } where
  known := h.known
  worse := fun x b hx => h.worse x b (hsub _ hx)
  parent := h.parent
  settled := fun x b hx => by
    rcases h.settled x b hx with hmem | hedges
    · rcases hleft _ hmem with heq | hmem
      · obtain ⟨rfl, rfl⟩ := Prod.mk.inj heq
        exact .inr fun y k hedge => .inl (hwaived hx y k hedge)
      · exact .inl hmem
    · exact .inr fun y k hedge => .inr ((hedges y k hedge).resolve_left id)

omit [DecidableEq V] in
/-- Along a route either an entry of the frontier is met, or the end is known as cheaply. -/
theorem Inv.on_route (h : Inv edge source (fun _ _ _ => False) s) {vs : List V}
    (hroute : Route edge source vs w k) :
    (∃ x b vs' k', (x, b) ∈ s.frontier ∧ Route edge x vs' w k' ∧ b + k' ≤ k) ∨
      ∃ b, s.best w = some b ∧ b ≤ k := by
  induction hroute with
  | nil => exact .inr ⟨0, h.known, le_refl 0⟩
  | snoc hr he ih =>
    rcases ih with ⟨x, b, vs', k', hmem, hrest, hle⟩ | ⟨b, hb, hle⟩
    · exact .inl ⟨x, b, _, _, hmem, hrest.snoc he, by omega⟩
    · rcases h.settled _ b hb with hmem | hedges
      · exact .inl ⟨_, b, _, _, hmem, (Route.nil _).snoc he, by omega⟩
      · rcases hedges _ _ he with hfalse | ⟨b', hb', hle'⟩
        · exact hfalse.elim
        · exact .inr ⟨b', hb', by omega⟩

def Waiting (s : Search V) (goal : V) : Prop :=
  ∀ b, s.best goal = some b → (goal, b) ∈ s.frontier

theorem Waiting.init : Waiting (V := V)
    { frontier := [(source, 0)], best := Function.update (fun _ => none) source (some 0),
      parent := fun _ => none } goal := by
  intro b hb
  dsimp only at hb ⊢
  rcases eq_or_ne goal source with rfl | hne
  · rw [Function.update_self] at hb
    obtain rfl := Option.some.inj hb
    exact List.mem_singleton_self _
  · rw [Function.update_of_ne hne] at hb
    cases hb

theorem Waiting.relax (h : Waiting s goal) (e : V × ℕ) : Waiting (relax v g s e) goal := by
  intro b hb
  unfold AStar.relax at hb ⊢
  split_ifs at hb ⊢
  · dsimp only at hb ⊢
    rcases eq_or_ne goal e.1 with rfl | hne
    · rw [Function.update_self] at hb
      obtain rfl := Option.some.inj hb
      exact List.mem_cons_self
    · rw [Function.update_of_ne hne] at hb
      exact List.mem_cons_of_mem _ (h b hb)
  · exact h b hb

theorem Waiting.expand (h : Waiting s goal) : Waiting (es.foldl (AStar.relax v g) s) goal := by
  induction es generalizing s with
  | nil => exact h
  | cons e es ih => exact ih (h.relax e)

omit [DecidableEq V] in
theorem Waiting.pop (h : Waiting s goal) {frontier : List (V × ℕ)} (hne : v ≠ goal)
    (hleft : ∀ e ∈ s.frontier, e = (v, g) ∨ e ∈ frontier) :
    Waiting { s with frontier := frontier } goal :=
  fun b hb => (hleft _ (h b hb)).resolve_left fun heq => hne (Prod.mk.inj heq).1.symm

omit [DecidableEq V] in
/-- An entry of the goal that is least by an estimate that never overestimates shows the least
cost. -/
theorem Inv.optimal (h : Inv edge source (fun _ _ _ => False) s) (hwaiting : Waiting s goal)
    {estimate : V → ℕ} (hgoal : estimate goal = 0)
    (hestimate : ∀ x vs k, Route edge x vs goal k → estimate x ≤ k)
    (hleast : ∀ e ∈ s.frontier, g ≤ e.2 + estimate e.1) {vs : List V}
    (hroute : Route edge source vs goal k) : g ≤ k := by
  rcases h.on_route hroute with ⟨x, b, vs', k', hmem, hrest, hle⟩ | ⟨b, hb, hle⟩
  · have hx := hleast _ hmem
    have hk := hestimate x vs' k' hrest
    dsimp only at hx
    omega
  · have hx := hleast _ (hwaiting b hb)
    dsimp only at hx
    omega

omit [DecidableEq V] in
theorem Inv.unreachable (h : Inv edge source (fun _ _ _ => False) s) (hwaiting : Waiting s goal)
    (hempty : s.frontier = []) {vs : List V} : ¬Route edge source vs goal k := by
  intro hroute
  rcases h.on_route hroute with ⟨x, b, vs', k', hmem, -⟩ | ⟨b, hb, -⟩
  · rw [hempty] at hmem
    cases hmem
  · have hmem := hwaiting b hb
    rw [hempty] at hmem
    cases hmem

omit [DecidableEq V] in
theorem Route.isChain {vs : List V} (h : Route edge u vs v k) :
    (u :: vs).getLast? = some v ∧ (u :: vs).IsChain fun x y => ∃ c, edge x y c := by
  induction h with
  | nil => exact ⟨rfl, List.isChain_singleton u⟩
  | @snoc v w vs k c _ he ih =>
    rw [← List.cons_append]
    refine ⟨List.getLast?_concat, ih.2.append (List.isChain_singleton w) fun x hx y hy => ?_⟩
    obtain rfl : v = x := Option.some.inj (ih.1.symm.trans hx)
    obtain rfl : w = y := Option.some.inj hy
    exact ⟨c, he⟩

omit [DecidableEq V] in
theorem Route.entered {vs : List V} (h : Route edge u vs v k) :
    ∀ y ∈ vs, ∃ x c, edge x y c := by
  induction h with
  | nil => exact fun y hy => absurd hy List.not_mem_nil
  | @snoc v w vs k c _ he ih =>
    intro y hy
    rcases List.mem_append.mp hy with hy | hy
    · exact ih y hy
    · exact ⟨v, c, List.mem_singleton.mp hy ▸ he⟩

omit [DecidableEq V] in
theorem Route.split {vs ws : List V} (h : Route edge u (vs ++ ws) w k) :
    ∃ v k₁ k₂, Route edge u vs v k₁ ∧ Route edge v ws w k₂ ∧ k = k₁ + k₂ := by
  induction ws using List.reverseRecOn generalizing w k with
  | nil => exact ⟨w, k, 0, by simpa using h, Route.nil w, rfl⟩
  | append_singleton ws x ih =>
    rw [← List.append_assoc] at h
    generalize hall : vs ++ ws ++ [x] = all at h
    cases h with
    | nil => simp at hall
    | @snoc y _ _ k c hr he =>
      obtain ⟨rfl, hx⟩ := List.append_inj' hall rfl
      obtain rfl := List.singleton_inj.mp hx
      obtain ⟨v, k₁, k₂, h₁, h₂, rfl⟩ := ih hr
      exact ⟨v, k₁, k₂ + c, h₁, h₂.snoc he, Nat.add_assoc ..⟩

omit [DecidableEq V] in
theorem Route.length_le {vs : List V} {least : ℕ} (hleast : ∀ x y c, edge x y c → least ≤ c)
    (h : Route edge u vs v k) : vs.length * least ≤ k := by
  induction h with
  | nil => simp
  | snoc _ he ih =>
    rw [List.length_append, List.length_singleton, Nat.succ_mul]
    exact Nat.add_le_add ih (hleast _ _ _ he)

/-- The vertices from `v` back to the source, without it, or as far as there are parents. -/
def trace (parent : V → Option V) (source : V) : ℕ → V → Option (List V)
  | 0, _ => none
  | fuel + 1, v =>
    if v = source then some []
    else
      match parent v with
      | none => some [v]
      | some p => (trace parent source fuel p).map (v :: ·)

/-- Where edges cost something the way back ends at the source, and is a route that costs no more
than what is known. -/
theorem Inv.trace (h : Inv edge source waived s) (hpos : ∀ x y c, edge x y c → 0 < c)
    (hbest : s.best v = some g) :
    ∃ vs k, (∀ fuel, g < fuel → AStar.trace s.parent source fuel v = some vs) ∧
      Route edge source vs.reverse v k ∧ k ≤ g := by
  induction g using Nat.strong_induction_on generalizing v with
  | h g ih =>
    by_cases hv : v = source
    · refine ⟨[], 0, fun fuel hfuel => ?_, hv ▸ Route.nil _, Nat.zero_le g⟩
      obtain ⟨fuel, rfl⟩ := Nat.exists_eq_add_one_of_ne_zero (Nat.ne_zero_of_lt hfuel)
      exact if_pos hv
    · obtain ⟨p, b, c, hparent, hb, hedge, hle⟩ := (h.parent v g hbest).resolve_left hv
      have hcost := hpos p v c hedge
      obtain ⟨vs, k, htrace, hroute, hk⟩ := ih b (by omega) hb
      refine ⟨v :: vs, k + c, fun fuel hfuel => ?_, ?_, by omega⟩
      · obtain ⟨fuel, rfl⟩ := Nat.exists_eq_add_one_of_ne_zero (Nat.ne_zero_of_lt hfuel)
        unfold AStar.trace
        rw [if_neg hv, hparent]
        dsimp only
        rw [htrace fuel (by omega)]
        rfl
      · rw [List.reverse_cons]
        exact hroute.snoc hedge

end

end AStar
