import Mathlib.Algebra.BigOperators.Group.List.Basic
import Mathlib.Algebra.Group.Prod
import KoServer.Lib.Run
import KoServer.Lib.WriteBehind
import KoServer.Spec.KnightCash

/-! What the calls on one Knight Cash account add up to: nothing is lost as long as every call
sets what it has read, in the range of the columns, with no other write on its way. -/

namespace KoServer

namespace CashAccount

def credits (s : CashAccount) : ℤ × ℤ := (s.calls.map CashPhase.credit).sum

def deductions (s : CashAccount) : ℤ × ℤ := (s.calls.map CashPhase.deduction).sum

/-- The balances are the first ones with all credits and without all accepted deductions. -/
structure Accounted (kc₀ tl₀ : ℕ) (s : CashAccount) : Prop where
  kc : (s.knightCash : ℤ) = kc₀ + s.credits.1 - s.deductions.1
  tl : (s.tlBalance : ℤ) = tl₀ + s.credits.2 - s.deductions.2

/-- In whatever order the tasks run, the rows end as the balances. -/
def Settles (s : CashAccount) : Prop :=
  ∀ p : List (ℤ × ℤ), p.Perm s.tasks →
    p.foldl (fun _ w => w) s.rows = ((s.knightCash : ℤ), (s.tlBalance : ℤ))

structure Kept (kc₀ tl₀ : ℕ) (s : CashAccount) (e : CashEvent) : Prop where
  accounted : (s.step e).Accounted kc₀ tl₀
  covered : ∀ i call kc tl, e = .advance i → s.calls[i]? = some (.ready call kc tl) →
    (CashPhase.deduction (.returned call true)).1 ≤ s.knightCash ∧
      (CashPhase.deduction (.returned call true)).2 ≤ s.tlBalance
  readBack : 0 ≤ asI32 (s.step e).knightCash ∧ 0 ≤ asI32 (s.step e).tlBalance
  settles : (s.step e).Settles

end CashAccount

def CashCall.delta (call : CashCall) : ℤ × ℤ :=
  CashPhase.credit (.returned call true) - CashPhase.deduction (.returned call true)

/-- The sum is in the range of the column, and the balance is the one that was read; or both what
was read is overdrawn and what is there is used up. -/
def Meets (read now : ℕ) (δ : ℤ) : Prop :=
  0 ≤ now + δ ∧ now + δ < 2 ^ 31 ∧ (read = now ∨ read + δ < 0 ∧ now + δ = 0)

instance (read now : ℕ) (δ : ℤ) : Decidable (Meets read now δ) :=
  inferInstanceAs (Decidable (_ ∧ _ ∧ (_ ∨ _ ∧ _)))

namespace CashAccount

structure SetCondition (s : CashAccount) (call : CashCall) (kc tl : ℕ) : Prop where
  kc : Meets kc s.knightCash call.delta.1
  tl : Meets tl s.tlBalance call.delta.2
  tasks : ∀ w ∈ s.tasks, w = (s.knightCash + call.delta.1, s.tlBalance + call.delta.2)

def Condition (s : CashAccount) : CashEvent → Prop
  | .advance i => ∀ call kc tl, s.calls[i]? = some (.ready call kc tl) → s.SetCondition call kc tl
  | .persist _ => True

end CashAccount

section Call

variable {kc tl : ℕ} {call : CashCall}

def CashCall.Covers (kc tl : ℕ) : CashCall → Prop
  | giveBalance _ _ => True
  | deductKc amount => 0 < amount ∧ amount ≤ kc
  | deductTl amount => 0 < amount ∧ amount ≤ tl
  | cashLose amount => amount ≤ kc
  | cashGain _ => True

def CashPhase.Sound : CashPhase → Prop
  | entered _ => True
  | readKc call kc => kc < 2 ^ 31 ∧ ∀ tl, call.Covers kc tl
  | readTl call tl => tl < 2 ^ 31 ∧ ∀ kc, call.Covers kc tl
  | ready call kc tl => kc < 2 ^ 31 ∧ tl < 2 ^ 31 ∧ call.Covers kc tl
  | returned _ _ => True

theorem asI32_of_lt {n : ℕ} (h : n < 2 ^ 31) : asI32 n = n := by
  unfold asI32
  rw [Int.bmod_def]
  split_ifs <;> omega

theorem asI32_nonneg {n : ℕ} (h : n < 2 ^ 32) : 0 ≤ asI32 n ↔ n < 2 ^ 31 := by
  unfold asI32
  rw [Int.bmod_def]
  split_ifs <;> omega

theorem sound_enter (hkc : kc < 2 ^ 31) (htl : tl < 2 ^ 31) (call : CashCall) :
    (call.enter kc tl).Sound := by
  have hkc' := asI32_of_lt hkc
  have htl' := asI32_of_lt htl
  cases call with
  | giveBalance cashAmount tlAmount =>
    dsimp only [CashCall.enter]
    split_ifs
    · trivial
    · exact ⟨hkc, htl, trivial⟩
  | deductKc amount =>
    dsimp only [CashCall.enter]
    rw [hkc']
    split_ifs with hle hlt
    · trivial
    · trivial
    · exact ⟨hkc, fun _ => ⟨not_le.mp hle, not_lt.mp hlt⟩⟩
  | deductTl amount =>
    dsimp only [CashCall.enter]
    rw [htl']
    split_ifs with hle hlt
    · trivial
    · trivial
    · exact ⟨htl, fun _ => ⟨not_le.mp hle, not_lt.mp hlt⟩⟩
  | cashLose amount =>
    dsimp only [CashCall.enter]
    split_ifs with hzero hlt
    · trivial
    · trivial
    · exact ⟨hkc, fun _ => not_lt.mp hlt⟩
  | cashGain amount =>
    dsimp only [CashCall.enter]
    split_ifs
    · trivial
    · exact ⟨hkc, fun _ => trivial⟩

/-- A call that returns at its first read owes nothing. -/
theorem owes_enter (kc tl : ℕ) (call : CashCall) :
    (call.enter kc tl).credit = 0 ∧ (call.enter kc tl).deduction = 0 := by
  cases call with
  | giveBalance cashAmount tlAmount =>
    dsimp only [CashCall.enter]
    split_ifs with hzero
    · simp [CashPhase.credit, CashPhase.deduction, hzero.1, hzero.2]
    · exact ⟨rfl, rfl⟩
  | deductKc amount =>
    dsimp only [CashCall.enter]
    split_ifs with hle
    · simp [CashPhase.credit, CashPhase.deduction, hle]
    · exact ⟨rfl, rfl⟩
    · exact ⟨rfl, rfl⟩
  | deductTl amount =>
    dsimp only [CashCall.enter]
    split_ifs with hle
    · simp [CashPhase.credit, CashPhase.deduction, hle]
    · exact ⟨rfl, rfl⟩
    · exact ⟨rfl, rfl⟩
  | cashLose amount =>
    dsimp only [CashCall.enter]
    split_ifs with hzero
    · simp [CashPhase.credit, CashPhase.deduction, hzero]
    · exact ⟨rfl, rfl⟩
    · exact ⟨rfl, rfl⟩
  | cashGain amount =>
    dsimp only [CashCall.enter]
    split_ifs with hzero
    · simp [CashPhase.credit, CashPhase.deduction, hzero]
    · exact ⟨rfl, rfl⟩

/-- Whichever call it is, it sets what it has read with its change, clamped. -/
theorem balances_eq (hkc : kc < 2 ^ 31) (htl : tl < 2 ^ 31) (hcovers : call.Covers kc tl) :
    call.balances kc tl = (clampU32 (kc + call.delta.1), clampU32 (tl + call.delta.2)) := by
  have hkc' := asI32_of_lt hkc
  have htl' := asI32_of_lt htl
  have hclamp : ∀ n : ℕ, n < 2 ^ 31 → clampU32 (n + 0) = n := by
    intro n hn
    unfold clampU32
    omega
  cases call with
  | giveBalance cashAmount tlAmount =>
    simp [CashCall.balances, CashCall.delta, CashPhase.credit, CashPhase.deduction]
  | deductKc amount =>
    obtain ⟨hpos, hle⟩ := hcovers
    have hdelta : (CashCall.deductKc amount).delta = (-amount, 0) := by
      simp [CashCall.delta, CashPhase.credit, CashPhase.deduction, max_eq_left hpos.le]
    have hset : clampU32 (kc + -amount) = (max (kc - amount) 0).toNat := by
      unfold clampU32
      omega
    rw [hdelta, CashCall.balances, hkc', hclamp tl htl, hset]
  | deductTl amount =>
    obtain ⟨hpos, hle⟩ := hcovers
    have hdelta : (CashCall.deductTl amount).delta = (0, -amount) := by
      simp [CashCall.delta, CashPhase.credit, CashPhase.deduction, max_eq_left hpos.le]
    have hset : clampU32 (tl + -amount) = (max (tl - amount) 0).toNat := by
      unfold clampU32
      omega
    rw [hdelta, CashCall.balances, htl', hclamp kc hkc, hset]
  | cashLose amount =>
    have hdelta : (CashCall.cashLose amount).delta = (-(amount : ℤ), 0) := by
      simp [CashCall.delta, CashPhase.credit, CashPhase.deduction]
    have hle : amount ≤ kc := hcovers
    have hset : clampU32 (kc + -(amount : ℤ)) = kc - amount := by
      unfold clampU32
      omega
    rw [hdelta, CashCall.balances, hclamp tl htl, hset]
  | cashGain amount =>
    have hdelta : (CashCall.cashGain amount).delta = ((amount : ℤ), 0) := by
      simp [CashCall.delta, CashPhase.credit, CashPhase.deduction]
    have hset : clampU32 (kc + (amount : ℤ)) = min (kc + amount) (2 ^ 32 - 1) := by
      unfold clampU32
      omega
    rw [hdelta, CashCall.balances, hclamp tl htl, hset]

theorem meets_iff {read now : ℕ} {δ : ℤ} :
    ((clampU32 (read + δ) : ℤ) = now + δ ∧ 0 ≤ asI32 (clampU32 (read + δ))) ↔
      Meets read now δ := by
  rw [asI32_nonneg (clampU32_lt _)]
  unfold Meets clampU32
  omega

end Call

section Rows

/-- A task of the account, as a write to the one pair of columns. -/
def capturedPair (w : ℤ × ℤ) : Σ _ : Unit, ℤ × ℤ := ⟨(), w⟩

theorem execAll_pairs (rows : ℤ × ℤ) (p : List (ℤ × ℤ)) :
    WriteBehind.execAll (fun _ => rows) (p.map capturedPair) =
      fun _ => p.foldl (fun _ w => w) rows := by
  induction p generalizing rows with
  | nil => rfl
  | cons w p ih =>
    have hexec : WriteBehind.exec (fun _ => rows) (capturedPair w) = fun _ => w :=
      funext fun _ => Function.update_self _ _ _
    rw [List.map_cons, List.foldl_cons, ← ih w, ← hexec]
    rfl

/-- With tasks on their way, the rows end as the balances where every task has them. -/
theorem CashAccount.settles_iff {s : CashAccount} (htasks : s.tasks ≠ []) :
    s.Settles ↔ ∀ w ∈ s.tasks, w = ((s.knightCash : ℤ), (s.tlBalance : ℤ)) := by
  have hclean : WriteBehind.Clean (fun _ : Unit => ((s.knightCash : ℤ), (s.tlBalance : ℤ)))
      (fun _ => s.rows) (s.tasks.map capturedPair) := by
    intro k hk
    obtain ⟨w, hw⟩ := List.exists_mem_of_ne_nil _ htasks
    exact absurd rfl (hk (capturedPair w) (List.mem_map_of_mem hw))
  have hiff := WriteBehind.settles_iff capturedPair hclean
  simp only [execAll_pairs, funext_iff, forall_const] at hiff
  unfold Settles
  rw [hiff]
  exact List.forall_mem_map

/-- The task that runs could have been the first of any order. -/
theorem CashAccount.Settles.persist {s : CashAccount} (h : s.Settles) {i : ℕ} {w : ℤ × ℤ}
    (hw : s.tasks[i]? = some w) :
    CashAccount.Settles { s with rows := w, tasks := s.tasks.eraseIdx i } := by
  intro p hp
  obtain ⟨hi, rfl⟩ := List.getElem?_eq_some_iff.mp hw
  have hperm : (s.tasks[i] :: p).Perm s.tasks :=
    (hp.cons _).trans (List.getElem_cons_eraseIdx_perm hi)
  exact h (s.tasks[i] :: p) hperm

end Rows

namespace CashAccount

variable {kc₀ tl₀ : ℕ} {s : CashAccount} {i : ℕ} {p q : CashPhase}

theorem sum_map_set (f : CashPhase → ℤ × ℤ) {calls : List CashPhase} (hp : calls[i]? = some p)
    (q : CashPhase) : ((calls.set i q).map f).sum = (calls.map f).sum - f p + f q := by
  obtain ⟨hi, rfl⟩ := List.getElem?_eq_some_iff.mp hp
  have hlen : i < (calls.map f).length := by rw [List.length_map]; exact hi
  rw [List.map_set, List.sum_set', dif_pos hlen, List.getElem_map, ← add_assoc, ← sub_eq_add_neg]

structure Sound (kc₀ tl₀ : ℕ) (s : CashAccount) : Prop where
  kc_lt : s.knightCash < 2 ^ 31
  tl_lt : s.tlBalance < 2 ^ 31
  accounted : s.Accounted kc₀ tl₀
  settles : s.Settles
  calls : ∀ p ∈ s.calls, p.Sound

theorem sound_start {kc₀ tl₀ : ℕ} (hkc : kc₀ < 2 ^ 31) (htl : tl₀ < 2 ^ 31)
    (calls : List CashCall) : (start kc₀ tl₀ calls).Sound kc₀ tl₀ := by
  have hsum : ∀ f : CashPhase → ℤ × ℤ, (∀ call, f (.entered call) = 0) →
      ((start kc₀ tl₀ calls).calls.map f).sum = 0 := by
    intro f hf
    have hmap : (start kc₀ tl₀ calls).calls.map f = calls.map fun _ => 0 := by
      unfold start
      rw [List.map_map]
      exact List.map_congr_left fun call _ => hf call
    rw [hmap, List.sum_map_zero]
  refine ⟨hkc, htl, ?_, fun p hp => ?_, fun p hp => ?_⟩
  · have hcredits : (start kc₀ tl₀ calls).credits = 0 := hsum _ fun _ => rfl
    have hdeductions : (start kc₀ tl₀ calls).deductions = 0 := hsum _ fun _ => rfl
    constructor <;> rw [hcredits, hdeductions] <;> simp [start]
  · rw [List.perm_nil.mp hp]
    rfl
  · obtain ⟨call, -, rfl⟩ := List.mem_map.mp hp
    trivial

/-- A call goes on that owes nothing yet. -/
theorem Sound.setPhase (h : s.Sound kc₀ tl₀) (hp : s.calls[i]? = some p)
    (hcredit : p.credit = q.credit) (hdeduction : p.deduction = q.deduction) (hq : q.Sound) :
    (s.setPhase i q).Sound kc₀ tl₀ := by
  have hcredits : (s.setPhase i q).credits = s.credits := by
    unfold credits CashAccount.setPhase
    rw [sum_map_set _ hp, hcredit, sub_add_cancel]
  have hdeductions : (s.setPhase i q).deductions = s.deductions := by
    unfold deductions CashAccount.setPhase
    rw [sum_map_set _ hp, hdeduction, sub_add_cancel]
  refine ⟨h.kc_lt, h.tl_lt, ⟨?_, ?_⟩, h.settles, fun r hr => ?_⟩
  · rw [hcredits, hdeductions]
    exact h.accounted.kc
  · rw [hcredits, hdeductions]
    exact h.accounted.tl
  · rcases List.mem_or_eq_of_mem_set hr with hr | rfl
    · exact h.calls r hr
    · exact hq

theorem Sound.readBack (h : s.Sound kc₀ tl₀) :
    0 ≤ asI32 s.knightCash ∧ 0 ≤ asI32 s.tlBalance := by
  rw [asI32_of_lt h.kc_lt, asI32_of_lt h.tl_lt]
  omega

theorem Sound.kept {e : CashEvent} (h : (s.step e).Sound kc₀ tl₀)
    (hset : ∀ i call kc tl, e = .advance i → s.calls[i]? ≠ some (.ready call kc tl)) :
    Kept kc₀ tl₀ s e where
  accounted := h.accounted
  covered i call kc tl he hready := absurd hready (hset i call kc tl he)
  readBack := h.readBack
  settles := h.settles

section Set

variable {call : CashCall} {kc tl : ℕ}

theorem step_ready (hready : s.calls[i]? = some (.ready call kc tl)) :
    s.step (.advance i) = (s.set (call.balances kc tl)).setPhase i (.returned call true) := by
  simp only [step, hready]

theorem accounted_set (h : s.Sound kc₀ tl₀) (hready : s.calls[i]? = some (.ready call kc tl))
    (new : ℕ × ℕ) :
    ((s.set new).setPhase i (.returned call true)).Accounted kc₀ tl₀ ↔
      (new.1 : ℤ) = s.knightCash + call.delta.1 ∧ (new.2 : ℤ) = s.tlBalance + call.delta.2 := by
  have hcredits : ((s.set new).setPhase i (.returned call true)).credits =
      s.credits + CashPhase.credit (.returned call true) := by
    have hsum := sum_map_set CashPhase.credit hready (.returned call true)
    rw [show CashPhase.credit (.ready call kc tl) = 0 from rfl, sub_zero] at hsum
    exact hsum
  have hdeductions : ((s.set new).setPhase i (.returned call true)).deductions =
      s.deductions + CashPhase.deduction (.returned call true) := by
    have hsum := sum_map_set CashPhase.deduction hready (.returned call true)
    rw [show CashPhase.deduction (.ready call kc tl) = 0 from rfl, sub_zero] at hsum
    exact hsum
  have hkc := h.accounted.kc
  have htl := h.accounted.tl
  have hnew : ((s.set new).setPhase i (.returned call true)).knightCash = new.1 ∧
    ((s.set new).setPhase i (.returned call true)).tlBalance = new.2 := ⟨rfl, rfl⟩
  unfold CashCall.delta
  rw [Prod.fst_sub, Prod.snd_sub]
  constructor
  · rintro ⟨hkc', htl'⟩
    rw [hnew.1, hcredits, hdeductions, Prod.fst_add, Prod.fst_add] at hkc'
    rw [hnew.2, hcredits, hdeductions, Prod.snd_add, Prod.snd_add] at htl'
    omega
  · rintro ⟨hkc', htl'⟩
    constructor
    · rw [hnew.1, hcredits, hdeductions, Prod.fst_add, Prod.fst_add]
      omega
    · rw [hnew.2, hcredits, hdeductions, Prod.snd_add, Prod.snd_add]
      omega

theorem settles_set {new : ℕ × ℕ} (hkc : new.1 < 2 ^ 31) (htl : new.2 < 2 ^ 31) :
    ((s.set new).setPhase i p).Settles ↔ ∀ w ∈ s.tasks, w = ((new.1 : ℤ), (new.2 : ℤ)) := by
  have htasks : ((s.set new).setPhase i p).tasks = s.tasks ++ [((new.1 : ℤ), (new.2 : ℤ))] := by
    unfold CashAccount.setPhase set
    rw [asI32_of_lt hkc, asI32_of_lt htl]
  rw [settles_iff (by rw [htasks]; simp), htasks, List.forall_mem_append]
  simp [CashAccount.setPhase, set]

theorem deduction_le (hkc : 0 ≤ s.knightCash + call.delta.1) (htl : 0 ≤ s.tlBalance + call.delta.2) :
    (CashPhase.deduction (.returned call true)).1 ≤ s.knightCash ∧
      (CashPhase.deduction (.returned call true)).2 ≤ s.tlBalance := by
  cases call <;>
    simp only [CashCall.delta, CashPhase.credit, CashPhase.deduction, Prod.fst_sub, Prod.snd_sub,
      Prod.fst_zero, Prod.snd_zero] at hkc htl ⊢ <;> omega

theorem step_set (h : s.Sound kc₀ tl₀) (hready : s.calls[i]? = some (.ready call kc tl)) :
    s.step (.advance i) = (s.set (clampU32 (kc + call.delta.1), clampU32 (tl + call.delta.2))).setPhase
      i (.returned call true) := by
  obtain ⟨hkc, htl, hcovers⟩ := h.calls _ (List.mem_of_getElem? hready)
  rw [step_ready hready, balances_eq hkc htl hcovers]

theorem Sound.set (h : s.Sound kc₀ tl₀) (hready : s.calls[i]? = some (.ready call kc tl))
    (hcond : s.SetCondition call kc tl) : (s.step (.advance i)).Sound kc₀ tl₀ := by
  rw [step_set h hready]
  obtain ⟨hkc, hread⟩ := meets_iff.mpr hcond.kc
  obtain ⟨htl, hread'⟩ := meets_iff.mpr hcond.tl
  have hkc_lt := (asI32_nonneg (clampU32_lt _)).mp hread
  have htl_lt := (asI32_nonneg (clampU32_lt _)).mp hread'
  refine ⟨hkc_lt, htl_lt, (accounted_set h hready _).mpr ⟨hkc, htl⟩, ?_, fun p hp => ?_⟩
  · rw [settles_set hkc_lt htl_lt, hkc, htl]
    exact hcond.tasks
  · rcases List.mem_or_eq_of_mem_set hp with hp | rfl
    · exact h.calls p hp
    · trivial

/-- A call sets the balances as is asked exactly where the condition holds. -/
theorem Sound.kept_set (h : s.Sound kc₀ tl₀) (hready : s.calls[i]? = some (.ready call kc tl)) :
    Kept kc₀ tl₀ s (.advance i) ↔ s.SetCondition call kc tl := by
  constructor
  · rintro ⟨haccounted, -, hreadBack, hsettles⟩
    rw [step_set h hready] at haccounted hreadBack hsettles
    obtain ⟨hkc, htl⟩ := (accounted_set h hready _).mp haccounted
    have hkc_lt := (asI32_nonneg (clampU32_lt _)).mp hreadBack.1
    have htl_lt := (asI32_nonneg (clampU32_lt _)).mp hreadBack.2
    refine ⟨meets_iff.mp ⟨hkc, hreadBack.1⟩, meets_iff.mp ⟨htl, hreadBack.2⟩, ?_⟩
    rw [settles_set hkc_lt htl_lt, hkc, htl] at hsettles
    exact hsettles
  · intro hcond
    have h' := h.set hready hcond
    refine ⟨h'.accounted, ?_, h'.readBack, h'.settles⟩
    rintro j call' kc' tl' ⟨rfl⟩ hready'
    rw [hready] at hready'
    cases hready'
    exact deduction_le hcond.kc.1 hcond.tl.1

end Set

/-- One step: it goes as asked exactly where the condition holds, and is sound then. -/
theorem Sound.step_iff (h : s.Sound kc₀ tl₀) (e : CashEvent) :
    (Kept kc₀ tl₀ s e ↔ s.Condition e) ∧ (s.Condition e → (s.step e).Sound kc₀ tl₀) := by
  have hquiet : (s.step e).Sound kc₀ tl₀ →
      (∀ i call kc tl, e = .advance i → s.calls[i]? ≠ some (.ready call kc tl)) →
      (Kept kc₀ tl₀ s e ↔ s.Condition e) ∧ (s.Condition e → (s.step e).Sound kc₀ tl₀) := by
    refine fun h' hset => ⟨iff_of_true (h'.kept hset) ?_, fun _ => h'⟩
    cases e with
    | advance i => exact fun call kc tl hready => absurd hready (hset i call kc tl rfl)
    | persist i => trivial
  cases e with
  | persist i =>
    refine hquiet ?_ fun j call kc tl he => by cases he
    simp only [step]
    cases hw : s.tasks[i]? with
    | none => exact h
    | some w => exact ⟨h.kc_lt, h.tl_lt, ⟨h.accounted.kc, h.accounted.tl⟩, h.settles.persist hw, h.calls⟩
  | advance i =>
    cases hp : s.calls[i]? with
    | none =>
      refine hquiet ?_ (by rintro j call kc tl ⟨rfl⟩; rw [hp]; simp)
      simpa only [step, hp] using h
    | some p =>
      have hsound := h.calls p (List.mem_of_getElem? hp)
      cases p with
      | entered call =>
        refine hquiet ?_ (by rintro j call kc tl ⟨rfl⟩; rw [hp]; simp)
        simp only [step, hp]
        obtain ⟨hcredit, hdeduction⟩ := owes_enter s.knightCash s.tlBalance call
        exact h.setPhase hp hcredit.symm hdeduction.symm (sound_enter h.kc_lt h.tl_lt call)
      | readKc call kc =>
        refine hquiet ?_ (by rintro j call kc tl ⟨rfl⟩; rw [hp]; simp)
        simp only [step, hp]
        exact h.setPhase hp rfl rfl ⟨hsound.1, h.tl_lt, hsound.2 _⟩
      | readTl call tl =>
        refine hquiet ?_ (by rintro j call kc tl ⟨rfl⟩; rw [hp]; simp)
        simp only [step, hp]
        exact h.setPhase hp rfl rfl ⟨h.kc_lt, hsound.1, hsound.2 _⟩
      | ready call kc tl =>
        have hcond : s.Condition (.advance i) ↔ s.SetCondition call kc tl := by
          constructor
          · exact fun hcond => hcond call kc tl hp
          · intro hcond call' kc' tl' hready
            rw [hp] at hready
            cases hready
            exact hcond
        rw [hcond]
        exact ⟨h.kept_set hp, h.set hp⟩
      | returned call accepted =>
        refine hquiet ?_ (by rintro j call kc tl ⟨rfl⟩; rw [hp]; simp)
        simpa only [step, hp] using h

/-- Every step of a run goes as asked exactly where every step of it meets the condition. -/
theorem knight_cash_kept_iff (kc₀ tl₀ : ℕ) (hkc : kc₀ < 2 ^ 31) (htl : tl₀ < 2 ^ 31)
    (calls : List CashCall) (events : List CashEvent) :
    Run.Along step (Kept kc₀ tl₀) (start kc₀ tl₀ calls) events ↔
      Run.Along step Condition (start kc₀ tl₀ calls) events := by
  refine Run.along_congr (Sound kc₀ tl₀) (fun s e h hkept => ?_)
    (fun s e h => (h.step_iff e).1) (sound_start hkc htl calls)
  exact (h.step_iff e).2 ((h.step_iff e).1.mp hkept)

/-- A gain of 5 and then a loss of 3, one after the other and each written before the next. -/
theorem gain_then_lose_kept : Run.Along step (Kept 10 0)
    (start 10 0 [.cashGain 5, .cashLose 3])
    [.advance 0, .advance 0, .advance 0, .persist 0, .advance 1, .advance 1, .advance 1,
      .persist 0] := by
  refine (knight_cash_kept_iff 10 0 (by decide) (by decide) _ _).mpr
    ⟨?_, ?_, ?_, trivial, ?_, ?_, ?_, trivial, trivial⟩
  all_goals
    intro call kc tl hready
    cases hready
  · exact ⟨by decide, by decide, by decide⟩
  · exact ⟨by decide, by decide, by decide⟩

/-- Of two gains that read before either sets, one is lost. -/
theorem two_gains_lose_one : ¬Run.Along step (Kept 10 0)
    (start 10 0 [.cashGain 5, .cashGain 7])
    [.advance 0, .advance 0, .advance 1, .advance 1, .advance 0, .advance 1] := by
  rintro ⟨-, -, -, -, -, hkept, -⟩
  have hkc := hkept.accounted.kc
  revert hkc
  decide

end CashAccount

end KoServer
