import Mathlib.Data.List.Basic
import Mathlib.Tactic.SplitIfs

/-! Counting in windows of a fixed length that start again with the first event behind their end. A
stretch of the same length meets two windows at most, so that it holds twice the limit at most. -/

namespace Windows

structure Window where
  start : ℕ
  count : ℕ

/-- What an event at the time `t` makes of the window: it is passed over, or it may raise the count,
which starts from zero in a new window. An event that is counted finds room. -/
def Step (length limit t : ℕ) (counted : Bool) (w w' : Window) : Prop :=
  (w' = w ∧ counted = false) ∨
    ∃ c, (w.start + length ≤ t ∧ w'.start = t ∧ c = 0 ∨
        t < w.start + length ∧ w'.start = w.start ∧ c = w.count) ∧
      c ≤ w'.count ∧ (counted = true → c < w'.count ∧ w'.count ≤ limit)

inductive Counts (length limit : ℕ) : Window → List (ℕ × Bool) → Prop
  | nil (w : Window) : Counts length limit w []
  | cons {w w' : Window} {t : ℕ} {counted : Bool} {events : List (ℕ × Bool)}
      (hstart : w.start ≤ t) (hstep : Step length limit t counted w w')
      (hrest : Counts length limit w' events) : Counts length limit w ((t, counted) :: events)

/-- Counted, and in the stretch that begins at `T`. -/
def countedIn (length T : ℕ) (e : ℕ × Bool) : Bool := e.2 && (T ≤ e.1 && e.1 < T + length)

def room (length limit T : ℕ) (w : Window) : ℕ :=
  if w.start < T then limit - w.count + limit
  else if w.start < T + length then limit - w.count
  else 0

variable {length limit t T : ℕ} {counted : Bool} {w w' : Window} {events : List (ℕ × Bool)}

theorem room_step (hT : T ≤ t) (hstart : w.start ≤ t) (hstep : Step length limit t counted w w') :
    room length limit T w' + (if countedIn length T (t, counted) then 1 else 0) ≤
      room length limit T w := by
  unfold countedIn
  rcases hstep with ⟨rfl, rfl⟩ | ⟨c, hwindow, hc, hcounted⟩
  · simp
  · unfold room
    cases counted with
    | false =>
      simp only [Bool.false_and, Bool.false_eq_true, if_false]
      rcases hwindow with ⟨hnew, hstart', rfl⟩ | ⟨hold, hstart', rfl⟩
      · split_ifs <;> omega
      · split_ifs <;> omega
    | true =>
      obtain ⟨hlt, hle⟩ := hcounted rfl
      simp only [Bool.true_and, Bool.and_eq_true, decide_eq_true_eq]
      rcases hwindow with ⟨hnew, hstart', rfl⟩ | ⟨hold, hstart', rfl⟩
      · split_ifs <;> omega
      · split_ifs <;> omega

theorem Counts.le_room (h : Counts length limit w events) (hT : ∀ e ∈ events, T ≤ e.1) :
    events.countP (countedIn length T) ≤ room length limit T w := by
  induction h with
  | nil => exact Nat.zero_le _
  | cons hstart hstep _ ih =>
    obtain ⟨hfirst, hrest⟩ := List.forall_mem_cons.mp hT
    have hroom := room_step hfirst hstart hstep
    have hle := ih hrest
    rw [List.countP_cons]
    exact Nat.le_trans (Nat.add_le_add_right hle _) hroom

theorem Counts.le_twice (h : Counts length limit w events)
    (hsorted : events.Pairwise fun e e' => e.1 ≤ e'.1) (T : ℕ) :
    events.countP (countedIn length T) ≤ 2 * limit := by
  induction h with
  | nil => exact Nat.zero_le _
  | @cons w w' t counted events hstart hstep hrest ih =>
    obtain ⟨hfirst, hsorted⟩ := List.pairwise_cons.mp hsorted
    rcases Nat.lt_or_ge t T with ht | ht
    · have hout : countedIn length T (t, counted) = false := by
        simp [countedIn, Nat.not_le.mpr ht]
      rw [List.countP_cons, hout]
      exact ih hsorted
    · have hle := (Counts.cons hstart hstep hrest).le_room (T := T) <|
        List.forall_mem_cons.mpr ⟨ht, fun e he => Nat.le_trans ht (hfirst e he)⟩
      refine Nat.le_trans hle ?_
      unfold room
      split_ifs <;> omega

end Windows
