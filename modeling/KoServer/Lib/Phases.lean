import KoServer.Lib.Run
import Mathlib.Data.List.Range
import Mathlib.Tactic.SplitIfs

/-! The phases that a run goes through, each noted when it is entered. -/

namespace Run

variable {σ ι α : Type*} [DecidableEq α] (step : σ → ι → σ) (f : σ → α)

/-- The values that `f` changes to along a run. -/
def changes : σ → List ι → List α
  | _, [] => []
  | s, i :: steps =>
    (if f (step s i) = f s then [] else [f (step s i)]) ++ changes (step s i) steps

variable {step f} {ok : σ → ι → Prop}

theorem changes_eq_of_climb (I : σ → Prop) (rank : σ → ℕ) (phase : ℕ → α)
    (hphase : ∀ s, I s → f s = phase (rank s))
    (hstep : ∀ s i, I s → ok s i → I (step s i) ∧ (rank (step s i) = rank s ∨
      rank (step s i) = rank s + 1 ∧ phase (rank s + 1) ≠ phase (rank s)))
    {s : σ} {steps : List ι} (hok : Along step ok s steps) (hs : I s) :
    rank s ≤ rank (run step s steps) ∧
      changes step f s steps =
        (List.range' (rank s + 1) (rank (run step s steps) - rank s)).map phase := by
  induction steps generalizing s with
  | nil => simp [changes]
  | cons i steps ih =>
    obtain ⟨hi, hrest⟩ := hok
    obtain ⟨hI, hrank⟩ := hstep s i hs hi
    obtain ⟨hle, htail⟩ := ih hrest hI
    rw [run_cons, changes, htail, hphase s hs, hphase _ hI]
    rcases hrank with hstay | ⟨hup, hne⟩
    · rw [if_pos (by rw [hstay]), List.nil_append, hstay]
      exact ⟨hstay ▸ hle, rfl⟩
    · have hlength : rank (run step (step s i) steps) - rank s =
          rank (run step (step s i) steps) - (rank s + 1) + 1 := by omega
      rw [if_neg (by rw [hup]; exact hne), hup, hlength, List.range'_succ, List.map_cons]
      exact ⟨by omega, rfl⟩

theorem not_mem_changes (I : σ → Prop) {a : α}
    (hstep : ∀ s i, I s → ok s i → I (step s i) ∧ (f (step s i) = a → f s = a))
    {s : σ} {steps : List ι} (hok : Along step ok s steps) (hs : I s) :
    a ∉ changes step f s steps := by
  induction steps generalizing s with
  | nil => exact List.not_mem_nil
  | cons i steps ih =>
    obtain ⟨hi, hrest⟩ := hok
    obtain ⟨hI, hold⟩ := hstep s i hs hi
    have htail := ih hrest hI
    unfold changes
    split_ifs with hsame
    · exact htail
    · intro hmem
      rcases List.mem_append.mp hmem with hmem | hmem
      · have ha := (List.mem_singleton.mp hmem).symm
        exact hsame (ha.trans (hold ha).symm)
      · exact htail hmem

theorem along_of_end (I : σ → Prop) (g : σ → ℕ)
    (hstep : ∀ s i, I s → I (step s i) ∧ g s ≤ g (step s i)) {bound : ℕ} {s : σ}
    {steps : List ι} (hs : I s) (hend : g (run step s steps) < bound) :
    Along step (fun s i => g (step s i) < bound) s steps := by
  have hle : ∀ (steps : List ι) (s : σ), I s → g s ≤ g (run step s steps) := by
    intro steps
    induction steps with
    | nil => exact fun s _ => Nat.le_refl _
    | cons i steps ih => exact fun s hs => (hstep s i hs).2.trans (ih _ (hstep s i hs).1)
  induction steps generalizing s with
  | nil => trivial
  | cons i steps ih =>
    have hnext := (hstep s i hs).1
    exact ⟨(hle steps _ hnext).trans_lt hend, ih hnext hend⟩

end Run
