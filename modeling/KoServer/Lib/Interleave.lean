import Mathlib.Logic.Function.Basic
import KoServer.Lib.Run

/-! Programs of atomic steps on a shared state, interleaved in any order. A step is labelled by
what it finds in the state. What a program keeps to whatever it finds, as long as the others keep
an invariant, it keeps to in every run; and of two kinds of steps a run has one kind only when
each step looks whether the other kind was there first. -/

namespace Interleave

/-- A program: each step reads the state, writes it, and goes on from what it read. -/
inductive Prog (σ L : Type*) where
  | done
  | step (label : σ → L) (act : σ → σ) (next : σ → Prog σ L)

namespace Prog

variable {σ L : Type*}

/-- The program run to its end, undisturbed. -/
def solo : Prog σ L → σ → σ
  | done, s => s
  | step _ act next, s => (next s).solo (act s)

@[simp] theorem solo_done (s : σ) : (done : Prog σ L).solo s = s := rfl

variable (inv : σ → Prop) (rule : List L → L → Prop)

/-- In states with the invariant, which the program keeps, each label is allowed after those that
the program has left behind. -/
def Obeys : List L → Prog σ L → Prop
  | _, done => True
  | past, step label act next => ∀ s, inv s →
      inv (act s) ∧ rule past (label s) ∧ (next s).Obeys (label s :: past)

/-- The rest of a program, after any past of a kind. -/
def ObeysFrom (P : List L → Prop) (p : Prog σ L) : Prop := ∀ past, P past → p.Obeys inv rule past

variable {inv rule} {P Q : List L → Prop} {p : Prog σ L}

theorem obeysFrom_done : (done : Prog σ L).ObeysFrom inv rule P := fun _ _ => trivial

theorem ObeysFrom.mono (h : p.ObeysFrom inv rule P) (hQ : ∀ past, Q past → P past) :
    p.ObeysFrom inv rule Q := fun past hq => h past (hQ past hq)

end Prog

/-- Each label is allowed after those before it, the last one first. -/
def Ruled {L : Type*} (rule : List L → L → Prop) : List L → Prop
  | [] => True
  | l :: past => rule past l ∧ Ruled rule past

theorem Ruled.of_mem {L : Type*} {rule : List L → L → Prop} {ls : List L} {l : L}
    (h : Ruled rule ls) (hl : l ∈ ls) : ∃ later past, ls = later ++ l :: past ∧ rule past l := by
  induction ls with
  | nil => cases hl
  | cons a ls ih =>
    rcases List.mem_cons.mp hl with rfl | hl
    · exact ⟨[], ls, rfl, h.1⟩
    · obtain ⟨later, past, rfl, hr⟩ := ih h.2 hl
      exact ⟨a :: later, past, rfl, hr⟩

/-- Of two labels that shut each other out there is one at most. -/
theorem Ruled.not_both {L : Type*} {rule : List L → L → Prop} {ls : List L} {a b : L}
    (h : Ruled rule ls) (hab : a ≠ b) (ha : ∀ past, b ∈ past → ¬ rule past a)
    (hb : ∀ past, a ∈ past → ¬ rule past b) (hmem : a ∈ ls) : b ∉ ls := by
  induction ls with
  | nil => cases hmem
  | cons l ls ih =>
    intro hmem'
    rcases List.mem_cons.mp hmem with rfl | hbefore
    · rcases List.mem_cons.mp hmem' with rfl | hbefore'
      · exact hab rfl
      · exact ha ls hbefore' h.1
    · rcases List.mem_cons.mp hmem' with rfl | hbefore'
      · exact hb ls hbefore h.1
      · exact ih h.2 hbefore hbefore'

/-- Programs under way, and what each has done, the last step first. -/
structure System (τ σ L : Type*) where
  programs : τ → Prog σ L
  state : σ
  trace : List (τ × L)

namespace System

variable {τ σ L : Type*}

def start (programs : τ → Prog σ L) (state : σ) : System τ σ L := ⟨programs, state, []⟩

/-- The label of the next step of program `t`. -/
def next (s : System τ σ L) (t : τ) : Option L :=
  match s.programs t with
  | .done => none
  | .step label _ _ => some (label s.state)

def labels (s : System τ σ L) : List L := s.trace.map Prod.snd

variable [DecidableEq τ]

/-- One step of program `t`. -/
def step (s : System τ σ L) (t : τ) : System τ σ L :=
  match s.programs t with
  | .done => s
  | .step label act next =>
    { programs := Function.update s.programs t (next s.state)
      state := act s.state
      trace := (t, label s.state) :: s.trace }

def own (s : System τ σ L) (t : τ) : List L := (s.trace.filter (·.1 = t)).map Prod.snd

theorem mem_own {s : System τ σ L} {t : τ} {l : L} : l ∈ s.own t ↔ (t, l) ∈ s.trace := by
  simp [own]

structure Lawful (inv : σ → Prop) (rule : τ → List L → L → Prop) (s : System τ σ L) : Prop where
  state : inv s.state
  programs : ∀ t, (s.programs t).Obeys inv (rule t) (s.own t)
  ruled : ∀ t, Ruled (rule t) (s.own t)

variable {inv : σ → Prop} {rule : τ → List L → L → Prop} {s : System τ σ L}

theorem lawful_start {programs : τ → Prog σ L} {state : σ} (hinv : inv state)
    (h : ∀ t, (programs t).Obeys inv (rule t) []) : Lawful inv rule (start programs state) :=
  ⟨hinv, h, fun _ => trivial⟩

theorem lawful_step (hs : Lawful inv rule s) (t : τ) : Lawful inv rule (s.step t) := by
  obtain ⟨hinv, hprograms, hruled⟩ := hs
  have ht := hprograms t
  unfold step
  split
  · exact ⟨hinv, hprograms, hruled⟩
  · next label act next hp =>
    rw [hp] at ht
    obtain ⟨hact, hallowed, hnext⟩ := ht s.state hinv
    refine ⟨hact, fun u => ?_, fun u => ?_⟩ <;> rcases eq_or_ne u t with rfl | hu
    · simpa [own] using hnext
    · simpa [own, hu, hu.symm] using hprograms u
    · simpa [own] using ⟨hallowed, hruled u⟩
    · simpa [own, hu.symm] using hruled u

theorem lawful_run {programs : τ → Prog σ L} {state : σ} (hinv : inv state)
    (h : ∀ t, (programs t).Obeys inv (rule t) []) (schedule : List τ) :
    Lawful inv rule (Run.run step (start programs state) schedule) :=
  Run.invariant (Lawful inv rule) (fun _ t hs _ => lawful_step hs t) (Run.along_true _ schedule)
    (lawful_start hinv h)

section

variable (P Q : τ × L → Prop)

/-- The next step of `t` is none of the one kind after one of the other. -/
def Yields (s : System τ σ L) (t : τ) : Prop :=
  match s.next t with
  | none => True
  | some l => (P (t, l) → ∀ e ∈ s.trace, ¬ Q e) ∧ (Q (t, l) → ∀ e ∈ s.trace, ¬ P e)

instance [DecidablePred P] [DecidablePred Q] (s : System τ σ L) (t : τ) :
    Decidable (s.Yields P Q t) := by
  unfold Yields
  split <;> infer_instance

variable {P Q}

theorem apart_step (hPQ : ∀ e, P e → ¬ Q e) {t : τ} (hs : ∀ e ∈ s.trace, P e → ∀ f ∈ s.trace, ¬ Q f)
    (hyields : s.Yields P Q t) : ∀ e ∈ (s.step t).trace, P e → ∀ f ∈ (s.step t).trace, ¬ Q f := by
  unfold Yields next at hyields
  unfold step
  split at hyields
  · next hp =>
    cases hprogram : s.programs t with
    | done => exact hs
    | step label act next =>
      rw [hprogram] at hp
      cases hp
  · next l hl =>
    cases hprogram : s.programs t with
    | done => exact hs
    | step label act next =>
      rw [hprogram] at hl
      obtain rfl := Option.some.inj hl
      intro e he hpe f hf
      rcases List.mem_cons.mp he with rfl | he <;> rcases List.mem_cons.mp hf with rfl | hf
      · exact hPQ _ hpe
      · exact hyields.1 hpe f hf
      · exact fun hq => hyields.2 hq e he hpe
      · exact hs e he hpe f hf

theorem apart (hPQ : ∀ e, P e → ¬ Q e) {programs : τ → Prog σ L} {state : σ} {schedule : List τ}
    (h : Run.Along step (Yields P Q) (start programs state) schedule) {e f : τ × L}
    (he : e ∈ (Run.run step (start programs state) schedule).trace) (hpe : P e)
    (hf : f ∈ (Run.run step (start programs state) schedule).trace) : ¬ Q f := by
  have hrun : ∀ e ∈ (Run.run step (start programs state) schedule).trace, P e →
      ∀ f ∈ (Run.run step (start programs state) schedule).trace, ¬ Q f := by
    refine Run.invariant (fun s => ∀ e ∈ s.trace, P e → ∀ f ∈ s.trace, ¬ Q f)
      (fun _ _ hs hy => apart_step hPQ hs hy) h ?_
    intro e he
    cases he
  exact hrun e he hpe f hf

end

end System

end Interleave
