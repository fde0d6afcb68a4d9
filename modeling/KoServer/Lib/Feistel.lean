import Mathlib.Data.List.Basic
import Mathlib.Data.Prod.Basic

/-! Ciphers built from parts that need no inverse of their own: Feistel networks whose round
function may fail, block by block modes, and streams keyed by their own ciphertext. -/

namespace Feistel

section Rounds

variable {K H : Type} (mix : H → H → H) (f : K → H → Option H)

/-- The halves change places, and the new right half is the old left one mixed with the
image of the right one. -/
def round (k : K) (b : H × H) : Option (H × H) := (f k b.2).map fun y => (b.2, mix b.1 y)

def lastRound (k : K) (b : H × H) : Option (H × H) := (f k b.2).map fun y => (mix b.1 y, b.2)

def run : List K → H × H → Option (H × H)
  | [], b => some b
  | [k], b => lastRound mix f k b
  | k :: k' :: ks, b => (round mix f k b).bind (run (k' :: ks))

def rounds : List K → H × H → Option (H × H)
  | [], b => some b
  | k :: ks, b => (round mix f k b).bind (rounds ks)

theorem lastRound_eq (k : K) (b : H × H) :
    lastRound mix f k b = (round mix f k b).map Prod.swap := by
  simp [lastRound, round, Function.comp_def]

theorem run_eq_rounds (k : K) (ks : List K) (b : H × H) :
    run mix f (k :: ks) b = (rounds mix f (k :: ks) b).map Prod.swap := by
  induction ks generalizing k b with
  | nil =>
    simp only [run, rounds, lastRound_eq]
    cases round mix f k b <;> rfl
  | cons k' ks ih =>
    rw [run, rounds]
    cases round mix f k b with
    | none => rfl
    | some c => exact ih k' c

theorem rounds_append (ks ks' : List K) (b : H × H) :
    rounds mix f (ks ++ ks') b = (rounds mix f ks b).bind (rounds mix f ks') := by
  induction ks generalizing b with
  | nil => rfl
  | cons k ks ih =>
    rw [List.cons_append, rounds, rounds, Option.bind_assoc]
    congr 1
    funext c
    exact ih c

variable {mix f}

/-- A round is taken back by the same round on the halves the other way round. -/
theorem round_swap (hmix : ∀ a y, mix (mix a y) y = a) {k : K} {b c : H × H}
    (h : round mix f k b = some c) : round mix f k c.swap = some b.swap := by
  obtain ⟨y, hy, rfl⟩ := Option.map_eq_some_iff.mp h
  simp only [round, Prod.snd_swap, Prod.fst_swap, hy, hmix, Option.map_some]
  rfl

theorem rounds_reverse_swap (hmix : ∀ a y, mix (mix a y) y = a) {ks : List K} {b c : H × H}
    (h : rounds mix f ks b = some c) : rounds mix f ks.reverse c.swap = some b.swap := by
  induction ks generalizing b with
  | nil =>
    obtain rfl : b = c := by simpa [rounds] using h
    rfl
  | cons k ks ih =>
    obtain ⟨d, hd, hc⟩ := Option.bind_eq_some_iff.mp h
    rw [List.reverse_cons, rounds_append, ih hc]
    simp [rounds, round_swap hmix hd]

/-- The network is its own inverse with the keys in reverse order. -/
theorem run_reverse (hmix : ∀ a y, mix (mix a y) y = a) {ks : List K} {b c : H × H}
    (h : run mix f ks b = some c) : run mix f ks.reverse c = some b := by
  cases hks : ks.reverse with
  | nil =>
    obtain rfl : ks = [] := by simpa using hks
    simpa [run, eq_comm] using h
  | cons k' ks' =>
    cases ks with
    | nil => simp at hks
    | cons k ks =>
      rw [run_eq_rounds] at h
      obtain ⟨d, hd, rfl⟩ := Option.map_eq_some_iff.mp h
      rw [run_eq_rounds, ← hks, rounds_reverse_swap hmix hd]
      rfl

/-- What every round keeps of a half, the network keeps of both. -/
theorem run_keeps (good : H → Prop) (hmix : ∀ a y, good a → good y → good (mix a y))
    {ks : List K} (hf : ∀ k ∈ ks, ∀ x, good x → ∃ y, f k x = some y ∧ good y) {b : H × H}
    (hl : good b.1) (hr : good b.2) :
    ∃ c, run mix f ks b = some c ∧ good c.1 ∧ good c.2 := by
  induction ks generalizing b with
  | nil => exact ⟨b, rfl, hl, hr⟩
  | cons k ks ih =>
    obtain ⟨y, hy, hgy⟩ := hf k List.mem_cons_self b.2 hr
    cases ks with
    | nil => exact ⟨(mix b.1 y, b.2), by simp [run, lastRound, hy], hmix _ _ hl hgy, hr⟩
    | cons k' ks =>
      have hf' : ∀ k ∈ k' :: ks, ∀ x, good x → ∃ y, f k x = some y ∧ good y :=
        fun k hk => hf k (List.mem_cons_of_mem _ hk)
      obtain ⟨c, hc, hgood⟩ := @ih hf' (b.2, mix b.1 y) hr (hmix _ _ hl hgy)
      exact ⟨c, by simp [run, round, hy, hc], hgood⟩

end Rounds

section Blocks

variable {α : Type}

/-- `count` blocks of `n` entries, each put through `f`; a missing entry fails. -/
def mapBlocks (n : ℕ) (f : List α → Option (List α)) : ℕ → List α → Option (List α)
  | 0, _ => some []
  | count + 1, data =>
    if data.length < n then none else
    (f (data.take n)).bind fun out => (mapBlocks n f count (data.drop n)).map (out ++ ·)

variable {n : ℕ} {f g : List α → Option (List α)}

theorem mapBlocks_inverse (hfg : ∀ b c, b.length = n → f b = some c → c.length = n ∧ g c = some b)
    {count : ℕ} {data out : List α} (hlen : data.length = n * count)
    (h : mapBlocks n f count data = some out) :
    out.length = n * count ∧ mapBlocks n g count out = some data := by
  induction count generalizing data out with
  | zero =>
    obtain rfl : out = [] := by simpa [mapBlocks, eq_comm] using h
    obtain rfl : data = [] := by simpa using hlen
    exact ⟨rfl, rfl⟩
  | succ count ih =>
    rw [Nat.mul_succ] at hlen
    have hlong : ¬ data.length < n := by omega
    simp only [mapBlocks, hlong, if_false, Option.bind_eq_some_iff, Option.map_eq_some_iff] at h
    obtain ⟨c, hc, rest, hrest, rfl⟩ := h
    obtain ⟨hcl, hgc⟩ := hfg (data.take n) c (by simp; omega) hc
    obtain ⟨hrl, hgr⟩ := ih (by simp; omega) hrest
    refine ⟨by simp [hcl, hrl, Nat.mul_succ, Nat.add_comm], ?_⟩
    have htake : (c ++ rest).take n = c := by simp [← hcl]
    have hdrop : (c ++ rest).drop n = rest := by simp [← hcl]
    have hlong' : ¬ (c ++ rest).length < n := by simp; omega
    simp only [mapBlocks, if_neg hlong', htake, hdrop, hgc, Option.bind_some, hgr, Option.map_some,
      List.take_append_drop]

/-- The blocks go through exactly when there are enough entries for them. -/
theorem mapBlocks_isSome_iff (hf : ∀ b, b.length = n → (f b).isSome) (count : ℕ)
    (data : List α) : (mapBlocks n f count data).isSome ↔ n * count ≤ data.length := by
  induction count generalizing data with
  | zero => simp [mapBlocks]
  | succ count ih =>
    rw [mapBlocks, Nat.mul_succ]
    by_cases hshort : data.length < n
    · simp [hshort]
      omega
    · rw [if_neg hshort]
      obtain ⟨c, hc⟩ := Option.isSome_iff_exists.mp (hf (data.take n) (by simp; omega))
      have := ih (data.drop n)
      simp only [hc, Option.bind_some, Option.isSome_map, this, List.length_drop]
      omega

end Blocks

section Streams

variable {K B : Type} (mask : K → B → B) (next : K → B → K)

/-- Each entry is masked with the key, and what comes out moves the key on. -/
def encodeStream : K → List B → List B
  | _, [] => []
  | k, p :: ps => mask k p :: encodeStream (next k (mask k p)) ps

/-- Each entry is unmasked with the key, and what went in moves the key on. -/
def decodeStream : K → List B → List B
  | _, [] => []
  | k, c :: cs => mask k c :: decodeStream (next k c) cs

@[simp] theorem encodeStream_length (k : K) (ps : List B) :
    (encodeStream mask next k ps).length = ps.length := by
  induction ps generalizing k with
  | nil => rfl
  | cons p ps ih => simp [encodeStream, ih]

@[simp] theorem decodeStream_length (k : K) (cs : List B) :
    (decodeStream mask next k cs).length = cs.length := by
  induction cs generalizing k with
  | nil => rfl
  | cons c cs ih => simp [decodeStream, ih]

theorem decodeStream_take (k : K) (cs : List B) (n : ℕ) :
    (decodeStream mask next k cs).take n = decodeStream mask next k (cs.take n) := by
  induction cs generalizing k n with
  | nil => simp [decodeStream]
  | cons c cs ih =>
    cases n with
    | zero => rfl
    | succ n => simp [decodeStream, ih]

variable {mask next}

theorem decodeStream_encodeStream (hmask : ∀ k p, mask k (mask k p) = p) (k : K) (ps : List B) :
    decodeStream mask next k (encodeStream mask next k ps) = ps := by
  induction ps generalizing k with
  | nil => rfl
  | cons p ps ih => simp [encodeStream, decodeStream, hmask, ih]

end Streams

end Feistel
