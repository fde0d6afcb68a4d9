import Mathlib.Algebra.Order.Ring.Nat
import Mathlib.Data.Nat.Bitwise
import Mathlib.Logic.Function.Iterate
import KoServer.Lib.Bytes

/-! Reflected cyclic redundancy checks with a register of any width. The register
is clocked once per bit. Everything about bursts follows from two facts on one
clock: it is linear over xor, and it is injective when the top bit of the
polynomial is set. -/

namespace Crc

variable {w : ℕ}

def bitStep (poly s : BitVec w) : BitVec w :=
  if s.getLsbD 0 then (s >>> 1) ^^^ poly else s >>> 1

theorem bitStep_xor (poly a b : BitVec w) :
    bitStep poly (a ^^^ b) = bitStep poly a ^^^ bitStep poly b := by
  ext i hi
  cases ha : a.getLsbD 0 <;> cases hb : b.getLsbD 0 <;>
    simp [bitStep, ha, hb, Bool.xor_comm, Bool.xor_left_comm]

@[simp] theorem bitStep_zero (poly : BitVec w) : bitStep poly 0#w = 0#w := by
  simp [bitStep]

/-- A register whose lowest bit is clear is only shifted. -/
theorem bitStep_even (poly s : BitVec w) (h : s.getLsbD 0 = false) :
    bitStep poly s = s >>> 1 := by
  simp [bitStep, h]

/-- The top bit of the polynomial remembers the bit shifted out, so nothing but
zero is clocked to zero. -/
theorem eq_zero_of_bitStep (poly s : BitVec w) (hp : poly.msb = true)
    (h : bitStep poly s = 0#w) : s = 0#w := by
  cases h0 : s.getLsbD 0 with
  | true =>
    have ht : (bitStep poly s).msb = true := by
      rcases Nat.eq_zero_or_pos w with rfl | hw
      · simp at h0
      · simp [bitStep, h0, hp]
    simp [h] at ht
  | false =>
    rw [bitStep_even poly s h0] at h
    ext i hi
    cases i with
    | zero => simpa [BitVec.getLsbD_eq_getElem hi] using h0
    | succ i =>
      have := congrArg (fun v => v.getLsbD i) h
      simpa [Nat.add_comm 1 i, BitVec.getLsbD_eq_getElem hi] using this

/-- The register after `n` clocks. -/
def clock (poly : BitVec w) (n : ℕ) (s : BitVec w) : BitVec w := (bitStep poly)^[n] s

@[simp] theorem clock_zero (poly s : BitVec w) : clock poly 0 s = s := rfl

theorem clock_succ (poly s : BitVec w) (n : ℕ) :
    clock poly (n + 1) s = clock poly n (bitStep poly s) := rfl

theorem clock_add (poly s : BitVec w) (m n : ℕ) :
    clock poly (m + n) s = clock poly m (clock poly n s) :=
  Function.iterate_add_apply _ m n s

theorem clock_xor (poly a b : BitVec w) (n : ℕ) :
    clock poly n (a ^^^ b) = clock poly n a ^^^ clock poly n b := by
  induction n generalizing a b with
  | zero => rfl
  | succ n ih => rw [clock_succ, clock_succ, clock_succ, bitStep_xor, ih]

@[simp] theorem clock_of_zero (poly : BitVec w) (n : ℕ) : clock poly n 0#w = 0#w := by
  induction n with
  | zero => rfl
  | succ n ih => rw [clock_succ, bitStep_zero, ih]

theorem eq_zero_of_clock (poly s : BitVec w) (hp : poly.msb = true) (n : ℕ)
    (h : clock poly n s = 0#w) : s = 0#w := by
  induction n generalizing s with
  | zero => exact h
  | succ n ih => exact eq_zero_of_bitStep poly s hp (ih _ h)

/-- `n` clocks only shift a register whose `n` lowest bits are clear. -/
theorem clock_low_zero (poly s : BitVec w) (n : ℕ) (h : ∀ i < n, s.getLsbD i = false) :
    clock poly n s = s >>> n := by
  induction n generalizing s with
  | zero => simp
  | succ n ih =>
    rw [clock_succ, bitStep_even poly s (h 0 (Nat.succ_pos n)), ih]
    · ext i hi
      simp [Nat.add_assoc, Nat.add_left_comm 1 n i]
    · intro i hi
      simpa [Nat.add_comm] using h (i + 1) (by omega)

/-- Splitting off the `n` lowest bits, which are all that the polynomial sees. -/
theorem clock_split (poly s : BitVec w) (n : ℕ) :
    clock poly n s = clock poly n (s &&& BitVec.ofNat w (2 ^ n - 1)) ^^^ (s >>> n) := by
  have hlow (i : ℕ) : (BitVec.ofNat w (2 ^ n - 1)).getLsbD i = (decide (i < w) && decide (i < n)) := by
    rw [BitVec.getLsbD_ofNat, Nat.testBit_two_pow_sub_one]
  set low := s &&& BitVec.ofNat w (2 ^ n - 1)
  have hs : s = low ^^^ (low ^^^ s) := by
    rw [← BitVec.xor_assoc, BitVec.xor_self, BitVec.zero_xor]
  have hbits : ∀ i < n, (low ^^^ s).getLsbD i = false := by
    intro i hi
    by_cases hw : i < w
    · simp only [low, BitVec.getLsbD_xor, BitVec.getLsbD_and, hlow, hw, hi, decide_true,
        Bool.and_true, Bool.xor_self]
    · simp [BitVec.getLsbD_of_ge _ _ (Nat.le_of_not_lt hw)]
  calc clock poly n s = clock poly n (low ^^^ (low ^^^ s)) := by rw [← hs]
    _ = clock poly n low ^^^ (low ^^^ s) >>> n := by
        rw [clock_xor, clock_low_zero poly _ n hbits]
    _ = clock poly n low ^^^ s >>> n := by
        congr 1
        ext i hi
        simp only [BitVec.getElem_ushiftRight, BitVec.getLsbD_xor, low, BitVec.getLsbD_and, hlow]
        simp

def ofByte (b : UInt8) : BitVec w := b.toBitVec.setWidth w

@[simp] theorem ofByte_zero : (ofByte 0 : BitVec w) = 0#w := by
  simp [ofByte]

theorem ofByte_xor (a b : UInt8) : (ofByte (a ^^^ b) : BitVec w) = ofByte a ^^^ ofByte b := by
  simp [ofByte]

/-- Feeding one byte: xor it in, then clock eight times. -/
def byteStep (poly s : BitVec w) (b : UInt8) : BitVec w := clock poly 8 (s ^^^ ofByte b)

def feed (poly s : BitVec w) (bs : List UInt8) : BitVec w := bs.foldl (byteStep poly) s

@[simp] theorem feed_nil (poly s : BitVec w) : feed poly s [] = s := rfl

@[simp] theorem feed_cons (poly s : BitVec w) (b : UInt8) (bs : List UInt8) :
    feed poly s (b :: bs) = feed poly (byteStep poly s b) bs := rfl

theorem feed_append (poly s : BitVec w) (xs ys : List UInt8) :
    feed poly s (xs ++ ys) = feed poly (feed poly s xs) ys := List.foldl_append

/-- Linearity: an error pattern changes the register by its own checksum. -/
theorem feed_xor (poly s t : BitVec w) (xs es : List UInt8) (h : xs.length = es.length) :
    feed poly (s ^^^ t) (List.zipWith (· ^^^ ·) xs es) = feed poly s xs ^^^ feed poly t es := by
  induction xs generalizing s t es with
  | nil =>
    obtain rfl := List.eq_nil_of_length_eq_zero h.symm
    rfl
  | cons x xs ih =>
    cases es with
    | nil => simp at h
    | cons e es =>
      have hstep : byteStep poly (s ^^^ t) (x ^^^ e) = byteStep poly s x ^^^ byteStep poly t e := by
        rw [byteStep, byteStep, byteStep, ← clock_xor, ofByte_xor]
        congr 1
        ac_rfl
      simp only [List.zipWith_cons_cons, feed_cons, hstep]
      exact ih _ _ es (by simpa using h)

theorem feed_zeros (poly s : BitVec w) (n : ℕ) :
    feed poly s (List.replicate n 0) = clock poly (8 * n) s := by
  induction n generalizing s with
  | zero => rfl
  | succ n ih =>
    rw [List.replicate_succ, feed_cons, ih, byteStep, ofByte_zero, BitVec.xor_zero,
      Nat.mul_succ, clock_add]

def word : List UInt8 → BitVec w
  | [] => 0#w
  | b :: bs => ofByte b ^^^ (word bs <<< 8)

theorem word_eq_value (bs : List UInt8) : (word bs : BitVec w) = BitVec.ofNat w (Bytes.value bs) := by
  induction bs with
  | nil => rfl
  | cons b bs ih =>
    apply BitVec.eq_of_getLsbD_eq
    intro i hi
    rw [BitVec.getLsbD_ofNat, Bytes.value_cons_testBit, word, ih, BitVec.getLsbD_xor,
      BitVec.getLsbD_shiftLeft, BitVec.getLsbD_ofNat, ofByte, BitVec.getLsbD_setWidth]
    by_cases h8 : i < 8
    · simp [hi, h8, BitVec.getLsbD]
    · have hb : b.toBitVec.getLsbD i = false := BitVec.getLsbD_of_ge _ _ (by omega)
      simp [hi, h8, hb, show i - 8 < w by omega]

theorem word_high (bs : List UInt8) (i : ℕ) (hi : 8 * bs.length ≤ i) :
    (word bs : BitVec w).getLsbD i = false := by
  induction bs generalizing i with
  | nil => simp [word]
  | cons b bs ih =>
    rw [List.length_cons] at hi
    have hb : b.toBitVec.getLsbD i = false := BitVec.getLsbD_of_ge _ _ (by omega)
    simp [word, ofByte, hb, ih (i - 8) (by omega)]

/-- Feeding a string that fits in the register is xoring its word in and clocking
through it: no bit of it has met the polynomial before all have arrived. -/
theorem feed_eq_clock (poly s : BitVec w) (bs : List UInt8) (h : 8 * bs.length ≤ w) :
    feed poly s bs = clock poly (8 * bs.length) (s ^^^ word bs) := by
  induction bs generalizing s with
  | nil => simp [word]
  | cons b bs ih =>
    rw [List.length_cons] at h
    have hshift : clock poly 8 (word bs <<< 8) = (word bs : BitVec w) := by
      rw [clock_low_zero _ _ 8 (by intro i hi; simp; omega)]
      ext i hi
      by_cases h8 : 8 + i < w
      · simp [h8]
      · have := word_high (w := w) bs i (by omega)
        simp [h8, ← BitVec.getLsbD_eq_getElem hi, this]
    rw [feed_cons, ih _ (by omega), List.length_cons, Nat.mul_succ, clock_add, byteStep]
    congr 1
    rw [word, ← BitVec.xor_assoc, clock_xor poly (s ^^^ ofByte b), hshift]

theorem eq_zero_of_word (bs : List UInt8) (h : 8 * bs.length ≤ w)
    (hz : (word bs : BitVec w) = 0#w) : ∀ b ∈ bs, b = 0 := by
  induction bs with
  | nil => simp
  | cons b bs ih =>
    rw [List.length_cons] at h
    have hbit (i : ℕ) : (word (b :: bs) : BitVec w).getLsbD i = false := by simp [hz]
    have hb : b = 0 := by
      apply UInt8.toBitVec_inj.mp
      ext i hi
      have := hbit i
      simpa [word, ofByte, hi, show i < w by omega, BitVec.getLsbD_eq_getElem hi] using this
    have hbs : (word bs : BitVec w) = 0#w := by
      ext i hi
      by_cases h8 : 8 + i < w
      · have := hbit (8 + i)
        simpa [word, hb, h8, BitVec.getLsbD_eq_getElem hi] using this
      · rw [← BitVec.getLsbD_eq_getElem hi, word_high bs i (by omega)]
        simp
    simpa [hb] using ih (by omega) hbs

/-- A burst no longer than the register, anywhere in an otherwise clean string,
leaves a non-zero register. -/
theorem feed_burst_ne_zero (poly : BitVec w) (hp : poly.msb = true) (m n : ℕ)
    (burst : List UInt8) (hlen : 8 * burst.length ≤ w) (hne : ∃ b ∈ burst, b ≠ 0) :
    feed poly 0#w (List.replicate m 0 ++ burst ++ List.replicate n 0) ≠ 0#w := by
  obtain ⟨b, hb, hb0⟩ := hne
  intro h
  rw [feed_append, feed_append, feed_zeros, feed_zeros, clock_of_zero,
    feed_eq_clock poly _ burst hlen, BitVec.zero_xor, ← clock_add] at h
  exact hb0 (eq_zero_of_word burst hlen (eq_zero_of_clock poly _ hp _ h) b hb)

/-- The same, for an error pattern given by the window its non-zero bytes lie in. -/
theorem feed_window_ne_zero (poly : BitVec w) (hp : poly.msb = true) (err : List UInt8)
    (i k : ℕ) (hk : 8 * k ≤ w) (hwindow : ∀ j, err.getD j 0 ≠ 0 → i ≤ j ∧ j < i + k)
    (hne : ∃ b ∈ err, b ≠ 0) : feed poly 0#w err ≠ 0#w := by
  have hzero (l : List UInt8) (h : ∀ b ∈ l, b = 0) : l = List.replicate l.length 0 :=
    List.eq_replicate_of_mem h
  have hbefore : ∀ b ∈ err.take i, b = 0 := by
    intro b hb
    obtain ⟨j, hj, rfl⟩ := List.mem_iff_getElem.mp hb
    by_contra h
    rw [List.length_take] at hj
    have := hwindow j (by simpa [List.getD_eq_getElem?_getD, show j < err.length by omega] using h)
    omega
  have hafter : ∀ b ∈ err.drop (i + k), b = 0 := by
    intro b hb
    obtain ⟨j, hj, rfl⟩ := List.mem_iff_getElem.mp hb
    by_contra h
    rw [List.length_drop] at hj
    have := hwindow (i + k + j)
      (by simpa [List.getD_eq_getElem?_getD, show i + k + j < err.length by omega] using h)
    omega
  have hsplit : err = err.take i ++ (err.drop i).take k ++ err.drop (i + k) := by
    rw [List.append_assoc, ← List.drop_drop, List.take_append_drop, List.take_append_drop]
  rw [hsplit, hzero _ hbefore, hzero _ hafter]
  refine feed_burst_ne_zero poly hp _ _ _ ?_ ?_
  · have := List.length_take_le k (err.drop i)
    omega
  · obtain ⟨b, hb, hb0⟩ := hne
    rw [hsplit, List.mem_append, List.mem_append] at hb
    rcases hb with (hb | hb) | hb
    · exact absurd (hbefore b hb) hb0
    · exact ⟨b, hb, hb0⟩
    · exact absurd (hafter b hb) hb0

/-- Appending a trailer of the register's own width clears the register exactly
when the trailer is the register. -/
theorem feed_trailer (poly s : BitVec w) (hp : poly.msb = true) (ys : List UInt8)
    (hlen : 8 * ys.length ≤ w) : feed poly s ys = 0#w ↔ s = word ys := by
  rw [feed_eq_clock poly s ys hlen]
  constructor
  · intro h
    exact BitVec.xor_eq_zero_iff.mp (eq_zero_of_clock poly _ hp _ h)
  · rintro rfl
    rw [BitVec.xor_self, clock_of_zero]

end Crc
