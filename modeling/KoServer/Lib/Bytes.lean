import Mathlib.Data.Nat.Bitwise
import Mathlib.Tactic.Ring

/-! Little-endian byte strings of natural numbers. -/

namespace Bytes

/-- The `k` lowest bytes of `n`, lowest first. -/
def le : ℕ → ℕ → List UInt8
  | 0, _ => []
  | k + 1, n => UInt8.ofNat n :: le k (n / 256)

/-- The number a byte string spells, lowest byte first. -/
def value : List UInt8 → ℕ
  | [] => 0
  | b :: bs => b.toNat + 256 * value bs

@[simp] theorem le_length (k n : ℕ) : (le k n).length = k := by
  induction k generalizing n with
  | zero => rfl
  | succ k ih => simp [le, ih]

theorem value_le (k n : ℕ) : value (le k n) = n % 256 ^ k := by
  induction k generalizing n with
  | zero => simp [le, value, Nat.mod_one]
  | succ k ih =>
    have hdigit : (UInt8.ofNat n).toNat = n % 256 := by simp
    rw [le, value, ih, hdigit, pow_succ', Nat.mod_mul]

theorem value_le_of_lt (k n : ℕ) (h : n < 256 ^ k) : value (le k n) = n := by
  rw [value_le, Nat.mod_eq_of_lt h]

theorem le_value (bs : List UInt8) : le bs.length (value bs) = bs := by
  induction bs with
  | nil => rfl
  | cons b bs ih =>
    have hb := b.toNat_lt
    have hrest : (b.toNat + 256 * value bs) / 256 = value bs := by omega
    have hbyte : UInt8.ofNat (b.toNat + 256 * value bs) = b := by
      apply UInt8.toNat_inj.mp
      simp
    rw [List.length_cons, value, le, hbyte, hrest, ih]

theorem value_lt (bs : List UInt8) : value bs < 256 ^ bs.length := by
  induction bs with
  | nil => simp [value]
  | cons b bs ih =>
    have hb := b.toNat_lt
    rw [value, List.length_cons, pow_succ']
    omega

/-- Bit `i` of the number is bit `i % 8` of byte `i / 8`; stated one byte at a time. -/
theorem value_cons_testBit (b : UInt8) (bs : List UInt8) (i : ℕ) :
    (value (b :: bs)).testBit i = if i < 8 then b.toNat.testBit i else (value bs).testBit (i - 8) := by
  have := Nat.testBit_two_pow_mul_add (value bs) (b.toNat_lt : b.toNat < 2 ^ 8) i
  rw [value, Nat.add_comm]
  simpa using this

end Bytes
