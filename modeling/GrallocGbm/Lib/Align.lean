/-
  Rounding machine integers up to a power of two.

  `alignUp a b = (a + b - 1) & ~(b - 1)` is the usual C idiom, written once over any type that has
  the four operations, so that one definition serves the signed and the unsigned 32-bit type.
  The three parts below say what it computes:

  1. on bit vectors, `x & ~(2^k - 1)` clears the low `k` bits (`and_not_low`, `toNat_and_not_low`);
  2. on `Nat`, `roundUp m n` is the least multiple of `m` that is at least `n`;
  3. where `a + (2^k - 1)` does not wrap, `alignUp` on `UInt32` and on `Int32` is `roundUp`
     (`toNat_alignUp`, `toInt_alignUp`).

  The bound in 3 is about the sum only.  Clearing bits never overflows, so where the sum fits, the
  result is exact; where it does not, the result is a small number, and nothing is said about it
  here.  Both types go through the same lemma on bit vectors (`toNat_alignUp_bitVec`), since they
  are two readings of one.
-/
import Mathlib.Data.Nat.Bitwise

namespace Align

/-- `(a + b - 1) & ~(b - 1)`. -/
def alignUp {α : Type} [Add α] [Sub α] [AndOp α] [Complement α] [OfNat α 1] (a b : α) : α :=
  (a + b - 1) &&& ~~~(b - 1)

/-! ## Clearing the low bits of a bit vector -/

/-- The mask of the idiom clears the low bits: shift them out and back. -/
theorem and_not_low {w : Nat} (x : BitVec w) (k : Nat) :
    x &&& ~~~(BitVec.ofNat w (2 ^ k - 1)) = (x >>> k) <<< k := by
  apply BitVec.eq_of_getLsbD_eq
  intro i hi
  simp only [BitVec.getLsbD_and, BitVec.getLsbD_not, BitVec.getLsbD_ofNat,
    Nat.testBit_two_pow_sub_one, BitVec.getLsbD_shiftLeft, BitVec.getLsbD_ushiftRight, hi,
    decide_true, Bool.true_and]
  by_cases hik : i < k
  · simp [hik]
  · have hki : k + (i - k) = i := by omega
    simp [hik, hki]

/-- As a number: the largest multiple of `2^k` that is not above it. -/
theorem toNat_and_not_low {w : Nat} (x : BitVec w) (k : Nat) :
    (x &&& ~~~(BitVec.ofNat w (2 ^ k - 1))).toNat = x.toNat / 2 ^ k * 2 ^ k := by
  have hle : x.toNat / 2 ^ k * 2 ^ k ≤ x.toNat := Nat.div_mul_le_self _ _
  have hlt := x.isLt
  rw [and_not_low, BitVec.toNat_shiftLeft, BitVec.toNat_ushiftRight, Nat.shiftRight_eq_div_pow,
    Nat.shiftLeft_eq, Nat.mod_eq_of_lt (by omega)]

/-! ## Rounding up on `Nat` -/

/-- The least multiple of `m` that is at least `n` (for `0 < m`). -/
def roundUp (m n : Nat) : Nat := (n + (m - 1)) / m * m

/-- Rounding up does not make smaller, -/
theorem le_roundUp {m : Nat} (hm : 0 < m) (n : Nat) : n ≤ roundUp m n := by
  have h := Nat.lt_div_mul_add hm (a := n + (m - 1))
  unfold roundUp
  omega

/-- and adds less than the alignment. -/
theorem roundUp_lt {m : Nat} (hm : 0 < m) (n : Nat) : roundUp m n < n + m := by
  have h := Nat.div_mul_le_self (n + (m - 1)) m
  unfold roundUp
  omega

/-- A multiple of `m` is its own rounding. -/
theorem roundUp_of_dvd {m n : Nat} (hm : 0 < m) (h : m ∣ n) : roundUp m n = n := by
  obtain ⟨q, rfl⟩ := h
  have hq : (m * q + (m - 1)) / m = q := by
    rw [Nat.mul_add_div hm, Nat.div_eq_of_lt (by omega), Nat.add_zero]
  rw [roundUp, hq, Nat.mul_comm]

/-- The result is a multiple of the alignment. -/
theorem dvd_roundUp (m n : Nat) : m ∣ roundUp m n := Nat.dvd_mul_left m _

/-! ## `alignUp` on the 32-bit types -/

/-- The sum and the mask of `alignUp` on bit vectors, when the sum does not wrap. -/
theorem toNat_alignUp_bitVec (x : BitVec 32) {k : Nat} (hk : k < 32)
    (h : x.toNat + (2 ^ k - 1) < 2 ^ 32) :
    ((x + BitVec.ofNat 32 (2 ^ k) - 1) &&& ~~~(BitVec.ofNat 32 (2 ^ k) - 1)).toNat
      = roundUp (2 ^ k) x.toNat := by
  have hpos : 0 < 2 ^ k := Nat.two_pow_pos k
  have hlt : 2 ^ k < 2 ^ 32 := Nat.pow_lt_pow_right (by omega) hk
  have hone : (1 : BitVec 32).toNat = 1 := rfl
  have hmask : BitVec.ofNat 32 (2 ^ k) - 1 = BitVec.ofNat 32 (2 ^ k - 1) := by
    apply BitVec.eq_of_toNat_eq
    simp only [BitVec.toNat_sub, BitVec.toNat_ofNat]
    omega
  have hsum : (x + BitVec.ofNat 32 (2 ^ k) - 1).toNat = x.toNat + (2 ^ k - 1) := by
    simp only [BitVec.toNat_sub, BitVec.toNat_add, BitVec.toNat_ofNat]
    omega
  rw [hmask, toNat_and_not_low, hsum, roundUp]

/-- Unsigned: where the sum does not wrap, the idiom rounds up. -/
theorem toNat_alignUp (a : UInt32) {k : Nat} (hk : k < 32) (h : a.toNat + (2 ^ k - 1) < 2 ^ 32) :
    (alignUp a (UInt32.ofNat (2 ^ k))).toNat = roundUp (2 ^ k) a.toNat :=
  toNat_alignUp_bitVec a.toBitVec hk h

/-- Signed: the same, for what is not negative. -/
theorem toInt_alignUp (a : Int32) {k : Nat} (hk : k < 31) (ha : 0 ≤ a.toInt)
    (h : a.toInt + (2 ^ k - 1 : Nat) < 2 ^ 31) :
    (alignUp a (Int32.ofNat (2 ^ k))).toInt = roundUp (2 ^ k) a.toInt.toNat := by
  have hpos : 0 < 2 ^ k := Nat.two_pow_pos k
  have hnat : a.toInt = a.toBitVec.toNat := by
    have hlt := a.toBitVec.isLt
    have hdef : a.toInt = a.toBitVec.toInt := rfl
    rw [hdef, BitVec.toInt_eq_toNat_cond] at ha ⊢
    split at ha <;> omega
  have hbits : (alignUp a (Int32.ofNat (2 ^ k))).toBitVec.toNat = roundUp (2 ^ k) a.toInt.toNat := by
    rw [hnat, Int.toNat_natCast]
    exact toNat_alignUp_bitVec a.toBitVec (by omega) (by omega)
  have hmul : roundUp (2 ^ k) a.toInt.toNat ≤ a.toInt.toNat + (2 ^ k - 1) := by
    have := roundUp_lt hpos a.toInt.toNat
    omega
  have hdef : (alignUp a (Int32.ofNat (2 ^ k))).toInt
      = (alignUp a (Int32.ofNat (2 ^ k))).toBitVec.toInt := rfl
  rw [hdef, BitVec.toInt_eq_toNat_of_lt (by omega), hbits]

end Align
