/-
  Signed 32-bit arithmetic, operation by operation.

  Overflow of an `int` is undefined in C, so that a value comes out right is not enough: no
  operation on the way may leave the range.  A computation is written as a `Traced` one whose trace
  is the exact integer each operation has for result; `Within Fits` then says that none overflows,
  and the `value` is the machine's.  Where an operation fits, the machine's result is the exact one
  (`toInt_add`, …).

  `~` and `&` cannot overflow, and comparisons neither: they are not operations of the trace.

  Division is towards zero, as in C.  It leaves the range in one case, the least number by minus
  one; division by zero is not an overflow, and a program that may divide by zero must say so
  elsewhere.

  Of the operations of an alignment only the sum can overflow, so long as neither number is negative
  and the alignment is not zero (`alignUp_fits`).
-/
import GrallocGbm.Lib.Align
import GrallocGbm.Lib.Traced

namespace SignedSteps

/-- The integers of an `int32_t`. -/
def Fits (z : Int) : Prop := -2 ^ 31 ≤ z ∧ z < 2 ^ 31

/-- `a + b` and `a - b`. -/
def add (a b : Int32) : Traced Int Int32 := ⟨a + b, [a.toInt + b.toInt]⟩

/-- Subtraction, with its exact result. -/
def sub (a b : Int32) : Traced Int Int32 := ⟨a - b, [a.toInt - b.toInt]⟩

/-- Division, towards zero. -/
def div (a b : Int32) : Traced Int Int32 := ⟨a / b, [a.toInt.tdiv b.toInt]⟩

section

variable {a b : Int32}

/-- The values, which are those of the machine. -/
@[simp] theorem value_add : (add a b).value = a + b := rfl
@[simp] theorem value_div : (div a b).value = a / b := rfl

/-- The trace of one operation is its exact result. -/
@[simp] theorem within_add {P : Int → Prop} : (add a b).Within P ↔ P (a.toInt + b.toInt) := by
  simp [add, Traced.Within]

@[simp] theorem within_sub {P : Int → Prop} : (sub a b).Within P ↔ P (a.toInt - b.toInt) := by
  simp [sub, Traced.Within]

@[simp] theorem within_div {P : Int → Prop} : (div a b).Within P ↔ P (a.toInt.tdiv b.toInt) := by
  simp [div, Traced.Within]

/-- A sum that fits is the exact one. -/
theorem toInt_add (h : Fits (a.toInt + b.toInt)) : (a + b).toInt = a.toInt + b.toInt := by
  obtain ⟨hlow, hupp⟩ := h
  rw [Int32.toInt_add, Int.bmod_eq_of_le (by omega) (by omega)]

/-- Halving fits whatever is halved. -/
theorem fits_tdiv_two (a : Int32) : Fits (a.toInt.tdiv 2) := by
  have hlow := a.le_toInt
  have hupp := a.toInt_lt
  have habs : (a.toInt.tdiv 2).natAbs = a.toInt.natAbs / 2 := Int.natAbs_tdiv a.toInt 2
  constructor <;> omega

end

/-! ## Aligning

  A sum, a difference and a mask, of which the first can leave the range. -/

/-- `ALIGN(a, b)`, operation by operation. -/
def alignUp (a b : Int32) : Traced Int Int32 := do
  let sum ← add a b
  let top ← sub sum 1
  let low ← sub b 1
  pure (top &&& ~~~low)

/-- Operation by operation, the same value. -/
@[simp] theorem value_alignUp (a b : Int32) : (alignUp a b).value = Align.alignUp a b := rfl

/-- Only the sum can leave the range. -/
theorem alignUp_fits {a b : Int32} (ha : 0 ≤ a.toInt) (hb : 1 ≤ b.toInt)
    (h : a.toInt + b.toInt < 2 ^ 31) : (alignUp a b).Within Fits := by
  have hone : (1 : Int32).toInt = 1 := rfl
  have hsum : Fits (a.toInt + b.toInt) := ⟨by omega, h⟩
  have htop : Fits ((a + b).toInt - (1 : Int32).toInt) := by
    rw [toInt_add hsum, hone]
    exact ⟨by omega, by omega⟩
  have hlow : Fits (b.toInt - (1 : Int32).toInt) := by
    rw [hone]
    exact ⟨by omega, by omega⟩
  unfold alignUp
  simp only [Traced.within_bind, within_add, within_sub, value_add, Traced.within_pure, and_true]
  exact ⟨hsum, htop, hlow⟩

end SignedSteps
