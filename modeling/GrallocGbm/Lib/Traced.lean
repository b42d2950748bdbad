/-
  Computations over a block of words, with the words they have read.

  A program that reads memory is written twice: once as a function of what the memory holds, and
  once as a `Traced` computation, in which every read is a step of its own.  That the second has the
  first as its `value` says that the trace is the trace of this program, and `Within` bounds what it
  reads.

  The point of the second form is what the first cannot say.  A function of the memory depends on
  the words that decide its result; the program may touch others on the way, and a read outside a
  block is a fault whether or not anything comes of it.

  * `value_bind`, `value_read`, … — the value, step by step;
  * `within_bind`, `within_read`, … — the reads, step by step: a sequence keeps to `P` exactly if
    its first part does, and the second does on the value of the first.

  All of them are `simp` lemmas: a program written with `do` is taken apart by `simp` alone, and
  what is left is the bound on each index.

  Indices and words are of any type, so that a trace can also be of something else than reads;
  `SignedSteps` takes for it the results of arithmetic.
-/
import Mathlib.Logic.Basic

/-- A computation: its result, and the indices of the words it has read, in order. -/
structure Traced (ι α : Type) where
  value : α
  reads : List ι

namespace Traced

variable {ι α β : Type}

instance : Monad (Traced ι) where
  pure a := ⟨a, []⟩
  bind x f := ⟨(f x.value).value, x.reads ++ (f x.value).reads⟩

/-- Read word `i` of the memory `f`. -/
def read (f : ι → α) (i : ι) : Traced ι α := ⟨f i, [i]⟩

/-- Read the words `is`, one after the other. -/
def readAll (f : ι → α) (is : List ι) : Traced ι (List α) := ⟨is.map f, is⟩

/-! ## Values -/

/-- The value of each kind of step. -/
@[simp] theorem value_pure (a : α) : (pure a : Traced ι α).value = a := rfl

@[simp] theorem value_bind (x : Traced ι α) (f : α → Traced ι β) :
    (x >>= f).value = (f x.value).value := rfl

@[simp] theorem value_read (f : ι → α) (i : ι) : (read f i).value = f i := rfl

@[simp] theorem value_readAll (f : ι → α) (is : List ι) : (readAll f is).value = is.map f := rfl

@[simp] theorem value_ite (c : Prop) [Decidable c] (x y : Traced ι α) :
    (if c then x else y).value = if c then x.value else y.value := apply_ite value c x y

/-! ## Reads -/

/-- Every word read satisfies `P`. -/
def Within (P : ι → Prop) (x : Traced ι α) : Prop := ∀ i ∈ x.reads, P i

variable {P : ι → Prop}

/-- A sequence reads what its parts read, one after the other. -/
@[simp] theorem reads_bind (x : Traced ι α) (f : α → Traced ι β) :
    (x >>= f).reads = x.reads ++ (f x.value).reads := rfl

/-- The bound, for each kind of step. -/
@[simp] theorem within_pure (a : α) : Within P (pure a : Traced ι α) :=
  fun _ h => absurd h List.not_mem_nil

@[simp] theorem within_bind {x : Traced ι α} {f : α → Traced ι β} :
    Within P (x >>= f) ↔ Within P x ∧ Within P (f x.value) := by
  simp only [Within, reads_bind, List.mem_append, or_imp, forall_and]

@[simp] theorem within_read {f : ι → α} {i : ι} : Within P (read f i) ↔ P i := by
  simp only [Within, read, List.mem_singleton, forall_eq]

@[simp] theorem within_readAll {f : ι → α} {is : List ι} :
    Within P (readAll f is) ↔ ∀ i ∈ is, P i := Iff.rfl

end Traced
